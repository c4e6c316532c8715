import ApiRecovery.Classification.Alias
import ApiRecovery.Classification.Basic
import ApiRecovery.Classification.Scoring
import ApiRecovery.CommandLine.Command
import ApiRecovery.CommandLine.Options
import ApiRecovery.CommandLine.Run
import ApiRecovery.Corpus.Basic
import ApiRecovery.Corpus.Declares
import ApiRecovery.Corpus.PackageLine
import ApiRecovery.Corpus.Resolve
import ApiRecovery.Detection.Choices
import ApiRecovery.Detection.Detector
import ApiRecovery.Detection.Network
import ApiRecovery.Detection.Probe
import ApiRecovery.Failure
import ApiRecovery.Files.Basic
import ApiRecovery.Files.Change
import ApiRecovery.Files.JavaFiles
import ApiRecovery.Java.Declaration
import ApiRecovery.Java.Declaration.OfTree
import ApiRecovery.Java.Escape
import ApiRecovery.Java.Grammar
import ApiRecovery.Java.Literal
import ApiRecovery.Java.Parser
import ApiRecovery.Java.Rule
import ApiRecovery.Java.Source
import ApiRecovery.Java.Token
import ApiRecovery.Java.Token.Lexer
import ApiRecovery.Java.Tree
import ApiRecovery.Java.TypeRef
import ApiRecovery.Main
import ApiRecovery.Naming
import ApiRecovery.Number.Binary64
import ApiRecovery.OpenApi.Document
import ApiRecovery.OpenApi.Draft
import ApiRecovery.OpenApi.Form
import ApiRecovery.Path
import ApiRecovery.Proofs.Classification.BestMatches
import ApiRecovery.Proofs.Classification.Casts
import ApiRecovery.Proofs.Corpus.OwnNames
import ApiRecovery.Proofs.Corpus.PackageAgreement
import ApiRecovery.Proofs.Corpus.PackageReadings
import ApiRecovery.Proofs.Corpus.QualifiedNames
import ApiRecovery.Proofs.Corpus.Scoping
import ApiRecovery.Proofs.Detection.Acceptance
import ApiRecovery.Proofs.Detection.Assignment
import ApiRecovery.Proofs.Detection.Garbage
import ApiRecovery.Proofs.Detection.Garbling
import ApiRecovery.Proofs.Detection.Trials
import ApiRecovery.Proofs.Detection.Visits
import ApiRecovery.Proofs.Java.CodeUnits
import ApiRecovery.Proofs.Java.DeclaredNames
import ApiRecovery.Proofs.Java.Derivation
import ApiRecovery.Proofs.Java.IndexPaths
import ApiRecovery.Proofs.Java.NodeShapes
import ApiRecovery.Proofs.Java.Spellings
import ApiRecovery.Proofs.Java.StringLiterals
import ApiRecovery.Proofs.Java.Tokens
import ApiRecovery.Proofs.OpenApi.Operations
import ApiRecovery.Proofs.OpenApi.Order
import ApiRecovery.Proofs.OpenApi.ParameterPlaces
import ApiRecovery.Proofs.OpenApi.References
import ApiRecovery.Proofs.Retrofit.ApiFiles
import ApiRecovery.Proofs.Retrofit.Arrangement
import ApiRecovery.Proofs.Retrofit.Attribution
import ApiRecovery.Proofs.Schema.ClosedType
import ApiRecovery.Proofs.Schema.Closure
import ApiRecovery.Proofs.Schema.DistinctForms
import ApiRecovery.Proofs.Schema.Effects
import ApiRecovery.Proofs.Schema.Machine
import ApiRecovery.Proofs.Schema.Numbering
import ApiRecovery.Proofs.Schema.Passes
import ApiRecovery.Proofs.Schema.Patching
import ApiRecovery.Proofs.Schema.Paths
import ApiRecovery.Proofs.Schema.PropertyNames
import ApiRecovery.Proofs.Schema.References
import ApiRecovery.Proofs.Schema.Registrations
import ApiRecovery.Proofs.Schema.Registry
import ApiRecovery.Proofs.Schema.Renumbering
import ApiRecovery.Proofs.Schema.Run
import ApiRecovery.Proofs.Schema.Settled
import ApiRecovery.Proofs.Schema.Substitution
import ApiRecovery.Proofs.Schema.Supertypes
import ApiRecovery.Proofs.Schema.TypeVariables
import ApiRecovery.Proofs.Schema.Wrappers
import ApiRecovery.Proofs.Url.Ranking
import ApiRecovery.Proofs.Value.JsonTexts
import ApiRecovery.Retrofit.Annotations
import ApiRecovery.Retrofit.Endpoint
import ApiRecovery.Retrofit.HttpMethod
import ApiRecovery.Retrofit.Locate
import ApiRecovery.Schema.Basic
import ApiRecovery.Schema.Environment
import ApiRecovery.Schema.Form
import ApiRecovery.Schema.Generator
import ApiRecovery.Schema.Plan
import ApiRecovery.Schema.Registry
import ApiRecovery.Schema.Resolve
import ApiRecovery.Signature.Basic
import ApiRecovery.Signature.Catalogue
import ApiRecovery.Text.Blank
import ApiRecovery.Text.CombiningClass
import ApiRecovery.Text.Composition
import ApiRecovery.Text.Digits
import ApiRecovery.Text.Direction
import ApiRecovery.Text.IdentifierChars
import ApiRecovery.Text.Joining
import ApiRecovery.Text.LetterCase
import ApiRecovery.Text.Marks
import ApiRecovery.Text.Order
import ApiRecovery.Text.Pattern
import ApiRecovery.Text.Ranges
import ApiRecovery.Text.Search
import ApiRecovery.Text.Utf8
import ApiRecovery.Text.WordChars
import ApiRecovery.Url.Domain
import ApiRecovery.Url.Domain.Labels
import ApiRecovery.Url.Domain.Mapping
import ApiRecovery.Url.Domain.Punycode
import ApiRecovery.Url.Host
import ApiRecovery.Url.Ipv4
import ApiRecovery.Url.Ipv6
import ApiRecovery.Url.Percent
import ApiRecovery.Url.Ranking
import ApiRecovery.Url.Score
import ApiRecovery.Value.Basic
import ApiRecovery.Value.Json
import ApiRecovery.Value.Yaml
import ApiRecovery.Value.Yaml.Implicit
import ApiRecovery.Value.Yaml.Scalar
import ApiRecovery.Proofs.Detection.Garbling
