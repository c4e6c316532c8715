import ApiRecovery.Classification.Alias
import ApiRecovery.Classification.Scoring
import ApiRecovery.CommandLine.Command
import ApiRecovery.Detection.Detector
import ApiRecovery.Files.Change
import ApiRecovery.Files.JavaFiles
import ApiRecovery.OpenApi.Draft
import ApiRecovery.Retrofit.Locate

/-!
# Running a command

A command is run on a file system and a network. The outcome is what it prints, why it failed, if it
did, and the file system afterwards.
-/

namespace ApiRecovery.CommandLine

inductive RunError
  | missingDirectory (path : String)
  | notDirectory (path : String)
  | noJavaFiles (path : String)
  | noEndpoints (path : String)
  | cannotMakeDirectory (path : String) (cause : FileError)
  | cannotWrite (path : String) (cause : FileError)
  deriving DecidableEq, Repr

def RunError.message : RunError → String
  | missingDirectory path => "App directory does not exist: " ++ path
  | notDirectory path => "App directory is not a directory: " ++ path
  | noJavaFiles path => "No Java files found in " ++ path
  | noEndpoints path => "No endpoints found in " ++ path
  | cannotMakeDirectory path cause =>
    "Failed to create directory: " ++ path ++ ": " ++ cause.message
  | cannotWrite path cause => "Failed to write to file: " ++ path ++ ": " ++ cause.message

structure World where
  files : FileSystem
  network : Network
  choices : Choices := {}

structure Outcome where
  stdout : String := ""
  stderr : String := ""
  failure : Option RunError := none
  files : FileSystem

/-- The title of an application: the name of its directory, without `sources` at the end. -/
def title (files : FileSystem) (path : String) : String :=
  let names : List String := match files.canonical path with
    | .ok names => names
    | .error _ => (Path.components path).filterMap fun
      | .normal name => some name
      | _ => none
  ((names.reverse.find? fun name => name != "sources").getD "app") ++ " (retrofit)"

def writeDocument (files : FileSystem) (path text : String) : Except RunError FileSystem := do
  let files ← match Path.parent? path with
    | none => .ok files
    | some outer =>
      match files.makeDirectories outer with
      | .ok files => .ok files
      | .error e => .error (.cannotMakeDirectory outer e)
  match files.write path (Text.Utf8.encode text.toList) with
  | .ok files => .ok files
  | .error e => .error (.cannotWrite path e)

def loadCorpus (files : FileSystem) (path : String) : Except RunError Corpus :=
  match (files.scan path).files with
  | [] => .error (.noJavaFiles path)
  | found => .ok (.ofSources (files.sources found))

structure Analysis where
  sources : Sources
  annotations : AnnotationSet

def analyze (corpus : Corpus) : Analysis where
  sources := { corpus, classification := corpus.withAliases corpus.classify }
  annotations := corpus.locateAnnotations.toOption.getD .wellKnown

namespace Analysis

def endpoints (a : Analysis) : List Endpoint :=
  a.sources.corpus.endpoints a.annotations (a.sources.corpus.apiFiles a.annotations)

def render (a : Analysis) : String :=
  a.sources.classification.render ++ a.annotations.render

def document (a : Analysis) (info : OpenApi.Info) (endpoints : List Endpoint) : OpenApi.Document :=
  (endpoints.foldl (fun draft e => draft.add a.sources e) { info := info : OpenApi.Draft }).finish
    a.sources

end Analysis

def withServers (w : World) (corpus : Corpus) (document : OpenApi.Document) : OpenApi.Document :=
  ((Detector.ofCandidates corpus.urls w.choices).detect w.network document).2.1

def runExtraction (w : World) (e : Extraction) : Outcome :=
  match loadCorpus w.files e.appDirectory with
  | .error failure => { failure := some failure, files := w.files }
  | .ok corpus =>
    let a := analyze corpus
    let stderr := if e.showTypes then a.render else ""
    match a.endpoints with
    | [] => { stderr, failure := some (.noEndpoints e.appDirectory), files := w.files }
    | endpoints =>
      let info : OpenApi.Info :=
        { OpenApi.Info.standard with title := e.title.getD (title w.files e.appDirectory) }
      let document := a.document info endpoints
      let document := if e.detectServers then withServers w corpus document else document
      let text := document.render e.format
      match e.output with
      | none => { stdout := text ++ "\n", stderr, files := w.files }
      | some path =>
        match writeDocument w.files path text with
        | .ok files => { stderr, files }
        | .error failure => { stderr, failure := some failure, files := w.files }

def runListing (w : World) (l : Listing) : Outcome :=
  match loadCorpus w.files l.appDirectory with
  | .error failure => { failure := some failure, files := w.files }
  | .ok corpus =>
    let urls := if l.all then corpus.urls else corpus.probableUrls
    { stdout := String.join (urls.map fun u => u.url ++ "\n"), files := w.files }

def Command.run (w : World) (c : Command) : Outcome :=
  if !w.files.contains c.appDirectory then
    { failure := some (.missingDirectory c.appDirectory), files := w.files }
  else if !w.files.isDirectory c.appDirectory then
    { failure := some (.notDirectory c.appDirectory), files := w.files }
  else
    match c with
    | .extract e => runExtraction w e
    | .dumpUrls l => runListing w l

end ApiRecovery.CommandLine
