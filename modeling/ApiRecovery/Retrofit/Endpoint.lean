import ApiRecovery.Corpus.Resolve
import ApiRecovery.Retrofit.Annotations
import ApiRecovery.Retrofit.HttpMethod

/-!
# Endpoints

Every method of an interface that has an annotation for an HTTP method, with a constant path, is an
endpoint. Its types are kept as written, with the scope they are written in.
-/

namespace ApiRecovery

open Java (Declaration Annotation Method TypeRef)

inductive ParameterLocation
  | path | query | header
  deriving DecidableEq, Repr

def ParameterLocation.name : ParameterLocation → String
  | path => "path"
  | query => "query"
  | header => "header"

inductive ParameterSource
  | typed (type : TypeRef)
  /-- a header of fixed value -/
  | fixedHeader (value : Option String)
  deriving BEq, Repr

structure EndpointParameter where
  name : String
  location : ParameterLocation
  required : Bool
  description : String
  source : ParameterSource
  deriving BEq, Repr

structure Endpoint where
  path : String
  method : HttpMethod
  /-- the simple names of the interface and its method -/
  summary : String
  /-- the qualified name of the interface -/
  interface : String
  parameters : List EndpointParameter
  body : Option TypeRef
  response : TypeRef
  scope : Scope

/-- A path that begins with a slash, unless it is absolute. -/
def rooted (path : String) : String :=
  if ["/", "http://", "https://"].any (Text.startsWith path) then path else "/" ++ path

namespace Java

def Annotation.text? (a : Annotation) : Option String :=
  a.value?.bind (·.text?)

def Annotation.memberText? (a : Annotation) (key : String) : Option String :=
  (a.member? key).bind (·.text?)

end Java

def fixedHeader (line : String) : EndpointParameter :=
  let (name, value) := match Text.cutFirst ':' line with
    | some (name, value) => (name, some (Text.trimStart value))
    | none => (line, none)
  { name, location := .header, required := true
    description := "Static header added by @Headers(\x7b...\x7d)"
    source := .fixedHeader value }

def fixedHeaders (a : Annotation) : List EndpointParameter :=
  (a.value?.map fun value => value.strings.map fixedHeader).getD []

def locationOfKind? : String → Option ParameterLocation
  | "Path" => some .path
  | "Query" => some .query
  | "Header" => some .header
  | _ => none

/-- The method and the path of an endpoint, given the annotations that are Retrofit's with their
kinds. An annotation for one method goes before the general one. -/
def methodAndPath? (annotated : List (String × Annotation)) :
    Option (HttpMethod × Option String) :=
  let dedicated := AnnotationSet.dedicatedMethods.findSome? fun name =>
    (annotated.lookup name).map fun a => (name, a)
  match dedicated with
  | some (name, a) => (HttpMethod.ofName? name).map fun method => (method, a.text?)
  | none => do
    let a ← annotated.lookup "HTTP"
    let method ← HttpMethod.ofName? (← a.memberText? "method")
    return (method, a.memberText? "path")

namespace Corpus

def annotationKind? (c : Corpus) (annotations : AnnotationSet) (scope : Scope) (a : Annotation) :
    Option String :=
  match c.resolveName scope a.name with
  | .ok found => annotations.kindOf? found.qualifiedName
  | .error _ => none

def markedParameters (c : Corpus) (annotations : AnnotationSet) (scope : Scope) (summary : String)
    (p : Java.Parameter) : List EndpointParameter :=
  p.annotations.filterMap fun a => do
    let location ← locationOfKind? (← c.annotationKind? annotations scope a)
    let name ← a.text?
    return { name, location, required := location == .path
             description := summary ++ "." ++ p.name
             source := .typed p.type }

def marksBody (c : Corpus) (annotations : AnnotationSet) (scope : Scope) (p : Java.Parameter) :
    Bool :=
  p.annotations.any fun a => c.annotationKind? annotations scope a == some "Body"

/-- The endpoint that a method of an interface declares. -/
def endpoint? (c : Corpus) (annotations : AnnotationSet) (scope : Scope) (interface : Declaration)
    (m : Method) : Option Endpoint := do
  let annotated := m.annotations.filterMap fun a =>
    (c.annotationKind? annotations scope a).map fun kind => (kind, a)
  let (method, path) ← methodAndPath? annotated
  let path ← path
  let summary := interface.name ++ "." ++ m.name
  let headers := (annotated.filter fun (kind, _) => kind == "Headers").flatMap fun (_, a) =>
    fixedHeaders a
  return {
    path := rooted path
    method
    summary
    interface := interface.qualifiedName
    parameters := headers ++
      m.parameters.flatMap (c.markedParameters annotations scope summary)
    body := ((m.parameters.filter (c.marksBody annotations scope)).getLast?).map (·.type)
    response := m.returns
    scope }

def endpointsOfFile (c : Corpus) (annotations : AnnotationSet) (id : Nat) : List Endpoint :=
  match c.unit? id with
  | none => []
  | some unit => unit.allDeclarations.flatMap fun (path, d) =>
    if d.isInterface then d.methods.filterMap (c.endpoint? annotations ⟨id, path⟩ d) else []

def endpoints (c : Corpus) (annotations : AnnotationSet) (ids : List Nat) : List Endpoint :=
  ids.flatMap (c.endpointsOfFile annotations)

end Corpus

end ApiRecovery
