import ApiRecovery.Corpus.Resolve
import ApiRecovery.Retrofit.Annotations
import ApiRecovery.Signature.Basic

/-!
# Locating the annotations

The annotation types of an application are read off the library's own code. The method that reads
the annotations of methods passes the name of each HTTP method together with a cast to its
annotation; the one that reads the annotations of parameters tests for each type before it complains
about a wrong use.
-/

namespace ApiRecovery

open Java (Kind Role Declaration)

def methodReaderMessages : List String :=
  ["Only one encoding annotation is allowed.", "@Headers annotation is empty."]

def parameterReaderMessage : String :=
  "A @Path parameter must not come after a @Query."

/-- The constant string that a static field of that name begins with. -/
def Java.Declaration.constant? (d : Declaration) (name : String) : Option String :=
  (d.fields.find? fun f => f.isStatic && f.name == name).bind (·.initializer)

namespace Java.Tree

mutual

/-- For each string literal with one of the values, the innermost method around it. -/
def methodsAround (values : List String) (enclosing : Option Tree) : Tree → List Tree
  | leaf _ _ _ => []
  | node role kind children =>
    let t := node role kind children
    if kind = .stringLiteral then
      if values.contains (literalValue t.text) then enclosing.toList else []
    else if kind = .methodDeclaration then methodsAroundAll values (some t) children
    else methodsAroundAll values enclosing children

def methodsAroundAll (values : List String) (enclosing : Option Tree) : List Tree → List Tree
  | [] => []
  | t :: ts => methodsAround values enclosing t ++ methodsAroundAll values enclosing ts

end

/-- The method around the last string literal with one of the values. -/
def methodWith? (t : Tree) (values : List String) : Option Tree :=
  (t.methodsAround values none).getLast?

mutual

/-- The first type test in a tree, outer before inner. -/
def typeTest? : Tree → Option Tree
  | leaf _ _ _ => none
  | node role kind children =>
    if kind = .instanceofExpression then some (node role kind children) else typeTestOfAll children

def typeTestOfAll : List Tree → Option Tree
  | [] => none
  | t :: ts => (typeTest? t).or (typeTestOfAll ts)

end

def testedType? (t : Tree) : Option Tree :=
  (t.child? .right).or (t.child? .pattern)

end Java.Tree

/-- How constant names are evaluated: those with an owner and plain ones. -/
structure Constants where
  ofType : (owner name : String) → Option String
  plain : (name : String) → Option String

namespace Constants

mutual

def evaluate (k : Constants) : Java.Tree → Option String
  | .leaf role kind token =>
    if kind = .identifier then k.plain (Java.Tree.leaf role kind token).text else none
  | .node role kind children =>
    let t := Java.Tree.node role kind children
    match kind with
    | .stringLiteral => some (Java.literalValue t.text)
    | .parenthesizedExpression => evaluateFirst k children
    | .fieldAccess => do k.ofType (← t.child? .object).text (← t.child? .field).text
    | _ => none

def evaluateFirst (k : Constants) : List Java.Tree → Option String
  | [] => none
  | t :: ts => if t.isNamed then evaluate k t else evaluateFirst k ts

end

/-- The HTTP method that the first argument of a call names. -/
def methodOfCall? (k : Constants) (call : Java.Tree) : Option String := do
  let arguments ← call.child? .arguments
  let first ← arguments.namedChildren.find? fun c => !c.isComment
  let named := (k.evaluate first).bind fun value =>
    AnnotationSet.dedicatedMethods.find? (· == Text.toUppercase value)
  named.or (if first.text == "HttpRequest.METHOD_OPTIONS" then some "OPTIONS" else none)

mutual

/-- The kinds of method annotations with their types as written. `kind` is the kind that the next
cast gives the type of. -/
def methodAnnotations (k : Constants) (kind : Option String) : Java.Tree → List (String × String)
  | .leaf _ _ _ => []
  | .node role nodeKind children =>
    let t := Java.Tree.node role nodeKind children
    match nodeKind with
    | .methodInvocation => methodAnnotationsOfAll k ((k.methodOfCall? t).or kind) children
    | .localVariableDeclaration =>
      match (t.child? .type).map Java.Tree.text with
      | some "String[]" => methodAnnotationsOfAll k (some "Headers") children
      | some "HTTP" => methodAnnotationsOfAll k (some "HTTP") children
      | _ => methodAnnotationsOfAll k kind children
    | .castExpression =>
      match kind with
      | some found =>
        ((t.child? .type).map fun type => (found, type.text)).toList ++
          methodAnnotationsOfAll k none children
      | none => methodAnnotationsOfAll k none children
    | .instanceofExpression =>
      let tested := ((t.testedType?).map Java.Tree.text).toList
      ((tested.filter fun name => name == "Multipart" || name == "FormUrlEncoded").map
        fun name => (name, name)) ++ methodAnnotationsOfAll k kind children
    | _ => methodAnnotationsOfAll k kind children

def methodAnnotationsOfAll (k : Constants) (kind : Option String) :
    List Java.Tree → List (String × String)
  | [] => []
  | t :: ts =>
    (if t.isNamed then methodAnnotations k kind t else []) ++ methodAnnotationsOfAll k kind ts

end

end Constants

def kindOfMessage? (message : String) : Option String :=
  (AnnotationSet.parameterSamples.find? fun (_, messages) => messages.contains message).map Prod.fst

mutual

/-- The kinds of parameter annotations with their types as written. `candidate` is the type tested
for last. -/
def parameterAnnotations (candidate : Option String) : Java.Tree → List (String × String)
  | .leaf _ _ _ => []
  | .node role kind children =>
    let t := Java.Tree.node role kind children
    match kind with
    | .ifStatement =>
      match ((t.child? .condition).bind Java.Tree.typeTest?).bind Java.Tree.testedType? with
      | some type =>
        let name := type.text
        if AnnotationSet.parameterSamples.any fun (kind, _) => kind == name then
          (name, name) :: parameterAnnotationsOfAll none children
        else parameterAnnotationsOfAll (some name) children
      | none => parameterAnnotationsOfAll candidate children
    | .stringLiteral =>
      let found := (candidate.filter (· != "ParameterizedType")).bind fun type =>
        (kindOfMessage? (Java.literalValue t.text)).map fun kind => (kind, type)
      found.toList ++ parameterAnnotationsOfAll candidate children
    | _ => parameterAnnotationsOfAll candidate children

def parameterAnnotationsOfAll (candidate : Option String) :
    List Java.Tree → List (String × String)
  | [] => []
  | t :: ts =>
    (if t.isNamed then parameterAnnotations candidate t else []) ++
      parameterAnnotationsOfAll candidate ts

end

namespace Corpus

def constantsIn (c : Corpus) (scope : Scope) : Constants where
  ofType owner name :=
    match c.resolveName scope owner with
    | .ok (.declared d) => d.declaration.constant? name
    | _ => none
  plain name :=
    (c.unit? scope.file).bind fun unit =>
      unit.allDeclarations.findSome? fun (_, d) => d.constant? name

/-- The kinds with the qualified names of their types, without types that cannot be resolved. -/
def resolveKinds (c : Corpus) (scope : Scope) (uses : List (String × String)) :
    List (String × String) :=
  uses.filterMap fun (kind, type) =>
    match c.resolveName scope type with
    | .ok found => some (kind, found.qualifiedName)
    | .error _ => none

/-- The first file with a message of the code that reads annotations. -/
def annotationReaderFile? (c : Corpus) : Option Nat :=
  (c.filesContainingAny (methodReaderMessages.map Signature.quoted)).head?

def locateAnnotations (c : Corpus) : Except Failure AnnotationSet :=
  match c.annotationReaderFile?.bind fun id => (c.file? id).map fun file => (id, file) with
  | none => .error (.retrofitNotFound "Failed to locate retrofit RequestFactory")
  | some (id, file) =>
    match file.tree with
    | .error e => .error (.parse file.path e.message)
    | .ok tree =>
      let scope := c.primaryScope id
      match tree.methodWith? methodReaderMessages, tree.methodWith? [parameterReaderMessage] with
      | none, _ => .error (.retrofitNotFound "parseMethodAnnotation from retrofit not found")
      | some _, none =>
        .error (.retrofitNotFound ("parseParameterAnnotation from retrofit not found in " ++
          file.path ++ ". Code too obfuscated?"))
      | some methodReader, some parameterReader =>
        let uses := (c.constantsIn scope).methodAnnotations none methodReader ++
          parameterAnnotations none parameterReader
        .ok (AnnotationSet.addAll {} (c.resolveKinds scope uses))

/-- The files that import an annotation. -/
def apiFiles (c : Corpus) (annotations : AnnotationSet) : List Nat :=
  c.filesImporting annotations.allNames

end Corpus

end ApiRecovery
