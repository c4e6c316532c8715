import ApiRecovery.Java.Declaration
import ApiRecovery.Java.Literal
import ApiRecovery.Java.Source
import ApiRecovery.Text.Blank

/-!
# Declarations of a tree

What the tree of a Java text declares: `CompilationUnit.ofTree` and, from the text itself,
`CompilationUnit.parse`.
-/

namespace ApiRecovery.Java

namespace Tree

def dimensionCount (t : Option Tree) : Nat :=
  (t.map fun t => t.children.countP (·.isToken "[")).getD 0

mutual

def typeRef? : Tree → Option TypeRef
  | leaf role kind token =>
    if kind = .identifier ∨ kind = .typeIdentifier then
      some (.simple (leaf role kind token).text)
    else none
  | node role kind children =>
    let t := node role kind children
    match kind with
    | .integralType | .floatingPointType | .booleanType =>
      (Primitive.ofKeyword? (Text.trim t.text)).map .primitive
    | .voidType => some .void
    | .scopedTypeIdentifier => some (.simple (Text.join "." (typeNames children)))
    | .genericType =>
      (typeNames children).getLast?.map fun name => .named name (typeArgumentsIn children)
    | .arrayType =>
      (typeRefIn .element children).map (·.dimensioned (dimensionCount (t.child? .dimensions)))
    | .annotatedType => (typeRefs children).getLast?
    | .wildcard =>
      match (typeRefs children).getLast? with
      | none => some .wildcard
      | some bound => some (if (t.ofKind? .super).isSome then .lower bound else .upper bound)
    | _ => none

def typeRefs : List Tree → List TypeRef
  | [] => []
  | t :: ts =>
    match typeRef? t with
    | some type => type :: typeRefs ts
    | none => typeRefs ts

/-- The type in the first of the trees that plays the given part. -/
def typeRefIn (role : Role) : List Tree → Option TypeRef
  | [] => none
  | t :: ts => if t.role == some role then typeRef? t else typeRefIn role ts

def typeArgumentsIn : List Tree → List TypeRef
  | [] => []
  | node _ .typeArguments children :: ts =>
    if ts.any (·.kind == .typeArguments) then typeArgumentsIn ts else typeRefs children
  | _ :: ts => typeArgumentsIn ts

def typeNames : List Tree → List String
  | [] => []
  | t :: ts =>
    match typeName? t with
    | some name => name :: typeNames ts
    | none => typeNames ts

def typeName? : Tree → Option String
  | leaf _ kind token =>
    if kind = .identifier ∨ kind = .typeIdentifier then some token.text else none
  | node _ kind children =>
    match kind with
    | .scopedTypeIdentifier => some (Text.join "." (typeNames children))
    | .genericType => (typeNames children).getLast?
    | _ => none

end

/-- The text of a name, without blanks. -/
def nameText (t : Tree) : String :=
  Text.removeBlanks t.text

mutual

def annotationValue : Tree → AnnotationValue
  | leaf role kind token => .other (leaf role kind token).text
  | node role kind children =>
    match kind with
    | .elementValueArray => .array (annotationValues children)
    | _ =>
      match (node role kind children).constantString? with
      | some value => .text value
      | none => .other (node role kind children).text

def annotationValues : List Tree → List AnnotationValue
  | [] => []
  | t :: ts =>
    if t.isNamed && !t.isComment then annotationValue t :: annotationValues ts
    else annotationValues ts

end

/-- Reads an annotation's arguments: the last one without a name, and the named ones in order. -/
def annotationElements (t : Tree) : Option AnnotationValue × List (String × AnnotationValue) :=
  let arguments := t.namedChildren.filter fun c => !c.isComment
  let pairs := arguments.filter (·.kind == .elementValuePair)
  let others := arguments.filter (·.kind != .elementValuePair)
  (others.getLast?.map annotationValue,
    pairs.filterMap fun pair => do
      return ((← pair.child? .key).text, annotationValue (← pair.child? .value)))

def annotation? (t : Tree) : Option Annotation :=
  (t.child? .name).map fun name =>
    let (positional, members) := ((t.child? .arguments).map annotationElements).getD (none, [])
    { name := name.nameText, positional, members }

def annotations (modifiers : Option Tree) : List Annotation :=
  (modifiers.map fun m =>
    let isAnnotation (c : Tree) := c.kind == .annotationMarker || c.kind == .annotationCall
    (m.namedChildren.filter isAnnotation).filterMap
      annotation?).getD []

def isStatic (modifiers : Option Tree) : Bool :=
  (modifiers.map (·.hasKeyword "static")).getD false

def listedTypes (t : Tree) : List TypeRef :=
  ((t.ofKind? .typeList).map fun list => typeRefs list.children).getD []

def typeParameterNames (t : Tree) : List String :=
  (t.namedChildren.filter (·.kind == .typeParameter)).filterMap fun parameter =>
    (parameter.namedChildren.find? fun c => c.kind == .typeIdentifier || c.kind == .identifier).map
      text

def fields (implicitStatic : Bool) (t : Tree) : List Field :=
  let modifiers := t.ofKind? .modifiers
  match (t.child? .type).bind typeRef? with
  | none => []
  | some base =>
    (t.namedChildren.filter (·.kind == .variableDeclarator)).filterMap fun declarator =>
      (declarator.child? .name).map fun name =>
        { name := name.text
          type := base.dimensioned (dimensionCount (declarator.child? .dimensions))
          isStatic := implicitStatic || isStatic modifiers
          annotations := annotations modifiers
          initializer := (declarator.child? .value).bind constantString? }

/-- A parameter, fixed or variable; a receiver is none. -/
def parameter? (t : Tree) : Option Parameter :=
  let annotations := annotations (t.ofKind? .modifiers)
  match t.kind with
  | .formalParameter => do
    let type ← (t.child? .type).bind typeRef?
    let name ← t.child? .name
    return { name := name.text
             type := type.dimensioned (dimensionCount (t.child? .dimensions))
             annotations }
  | .spreadParameter => do
    let type ← t.namedChildren.findSome? typeRef?
    let name ← (t.ofKind? .variableDeclarator).bind (·.child? .name)
    return { name := name.text, type := .array type, annotations }
  | _ => none

def method? (t : Tree) : Option Method :=
  (t.child? .name).map fun name =>
    let modifiers := t.ofKind? .modifiers
    let returns := ((t.child? .type).bind typeRef?).getD .void
    { name := name.text
      returns := returns.dimensioned (dimensionCount (t.child? .dimensions))
      parameters :=
        ((t.child? .parameters).map fun ps => ps.namedChildren.filterMap parameter?).getD []
      annotations := annotations modifiers
      isStatic := isStatic modifiers }

def declarationKind? : Kind → Option DeclarationKind
  | .classDeclaration => some .classType
  | .interfaceDeclaration => some .interface
  | .enumDeclaration => some .enum
  | .annotationTypeDeclaration => some .annotationType
  | .recordDeclaration => some .record
  | _ => none

/-- What the body of a declaration lists, with the declarations after the constants of an enum. -/
def bodyItems (t : Tree) : List Tree :=
  match t.child? .body with
  | none => []
  | some body => body.namedChildren.flatMap fun c =>
    if c.kind == .enumBodyDeclarations then c.namedChildren else [c]

def fieldsOfItem (item : Tree) : List Field :=
  match item.kind with
  | .fieldDeclaration => fields false item
  | .constantDeclaration => fields true item
  | _ => []

/-- The comments of a declaration: those just before it, then those among its parts, then those
among its modifiers. -/
def commentOf (before : List String) (t : Tree) : Option String :=
  let within (t : Tree) := (t.namedChildren.filter isComment).map text
  match before ++ within t ++ ((t.ofKind? .modifiers).map within).getD [] with
  | [] => none
  | comments => some (Text.join "\n" comments)

def declarationHead (t : Tree) (kind : DeclarationKind) (name qualifiedName : String)
    (before : List String) : Declaration :=
  let modifiers := t.ofKind? .modifiers
  let items := t.bodyItems
  { name, qualifiedName, kind
    isStatic := isStatic modifiers
    typeParameters := ((t.ofKind? .typeParameters).map typeParameterNames).getD []
    supertypes :=
      match t.ofKind? .extendsInterfaces, t.ofKind? .superclass with
      | some extended, _ => extended.listedTypes
      | none, some superclass => typeRefs superclass.children
      | none, none => []
    interfaces := ((t.ofKind? .superInterfaces).map listedTypes).getD []
    fields := items.flatMap fieldsOfItem
    methods := (items.filter (·.kind == .methodDeclaration)).filterMap method?
    enumConstants := (items.filter (·.kind == .enumConstant)).filterMap fun c =>
      (c.child? .name).map text
    annotations := annotations modifiers
    comment := commentOf before t }

mutual

/-- The declaration that a tree is, inside `outer` and after the comments `before`. -/
def declaration? (outer : Option String) (before : List String) : Tree → Option Declaration
  | leaf _ _ _ => none
  | node role kind children =>
    match declarationKind? kind, (node role kind children).child? .name with
    | some declarationKind, some nameTree =>
      let name := nameTree.text
      let qualifiedName := match outer with
        | some outer => outer ++ "." ++ name
        | none => name
      let t := node role kind children
      let head := declarationHead t declarationKind name qualifiedName before
      some { head with members := declarationsInBody qualifiedName children }
    | _, _ => none

def declarationsInBody (outer : String) : List Tree → List Declaration
  | [] => []
  | node (some .body) _ children :: _ => declarations (some outer) [] children
  | _ :: ts => declarationsInBody outer ts

def declarations (outer : Option String) (before : List String) : List Tree → List Declaration
  | [] => []
  | t :: ts =>
    let after := if t.isComment then before ++ [t.text] else []
    (declaration? outer before t).toList ++ declarationsOfEnumRest outer t ++
      declarations outer after ts

def declarationsOfEnumRest (outer : Option String) : Tree → List Declaration
  | node _ .enumBodyDeclarations children => declarations outer [] children
  | _ => []

end

def importedName? (t : Tree) : Option String :=
  (t.namedChildren.find? fun c => c.kind == .identifier || c.kind == .scopedIdentifier).map nameText

def import? (t : Tree) : Option Import :=
  t.importedName?.map fun path =>
    { path
      isStatic := t.hasKeyword "static"
      isWildcard := t.namedChildren.any (·.kind == .asterisk) }

end Tree

namespace CompilationUnit

/-- The declarations of a whole text; of several package declarations the last counts. -/
def ofTree (root : Tree) : CompilationUnit :=
  let packages := root.namedChildren.filter (·.kind == .packageDeclaration)
  let package := packages.getLast?.bind Tree.importedName?
  { package
    imports := (root.namedChildren.filter (·.kind == .importDeclaration)).filterMap Tree.import?
    types := Tree.declarations package [] root.children
    stringLiterals := (root.collectLiterals #[]).toList }

def parse (source : String) : Except SyntaxError CompilationUnit :=
  (tree? source).map ofTree

end CompilationUnit

end ApiRecovery.Java
