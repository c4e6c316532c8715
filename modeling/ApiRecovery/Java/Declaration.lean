import ApiRecovery.Java.TypeRef

/-!
# Declarations

What a Java text declares, apart from the bodies of methods. A declaration inside a unit is found by
its index path: first the index among the unit's types, then among the members of each.
-/

namespace ApiRecovery.Java

inductive AnnotationValue
  /-- a constant string -/
  | text (value : String)
  | array (items : List AnnotationValue)
  /-- any other expression, as written -/
  | other (source : String)
  deriving BEq, Repr, Inhabited

namespace AnnotationValue

def text? : AnnotationValue → Option String
  | text value => some value
  | _ => none

def strings : AnnotationValue → List String
  | text value => [value]
  | array items => items.filterMap text?
  | other _ => []

end AnnotationValue

structure Annotation where
  /-- the name as written -/
  name : String
  /-- the value given without a name -/
  positional : Option AnnotationValue
  /-- the values given by name, in order -/
  members : List (String × AnnotationValue)
  deriving BEq, Repr

namespace Annotation

def member? (a : Annotation) (key : String) : Option AnnotationValue :=
  a.members.lookup key

/-- The element `value`, given without a name or by it. -/
def value? (a : Annotation) : Option AnnotationValue :=
  a.positional.or (a.member? "value")

end Annotation

structure Field where
  name : String
  type : TypeRef
  isStatic : Bool
  annotations : List Annotation
  /-- the constant string that the field begins with -/
  initializer : Option String
  deriving BEq, Repr

structure Parameter where
  name : String
  type : TypeRef
  annotations : List Annotation
  deriving BEq, Repr

structure Method where
  name : String
  returns : TypeRef
  parameters : List Parameter
  annotations : List Annotation
  isStatic : Bool
  deriving BEq, Repr

inductive DeclarationKind
  | classType | interface | enum | annotationType | record
  deriving DecidableEq, Repr

structure Declaration where
  name : String
  /-- package and enclosing declarations before the name, with dots between them -/
  qualifiedName : String
  kind : DeclarationKind
  isStatic : Bool := false
  typeParameters : List String := []
  /-- the superclass of a class, or the interfaces that an interface extends -/
  supertypes : List TypeRef := []
  interfaces : List TypeRef := []
  fields : List Field := []
  methods : List Method := []
  enumConstants : List String := []
  members : List Declaration := []
  annotations : List Annotation := []
  /-- the comments that belong to the declaration -/
  comment : Option String := none
  deriving BEq, Repr

namespace Declaration

def isInterface (d : Declaration) : Bool :=
  d.kind == .interface

def memberIndex? (d : Declaration) (name : String) : Option Nat :=
  d.members.findIdx? fun m => m.name == name

def superclass? (d : Declaration) : Option TypeRef :=
  if d.kind = .classType then d.supertypes.head? else none

def descendant? (d : Declaration) : List Nat → Option Declaration
  | [] => some d
  | i :: path =>
    match d.members[i]? with
    | none => none
    | some m => m.descendant? path

mutual

/-- The declaration and all that it encloses, outer before inner, each with its path. -/
def enclosed (path : List Nat) : Declaration → List (List Nat × Declaration)
  | ⟨n, q, k, s, tp, st, is, fs, ms, es, members, as, c⟩ =>
    (path, ⟨n, q, k, s, tp, st, is, fs, ms, es, members, as, c⟩) :: enclosedByAll path 0 members

def enclosedByAll (path : List Nat) (i : Nat) : List Declaration → List (List Nat × Declaration)
  | [] => []
  | m :: ms => enclosed (path ++ [i]) m ++ enclosedByAll path (i + 1) ms

end

end Declaration

structure Import where
  path : String
  isStatic : Bool
  isWildcard : Bool
  deriving DecidableEq, Repr

/-- The simple name that an import of a single type brings into scope. -/
def Import.simpleName? (i : Import) : Option String :=
  if i.isWildcard then none else some (Text.lastSegment i.path)

structure CompilationUnit where
  package : Option String
  imports : List Import
  types : List Declaration
  /-- the values of all string literals, in order -/
  stringLiterals : List String

namespace CompilationUnit

def qualify (u : CompilationUnit) (name : String) : String :=
  match u.package with
  | some package => package ++ "." ++ name
  | none => name

/-- The declaration at an index path; the empty path leads to none. -/
def declaration? (u : CompilationUnit) : List Nat → Option Declaration
  | [] => none
  | i :: path =>
    match u.types[i]? with
    | none => none
    | some d => d.descendant? path

def allDeclarations (u : CompilationUnit) : List (List Nat × Declaration) :=
  Declaration.enclosedByAll [] 0 u.types

end CompilationUnit

end ApiRecovery.Java
