import ApiRecovery.Text.Search

/-!
# Types as written

A `TypeRef` is an occurrence of a type in a declaration. Its names are not resolved.
-/

namespace ApiRecovery.Java

inductive Primitive
  | boolean | byte | short | int | long | char | float | double
  deriving DecidableEq, Repr

namespace Primitive

def keyword : Primitive → String
  | boolean => "boolean"
  | byte => "byte"
  | short => "short"
  | int => "int"
  | long => "long"
  | char => "char"
  | float => "float"
  | double => "double"

def all : List Primitive :=
  [boolean, byte, short, int, long, char, float, double]

def ofKeyword? (keyword : String) : Option Primitive :=
  all.find? fun p => p.keyword == keyword

end Primitive

inductive TypeRef
  | primitive (p : Primitive)
  | void
  | array (element : TypeRef)
  /-- any type, written `?` -/
  | wildcard
  /-- a type below the bound, written `? extends` -/
  | upper (bound : TypeRef)
  /-- a type above the bound, written `? super` -/
  | lower (bound : TypeRef)
  /-- a class or interface, possibly qualified, with its arguments -/
  | named (name : String) (arguments : List TypeRef)
  deriving BEq, Repr, Inhabited

namespace TypeRef

def simple (name : String) : TypeRef :=
  named name []

mutual

def render : TypeRef → String
  | primitive p => p.keyword
  | void => "void"
  | array element => element.render ++ "[]"
  | wildcard => "?"
  | upper bound => "? extends " ++ bound.render
  | lower bound => "? super " ++ bound.render
  | named name [] => name
  | named name (first :: rest) => name ++ "<" ++ first.render ++ renderMore rest ++ ">"

def renderMore : List TypeRef → String
  | [] => ""
  | t :: ts => ", " ++ t.render ++ renderMore ts

end

def name? : TypeRef → Option String
  | named name _ => some name
  | _ => none

def simpleName? (t : TypeRef) : Option String :=
  t.name?.map Text.lastSegment

def dimensioned (t : TypeRef) : Nat → TypeRef
  | 0 => t
  | n + 1 => (array t).dimensioned n

end TypeRef

end ApiRecovery.Java
