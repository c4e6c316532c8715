import ApiRecovery.Java.Escape
import ApiRecovery.Schema.Basic

/-!
# Signatures of library types

What is left of a library type when its names have been obfuscated: texts of its source, values of
its string literals, and its shape. Each hint found adds its weight to a declaration's score.
-/

namespace ApiRecovery

inductive TypeRole
  /-- the type stands for its first argument -/
  | transparentWrapper
  /-- the type has a schema of its own -/
  | forceSchema
  /-- a class that extends the type is described without it -/
  | ignoreWhenExtended
  /-- an annotation that names a serialized field -/
  | alias
  deriving DecidableEq, Repr

/-- The schema of a type whose declaration does not describe its data. -/
inductive ForcedSchema
  /-- an object of any content -/
  | free
  | typed (type : String) (format : Option String)
  deriving DecidableEq, Repr

def ForcedSchema.toSchema : ForcedSchema → Schema
  | free => .free
  | typed type format => .primitive type format none

abbrev Hint := String × Int

def totalWeight (hints : List Hint) : Int :=
  hints.foldl (fun total (_, weight) => total + weight) 0

structure Signature where
  name : String
  library : String
  roles : List TypeRole := []
  /-- the simple name to expect, if it is not `name` -/
  simpleName : Option String := none
  /-- texts of the source -/
  raw : List Hint := []
  /-- texts of the source that do not make a file worth scoring -/
  rawSupport : List Hint := []
  /-- values of string literals -/
  literals : List Hint := []
  /-- values of string literals that do not make a file worth scoring -/
  literalSupport : List Hint := []
  minScore : Int := 20
  forced : Option ForcedSchema := none
  interfaceScore : Int := 0
  typeParametersScore : Int := 0
  annotationScore : Int := -20
  /-- whether types of the signature are looked for -/
  searched : Bool := true

namespace Signature

def expectedName (s : Signature) : String :=
  s.simpleName.getD s.name

def schema (s : Signature) : Option Schema :=
  s.forced.map (·.toSchema)

def hasRole (s : Signature) (role : TypeRole) : Bool :=
  s.roles.contains role

def quoted (literal : String) : String :=
  "\"" ++ Java.escape literal ++ "\""

/-- The texts one of which a file has to hold in order to be scored. -/
def needles (s : Signature) : List String :=
  (s.raw.filter fun (_, weight) => weight > 0).map Prod.fst ++
    (s.literals.filter fun (_, weight) => weight > 0).map fun (text, _) => quoted text

def literalWeight (s : Signature) (value : String) : Int :=
  totalWeight ((s.literals ++ s.literalSupport).filter fun (text, _) => text == value)

end Signature

end ApiRecovery
