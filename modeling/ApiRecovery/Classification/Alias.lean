import ApiRecovery.Classification.Basic
import ApiRecovery.Corpus.Resolve

/-!
# Alias annotations

The annotation that renames serialized fields. The adapter for enums reads it through a cast, so the
best cast in the file of the type adapters names it. The annotations of two libraries are known
under their own names as well.
-/

namespace ApiRecovery

open Java (Kind)

/-- Alias annotations under their own names, with their signatures. -/
def wellKnownAliases : List (String × String) :=
  [("SerializedName", "com.google.gson.annotations.SerializedName"),
   ("JsonProperty", "com.fasterxml.jackson.annotation.JsonProperty")]

def ignoredCastTypes : List String :=
  ["Class", "Enum", "Throwable", "Date", "String", "Enum[]", "Number", "Integer", "JsonElement"]

/-- A cast: the type as written, and how much it looks like one that reads the annotation. -/
structure Cast where
  type : String
  score : Nat
  deriving DecidableEq, Repr

namespace Cast

def ofTexts (type value : String) : Cast :=
  { type
    score := (if type == "SerializedName" then 20 else 0) +
      (if Text.contains value "getAnnotation" then 10 else 0) +
      (if Text.contains value "getField" then 10 else 0) }

/-- Whether a cast to this type is passed over, together with what it casts. -/
def isIgnored (type : Java.Tree) : Bool :=
  [Kind.integralType, .floatingPointType, .booleanType].contains type.kind ||
    ignoredCastTypes.contains type.text

/-- The cast with the highest score, the first of several. -/
def best? : List Cast → Option Cast
  | [] => none
  | c :: cs => some (cs.foldl (fun best c => if best.score ≥ c.score then best else c) c)

end Cast

namespace Java.Tree

mutual

/-- The casts in a tree, outer before inner. -/
def casts : Tree → List Cast
  | leaf _ _ _ => []
  | node role kind children =>
    let t := node role kind children
    if kind = .castExpression then
      match t.child? .type with
      | some type =>
        if Cast.isIgnored type then []
        else Cast.ofTexts type.text (((t.child? .value).map text).getD "") :: castsOfAll children
      | none => castsOfAll children
    else castsOfAll children

def castsOfAll : List Tree → List Cast
  | [] => []
  | t :: ts => casts t ++ castsOfAll ts

end

end Java.Tree

namespace Corpus

def typeAdaptersFile? (classification : Classification) : Option Nat :=
  (classification.find? "TypeAdapters").bind fun t => t.members.findSome? (·.file)

/-- The qualified name of the annotation that names serialized fields. -/
def serializedName? (c : Corpus) (classification : Classification) : Option String := do
  let id ← typeAdaptersFile? classification
  let tree ← (← c.file? id).tree.toOption
  let cast ← Cast.best? tree.casts
  match c.resolveName (c.primaryScope id) cast.type with
  | .ok found => some found.qualifiedName
  | .error _ => none

def withAliases (c : Corpus) (classification : Classification) : Classification :=
  let found := (c.serializedName? classification).toList.map fun name => ("SerializedName", name)
  (found ++ wellKnownAliases).foldl (fun k (name, qualifiedName) =>
    k.injectByName name qualifiedName) classification

end Corpus

end ApiRecovery
