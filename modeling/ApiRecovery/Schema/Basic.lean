/-!
# Schemas

The description of a value in the document. A reference stands for a component; its target is filled
in (`patch`) once the component has a path.
-/

namespace ApiRecovery

inductive Schema
  | primitive (type : String) (format sample : Option String)
  | array (items : Schema)
  | object (properties : List (String × Schema)) (additional : Option Schema)
  /-- an object of any content -/
  | free
  | reference (id : Nat) (target : Option String)
  | allOf (parts : List Schema)
  /-- one of some texts -/
  | enumeration (values : List String)
  deriving BEq, Repr, Inhabited

namespace Schema

def plain (type : String) : Schema :=
  primitive type none none

def formatted (type format : String) : Schema :=
  primitive type (some format) none

def string : Schema := plain "string"
def integer : Schema := plain "integer"
def number : Schema := plain "number"
def boolean : Schema := plain "boolean"

def stringExample (value : Option String) : Schema :=
  primitive "string" none value

def mapOf (values : Schema) : Schema :=
  object [] (some values)

def property? (s : Schema) (name : String) : Option Schema :=
  match s with
  | object properties _ => properties.lookup name
  | _ => none

mutual

/-- Changes the target of every reference, by its id and its present target. -/
def mapReferences (f : Nat → Option String → Option String) : Schema → Schema
  | primitive type format value => primitive type format value
  | array items => array (mapReferences f items)
  | object properties additional =>
    object (mapProperties f properties) (mapAdditional f additional)
  | free => free
  | reference id target => reference id (f id target)
  | allOf parts => allOf (mapParts f parts)
  | enumeration values => enumeration values

def mapProperties (f : Nat → Option String → Option String) :
    List (String × Schema) → List (String × Schema)
  | [] => []
  | (name, s) :: rest => (name, mapReferences f s) :: mapProperties f rest

def mapAdditional (f : Nat → Option String → Option String) : Option Schema → Option Schema
  | none => none
  | some s => some (mapReferences f s)

def mapParts (f : Nat → Option String → Option String) : List Schema → List Schema
  | [] => []
  | s :: rest => mapReferences f s :: mapParts f rest

end

mutual

/-- All references, outer before inner and in order: their ids and targets. -/
def references : Schema → List (Nat × Option String)
  | primitive _ _ _ => []
  | array items => references items
  | object properties additional =>
    referencesOfProperties properties ++ referencesOfAdditional additional
  | free => []
  | reference id target => [(id, target)]
  | allOf parts => referencesOfParts parts
  | enumeration _ => []

def referencesOfProperties : List (String × Schema) → List (Nat × Option String)
  | [] => []
  | (_, s) :: rest => references s ++ referencesOfProperties rest

def referencesOfAdditional : Option Schema → List (Nat × Option String)
  | none => []
  | some s => references s

def referencesOfParts : List Schema → List (Nat × Option String)
  | [] => []
  | s :: rest => references s ++ referencesOfParts rest

end

def referenceTargets (s : Schema) : List (Option String) :=
  s.references.map Prod.snd

def componentsPath : String := "#/components/schemas/"

def componentPath (name : String) : String :=
  componentsPath ++ name

/-- The path of a reference whose target has no component. -/
def unknownPath : String := componentPath "unknown"

/-- The path of a reference, given the paths of all ids in order. -/
def pathOf (paths : List String) (id : Nat) : String :=
  (paths[id]?).getD unknownPath

def patch (paths : List String) (s : Schema) : Schema :=
  s.mapReferences fun id _ => some (pathOf paths id)

end Schema

end ApiRecovery
