import ApiRecovery.Schema.Basic
import Mathlib.Data.List.Basic

/-!
# References in schemas

Where a reference can sit in a schema, said apart from the traversals: the list of references and the
change of all targets both miss no place. Patching therefore gives every reference, at any depth, the
path of its number.
-/

namespace ApiRecovery.Schema

theorem inside_induction {motive : Schema → Prop}
    (primitive : ∀ type format value, motive (.primitive type format value))
    (array : ∀ items, motive items → motive (.array items))
    (object : ∀ properties additional, (∀ p ∈ properties, motive p.2) →
      (∀ values, additional = some values → motive values) → motive (.object properties additional))
    (free : motive .free)
    (reference : ∀ id target, motive (.reference id target))
    (allOf : ∀ parts, (∀ part ∈ parts, motive part) → motive (.allOf parts))
    (enumeration : ∀ values, motive (.enumeration values)) (s : Schema) : motive s := by
  match s with
  | .primitive type format value => exact primitive type format value
  | .array items =>
    exact array items (inside_induction primitive array object free reference allOf enumeration _)
  | .object properties additional =>
    refine object properties additional (fun p hp => ?_) (fun values hvalues => ?_)
    · have hlt : sizeOf p.2 < 1 + sizeOf properties + sizeOf additional := by
        have hmem := List.sizeOf_lt_of_mem hp
        have hpair : sizeOf p = 1 + sizeOf p.1 + sizeOf p.2 := rfl
        omega
      exact inside_induction primitive array object free reference allOf enumeration p.2
    · have hlt : sizeOf values < 1 + sizeOf properties + sizeOf additional := by
        rw [hvalues, Option.some.sizeOf_spec]
        omega
      exact inside_induction primitive array object free reference allOf enumeration values
  | .free => exact free
  | .reference id target => exact reference id target
  | .allOf parts =>
    refine allOf parts fun part hpart => ?_
    have hlt := List.sizeOf_lt_of_mem hpart
    exact inside_induction primitive array object free reference allOf enumeration part
  | .enumeration values => exact enumeration values
termination_by sizeOf s
decreasing_by all_goals simp +arith <;> omega

/-! ## The traversals, place by place -/

theorem referencesOfProperties_eq (properties : List (String × Schema)) :
    referencesOfProperties properties = properties.flatMap fun p => p.2.references := by
  induction properties with
  | nil => rfl
  | cons p rest ih => rw [referencesOfProperties, ih, List.flatMap_cons]

theorem referencesOfParts_eq (parts : List Schema) :
    referencesOfParts parts = parts.flatMap references := by
  induction parts with
  | nil => rfl
  | cons part rest ih => rw [referencesOfParts, ih, List.flatMap_cons]

theorem mapProperties_eq (f : Nat → Option String → Option String)
    (properties : List (String × Schema)) :
    mapProperties f properties = properties.map fun p => (p.1, p.2.mapReferences f) := by
  induction properties with
  | nil => rfl
  | cons p rest ih => rw [mapProperties, ih, List.map_cons]

theorem mapParts_eq (f : Nat → Option String → Option String) (parts : List Schema) :
    mapParts f parts = parts.map (mapReferences f) := by
  induction parts with
  | nil => rfl
  | cons part rest ih => rw [mapParts, ih, List.map_cons]

/-- A reference that sits somewhere in a schema, at any depth. -/
inductive HasReference (id : Nat) (target : Option String) : Schema → Prop
  | here : HasReference id target (.reference id target)
  | items {items : Schema} : HasReference id target items → HasReference id target (.array items)
  | property {properties : List (String × Schema)} {additional : Option Schema} {name : String}
      {s : Schema} : (name, s) ∈ properties → HasReference id target s →
      HasReference id target (.object properties additional)
  | additional {properties : List (String × Schema)} {values : Schema} :
      HasReference id target values → HasReference id target (.object properties (some values))
  | part {parts : List Schema} {s : Schema} : s ∈ parts → HasReference id target s →
      HasReference id target (.allOf parts)

theorem HasReference.mem {id : Nat} {target : Option String} {s : Schema}
    (h : s.HasReference id target) : (id, target) ∈ s.references := by
  induction h with
  | here => rw [references]; exact List.mem_singleton_self _
  | items _ ih => rw [references]; exact ih
  | property hp _ ih =>
    rw [references, referencesOfProperties_eq]
    exact List.mem_append_left _ (List.mem_flatMap.2 ⟨_, hp, ih⟩)
  | additional _ ih =>
    rw [references, referencesOfAdditional]
    exact List.mem_append_right _ ih
  | part hp _ ih =>
    rw [references, referencesOfParts_eq]
    exact List.mem_flatMap.2 ⟨_, hp, ih⟩

theorem references_mapReferences (f : Nat → Option String → Option String) (s : Schema) :
    (s.mapReferences f).references = s.references.map fun (id, target) => (id, f id target) := by
  induction s using inside_induction with
  | primitive | free | enumeration | reference => rfl
  | array items ih => rw [mapReferences, references, references, ih]
  | object properties additional ihp iha =>
    rw [mapReferences, references, references, List.map_append, mapProperties_eq,
      referencesOfProperties_eq, referencesOfProperties_eq, List.flatMap_map, List.map_flatMap]
    congr 1
    · exact List.flatMap_congr ihp
    · cases additional with
      | none => rfl
      | some values => exact iha values rfl
  | allOf parts ih =>
    rw [mapReferences, references, references, mapParts_eq, referencesOfParts_eq,
      referencesOfParts_eq, List.flatMap_map, List.map_flatMap]
    exact List.flatMap_congr ih

theorem references_patch (paths : List String) (s : Schema) :
    (s.patch paths).references = s.references.map fun (id, _) => (id, some (pathOf paths id)) :=
  references_mapReferences _ s

/-- After patching every reference has the path of its number, and no reference is new. -/
theorem hasReference_patch {paths : List String} {s : Schema} {id : Nat} {target : Option String}
    (h : (s.patch paths).HasReference id target) :
    target = some (pathOf paths id) ∧ ∃ t, (id, t) ∈ s.references := by
  have hmem := h.mem
  rw [references_patch] at hmem
  obtain ⟨⟨i, t⟩, ht, heq⟩ := List.mem_map.1 hmem
  cases heq
  exact ⟨rfl, t, ht⟩

def withoutTargets : Schema → Schema :=
  mapReferences fun _ _ => none

theorem mapReferences_mapReferences (f f' : Nat → Option String → Option String) (s : Schema) :
    (s.mapReferences f).mapReferences f' = s.mapReferences fun id t => f' id (f id t) := by
  induction s using inside_induction with
  | primitive | free | enumeration | reference => rfl
  | array items ih => rw [mapReferences, mapReferences, mapReferences, ih]
  | object properties additional ihp iha =>
    simp only [mapReferences, mapProperties_eq, List.map_map, object.injEq]
    constructor
    · exact List.map_congr_left fun p hp => congrArg (Prod.mk p.1) (ihp p hp)
    · cases additional with
      | none => rfl
      | some values => exact congrArg some (iha values rfl)
  | allOf parts ih =>
    simp only [mapReferences, mapParts_eq, List.map_map, allOf.injEq]
    exact List.map_congr_left ih

/-- Patching changes nothing but targets. -/
theorem withoutTargets_patch (paths : List String) (s : Schema) :
    (s.patch paths).withoutTargets = s.withoutTargets :=
  mapReferences_mapReferences _ _ s

def NumberedBelow (n : Nat) (s : Schema) : Prop :=
  ∀ x ∈ s.references, x.1 < n

theorem NumberedBelow.mono {m n : Nat} {s : Schema} (h : s.NumberedBelow m) (hle : m ≤ n) :
    s.NumberedBelow n :=
  fun x hx => Nat.lt_of_lt_of_le (h x hx) hle

end ApiRecovery.Schema
