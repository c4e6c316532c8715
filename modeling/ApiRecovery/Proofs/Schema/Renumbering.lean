import ApiRecovery.Proofs.Schema.Numbering
import ApiRecovery.Schema.Form
import ApiRecovery.Schema.Generator

/-!
# Renumbered references

The number of a reference is a name that is bound to its place in the list of all references. Where
the numbers of a description begin is a renumbering of it, and the document that is written does not
tell the numbers.
-/

namespace ApiRecovery

namespace Schema

mutual

def renumber (f : Nat → Nat) : Schema → Schema
  | primitive type format value => primitive type format value
  | array items => array (renumber f items)
  | object properties additional =>
    object (renumberProperties f properties) (renumberAdditional f additional)
  | free => free
  | reference id target => reference (f id) target
  | allOf parts => allOf (renumberParts f parts)
  | enumeration values => enumeration values

def renumberProperties (f : Nat → Nat) : List (String × Schema) → List (String × Schema)
  | [] => []
  | (name, s) :: rest => (name, renumber f s) :: renumberProperties f rest

def renumberAdditional (f : Nat → Nat) : Option Schema → Option Schema
  | none => none
  | some s => some (renumber f s)

def renumberParts (f : Nat → Nat) : List Schema → List Schema
  | [] => []
  | s :: rest => renumber f s :: renumberParts f rest

end

def withoutNumbers : Schema → Schema :=
  renumber fun _ => 0

variable {f : Nat → Nat}

theorem renumberProperties_eq (f : Nat → Nat) (properties : List (String × Schema)) :
    renumberProperties f properties = properties.map fun p => (p.1, p.2.renumber f) := by
  induction properties with
  | nil => rfl
  | cons p rest ih => rw [renumberProperties, ih, List.map_cons]

theorem renumberParts_eq (f : Nat → Nat) (parts : List Schema) :
    renumberParts f parts = parts.map (renumber f) := by
  induction parts with
  | nil => rfl
  | cons part rest ih => rw [renumberParts, ih, List.map_cons]

theorem renumberAdditional_eq (f : Nat → Nat) (additional : Option Schema) :
    renumberAdditional f additional = additional.map (renumber f) := by
  cases additional <;> rfl

theorem mapAdditional_eq (f : Nat → Option String → Option String) (additional : Option Schema) :
    mapAdditional f additional = additional.map (mapReferences f) := by
  cases additional <;> rfl

theorem propertiesForm_eq (properties : List (String × Schema)) :
    propertiesForm properties = properties.map fun p => (p.1, p.2.form) := by
  induction properties with
  | nil => rfl
  | cons p rest ih => rw [propertiesForm, ih, List.map_cons]

theorem partsForm_eq (parts : List Schema) : partsForm parts = parts.map form := by
  induction parts with
  | nil => rfl
  | cons part rest ih => rw [partsForm, ih, List.map_cons]

theorem renumber_of_references_eq_nil (s : Schema) (h : s.references = []) :
    s.renumber f = s := by
  induction s using inside_induction with
  | primitive | free | enumeration => rfl
  | array items ih => rw [renumber, ih h]
  | object properties additional ihp iha =>
    simp only [references, referencesOfProperties_eq, List.append_eq_nil_iff,
      List.flatMap_eq_nil_iff] at h
    have hproperties : properties.map (fun p => (p.1, p.2.renumber f)) = properties := by
      conv => rhs; rw [← List.map_id properties]
      refine List.map_congr_left fun p hp => ?_
      rw [ihp p hp (h.1 p hp), id]
    have hadditional : additional.map (renumber f) = additional := by
      cases additional with
      | none => rfl
      | some values => rw [Option.map_some, iha values rfl h.2]
    rw [renumber, renumberProperties_eq, renumberAdditional_eq, hproperties, hadditional]
  | reference id target => cases h
  | allOf parts ih =>
    simp only [references, referencesOfParts_eq, List.flatMap_eq_nil_iff] at h
    have hparts : parts.map (renumber f) = parts := by
      conv => rhs; rw [← List.map_id parts]
      refine List.map_congr_left fun part hpart => ?_
      rw [ih part hpart (h part hpart), id]
    rw [renumber, renumberParts_eq, hparts]

/-- Only the paths that the references get count for a patched schema, not their numbers. -/
theorem patch_renumber_congr {paths paths' : List String} (s : Schema)
    (h : ∀ x ∈ s.references, pathOf paths (f x.1) = pathOf paths' x.1) :
    ((s.renumber f).patch paths).withoutNumbers = (s.patch paths').withoutNumbers := by
  simp only [patch, withoutNumbers] at *
  induction s using inside_induction with
  | primitive | free | enumeration => rfl
  | array items ih =>
    simp only [renumber, mapReferences]
    rw [ih h]
  | object properties additional ihp iha =>
    simp only [references, referencesOfProperties_eq, List.mem_append, List.mem_flatMap] at h
    simp only [renumber, mapReferences, renumberProperties_eq, renumberAdditional_eq,
      mapProperties_eq, mapAdditional_eq, List.map_map]
    congr 1
    · refine List.map_congr_left fun p hp => ?_
      have hp' := ihp p hp fun x hx => h x (.inl ⟨p, hp, hx⟩)
      simp only [Function.comp_apply, hp']
    · cases additional with
      | none => rfl
      | some values =>
        have hvalues := iha values rfl fun x hx => h x (.inr hx)
        simp only [Option.map_some, hvalues]
  | reference id target =>
    have hid := h (id, target) (List.mem_singleton_self _)
    simp only [renumber, mapReferences, hid]
  | allOf parts ih =>
    simp only [references, referencesOfParts_eq, List.mem_flatMap] at h
    simp only [renumber, mapReferences, renumberParts_eq, mapParts_eq, List.map_map]
    congr 1
    refine List.map_congr_left fun part hpart => ?_
    have hpart' := ih part hpart fun x hx => h x ⟨part, hpart, hx⟩
    simp only [Function.comp_apply, hpart']

/-- The document does not tell the numbers. -/
theorem form_renumber (s : Schema) : (s.renumber f).form = s.form := by
  induction s using inside_induction with
  | primitive | free | reference | enumeration => rfl
  | array items ih => simp only [renumber, form, ih]
  | object properties additional ihp iha =>
    have hproperties : (renumberProperties f properties).map (fun p => (p.1, p.2.form)) =
        properties.map fun p => (p.1, p.2.form) := by
      rw [renumberProperties_eq, List.map_map]
      refine List.map_congr_left fun p hp => ?_
      simp only [Function.comp_apply, ihp p hp]
    have hadditional : additionalForm (renumberAdditional f additional) =
        additionalForm additional := by
      cases additional with
      | none => rfl
      | some values => simp only [renumberAdditional, additionalForm, iha values rfl]
    have hempty : (renumberProperties f properties).isEmpty = properties.isEmpty := by
      rw [renumberProperties_eq, List.isEmpty_map]
    simp only [renumber, form, propertiesForm_eq, hproperties, hadditional, hempty]
  | allOf parts ih =>
    have hparts : (renumberParts f parts).map form = parts.map form := by
      rw [renumberParts_eq, List.map_map]
      exact List.map_congr_left ih
    simp only [renumber, form, partsForm_eq, hparts]

theorem form_withoutNumbers (s : Schema) : s.withoutNumbers.form = s.form :=
  form_renumber s

end Schema

namespace Sources

variable {s : Sources}

theorem Wrapper.renumber_apply (wrapper : Wrapper) (f : Nat → Nat) (schema : Schema) :
    (wrapper.apply schema).renumber f = wrapper.apply (schema.renumber f) := by
  cases wrapper <;> rfl

theorem renumber_classSchema (f : Nat → Nat) (properties : List (String × Schema))
    (superclass : Option Schema) :
    (classSchema properties superclass).renumber f =
      classSchema (Schema.renumberProperties f properties) (superclass.map (·.renumber f)) := by
  cases superclass <;> rfl

/-- A description whose numbers begin later is the same with later numbers. -/
theorem describe_renumber (s : Sources) (m : Nat) :
    (∀ stack env scope type n, (s.describe stack env scope (m + n) type).1 =
      (s.describe stack env scope n type).1.renumber (m + ·)) ∧
    (∀ stack env d n, (s.describeClass stack env d (m + n)).1 =
      (s.describeClass stack env d n).1.renumber (m + ·)) ∧
    ∀ stack env scope fields n, (s.describeFields stack env scope (m + n) fields).1 =
      Schema.renumberProperties (m + ·) (s.describeFields stack env scope n fields).1 := by
  obtain ⟨types, -, allFields⟩ := describe_issued_eq s
  refine describe_induction s ?schema ?reference ?via ?inPlace ?plain ?extended ?nil ?cons
  case schema =>
    intro _ _ _ _ _ h n
    rw [describe_of_schema h, describe_of_schema h,
      Schema.renumber_of_references_eq_nil _ (references_of_plan h)]
  case reference =>
    intro _ _ _ _ _ _ h n
    rw [describe_of_reference h, describe_of_reference h]
    rfl
  case via =>
    intro _ _ _ _ _ _ _ _ h ih n
    rw [describe_of_via h, describe_of_via h, ih n, Wrapper.renumber_apply]
  case inPlace =>
    intro _ _ _ _ _ _ h ih n
    rw [describe_of_inPlace h, describe_of_inPlace h, ih n]
  case plain =>
    intro _ _ _ h ih n
    rw [describeClass_of_none h, describeClass_of_none h, ih n, renumber_classSchema]
    rfl
  case extended =>
    intro _ _ _ _ h ih₁ ih₂ n
    rw [describeClass_of_some h, describeClass_of_some h]
    simp only [renumber_classSchema, Option.map_some]
    rw [ih₁ n, allFields _ _ _ _ (m + n) n, Nat.add_assoc, ih₂]
  case nil =>
    intro _ _ _ n
    rw [describeFields_nil, describeFields_nil]
    rfl
  case cons =>
    intro _ _ _ _ _ ih₁ ih₂ n
    rw [describeFields_cons, describeFields_cons]
    simp only [Schema.renumberProperties]
    rw [ih₁ n, types _ _ _ _ (m + n) n, Nat.add_assoc, ih₂]

end Sources

namespace Generator

def extend (g : Generator) (issued : List Reference) : Generator :=
  { g with references := g.references ++ issued }

theorem extend_nil (g : Generator) : g.extend [] = g := by
  simp [extend]

theorem extend_extend (g : Generator) (rs rs' : List Reference) :
    (g.extend rs).extend rs' = g.extend (rs ++ rs') := by
  simp [extend]

/-- What has been given out before only moves the numbers. -/
theorem resolve_extend (s : Sources) (g h : Generator) (env : Environment) (scope : Scope)
    (type : Java.TypeRef) :
    (g.extend h.references).resolve s env scope type =
      ((h.resolve s env scope type).1.renumber (g.references.length + ·),
        g.extend (h.resolve s env scope type).2.references) := by
  have hlength : (g.extend h.references).references.length =
      g.references.length + h.references.length := List.length_append
  simp only [resolve, hlength]
  rw [(Sources.describe_renumber s g.references.length).1,
    (Sources.describe_issued_eq s).1 _ _ _ _ (g.references.length + _) h.references.length]
  simp [extend]

end Generator

end ApiRecovery
