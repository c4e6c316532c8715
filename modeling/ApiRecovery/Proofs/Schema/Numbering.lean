import ApiRecovery.Proofs.Schema.References
import ApiRecovery.Schema.Resolve

/-!
# The numbers of new references

A description that gives out `n` references, numbered from `next` on, holds exactly the numbers from
`next` to `next + n - 1`, each once and without a target. Which references it gives out does not
depend on where the numbers begin.
-/

namespace ApiRecovery

open Java (TypeRef)

theorem Schema.references_mapOf (s : Schema) : (Schema.mapOf s).references = s.references := by
  simp [mapOf, references, referencesOfProperties, referencesOfAdditional]

namespace Sources

theorem Wrapper.references_apply (wrapper : Wrapper) (schema : Schema) :
    (wrapper.apply schema).references = schema.references := by
  cases wrapper with
  | bare => rfl
  | array => rw [apply, Schema.references]
  | map => exact Schema.references_mapOf schema

theorem references_primitiveSchema (p : Java.Primitive) : (primitiveSchema p).references = [] := by
  cases p <;> rfl

theorem references_fixedSchema {name : String} {schema : Schema}
    (h : fixedSchema? name = some schema) : schema.references = [] := by
  unfold fixedSchema? at h
  split at h <;> cases h <;> rfl

theorem references_valueSchema {name : String} {schema : Schema}
    (h : valueSchemas.lookup name = some schema) : schema.references = [] := by
  have hall : ∀ p ∈ valueSchemas, p.2.references = [] := by decide
  obtain ⟨l, r, heq, -⟩ := List.lookup_eq_some_iff.1 h
  exact hall (name, schema) (by rw [heq]; simp)

theorem references_forcedSchema (signature : Signature) :
    (signature.schema.getD .free).references = [] := by
  rw [Signature.schema]
  rcases signature.forced with _ | ⟨_ | ⟨type, format⟩⟩ <;> rfl

variable {s : Sources} {stack : List String} {env : Environment} {scope : Scope} {type : TypeRef}

theorem references_of_planTarget {name : String} {arguments : List TypeRef} {target : Resolved}
    {schema : Schema} (h : s.planTarget stack env scope name arguments target = .schema schema) :
    schema.references = [] := by
  simp only [planTarget] at h
  repeat' split at h
  all_goals cases h
  all_goals first
    | rfl
    | exact references_forcedSchema _
    | exact references_valueSchema ‹_›

theorem references_of_plan {schema : Schema} (h : s.plan stack env scope type = .schema schema) :
    schema.references = [] := by
  cases type with
  | primitive p => cases h; exact references_primitiveSchema p
  | named name arguments =>
    simp only [plan] at h
    split at h
    · cases h; rfl
    · cases h
    · split at h
      · cases h; exact references_fixedSchema ‹_›
      · split at h
        · cases h; rfl
        · exact references_of_planTarget h
  | array | upper => cases h
  | _ => cases h; rfl

def Plan.target? : Plan → Option Resolved
  | .reference _ target => some target
  | _ => none

theorem describe_of_target? {target : Resolved}
    (h : (s.plan stack env scope type).target? = some target) (next : Nat) :
    ∃ name, s.describe stack env scope next type =
      (.reference next none, [⟨name, scope, target⟩]) := by
  cases hplan : s.plan stack env scope type with
  | reference name target' =>
    rw [hplan] at h
    cases h
    exact ⟨name, describe_of_reference hplan next⟩
  | _ =>
    rw [hplan] at h
    cases h

def freshReferences (next count : Nat) : List (Nat × Option String) :=
  (List.range' next count).map fun id => (id, none)

theorem freshReferences_append (next m n : Nat) :
    freshReferences next m ++ freshReferences (next + m) n = freshReferences next (m + n) := by
  rw [freshReferences, freshReferences, ← List.map_append, List.range'_append_1]
  rfl

theorem numberedBelow_of_perm {s : Schema} {next count : Nat}
    (h : s.references.Perm (freshReferences next count)) : s.NumberedBelow (next + count) := by
  intro x hx
  obtain ⟨id, hid, rfl⟩ := List.mem_map.1 (h.mem_iff.1 hx)
  exact (List.mem_range'_1.1 hid).2

/-- A description holds the references that it gives out and no others, each once. -/
theorem describe_references (s : Sources) :
    (∀ stack env scope type next, (s.describe stack env scope next type).1.references.Perm
      (freshReferences next (s.describe stack env scope next type).2.length)) ∧
    (∀ stack env d next, (s.describeClass stack env d next).1.references.Perm
      (freshReferences next (s.describeClass stack env d next).2.length)) ∧
    ∀ stack env scope fields next,
      (Schema.referencesOfProperties (s.describeFields stack env scope next fields).1).Perm
        (freshReferences next (s.describeFields stack env scope next fields).2.length) := by
  refine describe_induction s ?schema ?reference ?via ?inPlace ?plain ?extended ?nil ?cons
  case schema =>
    intro _ _ _ _ _ h next
    rw [describe_of_schema h, references_of_plan h]
    exact .nil
  case reference =>
    intro _ _ _ _ _ _ h next
    rw [describe_of_reference h]
    exact .refl _
  case via =>
    intro _ _ _ _ _ _ _ _ h ih next
    rw [describe_of_via h, Wrapper.references_apply]
    exact ih next
  case inPlace =>
    intro _ _ _ _ _ _ h ih next
    rw [describe_of_inPlace h]
    exact ih next
  case plain =>
    intro _ _ _ h ih next
    rw [describeClass_of_none h, classSchema, Schema.references, Schema.referencesOfAdditional,
      List.append_nil]
    exact ih next
  case extended =>
    intro _ _ _ _ h ih₁ ih₂ next
    rw [describeClass_of_some h, classSchema, Schema.references, Schema.referencesOfParts,
      Schema.referencesOfParts, Schema.referencesOfParts, Schema.references,
      Schema.referencesOfAdditional, List.append_nil, List.append_nil, List.length_append,
      ← freshReferences_append]
    -- the superclass is described last, but its schema comes first
    exact List.perm_append_comm.trans ((ih₁ next).append (ih₂ _))
  case nil =>
    intro _ _ _ next
    rw [describeFields_nil]
    exact .nil
  case cons =>
    intro _ _ _ _ _ ih₁ ih₂ next
    rw [describeFields_cons, Schema.referencesOfProperties, List.length_append,
      ← freshReferences_append]
    exact (ih₁ next).append (ih₂ _)

/-- Where the numbers begin does not matter for the references that are given out. -/
theorem describe_issued_eq (s : Sources) :
    (∀ stack env scope type m n,
      (s.describe stack env scope m type).2 = (s.describe stack env scope n type).2) ∧
    (∀ stack env d m n, (s.describeClass stack env d m).2 = (s.describeClass stack env d n).2) ∧
    ∀ stack env scope fields m n,
      (s.describeFields stack env scope m fields).2 =
        (s.describeFields stack env scope n fields).2 := by
  refine describe_induction s ?schema ?reference ?via ?inPlace ?plain ?extended ?nil ?cons
  case schema =>
    intro _ _ _ _ _ h m n
    rw [describe_of_schema h, describe_of_schema h]
  case reference =>
    intro _ _ _ _ _ _ h m n
    rw [describe_of_reference h, describe_of_reference h]
  case via =>
    intro _ _ _ _ _ _ _ _ h ih m n
    rw [describe_of_via h, describe_of_via h]
    exact ih m n
  case inPlace =>
    intro _ _ _ _ _ _ h ih m n
    rw [describe_of_inPlace h, describe_of_inPlace h]
    exact ih m n
  case plain =>
    intro _ _ _ h ih m n
    rw [describeClass_of_none h, describeClass_of_none h]
    exact ih m n
  case extended =>
    intro _ _ _ _ h ih₁ ih₂ m n
    rw [describeClass_of_some h, describeClass_of_some h]
    exact congrArg₂ (· ++ ·) (ih₁ m n) (ih₂ _ _)
  case nil =>
    intro _ _ _ m n
    rw [describeFields_nil, describeFields_nil]
  case cons =>
    intro _ _ _ _ _ ih₁ ih₂ m n
    rw [describeFields_cons, describeFields_cons]
    exact congrArg₂ (· ++ ·) (ih₁ m n) (ih₂ _ _)

end Sources

end ApiRecovery
