import ApiRecovery.Schema.Plan

/-!
# Schemas of types

`describe` gives the schema of a type as written. Where a declaration needs a component of its own,
the schema is a reference, and the reference is returned with it, so that the component can be made
later. Every description ends: the depth left, the environment and the type decrease in this order.
-/

namespace ApiRecovery

open Java (Field TypeRef)

namespace Sources

mutual

/-- The schema of a type and the new references in it, numbered from `next` on. -/
def describe (s : Sources) (stack : List String) (env : Environment) (scope : Scope) (next : Nat)
    (type : TypeRef) : Schema × List Reference :=
  match h : s.plan stack env scope type with
  | .schema schema => (schema, [])
  | .reference name target => (.reference next none, [⟨name, scope, target⟩])
  | .via wrapper env scope type =>
    let (schema, references) := describe s stack env scope next type
    (wrapper.apply schema, references)
  | .inPlace d env =>
    have := (plan_eq_inPlace h).1
    describeClass s (d.qualifiedName :: stack) env d next
termination_by (maxFlattenDepth - stack.length, env.depth, sizeOf type)
decreasing_by
  · exact .right _ (plan_via_lt h)
  · decreasing_tactic

def describeClass (s : Sources) (stack : List String) (env : Environment) (d : Located)
    (next : Nat) : Schema × List Reference :=
  let (properties, references) := describeFields s stack env d.scope next d.declaration.dataFields
  match s.superclass? d with
  | none => (classSchema properties none, references)
  | some superclass =>
    let (parent, more) :=
      describe s stack env d.scope (next + references.length) superclass
    (classSchema properties (some parent), references ++ more)
termination_by (maxFlattenDepth - stack.length, env.depth + 1, 0)

def describeFields (s : Sources) (stack : List String) (env : Environment) (scope : Scope)
    (next : Nat) (fields : List Field) : List (String × Schema) × List Reference :=
  match fields with
  | [] => ([], [])
  | f :: fields =>
    have := f.sizeOf_type_lt
    let (schema, references) := describe s stack env scope next f.type
    let (properties, more) :=
      describeFields s stack env scope (next + references.length) fields
    ((s.serializedName scope f, schema) :: properties, references ++ more)
termination_by (maxFlattenDepth - stack.length, env.depth, sizeOf fields)

end

section

variable {s : Sources} {stack : List String} {env env' : Environment} {scope scope' : Scope}
  {type type' : TypeRef} {wrapper : Wrapper} {d : Located}

theorem describe_of_schema {schema : Schema} (h : s.plan stack env scope type = .schema schema)
    (next : Nat) : s.describe stack env scope next type = (schema, []) := by
  rw [describe]
  split <;> simp_all

theorem describe_of_reference {name : String} {target : Resolved}
    (h : s.plan stack env scope type = .reference name target) (next : Nat) :
    s.describe stack env scope next type = (.reference next none, [⟨name, scope, target⟩]) := by
  rw [describe]
  split <;> simp_all

theorem describe_of_via (h : s.plan stack env scope type = .via wrapper env' scope' type')
    (next : Nat) :
    s.describe stack env scope next type =
      (wrapper.apply (s.describe stack env' scope' next type').1,
        (s.describe stack env' scope' next type').2) := by
  rw [describe]
  split <;> simp_all

theorem describe_of_inPlace (h : s.plan stack env scope type = .inPlace d env') (next : Nat) :
    s.describe stack env scope next type =
      s.describeClass (d.qualifiedName :: stack) env' d next := by
  rw [describe]
  split <;> simp_all

theorem describeClass_of_none (h : s.superclass? d = none) (next : Nat) :
    s.describeClass stack env d next =
      (classSchema (s.describeFields stack env d.scope next d.declaration.dataFields).1 none,
        (s.describeFields stack env d.scope next d.declaration.dataFields).2) := by
  rw [describeClass, h]

theorem describeClass_of_some {superclass : TypeRef} (h : s.superclass? d = some superclass)
    (next : Nat) :
    s.describeClass stack env d next =
      (classSchema (s.describeFields stack env d.scope next d.declaration.dataFields).1
        (some (s.describe stack env d.scope
          (next + (s.describeFields stack env d.scope next d.declaration.dataFields).2.length)
          superclass).1),
        (s.describeFields stack env d.scope next d.declaration.dataFields).2 ++
          (s.describe stack env d.scope
            (next + (s.describeFields stack env d.scope next d.declaration.dataFields).2.length)
            superclass).2) := by
  rw [describeClass, h]

theorem describeFields_nil (next : Nat) : s.describeFields stack env scope next [] = ([], []) := by
  rw [describeFields]

theorem describeFields_cons (f : Field) (fields : List Field) (next : Nat) :
    s.describeFields stack env scope next (f :: fields) =
      ((s.serializedName scope f, (s.describe stack env scope next f.type).1) ::
        (s.describeFields stack env scope
          (next + (s.describe stack env scope next f.type).2.length) fields).1,
        (s.describe stack env scope next f.type).2 ++
          (s.describeFields stack env scope
            (next + (s.describe stack env scope next f.type).2.length) fields).2) := by
  rw [describeFields]

end

/-- What holds of a description if it holds of those that it is made from, holds of all. -/
theorem describe_induction (s : Sources)
    {onType : List String → Environment → Scope → TypeRef → Prop}
    {onClass : List String → Environment → Located → Prop}
    {onFields : List String → Environment → Scope → List Field → Prop}
    (schema : ∀ {stack env scope type schema},
      s.plan stack env scope type = .schema schema → onType stack env scope type)
    (reference : ∀ {stack env scope type name target},
      s.plan stack env scope type = .reference name target → onType stack env scope type)
    (via : ∀ {stack env scope type wrapper env' scope' type'},
      s.plan stack env scope type = .via wrapper env' scope' type' →
        onType stack env' scope' type' → onType stack env scope type)
    (inPlace : ∀ {stack env scope type d env'},
      s.plan stack env scope type = .inPlace d env' →
        onClass (d.qualifiedName :: stack) env' d → onType stack env scope type)
    (plain : ∀ {stack env d}, s.superclass? d = none →
      onFields stack env d.scope d.declaration.dataFields → onClass stack env d)
    (extended : ∀ {stack env d superclass}, s.superclass? d = some superclass →
      onFields stack env d.scope d.declaration.dataFields →
        onType stack env d.scope superclass → onClass stack env d)
    (nil : ∀ {stack env scope}, onFields stack env scope [])
    (cons : ∀ {stack env scope f fields}, onType stack env scope f.type →
      onFields stack env scope fields → onFields stack env scope (f :: fields)) :
    (∀ stack env scope type, onType stack env scope type) ∧
      (∀ stack env d, onClass stack env d) ∧
      ∀ stack env scope fields, onFields stack env scope fields := by
  obtain ⟨types, classes, fields⟩ := describe.mutual_induct s
    (fun stack env scope _ type => onType stack env scope type)
    (fun stack env d _ => onClass stack env d)
    (fun stack env scope _ fields => onFields stack env scope fields)
    (fun _ _ _ _ _ _ h => schema h)
    (fun _ _ _ _ _ _ _ h => reference h)
    (fun _ _ _ _ _ _ _ _ _ h _ _ _ ih => via h ih)
    (fun _ _ _ _ _ _ _ h _ ih => inPlace h ih)
    (fun _ _ _ _ _ _ _ h ih => plain h ih)
    (fun _ _ _ _ _ _ _ _ h _ _ _ ih₁ ih₂ => extended h ih₁ ih₂)
    (fun _ _ _ _ => nil)
    (fun _ _ _ _ _ _ _ _ _ _ _ _ _ ih₁ ih₂ => cons ih₁ ih₂)
  exact ⟨fun stack env scope => types stack env scope 0, fun stack env d => classes stack env d 0,
    fun stack env scope => fields stack env scope 0⟩

/-- The references of a description stand for what their names stand for in their scopes. -/
theorem describe_resolves (s : Sources) :
    (∀ stack env scope type next, ∀ r ∈ (s.describe stack env scope next type).2,
      s.corpus.resolveName r.scope r.name = .ok r.target) ∧
    (∀ stack env d next, ∀ r ∈ (s.describeClass stack env d next).2,
      s.corpus.resolveName r.scope r.name = .ok r.target) ∧
    ∀ stack env scope fields next, ∀ r ∈ (s.describeFields stack env scope next fields).2,
      s.corpus.resolveName r.scope r.name = .ok r.target := by
  refine describe_induction s ?schema ?reference ?via ?inPlace ?plain ?extended ?nil ?cons
  case schema =>
    intro _ _ _ _ _ h next r hr
    rw [describe_of_schema h] at hr
    cases hr
  case reference =>
    intro _ _ _ _ _ _ h next r hr
    rw [describe_of_reference h, List.mem_singleton] at hr
    rw [hr]
    exact plan_eq_reference h
  case via =>
    intro _ _ _ _ _ _ _ _ h ih next r hr
    rw [describe_of_via h] at hr
    exact ih next r hr
  case inPlace =>
    intro _ _ _ _ _ _ h ih next r hr
    rw [describe_of_inPlace h] at hr
    exact ih next r hr
  case plain =>
    intro _ _ _ h ih next r hr
    rw [describeClass_of_none h] at hr
    exact ih next r hr
  case extended =>
    intro _ _ _ _ h ih₁ ih₂ next r hr
    rw [describeClass_of_some h, List.mem_append] at hr
    exact hr.elim (ih₁ next r) (ih₂ _ r)
  case nil =>
    intro _ _ _ next r hr
    rw [describeFields_nil] at hr
    cases hr
  case cons =>
    intro _ _ _ _ _ ih₁ ih₂ next r hr
    rw [describeFields_cons, List.mem_append] at hr
    exact hr.elim (ih₁ next r) (ih₂ _ r)

end Sources

end ApiRecovery
