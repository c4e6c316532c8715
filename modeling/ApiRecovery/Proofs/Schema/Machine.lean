import ApiRecovery.Schema.Generator
import Mathlib.Logic.Function.Iterate

/-!
# Descriptions step by step

A machine that describes types with explicit stacks: what is to be done with the schema at hand, and
which generic declarations are being described in place. It takes one decision of `plan` at a time,
so a description that did not end would be a run without end. The machine reaches the schema that
`describe` gives, and its stack of declarations is never deeper than allowed.
-/

namespace ApiRecovery

open Java (Field TypeRef)

namespace Machine

inductive Control
  | type (env : Environment) (scope : Scope) (type : TypeRef)
  | fields (env : Environment) (d : Located) (left : List Field)
      (properties : List (String × Schema))
  | schema (schema : Schema)

/-- What is to be done with a schema once it has been found. -/
inductive Frame
  | wrap (wrapper : Sources.Wrapper)
  | field (env : Environment) (d : Located) (name : String) (left : List Field)
      (properties : List (String × Schema))
  | superclass (properties : List (String × Schema))
  /-- it is that of a declaration described in place, which is left now -/
  | leave

end Machine

open Machine

structure Machine where
  control : Control
  frames : List Frame
  /-- the generic declarations that are being described, innermost first -/
  flattening : List String
  references : List Reference

namespace Machine

/-- One step; none where a schema has been found and nothing is to be done with it. -/
def step (s : Sources) (m : Machine) : Option Machine :=
  match m.control with
  | .type env scope type =>
    match s.plan m.flattening env scope type with
    | .schema schema => some { m with control := .schema schema }
    | .reference name target =>
      some { m with
        control := .schema (.reference m.references.length none)
        references := m.references ++ [⟨name, scope, target⟩] }
    | .via wrapper env scope type =>
      some { m with control := .type env scope type, frames := .wrap wrapper :: m.frames }
    | .inPlace d env =>
      some { m with
        control := .fields env d d.declaration.dataFields []
        frames := .leave :: m.frames
        flattening := d.qualifiedName :: m.flattening }
  | .fields env d (f :: left) properties =>
    some { m with
      control := .type env d.scope f.type
      frames := .field env d (s.serializedName d.scope f) left properties :: m.frames }
  | .fields env d [] properties =>
    match s.superclass? d with
    | none => some { m with control := .schema (Sources.classSchema properties none) }
    | some superclass =>
      some { m with
        control := .type env d.scope superclass
        frames := .superclass properties :: m.frames }
  | .schema schema =>
    match m.frames with
    | [] => none
    | .wrap wrapper :: frames =>
      some { m with control := .schema (wrapper.apply schema), frames }
    | .field env d name left properties :: frames =>
      some { m with control := .fields env d left (properties ++ [(name, schema)]), frames }
    | .superclass properties :: frames =>
      some { m with control := .schema (Sources.classSchema properties (some schema)), frames }
    | .leave :: frames => some { m with frames, flattening := m.flattening.tail }

def advance (s : Sources) (m : Machine) : Machine :=
  (m.step s).getD m

/-- Steps lead from one state to another, with at most `bound` declarations being described. -/
inductive Runs (s : Sources) (bound : Nat) : Machine → Machine → Prop
  | refl {m : Machine} : m.flattening.length ≤ bound → Runs s bound m m
  | head {m m' m'' : Machine} : m.flattening.length ≤ bound → m.step s = some m' →
      Runs s bound m' m'' → Runs s bound m m''

section

variable {s : Sources} {bound : Nat} {m m' m'' : Machine}

theorem Runs.trans (h : Runs s bound m m') (h' : Runs s bound m' m'') : Runs s bound m m'' := by
  induction h with
  | refl => exact h'
  | head hle hstep _ ih => exact .head hle hstep (ih h')

theorem Runs.tail (h : Runs s bound m m') (hstep : m'.step s = some m'')
    (hle : m''.flattening.length ≤ bound) : Runs s bound m m'' := by
  refine h.trans (.head ?_ hstep (.refl hle))
  clear hstep
  induction h with
  | refl h => exact h
  | head _ _ _ ih => exact ih

/-- A run to a state without a step is all that the machine does. -/
theorem Runs.exists_advance (h : Runs s bound m m') (hfinal : m'.step s = none) :
    ∃ n, (advance s)^[n] m = m' ∧ ∀ k, ((advance s)^[k] m).flattening.length ≤ bound := by
  induction h with
  | @refl m hle =>
    have hstay : advance s m = m := by rw [advance, hfinal, Option.getD_none]
    refine ⟨0, rfl, fun k => ?_⟩
    rwa [Function.iterate_fixed hstay]
  | @head m m₁ _ hle hstep _ ih =>
    obtain ⟨n, hn, hbound⟩ := ih hfinal
    have hadvance : advance s m = m₁ := by rw [advance, hstep, Option.getD_some]
    refine ⟨n + 1, by rw [Function.iterate_succ_apply, hadvance, hn], fun k => ?_⟩
    cases k with
    | zero => exact hle
    | succ k =>
      rw [Function.iterate_succ_apply, hadvance]
      exact hbound k

end

/-- The machine finds the schema that a description gives, gives out the same references, and leaves
its stacks as they were. -/
theorem runs_describe (s : Sources) (bound : Nat) (hbound : maxFlattenDepth ≤ bound) :
    (∀ stack env scope type, stack.length ≤ bound → ∀ frames references,
      Runs s bound ⟨.type env scope type, frames, stack, references⟩
        ⟨.schema (s.describe stack env scope references.length type).1, frames, stack,
          references ++ (s.describe stack env scope references.length type).2⟩) ∧
    (∀ stack env d, stack.length ≤ bound → ∀ frames references,
      Runs s bound ⟨.fields env d d.declaration.dataFields [], frames, stack, references⟩
        ⟨.schema (s.describeClass stack env d references.length).1, frames, stack,
          references ++ (s.describeClass stack env d references.length).2⟩) ∧
    ∀ stack env scope fields, stack.length ≤ bound → ∀ d, d.scope = scope →
      ∀ properties frames references,
      Runs s bound ⟨.fields env d fields properties, frames, stack, references⟩
        ⟨.fields env d []
            (properties ++ (s.describeFields stack env scope references.length fields).1),
          frames, stack,
          references ++ (s.describeFields stack env scope references.length fields).2⟩ := by
  refine Sources.describe_induction s ?schema ?reference ?via ?inPlace ?plain ?extended ?nil ?cons
  case schema =>
    intro _ _ _ _ _ h hle frames references
    rw [Sources.describe_of_schema h, List.append_nil]
    exact .head hle (by simp only [step, h]) (.refl hle)
  case reference =>
    intro _ _ _ _ _ _ h hle frames references
    rw [Sources.describe_of_reference h]
    exact .head hle (by simp only [step, h]) (.refl hle)
  case via =>
    intro stack env scope type wrapper env' scope' type' h ih hle frames references
    rw [Sources.describe_of_via h]
    have hstep : step s ⟨.type env scope type, frames, stack, references⟩ =
        some ⟨.type env' scope' type', .wrap wrapper :: frames, stack, references⟩ := by
      simp only [step, h]
    exact .head hle hstep ((ih hle _ references).tail rfl hle)
  case inPlace =>
    intro stack env scope type d env' h ih hle frames references
    rw [Sources.describe_of_inPlace h]
    have hstep : step s ⟨.type env scope type, frames, stack, references⟩ =
        some ⟨.fields env' d d.declaration.dataFields [], .leave :: frames,
          d.qualifiedName :: stack, references⟩ := by
      simp only [step, h]
    -- a plan describes in place only where one more declaration is allowed
    have hdeep : (d.qualifiedName :: stack).length ≤ bound :=
      Nat.le_trans (Sources.plan_eq_inPlace h).1 hbound
    exact .head hle hstep ((ih hdeep _ references).tail rfl hle)
  case plain =>
    intro stack _ d h ih hle frames references
    rw [Sources.describeClass_of_none h]
    refine (ih hle d rfl [] frames references).tail ?_ hle
    simp only [step, h, List.nil_append]
  case extended =>
    intro stack env d superclass h ih₁ ih₂ hle frames references
    rw [Sources.describeClass_of_some h, ← List.append_assoc, ← List.length_append]
    have hstep : ∀ properties references,
        step s ⟨.fields env d [] properties, frames, stack, references⟩ =
          some ⟨.type env d.scope superclass, .superclass properties :: frames, stack,
            references⟩ := by
      intro properties references
      simp only [step, h]
    exact (ih₁ hle d rfl [] frames references).trans
      (.head hle (hstep _ _) ((ih₂ hle _ _).tail rfl hle))
  case nil =>
    intro stack _ _ hle d _ properties frames references
    rw [Sources.describeFields_nil, List.append_nil, List.append_nil]
    exact .refl hle
  case cons =>
    intro stack env _ f fields ih₁ ih₂ hle d hscope properties frames references
    subst hscope
    rw [Sources.describeFields_cons, ← List.append_assoc, ← List.length_append, List.append_cons]
    have hstep : step s ⟨.fields env d (f :: fields) properties, frames, stack, references⟩ =
        some ⟨.type env d.scope f.type,
          .field env d (s.serializedName d.scope f) fields properties :: frames, stack,
          references⟩ := rfl
    exact .head hle hstep
      ((ih₁ hle _ references).trans (.head hle rfl (ih₂ hle d rfl _ frames _)))

end Machine

end ApiRecovery
