import ApiRecovery.Proofs.Schema.Run

/-!
# What resolving a type changes

Resolving a type as it goes about its work: references are put on a worklist and into a table of
targets as they come up, and a generic declaration is on a stack while it is described in place. The
relation follows the plans one by one and hands on the whole workspace, so that anything could be
changed on the way. It has one outcome, in which the stack is as before and the worklist and the
table are longer by the references of the schema.
-/

namespace ApiRecovery

open Java (Field TypeRef)

structure Workspace where
  /-- the references that wait, with their numbers -/
  worklist : List (Nat × Reference)
  /-- the qualified names of the references by their numbers, where they have been looked after -/
  targets : List (Option String)
  registry : Registry
  /-- the generic declarations that are being described in place, innermost first -/
  flattening : List String

namespace Workspace

/-- Gives out the next number, for a reference that waits from now on. -/
def enqueue (w : Workspace) (r : Reference) : Workspace :=
  { w with
    worklist := w.worklist ++ [(w.targets.length, r)]
    targets := w.targets ++ [none] }

def enter (w : Workspace) (qualifiedName : String) : Workspace :=
  { w with flattening := qualifiedName :: w.flattening }

def leave (w : Workspace) : Workspace :=
  { w with flattening := w.flattening.tail }

mutual

/-- How a type is resolved, from one workspace to the next. -/
inductive Resolves (s : Sources) :
    Workspace → Environment → Scope → TypeRef → Schema → Workspace → Prop
  | schema {w : Workspace} {env : Environment} {scope : Scope} {type : TypeRef} {schema : Schema} :
      s.plan w.flattening env scope type = .schema schema → Resolves s w env scope type schema w
  | reference {w : Workspace} {env : Environment} {scope : Scope} {type : TypeRef} {name : String}
      {target : Resolved} :
      s.plan w.flattening env scope type = .reference name target →
      Resolves s w env scope type (.reference w.targets.length none)
        (w.enqueue ⟨name, scope, target⟩)
  | via {w w' : Workspace} {env env' : Environment} {scope scope' : Scope} {type type' : TypeRef}
      {wrapper : Sources.Wrapper} {schema : Schema} :
      s.plan w.flattening env scope type = .via wrapper env' scope' type' →
      Resolves s w env' scope' type' schema w' →
      Resolves s w env scope type (wrapper.apply schema) w'
  | inPlace {w w' : Workspace} {env env' : Environment} {scope : Scope} {type : TypeRef}
      {d : Located} {schema : Schema} :
      s.plan w.flattening env scope type = .inPlace d env' →
      ResolvesClass s (w.enter d.qualifiedName) env' d schema w' →
      Resolves s w env scope type schema w'.leave

/-- How a class is resolved: its fields first, then what it extends. -/
inductive ResolvesClass (s : Sources) :
    Workspace → Environment → Located → Schema → Workspace → Prop
  | plain {w w' : Workspace} {env : Environment} {d : Located}
      {properties : List (String × Schema)} :
      ResolvesFields s w env d.scope d.declaration.dataFields properties w' →
      s.superclass? d = none →
      ResolvesClass s w env d (Sources.classSchema properties none) w'
  | extended {w w' w'' : Workspace} {env : Environment} {d : Located}
      {properties : List (String × Schema)} {superclass : TypeRef} {parent : Schema} :
      ResolvesFields s w env d.scope d.declaration.dataFields properties w' →
      s.superclass? d = some superclass →
      Resolves s w' env d.scope superclass parent w'' →
      ResolvesClass s w env d (Sources.classSchema properties (some parent)) w''

inductive ResolvesFields (s : Sources) :
    Workspace → Environment → Scope → List Field → List (String × Schema) → Workspace → Prop
  | nil {w : Workspace} {env : Environment} {scope : Scope} : ResolvesFields s w env scope [] [] w
  | cons {w w' w'' : Workspace} {env : Environment} {scope : Scope} {f : Field}
      {fields : List Field} {schema : Schema} {properties : List (String × Schema)} :
      Resolves s w env scope f.type schema w' →
      ResolvesFields s w' env scope fields properties w'' →
      ResolvesFields s w env scope (f :: fields)
        ((s.serializedName scope f, schema) :: properties) w''

end

/-! ## Its outcome -/

def numbered (next : Nat) (issued : List Reference) : List (Nat × Reference) :=
  (List.range' next issued.length).zip issued

theorem numbered_append (next : Nat) (issued more : List Reference) :
    numbered next issued ++ numbered (next + issued.length) more =
      numbered next (issued ++ more) := by
  rw [numbered, numbered, numbered, ← List.zip_append (by rw [List.length_range']),
    List.range'_append_1, List.length_append]

def append (w : Workspace) (issued : List Reference) : Workspace :=
  { w with
    worklist := w.worklist ++ numbered w.targets.length issued
    targets := w.targets ++ List.replicate issued.length none }

theorem append_nil (w : Workspace) : w.append [] = w := by
  simp [append, numbered]

theorem append_singleton (w : Workspace) (r : Reference) : w.append [r] = w.enqueue r := rfl

@[simp] theorem length_targets_append (w : Workspace) (issued : List Reference) :
    (w.append issued).targets.length = w.targets.length + issued.length := by
  simp [append]

theorem append_append (w : Workspace) (issued more : List Reference) :
    (w.append issued).append more = w.append (issued ++ more) := by
  have hnumbers := numbered_append w.targets.length issued more
  simp [append, ← hnumbers]

/-- A declaration that is entered and left again makes no difference. -/
theorem leave_append_enter (w : Workspace) (qualifiedName : String) (issued : List Reference) :
    ((w.enter qualifiedName).append issued).leave = w.append issued := rfl

section

variable {s : Sources} {w w' : Workspace} {env env' : Environment} {scope scope' : Scope}
  {type type' : TypeRef} {schema schema' : Schema} {d : Located}
  {properties : List (String × Schema)}

theorem resolves_iff_of_schema (h : s.plan w.flattening env scope type = .schema schema) :
    Resolves s w env scope type schema' w' ↔ schema' = schema ∧ w' = w := by
  constructor
  · intro hresolves
    cases hresolves <;> simp_all
  · rintro ⟨rfl, rfl⟩
    exact .schema h

theorem resolves_iff_of_reference {name : String} {target : Resolved}
    (h : s.plan w.flattening env scope type = .reference name target) :
    Resolves s w env scope type schema w' ↔
      schema = .reference w.targets.length none ∧ w' = w.enqueue ⟨name, scope, target⟩ := by
  constructor
  · intro hresolves
    cases hresolves <;> simp_all
  · rintro ⟨rfl, rfl⟩
    exact .reference h

theorem resolves_iff_of_via {wrapper : Sources.Wrapper}
    (h : s.plan w.flattening env scope type = .via wrapper env' scope' type') :
    Resolves s w env scope type schema w' ↔
      ∃ inner, Resolves s w env' scope' type' inner w' ∧ schema = wrapper.apply inner := by
  constructor
  · intro hresolves
    cases hresolves with
    | via hplan hinner =>
      cases h.symm.trans hplan
      exact ⟨_, hinner, rfl⟩
    | _ hplan => cases h.symm.trans hplan
  · rintro ⟨inner, hinner, rfl⟩
    exact .via h hinner

theorem resolves_iff_of_inPlace (h : s.plan w.flattening env scope type = .inPlace d env') :
    Resolves s w env scope type schema w' ↔
      ∃ w₁, ResolvesClass s (w.enter d.qualifiedName) env' d schema w₁ ∧ w' = w₁.leave := by
  constructor
  · intro hresolves
    cases hresolves with
    | inPlace hplan hclass =>
      cases h.symm.trans hplan
      exact ⟨_, hclass, rfl⟩
    | _ hplan => cases h.symm.trans hplan
  · rintro ⟨w₁, hclass, rfl⟩
    exact .inPlace h hclass

theorem resolvesClass_iff_of_none (h : s.superclass? d = none) :
    ResolvesClass s w env d schema w' ↔
      ∃ properties, ResolvesFields s w env d.scope d.declaration.dataFields properties w' ∧
        schema = Sources.classSchema properties none := by
  constructor
  · intro hresolves
    cases hresolves with
    | plain hfields _ => exact ⟨_, hfields, rfl⟩
    | extended _ hsuperclass _ => cases h.symm.trans hsuperclass
  · rintro ⟨properties, hfields, rfl⟩
    exact .plain hfields h

theorem resolvesClass_iff_of_some {superclass : TypeRef} (h : s.superclass? d = some superclass) :
    ResolvesClass s w env d schema w' ↔
      ∃ properties w₁ parent,
        ResolvesFields s w env d.scope d.declaration.dataFields properties w₁ ∧
        Resolves s w₁ env d.scope superclass parent w' ∧
        schema = Sources.classSchema properties (some parent) := by
  constructor
  · intro hresolves
    cases hresolves with
    | plain _ hsuperclass => cases h.symm.trans hsuperclass
    | extended hfields hsuperclass hparent =>
      cases h.symm.trans hsuperclass
      exact ⟨_, _, _, hfields, hparent, rfl⟩
  · rintro ⟨properties, w₁, parent, hfields, hparent, rfl⟩
    exact .extended hfields h hparent

theorem resolvesFields_nil_iff :
    ResolvesFields s w env scope [] properties w' ↔ properties = [] ∧ w' = w := by
  constructor
  · intro hresolves
    cases hresolves
    exact ⟨rfl, rfl⟩
  · rintro ⟨rfl, rfl⟩
    exact .nil

theorem resolvesFields_cons_iff {f : Field} {fields : List Field} :
    ResolvesFields s w env scope (f :: fields) properties w' ↔
      ∃ schema w₁ rest, Resolves s w env scope f.type schema w₁ ∧
        ResolvesFields s w₁ env scope fields rest w' ∧
        properties = (s.serializedName scope f, schema) :: rest := by
  constructor
  · intro hresolves
    cases hresolves with
    | cons htype hfields => exact ⟨_, _, _, htype, hfields, rfl⟩
  · rintro ⟨schema, w₁, rest, htype, hfields, rfl⟩
    exact .cons htype hfields

end

/-- A type is resolved in one way: to the schema that describes it, with the references in it added
to the workspace. -/
theorem resolves_iff_describe (s : Sources) :
    (∀ stack env scope type, ∀ w : Workspace, w.flattening = stack → ∀ schema w',
      Resolves s w env scope type schema w' ↔
        schema = (s.describe stack env scope w.targets.length type).1 ∧
        w' = w.append (s.describe stack env scope w.targets.length type).2) ∧
    (∀ stack env d, ∀ w : Workspace, w.flattening = stack → ∀ schema w',
      ResolvesClass s w env d schema w' ↔
        schema = (s.describeClass stack env d w.targets.length).1 ∧
        w' = w.append (s.describeClass stack env d w.targets.length).2) ∧
    ∀ stack env scope fields, ∀ w : Workspace, w.flattening = stack → ∀ properties w',
      ResolvesFields s w env scope fields properties w' ↔
        properties = (s.describeFields stack env scope w.targets.length fields).1 ∧
        w' = w.append (s.describeFields stack env scope w.targets.length fields).2 := by
  refine Sources.describe_induction s ?schema ?reference ?via ?inPlace ?plain ?extended ?nil ?cons
  case schema =>
    rintro _ env scope type _ h w rfl schema w'
    rw [resolves_iff_of_schema h, Sources.describe_of_schema h, append_nil]
  case reference =>
    rintro _ env scope type name target h w rfl schema w'
    rw [resolves_iff_of_reference h, Sources.describe_of_reference h, append_singleton]
  case via =>
    rintro _ env scope type wrapper env' scope' type' h ih w rfl schema w'
    rw [resolves_iff_of_via h, Sources.describe_of_via h]
    simp only [ih w rfl]
    grind
  case inPlace =>
    rintro _ env scope type d env' h ih w rfl schema w'
    rw [resolves_iff_of_inPlace h, Sources.describe_of_inPlace h]
    simp only [ih (w.enter d.qualifiedName) rfl]
    -- the declaration is the innermost one until it is left
    constructor
    · rintro ⟨_, ⟨rfl, rfl⟩, rfl⟩
      exact ⟨rfl, leave_append_enter w _ _⟩
    · rintro ⟨rfl, rfl⟩
      exact ⟨_, ⟨rfl, rfl⟩, (leave_append_enter w _ _).symm⟩
  case plain =>
    rintro _ env d h ih w rfl schema w'
    rw [resolvesClass_iff_of_none h, Sources.describeClass_of_none h]
    simp only [ih w rfl]
    grind
  case extended =>
    rintro _ env d superclass h ih₁ ih₂ w rfl schema w'
    rw [resolvesClass_iff_of_some h, Sources.describeClass_of_some h]
    have hparent : ∀ issued parent w', Resolves s (w.append issued) env d.scope superclass parent w' ↔
        parent = (s.describe w.flattening env d.scope (w.targets.length + issued.length)
          superclass).1 ∧
        w' = w.append (issued ++ (s.describe w.flattening env d.scope
          (w.targets.length + issued.length) superclass).2) := by
      intro issued parent w'
      rw [ih₂ (w.append issued) rfl, length_targets_append, append_append]
    simp only [ih₁ w rfl]
    constructor
    · rintro ⟨_, _, parent, ⟨rfl, rfl⟩, hresolves, rfl⟩
      obtain ⟨rfl, rfl⟩ := (hparent _ _ _).1 hresolves
      exact ⟨rfl, rfl⟩
    · rintro ⟨rfl, rfl⟩
      exact ⟨_, _, _, ⟨rfl, rfl⟩, (hparent _ _ _).2 ⟨rfl, rfl⟩, rfl⟩
  case nil =>
    rintro _ env scope w rfl properties w'
    rw [resolvesFields_nil_iff, Sources.describeFields_nil, append_nil]
  case cons =>
    rintro _ env scope f fields ih₁ ih₂ w rfl properties w'
    rw [resolvesFields_cons_iff, Sources.describeFields_cons]
    have hrest : ∀ issued rest w', ResolvesFields s (w.append issued) env scope fields rest w' ↔
        rest = (s.describeFields w.flattening env scope (w.targets.length + issued.length)
          fields).1 ∧
        w' = w.append (issued ++ (s.describeFields w.flattening env scope
          (w.targets.length + issued.length) fields).2) := by
      intro issued rest w'
      rw [ih₂ (w.append issued) rfl, length_targets_append, append_append]
    simp only [ih₁ w rfl]
    constructor
    · rintro ⟨_, _, rest, ⟨rfl, rfl⟩, hresolves, rfl⟩
      obtain ⟨rfl, rfl⟩ := (hrest _ _ _).1 hresolves
      exact ⟨rfl, rfl⟩
    · rintro ⟨rfl, rfl⟩
      exact ⟨_, _, _, ⟨rfl, rfl⟩, (hrest _ _ _).2 ⟨rfl, rfl⟩, rfl⟩

end Workspace

namespace Generator

def workspace (g : Generator) : Workspace where
  worklist := (Workspace.numbered 0 g.references).drop g.done
  targets := g.references.zipIdx.map fun (r, id) =>
    if id < g.done then some r.target.qualifiedName else none
  registry := g.registry
  flattening := []

@[simp] theorem length_targets_workspace (g : Generator) :
    g.workspace.targets.length = g.references.length := by
  simp [workspace]

/-- Resolving a type adds to the workspace what is added to the references. -/
theorem workspace_resolve {g : Generator} (hdone : g.done ≤ g.references.length) (s : Sources)
    (env : Environment) (scope : Scope) (type : TypeRef) :
    (g.resolve s env scope type).2.workspace =
      g.workspace.append (s.describe [] env scope g.references.length type).2 := by
  simp only [resolve]
  generalize (s.describe [] env scope g.references.length type).2 = issued
  have hworklist : (Workspace.numbered 0 (g.references ++ issued)).drop g.done =
      (Workspace.numbered 0 g.references).drop g.done ++
        Workspace.numbered g.references.length issued := by
    have hlength : g.done ≤ (Workspace.numbered 0 g.references).length := by
      simpa [Workspace.numbered] using hdone
    rw [← Workspace.numbered_append, Nat.zero_add, List.drop_append_of_le_length hlength]
  have htargets : (issued.zipIdx g.references.length).map (fun entry =>
      if entry.2 < g.done then some entry.1.target.qualifiedName else none) =
        List.replicate issued.length none := by
    refine List.eq_replicate_iff.2 ⟨by simp, ?_⟩
    intro target htarget
    obtain ⟨⟨r, id⟩, hmem, rfl⟩ := List.mem_map.1 htarget
    have hid : g.references.length ≤ id := List.le_snd_of_mem_zipIdx hmem
    exact if_neg (Nat.not_lt.2 (hdone.trans hid))
  simp only [workspace, Workspace.append, List.zipIdx_append, List.map_append, List.length_map,
    List.length_zipIdx, Nat.zero_add, hworklist, htargets]

end Generator

/-- Resolving a type only adds to a workspace: so many references with the next numbers wait, in
order, and have no target yet, and the schema holds each of them once and no other. So it is with
the generator. -/
theorem Workspace.resolves_by_appending (s : Sources) :
    (∀ w env scope type, ∃ schema issued,
      let numbers := List.range' w.targets.length issued.length
      (∀ schema' w', Resolves s w env scope type schema' w' ↔ schema' = schema ∧
        w' = {
          worklist := w.worklist ++ numbers.zip issued
          targets := w.targets ++ List.replicate issued.length none
          registry := w.registry
          flattening := w.flattening }) ∧
      schema.references.Perm (numbers.map fun id => (id, none))) ∧
    ∀ calls env scope type,
      let g := Generator.run s calls
      Resolves s g.workspace env scope type (g.resolve s env scope type).1
        (g.resolve s env scope type).2.workspace := by
  constructor
  · intro w env scope type
    refine ⟨(s.describe w.flattening env scope w.targets.length type).1,
      (s.describe w.flattening env scope w.targets.length type).2, fun schema' w' => ?_, ?_⟩
    · exact (resolves_iff_describe s).1 _ env scope type w rfl schema' w'
    · exact (Sources.describe_references s).1 _ env scope type _
  · intro calls env scope type g
    refine ((resolves_iff_describe s).1 [] env scope type g.workspace rfl _ _).2 ?_
    rw [Generator.length_targets_workspace,
      Generator.workspace_resolve (Generator.sound_run s calls).done_le]
    exact ⟨rfl, rfl⟩

end ApiRecovery
