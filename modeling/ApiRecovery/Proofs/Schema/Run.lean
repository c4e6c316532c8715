import ApiRecovery.Proofs.Schema.Numbering
import ApiRecovery.Proofs.Schema.Registry
import ApiRecovery.Schema.Generator
import Mathlib.Data.List.Infix

/-!
# What a run of a generator keeps

The state of a generator is changed in two ways only: a resolved type gives out references, and the
next reference in line is looked after. Both keep a generator sound, so every run does: the converted
names are those of the references looked after, and each has the component of the reference to it
that was given out first.
-/

namespace ApiRecovery

open Java (TypeRef)

namespace Sources

/-- The references in the component that a target gets. -/
def needs (s : Sources) (target : Resolved) : List Reference :=
  (s.component target 0).2.2

theorem component_issued (s : Sources) (target : Resolved) (next : Nat) :
    (s.component target next).2.2 = s.needs target := by
  unfold needs component
  cases target with
  | external name => rfl
  | declared d =>
    cases hk : d.declaration.kind <;> simp only [hk]
    exact (describe_issued_eq s).2.1 _ _ _ _ _

theorem component_references (s : Sources) (target : Resolved) (next : Nat) :
    (s.component target next).2.1.references.Perm
      (freshReferences next (s.needs target).length) := by
  rw [← component_issued s target next]
  unfold component
  cases target with
  | external name => exact .nil
  | declared d =>
    cases hk : d.declaration.kind <;> simp only [hk]
    case classType => exact (describe_references s).2.1 _ _ _ _
    all_goals exact .nil

theorem resolveName_of_mem_needs {s : Sources} {target : Resolved} :
    ∀ r ∈ s.needs target, s.corpus.resolveName r.scope r.name = .ok r.target := by
  intro r hr
  unfold needs component at hr
  cases target with
  | external name => cases hr
  | declared d =>
    cases hk : d.declaration.kind <;> simp only [hk] at hr
    case classType => exact (describe_resolves s).2.1 _ _ _ _ r hr
    all_goals cases hr

end Sources

namespace Generator

variable {s : Sources} {g g' : Generator} {r : Reference} {rs : List Reference} {q : String}

/-! ## Looking after the next reference -/

theorem next_of_prefix (h : r :: rs <+: g.pending) (s : Sources) :
    g.references[g.done]? = some r ∧ rs <+: (g.convert s r).pending := by
  have hdrop : rs <+: g.references.drop (g.done + 1) := by
    have htail := List.IsPrefix.drop h 1
    rwa [pending, List.drop_drop, List.drop_one] at htail
  constructor
  · obtain ⟨later, hlater⟩ := h
    rw [← Nat.add_zero g.done, ← List.getElem?_drop, ← pending, ← hlater]
    rfl
  · rw [pending, convert_done, convert_references]
    exact hdrop.trans (List.IsPrefix.drop (List.prefix_append _ _) _)

/-- What looking after the next reference keeps, closing keeps. -/
theorem close_invariant {motive : Generator → Prop}
    (next : ∀ g r, motive g → g.references[g.done]? = some r → motive (g.convert s r))
    (h : motive g) : motive (g.close s) := by
  -- a pass looks after a list taken beforehand; conversions only add to what waits behind it
  have all : ∀ (rs : List Reference) (g : Generator), rs <+: g.pending → motive g →
      motive (g.convertAll s rs) := by
    intro rs
    induction rs with
    | nil => exact fun _ _ hg => hg
    | cons r rs ih =>
      intro g hrs hg
      obtain ⟨hr, htail⟩ := next_of_prefix hrs s
      exact ih (g.convert s r) htail (next g r hg hr)
  exact close_induction (fun g hg => all g.pending g (List.prefix_refl _) hg) g h

/-! ## Soundness -/

/-- The reference to a qualified name that was given out first. -/
def firstTo? (g : Generator) (q : String) : Option Reference :=
  g.references.find? fun r => r.target.qualifiedName == q

theorem firstTo?_of_prefix (h : g.references <+: g'.references) (hr : g.firstTo? q = some r) :
    g'.firstTo? q = some r :=
  List.IsPrefix.find?_eq_some h hr

/-- The component of a qualified name is the one that the reference given out first makes; the
references in it are numbered `first`, `first + 1` and so on. -/
def HasComponent (s : Sources) (g : Generator) (q : String) : Prop :=
  ∃ r first name, g.firstTo? q = some r ∧
    g.registry.path? q = some (Schema.componentPath name) ∧
    g.registry.get? name = some (s.component r.target first).2.1 ∧
    s.needs r.target <+: g.references.drop first

theorem HasComponent.mono (h : HasComponent s g q) (hrefs : g.references <+: g'.references)
    (hpath : g'.registry.path? q = g.registry.path? q)
    (hget : ∀ name schema, g.registry.get? name = some schema →
      g'.registry.get? name = some schema) : HasComponent s g' q := by
  obtain ⟨r, first, name, hfirst, hq, hname, hneeds⟩ := h
  exact ⟨r, first, name, firstTo?_of_prefix hrefs hfirst, hpath.trans hq, hget _ _ hname,
    hneeds.trans (List.IsPrefix.drop hrefs first)⟩

structure Sound (s : Sources) (g : Generator) : Prop where
  done_le : g.done ≤ g.references.length
  tidy : g.registry.Tidy
  /-- the converted names are those of the references that have been looked after -/
  processed_iff : ∀ q, q ∈ g.registry.processed ↔
    ∃ r ∈ g.references.take g.done, r.target.qualifiedName = q
  component : ∀ q ∈ g.registry.processed, HasComponent s g q
  /-- a reference stands for what its name stands for in its scope -/
  resolved : ∀ r ∈ g.references, s.corpus.resolveName r.scope r.name = .ok r.target
  /-- the components hold only numbers that have been given out -/
  bounded : ∀ p ∈ g.registry.schemas, p.2.NumberedBelow g.references.length

theorem Sound.empty (s : Sources) : Sound s {} where
  done_le := Nat.le_refl 0
  tidy := .empty
  processed_iff := by simp
  component := by simp
  resolved := by simp
  bounded := by simp

theorem Sound.issue (h : g.Sound s) {issued : List Reference}
    (hissued : ∀ r ∈ issued, s.corpus.resolveName r.scope r.name = .ok r.target) :
    Sound s { g with references := g.references ++ issued } where
  done_le := by
    have hle := h.done_le
    rw [List.length_append]
    exact Nat.le_add_right_of_le hle
  tidy := h.tidy
  processed_iff := fun q => by
    rw [h.processed_iff, List.take_append_of_le_length h.done_le]
  component := fun q hq =>
    (h.component q hq).mono (List.prefix_append _ _) rfl (fun _ _ hget => hget)
  resolved := fun r hr => (List.mem_append.1 hr).elim (h.resolved r) (hissued r)
  bounded := fun p hp => by
    rw [List.length_append]
    exact (h.bounded p hp).mono (Nat.le_add_right _ _)

theorem Sound.resolve (h : g.Sound s) (env : Environment) (scope : Scope) (type : TypeRef) :
    (g.resolve s env scope type).2.Sound s :=
  h.issue ((Sources.describe_resolves s).1 _ _ _ _ _)

theorem take_done_succ (hr : g.references[g.done]? = some r) :
    g.references.take (g.done + 1) = g.references.take g.done ++ [r] := by
  rw [List.take_add_one, hr, Option.toList_some]

/-- Where its type has not been converted, the next reference is the first one to it. -/
theorem Sound.firstTo?_next (h : g.Sound s) (hr : g.references[g.done]? = some r)
    (hnew : g.isConverted r = false) : g.firstTo? r.target.qualifiedName = some r := by
  obtain ⟨hlt, rfl⟩ := List.getElem?_eq_some_iff.1 hr
  rw [firstTo?, List.find?_eq_some_iff_append]
  refine ⟨beq_self_eq_true _, g.references.take g.done, g.references.drop (g.done + 1), ?_, ?_⟩
  · rw [← List.drop_eq_getElem_cons hlt, List.take_append_drop]
  · intro r' hr'
    have hold : r'.target.qualifiedName ∈ g.registry.processed :=
      (h.processed_iff _).2 ⟨r', hr', rfl⟩
    rw [Bool.not_eq_true', beq_eq_false_iff_ne]
    intro heq
    rw [heq, ← isConverted_iff, hnew] at hold
    exact Bool.false_ne_true hold

/-- Passing by a reference to a name that has been converted keeps a generator sound. -/
theorem Sound.skip (h : g.Sound s) (hr : g.references[g.done]? = some r)
    (hold : g.isConverted r = true) : Sound s { g with done := g.done + 1 } where
  done_le := (List.getElem?_eq_some_iff.1 hr).choose
  tidy := h.tidy
  processed_iff := by
    intro q
    rw [take_done_succ hr, h.processed_iff]
    constructor
    · rintro ⟨r', hr', rfl⟩
      exact ⟨r', List.mem_append_left _ hr', rfl⟩
    · rintro ⟨r', hr', rfl⟩
      rcases List.mem_append.1 hr' with hr' | hr'
      · exact ⟨r', hr', rfl⟩
      · rw [List.mem_singleton.1 hr']
        exact (h.processed_iff _).1 (isConverted_iff.1 hold)
  component := h.component
  resolved := h.resolved
  bounded := h.bounded

/-- Making the component of a new name keeps a generator sound. -/
theorem Sound.add (h : g.Sound s) (hr : g.references[g.done]? = some r)
    (hnew : g.isConverted r = false) (preferred : String) :
    Sound s
      { references := g.references ++ s.needs r.target
        done := g.done + 1
        registry := ((g.registry.markProcessed r.target.qualifiedName).register preferred
          r.target.qualifiedName (s.component r.target g.references.length).2.1).2 } := by
  have hlt : g.done < g.references.length := (List.getElem?_eq_some_iff.1 hr).choose
  have hq : r.target.qualifiedName ∉ g.registry.processed := by
    rw [← isConverted_iff, hnew]
    exact Bool.false_ne_true
  have hfirst := h.firstTo?_next hr hnew
  have hprefix : g.references <+: g.references ++ s.needs r.target := List.prefix_append _ _
  refine ⟨?done_le, h.tidy.register hq _ _, ?processed_iff, ?component, ?resolved, ?bounded⟩
  case done_le =>
    rw [List.length_append]
    exact Nat.le_add_right_of_le hlt
  case processed_iff =>
    intro q
    rw [List.take_append_of_le_length hlt, take_done_succ hr]
    simp only [Registry.register, Registry.markProcessed, List.mem_insert_iff, h.processed_iff,
      List.mem_append, List.mem_singleton]
    grind
  case component =>
    intro q hmem
    by_cases hqr : q = r.target.qualifiedName
    · -- the new component, whose references begin where the old ones end
      subst hqr
      refine ⟨r, g.references.length, _, firstTo?_of_prefix hprefix hfirst,
        Registry.register_path?_self _ _ _ _, Registry.register_get?_self _ _ _ _, ?_⟩
      rw [List.drop_left]
    · have hold : q ∈ g.registry.processed := by
        simpa [Registry.register, Registry.markProcessed, hqr] using hmem
      exact (h.component q hold).mono hprefix (Registry.register_path?_of_ne hqr)
        (fun _ _ hget => Registry.register_get?_of_some hget)
  case resolved =>
    intro r' hr'
    exact (List.mem_append.1 hr').elim (h.resolved r') (Sources.resolveName_of_mem_needs r')
  case bounded =>
    intro p hp
    rw [List.length_append]
    rw [Registry.register_schemas, List.mem_append, List.mem_singleton] at hp
    rcases hp with hp | rfl
    · exact (h.bounded p hp).mono (Nat.le_add_right _ _)
    · exact Sources.numberedBelow_of_perm (Sources.component_references s r.target _)

theorem Sound.convert (h : g.Sound s) (hr : g.references[g.done]? = some r) :
    (g.convert s r).Sound s := by
  cases hr' : g.isConverted r with
  | true =>
    rw [convert_of_converted hr']
    exact h.skip hr hr'
  | false =>
    rw [convert_of_new hr', Sources.component_issued]
    exact h.add hr hr' _

theorem Sound.close (h : g.Sound s) : (g.close s).Sound s :=
  close_invariant (fun _ _ hg hr => hg.convert hr) h

theorem Sound.done_eq (h : g.Sound s) (hclosed : g.pending = []) :
    g.done = g.references.length := by
  rw [pending, List.drop_eq_nil_iff] at hclosed
  exact Nat.le_antisymm h.done_le hclosed

theorem Sound.mem_processed (h : g.Sound s) (hclosed : g.pending = []) :
    q ∈ g.registry.processed ↔ ∃ r ∈ g.references, r.target.qualifiedName = q := by
  rw [h.processed_iff, h.done_eq hclosed, List.take_length]

/-! ## Calls -/

inductive Call
  | resolve (env : Environment) (scope : Scope) (type : TypeRef)
  | close

def call (s : Sources) (g : Generator) : Call → Generator
  | .resolve env scope type => (g.resolve s env scope type).2
  | .close => g.close s

def run (s : Sources) (calls : List Call) : Generator :=
  calls.foldl (call s) {}

theorem pending_run_close (s : Sources) (calls : List Call) :
    (run s (calls ++ [.close])).pending = [] := by
  rw [run, List.foldl_append]
  exact pending_close _ s

theorem Sound.call (h : g.Sound s) (c : Call) : (g.call s c).Sound s := by
  cases c with
  | resolve env scope type => exact h.resolve env scope type
  | close => exact h.close

theorem Sound.calls (h : g.Sound s) (calls : List Call) :
    (calls.foldl (Generator.call s) g).Sound s := by
  induction calls generalizing g with
  | nil => exact h
  | cons c calls ih => exact ih (h.call c)

theorem sound_run (s : Sources) (calls : List Call) : (run s calls).Sound s :=
  (Sound.empty s).calls calls

end Generator

end ApiRecovery
