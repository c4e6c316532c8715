import ApiRecovery.Proofs.Schema.Passes
import ApiRecovery.Proofs.Schema.Run
import Mathlib.Order.Bounds.Defs

/-!
# Which types are converted

The converted names of a closed generator are the least set that has the names of the references
given out by resolved types and, with each name, those that its component needs. Nothing is missing,
because every reference is looked after; nothing is there in vain, because a reference is given out
by a resolved type or by the conversion of a reference before it.
-/

namespace ApiRecovery

namespace Generator

variable {s : Sources} {g : Generator} {r : Reference} {roots : List Reference} {q : String}

/-! ## Where references come from -/

/-- Every reference is a root or needed by the component of one before it. -/
structure Rooted (s : Sources) (roots : List Reference) (g : Generator) : Prop where
  roots_mem : ∀ r ∈ roots, r ∈ g.references
  origin : ∀ (i : Nat) (r : Reference), g.references[i]? = some r →
    r ∈ roots ∨ ∃ j < i, ∃ r', g.references[j]? = some r' ∧
      g.firstTo? r'.target.qualifiedName = some r' ∧ r ∈ s.needs r'.target

theorem Rooted.empty (s : Sources) : Rooted s [] {} where
  roots_mem := by simp
  origin := by simp

/-- References that are given out either are roots or come from one before them. -/
theorem Rooted.append (h : g.Rooted s roots) {more issued : List Reference} {done : Nat}
    {registry : Registry} (hmore : ∀ r ∈ more, r ∈ issued)
    (horigin : ∀ r ∈ issued, r ∈ more ∨ ∃ (j : Nat) (r' : Reference), g.references[j]? = some r' ∧
      g.firstTo? r'.target.qualifiedName = some r' ∧ r ∈ s.needs r'.target) :
    Rooted s (roots ++ more) { references := g.references ++ issued, done, registry } where
  roots_mem := fun r hr => (List.mem_append.1 hr).elim
    (fun hold => List.mem_append_left _ (h.roots_mem r hold))
    (fun hnew => List.mem_append_right _ (hmore r hnew))
  origin := by
    have hprefix : g.references <+: g.references ++ issued := List.prefix_append _ _
    have later : ∀ {j : Nat} {r' : Reference}, g.references[j]? = some r' →
        (g.references ++ issued)[j]? = some r' := by
      intro j r' hj
      rwa [List.getElem?_append_left (List.getElem?_eq_some_iff.1 hj).choose]
    intro i r hi
    -- a reference is either an old one, whose origin stays, or one of those just given out
    by_cases hlt : i < g.references.length
    · rw [List.getElem?_append_left hlt] at hi
      obtain hroot | ⟨j, hj, r', hr', hfirst, hneeds⟩ := h.origin i r hi
      · exact .inl (List.mem_append_left _ hroot)
      · exact .inr ⟨j, hj, r', later hr', firstTo?_of_prefix hprefix hfirst, hneeds⟩
    · rw [List.getElem?_append_right (Nat.le_of_not_lt hlt)] at hi
      obtain hroot | ⟨j, r', hr', hfirst, hneeds⟩ := horigin r (List.mem_of_getElem? hi)
      · exact .inl (List.mem_append_right _ hroot)
      · have hj := (List.getElem?_eq_some_iff.1 hr').choose
        exact .inr ⟨j, Nat.lt_of_lt_of_le hj (Nat.le_of_not_lt hlt), r', later hr',
          firstTo?_of_prefix hprefix hfirst, hneeds⟩

theorem Rooted.convert (h : g.Rooted s roots) (hg : g.Sound s)
    (hr : g.references[g.done]? = some r) : (g.convert s r).Rooted s roots := by
  cases hnew : g.isConverted r with
  | true =>
    rw [convert_of_converted hnew]
    exact ⟨h.roots_mem, h.origin⟩
  | false =>
    rw [convert_of_new hnew, Sources.component_issued, ← List.append_nil roots]
    refine h.append (by simp) fun r' hr' => .inr ⟨g.done, r, hr, ?_, hr'⟩
    exact hg.firstTo?_next hr hnew

theorem Rooted.close (h : g.Rooted s roots) (hg : g.Sound s) : (g.close s).Rooted s roots := by
  have hboth : (g.close s).Sound s ∧ (g.close s).Rooted s roots :=
    close_invariant (motive := fun g => g.Sound s ∧ g.Rooted s roots)
      (fun _ _ h hr => ⟨h.1.convert hr, h.2.convert h.1 hr⟩) ⟨hg, h⟩
  exact hboth.2

/-! ## What the calls of a run do -/

def history (f : Generator → Call → List Reference) (s : Sources) :
    Generator → List Call → List Reference
  | _, [] => []
  | g, c :: calls => f g c ++ history f s (g.call s c) calls

def asked (s : Sources) (g : Generator) : Call → List Reference
  | .resolve env scope type => (s.describe [] env scope g.references.length type).2
  | .close => []

def converted (s : Sources) (g : Generator) : Call → List Reference
  | .resolve _ _ _ => []
  | .close => convertedByClose s g

theorem Rooted.call (h : g.Rooted s roots) (hg : g.Sound s) (c : Call) :
    (g.call s c).Rooted s (roots ++ asked s g c) := by
  cases c with
  | resolve env scope type => exact h.append (fun _ hr => hr) (fun _ hr => .inl hr)
  | close =>
    rw [asked, List.append_nil]
    exact h.close hg

theorem Rooted.calls (h : g.Rooted s roots) (hg : g.Sound s) (calls : List Call) :
    (calls.foldl (Generator.call s) g).Rooted s (roots ++ history (asked s) s g calls) := by
  induction calls generalizing g roots with
  | nil => rwa [history, List.append_nil]
  | cons c calls ih =>
    rw [history, ← List.append_assoc]
    exact ih (h.call hg c) (hg.call c)

theorem rooted_run (s : Sources) (calls : List Call) :
    (run s calls).Rooted s (history (asked s) s {} calls) :=
  (Rooted.empty s).calls (Sound.empty s) calls

theorem processed_calls (s : Sources) (calls : List Call) (g : Generator) :
    (calls.foldl (Generator.call s) g).registry.processed =
      ((history (converted s) s g calls).map (·.target.qualifiedName)).reverse ++
        g.registry.processed := by
  induction calls generalizing g with
  | nil => rfl
  | cons c calls ih =>
    have hcall : (g.call s c).registry.processed =
        ((converted s g c).map (·.target.qualifiedName)).reverse ++ g.registry.processed := by
      cases c with
      | resolve env scope type => rfl
      | close => exact processed_close s g
    rw [List.foldl_cons, ih, hcall, history, List.map_append, List.reverse_append,
      List.append_assoc]

/-! ## The closure -/

/-- A set of names covers the roots if it has their names and, with each name, those that the
component of the first reference to it needs. -/
structure Covers (s : Sources) (g : Generator) (roots : List Reference) (names : Set String) :
    Prop where
  roots : ∀ r ∈ roots, r.target.qualifiedName ∈ names
  needs : ∀ q ∈ names, ∀ r, g.firstTo? q = some r →
    ∀ r' ∈ s.needs r.target, r'.target.qualifiedName ∈ names

theorem Sound.covers (h : g.Sound s) (hroots : g.Rooted s roots) (hclosed : g.pending = []) :
    Covers s g roots {q | q ∈ g.registry.processed} where
  roots := fun r hr => (h.mem_processed hclosed).2 ⟨r, hroots.roots_mem r hr, rfl⟩
  needs := by
    intro q hq r hr r' hr'
    -- the component of `q` gave out its references in a row, so they are among those looked after
    obtain ⟨first, i, name, hfirst, -, -, hneeds⟩ := h.component q hq
    rw [hr] at hfirst
    obtain rfl := Option.some.inj hfirst
    have hmem : r' ∈ g.references := List.mem_of_mem_drop (List.IsPrefix.subset hneeds hr')
    exact (h.mem_processed hclosed).2 ⟨r', hmem, rfl⟩

theorem Rooted.mem_of_covers (h : g.Rooted s roots) {names : Set String}
    (hnames : Covers s g roots names) (i : Nat) (r : Reference)
    (hr : g.references[i]? = some r) : r.target.qualifiedName ∈ names := by
  -- on the number of the reference: what is no root is needed by one with a smaller number
  induction i using Nat.strong_induction_on generalizing r with
  | _ i ih =>
    obtain hroot | ⟨j, hj, r', hr', hfirst, hneeds⟩ := h.origin i r hr
    · exact hnames.roots r hroot
    · exact hnames.needs _ (ih j hj r' hr') r' hfirst r hneeds

/-- A generator that is closed at the end of a run, whatever came before, has converted the least set
of names that covers the resolved types. Each name has been converted once, components and
converted names correspond one to one, and closing once more changes nothing. -/
theorem closed_run_converts_closure (s : Sources) (calls : List Call) :
    let closed := calls ++ [Call.close]
    let g := run s closed
    IsLeast {names | Covers s g (history (asked s) s {} closed) names}
        {q | q ∈ g.registry.processed} ∧
      (∀ q, ((history (converted s) s {} closed).map (·.target.qualifiedName)).count q =
        if q ∈ g.registry.processed then 1 else 0) ∧
      g.registry.size = g.registry.processedCount ∧
      (∀ q ∈ g.registry.processed,
        ∃! name, name ∈ g.registry.names ∧
          g.registry.path? q = some (Schema.componentPath name)) ∧
      (∀ name ∈ g.registry.names,
        ∃! q, q ∈ g.registry.processed ∧
          g.registry.path? q = some (Schema.componentPath name)) ∧
      g.close s = g := by
  intro closed g
  have hclosed : g.pending = [] := pending_run_close s calls
  have hsound : g.Sound s := sound_run s closed
  have hrooted : g.Rooted s (history (asked s) s {} closed) := rooted_run s closed
  refine ⟨⟨hsound.covers hrooted hclosed, ?least⟩, ?once, hsound.tidy.size_eq, ?name, ?type,
    close_of_nil hclosed s⟩
  case least =>
    intro names hnames q hq
    obtain ⟨r, hr, rfl⟩ := (hsound.processed_iff q).1 hq
    obtain ⟨i, hi⟩ := List.mem_iff_getElem?.1 (List.mem_of_mem_take hr)
    exact hrooted.mem_of_covers hnames i r hi
  case once =>
    intro q
    have hprocessed := processed_calls s closed {}
    rw [List.append_nil] at hprocessed
    rw [← List.count_reverse, ← hprocessed]
    exact hsound.tidy.processed_nodup.count
  case name =>
    intro q hq
    obtain ⟨name, hname, hpath⟩ := hsound.tidy.path?_of_mem hq
    refine ⟨name, ⟨hname, hpath⟩, fun name' h' => ?_⟩
    exact Schema.componentPath_injective (Option.some.inj (h'.2.symm.trans hpath))
  case type =>
    intro name hname
    obtain ⟨q, hq, hpath⟩ := hsound.tidy.path?_of_mem_names hname
    exact ⟨q, ⟨hq, hpath⟩, fun q' h' => hsound.tidy.path?_injective h'.2 hpath⟩

end Generator

end ApiRecovery
