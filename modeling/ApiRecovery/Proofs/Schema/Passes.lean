import ApiRecovery.Proofs.Schema.Machine

/-!
# How long closing takes

A pass that leaves references waiting has converted a name that had not been converted before. So
closing takes at most one pass more than names are newly converted.
-/

namespace ApiRecovery

open Java (TypeRef)

namespace Generator

variable {s : Sources} {g : Generator}

/-- Those of some references that are converted while they are looked after in turn. -/
def convertedAmong (s : Sources) (g : Generator) : List Reference → List Reference
  | [] => []
  | r :: rs =>
    if g.isConverted r then convertedAmong s (g.convert s r) rs
    else r :: convertedAmong s (g.convert s r) rs

def convertedByClose (s : Sources) (g : Generator) : List Reference :=
  if _h : g.pending = [] then []
  else convertedAmong s g g.pending ++ convertedByClose s (g.pass s)
termination_by g.work s
decreasing_by exact g.work_pass_lt s _h

theorem processed_convertAll (s : Sources) (rs : List Reference) (g : Generator) :
    (g.convertAll s rs).registry.processed =
      ((convertedAmong s g rs).map (·.target.qualifiedName)).reverse ++ g.registry.processed := by
  induction rs generalizing g with
  | nil => rfl
  | cons r rs ih =>
    have hcons : g.convertAll s (r :: rs) = (g.convert s r).convertAll s rs := rfl
    rw [hcons, ih, convertedAmong]
    cases hnew : g.isConverted r with
    | true => rw [if_pos rfl, convert_of_converted hnew]
    | false =>
      have hq : r.target.qualifiedName ∉ g.registry.processed := by
        rw [← isConverted_iff, hnew]
        exact Bool.false_ne_true
      have hprocessed : (g.convert s r).registry.processed =
          r.target.qualifiedName :: g.registry.processed := by
        rw [convert_of_new hnew]
        exact List.insert_of_not_mem hq
      rw [hprocessed, if_neg Bool.false_ne_true, List.map_cons, List.reverse_cons,
        List.append_assoc, List.singleton_append]

theorem processed_close (s : Sources) (g : Generator) :
    (g.close s).registry.processed =
      ((convertedByClose s g).map (·.target.qualifiedName)).reverse ++ g.registry.processed := by
  induction g using close.induct s with
  | case1 g hnil =>
    rw [close_of_nil hnil, convertedByClose, dif_pos hnil]
    rfl
  | case2 g hne ih =>
    rw [convertedByClose, dif_neg hne, close_of_ne_nil hne, ih, pass, processed_convertAll,
      List.map_append, List.reverse_append, List.append_assoc]

theorem processedCount_close (s : Sources) (g : Generator) :
    (g.close s).registry.processedCount =
      (convertedByClose s g).length + g.registry.processedCount := by
  rw [Registry.processedCount, processed_close, List.length_append, List.length_reverse,
    List.length_map]
  rfl

/-- A pass converts a name that had not been converted or leaves no reference waiting. -/
theorem pass_converts_or_closes (s : Sources) (g : Generator) :
    (∃ q, g.registry.isProcessed q = false ∧ (g.pass s).registry.isProcessed q = true) ∨
      (g.pass s).pending = [] := by
  obtain ⟨hprocessed, -, hfresh⟩ := g.pass_spec s
  by_cases hnext : (g.pass s).pending = []
  · exact .inr hnext
  · obtain ⟨r, hr, -, hnew⟩ := hfresh hnext
    exact .inl ⟨r.target.qualifiedName, hnew, (hprocessed _).2 (.inr ⟨r, hr, rfl⟩)⟩

theorem convertedAmong_pending_ne_nil (h : (g.pass s).pending ≠ []) :
    convertedAmong s g g.pending ≠ [] := by
  obtain ⟨q, hold, hnew⟩ := (pass_converts_or_closes s g).resolve_right h
  intro hnil
  have hprocessed := processed_convertAll s g.pending g
  rw [hnil, List.map_nil, List.reverse_nil, List.nil_append] at hprocessed
  rw [Registry.isProcessed, pass, hprocessed, ← Registry.isProcessed, hold] at hnew
  exact Bool.false_ne_true hnew

/-- Closing goes on in passes while references wait: at most one more than names are converted. -/
theorem close_eq_iterate (s : Sources) (g : Generator) :
    ∃ n, (fun g => g.pass s)^[n] g = g.close s ∧
      (∀ k < n, ((fun g => g.pass s)^[k] g).pending ≠ []) ∧
      n ≤ (convertedByClose s g).length + 1 := by
  induction g using close.induct s with
  | case1 g hnil =>
    exact ⟨0, (close_of_nil hnil s).symm, fun k hk => absurd hk (Nat.not_lt_zero k),
      Nat.zero_le _⟩
  | case2 g hne ih =>
    obtain ⟨n, hn, hwaiting, hle⟩ := ih
    refine ⟨n + 1, ?_, fun k hk => ?_, ?_⟩
    · rw [Function.iterate_succ_apply, hn, close_of_ne_nil hne]
    · cases k with
      | zero => exact hne
      | succ k => exact hwaiting k (Nat.lt_of_succ_lt_succ hk)
    · rw [convertedByClose, dif_neg hne, List.length_append]
      by_cases hnext : (g.pass s).pending = []
      · -- no pass is needed after this one
        have hzero : n = 0 := by
          by_contra hpos
          exact hwaiting 0 (Nat.pos_of_ne_zero hpos) hnext
        omega
      · have hsome := List.length_pos_iff.2 (convertedAmong_pending_ne_nil hnext)
        omega

/-- Descriptions end: the machine finds the schema in finitely many steps, with its stack as it was
and never deeper than it was or than allowed. Closing ends: a pass converts a new name or leaves
nothing waiting, and finitely many passes are enough, at most one more than names are converted. -/
theorem reconstruction_terminates (s : Sources) :
    (∀ (g : Generator) (env : Environment) (scope : Scope) (type : TypeRef),
      let start : Machine := ⟨.type env scope type, [], [], g.references⟩
      let found := g.resolve s env scope type
      (∃ n, (Machine.advance s)^[n] start = ⟨.schema found.1, [], [], found.2.references⟩) ∧
        ∀ k, ((Machine.advance s)^[k] start).flattening.length ≤ maxFlattenDepth) ∧
    (∀ (stack : List String) (references : List Reference) (env : Environment) (scope : Scope)
        (type : TypeRef),
      let start : Machine := ⟨.type env scope type, [], stack, references⟩
      let found := s.describe stack env scope references.length type
      (∃ n, (Machine.advance s)^[n] start = ⟨.schema found.1, [], stack, references ++ found.2⟩) ∧
        ∀ k, ((Machine.advance s)^[k] start).flattening.length ≤
          max stack.length maxFlattenDepth) ∧
    (∀ (references : List Reference) (d : Located),
      let env := Environment.unbound d.declaration.typeParameters
      let start : Machine := ⟨.fields env d d.declaration.dataFields [], [], [], references⟩
      let found := s.plainClass d references.length
      (∃ n, (Machine.advance s)^[n] start = ⟨.schema found.1, [], [], references ++ found.2⟩) ∧
        ∀ k, ((Machine.advance s)^[k] start).flattening.length ≤ maxFlattenDepth) ∧
    ∀ g : Generator,
      ((∃ q, g.registry.isProcessed q = false ∧ (g.pass s).registry.isProcessed q = true) ∨
        (g.pass s).pending = []) ∧
      ∃ n, (fun g => g.pass s)^[n] g = g.close s ∧ (g.close s).pending = [] ∧
        (∀ k < n, ((fun g => g.pass s)^[k] g).pending ≠ []) ∧
        n + g.registry.processedCount ≤ (g.close s).registry.processedCount + 1 := by
  refine ⟨?resolve, ?describe, ?convert, fun g => ⟨pass_converts_or_closes s g, ?close⟩⟩
  case resolve =>
    intro g env scope type start found
    have hruns := (Machine.runs_describe s maxFlattenDepth (Nat.le_refl _)).1 [] env scope type
      (Nat.zero_le _) [] g.references
    obtain ⟨n, hn, hbound⟩ := hruns.exists_advance rfl
    exact ⟨⟨n, hn⟩, hbound⟩
  case describe =>
    intro stack references env scope type start found
    have hruns := (Machine.runs_describe s (max stack.length maxFlattenDepth)
      (Nat.le_max_right _ _)).1 stack env scope type (Nat.le_max_left _ _) [] references
    obtain ⟨n, hn, hbound⟩ := hruns.exists_advance rfl
    exact ⟨⟨n, hn⟩, hbound⟩
  case convert =>
    intro references d env start found
    have hruns := (Machine.runs_describe s maxFlattenDepth (Nat.le_refl _)).2.1 [] env d
      (Nat.zero_le _) [] references
    obtain ⟨n, hn, hbound⟩ := hruns.exists_advance rfl
    exact ⟨⟨n, hn⟩, hbound⟩
  case close =>
    obtain ⟨n, hn, hwaiting, hle⟩ := close_eq_iterate s g
    refine ⟨n, hn, pending_close g s, hwaiting, ?_⟩
    rw [processedCount_close]
    omega

end Generator

end ApiRecovery
