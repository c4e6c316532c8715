/-!
# Patterns

Regular expressions over characters, matched by derivatives. `Matches` says which texts a pattern
describes; the searches, which take one derivative after another, find a part, a final part or the
longest beginning of a text that it describes.
-/

namespace ApiRecovery.Text

inductive Pattern
  | never
  | empty
  | chars (p : Char → Bool)
  | cat (p q : Pattern)
  | alt (p q : Pattern)
  | star (p : Pattern)

namespace Pattern

/-- The texts that a pattern describes. -/
inductive Matches : Pattern → List Char → Prop
  | empty : Matches .empty []
  | chars {p : Char → Bool} {c : Char} : p c = true → Matches (.chars p) [c]
  | cat {p q : Pattern} {s t : List Char} : Matches p s → Matches q t → Matches (.cat p q) (s ++ t)
  | altLeft {p q : Pattern} {s : List Char} : Matches p s → Matches (.alt p q) s
  | altRight {p q : Pattern} {s : List Char} : Matches q s → Matches (.alt p q) s
  | starNil {p : Pattern} : Matches (.star p) []
  | starCons {p : Pattern} {s t : List Char} :
      Matches p s → Matches (.star p) t → Matches (.star p) (s ++ t)

def nullable : Pattern → Bool
  | never => false
  | empty => true
  | chars _ => false
  | cat p q => nullable p && nullable q
  | alt p q => nullable p || nullable q
  | star _ => true

/-- Concatenation that drops what can no longer match. -/
def followedBy : Pattern → Pattern → Pattern
  | never, _ => never
  | empty, q => q
  | p, q => cat p q

/-- Alternation that drops what can no longer match. -/
def orElse : Pattern → Pattern → Pattern
  | never, q => q
  | p, never => p
  | p, q => alt p q

/-- The pattern of the rests, once `c` has been read. -/
def derivative (c : Char) : Pattern → Pattern
  | never => never
  | empty => never
  | chars p => if p c then empty else never
  | cat p q =>
    if nullable p then ((derivative c p).followedBy q).orElse (derivative c q)
    else (derivative c p).followedBy q
  | alt p q => (derivative c p).orElse (derivative c q)
  | star p => (derivative c p).followedBy (star p)

/-- Whether a part of the text matches: `threads` are the attempts already begun. -/
def searchFrom (p threads : Pattern) : List Char → Bool
  | [] => nullable threads || nullable p
  | c :: rest =>
    nullable threads || nullable p ||
      searchFrom p ((derivative c threads).orElse (derivative c p)) rest

def occursIn (p : Pattern) (s : String) : Bool :=
  searchFrom p never s.toList

/-- Whether a final part of the text matches: `threads` are the attempts already begun. -/
def searchEndFrom (p threads : Pattern) : List Char → Bool
  | [] => nullable threads || nullable p
  | c :: rest => searchEndFrom p ((derivative c threads).orElse (derivative c p)) rest

def endsText (p : Pattern) (s : String) : Bool :=
  searchEndFrom p never s.toList

/-- The length of the longest beginning that matches; `read` characters lie behind, and `best` is
the longest length seen so far. -/
def longestFrom (p : Pattern) (read : Nat) (best : Option Nat) : List Char → Option Nat
  | [] => if nullable p then some read else best
  | c :: rest =>
    let best := if nullable p then some read else best
    match derivative c p with
    | never => best
    | q => longestFrom q (read + 1) best rest

def longest (p : Pattern) (cs : List Char) : Option Nat :=
  longestFrom p 0 none cs

def text (s : String) : Pattern :=
  s.toList.foldr (fun c p => cat (chars (· == c)) p) empty

def opt (p : Pattern) : Pattern :=
  alt p empty

def plus (p : Pattern) : Pattern :=
  cat p (star p)

def separated (p separator : Pattern) : Pattern :=
  cat p (star (cat separator p))

def oneOf (choices : List Char) : Pattern :=
  chars fun c => choices.contains c

def all (ps : List Pattern) : Pattern :=
  ps.foldr cat empty

def any (ps : List Pattern) : Pattern :=
  ps.foldr alt never

theorem not_matches_never {s : List Char} : ¬ Matches never s := by
  intro h
  cases h

theorem nullable_iff {p : Pattern} : nullable p = true ↔ Matches p [] := by
  induction p with
  | never => simpa [nullable] using not_matches_never
  | empty => simpa [nullable] using Matches.empty
  | chars p =>
    simp only [nullable, Bool.false_eq_true, false_iff]
    intro h
    cases h
  | cat p q ihp ihq =>
    simp only [nullable, Bool.and_eq_true, ihp, ihq]
    constructor
    · rintro ⟨hp, hq⟩
      exact Matches.cat hp hq
    · intro h
      generalize hs : ([] : List Char) = s at h
      cases h with
      | cat hp hq =>
        obtain ⟨rfl, rfl⟩ := List.append_eq_nil_iff.mp hs.symm
        exact ⟨hp, hq⟩
  | alt p q ihp ihq =>
    simp only [nullable, Bool.or_eq_true, ihp, ihq]
    constructor
    · rintro (h | h)
      · exact .altLeft h
      · exact .altRight h
    · intro h
      cases h with
      | altLeft h => exact .inl h
      | altRight h => exact .inr h
  | star p _ => simpa [nullable] using Matches.starNil

theorem matches_followedBy {p q : Pattern} {s : List Char} :
    Matches (p.followedBy q) s ↔ Matches (cat p q) s := by
  cases p <;> simp only [followedBy]
  · exact ⟨fun h => (not_matches_never h).elim, fun h => by cases h with | cat h _ => cases h⟩
  · constructor
    · intro h
      simpa using Matches.cat .empty h
    · intro h
      cases h with
      | cat h h' => cases h; simpa using h'

theorem matches_alt {p q : Pattern} {s : List Char} :
    Matches (alt p q) s ↔ Matches p s ∨ Matches q s := by
  constructor
  · intro h
    cases h with
    | altLeft h => exact .inl h
    | altRight h => exact .inr h
  · rintro (h | h)
    · exact .altLeft h
    · exact .altRight h

theorem matches_orElse {p q : Pattern} {s : List Char} :
    Matches (p.orElse q) s ↔ Matches p s ∨ Matches q s := by
  rw [← matches_alt]
  have left : Matches q s ↔ Matches (alt never q) s := by
    simp [matches_alt, not_matches_never]
  have right (p : Pattern) : Matches p s ↔ Matches (alt p never) s := by
    simp [matches_alt, not_matches_never]
  cases p <;> cases q <;> first | exact left | exact right _ | exact Iff.rfl

theorem matches_cons_cat {p q : Pattern} {c : Char} {s : List Char} :
    Matches (cat p q) (c :: s) ↔
      (∃ u v, s = u ++ v ∧ Matches p (c :: u) ∧ Matches q v) ∨
        (Matches p [] ∧ Matches q (c :: s)) := by
  constructor
  · intro h
    generalize hs : c :: s = w at h
    cases h with
    | @cat _ _ u v hp hq =>
      cases u with
      | nil => exact .inr ⟨hp, by simpa [hs] using hq⟩
      | cons d u =>
        simp only [List.cons_append, List.cons.injEq] at hs
        obtain ⟨rfl, rfl⟩ := hs
        exact .inl ⟨u, v, rfl, hp, hq⟩
  · rintro (⟨u, v, rfl, hp, hq⟩ | ⟨hp, hq⟩)
    · exact Matches.cat hp hq
    · exact Matches.cat hp hq

theorem matches_cons_star {p : Pattern} {c : Char} {s : List Char} :
    Matches (star p) (c :: s) ↔
      ∃ u v, s = u ++ v ∧ Matches p (c :: u) ∧ Matches (star p) v := by
  constructor
  · intro h
    generalize hr : star p = r at h
    generalize hw : c :: s = w at h
    induction h with
    | starNil => cases hw
    | @starCons p' u v hp hs _ ih =>
      cases hr
      cases u with
      | nil => exact ih rfl (by simpa using hw)
      | cons d u =>
        simp only [List.cons_append, List.cons.injEq] at hw
        obtain ⟨rfl, rfl⟩ := hw
        exact ⟨u, v, rfl, hp, hs⟩
    | _ => cases hr
  · rintro ⟨u, v, rfl, hp, hs⟩
    exact Matches.starCons hp hs

theorem matches_derivative {p : Pattern} {c : Char} {s : List Char} :
    Matches (derivative c p) s ↔ Matches p (c :: s) := by
  induction p generalizing s with
  | never => exact ⟨fun h => (not_matches_never h).elim, fun h => (not_matches_never h).elim⟩
  | empty => exact ⟨fun h => (not_matches_never h).elim, fun h => by cases h⟩
  | chars p =>
    simp only [derivative]
    split
    · next hc =>
      exact ⟨fun h => by cases h; exact .chars hc, fun h => by cases h; exact .empty⟩
    · next hc =>
      exact ⟨fun h => (not_matches_never h).elim, fun h => by cases h; contradiction⟩
  | cat p q ihp ihq =>
    have first : Matches ((derivative c p).followedBy q) s ↔
        ∃ u v, s = u ++ v ∧ Matches p (c :: u) ∧ Matches q v := by
      rw [matches_followedBy]
      constructor
      · intro h
        cases h with
        | @cat _ _ u v hp hq => exact ⟨u, v, rfl, ihp.mp hp, hq⟩
      · rintro ⟨u, v, rfl, hp, hq⟩
        exact .cat (ihp.mpr hp) hq
    simp only [derivative]
    split
    · next h => rw [matches_orElse, matches_cons_cat, first, ihq]; simp [nullable_iff.mp h]
    · next h =>
      have none : ¬ Matches p [] := fun hp => h (nullable_iff.mpr hp)
      rw [matches_cons_cat, first]; simp [none]
  | alt p q ihp ihq => simp [derivative, matches_orElse, matches_alt, ihp, ihq]
  | star p ih =>
    rw [derivative, matches_followedBy, matches_cons_star]
    constructor
    · intro h
      cases h with
      | @cat _ _ u v hp hs => exact ⟨u, v, rfl, ih.mp hp, hs⟩
    · rintro ⟨u, v, rfl, hp, hs⟩
      exact .cat (ih.mpr hp) hs

/-! ## Searching -/

/-- A beginning of a text matches if the empty one does, or one of the rest by the derivative. -/
theorem exists_prefix_cons_iff {p : Pattern} {c : Char} {s : List Char} :
    (∃ t, t <+: c :: s ∧ Matches p t) ↔
      nullable p = true ∨ ∃ t, t <+: s ∧ Matches (derivative c p) t := by
  simp only [List.prefix_cons_iff, nullable_iff, matches_derivative]
  constructor
  · rintro ⟨t, rfl | ⟨t, rfl, ht⟩, h⟩
    · exact .inl h
    · exact .inr ⟨t, ht, h⟩
  · rintro (h | ⟨t, ht, h⟩)
    · exact ⟨[], .inl rfl, h⟩
    · exact ⟨c :: t, .inr ⟨t, rfl, ht⟩, h⟩

theorem searchFrom_iff {p threads : Pattern} {s : List Char} : searchFrom p threads s = true ↔
    (∃ t, t <+: s ∧ Matches threads t) ∨ ∃ t, t <:+: s ∧ Matches p t := by
  induction s generalizing threads with
  | nil => simp [searchFrom, nullable_iff]
  | cons c s ih =>
    rw [searchFrom, Bool.or_eq_true, Bool.or_eq_true, ih]
    simp only [List.infix_cons_iff, matches_orElse, and_or_left, or_and_right, exists_or,
      exists_prefix_cons_iff]
    grind

theorem occursIn_iff {p : Pattern} {s : String} :
    p.occursIn s = true ↔ ∃ t, t <:+: s.toList ∧ Matches p t := by
  simp [occursIn, searchFrom_iff, not_matches_never]

theorem searchEndFrom_iff {p threads : Pattern} {s : List Char} :
    searchEndFrom p threads s = true ↔ Matches threads s ∨ ∃ t, t <:+ s ∧ Matches p t := by
  induction s generalizing threads with
  | nil => simp [searchEndFrom, nullable_iff]
  | cons c s ih =>
    rw [searchEndFrom, ih, matches_orElse, matches_derivative, matches_derivative, or_assoc]
    simp only [List.suffix_cons_iff, or_and_right, exists_or, exists_eq_left]

theorem endsText_iff {p : Pattern} {s : String} :
    p.endsText s = true ↔ ∃ t, t <:+ s.toList ∧ Matches p t := by
  simp [endsText, searchEndFrom_iff, not_matches_never]

/-! ## The longest beginning -/

structure IsLongest (p : Pattern) (cs t : List Char) : Prop where
  isBeginning : t <+: cs
  matching : Matches p t
  length_le : ∀ {u}, u <+: cs → Matches p u → u.length ≤ t.length

theorem IsLongest.nil {p : Pattern} {cs : List Char} (hempty : nullable p = true)
    (h : ∀ u, u <+: cs → Matches p u → u = []) : IsLongest p cs [] where
  isBeginning := List.nil_prefix
  matching := nullable_iff.1 hempty
  length_le hu hmatch := Nat.le_of_eq (congrArg List.length (h _ hu hmatch))

theorem IsLongest.cons {p : Pattern} {c : Char} {cs t : List Char}
    (h : IsLongest (derivative c p) cs t) : IsLongest p (c :: cs) (c :: t) where
  isBeginning := List.cons_prefix_cons.2 ⟨rfl, h.isBeginning⟩
  matching := matches_derivative.1 h.matching
  length_le hu hmatch := by
    rcases List.prefix_cons_iff.1 hu with rfl | ⟨u, rfl, hrest⟩
    · exact Nat.zero_le _
    · exact Nat.succ_le_succ (h.length_le hrest (matches_derivative.2 hmatch))

theorem longestFrom_never (read : Nat) (best : Option Nat) (cs : List Char) :
    longestFrom never read best cs = best := by
  cases cs <;> rfl

theorem longestFrom_cons (p : Pattern) (read : Nat) (best : Option Nat) (c : Char)
    (rest : List Char) : longestFrom p read best (c :: rest) =
      longestFrom (derivative c p) (read + 1) (if nullable p then some read else best) rest := by
  rw [longestFrom]
  split
  · next h => rw [h, longestFrom_never]
  · rfl

/-- Either the longest beginning is found, or none matches and `best` remains. -/
theorem longestFrom_spec (p : Pattern) (read : Nat) (best : Option Nat) (cs : List Char) :
    (∃ t, IsLongest p cs t ∧ longestFrom p read best cs = some (read + t.length)) ∨
      (∀ t, t <+: cs → ¬ Matches p t) ∧ longestFrom p read best cs = best := by
  induction cs generalizing p read best with
  | nil =>
    have hnil : ∀ u, u <+: [] → Matches p u → u = [] := fun u hu _ => List.prefix_nil.1 hu
    by_cases hempty : nullable p
    · exact .inl ⟨[], .nil hempty hnil, if_pos hempty⟩
    · refine .inr ⟨fun t ht h => hempty ?_, if_neg hempty⟩
      rw [hnil t ht h] at h
      exact nullable_iff.2 h
  | cons c rest ih =>
    rw [longestFrom_cons]
    rcases ih (derivative c p) (read + 1) (if nullable p then some read else best) with
      ⟨t, ht, heq⟩ | ⟨hnone, heq⟩
    · refine .inl ⟨c :: t, ht.cons, ?_⟩
      rw [heq, List.length_cons, Nat.add_right_comm, Nat.add_assoc]
    · by_cases hempty : nullable p
      · have hnil : ∀ u, u <+: c :: rest → Matches p u → u = [] := by
          intro u hu h
          rcases List.prefix_cons_iff.1 hu with rfl | ⟨u, rfl, hrest⟩
          · rfl
          · exact (hnone u hrest (matches_derivative.2 h)).elim
        exact .inl ⟨[], .nil hempty hnil, by rw [heq, if_pos hempty]; rfl⟩
      · refine .inr ⟨fun t ht h => ?_, by rw [heq, if_neg hempty]⟩
        rcases exists_prefix_cons_iff.1 ⟨t, ht, h⟩ with hnull | ⟨u, hu, hmatch⟩
        · exact hempty hnull
        · exact hnone u hu hmatch

theorem longest_eq_some_iff {p : Pattern} {cs : List Char} {n : Nat} :
    longest p cs = some n ↔ ∃ t, IsLongest p cs t ∧ t.length = n := by
  rw [longest]
  rcases longestFrom_spec p 0 none cs with ⟨t, ht, heq⟩ | ⟨hnone, heq⟩
  · rw [heq, Option.some.injEq, Nat.zero_add]
    constructor
    · exact fun h => ⟨t, ht, h⟩
    · rintro ⟨u, hu, rfl⟩
      exact Nat.le_antisymm (hu.length_le ht.isBeginning ht.matching)
        (ht.length_le hu.isBeginning hu.matching)
  · rw [heq]
    constructor
    · nofun
    · rintro ⟨t, ht, -⟩
      exact (hnone t ht.isBeginning ht.matching).elim

end Pattern

end ApiRecovery.Text
