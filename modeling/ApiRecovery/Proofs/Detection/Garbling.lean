import ApiRecovery.Detection.Probe
import Mathlib.Data.List.DropRight

/-!
# Garbled paths

A garbled path has as many parts as the path. Those that begin with a parameter are kept, and of the
others all but the last ones, as many as the level says. In their places stand texts of letters and
digits, which are drawn one after another from the end of the path on. So a higher level replaces
what a lower one replaces, and more of what is before it.
-/

namespace ApiRecovery

namespace Choices

def after (c : Choices) (n : Nat) : Choices :=
  { c with used := c.used + n }

theorem after_after (c : Choices) (m n : Nat) : (c.after m).after n = c.after (m + n) := by
  simp [after, Nat.add_assoc]

theorem snd_chars (c : Choices) (n : Nat) : (c.chars n).2 = c.after n := by
  induction n generalizing c with
  | zero => rfl
  | succ n ih =>
    have hletter : c.letter.2 = c.after 1 := rfl
    have hrest : ((c.after 1).chars n).2 = c.after (n + 1) := by
      rw [ih, after_after, Nat.add_comm]
    simp only [chars, hletter, hrest]

theorem snd_text (c : Choices) (n : Nat) : (c.text n).2 = c.after n :=
  c.snd_chars n

end Choices

namespace Probe

/-! ## Garbling from the front

`garbleParts` goes through the parts of a path from the last to the first.
-/

/-- How many of the first `i` parts do not begin with a parameter. -/
def othersBefore (parts : List String) (i : Nat) : Nat :=
  (parts.take i).countP fun part => !isParameter part

theorem othersBefore_cons_succ (part : String) (parts : List String) (i : Nat) :
    othersBefore (part :: parts) (i + 1) =
      othersBefore parts i + if isParameter part then 0 else 1 := by
  rw [othersBefore, List.take_succ_cons, List.countP_cons]
  cases isParameter part <;> rfl

/-- What garbling makes of a part, if on the way to it `others` parts could be replaced. -/
def garbledPart (c : Choices) (level others : Nat) (part : String) : String :=
  if isParameter part || level ≤ others then part else ((c.after (8 * others)).text 8).1

theorem garbledPart_of_kept {level others : Nat} {part : String}
    (h : isParameter part = true ∨ level ≤ others) (c : Choices) :
    garbledPart c level others part = part := by
  rw [garbledPart, if_pos (by simpa using h)]

theorem garbledPart_of_replaced {level others : Nat} {part : String}
    (hpart : isParameter part = false) (h : others < level) (c : Choices) :
    garbledPart c level others part = ((c.after (8 * others)).text 8).1 := by
  rw [garbledPart, if_neg (by simpa [hpart] using h)]

/-- Behind a part that was replaced, one level and one text are used up. -/
theorem garbledPart_after (c : Choices) (level others : Nat) :
    garbledPart (c.after 8) level others = garbledPart c (level + 1) (others + 1) := by
  funext part
  rw [garbledPart, garbledPart, Choices.after_after, Nat.mul_succ, Nat.add_comm 8]
  simp only [Nat.add_le_add_iff_right]

theorem garbleParts_zero (c : Choices) (parts : List String) :
    garbleParts c 0 parts = (parts, c) := by
  cases parts <;> rfl

theorem mapIdx_garbledPart_zero (c : Choices) (others : Nat → Nat) (parts : List String) :
    (parts.mapIdx fun i => garbledPart c 0 (others i)) = parts := by
  refine List.ext_getElem? fun i => ?_
  rw [List.getElem?_mapIdx]
  cases parts[i]? with
  | none => rfl
  | some part => rw [Option.map_some, garbledPart_of_kept (.inr (Nat.zero_le _))]

theorem garbleParts_eq_mapIdx (c : Choices) (level : Nat) (parts : List String) :
    (garbleParts c level parts).1 =
      parts.mapIdx fun i => garbledPart c level (othersBefore parts i) := by
  induction parts generalizing c level with
  | nil => cases level <;> rfl
  | cons part rest ih =>
    cases level with
    | zero => rw [garbleParts_zero, mapIdx_garbledPart_zero]
    | succ level =>
      have hfirst : othersBefore (part :: rest) 0 = 0 := rfl
      rw [List.mapIdx_cons, hfirst]
      cases h : isParameter part with
      | true =>
        rw [garbleParts, if_pos h, garbledPart_of_kept (.inl h)]
        simp only [ih, othersBefore_cons_succ, h, if_true, Nat.add_zero]
      | false =>
        rw [garbleParts, if_neg (by simp [h]), garbledPart_of_replaced h (Nat.succ_pos level)]
        simp only [ih, Choices.snd_text, garbledPart_after, othersBefore_cons_succ, h]
        rfl

/-! ## The parts of a garbled path -/

def othersBehind (parts : List String) (i : Nat) : Nat :=
  (parts.drop (i + 1)).countP fun part => !isParameter part

theorem othersBefore_reverse {parts : List String} {i : Nat} (h : i < parts.length) :
    othersBefore parts.reverse (parts.length - 1 - i) = othersBehind parts i := by
  have hplace : parts.length - (parts.length - 1 - i) = i + 1 := by omega
  rw [othersBefore, List.take_reverse, List.countP_reverse, hplace, othersBehind]

theorem reverse_garbleParts_reverse (c : Choices) (level : Nat) (parts : List String) :
    (garbleParts c level parts.reverse).1.reverse =
      parts.mapIdx fun i => garbledPart c level (othersBehind parts i) := by
  rw [garbleParts_eq_mapIdx, List.mapIdx_reverse, List.reverse_reverse, List.mapIdx_eq_mapIdx_iff]
  intro i hi
  rw [othersBefore_reverse hi]

theorem slash_not_mem_garbledPart {part : String} (h : '/' ∉ part.toList) (c : Choices)
    (level others : Nat) : '/' ∉ (garbledPart c level others part).toList := by
  rw [garbledPart]
  split
  · exact h
  · rw [Choices.toList_text]
    exact fun hmem => by cases Choices.chars_isAlphanum _ 8 '/' hmem

/-- No random text has a slash, so a garbled path is cut into what was made of the parts. -/
theorem split_garble (c : Choices) (level : Nat) (path : String) :
    let parts := Text.split '/' path
    Text.split '/' (garble c level path).1 =
      parts.mapIdx fun i => garbledPart c level (othersBehind parts i) := by
  intro parts
  have hjoin : (garble c level path).1 = Text.join (String.singleton '/')
      (parts.mapIdx fun i => garbledPart c level (othersBehind parts i)) := by
    rw [← reverse_garbleParts_reverse]
    rfl
  have hne : parts.mapIdx (fun i => garbledPart c level (othersBehind parts i)) ≠ [] :=
    fun hnil => Text.split_ne_nil '/' path (List.mapIdx_eq_nil_iff.1 hnil)
  rw [hjoin]
  refine Text.split_join hne fun garbled hgarbled => ?_
  obtain ⟨i, hi, rfl⟩ := List.mem_mapIdx.1 hgarbled
  exact slash_not_mem_garbledPart (Text.not_mem_of_mem_split (List.getElem_mem hi)) c level _

/-! ## The places that are replaced -/

def otherPlaces (parts : List String) : List Nat :=
  parts.findIdxs fun part => !isParameter part

/-- The last places of parts that do not begin with a parameter, `level` of them or all. -/
def lastOtherPlaces (level : Nat) (parts : List String) : List Nat :=
  (otherPlaces parts).rtake level

theorem mem_otherPlaces_iff {parts : List String} {i : Nat} :
    i ∈ otherPlaces parts ↔ ∃ part, parts[i]? = some part ∧ isParameter part = false := by
  rw [otherPlaces, List.mem_findIdxs_iff_exists_getElem_pos]
  simp [List.getElem?_eq_some_iff]

theorem otherPlaces_split {parts : List String} {i : Nat} {part : String}
    (hi : parts[i]? = some part) (hpart : isParameter part = false) :
    otherPlaces parts = otherPlaces (parts.take i) ++
      i :: (parts.drop (i + 1)).findIdxs (fun part => !isParameter part) (i + 1) := by
  obtain ⟨hlt, rfl⟩ := List.getElem?_eq_some_iff.1 hi
  have hparts : parts = parts.take i ++ parts[i] :: parts.drop (i + 1) := by
    rw [← List.drop_eq_getElem_cons hlt, List.take_append_drop]
  have hlength : 0 + (parts.take i).length = i := by
    rw [Nat.zero_add, List.length_take_of_le (Nat.le_of_lt hlt)]
  conv => lhs; rw [otherPlaces, hparts]
  rw [List.findIdxs_append, hlength, List.findIdxs_cons, if_pos (by simp [hpart])]
  rfl

/-- A member that does not come again is one of the last `k` if fewer than `k` are behind it. -/
theorem mem_rtake_append_cons {xs ys : List Nat} {x : Nat} (h : x ∉ ys) (k : Nat) :
    x ∈ (xs ++ x :: ys).rtake k ↔ ys.length < k := by
  have hys : x ∉ ys.reverse.take k := fun hx => h (List.mem_reverse.1 (List.take_subset _ _ hx))
  rw [List.rtake_eq_reverse_take_reverse, List.mem_reverse, List.reverse_append, List.reverse_cons,
    List.append_assoc, List.take_append, List.mem_append, or_iff_right hys, List.length_reverse]
  cases hk : k - ys.length with
  | zero => exact iff_of_false (by simp) (by omega)
  | succ n => exact iff_of_true (by simp) (by omega)

theorem mem_lastOtherPlaces_iff {level : Nat} {parts : List String} {i : Nat} :
    i ∈ lastOtherPlaces level parts ↔
      ∃ part, parts[i]? = some part ∧ isParameter part = false ∧ othersBehind parts i < level := by
  have last : ∀ part, parts[i]? = some part → isParameter part = false →
      (i ∈ lastOtherPlaces level parts ↔ othersBehind parts i < level) := by
    intro part hi hpart
    have hbehind : i ∉ (parts.drop (i + 1)).findIdxs (fun part => !isParameter part) (i + 1) :=
      fun hmem => Nat.not_succ_le_self i (List.ge_of_mem_findIdxs i hmem)
    rw [lastOtherPlaces, otherPlaces_split hi hpart, mem_rtake_append_cons hbehind,
      List.length_findIdxs, othersBehind]
  constructor
  · intro hmem
    obtain ⟨part, hi, hpart⟩ := mem_otherPlaces_iff.1 (List.drop_subset _ _ hmem)
    exact ⟨part, hi, hpart, (last part hi hpart).1 hmem⟩
  · rintro ⟨part, hi, hpart, hlt⟩
    exact (last part hi hpart).2 hlt

theorem length_lastOtherPlaces (level : Nat) (parts : List String) :
    (lastOtherPlaces level parts).length =
      min level (parts.countP fun part => !isParameter part) := by
  rw [lastOtherPlaces, List.rtake, List.length_drop, otherPlaces, List.length_findIdxs,
    Nat.sub_sub_eq_min, Nat.min_comm]

theorem lastOtherPlaces_suffix {level higher : Nat} (h : level ≤ higher) (parts : List String) :
    lastOtherPlaces level parts <:+ lastOtherPlaces higher parts :=
  List.drop_suffix_drop_left _ (Nat.sub_le_sub_left h _)

theorem isParameter_iff (part : String) :
    isParameter part = true ↔ part.toList.head? = some '{' := by
  rw [isParameter, Text.startsWith, List.isPrefixOf_iff_prefix]
  cases part.toList <;> simp [eq_comm]

/-- Garbling keeps the number of parts. It replaces exactly the last `level` of the parts that do
not begin with a parameter, or all of them, each by the next text of eight letters and digits, and
nothing else. What is replaced at one level is replaced at every higher one. -/
theorem garble_replaces_last_others (c : Choices) (level : Nat) (path : String) :
    let parts := Text.split '/' path
    let garbled := Text.split '/' (garble c level path).1
    let replaced := lastOtherPlaces level parts
    garbled.length = parts.length ∧
      (∀ (i : Nat) (part : String), parts[i]? = some part → part.toList.head? = some '{' →
        garbled[i]? = some part) ∧
      replaced.length = min level (parts.countP fun part => part.toList.head? != some '{') ∧
      replaced.Pairwise (· < ·) ∧
      (∀ i ∈ replaced, ∃ text, garbled[i]? = some text ∧
        text = ((c.after (8 * othersBehind parts i)).text 8).1 ∧
        text.toList.length = 8 ∧ ∀ a ∈ text.toList, a.isAlphanum = true) ∧
      (∀ i, i ∉ replaced → garbled[i]? = parts[i]?) ∧
      ∀ higher, level ≤ higher → replaced <:+ lastOtherPlaces higher parts := by
  intro parts garbled replaced
  have hsplit : garbled = parts.mapIdx fun i => garbledPart c level (othersBehind parts i) :=
    split_garble c level path
  have hgarbled : ∀ i, garbled[i]? =
      parts[i]?.map (garbledPart c level (othersBehind parts i)) := by
    intro i
    rw [hsplit, List.getElem?_mapIdx]
  have hkept : ∀ i, i ∉ replaced → garbled[i]? = parts[i]? := by
    intro i hi
    rw [hgarbled]
    cases hpart : parts[i]? with
    | none => rfl
    | some part =>
      have hno : isParameter part = true ∨ level ≤ othersBehind parts i := by
        by_contra hneither
        obtain ⟨hnot, hlt⟩ := not_or.1 hneither
        exact hi (mem_lastOtherPlaces_iff.2
          ⟨part, hpart, by simpa using hnot, Nat.lt_of_not_le hlt⟩)
      rw [Option.map_some, garbledPart_of_kept hno]
  refine ⟨?_, fun i part hi hbrace => ?_, ?_,
    List.pairwise_findIdxs.sublist (List.drop_sublist _ _), fun i hi => ?_, hkept,
    fun higher h => lastOtherPlaces_suffix h parts⟩
  · rw [hsplit, List.length_mapIdx]
  · rw [hgarbled, hi, Option.map_some, garbledPart_of_kept (.inl ((isParameter_iff part).2 hbrace))]
  · have hcount : (parts.countP fun part => !isParameter part) =
        parts.countP fun part => part.toList.head? != some '{' :=
      List.countP_congr fun part _ => by simp [← isParameter_iff]
    rw [← hcount]
    exact length_lastOtherPlaces level parts
  · obtain ⟨part, hpart, hnot, hlt⟩ := mem_lastOtherPlaces_iff.1 hi
    refine ⟨_, ?_, rfl, ?_, ?_⟩
    · rw [hgarbled, hpart, Option.map_some, garbledPart_of_replaced hnot hlt]
    · rw [Choices.toList_text, Choices.length_chars]
    · rw [Choices.toList_text]
      exact Choices.chars_isAlphanum _ 8

example : lastOtherPlaces 2 (Text.split '/' "/users/\x7bid\x7d/orders") = [1, 3] := by
  decide

end Probe

end ApiRecovery
