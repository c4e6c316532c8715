import ApiRecovery.Proofs.Java.Spellings
import Mathlib.Data.List.Forall2

/-!
# Texts written by their code units

In UTF-16 a character of the basic plane is one code unit and any other character a pair of
surrogates. Each Unicode escape is read by itself, and a surrogate by itself is no character. So a
text that is written by its code units is read back if it keeps to the basic plane, and of every
other character nothing but its place is left.
-/

namespace ApiRecovery.Java

def codeUnits (c : Char) : List Nat :=
  if c.toNat < 0x10000 then [c.toNat]
  else [0xD800 + (c.toNat - 0x10000) / 0x400, 0xDC00 + (c.toNat - 0x10000) % 0x400]

/-- What becomes of a character that is written by its code units. -/
def readUnits (c : Char) : List Char :=
  if c.toNat < 0x10000 then [c] else [replacementChar, replacementChar]

theorem toNat_lt (c : Char) : c.toNat < 0x110000 := by
  have hvalid : c.toNat.isValidChar := c.valid
  unfold Nat.isValidChar at hvalid
  omega

theorem charOfCodePoint_surrogate {n : Nat} (h : 0xD800 ≤ n) (h' : n < 0xE000) :
    charOfCodePoint n = replacementChar := by
  have hnone : ¬ n.isValidChar := by
    unfold Nat.isValidChar
    omega
  rw [charOfCodePoint, if_neg hnone]

theorem codeUnits_lt (c : Char) : ∀ n ∈ codeUnits c, n < 0x10000 := by
  have hmax := toNat_lt c
  unfold codeUnits
  split
  · simpa
  · simp only [List.forall_mem_cons, List.not_mem_nil, false_imp_iff, implies_true, and_true]
    omega

theorem map_charOfCodePoint_codeUnits (c : Char) :
    (codeUnits c).map charOfCodePoint = readUnits c := by
  have hmax := toNat_lt c
  unfold codeUnits readUnits
  split
  · rw [List.map_singleton, charOfCodePoint_toNat]
  · rw [List.map_cons, List.map_singleton, charOfCodePoint_surrogate (by omega) (by omega),
      charOfCodePoint_surrogate (by omega) (by omega)]

/-- Escapes are read one by one. -/
theorem unescapeChars_flatten {units : List Nat} {escapes : List (List Char)}
    (h : List.Forall₂ IsUnicodeEscape units escapes) (hunits : ∀ n ∈ units, n < 0x10000) :
    unescapeChars escapes.flatten = units.map charOfCodePoint := by
  induction h with
  | nil => simp [unescapeChars]
  | cons hescape _ ih =>
    obtain ⟨hunit, hrest⟩ := List.forall_mem_cons.1 hunits
    rw [List.flatten_cons, unescapeChars_unicode hunit hescape, ih hrest, List.map_cons]

theorem length_le_length_readUnits (s : List Char) : s.length ≤ (s.flatMap readUnits).length := by
  induction s with
  | nil => exact Nat.le_refl 0
  | cons c s ih =>
    have hc : 1 ≤ (readUnits c).length := by
      unfold readUnits
      split <;> simp
    rw [List.flatMap_cons, List.length_append, List.length_cons]
    omega

/-- Every character beyond the basic plane makes the text longer. -/
theorem readUnits_eq_self_iff (s : List Char) :
    s.flatMap readUnits = s ↔ ∀ c ∈ s, c.toNat < 0x10000 := by
  induction s with
  | nil => simp
  | cons c s ih =>
    rw [List.flatMap_cons, List.forall_mem_cons, ← ih]
    by_cases hc : c.toNat < 0x10000
    · simp [readUnits, hc]
    · have hle := length_le_length_readUnits s
      constructor
      · intro heq
        have hlength := congrArg List.length heq
        rw [readUnits, if_neg hc, List.length_append, List.length_cons, List.length_singleton,
          List.length_cons] at hlength
        omega
      · rintro ⟨hbasic, -⟩
        exact absurd hbasic hc

/-- A text that is written by its code units is read with two replacement characters for each
character beyond the basic plane. So it is read back exactly if it has no such character. -/
theorem unescape_codeUnits (s : String) (escapes : List (List Char))
    (h : List.Forall₂ IsUnicodeEscape (s.toList.flatMap codeUnits) escapes) :
    let read := unescape (String.ofList escapes.flatten)
    read = String.ofList (s.toList.flatMap fun c =>
      if c.toNat < 0x10000 then [c] else [Char.ofNat 0xFFFD, Char.ofNat 0xFFFD]) ∧
    (read = s ↔ ∀ c ∈ s.toList, c.toNat < 0x10000) := by
  have hunits : ∀ n ∈ s.toList.flatMap codeUnits, n < 0x10000 := by
    intro n hn
    obtain ⟨c, -, hn⟩ := List.mem_flatMap.1 hn
    exact codeUnits_lt c n hn
  have hread : unescape (String.ofList escapes.flatten) =
      String.ofList (s.toList.flatMap readUnits) := by
    rw [unescape, String.toList_ofList, unescapeChars_flatten h hunits, List.map_flatMap]
    simp only [map_charOfCodePoint_codeUnits]
  refine ⟨hread, ?_⟩
  rw [hread, ← readUnits_eq_self_iff, ← String.toList_inj, String.toList_ofList]

/-- An accented letter is read back, and the character after it is not. -/
theorem letter_and_emoji_by_codeUnits :
    let escapes := ["\\u00e9".toList, "\\uD83D".toList, "\\uuude00".toList]
    List.Forall₂ IsUnicodeEscape ("é😀".toList.flatMap codeUnits) escapes ∧
      unescape (String.ofList escapes.flatten) = "é\ufffd\ufffd" ∧
      unescape (String.ofList escapes.flatten) ≠ "é😀" := by
  intro escapes
  have hunits : "é😀".toList.flatMap codeUnits = [0xE9, 0xD83D, 0xDE00] := by decide
  have hescapes : List.Forall₂ IsUnicodeEscape ("é😀".toList.flatMap codeUnits) escapes := by
    rw [hunits]
    exact .cons ⟨0, "00e9".toList, by decide, by decide⟩
      (.cons ⟨0, "D83D".toList, by decide, by decide⟩
        (.cons ⟨2, "de00".toList, by decide, by decide⟩ .nil))
  obtain ⟨hread, hback⟩ := unescape_codeUnits "é😀" escapes hescapes
  have hmem : '😀' ∈ "é😀".toList := by decide
  exact ⟨hescapes, hread.trans (by decide), fun heq => absurd (hback.1 heq _ hmem) (by decide)⟩

/-- A pair of surrogates is not read as the character that it stands for. -/
theorem surrogate_pair_is_lost :
    List.Forall₂ IsUnicodeEscape ("😀".toList.flatMap codeUnits)
      ["\\ud83d".toList, "\\ude00".toList] ∧
    unescape "\\ud83d\\ude00" = "\ufffd\ufffd" ∧ unescape "\\ud83d\\ude00" ≠ "😀" := by
  have hunits : "😀".toList.flatMap codeUnits = [0xD83D, 0xDE00] := by decide
  have hread : unescape "\\ud83d\\ude00" = "\ufffd\ufffd" := by
    decide +kernel
  refine ⟨?_, hread, ?_⟩
  · rw [hunits]
    exact .cons ⟨0, "d83d".toList, by decide, by decide⟩
      (.cons ⟨0, "de00".toList, by decide, by decide⟩ .nil)
  · rw [hread]
    decide

end ApiRecovery.Java
