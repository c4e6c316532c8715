import ApiRecovery.Java.Escape
import Mathlib.Algebra.Order.Ring.Nat

/-!
# Spellings of a text

A text can be written in a string literal in many ways: each character as itself, by a letter after
a backslash, by its octal digits or by its hexadecimal ones. Reading a spelling gives the text back.
Only an octal escape has no fixed end: it is read as far as it can go, so that what follows it must
not be a digit that it could have as well.
-/

namespace ApiRecovery.Java

/-! ## Spellings -/

def namedCharacters : List (Char × Char) :=
  [('n', '\n'), ('t', '\t'), ('r', '\r'), ('b', Char.ofNat 8), ('f', Char.ofNat 12), ('s', ' '),
    ('"', '"'), ('\'', '\''), ('\\', '\\')]

/-- The digits of an octal escape: one to three, for at most `377`. -/
structure IsOctal (digits : List Char) : Prop where
  pos : 1 ≤ digits.length
  length_le : digits.length ≤ 3
  octal : ∀ d ∈ digits, '0' ≤ d ∧ d ≤ '7'
  value_le : Nat.ofDigitChars 8 digits 0 ≤ 0o377

/-- A Unicode escape for a number below `10000` in base sixteen: any count of `u`, at least one, and
four digits, each of them small or capital. -/
def IsUnicodeEscape (unit : Nat) (text : List Char) : Prop :=
  ∃ more digits, digits.map Char.toUpper = Text.capitalDigits 4 unit ∧
    text = '\\' :: 'u' :: (List.replicate more 'u' ++ digits)

/-- `Spells s text`: each character of `s` is written in one of the ways that a string literal
has for it. -/
inductive Spells : List Char → List Char → Prop
  | nil : Spells [] []
  | literal {c : Char} {s text : List Char} : c ≠ '\\' → Spells s text → Spells (c :: s) (c :: text)
  | named {letter c : Char} {s text : List Char} : (letter, c) ∈ namedCharacters →
      Spells s text → Spells (c :: s) ('\\' :: letter :: text)
  | octal {c : Char} {digits s text : List Char} : IsOctal digits →
      Nat.ofDigitChars 8 digits 0 = c.toNat → (∀ d ∈ text.head?, ¬ IsOctal (digits ++ [d])) →
      Spells s text → Spells (c :: s) ('\\' :: (digits ++ text))
  | unicode {c : Char} {escape s text : List Char} : c.toNat < 0x10000 →
      IsUnicodeEscape c.toNat escape → Spells s text → Spells (c :: s) (escape ++ text)

variable {c d first : Char} {digits more rest s text : List Char} {n : Nat}

theorem charOfCodePoint_toNat (c : Char) : charOfCodePoint c.toNat = c := by
  have hvalid : c.toNat.isValidChar := c.valid
  rw [charOfCodePoint, if_pos hvalid, Char.ofNat_toNat]

/-! ## One escape -/

theorem unescapeChars_cons_of_ne (h : c ≠ '\\') (rest : List Char) :
    unescapeChars (c :: rest) = c :: unescapeChars rest := by
  rw [unescapeChars, if_neg h]

/-- An escape that has been read is followed by the reading of what it leaves. -/
theorem unescapeChars_escape (h : readEscape text = (s, rest)) :
    unescapeChars ('\\' :: text) = s ++ unescapeChars rest := by
  rw [unescapeChars, if_pos rfl, h]

theorem readEscape_named {letter : Char} (h : (letter, c) ∈ namedCharacters) (rest : List Char) :
    readEscape (letter :: rest) = ([c], rest) := by
  have hall : ∀ p ∈ namedCharacters, readEscape (p.1 :: rest) = ([p.2], rest) := by
    simp [namedCharacters, readEscape, namedEscape]
  exact hall _ h

/-! ## Octal escapes -/

theorem isOctalDigit_iff_le : isOctalDigit d = true ↔ '0' ≤ d ∧ d ≤ '7' := by
  simp [isOctalDigit]

theorem isOctalDigit_iff : isOctalDigit d = true ↔ 48 ≤ d.toNat ∧ d.toNat ≤ 55 :=
  isOctalDigit_iff_le

theorem ofDigitChars_eq_add (digits : List Char) (value : Nat) :
    Nat.ofDigitChars 8 digits value = 8 ^ digits.length * value + Nat.ofDigitChars 8 digits 0 := by
  induction digits generalizing value with
  | nil => simp
  | cons first more ih =>
    rw [Nat.ofDigitChars_cons, Nat.ofDigitChars_cons, ih, ih (8 * 0 + _), List.length_cons,
      Nat.pow_succ, Nat.mul_add, Nat.mul_assoc, Nat.mul_zero, Nat.zero_add, Nat.add_assoc]

theorem ofDigitChars_cons_eq (first : Char) (more : List Char) :
    Nat.ofDigitChars 8 (first :: more) 0 =
      8 ^ more.length * (first.toNat - 48) + Nat.ofDigitChars 8 more 0 := by
  rw [Nat.ofDigitChars_cons, ofDigitChars_eq_add, Nat.mul_zero, Nat.zero_add]
  rfl

theorem ofDigitChars_lt (h : ∀ d ∈ digits, isOctalDigit d = true) :
    Nat.ofDigitChars 8 digits 0 < 8 ^ digits.length := by
  induction digits with
  | nil => exact Nat.one_pos
  | cons first more ih =>
    obtain ⟨hfirst, hmore⟩ := List.forall_mem_cons.1 h
    have hlast := ih hmore
    have hseven : first.toNat - 48 ≤ 7 := by
      have hbounds := isOctalDigit_iff.1 hfirst
      omega
    have hle := Nat.mul_le_mul_left (8 ^ more.length) hseven
    rw [ofDigitChars_cons_eq, List.length_cons, Nat.pow_succ]
    omega

/-- The first digit decides how many may follow it: three digits are at most `377` if the first is
at most three, and two always are. -/
theorem isOctal_cons_iff : IsOctal (first :: more) ↔
    (∀ d ∈ first :: more, isOctalDigit d = true) ∧ more.length < octalLimit first := by
  constructor
  · intro h
    have hoctal : ∀ d ∈ first :: more, isOctalDigit d = true :=
      fun d hd => isOctalDigit_iff_le.2 (h.octal d hd)
    refine ⟨hoctal, ?_⟩
    have hlength := h.length_le
    rw [List.length_cons] at hlength
    unfold octalLimit
    by_cases hsmall : first ≤ '3'
    · rw [if_pos hsmall]
      omega
    · rw [if_neg hsmall]
      refine Nat.lt_of_not_le fun hlong => ?_
      have hfour : 52 ≤ first.toNat := Nat.lt_of_not_le hsmall
      have htwo : more.length = 2 := by omega
      have hvalue := h.value_le
      rw [ofDigitChars_cons_eq, htwo] at hvalue
      omega
  · rintro ⟨hoctal, hlength⟩
    obtain ⟨hfirst, hmore⟩ := List.forall_mem_cons.1 hoctal
    have hbounds := isOctalDigit_iff.1 hfirst
    have hlast := ofDigitChars_lt hmore
    unfold octalLimit at hlength
    refine ⟨Nat.succ_pos _, ?_, fun d hd => isOctalDigit_iff_le.1 (hoctal d hd), ?_⟩
    · rw [List.length_cons]
      split at hlength <;> omega
    · rw [ofDigitChars_cons_eq]
      by_cases hsmall : first ≤ '3'
      · have hthree : first.toNat ≤ 51 := hsmall
        rw [if_pos hsmall] at hlength
        obtain hlen | hlen | hlen : more.length = 0 ∨ more.length = 1 ∨ more.length = 2 := by omega
        all_goals
          rw [hlen] at hlast ⊢
          omega
      · rw [if_neg hsmall] at hlength
        obtain hlen | hlen : more.length = 0 ∨ more.length = 1 := by omega
        all_goals
          rw [hlen] at hlast ⊢
          omega

theorem octalValue_eq_ofDigitChars (h : ∀ d ∈ digits, isOctalDigit d = true) :
    octalValue digits = Nat.ofDigitChars 8 digits 0 := by
  have hfold : ∀ value, digits.foldl (fun value c => value * 8 + (Text.digitValue c).getD 0) value =
      Nat.ofDigitChars 8 digits value := by
    induction digits with
    | nil => exact fun _ => rfl
    | cons first more ih =>
      intro value
      obtain ⟨hfirst, hmore⟩ := List.forall_mem_cons.1 h
      have hbounds := isOctalDigit_iff.1 hfirst
      have hdigit : Text.digitValue first = some (first.toNat - 48) := by
        simp only [Text.digitValue]
        rw [if_pos (by simp; omega)]
      rw [List.foldl_cons, ih hmore, Nat.ofDigitChars_cons, hdigit, Option.getD_some,
        Nat.mul_comm value]
      rfl
  exact hfold 0

theorem readEscape_octalDigit (h : isOctalDigit first = true) (rest : List Char) :
    readEscape (first :: rest) =
      let more := (rest.take (octalLimit first - 1)).takeWhile isOctalDigit
      ([charOfCodePoint (octalValue (first :: more))], rest.drop more.length) := by
  have hnamed : namedEscape first = none := by
    unfold namedEscape
    split
    case h_10 => rfl
    -- no letter is a digit
    all_goals exact absurd h (by decide)
  unfold readEscape
  split
  · next heq => cases heq
  · next heq =>
    cases heq
    exact absurd h (by decide)
  · next heq =>
    cases heq
    exact absurd h (by decide)
  · next heq =>
    cases heq
    simp only [hnamed, h, if_true]

/-- An octal escape is read to its end and no further. -/
theorem readEscape_octal (h : IsOctal digits)
    (hstop : ∀ d ∈ rest.head?, ¬ IsOctal (digits ++ [d])) :
    readEscape (digits ++ rest) = ([charOfCodePoint (Nat.ofDigitChars 8 digits 0)], rest) := by
  obtain _ | ⟨first, more⟩ := digits
  · exact absurd h.pos (by simp)
  obtain ⟨hoctal, hlength⟩ := isOctal_cons_iff.1 h
  obtain ⟨hfirst, hmore⟩ := List.forall_mem_cons.1 hoctal
  have hread : ((more ++ rest).take (octalLimit first - 1)).takeWhile isOctalDigit = more := by
    have hroom : more.length ≤ octalLimit first - 1 := by omega
    rw [List.take_append, List.take_of_length_le hroom, List.takeWhile_append_of_pos hmore]
    -- what is left of the room is empty or begins with what is no digit
    have hend : (rest.take (octalLimit first - 1 - more.length)).takeWhile isOctalDigit = [] := by
      cases hleft : octalLimit first - 1 - more.length with
      | zero => rw [List.take_zero, List.takeWhile_nil]
      | succ left =>
        cases rest with
        | nil => rfl
        | cons d rest =>
          have hnot : ¬ isOctalDigit d = true := by
            intro hd
            have hlonger : IsOctal (first :: (more ++ [d])) := by
              refine isOctal_cons_iff.2 ⟨?_, ?_⟩
              · simpa [or_imp, forall_and] using ⟨hfirst, hmore, hd⟩
              · rw [List.length_append, List.length_singleton]
                omega
            exact hstop d rfl hlonger
          rw [List.take_succ_cons, List.takeWhile_cons_of_neg hnot]
    rw [hend, List.append_nil]
  rw [List.cons_append, readEscape_octalDigit hfirst]
  simp only [hread, List.drop_left, octalValue_eq_ofDigitChars hoctal]

/-! ## Unicode escapes -/

/-- Reading the digits of a number gives the number back, but for what has no place in them. -/
theorem ofDigits?_capitalDigits (width n : Nat) :
    Text.ofDigits? 16 (Text.capitalDigits width n) = some (n % 16 ^ width) := by
  induction width generalizing n with
  | zero => simp [Text.capitalDigits, Text.ofDigits?, Nat.mod_one]
  | succ width ih =>
    have hdigit : Text.digitIn 16 (Text.capitalDigit (n % 16)) = some (n % 16) :=
      Text.digitIn_capitalDigit _ (Nat.mod_lt _ (by decide))
    have hvalue : n / 16 % 16 ^ width * 16 + n % 16 = n % 16 ^ (width + 1) := by
      rw [Nat.pow_succ, Nat.mul_comm (16 ^ width) 16, Nat.mod_mul]
      omega
    rw [Text.capitalDigits, Text.ofDigits?_concat, ih, hdigit, ← hvalue]
    rfl

theorem length_of_hexDigits (h : digits.map Char.toUpper = Text.capitalDigits 4 n) :
    digits.length = 4 := by
  have hlengths := congrArg List.length h
  rwa [List.length_map, Text.length_capitalDigits] at hlengths

theorem ne_of_hexDigits (h : digits.map Char.toUpper = Text.capitalDigits 4 n) (hd : d ∈ digits) :
    d ≠ 'u' ∧ d ≠ '+' := by
  have hmem : d.toUpper ∈ Text.capitalDigits 4 n := h ▸ List.mem_map_of_mem hd
  obtain ⟨digit, hlt, heq⟩ := Text.mem_capitalDigits hmem
  have hnone : ∀ digit < 16, Text.capitalDigit digit ≠ 'u'.toUpper ∧
      Text.capitalDigit digit ≠ '+'.toUpper := by
    decide
  constructor
  · rintro rfl
    exact (hnone digit hlt).1 heq.symm
  · rintro rfl
    exact (hnone digit hlt).2 heq.symm

theorem unicodeEscape_eq (hn : n < 0x10000)
    (h : digits.map Char.toUpper = Text.capitalDigits 4 n) :
    unicodeEscape digits = [charOfCodePoint n] := by
  have hlength := length_of_hexDigits h
  have hvalue : Text.ofDigits? 16 digits = some n := by
    have hmod : n % 16 ^ 4 = n := Nat.mod_eq_of_lt hn
    rw [← Text.ofDigits?_map_toUpper, h, ofDigits?_capitalDigits, hmod]
  have hnumber : Text.number? 16 digits = some n := by
    have hsome : digits.isEmpty = false := by
      rw [List.isEmpty_eq_false_iff]
      rintro rfl
      cases hlength
    rw [Text.number?, hsome, if_neg Bool.false_ne_true, hvalue]
  have hhex : hexValue digits = some n := by
    unfold hexValue
    split
    · -- no digit is a plus sign
      exact absurd rfl (ne_of_hexDigits h List.mem_cons_self).2
    · exact hnumber
  simp only [unicodeEscape, hhex, hlength, if_true]

theorem readEscape_unicode (hn : n < 0x10000)
    (h : digits.map Char.toUpper = Text.capitalDigits 4 n) (more : Nat) (rest : List Char) :
    readEscape ('u' :: (List.replicate more 'u' ++ digits ++ rest)) =
      ([charOfCodePoint n], rest) := by
  have hlength := length_of_hexDigits h
  -- the digits begin where the letters end
  have hdigits : (digits ++ rest).dropWhile (· == 'u') = digits ++ rest := by
    cases digits with
    | nil => cases hlength
    | cons d more =>
      have hd : d ≠ 'u' := (ne_of_hexDigits h List.mem_cons_self).1
      rw [List.cons_append, List.dropWhile_cons_of_neg (by simpa using hd)]
  have hdrop : (List.replicate more 'u' ++ digits ++ rest).dropWhile (· == 'u') =
      digits ++ rest := by
    rw [List.append_assoc, List.dropWhile_append_of_pos (by simp), hdigits]
  show (unicodeEscape ((List.dropWhile (· == 'u') _).take 4),
    (List.dropWhile (· == 'u') _).drop 4) = _
  rw [hdrop, List.take_left' hlength, List.drop_left' hlength, unicodeEscape_eq hn h]

theorem unescapeChars_unicode {escape : List Char} (hn : n < 0x10000)
    (h : IsUnicodeEscape n escape) (rest : List Char) :
    unescapeChars (escape ++ rest) = charOfCodePoint n :: unescapeChars rest := by
  obtain ⟨more, digits, hdigits, rfl⟩ := h
  exact unescapeChars_escape (readEscape_unicode hn hdigits more rest)

/-! ## Whole texts -/

/-- Whichever way each character is written, reading gives the text back. -/
theorem unescapeChars_of_spells (h : Spells s text) : unescapeChars text = s := by
  induction h with
  | nil => rw [unescapeChars]
  | literal hc _ ih => rw [unescapeChars_cons_of_ne hc, ih]
  | named hmem _ ih =>
    rw [unescapeChars_escape (readEscape_named hmem _), ih, List.singleton_append]
  | octal hdigits hvalue hstop _ ih =>
    rw [unescapeChars_escape (readEscape_octal hdigits hstop), ih, hvalue, charOfCodePoint_toNat,
      List.singleton_append]
  | unicode hbound hescape _ ih =>
    rw [unescapeChars_unicode hbound hescape, ih, charOfCodePoint_toNat]

theorem spells_escapeChar (c : Char) (h : Spells s text) :
    Spells (c :: s) (escapeChar c ++ text) := by
  have hcode : ∀ {n}, c.toNat = n → c = Char.ofNat n := by
    rintro _ rfl
    exact (Char.ofNat_toNat c).symm
  unfold escapeChar
  split
  · exact .named (by decide) h
  · exact .named (by decide) h
  · exact .named (by decide) h
  · exact .named (by decide) h
  · exact .named (by decide) h
  · next hbackslash _ _ _ _ =>
    split
    · next hbackspace => exact .named (by rw [hcode hbackspace]; decide) h
    · split
      · next hfeed => exact .named (by rw [hcode hfeed]; decide) h
      · split
        · next hcontrol =>
          have hescape : IsUnicodeEscape c.toNat ('\\' :: 'u' :: Text.capitalDigits 4 c.toNat) :=
            ⟨0, _, Text.map_toUpper_capitalDigits 4 c.toNat, rfl⟩
          exact .unicode (by omega) hescape h
        · exact .literal hbackslash h

theorem spells_escape (s : List Char) : Spells s (s.flatMap escapeChar) := by
  induction s with
  | nil => exact .nil
  | cons c s ih =>
    rw [List.flatMap_cons]
    exact spells_escapeChar c ih

/-- Reading a spelling of a text gives the text, and what is written for a text is a spelling. -/
theorem unescape_inverts_spellings :
    (∀ s : String, Spells s.toList (escape s).toList ∧ unescape (escape s) = s) ∧
      ∀ s text : String, Spells s.toList text.toList → unescape text = s := by
  have hread : ∀ s text : String, Spells s.toList text.toList → unescape text = s := by
    intro s text h
    rw [unescape, unescapeChars_of_spells h, String.ofList_toList]
  have hwritten : ∀ s : String, Spells s.toList (escape s).toList := by
    intro s
    rw [escape, String.toList_ofList]
    exact spells_escape s.toList
  exact ⟨fun s => ⟨hwritten s, hread s _ (hwritten s)⟩, hread⟩

/-- A third digit belongs to an octal escape only if the first is at most three. -/
example : unescape "\\477\\1018" = "'7A8" := by decide +kernel

end ApiRecovery.Java
