import ApiRecovery.Java.Token.Lexer
import ApiRecovery.Text.Blank

/-!
# The tokens of a text

What stands between the tokens of a text and what may follow them: the tokens spell the text, white
space comes before a token and never in a word, and a word goes on as far as it can.
-/

namespace ApiRecovery.Java

namespace Lexer

theorem drop_length_takeWhile {α : Type} (p : α → Bool) (xs : List α) :
    xs.drop (xs.takeWhile p).length = xs.dropWhile p := by
  conv => lhs; arg 2; rw [← List.takeWhile_append_dropWhile (p := p) (l := xs)]
  exact List.drop_left

/-! ## Characters -/

def blankRanges : List (Nat × Nat) :=
  [(9, 13), (0x20, 0x20), (0x85, 0x85), (0xA0, 0xA0), (0x1680, 0x1680), (0x2000, 0x200A),
   (0x2028, 0x2028), (0x2029, 0x2029), (0x202F, 0x202F), (0x205F, 0x205F), (0x3000, 0x3000)]

def areApart (r s : List (Nat × Nat)) : Bool :=
  r.all fun a => s.all fun b => a.2 < b.1 || b.2 < a.1

theorem inRanges_of_areApart {r s : List (Nat × Nat)} {n : Nat} (h : areApart r s = true)
    (hn : Text.inRanges n r = true) : Text.inRanges n s = false := by
  obtain ⟨a, ha, hfirst, hlast⟩ := Text.inRanges_eq_true_iff.1 hn
  rw [← Bool.not_eq_true, Text.inRanges_eq_true_iff]
  rintro ⟨b, hb, hfirst', hlast'⟩
  have hapart := List.all_eq_true.1 (List.all_eq_true.1 h a ha) b hb
  simp only [Bool.or_eq_true, decide_eq_true_eq] at hapart
  omega

theorem inRanges_of_isBlank {c : Char} (h : Text.isBlank c = true) :
    Text.inRanges c.toNat blankRanges = true := by
  simpa [Text.isBlank, Text.inRanges, blankRanges, or_assoc, Nat.le_antisymm_iff, and_comm] using h

theorem blankRanges_areApart :
    areApart blankRanges Text.identifierStartRanges = true ∧
      areApart blankRanges Text.identifierContinueRanges = true := by
  decide +kernel

theorem isIdentifierContinue_of_isBlank {c : Char} (h : Text.isBlank c = true) :
    Text.isIdentifierContinue c = false := by
  by_cases hascii : c.toNat < 128
  · have hdecided : ∀ n < 128, Text.isBlank (Char.ofNat n) = true →
        Text.isIdentifierContinue (Char.ofNat n) = false := by decide +kernel
    simpa [h] using hdecided c.toNat hascii
  · have hranges := inRanges_of_isBlank h
    rw [Text.isIdentifierContinue, if_neg hascii,
      inRanges_of_areApart blankRanges_areApart.1 hranges,
      inRanges_of_areApart blankRanges_areApart.2 hranges]
    rfl

/-- No white space belongs to a word. -/
theorem isWordPart_of_isBlank {c : Char} (h : Text.isBlank c = true) : isWordPart c = false := by
  have hne : ∀ d : Char, Text.isBlank d = false → (c == d) = false := by
    intro d hd
    rw [beq_eq_false_iff_ne]
    rintro rfl
    cases hd.symm.trans h
  rw [isWordPart, isIdentifierContinue_of_isBlank h, hne '_' rfl, hne '$' rfl, hne '¢' rfl]
  rfl

theorem isBlank_text {c : Char} (h : isBlank c = true) : Text.isBlank c = true := by
  simp only [isBlank, Bool.or_eq_true, Bool.and_eq_true, decide_eq_true_eq, beq_iff_eq,
    Char.le_def, UInt32.le_iff_toNat_le] at h
  rcases h with rfl | ⟨hfirst, hlast⟩
  · rfl
  · have hfirst' : 9 ≤ c.toNat := hfirst
    have hlast' : c.toNat ≤ 13 := hlast
    simp [Text.isBlank, hfirst', hlast']

theorem isWordPart_of_isWordStart {c : Char} (h : isWordStart c = true) : isWordPart c = true := by
  simp only [isWordStart, isWordPart, Bool.or_eq_true] at h ⊢
  rcases h with (h | h) | h
  · exact .inl (.inl (.inl (Text.isIdentifierContinue_of_start h)))
  · exact .inl (.inl (.inr h))
  · exact .inl (.inr h)

/-! ## Single tokens -/

theorem readText_cls {block : Bool} {opening : Nat} {rest : List Char} {nesting : Nesting} :
    (readText block opening rest nesting).1 ≠ .word ∧
      (readText block opening rest nesting).1 ≠ .comment := by
  unfold readText
  split <;> simp

/-- A token is a word exactly where a word can begin, and then as long as possible. -/
theorem readToken_word {nesting : Nesting} {c : Char} {rest : List Char}
    (h : (readToken nesting c rest).1 = .word) : isWordStart c = true ∧
      (readToken nesting c rest).2.1 = 1 + (rest.takeWhile isWordPart).length := by
  unfold readToken at h ⊢
  split
  · rename_i hc
    exact ⟨hc, rfl⟩
  · rename_i hc
    rw [if_neg hc] at h
    exfalso
    split at h
    · cases h
    · repeat' split at h
      all_goals first
        | cases h
        | exact readText_cls.1 h

theorem readToken_comment {nesting : Nesting} {c : Char} {rest : List Char}
    (h : (readToken nesting c rest).1 = .comment) : c = '/' := by
  unfold readToken at h
  split at h
  · cases h
  · split at h
    · cases h
    · repeat' split at h
      all_goals first
        | rfl
        | cases h
        | exact absurd h readText_cls.2

end Lexer

/-! ## Runs of tokens -/

def IsWord (cs : List Char) : Prop :=
  ∃ c more, cs = c :: more ∧ Lexer.isWordStart c = true ∧ ∀ d ∈ more, Lexer.isWordPart d = true

/-- What is true of a token that is read before `rest`. -/
structure Token.Precedes (t : Token) (rest : List Char) : Prop where
  blank : ∀ c ∈ t.blank.toList, Lexer.isBlank c = true
  nonempty : t.text.toList ≠ []
  word : t.cls = .word →
    IsWord t.text.toList ∧ ∀ c ∈ rest.head?, Lexer.isWordPart c = false
  comment : t.cls = .comment → t.text.toList.head? = some '/'

/-- The tokens spell the beginning of the text, each as it is read there. -/
inductive Lexed : List Token → List Char → Prop
  | done {rest} : Lexed [] rest
  | token {t ts rest} : t.Precedes rest → Lexed ts rest →
      Lexed (t :: ts) (t.blank.toList ++ t.text.toList ++ rest)

namespace Lexed

open Lexer

variable {ts us : List Token} {cs rest : List Char}

/-- Whatever token is read, it is one that stands there. -/
theorem precedes_of_readToken {blank : List Char} (hblank : ∀ d ∈ blank, isBlank d = true)
    (nesting : Nesting) (c : Char) (rest : List Char) :
    Token.Precedes
      { blank := String.ofList blank
        text := String.ofList ((c :: rest).take (max (readToken nesting c rest).2.1 1))
        cls := (readToken nesting c rest).1 }
      ((c :: rest).drop (max (readToken nesting c rest).2.1 1)) := by
  obtain ⟨n, hn⟩ : ∃ n, max (readToken nesting c rest).2.1 1 = n + 1 :=
    ⟨max (readToken nesting c rest).2.1 1 - 1, by omega⟩
  have htake : (c :: rest).take (max (readToken nesting c rest).2.1 1) = c :: rest.take n := by
    rw [hn, List.take_succ_cons]
  have hdrop : (c :: rest).drop (max (readToken nesting c rest).2.1 1) = rest.drop n := by
    rw [hn, List.drop_succ_cons]
  rw [htake, hdrop]
  refine ⟨by simpa using hblank, by simp, ?_, ?_⟩
  · intro hword
    obtain ⟨hstart, hlength⟩ := readToken_word hword
    have hn' : n = (rest.takeWhile isWordPart).length := by omega
    have hmore : rest.take n = rest.takeWhile isWordPart := by
      rw [hn']
      exact (List.prefix_iff_eq_take.1 (List.takeWhile_prefix _)).symm
    have hafter : rest.drop n = rest.dropWhile isWordPart := by
      rw [hn', drop_length_takeWhile]
    refine ⟨⟨c, rest.take n, by simp, hstart, ?_⟩, ?_⟩
    · intro d hd
      rw [hmore] at hd
      exact List.all_eq_true.1 List.all_takeWhile d hd
    · intro d hd
      have hnot := List.head?_dropWhile_not isWordPart rest
      rw [hafter] at hd
      rw [Option.mem_def.1 hd] at hnot
      simpa using hnot
  · intro hcomment
    rw [readToken_comment hcomment]
    simp

theorem readWithin (bound : Nat) (nesting : Nesting) (cs : List Char) :
    Lexed (readWithin bound nesting cs).1 cs := by
  induction bound generalizing nesting cs with
  | zero => exact .done
  | succ bound ih =>
    unfold Lexer.readWithin
    dsimp only
    split
    · exact .done
    · rename_i c rest hdrop
      have hcs : cs = cs.takeWhile isBlank ++ (c :: rest) := by
        rw [← hdrop, drop_length_takeWhile, List.takeWhile_append_dropWhile]
      have hblank : ∀ d ∈ cs.takeWhile isBlank, isBlank d = true := fun d hd =>
        List.all_eq_true.1 List.all_takeWhile d hd
      have hread := Lexed.token (precedes_of_readToken hblank nesting c rest)
        (ih (readToken nesting c rest).2.2 _)
      rw [String.toList_ofList, String.toList_ofList, List.append_assoc,
        List.take_append_drop, ← hcs] at hread
      exact hread

/-- The tokens of a text spell it, a byte order mark apart. -/
theorem read (source : String) :
    Lexed (read source) (withoutByteOrderMark source.toList) :=
  readWithin _ _ _

theorem cons_iff {t : Token} : Lexed (t :: ts) cs ↔
    ∃ rest, cs = t.blank.toList ++ t.text.toList ++ rest ∧ t.Precedes rest ∧ Lexed ts rest := by
  constructor
  · intro h
    cases h with
    | token ht hts => exact ⟨_, rfl, ht, hts⟩
  · rintro ⟨rest, rfl, ht, hts⟩
    exact .token ht hts

def spelled (ts : List Token) : List Char :=
  ts.flatMap fun t => t.blank.toList ++ t.text.toList

theorem of_append (h : Lexed (ts ++ us) cs) : ∃ rest, cs = spelled ts ++ rest ∧ Lexed us rest := by
  induction ts generalizing cs with
  | nil => exact ⟨cs, rfl, h⟩
  | cons t ts ih =>
    obtain ⟨after, rfl, -, hts⟩ := cons_iff.1 h
    obtain ⟨rest, rfl, hus⟩ := ih hts
    exact ⟨rest, by simp [spelled], hus⟩

theorem length_le (h : Lexed ts cs) : ts.length ≤ cs.length := by
  induction h with
  | done => exact Nat.zero_le _
  | @token t ts rest ht _ ih =>
    have hpos := List.length_pos_iff.2 ht.nonempty
    simp only [List.length_cons, List.length_append]
    omega

theorem precedes_of_mem {t : Token} (h : Lexed ts cs) (ht : t ∈ ts) :
    ∃ rest, t.Precedes rest := by
  induction h with
  | done => cases ht
  | token hfirst _ ih =>
    rcases List.mem_cons.1 ht with rfl | ht
    · exact ⟨_, hfirst⟩
    · exact ih ht

theorem isWord_of_mem {t : Token} (h : Lexed ts cs) (ht : t ∈ ts) (hword : t.cls = .word) :
    IsWord t.text.toList := by
  obtain ⟨rest, hprecedes⟩ := h.precedes_of_mem ht
  exact (hprecedes.word hword).1

end Lexed

theorem IsWord.isWordPart {cs : List Char} (h : IsWord cs) :
    ∀ c ∈ cs, Lexer.isWordPart c = true := by
  obtain ⟨first, more, rfl, hfirst, hmore⟩ := h
  exact List.forall_mem_cons.2 ⟨Lexer.isWordPart_of_isWordStart hfirst, hmore⟩

/-- Characters that do not belong to words do not occur in one. -/
theorem IsWord.not_mem {cs : List Char} (h : IsWord cs) {c : Char}
    (hc : Lexer.isWordPart c = false) : c ∉ cs := by
  intro hm
  cases hc.symm.trans (h.isWordPart c hm)

end ApiRecovery.Java
