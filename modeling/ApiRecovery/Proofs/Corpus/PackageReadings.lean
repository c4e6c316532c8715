import ApiRecovery.Corpus.PackageLine
import ApiRecovery.Proofs.Java.NodeShapes
import ApiRecovery.Proofs.Java.Tokens
import Mathlib.Data.List.TakeWhile

/-!
# The two readings of a package declaration

The package line is searched for in the characters of a text, the package declaration is a node of
its tree. Where a package declaration stands, the search reads the name that the tree has, provided
that the declaration is plain: without comments and with names that the search takes for names.
-/

namespace ApiRecovery

open Java (IsWord Lexed Token Tree)

namespace PackageLine

open Text (trimStartChars)

/-! ## Characters of names -/

def isName : List Char → Bool
  | [] => false
  | c :: more => isNameStart c && more.all isNamePart

/-- Whether nothing about the token stops the search. -/
def isPlain (t : Token) : Bool :=
  t.cls != .comment && (t.cls != .word || isName t.text.toList)

def nameOf (ts : List Token) : List Char :=
  ts.flatMap (·.text.toList)

theorem isPlain_of_comment {t : Token} (h : t.cls = .comment) : isPlain t = false := by
  simp [isPlain, h]

theorem isPlain_of_word {t : Token} (h : t.cls = .word) : isPlain t = isName t.text.toList := by
  simp [isPlain, h]

theorem isPlain_of_isMark {t : Token} {m : String} (h : t.isMark m = true) : isPlain t = true := by
  simp only [Token.isMark, Bool.and_eq_true, beq_iff_eq] at h
  simp [isPlain, h.1]

theorem toList_of_isMark {t : Token} {m : String} (h : t.isMark m = true) :
    t.text.toList = m.toList := by
  simp only [Token.isMark, Bool.and_eq_true, beq_iff_eq] at h
  rw [h.2]

theorem isPlain_keyword {t : Token} (h : t.isWord "package" = true) : isPlain t = true := by
  simp only [Token.isWord, Bool.and_eq_true, beq_iff_eq] at h
  rw [isPlain_of_word h.1, h.2]
  decide

theorem isNamePart_of_isBlank {c : Char} (h : Text.isBlank c = true) : isNamePart c = false := by
  by_cases hascii : c.toNat < 128
  · have hdecided : ∀ n < 128, Text.isBlank (Char.ofNat n) = true →
        isNamePart (Char.ofNat n) = false := by decide +kernel
    simpa [h] using hdecided c.toNat hascii
  · have hapart : Java.Lexer.areApart Java.Lexer.blankRanges Text.wordOnlyRanges = true := by
      decide +kernel
    have hdollar : (c == '$') = false := by
      rw [beq_eq_false_iff_ne]
      rintro rfl
      exact hascii (by decide)
    rw [isNamePart, Text.isWordChar, if_neg hascii, Java.Lexer.isIdentifierContinue_of_isBlank h,
      Java.Lexer.inRanges_of_areApart hapart (Java.Lexer.inRanges_of_isBlank h), hdollar]
    rfl

theorem isBlank_of_isWordPart {c : Char} (h : Java.Lexer.isWordPart c = true) :
    Text.isBlank c = false := by
  cases hc : Text.isBlank c with
  | false => rfl
  | true => cases (Java.Lexer.isWordPart_of_isBlank hc).symm.trans h

theorem trimStartChars_of_head {cs : List Char} (h : ∀ c ∈ cs.head?, Text.isBlank c = false) :
    trimStartChars cs = cs := by
  cases cs with
  | nil => rfl
  | cons c cs => exact List.dropWhile_cons_of_neg (by simp [h c rfl])

theorem trimStartChars_append {blanks cs : List Char}
    (hblanks : ∀ c ∈ blanks, Java.Lexer.isBlank c = true)
    (hcs : ∀ c ∈ cs.head?, Text.isBlank c = false) : trimStartChars (blanks ++ cs) = cs := by
  have hdrop : trimStartChars (blanks ++ cs) = trimStartChars cs :=
    List.dropWhile_append_of_pos fun c hc => Java.Lexer.isBlank_text (hblanks c hc)
  rw [hdrop, trimStartChars_of_head hcs]

/-! ## Reading a name -/

theorem readPart_name {w rest : List Char} (hw : isName w = true)
    (hrest : ∀ c ∈ rest.head?, isNamePart c = false) : readPart (w ++ rest) = some (w, rest) := by
  cases w with
  | nil => cases hw
  | cons c more =>
    simp only [isName, Bool.and_eq_true, List.all_eq_true] at hw
    have hstop : rest.takeWhile isNamePart = [] := by
      cases rest with
      | nil => rfl
      | cons d rest => exact List.takeWhile_cons_of_neg (by simp [hrest d rfl])
    have htake : (more ++ rest).takeWhile isNamePart = more := by
      rw [List.takeWhile_append_of_pos hw.2, hstop, List.append_nil]
    simp [readPart, hw.1, htake]

/-- A word with a character that the search does not know ends the search. -/
theorem readName_of_not_isName {w : List Char} (hw : IsWord w) (hname : isName w = false)
    (bound : Nat) (rest : List Char) : readName bound (w ++ rest) = none := by
  obtain ⟨c, more, rfl, -, hmore⟩ := hw
  cases bound with
  | zero => rfl
  | succ bound =>
    by_cases hc : isNameStart c = true
    · have hne : more.dropWhile isNamePart ≠ [] := by
        intro hnil
        rw [List.dropWhile_eq_nil_iff] at hnil
        simp [isName, hc, List.all_eq_true.2 hnil] at hname
      obtain ⟨d, post, hd⟩ := List.exists_cons_of_ne_nil hne
      have hafter : (more ++ rest).dropWhile isNamePart = d :: (post ++ rest) := by
        rw [List.dropWhile_append, hd]
        rfl
      have hpart : Java.Lexer.isWordPart d = true := by
        refine hmore d (List.dropWhile_subset isNamePart ?_)
        rw [hd]
        exact List.mem_cons_self
      have hsemicolon : d ≠ ';' := by
        rintro rfl
        exact absurd hpart (by decide)
      have hdot : d ≠ '.' := by
        rintro rfl
        exact absurd hpart (by decide)
      simp only [List.cons_append, readName, readPart, hc, if_true,
        Java.Lexer.drop_length_takeWhile, hafter]
      rw [trimStartChars_of_head (by simpa using isBlank_of_isWordPart hpart)]
      split
      · rename_i heq
        exact absurd (List.cons.inj heq).1 hsemicolon
      · rename_i heq
        exact absurd (List.cons.inj heq).1 hdot
      · rfl
    · simp [readName, readPart, hc]

theorem readName_slash (bound : Nat) (rest : List Char) : readName bound ('/' :: rest) = none := by
  cases bound with
  | zero => rfl
  | succ bound => simp [readName, readPart, isNameStart]

/-- What the search sees at the next token: white space or the token's first character, and after
the white space the token. -/
theorem trimStart_token {t : Token} {ts : List Token} {cs : List Char} {d : Char}
    (h : Lexed (t :: ts) cs) (hd : t.text.toList.head? = some d) (hblank : Text.isBlank d = false) :
    ∃ rest, trimStartChars cs = t.text.toList ++ rest ∧ Lexed ts rest ∧
      ∀ c ∈ cs.head?, Text.isBlank c = true ∨ c = d := by
  obtain ⟨rest, rfl, ht, hts⟩ := Lexed.cons_iff.1 h
  have hhead : (t.text.toList ++ rest).head? = some d := by
    rw [List.head?_append, hd]
    rfl
  refine ⟨rest, ?_, hts, ?_⟩
  · rw [List.append_assoc]
    refine trimStartChars_append ht.blank fun c hc => ?_
    rw [hhead, Option.mem_some_iff] at hc
    exact hc ▸ hblank
  · intro c hc
    rw [List.append_assoc, List.head?_append, hhead] at hc
    cases hfirst : t.blank.toList.head? with
    | none =>
      rw [hfirst] at hc
      exact .inr (Option.some.inj hc).symm
    | some b =>
      rw [hfirst] at hc
      have hb := Java.Lexer.isBlank_text (ht.blank b (List.mem_of_head? hfirst))
      exact .inl (Option.some.inj hc ▸ hb)

/-- The same at a word, whose first character belongs to words. -/
theorem trimStart_word {word : Token} {ts : List Token} {cs : List Char}
    (h : Lexed (word :: ts) cs) (hword : word.cls = .word) :
    ∃ rest, trimStartChars cs = word.text.toList ++ rest ∧ Lexed ts rest ∧
      ∀ c ∈ cs.head?, Text.isBlank c = true ∨ Java.Lexer.isWordPart c = true := by
  obtain ⟨d, more, hw, hd, -⟩ := h.isWord_of_mem List.mem_cons_self hword
  have hpart := Java.Lexer.isWordPart_of_isWordStart hd
  obtain ⟨rest, htrim, hrest, hhead⟩ :=
    trimStart_token h (by rw [hw]; rfl) (isBlank_of_isWordPart hpart)
  refine ⟨rest, htrim, hrest, fun c hc => (hhead c hc).imp_right ?_⟩
  rintro rfl
  exact hpart

/-- Before a comment, a dot or a semicolon the search reads the whole of a word. -/
theorem readPart_word {w R : List Char} {t : Token} {ts : List Token} {d : Char}
    (hw : isName w = true) (hR : Lexed (t :: ts) R) (hd : t.text.toList.head? = some d)
    (hmark : d = '/' ∨ d = '.' ∨ d = ';') :
    ∃ rest, trimStartChars R = t.text.toList ++ rest ∧ Lexed ts rest ∧
      readPart (w ++ R) = some (w, R) := by
  have hblank : Text.isBlank d = false := by
    rcases hmark with rfl | rfl | rfl <;> rfl
  have hpart : isNamePart d = false := by
    rcases hmark with rfl | rfl | rfl <;> rfl
  obtain ⟨rest, htrim, hrest, hhead⟩ := trimStart_token hR hd hblank
  refine ⟨rest, htrim, hrest, readPart_name hw fun c hc => ?_⟩
  rcases hhead c hc with hc | rfl
  · exact isNamePart_of_isBlank hc
  · exact hpart

/-- A comment ends the search, before a part of the name and after it. -/
theorem readName_comment {t : Token} {ts : List Token} {R : List Char}
    (hR : Lexed (t :: ts) R) (ht : t.cls = .comment) (bound : Nat) :
    readName bound (trimStartChars R) = none := by
  obtain ⟨rest, -, hprecedes, -⟩ := Lexed.cons_iff.1 hR
  have hd := hprecedes.comment ht
  obtain ⟨rest, htrim, -, -⟩ := trimStart_token hR hd rfl
  obtain ⟨more, hmore⟩ := List.head?_eq_some_iff.1 hd
  rw [htrim, hmore]
  exact readName_slash bound _

theorem readName_word_comment {w R : List Char} {t : Token} {ts : List Token}
    (hw : isName w = true) (hR : Lexed (t :: ts) R) (ht : t.cls = .comment) (bound : Nat) :
    readName bound (w ++ R) = none := by
  obtain ⟨rest, -, hprecedes, -⟩ := Lexed.cons_iff.1 hR
  have hd := hprecedes.comment ht
  obtain ⟨rest, htrim, -, hread⟩ := readPart_word hw hR hd (.inl rfl)
  obtain ⟨more, hmore⟩ := List.head?_eq_some_iff.1 hd
  cases bound with
  | zero => rfl
  | succ bound =>
    rw [readName, hread]
    simp [htrim, hmore]

/-- Before a semicolon a word is the last part of the name. -/
theorem readName_last {w R : List Char} {semicolon : Token} {later : List Token}
    (hw : isName w = true) (hsemicolon : semicolon.isMark ";" = true)
    (hR : Lexed (semicolon :: later) R) (bound : Nat) : readName (bound + 1) (w ++ R) = some w := by
  have hd : semicolon.text.toList.head? = some ';' := by
    rw [toList_of_isMark hsemicolon]
    rfl
  obtain ⟨rest, htrim, -, hread⟩ := readPart_word hw hR hd (.inr (.inr rfl))
  rw [readName, hread]
  simp [htrim, toList_of_isMark hsemicolon]

/-- Before a dot the search reads a word and goes on after the dot. -/
theorem readName_dot {w R : List Char} {dot : Token} {us : List Token} (hw : isName w = true)
    (hdot : dot.isMark "." = true) (hR : Lexed (dot :: us) R) (bound : Nat) :
    ∃ rest, Lexed us rest ∧ readName (bound + 1) (w ++ R) =
      (readName bound (trimStartChars rest)).map fun name => w ++ '.' :: name := by
  have hd : dot.text.toList.head? = some '.' := by
    rw [toList_of_isMark hdot]
    rfl
  obtain ⟨rest, htrim, hrest, hread⟩ := readPart_word hw hR hd (.inr (.inl rfl))
  refine ⟨rest, hrest, ?_⟩
  rw [readName, hread]
  simp [htrim, toList_of_isMark hdot]

/-- The search reads a dotted name up to the semicolon if it is plain, and nothing otherwise. -/
theorem readName_dotted {ts : List Token} (hts : Java.IsDottedTail ts) {word : Token}
    {gap : List Token} {semicolon : Token} {later : List Token} {R : List Char} {bound : Nat}
    (hword : word.cls = .word) (hw : IsWord word.text.toList)
    (hgap : ∀ t ∈ gap, t.cls = .comment) (hsemicolon : semicolon.isMark ";" = true)
    (hR : Lexed (ts ++ gap ++ semicolon :: later) R) (hbound : ts.length < bound) :
    readName bound (word.text.toList ++ R) =
      if (word :: (ts ++ gap)).all isPlain then some (nameOf (word :: ts)) else none := by
  obtain ⟨bound, rfl⟩ : ∃ n, bound = n + 1 := ⟨bound - 1, by omega⟩
  -- on the parts of the name, in the order the search reads them
  induction hts generalizing word R bound with
  | nil =>
    rw [List.all_cons, isPlain_of_word hword]
    cases hname : isName word.text.toList with
    | false => rw [readName_of_not_isName hw hname]; rfl
    | true =>
      cases gap with
      | nil =>
        rw [readName_last hname hsemicolon hR]
        simp [nameOf]
      | cons comment gap =>
        have hcomment := hgap comment List.mem_cons_self
        rw [readName_word_comment hname hR hcomment]
        simp [isPlain_of_comment hcomment]
  | @cons comments comments' ts dot next hcomments hdot hcomments' hnext hts ih =>
    rw [List.all_cons, isPlain_of_word hword]
    cases hname : isName word.text.toList with
    | false => rw [readName_of_not_isName hw hname]; rfl
    | true =>
      cases comments with
      | cons comment comments =>
        have hcomment := hcomments comment List.mem_cons_self
        rw [readName_word_comment hname hR hcomment]
        simp [isPlain_of_comment hcomment]
      | nil =>
        obtain ⟨rest, hrest, hread⟩ := readName_dot hname hdot hR bound
        rw [hread]
        cases comments' with
        | cons comment comments' =>
          have hcomment := hcomments' comment List.mem_cons_self
          rw [readName_comment hrest hcomment]
          simp [isPlain_of_comment hcomment]
        | nil =>
          obtain ⟨rest', htrim, hrest', -⟩ := trimStart_word hrest hnext
          obtain ⟨bound, rfl⟩ : ∃ n, bound = n + 1 := ⟨bound - 1, by simp at hbound; omega⟩
          have hbound' : ts.length < bound + 1 := by
            simp only [List.nil_append, List.length_cons] at hbound
            omega
          have hnext_word : IsWord next.text.toList := hrest.isWord_of_mem List.mem_cons_self hnext
          have hall : (dot :: next :: (ts ++ gap)).all isPlain =
              (next :: (ts ++ gap)).all isPlain := by
            rw [List.all_cons, isPlain_of_isMark hdot, Bool.true_and]
          rw [htrim, ih hnext hnext_word hrest' bound hbound']
          simp only [List.nil_append, List.cons_append, hall, Bool.true_and]
          cases (next :: (ts ++ gap)).all isPlain with
          | true => simp [nameOf, toList_of_isMark hdot]
          | false => rfl

/-! ## Reading a declaration -/

theorem readDeclaration_keyword (R : List Char) : readDeclaration ("package".toList ++ R) =
    if (R.head?.map Text.isBlank).getD false then readName (R.length - 1) (trimStartChars R)
    else none := by
  have htrim : trimStartChars ("package".toList ++ R) = "package".toList ++ R :=
    trimStartChars_of_head (by simp; decide)
  have hprefix : "package".toList.isPrefixOf ("package".toList ++ R) = true := by simp
  unfold readDeclaration
  simp only [htrim, hprefix, if_true, List.drop_left]
  cases R with
  | nil => rfl
  | cons c rest =>
    by_cases hc : Text.isBlank c = true
    · have hrest : trimStartChars (c :: rest) = trimStartChars rest :=
        List.dropWhile_cons_of_pos hc
      simp [hc, hrest]
    · simp [hc]

/-- At the keyword of a package declaration the search reads the name if what follows is plain, and
nothing otherwise. -/
theorem readDeclaration_tokens {keyword word semicolon : Token} {gap ts gap' later : List Token}
    {cs : List Char} (hkeyword : keyword.isWord "package" = true)
    (hgap : ∀ t ∈ gap, t.cls = .comment) (hword : word.cls = .word) (hts : Java.IsDottedTail ts)
    (hgap' : ∀ t ∈ gap', t.cls = .comment) (hsemicolon : semicolon.isMark ";" = true)
    (h : Lexed (keyword :: (gap ++ word :: (ts ++ gap' ++ semicolon :: later))) cs) :
    ∃ after, cs = keyword.blank.toList ++ after ∧ "package".toList <+: after ∧
      readDeclaration after =
        if (gap ++ word :: (ts ++ gap')).all isPlain then some (nameOf (word :: ts)) else none := by
  obtain ⟨R, rfl, hprecedes, hR⟩ := Lexed.cons_iff.1 h
  simp only [Token.isWord, Bool.and_eq_true, beq_iff_eq] at hkeyword
  refine ⟨"package".toList ++ R, by rw [hkeyword.2, List.append_assoc], List.prefix_append _ _, ?_⟩
  rw [readDeclaration_keyword]
  cases gap with
  | nil =>
    have hw : IsWord word.text.toList := hR.isWord_of_mem List.mem_cons_self hword
    obtain ⟨rest, htrim, hrest, hhead⟩ := trimStart_word hR hword
    have hbound : ts.length < R.length - 1 := by
      have hlength := hR.length_le
      simp only [List.nil_append, List.length_cons, List.length_append] at hlength
      omega
    -- one word cannot follow another without white space between them
    have hfirst : (R.head?.map Text.isBlank).getD false = true := by
      cases R with
      | nil => simp at hbound
      | cons c R =>
        rcases hhead c rfl with hc | hc
        · exact hc
        · cases hc.symm.trans ((hprecedes.word hkeyword.1).2 c rfl)
    rw [if_pos hfirst, htrim, readName_dotted hts hword hw hgap' hsemicolon hrest hbound]
    rfl
  | cons comment gap =>
    have hcomment := hgap comment List.mem_cons_self
    rw [readName_comment hR hcomment]
    simp [isPlain_of_comment hcomment]

/-! ## The name of a declaration -/

/-- Every token of a dotted name is a word, a dot or a comment. -/
theorem token_of_isDottedTail {ts : List Token} (h : Java.IsDottedTail ts) :
    ∀ t ∈ ts, t.cls = .comment ∨ t.isMark "." = true ∨ t.cls = .word := by
  induction h with
  | nil => simp
  | cons hcomments hdot hcomments' hword _ ih =>
    refine List.forall_mem_append.2 ⟨fun t ht => .inl (hcomments t ht),
      List.forall_mem_cons.2 ⟨.inr (.inl hdot), List.forall_mem_append.2
        ⟨fun t ht => .inl (hcomments' t ht), List.forall_mem_cons.2 ⟨.inr (.inr hword), ih⟩⟩⟩⟩

theorem isBlank_of_isPlain {t : Token} (hplain : isPlain t = true)
    (ht : t.cls = .comment ∨ t.isMark "." = true ∨ t.cls = .word)
    (hword : t.cls = .word → IsWord t.text.toList) :
    ∀ c ∈ t.text.toList, Text.isBlank c = false := by
  intro c hc
  rcases ht with ht | ht | ht
  · cases hplain.symm.trans (isPlain_of_comment ht)
  · rw [toList_of_isMark ht] at hc
    obtain rfl : c = '.' := by simpa using hc
    rfl
  · exact isBlank_of_isWordPart ((hword ht).isWordPart c hc)

theorem toList_spell (first : Token) (rest : List Token) :
    (Tree.spell (first :: rest)).toList = first.text.toList ++ Lexed.spelled rest := by
  have hfold : ∀ (ts : List Token) (s : String),
      (ts.foldl (fun s t => s ++ t.spelled) s).toList = s.toList ++ Lexed.spelled ts := by
    intro ts
    induction ts with
    | nil => simp [Lexed.spelled]
    | cons t ts ih =>
      intro s
      rw [List.foldl_cons, ih]
      simp [Lexed.spelled, Token.spelled]
  exact hfold rest first.text

theorem filter_spelled {ts : List Token}
    (hblank : ∀ t ∈ ts, ∀ c ∈ t.blank.toList, Java.Lexer.isBlank c = true)
    (htext : ∀ t ∈ ts, ∀ c ∈ t.text.toList, Text.isBlank c = false) :
    (Lexed.spelled ts).filter (fun c => !Text.isBlank c) = nameOf ts := by
  induction ts with
  | nil => rfl
  | cons t ts ih =>
    obtain ⟨hb, hbs⟩ := List.forall_mem_cons.1 hblank
    obtain ⟨ht, hts⟩ := List.forall_mem_cons.1 htext
    have hgone : t.blank.toList.filter (fun c => !Text.isBlank c) = [] :=
      List.filter_eq_nil_iff.2 fun c hc => by simp [Java.Lexer.isBlank_text (hb c hc)]
    have hkept : t.text.toList.filter (fun c => !Text.isBlank c) = t.text.toList :=
      List.filter_eq_self.2 fun c hc => by simp [ht c hc]
    have hrest := ih hbs hts
    simp only [Lexed.spelled, nameOf, List.flatMap_cons, List.filter_append, hgone,
      hkept] at hrest ⊢
    rw [hrest, List.nil_append]

/-- The text of a plain name, without blanks, is what its tokens spell. -/
theorem nameText_of_isPlain {name : Tree} {word : Token} {ts us : List Token} {cs : List Char}
    (htokens : name.tokens = word :: ts) (hword : word.cls = .word) (hts : Java.IsDottedTail ts)
    (hplain : (word :: ts).all isPlain = true) (hlexed : Lexed us cs) (hsubset : word :: ts ⊆ us) :
    name.nameText = String.ofList (nameOf (word :: ts)) := by
  obtain ⟨hplain_word, hplain⟩ := List.forall_mem_cons.1 (List.all_eq_true.1 hplain)
  obtain ⟨hmem, hsubset⟩ := List.cons_subset.1 hsubset
  have hnot := isBlank_of_isPlain hplain_word (.inr (.inr hword)) (hlexed.isWord_of_mem hmem)
  have hfirst : word.text.toList.filter (fun c => !Text.isBlank c) = word.text.toList :=
    List.filter_eq_self.2 fun c hc => by simp [hnot c hc]
  have hblank : ∀ t ∈ ts, ∀ c ∈ t.blank.toList, Java.Lexer.isBlank c = true := by
    intro t ht
    obtain ⟨_, hprecedes⟩ := hlexed.precedes_of_mem (hsubset ht)
    exact hprecedes.blank
  have hrest := filter_spelled hblank fun t ht => isBlank_of_isPlain (hplain t ht)
    (token_of_isDottedTail hts t ht) (hlexed.isWord_of_mem (hsubset ht))
  rw [Tree.nameText, Tree.text, htokens, Text.removeBlanks, toList_spell, List.filter_append,
    hfirst, hrest]
  rfl

end PackageLine

end ApiRecovery
