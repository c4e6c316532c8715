import ApiRecovery.Value.Json
import Mathlib.Data.List.Basic

/-!
# Well-formed JSON

The grammar of JSON texts (RFC 8259) as predicates on characters: what is white space, a number, a
string, a value and a whole text. A value that is neither a literal nor a number ends with a quote or
a closing bracket. What is written on one line is well-formed.
-/

namespace ApiRecovery.Json

/-! ## Numbers -/

def IsDigits (cs : List Char) : Prop :=
  cs ≠ [] ∧ ∀ c ∈ cs, c.isDigit = true

/-- A whole number, which begins with a zero only if it is zero. -/
def IsWhole (cs : List Char) : Prop :=
  IsDigits cs ∧ (cs.head? = some '0' → cs = ['0'])

inductive IsFraction : List Char → Prop
  | none : IsFraction []
  | some {digits : List Char} : IsDigits digits → IsFraction ('.' :: digits)

inductive IsExponent : List Char → Prop
  | none : IsExponent []
  | some {mark : Char} {sign digits : List Char} : mark = 'e' ∨ mark = 'E' →
      sign = [] ∨ sign = ['+'] ∨ sign = ['-'] → IsDigits digits →
      IsExponent (mark :: (sign ++ digits))

inductive IsUnsigned : List Char → Prop
  | intro {whole fraction exponent : List Char} : IsWhole whole → IsFraction fraction →
      IsExponent exponent → IsUnsigned (whole ++ (fraction ++ exponent))

inductive IsNumber : List Char → Prop
  | unsigned {cs : List Char} : IsUnsigned cs → IsNumber cs
  | negative {cs : List Char} : IsUnsigned cs → IsNumber ('-' :: cs)

/-! ## Strings -/

def isHexDigit (c : Char) : Bool :=
  c.isDigit || "abcdefABCDEF".toList.contains c

inductive IsCharacter : List Char → Prop
  | plain {c : Char} : 0x20 ≤ c.toNat → c ≠ '"' → c ≠ '\\' → IsCharacter [c]
  | escaped {c : Char} : c ∈ "\"\\/bfnrt".toList → IsCharacter ['\\', c]
  | code {digits : List Char} : digits.length = 4 → (∀ d ∈ digits, isHexDigit d = true) →
      IsCharacter ('\\' :: 'u' :: digits)

inductive IsString : List Char → Prop
  | intro {characters : List (List Char)} : (∀ cs ∈ characters, IsCharacter cs) →
      IsString ('"' :: (characters.flatten ++ ['"']))

/-! ## Values -/

def IsSpace (cs : List Char) : Prop :=
  ∀ c ∈ cs, c = ' ' ∨ c = '\t' ∨ c = '\n' ∨ c = '\r'

def literals : List String :=
  ["false", "null", "true"]

mutual

inductive IsValue : List Char → Prop
  | literal {word : String} : word ∈ literals → IsValue word.toList
  | number {cs : List Char} : IsNumber cs → IsValue cs
  | string {cs : List Char} : IsString cs → IsValue cs
  | emptyArray {gap : List Char} : IsSpace gap → IsValue ('[' :: (gap ++ [']']))
  | array {items : List Char} : IsItems items → IsValue ('[' :: (items ++ [']']))
  | emptyObject {gap : List Char} : IsSpace gap → IsValue ('{' :: (gap ++ ['}']))
  | object {fields : List Char} : IsFields fields → IsValue ('{' :: (fields ++ ['}']))

/-- A value with white space around it: a whole text, or an item of an array. -/
inductive IsText : List Char → Prop
  | intro {before value after : List Char} : IsSpace before → IsValue value → IsSpace after →
      IsText (before ++ (value ++ after))

inductive IsItems : List Char → Prop
  | one {item : List Char} : IsText item → IsItems item
  | more {item items : List Char} : IsText item → IsItems items → IsItems (item ++ ',' :: items)

inductive IsField : List Char → Prop
  | intro {before name after value : List Char} : IsSpace before → IsString name → IsSpace after →
      IsText value → IsField (before ++ (name ++ (after ++ ':' :: value)))

inductive IsFields : List Char → Prop
  | one {field : List Char} : IsField field → IsFields field
  | more {field fields : List Char} : IsField field → IsFields fields →
      IsFields (field ++ ',' :: fields)

end

section

variable {cs ds : List Char}

/-! ## The characters of numbers -/

def EndsInDigit (cs : List Char) : Prop :=
  ∃ d, cs.getLast? = some d ∧ d.isDigit = true

theorem EndsInDigit.append (h : EndsInDigit ds) (cs : List Char) : EndsInDigit (cs ++ ds) := by
  obtain ⟨d, hlast, hd⟩ := h
  exact ⟨d, by rw [List.getLast?_append, hlast, Option.some_or], hd⟩

theorem EndsInDigit.cons (h : EndsInDigit ds) (c : Char) : EndsInDigit (c :: ds) :=
  h.append [c]

theorem IsDigits.endsInDigit (h : IsDigits cs) : EndsInDigit cs := by
  obtain ⟨hne, hdigits⟩ := h
  exact ⟨cs.getLast hne, List.getLast?_eq_getLast_of_ne_nil hne, hdigits _ (List.getLast_mem hne)⟩

theorem IsUnsigned.endsInDigit (h : IsUnsigned cs) : EndsInDigit cs := by
  obtain ⟨hwhole, hfraction, hexponent⟩ := h
  cases hexponent with
  | some _ _ hdigits => exact ((hdigits.endsInDigit.append _).cons _ |>.append _).append _
  | none =>
    cases hfraction with
    | some hdigits => simpa using (hdigits.endsInDigit.cons _).append _
    | none => simpa using hwhole.1.endsInDigit

theorem IsUnsigned.head_isDigit {c : Char} (h : IsUnsigned (c :: cs)) : c.isDigit = true := by
  generalize hcs : c :: cs = ds at h
  obtain ⟨⟨⟨hne, hdigits⟩, -⟩, -, -⟩ := h
  obtain ⟨d, more, rfl⟩ := List.exists_cons_of_ne_nil hne
  cases hcs
  exact hdigits c List.mem_cons_self

def numberMarks : List Char :=
  ['.', 'e', 'E', '+', '-']

theorem IsUnsigned.forall_mem (h : IsUnsigned cs) :
    ∀ c ∈ cs, c.isDigit = true ∨ c ∈ numberMarks := by
  have hdigits : ∀ {ds : List Char}, IsDigits ds → ∀ c ∈ ds, c.isDigit = true ∨ c ∈ numberMarks :=
    fun hds c hc => .inl (hds.2 c hc)
  obtain ⟨hwhole, hfraction, hexponent⟩ := h
  refine List.forall_mem_append.2 ⟨hdigits hwhole.1, List.forall_mem_append.2 ⟨?_, ?_⟩⟩
  · cases hfraction with
    | none => simp
    | some h => exact List.forall_mem_cons.2 ⟨.inr (by decide), hdigits h⟩
  · cases hexponent with
    | none => simp
    | some hmark hsign h =>
      refine List.forall_mem_cons.2 ⟨?_, List.forall_mem_append.2 ⟨?_, hdigits h⟩⟩
      · rcases hmark with rfl | rfl <;> exact .inr (by decide)
      · rcases hsign with rfl | rfl | rfl <;> simp [numberMarks]

theorem isNumber_cons_minus : IsNumber ('-' :: cs) ↔ IsUnsigned cs := by
  refine ⟨fun h => ?_, .negative⟩
  cases h with
  | unsigned h => cases h.head_isDigit
  | negative h => exact h

theorem isNumber_of_not_mem_minus (hcs : '-' ∉ cs) : IsNumber cs ↔ IsUnsigned cs := by
  refine ⟨fun h => ?_, .unsigned⟩
  cases h with
  | unsigned h => exact h
  | negative h => exact absurd List.mem_cons_self hcs

/-! ## Simple values -/

def IsSimple (cs : List Char) : Prop :=
  (∃ word ∈ literals, cs = word.toList) ∨ IsNumber cs

theorem isDigit_isAlphanum {c : Char} (h : c.isDigit = true) : c.isAlphanum = true := by
  rw [Char.isAlphanum, h, Bool.or_true]

theorem IsSimple.forall_mem (h : IsSimple cs) :
    ∀ c ∈ cs, c.isAlphanum = true ∨ c ∈ numberMarks := by
  rcases h with ⟨word, hword, rfl⟩ | h
  · have hletters : literals.all (fun word => word.toList.all Char.isAlphanum) = true := by decide
    exact fun c hc => .inl (List.all_eq_true.1 (List.all_eq_true.1 hletters word hword) c hc)
  · cases h with
    | unsigned h => exact fun c hc => (h.forall_mem c hc).imp_left isDigit_isAlphanum
    | negative h =>
      exact List.forall_mem_cons.2
        ⟨.inr (by decide), fun c hc => (h.forall_mem c hc).imp_left isDigit_isAlphanum⟩

theorem IsSimple.exists_last (h : IsSimple cs) :
    ∃ c, cs.getLast? = some c ∧ c.isAlphanum = true := by
  rcases h with ⟨word, hword, rfl⟩ | h
  · have hletters : literals.all (fun word => word.toList.getLast?.any Char.isAlphanum) = true := by
      decide
    exact (Option.any_eq_true _ _).1 (List.all_eq_true.1 hletters word hword)
  · have hdigit : EndsInDigit cs := by
      cases h with
      | unsigned h => exact h.endsInDigit
      | negative h => exact h.endsInDigit.cons _
    exact hdigit.imp fun c hc => hc.imp_right isDigit_isAlphanum

theorem getLast?_cons_append_singleton {α : Type} (x y : α) (xs : List α) :
    (x :: (xs ++ [y])).getLast? = some y := by
  rw [← List.cons_append, List.getLast?_concat]

/-- A value is simple or it is closed at its end. -/
theorem IsValue.simple_or_closed (h : IsValue cs) :
    IsSimple cs ∨ ∃ c ∈ ['"', ']', '}'], cs.getLast? = some c := by
  cases h with
  | literal h => exact .inl (.inl ⟨_, h, rfl⟩)
  | number h => exact .inl (.inr h)
  | string h =>
    obtain ⟨-⟩ := h
    exact .inr ⟨'"', by simp, getLast?_cons_append_singleton _ _ _⟩
  | emptyArray | array => exact .inr ⟨']', by simp, getLast?_cons_append_singleton _ _ _⟩
  | emptyObject | object => exact .inr ⟨'}', by simp, getLast?_cons_append_singleton _ _ _⟩

theorem IsSimple.isValue (h : IsSimple cs) : IsValue cs := by
  rcases h with ⟨word, hword, rfl⟩ | h
  · exact .literal hword
  · exact .number h

theorem isSpace_nil : IsSpace [] := by
  simp [IsSpace]

theorem IsText.of_value (h : IsValue cs) : IsText cs := by
  simpa using IsText.intro isSpace_nil h isSpace_nil

/-- A text without white space is a value. -/
theorem isText_iff_isValue (h : ∀ c ∈ cs, ¬ IsSpace [c]) : IsText cs ↔ IsValue cs := by
  refine ⟨fun htext => ?_, .of_value⟩
  have hnil : ∀ gap : List Char, IsSpace gap → gap ⊆ cs → gap = [] := by
    intro gap hgap hsubset
    refine List.eq_nil_iff_forall_not_mem.2 fun c hc => h c (hsubset hc) ?_
    simpa [IsSpace] using hgap c hc
  obtain ⟨hbefore, hvalue, hafter⟩ := htext
  rw [hnil _ hbefore (by simp), hnil _ hafter (by simp)]
  simpa using hvalue

end

/-! ## Written values -/

theorem isHexDigit_digitChar {n : Nat} (h : n < 16) : isHexDigit (Nat.digitChar n) = true := by
  have hall : (List.range 16).all (fun n => isHexDigit (Nat.digitChar n)) = true := by decide
  exact List.all_eq_true.1 hall n (List.mem_range.2 h)

theorem isCharacter_escapeChar (c : Char) : IsCharacter (escapeChar c) := by
  unfold escapeChar
  split_ifs with hquote hbackslash _ _ _ _ _ hcontrol
  iterate 7 exact .escaped (by decide)
  · have hdigits : ∀ d ∈ '0' :: '0' :: byteDigits c.toNat, isHexDigit d = true := by
      simp only [byteDigits, List.forall_mem_cons]
      exact ⟨rfl, rfl, isHexDigit_digitChar (by omega), isHexDigit_digitChar (by omega), by simp⟩
    exact .code rfl hdigits
  · exact .plain (Nat.le_of_not_lt hcontrol) hquote hbackslash

theorem isString_quote (s : String) : IsString (quote s).toList := by
  have hquote : (quote s).toList = '"' :: ((s.toList.map escapeChar).flatten ++ ['"']) := by
    simp [quote, List.flatMap_def]
  rw [hquote]
  exact .intro (List.forall_mem_map.2 fun c _ => isCharacter_escapeChar c)

theorem toList_join_cons (text next : String) (rest : List String) :
    (Text.join "," (text :: next :: rest)).toList =
      text.toList ++ ',' :: (Text.join "," (next :: rest)).toList := by
  simp [Text.join, String.intercalate_cons_cons]

theorem isItems_join {texts : List String} (hne : texts ≠ [])
    (h : ∀ text ∈ texts, IsText text.toList) : IsItems (Text.join "," texts).toList := by
  induction texts with
  | nil => exact absurd rfl hne
  | cons text rest ih =>
    obtain ⟨htext, hrest⟩ := List.forall_mem_cons.1 h
    cases rest with
    | nil => simpa [Text.join] using IsItems.one htext
    | cons next rest =>
      rw [toList_join_cons]
      exact .more htext (ih (by simp) hrest)

theorem isFields_join {texts : List String} (hne : texts ≠ [])
    (h : ∀ text ∈ texts, IsField text.toList) : IsFields (Text.join "," texts).toList := by
  induction texts with
  | nil => exact absurd rfl hne
  | cons text rest ih =>
    obtain ⟨htext, hrest⟩ := List.forall_mem_cons.1 h
    cases rest with
    | nil => simpa [Text.join] using IsFields.one htext
    | cons next rest =>
      rw [toList_join_cons]
      exact .more htext (ih (by simp) hrest)

mutual

/-- What is written for a value on one line is well-formed. -/
theorem isValue_compact : (v : Value) → IsValue (compact v).toList
  | .text s => by
    rw [compact]
    exact .string (isString_quote s)
  | .flag b => by
    rw [compact]
    cases b <;> exact .literal (by decide)
  | .list [] => by
    simpa [compact, compactItems, Text.join] using IsValue.emptyArray isSpace_nil
  | .list (v :: rest) => by
    have hitems := isItems_join (by simp [compactItems]) (isText_compactItems (v :: rest))
    simpa [compact] using IsValue.array hitems
  | .record [] => by
    simpa [compact, compactFields, Text.join] using IsValue.emptyObject isSpace_nil
  | .record (field :: rest) => by
    have hfields := isFields_join (by simp [compactFields]) (isField_compactFields (field :: rest))
    simpa [compact] using IsValue.object hfields

theorem isText_compactItems : (items : List Value) →
    ∀ text ∈ compactItems items, IsText text.toList
  | [] => by simp [compactItems]
  | v :: rest => by
    rw [compactItems]
    exact List.forall_mem_cons.2 ⟨.of_value (isValue_compact v), isText_compactItems rest⟩

theorem isField_compactFields : (fields : List (String × Value)) →
    ∀ text ∈ compactFields fields, IsField text.toList
  | [] => by simp [compactFields]
  | (name, v) :: rest => by
    have hfield := IsField.intro isSpace_nil (isString_quote name) isSpace_nil
      (.of_value (isValue_compact v))
    rw [compactFields]
    exact List.forall_mem_cons.2 ⟨by simpa using hfield, isField_compactFields rest⟩

end

end ApiRecovery.Json
