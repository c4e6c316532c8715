/-!
# Searching and cutting text

Containment, cutting at a separator and joining, on lists of characters, with versions for
`String`. Cutting loses nothing: joining the pieces with the separator gives the text back.
-/

namespace ApiRecovery.Text

/-- Whether `needle` occurs as a run of consecutive characters. -/
def containsChars (needle : List Char) : List Char → Bool
  | [] => needle.isEmpty
  | c :: rest => needle.isPrefixOf (c :: rest) || containsChars needle rest

theorem containsChars_iff {needle hay : List Char} :
    containsChars needle hay = true ↔ ∃ before after, hay = before ++ needle ++ after := by
  induction hay with
  | nil => cases needle <;> simp [containsChars]
  | cons c rest ih =>
    simp only [containsChars, Bool.or_eq_true, ih, List.isPrefixOf_iff_prefix]
    constructor
    · rintro (⟨after, h⟩ | ⟨before, after, h⟩)
      · exact ⟨[], after, by simp [h]⟩
      · exact ⟨c :: before, after, by simp [h]⟩
    · rintro ⟨before, after, h⟩
      cases before with
      | nil => exact Or.inl ⟨after, by simpa using h.symm⟩
      | cons b before =>
        simp only [List.cons_append, List.cons.injEq] at h
        exact Or.inr ⟨before, after, by simp [h.2]⟩

def contains (hay needle : String) : Bool :=
  containsChars needle.toList hay.toList

def startsWith (s beginning : String) : Bool :=
  beginning.toList.isPrefixOf s.toList

def endsWith (s ending : String) : Bool :=
  ending.toList.isSuffixOf s.toList

/-- The pieces between the separators, at least one. -/
def splitChars (separator : Char) : List Char → List (List Char)
  | [] => [[]]
  | c :: rest =>
    if c = separator then [] :: splitChars separator rest
    else match splitChars separator rest with
      | [] => [[c]]
      | piece :: pieces => (c :: piece) :: pieces

def joinChars (separator : List Char) : List (List Char) → List Char
  | [] => []
  | [piece] => piece
  | piece :: next :: pieces => piece ++ separator ++ joinChars separator (next :: pieces)

theorem splitChars_ne_nil (separator : Char) (cs : List Char) : splitChars separator cs ≠ [] := by
  cases cs with
  | nil => simp [splitChars]
  | cons c rest =>
    simp only [splitChars]
    split
    · simp
    · split <;> simp

/-- Cutting and joining again gives the text back. -/
theorem joinChars_splitChars (separator : Char) (cs : List Char) :
    joinChars [separator] (splitChars separator cs) = cs := by
  induction cs with
  | nil => rfl
  | cons c rest ih =>
    have hne := splitChars_ne_nil separator rest
    rw [splitChars]
    generalize splitChars separator rest = pieces at ih hne
    split
    · next hc => cases pieces <;> simp_all [joinChars]
    · match pieces with
      | [] => exact absurd rfl hne
      | [_] => simp_all [joinChars]
      | _ :: _ :: _ => simp_all [joinChars]

/-- No piece holds the separator. -/
theorem not_mem_of_mem_splitChars {separator : Char} {cs piece : List Char}
    (h : piece ∈ splitChars separator cs) : separator ∉ piece := by
  induction cs generalizing piece with
  | nil => simp_all [splitChars]
  | cons c rest ih =>
    simp only [splitChars] at h
    split at h
    · rcases List.mem_cons.mp h with rfl | h
      · simp
      · exact ih h
    · next hc =>
      revert h ih
      cases splitChars separator rest with
      | nil => intro _ h; simp_all; exact fun e => hc e.symm
      | cons first pieces =>
        intro ih h
        rcases List.mem_cons.mp h with rfl | h
        · simpa [Ne.symm hc] using ih (List.mem_cons_self ..)
        · exact ih (List.mem_cons_of_mem _ h)

theorem splitChars_of_not_mem {separator : Char} {cs : List Char} (h : separator ∉ cs) :
    splitChars separator cs = [cs] := by
  induction cs with
  | nil => rfl
  | cons c rest ih =>
    have hc : c ≠ separator := fun e => h (e ▸ List.mem_cons_self)
    have hrest : separator ∉ rest := fun hm => h (List.mem_cons_of_mem _ hm)
    simp [splitChars, hc, ih hrest]

theorem splitChars_append (separator : Char) (as bs : List Char) :
    splitChars separator (as ++ separator :: bs) =
      splitChars separator as ++ splitChars separator bs := by
  induction as with
  | nil => simp [splitChars]
  | cons c rest ih =>
    have hne := splitChars_ne_nil separator rest
    simp only [List.cons_append, splitChars]
    rw [ih]
    split
    · rfl
    · cases hs : splitChars separator rest with
      | nil => exact absurd hs hne
      | cons piece pieces => rfl

def split (separator : Char) (s : String) : List String :=
  (splitChars separator s.toList).map String.ofList

def join (separator : String) (pieces : List String) : String :=
  String.intercalate separator pieces

def cutFirst (separator : Char) (s : String) : Option (String × String) :=
  let cs := s.toList
  let before := cs.takeWhile (· != separator)
  match cs.drop before.length with
  | [] => none
  | _ :: after => some (String.ofList before, String.ofList after)

def cutLast (separator : Char) (s : String) : Option (String × String) :=
  let reversed := s.toList.reverse
  let after := reversed.takeWhile (· != separator)
  match reversed.drop after.length with
  | [] => none
  | _ :: before => some (String.ofList before.reverse, String.ofList after.reverse)

/-- The part after the last dot, or the whole text. -/
def lastSegment (name : String) : String :=
  (cutLast '.' name).elim name Prod.snd

theorem split_ne_nil (separator : Char) (s : String) : split separator s ≠ [] := by
  simp [split, splitChars_ne_nil]

theorem not_mem_of_mem_split {separator : Char} {s piece : String}
    (h : piece ∈ split separator s) : separator ∉ piece.toList := by
  obtain ⟨cs, hcs, rfl⟩ := List.mem_map.1 h
  simpa using not_mem_of_mem_splitChars hcs

theorem split_of_not_mem {separator : Char} {s : String} (h : separator ∉ s.toList) :
    split separator s = [s] := by
  simp [split, splitChars_of_not_mem h]

theorem split_append (separator : Char) (s t : String) :
    split separator (s ++ String.singleton separator ++ t) =
      split separator s ++ split separator t := by
  have hcs : (s ++ String.singleton separator ++ t).toList = s.toList ++ separator :: t.toList := by
    simp
  rw [split, hcs, splitChars_append, List.map_append]
  rfl

theorem split_append_dot (s t : String) :
    split '.' (s ++ "." ++ t) = split '.' s ++ split '.' t :=
  split_append '.' s t

/-- Only one text has the given pieces. -/
theorem split_injective (separator : Char) {s t : String}
    (h : split separator s = split separator t) : s = t := by
  have hpieces : splitChars separator s.toList = splitChars separator t.toList :=
    (List.map_inj_right fun _ _ => String.ofList_inj.1).1 h
  have hcs := congrArg (joinChars [separator]) hpieces
  rw [joinChars_splitChars, joinChars_splitChars] at hcs
  exact String.toList_inj.1 hcs

/-- Pieces without separators that are joined with separators are found again. -/
theorem split_join {separator : Char} {pieces : List String} (hne : pieces ≠ [])
    (h : ∀ p ∈ pieces, separator ∉ p.toList) :
    split separator (join (String.singleton separator) pieces) = pieces := by
  induction pieces with
  | nil => exact absurd rfl hne
  | cons piece rest ih =>
    obtain ⟨hpiece, hrest⟩ := List.forall_mem_cons.1 h
    cases rest with
    | nil => simp [join, split_of_not_mem hpiece]
    | cons next rest =>
      have hjoin : join (String.singleton separator) (piece :: next :: rest) =
          piece ++ String.singleton separator ++
            join (String.singleton separator) (next :: rest) := by
        simp [join, String.intercalate_cons_cons]
      rw [hjoin, split_append, split_of_not_mem hpiece, ih (by simp) hrest]
      rfl

theorem join_split (s : String) : join "." (split '.' s) = s :=
  split_injective '.' (split_join (split_ne_nil '.' s) fun _ hp => not_mem_of_mem_split hp)

/-- A piece put behind a separator is the last one. -/
theorem getLast?_split_append {piece : String} (h : '.' ∉ piece.toList) (s : String) :
    (split '.' (s ++ "." ++ piece)).getLast? = some piece := by
  have hcs : (s ++ "." ++ piece).toList = s.toList ++ '.' :: piece.toList := by simp
  rw [split, hcs, splitChars_append, splitChars_of_not_mem h]
  simp

theorem getLast?_split_eq_lastSegment (s : String) :
    (split '.' s).getLast? = some (lastSegment s) := by
  have hsplit := @List.takeWhile_append_dropWhile _ (· != '.') s.toList.reverse
  have hafter : ∀ c ∈ s.toList.reverse.takeWhile (· != '.'), c ≠ '.' := by
    intro c hc
    simpa using List.all_eq_true.1 List.all_takeWhile c hc
  have hdrop : s.toList.reverse.drop (s.toList.reverse.takeWhile (· != '.')).length =
      s.toList.reverse.dropWhile (· != '.') := by
    conv => lhs; arg 2; rw [← hsplit]
    rw [List.drop_left]
  simp only [lastSegment, cutLast, hdrop]
  generalize s.toList.reverse.takeWhile (· != '.') = after at *
  cases hd : s.toList.reverse.dropWhile (· != '.') with
  | nil =>
    have hs : '.' ∉ s.toList := by
      intro hm
      rw [hd, List.append_nil] at hsplit
      exact hafter '.' (hsplit ▸ List.mem_reverse.2 hm) rfl
    simp [split_of_not_mem hs]
  | cons c before =>
    have hc : c = '.' := by
      have := List.head?_dropWhile_not (· != '.') s.toList.reverse
      simpa [hd] using this
    have hs : s.toList = before.reverse ++ '.' :: after.reverse := by
      rw [hd, hc] at hsplit
      simpa using (congrArg List.reverse hsplit).symm
    have hlast : '.' ∉ after.reverse := fun hm => hafter '.' (List.mem_reverse.1 hm) rfl
    simp [split, hs, splitChars_append, splitChars_of_not_mem hlast]

end ApiRecovery.Text
