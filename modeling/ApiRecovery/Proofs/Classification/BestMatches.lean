import ApiRecovery.Classification.Scoring
import Mathlib.Data.List.Induction
import Mathlib.Data.List.Nodup
import Mathlib.Data.Nat.Find

/-!
# The best matches

A classification reports the best evidence for each declaration: the best signature of every file,
and of the files of one declaration the best. Both times the first of several equal ones counts.
Which names are reported with which score does not depend on the order of the files.
-/

namespace ApiRecovery

/-! ## The first with the highest score -/

/-- Of the answers that `f` gives on the elements of `l`, `b`, at index `i`, has the highest score,
and none before it has the same. -/
structure FirstBest {α β : Type} (f : α → Option β) (score : β → Int) (l : List α) (i : Nat)
    (b : β) : Prop where
  at_index : ∃ x, l[i]? = some x ∧ f x = some b
  best : ∀ j y b', l[j]? = some y → f y = some b' →
    score b' ≤ score b ∧ (j < i → score b' < score b)

section FirstBest

variable {α β : Type} {f : α → Option β} {score : β → Int} {l : List α} {i j : Nat} {x y : α}
  {b b' : β}

theorem getElem?_concat_eq_some (h : (l ++ [x])[j]? = some y) :
    l[j]? = some y ∨ j = l.length ∧ y = x := by
  rcases Nat.lt_or_ge j l.length with hj | hj
  · exact .inl (by rwa [List.getElem?_append_left hj] at h)
  · rw [List.getElem?_append_right hj, List.getElem?_singleton] at h
    split at h
    · exact .inr ⟨by omega, (Option.some.inj h).symm⟩
    · cases h

theorem FirstBest.unique (h : FirstBest f score l i b) (h' : FirstBest f score l j b') :
    b = b' := by
  obtain ⟨x, hx, hb⟩ := h.at_index
  obtain ⟨y, hy, hb'⟩ := h'.at_index
  have hle := h.best j y b' hy hb'
  have hle' := h'.best i x b hx hb
  rcases Nat.lt_trichotomy i j with hlt | rfl | hlt
  · exact absurd (hle'.2 hlt) (Int.not_lt.2 hle.1)
  · rw [hx, Option.some.injEq] at hy
    rw [← hy, hb] at hb'
    exact Option.some.inj hb'
  · exact absurd (hle.2 hlt) (Int.not_lt.2 hle'.1)

/-- An element at the end does not matter if it gives no higher score. -/
theorem FirstBest.concat (h : FirstBest f score l i b)
    (hx : ∀ b', f x = some b' → score b' ≤ score b) : FirstBest f score (l ++ [x]) i b := by
  obtain ⟨z, hz, hb⟩ := h.at_index
  have hi : i < l.length := (List.getElem?_eq_some_iff.1 hz).1
  refine ⟨⟨z, by rwa [List.getElem?_append_left hi], hb⟩, fun j y b' hy hb' => ?_⟩
  rcases getElem?_concat_eq_some hy with hy | ⟨rfl, rfl⟩
  · exact h.best j y b' hy hb'
  · exact ⟨hx b' hb', fun hlt => absurd hlt (Nat.not_lt.2 (Nat.le_of_lt hi))⟩

/-- An element at the end is the first one with the highest score if all before it have lower
ones. -/
theorem firstBest_last (hx : f x = some b)
    (hlt : ∀ y ∈ l, ∀ b', f y = some b' → score b' < score b) :
    FirstBest f score (l ++ [x]) l.length b := by
  refine ⟨⟨x, by simp, hx⟩, fun j y b' hy hb' => ?_⟩
  rcases getElem?_concat_eq_some hy with hy | ⟨rfl, rfl⟩
  · have hbelow := hlt y (List.mem_of_getElem? hy) b' hb'
    exact ⟨Int.le_of_lt hbelow, fun _ => hbelow⟩
  · rw [hx, Option.some.injEq] at hb'
    exact ⟨hb' ▸ Int.le_refl _, fun h => absurd h (Nat.lt_irrefl _)⟩

end FirstBest

namespace ScoredMatch

theorem best?_concat (ms : List ScoredMatch) (m : ScoredMatch) :
    best? (ms ++ [m]) = some (((best? ms).map (·.better m)).getD m) := by
  cases ms with
  | nil => rfl
  | cons first rest => simp [best?]

variable {α : Type} {f : α → Option ScoredMatch} {l : List α} {m : ScoredMatch}

theorem best?_eq_none_iff {ms : List ScoredMatch} : best? ms = none ↔ ms = [] := by
  cases ms <;> simp [best?]

theorem exists_firstBest_of_best? (h : best? (l.filterMap f) = some m) :
    ∃ i, FirstBest f score l i m := by
  induction l using List.reverseRecOn generalizing m with
  | nil => cases h
  | append_singleton l x ih =>
    rw [List.filterMap_append] at h
    cases hx : f x with
    | none =>
      have hnil : [x].filterMap f = [] := by simp [hx]
      rw [hnil, List.append_nil] at h
      obtain ⟨i, hi⟩ := ih h
      exact ⟨i, hi.concat (by simp [hx])⟩
    | some last =>
      have hsingle : [x].filterMap f = [last] := by simp [hx]
      rw [hsingle, best?_concat, Option.some.injEq] at h
      cases hbest : best? (l.filterMap f) with
      | none =>
        rw [hbest, Option.map_none, Option.getD_none] at h
        subst h
        have hnone := List.filterMap_eq_nil_iff.1 (best?_eq_none_iff.1 hbest)
        exact ⟨l.length, firstBest_last hx fun y hy b' hb' => by rw [hnone y hy] at hb'; cases hb'⟩
      | some b =>
        obtain ⟨i, hi⟩ := ih hbest
        rw [hbest, Option.map_some, Option.getD_some, better] at h
        split at h
        · rename_i hlt
          subst h
          refine ⟨l.length, firstBest_last hx fun y hy b' hb' => ?_⟩
          obtain ⟨j, hj⟩ := List.mem_iff_getElem?.1 hy
          exact Int.lt_of_le_of_lt (hi.best j y b' hj hb').1 hlt
        · rename_i hge
          subst h
          refine ⟨i, hi.concat fun b' hb' => ?_⟩
          rw [hx, Option.some.injEq] at hb'
          exact hb' ▸ Int.not_lt.1 hge

/-- Going through the answers finds the first one with the highest score. -/
theorem best?_filterMap_eq_some_iff :
    best? (l.filterMap f) = some m ↔ ∃ i, FirstBest f score l i m := by
  constructor
  · exact exists_firstBest_of_best?
  · rintro ⟨i, hi⟩
    cases hbest : best? (l.filterMap f) with
    | none =>
      obtain ⟨x, hx, hm⟩ := hi.at_index
      have hnone := List.filterMap_eq_nil_iff.1 (best?_eq_none_iff.1 hbest)
      rw [hnone x (List.mem_of_getElem? hx)] at hm
      cases hm
    | some m' =>
      obtain ⟨j, hj⟩ := exists_firstBest_of_best? hbest
      rw [hj.unique hi]

end ScoredMatch

/-! ## One match for each declaration -/

def ScoredMatch.key (m : ScoredMatch) : String × String :=
  (m.signature.name, m.qualifiedName)

theorem ScoredMatch.isSame_iff {a b : ScoredMatch} : a.isSame b = true ↔ a.key = b.key := by
  simp [isSame, key]

theorem ScoredMatch.better_eq_or (a b : ScoredMatch) : a.better b = a ∨ a.better b = b := by
  rw [better]
  split
  · exact .inr rfl
  · exact .inl rfl

def bestAbout (ms : List ScoredMatch) (key : String × String) : Option ScoredMatch :=
  ScoredMatch.best? (ms.filter fun m => decide (m.key = key))

/-- The matches that are kept are the best ones about each thing, one for each. -/
def IsKept (ms kept : List ScoredMatch) : Prop :=
  ∀ key, (kept.filter fun m => decide (m.key = key)) = (bestAbout ms key).toList

theorem isKept_nil : IsKept [] [] := fun _ => rfl

theorem bestAbout_concat (ms : List ScoredMatch) (m : ScoredMatch) (key : String × String) :
    bestAbout (ms ++ [m]) key =
      if m.key = key then some (((bestAbout ms key).map (·.better m)).getD m)
      else bestAbout ms key := by
  rw [bestAbout, List.filter_append, List.filter_singleton]
  by_cases hkey : m.key = key
  · rw [if_pos hkey, decide_eq_true hkey, cond_true, ScoredMatch.best?_concat]
    rfl
  · rw [if_neg hkey, decide_eq_false hkey, cond_false, List.append_nil]
    rfl

theorem IsKept.key_eq {ms kept : List ScoredMatch} (h : IsKept ms kept) {key : String × String}
    {m : ScoredMatch} (hm : bestAbout ms key = some m) : m ∈ kept ∧ m.key = key := by
  have hmem : m ∈ kept.filter fun m => decide (m.key = key) := by
    rw [h key, hm]
    exact List.mem_singleton_self m
  simpa using List.mem_filter.1 hmem

/-- A match about something that has been kept is compared with what is there. -/
theorem IsKept.replace {ms kept : List ScoredMatch} (h : IsKept ms kept) {m : ScoredMatch}
    (hany : ∃ k ∈ kept, k.key = m.key) :
    IsKept (ms ++ [m]) (kept.map fun k => if k.isSame m then k.better m else k) := by
  intro key
  have hkeys : ∀ k : ScoredMatch, (if k.isSame m then k.better m else k).key = k.key := by
    intro k
    split
    · rename_i hsame
      rcases k.better_eq_or m with heq | heq
      · rw [heq]
      · rw [heq, ScoredMatch.isSame_iff.1 hsame]
    · rfl
  have hmap : (kept.map fun k => if k.isSame m then k.better m else k).filter
      (fun m => decide (m.key = key)) =
      (bestAbout ms key).toList.map fun k => if k.isSame m then k.better m else k := by
    rw [List.filter_map, ← h key]
    simp only [Function.comp_def, hkeys]
  rw [hmap, bestAbout_concat]
  cases hbest : bestAbout ms key with
  | none =>
    -- nothing has been kept about `key`, so the match is about something else
    have hnone : kept.filter (fun m => decide (m.key = key)) = [] := by rw [h key, hbest]; rfl
    obtain ⟨k, hk, hkey⟩ := hany
    have hne : m.key ≠ key := fun heq => by
      have hk' := List.filter_eq_nil_iff.1 hnone k hk
      exact hk' (decide_eq_true (hkey.trans heq))
    rw [if_neg hne]
    rfl
  | some b =>
    have hb := (h.key_eq hbest).2
    by_cases hkey : m.key = key
    · have hsame : b.isSame m = true := ScoredMatch.isSame_iff.2 (hb.trans hkey.symm)
      rw [if_pos hkey]
      simp [hsame]
    · have hsame : ¬ b.isSame m = true := fun hsame =>
        hkey ((ScoredMatch.isSame_iff.1 hsame).symm.trans hb)
      rw [if_neg hkey]
      simp [hsame]

/-- A match about something new is kept. -/
theorem IsKept.append {ms kept : List ScoredMatch} (h : IsKept ms kept) {m : ScoredMatch}
    (hnew : ∀ k ∈ kept, k.key ≠ m.key) : IsKept (ms ++ [m]) (kept ++ [m]) := by
  intro key
  rw [List.filter_append, List.filter_singleton, h key, bestAbout_concat]
  by_cases hkey : m.key = key
  · have hnone : bestAbout ms key = none := by
      refine Option.eq_none_iff_forall_ne_some.2 fun b hb => ?_
      obtain ⟨hmem, hb⟩ := h.key_eq hb
      exact hnew b hmem (hb.trans hkey.symm)
    rw [if_pos hkey, decide_eq_true hkey, hnone]
    rfl
  · rw [if_neg hkey, decide_eq_false hkey, cond_false, List.append_nil]

theorem IsKept.keepBest {before kept : List ScoredMatch} (h : IsKept before kept)
    (ms : List ScoredMatch) : IsKept (before ++ ms) (keepBest kept ms) := by
  induction ms generalizing before kept with
  | nil => rwa [List.append_nil, ApiRecovery.keepBest]
  | cons m ms ih =>
    rw [List.append_cons, ApiRecovery.keepBest]
    have hany : kept.any (·.isSame m) = true ↔ ∃ k ∈ kept, k.key = m.key := by
      simp only [List.any_eq_true, ScoredMatch.isSame_iff]
    split
    · rename_i hsome
      exact ih (h.replace (hany.1 hsome))
    · rename_i hnone
      exact ih (h.append fun k hk hkey => hnone (hany.2 ⟨k, hk, hkey⟩))

theorem isKept_keepBest (ms : List ScoredMatch) : IsKept ms (keepBest [] ms) :=
  isKept_nil.keepBest ms

theorem IsKept.nodup {ms kept : List ScoredMatch} (h : IsKept ms kept) :
    (kept.map ScoredMatch.key).Nodup := by
  refine List.nodup_iff_count_le_one.2 fun key => ?_
  have hlength : (kept.filter fun m => decide (m.key = key)).length ≤ 1 := by
    rw [h key]
    cases bestAbout ms key <;> simp
  have hbeq : ((· == key) ∘ ScoredMatch.key) = fun m => decide (m.key = key) :=
    funext fun m => beq_eq_decide _ _
  rwa [List.count, List.countP_map, hbeq, List.countP_eq_length_filter]

theorem IsKept.mem_iff {ms kept : List ScoredMatch} (h : IsKept ms kept) {m : ScoredMatch} :
    m ∈ kept ↔ bestAbout ms m.key = some m := by
  have hmem : m ∈ kept ↔ m ∈ kept.filter fun k => decide (k.key = m.key) := by
    simp [List.mem_filter]
  rw [hmem, h, Option.mem_toList]

/-! ## Classifications -/

/-- The best match of a file is of the earliest signature in the catalogue, among those which the
file is a candidate for, that reaches the highest score for the file's first declaration. -/
def SourceFile.IsBestMatch (f : SourceFile) (catalogue : List Signature) (s : Signature)
    (name : String) (score : Int) : Prop :=
  ∃ (unit : Java.CompilationUnit) (i : Nat), f.unit = some unit ∧ catalogue[i]? = some s ∧
    s.isCandidate f.text = true ∧ scoreDeclaration? s f.text unit = some (name, score) ∧
    ∀ (j : Nat) t name' score', catalogue[j]? = some t → t.isCandidate f.text = true →
      scoreDeclaration? t f.text unit = some (name', score') →
      score' ≤ score ∧ (j < i → score' < score)

/-- A classification holds the member in its entry for the signature. -/
def Classification.Reports (k : Classification) (s : Signature) (m : ClassifiedMember) : Prop :=
  ∃ t ∈ k.types, t.signature = s ∧ m ∈ t.members

variable {catalogue : List Signature} {c : Corpus}

theorem SourceFile.bestMatch?_eq_some_iff {f : SourceFile} {id : Nat} {m : ScoredMatch} :
    f.bestMatch? id catalogue = some m ↔
      m.file = id ∧ f.IsBestMatch catalogue m.signature m.qualifiedName m.score := by
  rw [bestMatch?, IsBestMatch]
  cases hunit : f.unit with
  | none => simp
  | some unit =>
    dsimp only
    rw [List.filterMap_filter, ScoredMatch.best?_filterMap_eq_some_iff]
    have hanswer : ∀ (s : Signature) (b : ScoredMatch),
        (if s.isCandidate f.text = true then
          (scoreDeclaration? s f.text unit).map fun scored =>
            (⟨s, scored.1, id, scored.2⟩ : ScoredMatch) else none) = some b ↔
        b.signature = s ∧ b.file = id ∧ s.isCandidate f.text = true ∧
          scoreDeclaration? s f.text unit = some (b.qualifiedName, b.score) := by
      intro s b
      obtain ⟨s', name, id', score⟩ := b
      simp only [Option.ite_none_right_eq_some, Option.map_eq_some_iff, ScoredMatch.mk.injEq,
        Prod.exists]
      grind
    constructor
    · rintro ⟨i, ⟨s, hs, hm⟩, hbest⟩
      obtain ⟨rfl, rfl, hcandidate, hscore⟩ := (hanswer _ _).1 hm
      refine ⟨rfl, unit, i, rfl, hs, hcandidate, hscore, ?_⟩
      intro j t name' score' ht hcandidate' h
      exact hbest j t ⟨t, name', m.file, score'⟩ ht ((hanswer _ _).2 ⟨rfl, rfl, hcandidate', h⟩)
    · rintro ⟨rfl, unit', i, hunit', hs, hcandidate, hscore, hbest⟩
      obtain rfl : unit = unit' := Option.some.inj hunit'
      refine ⟨i, ⟨_, hs, (hanswer _ _).2 ⟨rfl, rfl, hcandidate, hscore⟩⟩, fun j t b ht hb => ?_⟩
      obtain ⟨rfl, -, hcandidate', h⟩ := (hanswer _ _).1 hb
      exact hbest j _ _ _ ht hcandidate' h

theorem SourceFile.IsBestMatch.mem {f : SourceFile} {s : Signature} {name : String} {score : Int}
    (h : f.IsBestMatch catalogue s name score) : s ∈ catalogue := by
  obtain ⟨unit, i, -, hs, -⟩ := h
  exact List.mem_of_getElem? hs

theorem filterMap_eq_map_filter {α β : Type} {f : α → Option β} {p : α → Bool} {g : α → β}
    (h : ∀ x, f x = if p x then some (g x) else none) (l : List α) :
    l.filterMap f = (l.filter p).map g := by
  obtain rfl : f = fun x => if p x then some (g x) else none := funext h
  rw [← List.filterMap_eq_filter, List.map_filterMap]
  congr 1
  funext x
  cases hp : p x <;> simp [hp, Option.guard]

namespace Corpus

/-- The file is the first of those with the highest score that have this best match. -/
def IsBestFile (c : Corpus) (catalogue : List Signature) (s : Signature) (name : String)
    (id : Nat) (score : Int) : Prop :=
  (∃ f, c.file? id = some f ∧ f.IsBestMatch catalogue s name score) ∧
    ∀ id' f' score', c.file? id' = some f' → f'.IsBestMatch catalogue s name score' →
      score' ≤ score ∧ (id' < id → score' < score)

variable {s : Signature} {name : String} {id : Nat} {score : Int}

theorem bestAbout_bestMatches (hnames : (catalogue.map (·.name)).Nodup) (hs : s ∈ catalogue)
    {m : ScoredMatch} :
    bestAbout (c.bestMatches catalogue) (s.name, name) = some m ↔
      m.signature = s ∧ m.qualifiedName = name ∧
        c.IsBestFile catalogue s name m.file m.score := by
  rw [bestAbout, bestMatches, List.filter_filterMap, ScoredMatch.best?_filterMap_eq_some_iff]
  -- the answer of a file, at its index
  have hanswer : ∀ (f : SourceFile) (i : Nat) (m : ScoredMatch),
      ((f.bestMatch? i catalogue).filter fun m => decide (m.key = (s.name, name))) = some m ↔
        m.signature = s ∧ m.qualifiedName = name ∧ m.file = i ∧
          f.IsBestMatch catalogue s name m.score := by
    intro f i m
    rw [Option.filter_eq_some_iff, SourceFile.bestMatch?_eq_some_iff, decide_eq_true_eq]
    constructor
    · rintro ⟨⟨hfile, hbest⟩, hkey⟩
      obtain ⟨hsignature, hname⟩ := Prod.mk.inj hkey
      have heq : m.signature = s := List.inj_on_of_nodup_map hnames hbest.mem hs hsignature
      exact ⟨heq, hname, hfile, heq ▸ hname ▸ hbest⟩
    · rintro ⟨rfl, rfl, hfile, hbest⟩
      exact ⟨⟨hfile, hbest⟩, rfl⟩
  have hindex : ∀ (i : Nat) (p : SourceFile × Nat), c.files.zipIdx[i]? = some p ↔
      c.file? i = some p.1 ∧ p.2 = i := by
    rintro i ⟨f, j⟩
    rw [List.getElem?_zipIdx, Option.map_eq_some_iff, file?]
    grind
  constructor
  · rintro ⟨i, ⟨⟨f, j⟩, hf, hm⟩, hbest⟩
    obtain ⟨hf, rfl⟩ := (hindex _ _).1 hf
    obtain ⟨hsignature, hname, rfl, hmatch⟩ := (hanswer _ _ _).1 hm
    refine ⟨hsignature, hname, ⟨f, hf, hmatch⟩, fun id' f' score' hf' hmatch' => ?_⟩
    exact hbest id' (f', id') ⟨s, name, id', score'⟩ ((hindex _ _).2 ⟨hf', rfl⟩)
      ((hanswer _ _ _).2 ⟨rfl, rfl, rfl, hmatch'⟩)
  · rintro ⟨hsignature, hname, ⟨f, hf, hmatch⟩, hbest⟩
    refine ⟨m.file, ⟨(f, m.file), (hindex _ _).2 ⟨hf, rfl⟩,
      (hanswer _ _ _).2 ⟨hsignature, hname, rfl, hmatch⟩⟩, ?_⟩
    rintro i ⟨f', j⟩ m' hf' hm'
    obtain ⟨hf', rfl⟩ := (hindex _ _).1 hf'
    exact hbest j f' _ hf' ((hanswer _ _ _).1 hm').2.2.2

/-- The matches of a signature that reach its minimum. -/
def confirmed (c : Corpus) (catalogue : List Signature) (s : Signature) : List ScoredMatch :=
  (keepBest [] (c.bestMatches catalogue)).filter fun m =>
    m.signature.name == s.name && s.minScore ≤ m.score

theorem types_classifyBy (c : Corpus) (catalogue : List Signature) :
    (c.classifyBy catalogue).types =
      (catalogue.filter fun s => !(c.confirmed catalogue s).isEmpty).map fun s =>
        ⟨s, (c.confirmed catalogue s).map ScoredMatch.toMember⟩ := by
  rw [classifyBy]
  refine filterMap_eq_map_filter (fun s => ?_) catalogue
  split
  · next hnone =>
    have hconfirmed : c.confirmed catalogue s = [] := hnone
    simp [hconfirmed]
  · next hsome =>
    have hconfirmed : c.confirmed catalogue s ≠ [] := hsome
    rw [if_pos (by simpa using hconfirmed), confirmed]

theorem mem_confirmed (hnames : (catalogue.map (·.name)).Nodup) (hs : s ∈ catalogue)
    {m : ScoredMatch} :
    m ∈ c.confirmed catalogue s ↔ s.minScore ≤ m.score ∧ m.signature = s ∧
      c.IsBestFile catalogue s m.qualifiedName m.file m.score := by
  rw [confirmed, List.mem_filter, (isKept_keepBest _).mem_iff, Bool.and_eq_true, beq_iff_eq,
    decide_eq_true_eq]
  constructor
  · rintro ⟨hbest, hname, hmin⟩
    rw [ScoredMatch.key, hname, bestAbout_bestMatches hnames hs] at hbest
    exact ⟨hmin, hbest.1, hbest.2.2⟩
  · rintro ⟨hmin, rfl, hbest⟩
    exact ⟨(bestAbout_bestMatches hnames hs).2 ⟨rfl, rfl, hbest⟩, rfl, hmin⟩

/-- The classification reports a name under a signature if it is the best match of some file and the
highest score of these files reaches the minimum, with that score and the first file that has it. -/
theorem reports_classifyBy (hnames : (catalogue.map (·.name)).Nodup) {m : ClassifiedMember} :
    (c.classifyBy catalogue).Reports s m ↔ ∃ id score, m = ⟨m.qualifiedName, some id, some score⟩ ∧
      s.minScore ≤ score ∧ c.IsBestFile catalogue s m.qualifiedName id score := by
  rw [Classification.Reports, types_classifyBy]
  constructor
  · rintro ⟨t, ht, rfl, hm⟩
    obtain ⟨s, hs, rfl⟩ := List.mem_map.1 ht
    obtain ⟨k, hk, rfl⟩ := List.mem_map.1 hm
    obtain ⟨hmin, -, hbest⟩ := (mem_confirmed hnames (List.mem_filter.1 hs).1).1 hk
    exact ⟨k.file, k.score, rfl, hmin, hbest⟩
  · rintro ⟨id, score, heq, hmin, hbest⟩
    obtain ⟨f, -, hmatch⟩ := hbest.1
    have hk : (⟨s, m.qualifiedName, id, score⟩ : ScoredMatch) ∈ c.confirmed catalogue s :=
      (mem_confirmed hnames hmatch.mem).2 ⟨hmin, rfl, hbest⟩
    refine ⟨_, List.mem_map_of_mem (List.mem_filter.2 ⟨hmatch.mem, ?_⟩), rfl, ?_⟩
    · simpa using List.ne_nil_of_mem hk
    · rw [heq]
      exact List.mem_map_of_mem hk

/-- There is an entry for each signature that has members, in the order of the catalogue. -/
theorem signatures_classifyBy (c : Corpus) (catalogue : List Signature) :
    ((c.classifyBy catalogue).types.map (·.signature)).Sublist catalogue := by
  rw [types_classifyBy, List.map_map]
  simp only [Function.comp_def, List.map_id']
  exact List.filter_sublist

theorem members_ne_nil {t : ClassifiedType} (ht : t ∈ (c.classifyBy catalogue).types) :
    t.members ≠ [] := by
  rw [types_classifyBy] at ht
  obtain ⟨s, hs, rfl⟩ := List.mem_map.1 ht
  simpa using (List.mem_filter.1 hs).2

/-- No name stands twice in an entry. -/
theorem nodup_qualifiedNames {t : ClassifiedType} (ht : t ∈ (c.classifyBy catalogue).types) :
    t.qualifiedNames.Nodup := by
  rw [types_classifyBy] at ht
  obtain ⟨s, -, rfl⟩ := List.mem_map.1 ht
  have hkeys : ((c.confirmed catalogue s).map ScoredMatch.key).Nodup :=
    (isKept_keepBest _).nodup.sublist (List.filter_sublist.map _)
  have hnames : (c.confirmed catalogue s).map ScoredMatch.key =
      ((c.confirmed catalogue s).map (·.qualifiedName)).map (Prod.mk s.name) := by
    rw [List.map_map]
    refine List.map_congr_left fun m hm => ?_
    have hname := (Bool.and_eq_true _ _ ▸ (List.mem_filter.1 hm).2).1
    exact congrArg (Prod.mk · m.qualifiedName) (beq_iff_eq.1 hname)
  rw [ClassifiedType.qualifiedNames, List.map_map]
  exact List.Nodup.of_map _ (hnames ▸ hkeys)

/-- Some file is the first one with the highest score if that is the highest at all. -/
theorem exists_isBestFile_iff :
    (∃ id, c.IsBestFile catalogue s name id score) ↔
      (∃ f ∈ c.files, f.IsBestMatch catalogue s name score) ∧
        ∀ f ∈ c.files, ∀ score', f.IsBestMatch catalogue s name score' → score' ≤ score := by
  classical
  constructor
  · rintro ⟨id, ⟨f, hf, hmatch⟩, hbest⟩
    refine ⟨⟨f, List.mem_of_getElem? hf, hmatch⟩, fun f' hf' score' hmatch' => ?_⟩
    obtain ⟨id', hid'⟩ := List.mem_iff_getElem?.1 hf'
    exact (hbest id' f' score' hid' hmatch').1
  · rintro ⟨⟨f, hf, hmatch⟩, hbest⟩
    have hexists : ∃ id f, c.file? id = some f ∧ f.IsBestMatch catalogue s name score := by
      obtain ⟨id, hid⟩ := List.mem_iff_getElem?.1 hf
      exact ⟨id, f, hid, hmatch⟩
    refine ⟨Nat.find hexists, Nat.find_spec hexists, fun id' f' score' hf' hmatch' => ?_⟩
    have hle := hbest f' (List.mem_of_getElem? hf') score' hmatch'
    refine ⟨hle, fun hlt => Int.lt_iff_le_and_ne.2 ⟨hle, ?_⟩⟩
    rintro rfl
    exact Nat.find_min hexists hlt ⟨f', hf', hmatch'⟩

/-- A classification reports a name under a signature exactly when they are the best match of some
file and the highest score of all such files reaches the signature's minimum, and it does so with
that score and the first file that has it. There is one entry for each signature that has members,
in the order of the catalogue, and no name stands twice in it. So the signatures, names and scores
do not depend on the order of the files. -/
theorem classify_keeps_best (c : Corpus) :
    (∀ s m, c.classify.Reports s m ↔
      ∃ id score, m = ⟨m.qualifiedName, some id, some score⟩ ∧ s.minScore ≤ score ∧
        (∃ f, c.file? id = some f ∧ f.IsBestMatch Catalogue.all s m.qualifiedName score) ∧
        ∀ id' f' score', c.file? id' = some f' →
          f'.IsBestMatch Catalogue.all s m.qualifiedName score' →
          score' ≤ score ∧ (id' < id → score' < score)) ∧
    (c.classify.types.map (·.signature)).Sublist Catalogue.all ∧
    (c.classify.types.map (·.signature.name)).Nodup ∧
    (∀ t ∈ c.classify.types, t.members ≠ [] ∧ t.qualifiedNames.Nodup) ∧
    (∀ c' : Corpus, c'.files.Perm c.files → ∀ s name score,
      (∃ file, c'.classify.Reports s ⟨name, file, score⟩) ↔
        ∃ file, c.classify.Reports s ⟨name, file, score⟩) := by
  have hnames : (Catalogue.all.map (·.name)).Nodup := by decide
  have hsignatures := signatures_classifyBy c Catalogue.all
  have hscores : ∀ (c : Corpus) (s : Signature) (name : String) (score : Option Int),
      (∃ file, c.classify.Reports s ⟨name, file, score⟩) ↔
        ∃ best, score = some best ∧ s.minScore ≤ best ∧
          ∃ id, c.IsBestFile Catalogue.all s name id best := by
    intro c s name score
    simp only [classify, reports_classifyBy hnames, ClassifiedMember.mk.injEq, true_and]
    grind
  refine ⟨fun s m => reports_classifyBy hnames, hsignatures, ?_,
    fun t ht => ⟨members_ne_nil ht, nodup_qualifiedNames ht⟩, fun c' hperm s name score => ?_⟩
  · have hsublist := hsignatures.map (·.name)
    rw [List.map_map] at hsublist
    exact hnames.sublist hsublist
  · simp only [hscores, exists_isBestFile_iff, hperm.mem_iff]

end Corpus

end ApiRecovery
