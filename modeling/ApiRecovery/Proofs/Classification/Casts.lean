import ApiRecovery.Classification.Alias
import ApiRecovery.Proofs.Corpus.Scoping
import Mathlib.Data.List.Induction

/-!
# The cast that names the alias annotation

A cast whose type is never the annotation is passed over. What it casts is passed over with it, at
any depth; of the other casts of the file, wherever they stand, the best one names the annotation,
the first of several. So every cast has its say unless it stands inside one that is passed over.
-/

namespace ApiRecovery

open Java (Tree Kind)

/-! ## Casts and where they stand -/

namespace Java.Tree

mutual

/-- All trees inside a tree, itself included, in the order of the text and outer before inner, each
with the trees around it, innermost first. -/
def placed (around : List Tree) : Tree → List (List Tree × Tree)
  | leaf role kind token => [(around, leaf role kind token)]
  | node role kind children =>
    (around, node role kind children) :: placedInAll (node role kind children :: around) children

def placedInAll (around : List Tree) : List Tree → List (List Tree × Tree)
  | [] => []
  | t :: ts => placed around t ++ placedInAll around ts

end

def castType? (t : Tree) : Option Tree :=
  if t.kind = .castExpression then t.child? .type else none

/-- The tree is a cast to a type that is never the annotation. -/
def isPassedOver (t : Tree) : Bool :=
  t.castType?.any Cast.isIgnored

def cast? (t : Tree) : Option Cast :=
  (t.castType?.filter fun type => !Cast.isIgnored type).map fun type =>
    Cast.ofTexts type.text (((t.child? .value).map text).getD "")

def allCasts (t : Tree) : List Cast :=
  (t.placed []).filterMap fun p => p.2.cast?

/-- The casts in a tree that neither are passed over nor stand inside a cast that is. -/
def openCasts (t : Tree) : List Cast :=
  ((t.placed []).filter fun p => !p.1.any isPassedOver).filterMap fun p => p.2.cast?

/-! ## The walk finds the open casts -/

theorem casts_leaf (role : Option Role) (kind : Kind) (token : Token) :
    (leaf role kind token).casts = [] := by
  rw [casts]

/-- A cast comes before those inside it; inside one that is passed over there are none. -/
theorem casts_node (role : Option Role) (kind : Kind) (children : List Tree) :
    (node role kind children).casts =
      (node role kind children).cast?.toList ++
        if (node role kind children).isPassedOver then [] else castsOfAll children := by
  rw [casts]
  unfold cast? isPassedOver castType?
  by_cases hkind : kind = .castExpression
  · simp only [hkind, if_true, Tree.kind]
    cases (node role .castExpression children).child? .type with
    | none => rfl
    | some type => cases hignored : Cast.isIgnored type <;> simp [Option.filter, hignored]
  · simp [hkind, Tree.kind]

mutual

theorem suffix_of_mem_placed {around : List Tree} {p : List Tree × Tree} :
    (t : Tree) → p ∈ t.placed around → around <:+ p.1
  | leaf _ _ _, hp => by
    rw [placed, List.mem_singleton] at hp
    exact hp ▸ List.suffix_rfl
  | node role kind children, hp => by
    rw [placed, List.mem_cons] at hp
    rcases hp with rfl | hp
    · exact List.suffix_rfl
    · exact (List.suffix_cons _ _).trans (suffix_of_mem_placedInAll children hp)

theorem suffix_of_mem_placedInAll {around : List Tree} {p : List Tree × Tree} :
    (ts : List Tree) → p ∈ placedInAll around ts → around <:+ p.1
  | [], hp => by cases hp
  | t :: ts, hp => by
    rw [placedInAll, List.mem_append] at hp
    exact hp.elim (suffix_of_mem_placed t) (suffix_of_mem_placedInAll ts)

end

/-- Nothing inside a cast that is passed over is open. -/
theorem filter_placedInAll_eq_nil {around : List Tree} (h : around.any isPassedOver = true)
    (ts : List Tree) :
    ((placedInAll around ts).filter fun p => !p.1.any isPassedOver) = [] := by
  refine List.filter_eq_nil_iff.2 fun p hp => ?_
  obtain ⟨t, ht, hpassed⟩ := List.any_eq_true.1 h
  have hmem : t ∈ p.1 := (suffix_of_mem_placedInAll ts hp).subset ht
  have hany : p.1.any isPassedOver = true := List.any_eq_true.2 ⟨t, hmem, hpassed⟩
  simp [hany]

mutual

theorem casts_eq {around : List Tree} (h : around.any isPassedOver = false) : (t : Tree) →
    t.casts = ((t.placed around).filter fun p => !p.1.any isPassedOver).filterMap
      fun p => p.2.cast?
  | leaf role kind token => by
    have hnone : (leaf role kind token).cast? = none := by
      simp [cast?, castType?, child?, children]
    rw [casts_leaf, placed]
    simp [h, hnone]
  | node role kind children => by
    rw [casts_node, placed, List.filter_cons_of_pos (by simp [h]), List.filterMap_cons]
    have hinside : (if (node role kind children).isPassedOver then [] else castsOfAll children) =
        ((placedInAll (node role kind children :: around) children).filter
          fun p => !p.1.any isPassedOver).filterMap fun p => p.2.cast? := by
      cases hpassed : (node role kind children).isPassedOver with
      | true =>
        rw [if_pos rfl, filter_placedInAll_eq_nil (by simp [hpassed]), List.filterMap_nil]
      | false =>
        rw [if_neg (by simp)]
        exact castsOfAll_eq (by simp [hpassed, h]) children
    rw [hinside]
    cases (node role kind children).cast? <;> rfl

theorem castsOfAll_eq {around : List Tree} (h : around.any isPassedOver = false) :
    (ts : List Tree) →
    castsOfAll ts = ((placedInAll around ts).filter fun p => !p.1.any isPassedOver).filterMap
      fun p => p.2.cast?
  | [] => by rw [castsOfAll, placedInAll]; rfl
  | t :: ts => by
    rw [castsOfAll, placedInAll, List.filter_append, List.filterMap_append, casts_eq h t,
      castsOfAll_eq h ts]

end

theorem casts_eq_openCasts (t : Tree) : t.casts = t.openCasts :=
  casts_eq rfl t

/-- What a filter drops is missed afterwards, unless it has no image. -/
theorem filterMap_filter_eq_iff {α β : Type} {q : α → Bool} {f : α → Option β} (l : List α) :
    (l.filter q).filterMap f = l.filterMap f ↔ ∀ x ∈ l, q x = false → f x = none := by
  induction l with
  | nil => simp
  | cons x l ih =>
    rw [List.forall_mem_cons, ← ih]
    cases hq : q x with
    | true =>
      rw [List.filter_cons_of_pos hq]
      cases hf : f x <;> simp [hf]
    | false =>
      rw [List.filter_cons_of_neg (by simp [hq])]
      cases hf : f x with
      | none => simp [hf]
      | some y =>
        rw [List.filterMap_cons_some hf]
        refine iff_of_false (fun heq => ?_) (fun h => by cases h.1 rfl)
        have hshort := ((List.filter_sublist (p := q) (l := l)).filterMap f).length_le
        rw [heq, List.length_cons] at hshort
        exact absurd hshort (Nat.not_succ_le_self _)

/-- No cast is left out exactly when every cast inside one that is passed over is passed over. -/
theorem openCasts_eq_allCasts_iff (t : Tree) :
    t.openCasts = t.allCasts ↔
      ∀ p ∈ t.placed [], p.1.any isPassedOver = true → p.2.cast? = none := by
  rw [openCasts, allCasts, filterMap_filter_eq_iff]
  simp only [Bool.not_eq_false']

end Java.Tree

/-! ## The best cast -/

namespace Cast

def IsBest (cs : List Cast) (c : Cast) : Prop :=
  ∀ x ∈ cs, x.score ≤ c.score

instance (cs : List Cast) : DecidablePred (IsBest cs) :=
  fun c => inferInstanceAs (Decidable (∀ x ∈ cs, x.score ≤ c.score))

/-- What the scan keeps is better than all before it and no worse than all after it. -/
theorem exists_foldl_best (c : Cast) (cs : List Cast) :
    ∃ before best after, c :: cs = before ++ best :: after ∧
      (∀ x ∈ before, x.score < best.score) ∧ (∀ x ∈ after, x.score ≤ best.score) ∧
      cs.foldl (fun best c => if best.score ≥ c.score then best else c) c = best := by
  induction cs using List.reverseRecOn with
  | nil => exact ⟨[], c, [], rfl, by simp, by simp, rfl⟩
  | append_singleton cs x ih =>
    obtain ⟨before, best, after, hsplit, hbefore, hafter, hfold⟩ := ih
    rw [List.foldl_append, hfold, List.foldl_cons, List.foldl_nil, ← List.cons_append, hsplit]
    by_cases hkeep : best.score ≥ x.score
    · rw [if_pos hkeep]
      refine ⟨before, best, after ++ [x], by simp, hbefore, fun y hy => ?_, rfl⟩
      rcases List.mem_append.1 hy with hy | hy
      · exact hafter y hy
      · rwa [List.mem_singleton.1 hy]
    · rw [if_neg hkeep]
      have hless : best.score < x.score := Nat.lt_of_not_le hkeep
      refine ⟨before ++ best :: after, x, [], rfl, fun y hy => ?_, by simp, rfl⟩
      rcases List.mem_append.1 hy with hy | hy
      · exact (hbefore y hy).trans hless
      · rcases List.mem_cons.1 hy with rfl | hy
        · exact hless
        · exact (hafter y hy).trans_lt hless

theorem best?_eq_find? (cs : List Cast) : best? cs = cs.find? fun c => IsBest cs c := by
  cases cs with
  | nil => rfl
  | cons c cs =>
    obtain ⟨before, best, after, hsplit, hbefore, hafter, hfold⟩ := exists_foldl_best c cs
    rw [best?, hfold, eq_comm, List.find?_eq_some_iff_append, hsplit]
    refine ⟨decide_eq_true fun x hx => ?_, before, after, rfl, fun x hx => ?_⟩
    · rcases List.mem_append.1 hx with hx | hx
      · exact (hbefore x hx).le
      · rcases List.mem_cons.1 hx with rfl | hx
        · exact le_rfl
        · exact hafter x hx
    · have hworse : ¬ IsBest (before ++ best :: after) x := fun h =>
        absurd (h best (List.mem_append_right _ List.mem_cons_self)) (hbefore x hx).not_ge
      simp [hworse]

theorem best?_eq_some_iff {cs : List Cast} {c : Cast} :
    best? cs = some c ↔ ∃ i, FirstAt (IsBest cs) cs i c := by
  rw [best?_eq_find?]
  exact find?_eq_some_iff_firstAt fun _ => decide_eq_true_iff

end Cast

/-! ## The alias annotation -/

namespace Corpus

variable {c : Corpus} {k : Classification} {id : Nat} {tree : Tree}

/-- Where the type adapters are found in a file that can be read, the name of the alias annotation
is that of the type of the best cast among all that do not stand inside one that is passed over, the
first of several, if that type can be resolved. These are all casts but those that are passed over
exactly when none of the former stands inside one of the latter. -/
theorem serializedName?_eq_some_iff (hid : typeAdaptersFile? k = some id)
    (htree : (c.file? id).bind (·.tree.toOption) = some tree) :
    (∀ name, c.serializedName? k = some name ↔
      ∃ i cast found, FirstAt (Cast.IsBest tree.openCasts) tree.openCasts i cast ∧
        c.resolveName (c.primaryScope id) cast.type = .ok found ∧ found.qualifiedName = name) ∧
    (tree.openCasts = tree.allCasts ↔
      ∀ p ∈ tree.placed [], p.1.any Tree.isPassedOver = true → p.2.cast? = none) := by
  refine ⟨fun name => ?_, tree.openCasts_eq_allCasts_iff⟩
  obtain ⟨f, hf, hread⟩ := Option.bind_eq_some_iff.1 htree
  have hbest := fun cast => @Cast.best?_eq_some_iff tree.openCasts cast
  simp only [serializedName?, Option.bind_eq_bind, hid, hf, hread, Option.bind_some,
    Tree.casts_eq_openCasts, Option.bind_eq_some_iff, hbest]
  constructor
  · rintro ⟨cast, ⟨i, hfirst⟩, h⟩
    split at h
    · rename_i found hfound
      cases h
      exact ⟨i, cast, found, hfirst, hfound, rfl⟩
    · cases h
  · rintro ⟨i, cast, found, hfirst, hfound, rfl⟩
    exact ⟨cast, ⟨i, hfirst⟩, by rw [hfound]⟩

/-- Two casts read an annotation; the first of them names it. -/
theorem first_of_two_annotation_casts :
    let c : Corpus := .ofSources [("n.java", "import gson.c; class n \x7b " ++
      "Object x = (c) getAnnotation(), y = (d) getAnnotation(); \x7d")]
    let k : Classification := ⟨[⟨Catalogue.typeAdapters, [⟨"n", some 0, none⟩]⟩]⟩
    ∃ tree, typeAdaptersFile? k = some 0 ∧ (c.file? 0).bind (·.tree.toOption) = some tree ∧
      tree.openCasts = [⟨"c", 10⟩, ⟨"d", 10⟩] ∧ c.serializedName? k = some "gson.c" := by
  intro c k
  have hevaluated : ((c.file? 0).bind (·.tree.toOption)).map Tree.openCasts =
        some [⟨"c", 10⟩, ⟨"d", 10⟩] ∧
      (c.resolveName (c.primaryScope 0) "c").toOption.map (·.qualifiedName) = some "gson.c" := by
    decide +kernel
  obtain ⟨tree, htree, hcasts⟩ := Option.map_eq_some_iff.1 hevaluated.1
  obtain ⟨found, hfound, hname⟩ := exists_resolveName_eq_ok hevaluated.2
  have hid : typeAdaptersFile? k = some 0 := by decide
  refine ⟨tree, hid, htree, hcasts, ((serializedName?_eq_some_iff hid htree).1 _).2 ?_⟩
  obtain ⟨i, hfirst⟩ := (@Cast.best?_eq_some_iff tree.openCasts ⟨"c", 10⟩).1
    (by rw [hcasts]; decide)
  exact ⟨i, _, found, hfirst, hfound, hname⟩

/-- The cast that reads the annotation stands inside one that is passed over. -/
theorem annotation_cast_is_missed :
    let c : Corpus := .ofSources [("n.java", "import gson.c; class n \x7b " ++
      "String x = (String) ((c) getAnnotation()).value(); \x7d")]
    let k : Classification := ⟨[⟨Catalogue.typeAdapters, [⟨"n", some 0, none⟩]⟩]⟩
    ∃ tree i cast found, typeAdaptersFile? k = some 0 ∧
      (c.file? 0).bind (·.tree.toOption) = some tree ∧
      FirstAt (Cast.IsBest tree.allCasts) tree.allCasts i cast ∧
      c.resolveName (c.primaryScope 0) cast.type = .ok found ∧
      found.qualifiedName = "gson.c" ∧ c.serializedName? k = none := by
  intro c k
  have hevaluated : ((c.file? 0).bind (·.tree.toOption)).map Tree.allCasts = some [⟨"c", 10⟩] ∧
      (c.resolveName (c.primaryScope 0) "c").toOption.map (·.qualifiedName) = some "gson.c" ∧
      typeAdaptersFile? k = some 0 ∧ c.serializedName? k = none := by
    decide +kernel
  obtain ⟨hread, hresolved, hid, hmissed⟩ := hevaluated
  obtain ⟨tree, htree, hcasts⟩ := Option.map_eq_some_iff.1 hread
  obtain ⟨found, hfound, hname⟩ := exists_resolveName_eq_ok hresolved
  obtain ⟨i, hfirst⟩ := (@Cast.best?_eq_some_iff tree.allCasts ⟨"c", 10⟩).1
    (by rw [hcasts]; decide)
  exact ⟨tree, i, _, found, hid, htree, hfirst, hfound, hname, hmissed⟩

end Corpus

end ApiRecovery
