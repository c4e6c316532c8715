import ApiRecovery.Retrofit.Endpoint
import Mathlib.Data.List.Forall2
import Mathlib.Data.List.Perm.Basic
import Mathlib.Logic.Relation

/-!
# The arrangement of annotations

An endpoint is read off the annotations of a method and of its parameters. Annotations that are not
Retrofit's may stand among them, and the order of those that are does not count, as long as no kind
comes twice on the method and no parameter has more than one.
-/

namespace ApiRecovery

open Java (Method Parameter Annotation)

/-! ## Lists in another order -/

theorem eq_of_perm_of_length_le_one {α : Type} {l l' : List α} (h : l.Perm l')
    (hlength : l.length ≤ 1) : l = l' := by
  match l with
  | [] => exact h.nil_eq
  | [a] => rw [List.singleton_perm.1 h]
  | _ :: _ :: _ => simp at hlength

/-- Where no key comes twice, a look-up does not depend on the order. -/
theorem lookup_eq_of_perm {β : Type} {l l' : List (String × β)} (h : l.Perm l')
    (hkeys : (l.map Prod.fst).Nodup) (k : String) : l.lookup k = l'.lookup k := by
  induction h with
  | nil => rfl
  | cons x _ ih => rw [List.lookup_cons, List.lookup_cons, ih (List.nodup_cons.1 hkeys).2]
  | swap x y l =>
    obtain ⟨a, b⟩ := x
    obtain ⟨a', b'⟩ := y
    have hne : a' ≠ a := fun heq => by simp [heq] at hkeys
    simp only [List.lookup_cons]
    by_cases hkey : k = a'
    · subst hkey
      rw [beq_eq_false_iff_ne.2 hne]
    · rw [beq_eq_false_iff_ne.2 hkey]
  | trans h _ ih ih' => exact (ih hkeys).trans (ih' ((h.map _).nodup_iff.1 hkeys))

/-- Where no key comes twice, the entries of one key do not depend on the order. -/
theorem filter_key_eq_of_perm {β : Type} {l l' : List (String × β)} (h : l.Perm l')
    (hkeys : (l.map Prod.fst).Nodup) (k : String) :
    (l.filter fun x => x.1 == k) = l'.filter fun x => x.1 == k := by
  refine eq_of_perm_of_length_le_one (h.filter _) ?_
  have hall : (l.filter fun x => x.1 == k).map Prod.fst =
      List.replicate (l.filter fun x => x.1 == k).length k := by
    refine List.eq_replicate_iff.2 ⟨List.length_map _, fun x hx => ?_⟩
    obtain ⟨y, hy, rfl⟩ := List.mem_map.1 hx
    exact beq_iff_eq.1 (List.mem_filter.1 hy).2
  have hnodup : ((l.filter fun x => x.1 == k).map Prod.fst).Nodup :=
    hkeys.sublist (List.filter_sublist.map _)
  exact List.nodup_replicate.1 (hall ▸ hnodup)

theorem map_eq_of_forall₂ {α β : Type} {r : α → α → Prop} {f : α → β} {l l' : List α}
    (h : List.Forall₂ r l l') (hf : ∀ a b, r a b → f a = f b) : l.map f = l'.map f := by
  rw [← List.forall₂_eq_eq_eq, List.forall₂_map_left_iff, List.forall₂_map_right_iff]
  exact h.imp hf

theorem flatMap_eq_of_forall₂ {α β : Type} {r : α → α → Prop} {f : α → List β} {l l' : List α}
    (h : List.Forall₂ r l l') (hf : ∀ a b, r a b → f a = f b) : l.flatMap f = l'.flatMap f := by
  rw [List.flatMap_def, map_eq_of_forall₂ h hf, List.flatMap_def]

namespace Corpus

section

variable (c : Corpus) (annotations : AnnotationSet) (scope : Scope)

/-- The annotations of a list that are Retrofit's, with their kinds. -/
def located (as : List Annotation) : List (String × Annotation) :=
  as.filterMap fun a => (c.annotationKind? annotations scope a).map fun kind => (kind, a)

/-! ## Rearrangement -/

/-- One change of a list of annotations: another order, or one more that is not Retrofit's. -/
inductive Rearranges : List Annotation → List Annotation → Prop
  | permute {as as' : List Annotation} : as.Perm as' → Rearranges as as'
  | insert (before after : List Annotation) {a : Annotation} :
      c.annotationKind? annotations scope a = none →
      Rearranges (before ++ after) (before ++ a :: after)

/-- Two lists of annotations that come from each other by such changes and their reversals. -/
def AreRearranged : List Annotation → List Annotation → Prop :=
  Relation.EqvGen (c.Rearranges annotations scope)

/-- Two methods that differ in the arrangement of their annotations and those of their
parameters. -/
structure IsRearranged (m m' : Method) : Prop where
  name : m'.name = m.name
  returns : m'.returns = m.returns
  parameters : List.Forall₂ (fun p p' : Parameter => p'.name = p.name ∧ p'.type = p.type ∧
    c.AreRearranged annotations scope p.annotations p'.annotations) m.parameters m'.parameters
  annotations : c.AreRearranged annotations scope m.annotations m'.annotations

end

variable {c : Corpus} {annotations : AnnotationSet} {scope : Scope}

theorem Rearranges.located_perm {as as' : List Annotation}
    (h : c.Rearranges annotations scope as as') :
    (c.located annotations scope as).Perm (c.located annotations scope as') := by
  cases h with
  | permute h => exact h.filterMap _
  | insert before after h =>
    rw [located, located, List.filterMap_append, List.filterMap_append,
      List.filterMap_cons_none (by rw [h, Option.map_none])]

theorem AreRearranged.located_perm {as as' : List Annotation}
    (h : c.AreRearranged annotations scope as as') :
    (c.located annotations scope as).Perm (c.located annotations scope as') := by
  induction h with
  | rel _ _ h => exact h.located_perm
  | refl _ => exact .refl _
  | symm _ _ _ ih => exact ih.symm
  | trans _ _ _ _ _ ih ih' => exact ih.trans ih'

/-! ## What is read off the located annotations -/

theorem methodAndPath?_eq_of_perm {found found' : List (String × Annotation)}
    (h : found.Perm found') (hkinds : (found.map Prod.fst).Nodup) :
    methodAndPath? found = methodAndPath? found' := by
  have hlookup : ∀ kind, found.lookup kind = found'.lookup kind := lookup_eq_of_perm h hkinds
  simp only [methodAndPath?, hlookup]

theorem markedParameters_eq_filterMap (summary : String) (p : Parameter) :
    c.markedParameters annotations scope summary p =
      (c.located annotations scope p.annotations).filterMap fun (kind, a) => do
        let location ← locationOfKind? kind
        let name ← a.text?
        return { name, location, required := location == .path
                 description := summary ++ "." ++ p.name
                 source := .typed p.type } := by
  rw [markedParameters, located, List.filterMap_filterMap]
  refine List.filterMap_congr fun a _ => ?_
  cases c.annotationKind? annotations scope a <;> rfl

theorem marksBody_eq_any (p : Parameter) :
    c.marksBody annotations scope p =
      (c.located annotations scope p.annotations).any fun (kind, _) => kind == "Body" := by
  rw [marksBody, located, List.any_filterMap]
  congr 1
  funext a
  cases c.annotationKind? annotations scope a <;> rfl

/-- The type of the body is that of the last parameter that marks it. -/
theorem body_eq_getLast? (ps : List Parameter) :
    ((ps.filter (c.marksBody annotations scope)).getLast?).map (·.type) =
      (ps.flatMap fun p => if c.marksBody annotations scope p then [p.type] else []).getLast? := by
  rw [← List.getLast?_map]
  congr 1
  induction ps with
  | nil => rfl
  | cons p ps ih => cases h : c.marksBody annotations scope p <;> simp [h, ih]

/-- What a parameter gives an endpoint depends on its name, its type and its located annotations. -/
theorem parameter_congr {p p' : Parameter} (hname : p'.name = p.name) (htype : p'.type = p.type)
    (hlocated : c.located annotations scope p.annotations =
      c.located annotations scope p'.annotations) :
    (∀ summary, c.markedParameters annotations scope summary p =
      c.markedParameters annotations scope summary p') ∧
    (if c.marksBody annotations scope p then [p.type] else []) =
      if c.marksBody annotations scope p' then [p'.type] else [] := by
  refine ⟨fun summary => ?_, ?_⟩
  · rw [markedParameters_eq_filterMap, markedParameters_eq_filterMap, hlocated, hname, htype]
  · rw [marksBody_eq_any, marksBody_eq_any, hlocated, htype]

/-- The endpoint of a method does not depend on how annotations are arranged, if no kind comes twice
on the method and no parameter has more than one annotation of Retrofit's. -/
theorem endpoint?_eq_of_isRearranged {interface : Java.Declaration} {m m' : Method}
    (hkinds : ((c.located annotations scope m.annotations).map Prod.fst).Nodup)
    (hparameters : ∀ p ∈ m.parameters, (c.located annotations scope p.annotations).length ≤ 1)
    (h : c.IsRearranged annotations scope m m') :
    c.endpoint? annotations scope interface m = c.endpoint? annotations scope interface m' := by
  have hperm := h.annotations.located_perm
  have hmethod := methodAndPath?_eq_of_perm hperm hkinds
  have hheaders := filter_key_eq_of_perm hperm hkinds "Headers"
  have hsame : List.Forall₂ (fun p p' : Parameter =>
      (∀ summary, c.markedParameters annotations scope summary p =
        c.markedParameters annotations scope summary p') ∧
      (if c.marksBody annotations scope p then [p.type] else []) =
        if c.marksBody annotations scope p' then [p'.type] else []) m.parameters m'.parameters := by
    refine ((List.forall₂_and_left _ _).2 ⟨hparameters, h.parameters⟩).imp ?_
    rintro p p' ⟨hone, hname, htype, hrearranged⟩
    exact parameter_congr hname htype (eq_of_perm_of_length_le_one hrearranged.located_perm hone)
  have hmarked : ∀ summary, m.parameters.flatMap (c.markedParameters annotations scope summary) =
      m'.parameters.flatMap (c.markedParameters annotations scope summary) :=
    fun summary => flatMap_eq_of_forall₂ hsame fun _ _ hp => hp.1 summary
  have hbody := flatMap_eq_of_forall₂ hsame fun _ _ hp => hp.2
  rw [located, located] at hmethod hheaders
  simp only [endpoint?, hmethod, hheaders, body_eq_getLast?, hbody, h.name, h.returns, hmarked]

/-- The annotations of a method in another order, with one among them and one on its parameter that
are not Retrofit's. -/
theorem endpoint_of_rearranged_method :
    let c : Corpus := .ofSources [("A.java",
      "interface A \x7b @interface G \x7b\x7d @interface H \x7b\x7d @interface Q \x7b\x7d \x7d")]
    let annotations : AnnotationSet :=
      ⟨[("GET", ["A.G"]), ("Headers", ["A.H"]), ("Query", ["A.Q"])]⟩
    let get : Annotation := ⟨"G", some (.text "items"), []⟩
    let headers : Annotation := ⟨"H", some (.text "Accept: text/html"), []⟩
    let query : Annotation := ⟨"Q", some (.text "page"), []⟩
    let other : Annotation := ⟨"Deprecated", none, []⟩
    let m : Method := ⟨"list", .void, [⟨"page", .void, [query]⟩], [get, headers], false⟩
    let m' : Method :=
      ⟨"list", .void, [⟨"page", .void, [other, query]⟩], [headers, other, get], false⟩
    ∃ d, c.topLevel? 0 "A" = some d ∧
      ((c.located annotations d.scope m.annotations).map Prod.fst).Nodup ∧
      (∀ p ∈ m.parameters, (c.located annotations d.scope p.annotations).length ≤ 1) ∧
      c.IsRearranged annotations d.scope m m' ∧
      (c.endpoint? annotations d.scope d.declaration m).isSome ∧
      c.endpoint? annotations d.scope d.declaration m =
        c.endpoint? annotations d.scope d.declaration m' := by
  intro c annotations get headers query other m m'
  have hevaluated : (c.topLevel? 0 "A").map (fun d =>
      ((c.located annotations d.scope m.annotations).map Prod.fst,
        (c.located annotations d.scope [query]).length, c.annotationKind? annotations d.scope other,
        (c.endpoint? annotations d.scope d.declaration m).isSome)) =
      some (["GET", "Headers"], 1, none, true) := by
    decide +kernel
  obtain ⟨d, hd, hvalues⟩ := Option.map_eq_some_iff.1 hevaluated
  simp only [Prod.mk.injEq] at hvalues
  obtain ⟨hkinds, hone, hother, hsome⟩ := hvalues
  have hnodup : ((c.located annotations d.scope m.annotations).map Prod.fst).Nodup := by
    rw [hkinds]
    decide
  have hparameters : ∀ p ∈ m.parameters,
      (c.located annotations d.scope p.annotations).length ≤ 1 := by
    intro p hp
    rw [List.mem_singleton.1 hp]
    exact Nat.le_of_eq hone
  have hrearranged : c.IsRearranged annotations d.scope m m' := by
    refine ⟨rfl, rfl, .cons ⟨rfl, rfl, .rel _ _ (.insert [] [query] hother)⟩ .nil, ?_⟩
    exact .trans _ _ _ (.rel _ _ (.permute (.swap headers get [])))
      (.rel _ _ (.insert [headers] [get] hother))
  exact ⟨d, hd, hnodup, hparameters, hrearranged, hsome,
    endpoint?_eq_of_isRearranged hnodup hparameters hrearranged⟩

end Corpus

end ApiRecovery
