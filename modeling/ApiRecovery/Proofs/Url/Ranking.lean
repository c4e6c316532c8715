import ApiRecovery.Proofs.Detection.Visits
import Mathlib.Data.List.Induction
import Mathlib.Tactic.Linarith

/-!
# The ranking of URLs

Scores are collected in a map from URLs, in which a later score replaces an earlier one, and the map
may give its entries in any order. The ranking does not tell that order: it compares any two
different entries, so there is one way to sort them. It lists the URLs of all searched files, each
once and with the score that it has in the last file it is in.
-/

namespace ApiRecovery

namespace ScoredUrl

/-! ## The last score of a URL -/

def IsLast (u : ScoredUrl) (urls : List ScoredUrl) : Prop :=
  ∃ before after, urls = before ++ u :: after ∧ ∀ v ∈ after, v.url ≠ u.url

section

variable {u v : ScoredUrl} {urls urls' : List ScoredUrl}

theorem not_isLast_nil : ¬ u.IsLast [] := by
  rintro ⟨before, after, h, -⟩
  simp at h

theorem IsLast.mem (h : u.IsLast urls) : u ∈ urls := by
  obtain ⟨before, after, rfl, -⟩ := h
  simp

theorem isLast_append : u.IsLast (urls ++ urls') ↔
    u.IsLast urls' ∨ u.IsLast urls ∧ ∀ v ∈ urls', v.url ≠ u.url := by
  constructor
  · rintro ⟨before, after, h, hafter⟩
    rcases List.append_eq_append_iff.1 h with ⟨middle, rfl, rfl⟩ | ⟨middle, rfl, hmiddle⟩
    · exact .inl ⟨middle, after, rfl, hafter⟩
    · cases middle with
      | nil => exact .inl ⟨[], after, by simpa using hmiddle.symm, hafter⟩
      | cons w middle =>
        obtain ⟨rfl, rfl⟩ := List.cons_eq_cons.1 hmiddle
        obtain ⟨hmiddle, hrest⟩ := List.forall_mem_append.1 hafter
        exact .inr ⟨⟨before, middle, rfl, hmiddle⟩, hrest⟩
  · rintro (⟨before, after, rfl, hafter⟩ | ⟨⟨before, after, rfl, hafter⟩, hnone⟩)
    · exact ⟨urls ++ before, after, by simp, hafter⟩
    · exact ⟨before, after ++ urls', by simp, List.forall_mem_append.2 ⟨hafter, hnone⟩⟩

theorem isLast_singleton : u.IsLast [v] ↔ u = v := by
  constructor
  · intro h
    exact List.mem_singleton.1 h.mem
  · rintro rfl
    exact ⟨[], [], rfl, by simp⟩

theorem isLast_concat : u.IsLast (urls ++ [v]) ↔ u = v ∨ u.IsLast urls ∧ v.url ≠ u.url := by
  rw [isLast_append, isLast_singleton, List.forall_mem_singleton]

/-- Where a URL has one score only, each of its entries is as good as the last. -/
theorem isLast_iff_mem (h : ∀ v ∈ urls, v.url = u.url → v = u) : u.IsLast urls ↔ u ∈ urls := by
  refine ⟨IsLast.mem, fun hu => ?_⟩
  induction urls using List.reverseRecOn with
  | nil => cases hu
  | append_singleton urls v ih =>
    obtain ⟨hurls, hv⟩ := List.forall_mem_append.1 h
    rw [isLast_concat]
    by_cases heq : v.url = u.url
    · exact .inl (hv v (List.mem_singleton_self v) heq).symm
    · refine .inr ⟨ih hurls ?_, heq⟩
      rcases List.mem_append.1 hu with hu | hu
      · exact hu
      · exact absurd (congrArg (·.url) (List.mem_singleton.1 hu)).symm heq

theorem mem_lastOfEach : u ∈ lastOfEach urls ↔ u.IsLast urls := by
  induction urls using List.reverseRecOn with
  | nil => simp [lastOfEach, not_isLast_nil]
  | append_singleton urls v ih =>
    have hstep : lastOfEach (urls ++ [v]) =
        (lastOfEach urls).filter (fun k => k.url != v.url) ++ [v] := by
      rw [lastOfEach, List.foldl_append]
      rfl
    rw [hstep, isLast_concat, List.mem_append, List.mem_filter, List.mem_singleton, ih, or_comm,
      bne_iff_ne, ne_comm]

end

/-! ## Maps of scores -/

/-- The scores, put into a hash map one after another. -/
def collect (urls : List ScoredUrl) : Std.HashMap String Score :=
  urls.foldl (fun scores u => scores.insert u.url u.score) ∅

theorem getElem?_collect {urls : List ScoredUrl} {url : String} {score : Score} :
    (collect urls)[url]? = some score ↔ IsLast ⟨url, score⟩ urls := by
  induction urls using List.reverseRecOn with
  | nil => simp [collect, not_isLast_nil]
  | append_singleton urls v ih =>
    have hstep : collect (urls ++ [v]) = (collect urls).insert v.url v.score := by
      rw [collect, List.foldl_append]
      rfl
    rw [hstep, Std.HashMap.getElem?_insert, isLast_concat, ← ih]
    by_cases h : v.url = url
    · subst h
      cases v
      simp [eq_comm]
    · have hne : (⟨url, score⟩ : ScoredUrl) ≠ v := fun heq => h (congrArg (·.url) heq).symm
      simp [h, hne]

/-- In whatever order the map gives its entries, they are the last ones of the URLs. -/
theorem perm_lastOfEach {urls : List ScoredUrl} {entries : List (String × Score)}
    (h : entries.Perm (collect urls).toList) :
    (entries.map fun (url, score) => ScoredUrl.mk url score).Perm (lastOfEach urls) := by
  have hinjective : Function.Injective fun entry : String × Score =>
      ScoredUrl.mk entry.1 entry.2 := by
    rintro ⟨url, score⟩ ⟨url', score'⟩ heq
    simpa using heq
  have hkeys : (collect urls).toList.Nodup :=
    Std.HashMap.distinct_keys_toList.imp fun {a b} hne heq => by simp [heq] at hne
  refine (List.perm_ext_iff_of_nodup ((h.nodup_iff.2 hkeys).map hinjective)
    (List.Nodup.of_map _ (nodup_lastOfEach urls))).2 fun u => ?_
  rw [mem_lastOfEach, ← getElem?_collect, ← Std.HashMap.mem_toList_iff_getElem?_eq_some,
    ← h.mem_iff, List.mem_map]
  constructor
  · rintro ⟨entry, hentry, rfl⟩
    exact hentry
  · exact fun hu => ⟨_, hu, rfl⟩

/-! ## The order of a ranking -/

theorem precedes_iff {a b : ScoredUrl} :
    a.precedes b = true ↔ b.score < a.score ∨ a.score = b.score ∧ a.url ≤ b.url := by
  simp [precedes]

theorem precedes_trans {a b c : ScoredUrl} (hab : a.precedes b = true)
    (hbc : b.precedes c = true) : a.precedes c = true := by
  rw [precedes_iff] at hab hbc ⊢
  rcases hab with hab | ⟨hab, hurl⟩
  · rcases hbc with hbc | ⟨hbc, -⟩
    · exact .inl (hbc.trans hab)
    · exact .inl (hbc ▸ hab)
  · rcases hbc with hbc | ⟨hbc, hurl'⟩
    · exact .inl (hab ▸ hbc)
    · exact .inr ⟨hab.trans hbc, String.le_trans hurl hurl'⟩

theorem precedes_total (a b : ScoredUrl) : (a.precedes b || b.precedes a) = true := by
  rw [Bool.or_eq_true, precedes_iff, precedes_iff]
  rcases lt_trichotomy a.score b.score with hlt | heq | hlt
  · exact .inr (.inl hlt)
  · rcases String.le_total a.url b.url with hurl | hurl
    · exact .inl (.inr ⟨heq, hurl⟩)
    · exact .inr (.inr ⟨heq.symm, hurl⟩)
  · exact .inl (.inl hlt)

/-- Of two different entries only one goes before the other. -/
theorem precedes_antisymm {a b : ScoredUrl} (hab : a.precedes b = true)
    (hba : b.precedes a = true) : a = b := by
  rw [precedes_iff] at hab hba
  rcases hab with hab | ⟨hab, hurl⟩
  · rcases hba with hba | ⟨hba, -⟩
    · exact absurd hba (lt_asymm hab)
    · exact absurd hba (ne_of_lt hab)
  · rcases hba with hba | ⟨-, hurl'⟩
    · exact absurd hab (ne_of_lt hba)
    · have heq : a.url = b.url := String.le_antisymm hurl hurl'
      cases a
      cases b
      simp_all

theorem pairwise_mergeSort_precedes (urls : List ScoredUrl) :
    (urls.mergeSort precedes).Pairwise fun a b => a.precedes b = true := by
  refine List.pairwise_mergeSort ?_ precedes_total urls
  intro a b c
  exact precedes_trans

/-- There is one way to sort some entries. -/
theorem mergeSort_precedes_eq_of_perm {urls urls' : List ScoredUrl} (h : urls.Perm urls') :
    urls.mergeSort precedes = urls'.mergeSort precedes :=
  ((List.mergeSort_perm urls _).trans (h.trans (List.mergeSort_perm urls' _).symm)).eq_of_pairwise
    (fun _ _ _ _ => precedes_antisymm) (pairwise_mergeSort_precedes urls)
    (pairwise_mergeSort_precedes urls')

section

variable {u : ScoredUrl} {urls : List ScoredUrl}

theorem mem_rank : u ∈ rank urls ↔ u.IsLast urls := by
  rw [rank, List.mem_mergeSort, mem_lastOfEach]

theorem nodup_rank (urls : List ScoredUrl) : ((rank urls).map (·.url)).Nodup :=
  ((List.mergeSort_perm _ _).map _).nodup_iff.2 (nodup_lastOfEach urls)

theorem pairwise_rank (urls : List ScoredUrl) :
    (rank urls).Pairwise fun a b => b.score < a.score ∨ a.score = b.score ∧ a.url < b.url := by
  have hne : (rank urls).Pairwise fun a b => a.url ≠ b.url := List.pairwise_map.1 (nodup_rank urls)
  refine ((pairwise_mergeSort_precedes _).and hne).imp fun {a b} hab => ?_
  obtain ⟨hab, hne⟩ := hab
  refine (precedes_iff.1 hab).imp_right fun ⟨hscore, hurl⟩ => ⟨hscore, ?_⟩
  exact Std.lt_of_le_of_ne hurl hne

end

end ScoredUrl

open ScoredUrl (IsLast)

/-! ## The URLs of files -/

namespace Url

variable {url : String} {score : Score} {f : SourceFile} {files : List SourceFile}

theorem mem_ofFile : (⟨url, score⟩ : ScoredUrl) ∈ ofFile f ↔
    isWeb url = true ∧ url ∈ literals f ∧ score = Url.score url (pathBonus f.pathLowercase) := by
  rw [ofFile, List.mem_map]
  constructor
  · rintro ⟨url', hurl, heq⟩
    cases heq
    exact ⟨(List.mem_filter.1 hurl).2, (List.mem_filter.1 hurl).1, rfl⟩
  · rintro ⟨hweb, hurl, rfl⟩
    exact ⟨url, List.mem_filter.2 ⟨hurl, hweb⟩, rfl⟩

theorem isLast_ofFile : IsLast ⟨url, score⟩ (ofFile f) ↔
    isWeb url = true ∧ url ∈ literals f ∧ score = Url.score url (pathBonus f.pathLowercase) := by
  rw [← mem_ofFile]
  constructor
  · exact IsLast.mem
  · intro h
    refine (ScoredUrl.isLast_iff_mem ?_).2 h
    rintro ⟨url', score'⟩ hv rfl
    rw [(mem_ofFile.1 hv).2.2, (mem_ofFile.1 h).2.2]

/-- The last file that a URL is in gives it its score. -/
theorem isLast_flatMap_ofFile : IsLast ⟨url, score⟩ (files.flatMap ofFile) ↔
    isWeb url = true ∧ ∃ before f after, files = before ++ f :: after ∧ url ∈ literals f ∧
      (∀ g ∈ after, url ∉ literals g) ∧ score = Url.score url (pathBonus f.pathLowercase) := by
  induction files using List.reverseRecOn with
  | nil => simp [ScoredUrl.not_isLast_nil]
  | append_singleton files f ih =>
    have hnone : isWeb url = true →
        ((∀ v ∈ ofFile f, v.url ≠ url) ↔ url ∉ literals f) := by
      intro hweb
      constructor
      · exact fun h hurl => h ⟨url, _⟩ (mem_ofFile.2 ⟨hweb, hurl, rfl⟩) rfl
      · rintro h ⟨url', score'⟩ hv rfl
        exact h (mem_ofFile.1 hv).2.1
    rw [List.flatMap_append, List.flatMap_singleton, ScoredUrl.isLast_append, isLast_ofFile, ih]
    constructor
    · rintro (⟨hweb, hurl, hscore⟩ | ⟨⟨hweb, before, g, after, rfl, hurl, hafter, hscore⟩, hlast⟩)
      · exact ⟨hweb, files, f, [], rfl, hurl, by simp, hscore⟩
      · refine ⟨hweb, before, g, after ++ [f], by simp, hurl, ?_, hscore⟩
        exact List.forall_mem_append.2 ⟨hafter, by simpa using (hnone hweb).1 hlast⟩
    · rintro ⟨hweb, before, g, after, hfiles, hurl, hafter, hscore⟩
      rcases List.eq_nil_or_concat' after with rfl | ⟨after, last, rfl⟩
      · obtain ⟨-, heq⟩ := List.append_inj' hfiles rfl
        cases heq
        exact .inl ⟨hweb, hurl, hscore⟩
      · rw [← List.cons_append, ← List.append_assoc] at hfiles
        obtain ⟨rfl, heq⟩ := List.append_inj' hfiles rfl
        cases heq
        obtain ⟨hafter, hlast⟩ := List.forall_mem_append.1 hafter
        exact .inr ⟨⟨hweb, before, g, after, rfl, hurl, hafter, hscore⟩,
          (hnone hweb).2 (hlast f (List.mem_singleton_self f))⟩

end Url

namespace Detector

/-- The ranking does not tell in which order the candidates are kept. -/
theorem ranked_eq_of_perm {d d' : Detector} (h : d.scores.Perm d'.scores) :
    d.ranked = d'.ranked := by
  unfold ranked
  dsimp only
  rw [ScoredUrl.mergeSort_precedes_eq_of_perm ((h.map _).filter _)]

end Detector

namespace Corpus

/-- The URLs of a corpus are those in its searched files, each once and with the score in the last
file that has it, the highest first and equal ones by their text. In whatever order a map of the
scores gives its entries, the ranking is the same, and so is that of the candidates of a search for
servers. The probable URLs are those above the threshold, in the same order. -/
theorem urls_rank_last_scores (c : Corpus) :
    (∀ url score, (⟨url, score⟩ : ScoredUrl) ∈ c.urls ↔
      Url.isWeb url = true ∧ ∃ before f after, c.urlFiles = before ++ f :: after ∧
        url ∈ Url.literals f ∧ (∀ g ∈ after, url ∉ Url.literals g) ∧
        score = Url.score url (Url.pathBonus f.pathLowercase)) ∧
    (c.urls.map (·.url)).Nodup ∧
    (c.urls.Pairwise fun a b => b.score < a.score ∨ a.score = b.score ∧ a.url < b.url) ∧
    (∀ entries : List (String × Score),
      entries.Perm (ScoredUrl.collect (c.urlFiles.flatMap Url.ofFile)).toList →
        (entries.map fun (url, score) => ScoredUrl.mk url score).mergeSort ScoredUrl.precedes =
          c.urls) ∧
    (c.probableUrls.Sublist c.urls ∧ ∀ u, u ∈ c.probableUrls ↔ u ∈ c.urls ∧ -10 < u.score) ∧
    (∀ (d : Detector) (entries : List (String × Score)), entries.Perm d.scores →
      { d with scores := entries }.ranked = d.ranked) ∧
    ∀ candidates choices, (Detector.ofCandidates candidates choices).scores.Perm
      (ScoredUrl.collect candidates).toList := by
  refine ⟨fun url score => ?_, ScoredUrl.nodup_rank _, ScoredUrl.pairwise_rank _,
    fun entries h => ?_, ⟨List.filter_sublist, fun u => ?_⟩, fun d entries h => ?_,
    fun candidates choices => ?_⟩
  · rw [urls, ScoredUrl.mem_rank, Url.isLast_flatMap_ofFile]
  · exact ScoredUrl.mergeSort_precedes_eq_of_perm (ScoredUrl.perm_lastOfEach h)
  · rw [probableUrls, List.mem_filter, decide_eq_true_iff]
    rfl
  · exact Detector.ranked_eq_of_perm h
  · have hperm := (ScoredUrl.perm_lastOfEach (.refl (ScoredUrl.collect candidates).toList)).map
      fun u => (u.url, u.score)
    rw [List.map_map] at hperm
    simpa [Detector.ofCandidates, Function.comp_def] using hperm.symm

end Corpus

end ApiRecovery
