import ApiRecovery.Retrofit.Endpoint
import ApiRecovery.Retrofit.Locate
import Mathlib.Data.List.Basic

/-!
# What searching the importing files finds

Endpoints are looked for in the files whose text has an import line of an annotation. Those that are
found are the endpoints of all files that lie in such a file, in their order. Nothing is lost
where every file with endpoints has such a line; a file that names the annotations in another way
need not have one.
-/

namespace ApiRecovery

theorem Text.contains_of_append {hay before needle after : String}
    (h : Text.contains hay (before ++ needle ++ after)) : Text.contains hay before := by
  obtain ⟨front, back, heq⟩ := Text.containsChars_iff.1 h
  refine Text.containsChars_iff.2 ⟨front, needle.toList ++ after.toList ++ back, ?_⟩
  simpa using heq

theorem AnnotationSet.mem_allNames {s : AnnotationSet} {name : String} :
    name ∈ s.allNames ↔ (s.kindOf? name).isSome := by
  rw [allNames, Text.mem_sortedDistinct, List.mem_flatMap, kindOf?, Option.isSome_map,
    List.find?_isSome]
  simp only [List.contains_iff_mem]

namespace Corpus

variable {c : Corpus} {annotations : AnnotationSet}

/-! ## Files by their text -/

theorem filesWhere_eq (c : Corpus) (p : SourceFile → Bool) :
    c.filesWhere p = (List.range c.size).filter fun id => (c.file? id).any p := by
  -- a pair of a file and its index can be told from the index alone
  have hindex : ∀ entry ∈ c.files.zipIdx, p entry.1 = (c.file? entry.2).any p := by
    intro (f, id) hmem
    rw [file?, List.mem_zipIdx_iff_getElem?.1 hmem, Option.any_some]
  rw [filesWhere, List.filter_congr hindex, size, List.range_eq_range', ← List.zipIdx_map_snd 0,
    List.filter_map]
  rfl

theorem mem_filesWhere {p : SourceFile → Bool} {id : Nat} :
    id ∈ c.filesWhere p ↔ ∃ f, c.file? id = some f ∧ p f := by
  rw [filesWhere_eq, List.mem_filter, Option.any_eq_true, and_iff_right_of_imp]
  rintro ⟨f, hf, -⟩
  exact List.mem_range.2 (List.getElem?_eq_some_iff.1 hf).1

theorem mem_apiFiles {id : Nat} :
    id ∈ c.apiFiles annotations ↔ ∃ f, c.file? id = some f ∧
      ∃ name, (annotations.kindOf? name).isSome ∧
        Text.contains f.text ("import " ++ name ++ ";") := by
  rw [apiFiles, filesImporting, filesContainingAny, mem_filesWhere]
  simp only [List.any_eq_true, List.mem_map, exists_exists_and_eq_and,
    AnnotationSet.mem_allNames]

theorem not_mem_apiFiles {id : Nat} {f : SourceFile} (hf : c.file? id = some f)
    (himport : Text.contains f.text "import " = false) : id ∉ c.apiFiles annotations := by
  intro hmem
  obtain ⟨f', hf', name, -, hline⟩ := mem_apiFiles.1 hmem
  obtain rfl : f = f' := Option.some.inj (hf.symm.trans hf')
  rw [Text.contains_of_append hline] at himport
  cases himport

/-! ## Endpoints by their file -/

theorem scope_of_endpoint {scope : Scope} {d : Java.Declaration} {m : Java.Method} {e : Endpoint}
    (h : c.endpoint? annotations scope d m = some e) : e.scope = scope := by
  simp only [endpoint?, Option.bind_eq_bind, Option.bind_eq_some_iff, Option.pure_def,
    Option.some.injEq] at h
  obtain ⟨_, _, _, _, rfl⟩ := h
  rfl

theorem file_of_mem_endpointsOfFile {e : Endpoint} {id : Nat}
    (h : e ∈ c.endpointsOfFile annotations id) : e.scope.file = id := by
  rw [endpointsOfFile] at h
  split at h
  · cases h
  · obtain ⟨⟨path, d⟩, -, h⟩ := List.mem_flatMap.1 h
    dsimp only at h
    split at h
    · obtain ⟨m, -, hm⟩ := List.mem_filterMap.1 h
      rw [scope_of_endpoint hm]
    · cases h

theorem endpoints_filter (c : Corpus) (annotations : AnnotationSet) (ids : List Nat)
    (p : Nat → Bool) :
    c.endpoints annotations (ids.filter p) =
      (c.endpoints annotations ids).filter fun e => p e.scope.file := by
  induction ids with
  | nil => rfl
  | cons id rest ih =>
    have hfile : ∀ e ∈ c.endpointsOfFile annotations id, p e.scope.file = p id :=
      fun e he => congrArg p (file_of_mem_endpointsOfFile he)
    cases h : p id with
    | true =>
      have hkept : (c.endpointsOfFile annotations id).filter (fun e => p e.scope.file) =
          c.endpointsOfFile annotations id :=
        List.filter_eq_self.2 fun e he => (hfile e he).trans h
      rw [List.filter_cons_of_pos h, endpoints, endpoints, List.flatMap_cons, List.flatMap_cons,
        List.filter_append, hkept]
      exact congrArg _ ih
    | false =>
      have hdropped : (c.endpointsOfFile annotations id).filter (fun e => p e.scope.file) = [] :=
        List.filter_eq_nil_iff.2 fun e he => by rw [hfile e he, h]; exact Bool.false_ne_true
      rw [List.filter_cons_of_neg (by rw [h]; exact Bool.false_ne_true), ih, endpoints, endpoints,
        List.flatMap_cons, List.filter_append, hdropped, List.nil_append]

theorem endpoints_apiFiles_eq (c : Corpus) (annotations : AnnotationSet) :
    c.endpoints annotations (c.apiFiles annotations) =
      (c.endpoints annotations (List.range c.size)).filter
        fun e => decide (e.scope.file ∈ c.apiFiles annotations) := by
  have hfiles : c.apiFiles annotations =
      (List.range c.size).filter fun id => decide (id ∈ c.apiFiles annotations) := by
    rw [apiFiles, filesImporting, filesContainingAny, filesWhere_eq]
    exact List.filter_congr fun id hid => by simp [hid]
  rw [hfiles, endpoints_filter, ← hfiles]

/-- A file with the import line of an annotation is searched, one without any import is not. What
is found are the endpoints of the files that are searched, which are all where each endpoint lies in
a file with such a line. -/
theorem endpoints_apiFiles (c : Corpus) (annotations : AnnotationSet) :
    (∀ id f, c.file? id = some f →
      (∀ name, (annotations.kindOf? name).isSome →
        Text.contains f.text ("import " ++ name ++ ";") → id ∈ c.apiFiles annotations) ∧
      (Text.contains f.text "import " = false → id ∉ c.apiFiles annotations)) ∧
    c.endpoints annotations (c.apiFiles annotations) =
      (c.endpoints annotations (List.range c.size)).filter
        (fun e => decide (e.scope.file ∈ c.apiFiles annotations)) ∧
    ((∀ e ∈ c.endpoints annotations (List.range c.size), ∃ f, c.file? e.scope.file = some f ∧
        ∃ name, (annotations.kindOf? name).isSome ∧
          Text.contains f.text ("import " ++ name ++ ";")) →
      c.endpoints annotations (c.apiFiles annotations) =
        c.endpoints annotations (List.range c.size)) := by
  refine ⟨fun id f hf => ⟨fun name hname hline => ?_, not_mem_apiFiles hf⟩,
    endpoints_apiFiles_eq c annotations, fun hall => ?_⟩
  · exact mem_apiFiles.2 ⟨f, hf, name, hname, hline⟩
  · rw [endpoints_apiFiles_eq]
    exact List.filter_eq_self.2 fun e he => decide_eq_true (mem_apiFiles.2 (hall e he))

/-- An annotation that is named in full needs no import, and the endpoint is not found. -/
theorem apiFiles_miss_full_name :
    let c : Corpus := .ofSources [
      ("retrofit2/http/GET.java",
        "package retrofit2.http; public @interface GET \x7b String value(); \x7d"),
      ("Api.java", "interface Api \x7b @retrofit2.http.GET(\"items\") Object items(); \x7d")]
    (c.endpoints .wellKnown (List.range c.size)).map (·.path) = ["/items"] ∧
      c.apiFiles .wellKnown = [] ∧ c.endpoints .wellKnown (c.apiFiles .wellKnown) = [] := by
  intro c
  have hnone : c.apiFiles .wellKnown = [] := by
    refine List.eq_nil_iff_forall_not_mem.2 fun id hmem => ?_
    obtain ⟨f, hf, -⟩ := mem_apiFiles.1 hmem
    have himports : ∀ f ∈ c.files, Text.contains f.text "import " = false := by decide +kernel
    exact not_mem_apiFiles hf (himports f (List.mem_of_getElem? hf)) hmem
  refine ⟨by decide +kernel, hnone, ?_⟩
  rw [hnone]
  rfl

end Corpus

end ApiRecovery
