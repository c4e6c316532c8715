import ApiRecovery.OpenApi.Form
import ApiRecovery.Proofs.OpenApi.References
import ApiRecovery.Proofs.Schema.Settled
import Mathlib.Data.String.Basic

/-!
# The order of the endpoints

The numbers that an endpoint's references get depend on the endpoints before it, and so does the
order in which components are made. Of a finished document neither is left but the numbers: the
operations and components are the same in whatever order the endpoints come, as long as no two of
them share a path and method.
-/

namespace ApiRecovery

namespace OpenApi

/-! ## Places of operations -/

namespace Operation

theorem mapSchemas_mapSchemas (f f' : Schema → Schema) (o : Operation) :
    (o.mapSchemas f).mapSchemas f' = o.mapSchemas fun schema => f' (f schema) := by
  simp [mapSchemas, Function.comp_def]

theorem mapSchemas_congr {f f' : Schema → Schema} {o : Operation}
    (h : ∀ schema ∈ o.schemas, f schema = f' schema) : o.mapSchemas f = o.mapSchemas f' := by
  simp only [schemas, List.mem_append, List.mem_map, Option.mem_toList, List.mem_singleton] at h
  have hparameters : (o.parameters.map fun p => { p with schema := f p.schema }) =
      o.parameters.map fun p => { p with schema := f' p.schema } := by
    refine List.map_congr_left fun p hp => ?_
    rw [h p.schema (.inl (.inl ⟨p, hp, rfl⟩))]
  have hbody : o.body.map f = o.body.map f' :=
    Option.map_congr fun schema hschema => h schema (.inl (.inr hschema))
  have hresponse : f o.response.schema = f' o.response.schema := h _ (.inr rfl)
  simp only [mapSchemas, hparameters, hbody, hresponse]

end Operation

namespace PathItem

theorem map_set (f : Operation → Operation) (p : PathItem) (method : HttpMethod) (o : Operation) :
    (p.set method o).map f = (p.map f).set method (f o) := by
  cases method <;> rfl

/-- Different methods have different places. -/
theorem set_comm {m m' : HttpMethod} (h : m ≠ m') (p : PathItem) (o o' : Operation) :
    (p.set m o).set m' o' = (p.set m' o').set m o := by
  cases m <;> cases m' <;> first | rfl | exact absurd rfl h

end PathItem

namespace Paths

variable {path path' : String} {f f' : PathItem → PathItem} {paths : Paths}

theorem update_cons_self (item : PathItem) (rest : Paths) :
    update path f ((path, item) :: rest) = (path, f item) :: rest := by
  rw [update, if_pos rfl]

theorem update_cons_of_lt {q : String} (h : path < q) (item : PathItem) (rest : Paths) :
    update path f ((q, item) :: rest) = (path, f {}) :: (q, item) :: rest := by
  rw [update, if_neg h.ne, if_pos h]

theorem update_cons_of_gt {q : String} (h : q < path) (item : PathItem) (rest : Paths) :
    update path f ((q, item) :: rest) = (q, item) :: update path f rest := by
  rw [update, if_neg h.ne', if_neg h.asymm]

theorem mapOperations_cons (h : Operation → Operation) (q : String) (item : PathItem)
    (rest : Paths) :
    mapOperations h ((q, item) :: rest) = (q, item.map h) :: mapOperations h rest :=
  rfl

theorem mapOperations_update_set (h : Operation → Operation) (method : HttpMethod) (o : Operation)
    (paths : Paths) :
    (paths.update path (·.set method o)).mapOperations h =
      (paths.mapOperations h).update path (·.set method (h o)) := by
  induction paths with
  | nil => exact congrArg (fun item => [(path, item)]) (PathItem.map_set h {} method o)
  | cons p rest ih =>
    obtain ⟨q, item⟩ := p
    rcases lt_trichotomy path q with hlt | rfl | hlt
    · rw [update_cons_of_lt hlt, mapOperations_cons, mapOperations_cons, update_cons_of_lt hlt,
        PathItem.map_set]
      rfl
    · rw [update_cons_self, mapOperations_cons, mapOperations_cons, update_cons_self,
        PathItem.map_set]
    · rw [update_cons_of_gt hlt, mapOperations_cons, mapOperations_cons, update_cons_of_gt hlt, ih]

theorem update_update_self (paths : Paths) :
    (paths.update path f).update path f' = paths.update path fun item => f' (f item) := by
  induction paths with
  | nil => exact update_cons_self _ _
  | cons p rest ih =>
    obtain ⟨q, item⟩ := p
    rcases lt_trichotomy path q with hlt | rfl | hlt
    · rw [update_cons_of_lt hlt, update_cons_of_lt hlt, update_cons_self]
    · rw [update_cons_self, update_cons_self, update_cons_self]
    · rw [update_cons_of_gt hlt, update_cons_of_gt hlt, update_cons_of_gt hlt, ih]

/-- Each of two paths is put in its place, whichever comes first. -/
theorem update_comm (h : path ≠ path') (paths : Paths) :
    (paths.update path f).update path' f' = (paths.update path' f').update path f := by
  wlog hlt : path < path' generalizing path path' f f'
  · exact (this h.symm (lt_of_le_of_ne (not_lt.1 hlt) h.symm)).symm
  induction paths with
  | nil =>
    have hnil : ∀ (q : String) (k : PathItem → PathItem), update q k [] = [(q, k {})] :=
      fun _ _ => rfl
    rw [hnil, hnil, update_cons_of_gt hlt, update_cons_of_lt hlt, hnil]
  | cons p rest ih =>
    obtain ⟨q, item⟩ := p
    -- the later path is before, at or behind the first one that is there
    rcases lt_trichotomy path' q with hq | rfl | hq
    · have hq' : path < q := hlt.trans hq
      rw [update_cons_of_lt hq', update_cons_of_gt hlt, update_cons_of_lt hq,
        update_cons_of_lt hlt]
    · rw [update_cons_of_lt hlt, update_cons_of_gt hlt, update_cons_self, update_cons_of_lt hlt]
    · rw [update_cons_of_gt hq]
      rcases lt_trichotomy path q with hp | rfl | hp
      · rw [update_cons_of_lt hp, update_cons_of_gt hlt, update_cons_of_gt hq,
          update_cons_of_lt hp]
      · rw [update_cons_self, update_cons_of_gt hlt, update_cons_self]
      · rw [update_cons_of_gt hp, update_cons_of_gt hq, update_cons_of_gt hp, ih]

/-- Operations of different paths or methods can be put in their places in any order. -/
theorem update_set_comm {m m' : HttpMethod} (h : (path, m) ≠ (path', m')) (o o' : Operation)
    (paths : Paths) :
    (paths.update path (·.set m o)).update path' (·.set m' o') =
      (paths.update path' (·.set m' o')).update path (·.set m o) := by
  by_cases hpath : path = path'
  · subst hpath
    have hmethod : m ≠ m' := fun e => h (by rw [e])
    rw [update_update_self, update_update_self]
    simp only [PathItem.set_comm hmethod]
  · exact update_comm hpath paths

end Paths

end OpenApi

/-! ## Endpoints on their own -/

namespace OpenApi.Draft

theorem parameters_extend (s : Sources) (scope : Scope) (ps : List EndpointParameter)
    (g h : Generator) :
    parameters s scope (g.extend h.references) ps =
      ((parameters s scope h ps).1.map fun p =>
          { p with schema := p.schema.renumber (g.references.length + ·) },
        g.extend (parameters s scope h ps).2.references) := by
  -- each parameter moves `h` on, so `h` is not fixed
  induction ps generalizing h with
  | nil => rfl
  | cons p rest ih =>
    simp only [parameters]
    cases p.source with
    | typed type =>
      dsimp only
      rw [Generator.resolve_extend]
      dsimp only
      rw [ih]
      rfl
    | fixedHeader value =>
      dsimp only
      rw [ih]
      rfl

theorem operation_extend (s : Sources) (g h : Generator) (e : Endpoint) :
    operation s (g.extend h.references) e =
      ((operation s h e).1.mapSchemas (·.renumber (g.references.length + ·)),
        g.extend (operation s h e).2.references) := by
  simp only [operation, parameters_extend]
  cases e.body with
  | none =>
    dsimp only
    rw [Generator.resolve_extend]
    rfl
  | some type =>
    dsimp only
    rw [Generator.resolve_extend]
    dsimp only
    rw [Generator.resolve_extend]
    rfl

def asked (s : Sources) (e : Endpoint) : List Reference :=
  (operation s {} e).2.references

theorem operation_eq (s : Sources) (g : Generator) (e : Endpoint) :
    operation s g e = ((operation s {} e).1.mapSchemas (·.renumber (g.references.length + ·)),
      g.extend (asked s e)) := by
  have h := operation_extend s g {} e
  rwa [Generator.extend_nil] at h

/-- The operation of an endpoint with all paths filled in, if every type has the name that it should
have; the numbers are forgotten. -/
def settledOperation (s : Sources) (e : Endpoint) : Operation :=
  (operation s {} e).1.mapSchemas fun schema =>
    (schema.patch (s.preferredPaths (asked s e))).withoutNumbers

variable {s : Sources} {rs : List Reference} {paths : List String}

theorem settled_operation (h : s.Settles rs paths) {g : Generator} {e : Endpoint}
    (hasked : asked s e <+: rs.drop g.references.length) :
    (operation s g e).1.mapSchemas (fun schema => (schema.patch paths).withoutNumbers) =
      settledOperation s e := by
  rw [operation_eq, Operation.mapSchemas_mapSchemas]
  refine Operation.mapSchemas_congr fun schema hschema => ?_
  exact h.patch_renumber hasked ((describes_operation s {} e).numbered schema hschema)

/-! ## Drafts -/

theorem generator_addAll (s : Sources) (endpoints : List Endpoint) (d : Draft) :
    (endpoints.foldl (fun d e => d.add s e) d).generator =
      d.generator.extend (endpoints.flatMap (asked s)) := by
  induction endpoints generalizing d with
  | nil => rw [List.foldl_nil, List.flatMap_nil, Generator.extend_nil]
  | cons e endpoints ih =>
    have hadd : (d.add s e).generator = d.generator.extend (asked s e) := by
      rw [add, operation_eq]
    rw [List.foldl_cons, ih, hadd, Generator.extend_extend, List.flatMap_cons]

theorem info_addAll (s : Sources) (endpoints : List Endpoint) (d : Draft) :
    (endpoints.foldl (fun d e => d.add s e) d).info = d.info := by
  induction endpoints generalizing d with
  | nil => rfl
  | cons e endpoints ih => exact ih (d.add s e)

def settledPaths (s : Sources) (endpoints : List Endpoint) (start : Paths) : Paths :=
  endpoints.foldl (fun paths e => paths.update e.path (·.set e.method (settledOperation s e))) start

theorem paths_addAll (h : s.Settles rs paths) (endpoints : List Endpoint) (d : Draft)
    (hrefs : (endpoints.foldl (fun d e => d.add s e) d).generator.references <+: rs) :
    let settle := fun o : Operation =>
      o.mapSchemas fun schema => (schema.patch paths).withoutNumbers
    (endpoints.foldl (fun d e => d.add s e) d).paths.mapOperations settle =
      settledPaths s endpoints (d.paths.mapOperations settle) := by
  intro settle
  induction endpoints generalizing d with
  | nil => rfl
  | cons e endpoints ih =>
    have hasked : asked s e <+: rs.drop d.generator.references.length := by
      rw [generator_addAll, List.flatMap_cons] at hrefs
      have hdrop := hrefs.drop d.generator.references.length
      rw [Generator.extend, List.drop_left] at hdrop
      exact (List.prefix_append _ _).trans hdrop
    have hadd : (d.add s e).paths.mapOperations settle =
        (d.paths.mapOperations settle).update e.path (·.set e.method (settledOperation s e)) := by
      rw [← settled_operation h hasked]
      exact Paths.mapOperations_update_set _ _ _ _
    rw [List.foldl_cons, ih (d.add s e) hrefs, hadd]
    rfl

theorem settledPaths_perm {endpoints endpoints' : List Endpoint}
    (hperm : endpoints.Perm endpoints')
    (hdistinct : (endpoints.map fun e => (e.path, e.method)).Nodup) (start : Paths) :
    settledPaths s endpoints start = settledPaths s endpoints' start := by
  refine hperm.foldl_eq' (fun e he e' he' paths => ?_) start
  by_cases heq : e = e'
  · rw [heq]
  · refine Paths.update_set_comm (fun hplace => heq ?_) _ _ _
    exact List.inj_on_of_nodup_map hdistinct he he' hplace

theorem closedFrom_addAll (s : Sources) (info : Info) (endpoints : List Endpoint) :
    let draft : Draft := endpoints.foldl (fun d e => d.add s e) { info }
    Generator.ClosedFrom s (endpoints.flatMap (asked s)) (draft.generator.close s) := by
  intro draft
  have hsound : draft.generator.Sound s := ((Sound.empty s info).addAll endpoints).generator
  have hgenerator : draft.generator = ({} : Generator).extend (endpoints.flatMap (asked s)) :=
    generator_addAll s endpoints { info }
  refine Generator.closedFrom_close hsound ?_ (by rw [hgenerator]; rfl)
  rw [hgenerator]
  exact (Generator.Rooted.empty s).append (fun _ hr => hr) fun _ hr => .inl hr

end OpenApi.Draft

/-! ## Documents without numbers -/

namespace OpenApi

/-- What is left of a document when the numbers of references are forgotten. -/
def Document.withoutNumbers (d : Document) : Document :=
  { d with
    paths := d.paths.mapOperations (·.mapSchemas Schema.withoutNumbers)
    components := d.components.map (·.map fun (name, s) => (name, s.withoutNumbers)) }

theorem contentForm_withoutNumbers (schema : Schema) :
    contentForm schema.withoutNumbers = contentForm schema := by
  rw [contentForm, Schema.form_withoutNumbers, contentForm]

theorem Operation.form_withoutNumbers (o : Operation) :
    (o.mapSchemas Schema.withoutNumbers).form = o.form := by
  have hparameter : ∀ p : Parameter,
      { p with schema := p.schema.withoutNumbers }.form = p.form := by
    intro p
    simp only [Parameter.form, Schema.form_withoutNumbers]
  have hparameters : (o.mapSchemas Schema.withoutNumbers).parameters.map (·.form) =
      o.parameters.map (·.form) := by
    simp only [mapSchemas, List.map_map, Function.comp_def, hparameter]
  have hempty : (o.mapSchemas Schema.withoutNumbers).parameters.isEmpty =
      o.parameters.isEmpty := List.isEmpty_map
  have hresponse : (o.mapSchemas Schema.withoutNumbers).response.form = o.response.form := by
    simp only [mapSchemas, Response.form, contentForm_withoutNumbers]
  rw [form, form, hparameters, hempty, hresponse]
  simp only [mapSchemas, Option.map_map, Function.comp_def, contentForm_withoutNumbers]

theorem PathItem.form_withoutNumbers (p : PathItem) :
    (p.map (·.mapSchemas Schema.withoutNumbers)).form = p.form := by
  simp only [form, operations, operation?_map, List.map_filterMap, Option.map_map,
    Function.comp_def, Operation.form_withoutNumbers]

/-- The text of a document does not tell the numbers. -/
theorem Document.render_withoutNumbers (d : Document) (format : Format) :
    d.withoutNumbers.render format = d.render format := by
  have hform : d.withoutNumbers.form = d.form := by
    simp only [form, withoutNumbers, Paths.mapOperations, List.map_map, Option.map_map,
      Function.comp_def, PathItem.form_withoutNumbers, Schema.form_withoutNumbers]
  cases format <;> simp only [render, hform]

/-! ## Finished documents -/

namespace Draft

theorem sorted_withoutNumbers_eq {s : Sources} {roots roots' : List Reference} {g g' : Generator}
    (h : Generator.ClosedFrom s roots g) (h' : Generator.ClosedFrom s roots' g')
    (hroots : ∀ r, r ∈ roots ↔ r ∈ roots') (hone : Generator.Unambiguous s g.references) :
    g.finish.registry.sorted.map (fun p => (p.1, p.2.withoutNumbers)) =
      g'.finish.registry.sorted.map fun p => (p.1, p.2.withoutNumbers) := by
  have hperm : ∀ g : Generator, (g.finish.registry.sorted.map fun p =>
      (p.1, p.2.withoutNumbers)).Perm g.settledSchemas :=
    fun g => (List.mergeSort_perm _ _).map _
  have hsorted : ∀ g : Generator, (g.finish.registry.sorted.map fun p =>
      (p.1, p.2.withoutNumbers)).Pairwise fun a b => a.1 ≤ b.1 := by
    intro g
    rw [List.pairwise_map, Registry.sorted]
    refine (List.pairwise_mergeSort ?_ ?_ _).imp fun hle => by simpa using hle
    · intro a b c hab hbc
      simpa using le_trans (by simpa using hab) (by simpa using hbc)
    · intro a b
      simpa using le_total a.1 b.1
  have hsame := (hperm g).trans ((h.settledSchemas_perm h' hroots hone).trans (hperm g').symm)
  refine hsame.eq_of_pairwise ?_ (hsorted g) (hsorted g')
  -- two components of one name are one
  intro a b ha hb hab hba
  have hnodup : (g.settledSchemas.map Prod.fst).Nodup :=
    g.settledSchemas_names ▸ h.sound.tidy.names_nodup
  have ha' := (hperm g).mem_iff.1 ha
  have hb' := (hperm g).mem_iff.1 (hsame.mem_iff.2 hb)
  exact List.inj_on_of_nodup_map hnodup ha' hb' (le_antisymm hab hba)

theorem size_finish (g : Generator) : g.finish.registry.size = g.settledSchemas.length := by
  simp [Generator.settledSchemas, Registry.size]

/-- Where every qualified name stands for one type and no two types should have one name, a finished
document has the settled operations of its endpoints. -/
theorem paths_finish {s : Sources} {info : Info} {endpoints : List Endpoint} :
    let draft : Draft := endpoints.foldl (fun d e => d.add s e) { info }
    Generator.Unambiguous s (draft.generator.close s).references →
      (draft.finish s).withoutNumbers.paths = settledPaths s endpoints [] := by
  intro draft hone
  have hclosed := closedFrom_addAll s info endpoints
  have hsettles := (hclosed.named hone).settles_finish hclosed.sound hclosed.closed
  have hprefix := draft.generator.references_prefix_close s
  have hpaths := paths_addAll hsettles endpoints { info } hprefix
  simp only [finish, Document.withoutNumbers, Paths.mapOperations_mapOperations,
    Operation.mapSchemas_mapSchemas]
  exact hpaths

theorem components_finish_eq {s : Sources} {info : Info} {endpoints endpoints' : List Endpoint}
    (hperm : endpoints.Perm endpoints') :
    let draft : Draft := endpoints.foldl (fun d e => d.add s e) { info }
    let draft' : Draft := endpoints'.foldl (fun d e => d.add s e) { info }
    Generator.Unambiguous s (draft.generator.close s).references →
      (draft.finish s).withoutNumbers.components = (draft'.finish s).withoutNumbers.components := by
  intro draft draft' hone
  have hclosed := closedFrom_addAll s info endpoints
  have hclosed' := closedFrom_addAll s info endpoints'
  have hroots : ∀ r, r ∈ endpoints.flatMap (asked s) ↔ r ∈ endpoints'.flatMap (asked s) :=
    fun r => (hperm.flatMap_right _).mem_iff
  have hsize := (hclosed.settledSchemas_perm hclosed' hroots hone).length_eq
  rw [← size_finish, ← size_finish] at hsize
  have hsorted := sorted_withoutNumbers_eq hclosed hclosed' hroots hone
  simp only [finish, Document.withoutNumbers]
  rw [hsize]
  split
  · rfl
  · exact congrArg some hsorted

/-- A finished document does not depend on the order of the endpoints, if no two of them share a
path and method, every qualified name stands for one type and no two types should have one name: it
is the same but for the numbers of references, and so is its text. -/
theorem finish_eq_of_perm (s : Sources) (info : Info) {endpoints endpoints' : List Endpoint}
    (hperm : endpoints.Perm endpoints')
    (hdistinct : (endpoints.map fun e => (e.path, e.method)).Nodup) :
    let draft : Draft := endpoints.foldl (fun d e => d.add s e) { info }
    let draft' : Draft := endpoints'.foldl (fun d e => d.add s e) { info }
    Generator.Unambiguous s (draft.generator.close s).references →
      (draft.finish s).withoutNumbers = (draft'.finish s).withoutNumbers ∧
        ∀ format, (draft.finish s).render format = (draft'.finish s).render format := by
  intro draft draft' hone
  have hclosed := closedFrom_addAll s info endpoints
  have hclosed' := closedFrom_addAll s info endpoints'
  have hone' := hclosed.unambiguous hclosed' (fun r => (hperm.flatMap_right _).mem_iff.2) hone
  have hpaths : (draft.finish s).withoutNumbers.paths = (draft'.finish s).withoutNumbers.paths := by
    rw [paths_finish hone, paths_finish hone', settledPaths_perm hperm hdistinct]
  have hinfo : (draft.finish s).withoutNumbers.info = (draft'.finish s).withoutNumbers.info :=
    (info_addAll s endpoints _).trans (info_addAll s endpoints' _).symm
  have hcomponents := components_finish_eq hperm hone
  have hsame : (draft.finish s).withoutNumbers = (draft'.finish s).withoutNumbers :=
    calc (draft.finish s).withoutNumbers
      _ = ⟨(draft.finish s).withoutNumbers.info, (draft.finish s).withoutNumbers.paths,
            (draft.finish s).withoutNumbers.components⟩ := rfl
      _ = (draft'.finish s).withoutNumbers := by rw [hinfo, hpaths, hcomponents]
  refine ⟨hsame, fun format => ?_⟩
  rw [← Document.render_withoutNumbers, hsame, Document.render_withoutNumbers]

theorem asked_of_reference {s : Sources} {e : Endpoint} {name : String} {target : Resolved}
    (hparameters : e.parameters = []) (hbody : e.body = none)
    (hplan : s.plan [] .empty e.scope e.response = .reference name target) :
    asked s e = [⟨name, e.scope, target⟩] := by
  simp only [asked, operation, hparameters, hbody, parameters, Generator.resolve,
    Sources.describe_of_reference hplan, List.nil_append]

/-- So it is for two endpoints of one path, whose responses are library types. -/
theorem library_responses_in_any_order :
    let s : Sources := { corpus := ⟨[]⟩, classification := {} }
    let file : Endpoint :=
      { path := "/files", method := .get, summary := "Api.file", interface := "Api"
        parameters := [], body := none, response := .named "java.io.File" [], scope := ⟨0, []⟩ }
    let stream : Endpoint :=
      { file with method := .post, response := .named "java.io.InputStream" [] }
    let draft : Draft := [file, stream].foldl (fun d e => d.add s e) { info := .standard }
    let draft' : Draft := [stream, file].foldl (fun d e => d.add s e) { info := .standard }
    ([file, stream].map fun e => (e.path, e.method)).Nodup ∧
      Generator.Unambiguous s (draft.generator.close s).references ∧
      (draft.finish s).withoutNumbers = (draft'.finish s).withoutNumbers ∧
      ∀ format, (draft.finish s).render format = (draft'.finish s).render format := by
  intro s file stream draft draft'
  have hfile : asked s file = [⟨"java.io.File", ⟨0, []⟩, .external "java.io.File"⟩] :=
    asked_of_reference rfl rfl rfl
  have hstream : asked s stream =
      [⟨"java.io.InputStream", ⟨0, []⟩, .external "java.io.InputStream"⟩] :=
    asked_of_reference rfl rfl rfl
  have hrefs : ∀ r ∈ (draft.generator.close s).references,
      r.target = .external "java.io.File" ∨ r.target = .external "java.io.InputStream" := by
    intro r hr
    have hreaches := (closedFrom_addAll s .standard [file, stream]).rooted.reaches hr
    rw [List.flatMap_cons, List.flatMap_singleton, hfile, hstream] at hreaches
    have hroot := hreaches.mem_of_needs_nil (by simp [Sources.needs, Sources.component])
    simp only [List.singleton_append, List.mem_cons, List.not_mem_nil, or_false] at hroot
    obtain rfl | rfl := hroot
    · exact .inl rfl
    · exact .inr rfl
  have hone : Generator.Unambiguous s (draft.generator.close s).references := by
    constructor
    · intro r hr r' hr' hname
      rcases hrefs r hr with h | h <;> rcases hrefs r' hr' with h' | h' <;> rw [h, h'] at hname ⊢
      all_goals exact absurd hname (by decide)
    · intro r hr r' hr' hname
      rcases hrefs r hr with h | h <;> rcases hrefs r' hr' with h' | h' <;> rw [h, h'] at hname ⊢
      all_goals exact absurd hname (by decide)
  have hdistinct : ([file, stream].map fun e => (e.path, e.method)).Nodup := by decide
  have hperm : [file, stream].Perm [stream, file] := List.Perm.swap stream file []
  exact ⟨hdistinct, hone, finish_eq_of_perm s .standard hperm hdistinct hone⟩

end Draft

end OpenApi

end ApiRecovery
