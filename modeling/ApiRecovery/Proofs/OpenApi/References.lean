import ApiRecovery.OpenApi.Draft
import ApiRecovery.Proofs.Schema.Paths

/-!
# References in finished documents

The schemas of a draft hold only numbers that its generator has given out. Finishing closes the
generator and patches every place of the document, so that each reference has the path of one of the
components in the document.
-/

namespace ApiRecovery

namespace Generator

variable {s : Sources} {g g' g'' : Generator}

theorem references_prefix_close (g : Generator) (s : Sources) :
    g.references <+: (g.close s).references := by
  refine close_invariant (motive := fun g' => g.references <+: g'.references) ?_
    (List.prefix_refl _)
  intro g' r h _
  rw [convert_references]
  exact h.trans (List.prefix_append _ _)

/-- From one generator to the next some schemas have been described: they hold only numbers that have
been given out by then. -/
structure Describes (s : Sources) (g g' : Generator) (schemas : List Schema) : Prop where
  sound : g.Sound s → g'.Sound s
  length_le : g.references.length ≤ g'.references.length
  numbered : ∀ schema ∈ schemas, schema.NumberedBelow g'.references.length

theorem Describes.of_references_eq_nil {schema : Schema} (h : schema.references = []) :
    Describes s g g [schema] where
  sound := id
  length_le := Nat.le_refl _
  numbered := by
    intro schema' hmem x hx
    rw [List.mem_singleton.1 hmem, h] at hx
    cases hx

theorem Describes.nil : Describes s g g [] :=
  ⟨id, Nat.le_refl _, fun _ h => by cases h⟩

theorem Describes.append {schemas schemas' : List Schema} (h : Describes s g g' schemas)
    (h' : Describes s g' g'' schemas') : Describes s g g'' (schemas ++ schemas') where
  sound := h'.sound ∘ h.sound
  length_le := Nat.le_trans h.length_le h'.length_le
  numbered := fun schema hmem => (List.mem_append.1 hmem).elim
    (fun hold => (h.numbered schema hold).mono h'.length_le) (h'.numbered schema)

theorem describes_resolve (s : Sources) (g : Generator) (env : Environment) (scope : Scope)
    (type : Java.TypeRef) :
    Describes s g (g.resolve s env scope type).2 [(g.resolve s env scope type).1] := by
  have hlength : (g.resolve s env scope type).2.references.length =
      g.references.length + (s.describe [] env scope g.references.length type).2.length :=
    List.length_append
  refine ⟨fun h => h.resolve env scope type, ?_, fun schema hmem => ?_⟩
  · rw [hlength]
    exact Nat.le_add_right _ _
  · rw [hlength, List.mem_singleton.1 hmem]
    exact Sources.numberedBelow_of_perm ((Sources.describe_references s).1 _ _ _ _ _)

end Generator

namespace OpenApi

/-! ## Places of references -/

inductive Document.HasReference (d : Document) (id : Nat) (target : Option String) : Prop
  | parameter {path : String} {item : PathItem} {method : HttpMethod} {o : Operation}
      {p : Parameter} : (path, item) ∈ d.paths → item.operation? method = some o →
      p ∈ o.parameters → p.schema.HasReference id target → HasReference d id target
  | body {path : String} {item : PathItem} {method : HttpMethod} {o : Operation}
      {schema : Schema} : (path, item) ∈ d.paths → item.operation? method = some o →
      o.body = some schema → schema.HasReference id target → HasReference d id target
  | response {path : String} {item : PathItem} {method : HttpMethod} {o : Operation} :
      (path, item) ∈ d.paths → item.operation? method = some o →
      o.response.schema.HasReference id target → HasReference d id target
  | component {components : List (String × Schema)} {name : String} {schema : Schema} :
      d.components = some components → (name, schema) ∈ components →
      schema.HasReference id target → HasReference d id target

def Paths.HasSchema (paths : Paths) (schema : Schema) : Prop :=
  ∃ path item method o, (path, item) ∈ paths ∧ PathItem.operation? item method = some o ∧
    schema ∈ o.schemas

theorem Document.HasReference.schema {d : Document} {id : Nat} {target : Option String}
    (h : d.HasReference id target) :
    (∃ schema, d.paths.HasSchema schema ∧ schema.HasReference id target) ∨
      ∃ components name schema, d.components = some components ∧ (name, schema) ∈ components ∧
        schema.HasReference id target := by
  cases h with
  | parameter hitem ho hp h =>
    refine .inl ⟨_, ⟨_, _, _, _, hitem, ho, ?_⟩, h⟩
    exact List.mem_append_left _ (List.mem_append_left _ (List.mem_map_of_mem hp))
  | body hitem ho hbody h =>
    refine .inl ⟨_, ⟨_, _, _, _, hitem, ho, ?_⟩, h⟩
    refine List.mem_append_left _ (List.mem_append_right _ ?_)
    rw [hbody]
    exact List.mem_singleton_self _
  | response hitem ho h =>
    refine .inl ⟨_, ⟨_, _, _, _, hitem, ho, ?_⟩, h⟩
    exact List.mem_append_right _ (List.mem_singleton_self _)
  | component hcomponents hmem h => exact .inr ⟨_, _, _, hcomponents, hmem, h⟩

theorem Paths.mem_update {path path' : String} {f : PathItem → PathItem} {paths : Paths}
    {item : PathItem} (h : (path', item) ∈ paths.update path f) :
    (path', item) ∈ paths ∨ ∃ old, (old = {} ∨ (path, old) ∈ paths) ∧ item = f old := by
  induction paths with
  | nil =>
    rw [update, List.mem_singleton, Prod.mk.injEq] at h
    exact .inr ⟨{}, .inl rfl, h.2⟩
  | cons p rest ih =>
    obtain ⟨q, there⟩ := p
    rw [update] at h
    split at h
    · rename_i heq
      rcases List.mem_cons.1 h with h | h
      · cases h
        exact .inr ⟨there, .inr (heq ▸ List.mem_cons_self), rfl⟩
      · exact .inl (List.mem_cons_of_mem _ h)
    · split at h
      · rcases List.mem_cons.1 h with h | h
        · cases h
          exact .inr ⟨{}, .inl rfl, rfl⟩
        · exact .inl h
      · rcases List.mem_cons.1 h with h | h
        · exact .inl (h ▸ List.mem_cons_self)
        · obtain h | ⟨old, hold, heq⟩ := ih h
          · exact .inl (List.mem_cons_of_mem _ h)
          · exact .inr ⟨old, hold.imp_right (List.mem_cons_of_mem _), heq⟩

theorem Paths.hasSchema_update_set {paths : Paths} {path : String} {method : HttpMethod}
    {o : Operation} {schema : Schema}
    (h : (paths.update path (·.set method o)).HasSchema schema) :
    paths.HasSchema schema ∨ schema ∈ o.schemas := by
  obtain ⟨path', item, m, o', hitem, ho, hschema⟩ := h
  obtain hold | ⟨old, hold, rfl⟩ := mem_update hitem
  · exact .inl ⟨path', item, m, o', hold, ho, hschema⟩
  · rw [PathItem.operation?_set] at ho
    split at ho
    · cases ho
      exact .inr hschema
    · obtain rfl | hold := hold
      · cases m <;> cases ho
      · exact .inl ⟨path, old, m, o', hold, ho, hschema⟩

theorem Paths.hasSchema_mapOperations {paths : Paths} {f : Schema → Schema} {schema : Schema}
    (h : (paths.mapOperations (·.mapSchemas f)).HasSchema schema) :
    ∃ schema', paths.HasSchema schema' ∧ schema = f schema' := by
  obtain ⟨path, item, m, o, hitem, ho, hschema⟩ := h
  obtain ⟨⟨path', item'⟩, hitem', heq⟩ := List.mem_map.1 hitem
  cases heq
  rw [PathItem.operation?_map, Option.map_eq_some_iff] at ho
  obtain ⟨o', ho', rfl⟩ := ho
  rw [Operation.schemas_mapSchemas, List.mem_map] at hschema
  obtain ⟨schema', hschema', rfl⟩ := hschema
  exact ⟨schema', ⟨path, item', m, o', hitem', ho', hschema'⟩, rfl⟩

/-! ## Drafts -/

namespace Draft

theorem describes_parameters (s : Sources) (scope : Scope) (ps : List EndpointParameter)
    (g : Generator) :
    Generator.Describes s g (parameters s scope g ps).2
      ((parameters s scope g ps).1.map (·.schema)) := by
  induction ps generalizing g with
  | nil => exact .nil
  | cons p rest ih =>
    rw [parameters]
    cases p.source with
    | typed type => exact (g.describes_resolve s .empty scope type).append (ih _)
    | fixedHeader value =>
      have hvalue : (Schema.stringExample value).references = [] := rfl
      exact (Generator.Describes.of_references_eq_nil hvalue).append (ih g)

theorem describes_operation (s : Sources) (g : Generator) (e : Endpoint) :
    Generator.Describes s g (operation s g e).2 (operation s g e).1.schemas := by
  have hparameters := describes_parameters s e.scope e.parameters g
  rw [operation, Operation.schemas]
  cases e.body with
  | none =>
    exact (hparameters.append .nil).append (Generator.describes_resolve s _ .empty e.scope _)
  | some type =>
    exact (hparameters.append (Generator.describes_resolve s _ .empty e.scope type)).append
      (Generator.describes_resolve s _ .empty e.scope _)

/-- The schemas of a draft hold only numbers that its generator has given out. -/
structure Sound (s : Sources) (d : Draft) : Prop where
  generator : d.generator.Sound s
  numbered : ∀ schema, d.paths.HasSchema schema →
    schema.NumberedBelow d.generator.references.length

theorem Sound.empty (s : Sources) (info : Info) : Sound s { info } where
  generator := .empty s
  numbered := by
    rintro schema ⟨path, item, method, o, hitem, -⟩
    cases hitem

theorem Sound.add {s : Sources} {d : Draft} (h : d.Sound s) (e : Endpoint) :
    (d.add s e).Sound s := by
  have hdescribes := describes_operation s d.generator e
  refine ⟨hdescribes.sound h.generator, fun schema hschema => ?_⟩
  obtain hold | hnew := Paths.hasSchema_update_set hschema
  · exact (h.numbered schema hold).mono hdescribes.length_le
  · exact hdescribes.numbered schema hnew

theorem Sound.addAll {s : Sources} {d : Draft} (h : d.Sound s) (endpoints : List Endpoint) :
    (endpoints.foldl (fun d e => d.add s e) d).Sound s := by
  induction endpoints generalizing d with
  | nil => exact h
  | cons e endpoints ih => exact ih (h.add e)

/-! ## Finished documents -/

theorem mem_components_finish {s : Sources} {d : Draft} {components : List (String × Schema)}
    {name : String} {schema : Schema} (h : (d.finish s).components = some components) :
    (name, schema) ∈ components ↔
      ∃ schema', (name, schema') ∈ (d.generator.close s).registry.schemas ∧
        schema = schema'.patch (d.generator.close s).finish.paths := by
  simp only [finish] at h
  split at h
  · cases h
  · cases h
    rw [Registry.sorted, List.mem_mergeSort]
    simp only [Generator.finish, Registry.patch, List.mem_map, Prod.mk.injEq, Prod.exists]
    grind

theorem exists_components_finish {s : Sources} {d : Draft} {name : String}
    (h : name ∈ (d.generator.close s).registry.names) :
    ∃ components schema, (d.finish s).components = some components ∧ (name, schema) ∈ components := by
  obtain ⟨⟨name, schema⟩, hschema, rfl⟩ := List.mem_map.1 h
  have hsize : (d.generator.close s).finish.registry.size ≠ 0 := by
    simp only [Generator.finish, Registry.patch, Registry.size, List.length_map]
    exact Nat.ne_of_gt (List.length_pos_of_mem hschema)
  have hcomponents : (d.finish s).components =
      some (d.generator.close s).finish.registry.sorted := by
    simp only [finish]
    rw [if_neg hsize]
  exact ⟨_, _, hcomponents, (mem_components_finish hcomponents).2 ⟨schema, hschema, rfl⟩⟩

/-- Each reference in a finished document comes from a number that the generator has given out. -/
theorem Sound.hasReference_finish {s : Sources} {d : Draft} (h : d.Sound s) {id : Nat}
    {target : Option String} (href : (d.finish s).HasReference id target) :
    target = some (Schema.pathOf (d.generator.close s).finish.paths id) ∧
      id < (d.generator.close s).references.length := by
  -- operations and components are patched alike, with the paths of the closed generator
  have patched : ∀ schema : Schema,
      schema.NumberedBelow (d.generator.close s).references.length →
      (schema.patch (d.generator.close s).finish.paths).HasReference id target →
      target = some (Schema.pathOf (d.generator.close s).finish.paths id) ∧
        id < (d.generator.close s).references.length := by
    intro schema hnumbered hschema
    obtain ⟨htarget, t, ht⟩ := Schema.hasReference_patch hschema
    exact ⟨htarget, hnumbered _ ht⟩
  obtain ⟨schema, hschema, href⟩ | ⟨components, name, schema, hcomponents, hmem, href⟩ :=
    href.schema
  · obtain ⟨schema, hold, rfl⟩ := Paths.hasSchema_mapOperations hschema
    have hle := (d.generator.references_prefix_close s).length_le
    exact patched schema ((h.numbered schema hold).mono hle) href
  · obtain ⟨schema, hschema, rfl⟩ := (mem_components_finish hcomponents).1 hmem
    exact patched schema (h.generator.close.bounded _ hschema) href

/-- Whatever endpoints are added to a draft, each reference in the finished document, wherever it
sits, has the path of a component of the document: the one that has been registered for the type
which the reference was given out for. -/
theorem finished_references_have_components (s : Sources) (info : Info)
    (endpoints : List Endpoint) :
    let draft : Draft := endpoints.foldl (fun d e => d.add s e) { info }
    let document := draft.finish s
    let closed := draft.generator.close s
    ∀ id target, document.HasReference id target →
      ∃ components name schema r, document.components = some components ∧
        (name, schema) ∈ components ∧ target = some (Schema.componentPath name) ∧
        closed.references[id]? = some r ∧
        closed.registry.path? r.target.qualifiedName = some (Schema.componentPath name) := by
  intro draft document closed id target href
  have hsound : draft.Sound s := (Sound.empty s info).addAll endpoints
  obtain ⟨htarget, hid⟩ := hsound.hasReference_finish href
  obtain ⟨r, hr⟩ : ∃ r, closed.references[id]? = some r := ⟨_, List.getElem?_eq_getElem hid⟩
  obtain ⟨name, hname, hpath, hregistered⟩ :=
    hsound.generator.close.pathOf_finish (Generator.pending_close _ s) hr
  obtain ⟨components, schema, hcomponents, hmem⟩ := exists_components_finish hname
  exact ⟨components, name, schema, r, hcomponents, hmem, by rw [htarget, hpath], hr, hregistered⟩

/-- So it is where no source is given and the response is a library type. -/
theorem library_response_has_component :
    let s : Sources := { corpus := ⟨[]⟩, classification := {} }
    let e : Endpoint :=
      { path := "/files", method := .get, summary := "Api.files", interface := "Api"
        parameters := [], body := none, response := .named "java.io.File" [], scope := ⟨0, []⟩ }
    let draft : Draft := [e].foldl (fun d e => d.add s e) { info := .standard }
    let document := draft.finish s
    let closed := draft.generator.close s
    ∃ target, document.HasReference 0 target ∧
      ∃ components name schema r, document.components = some components ∧
        (name, schema) ∈ components ∧ target = some (Schema.componentPath name) ∧
        closed.references[0]? = some r ∧
        closed.registry.path? r.target.qualifiedName = some (Schema.componentPath name) := by
  intro s e draft document closed
  have hplan : s.plan [] .empty ⟨0, []⟩ (.named "java.io.File" []) =
      .reference "java.io.File" (.external "java.io.File") := rfl
  have hschema : (s.describe [] .empty ⟨0, []⟩ 0 (.named "java.io.File" [])).1 =
      .reference 0 none := by
    rw [Sources.describe_of_reference hplan]
  have href : document.HasReference 0 (some (Schema.pathOf closed.finish.paths 0)) := by
    refine .response (List.mem_singleton.2 rfl) (show PathItem.operation? _ .get = _ from rfl) ?_
    change (Schema.patch _ (s.describe [] .empty ⟨0, []⟩ 0 (.named "java.io.File" [])).1).HasReference
      0 _
    rw [hschema]
    exact .here
  exact ⟨_, href, finished_references_have_components s .standard [e] 0 _ href⟩

end Draft

end OpenApi

end ApiRecovery
