import ApiRecovery.Proofs.OpenApi.Order
import Mathlib.Data.List.Dedup

/-!
# Operations by path and method

A draft has one place for each path and method. Adding an endpoint fills its place, whatever was
there, and leaves the other places as they are; so in the end each place holds the operation of the
last endpoint that belongs there. Finishing changes nothing in the places but the targets of
references.
-/

namespace ApiRecovery

/-- `schema` describes a type that is written in `scope`, with numbers from somewhere on. -/
def Sources.IsSchemaOf (s : Sources) (scope : Scope) (type : Java.TypeRef) (schema : Schema) :
    Prop :=
  ∃ next, schema = (s.describe [] .empty scope next type).1

namespace OpenApi

/-! ## Places -/

namespace Paths

def operation? (paths : Paths) (path : String) (method : HttpMethod) : Option Operation :=
  (paths.lookup path).bind (·.operation? method)

def Sorted (paths : Paths) : Prop :=
  (paths.map Prod.fst).Pairwise (· < ·)

variable {path q : String} {method : HttpMethod} {f : PathItem → PathItem} {paths : Paths}
  {item : PathItem} {o : Operation}

theorem mem_map_fst_update :
    q ∈ (paths.update path f).map Prod.fst ↔ q = path ∨ q ∈ paths.map Prod.fst := by
  induction paths with
  | nil => simp [update]
  | cons p rest ih =>
    obtain ⟨r, there⟩ := p
    rcases lt_trichotomy path r with hlt | rfl | hlt
    · simp [update_cons_of_lt hlt]
    · simp [update_cons_self]
    · rw [update_cons_of_gt hlt, List.map_cons, List.mem_cons, ih, List.map_cons, List.mem_cons,
        or_left_comm]

theorem sorted_nil : Sorted [] :=
  List.Pairwise.nil

theorem Sorted.update (h : paths.Sorted) : (paths.update path f).Sorted := by
  induction paths with
  | nil => exact List.pairwise_singleton _ _
  | cons p rest ih =>
    obtain ⟨r, there⟩ := p
    obtain ⟨hbelow, hrest⟩ := List.pairwise_cons.1 h
    rcases lt_trichotomy path r with hlt | rfl | hlt
    · rw [update_cons_of_lt hlt]
      refine List.pairwise_cons.2 ⟨fun q hq => ?_, h⟩
      rcases List.mem_cons.1 hq with rfl | hq
      · exact hlt
      · exact hlt.trans (hbelow q hq)
    · rw [update_cons_self]
      exact h
    · rw [update_cons_of_gt hlt]
      refine List.pairwise_cons.2 ⟨fun q hq => ?_, ih hrest⟩
      rcases mem_map_fst_update.1 hq with rfl | hq
      · exact hlt
      · exact hbelow q hq

theorem lookup_cons_eq_ite (r : String) (there : PathItem) (rest : Paths) :
    List.lookup q ((r, there) :: rest) = if q = r then some there else rest.lookup q := by
  rw [List.lookup_cons]
  by_cases hq : q = r
  · rw [if_pos hq, beq_iff_eq.2 hq]
  · rw [if_neg hq, beq_eq_false_iff_ne.2 hq]

theorem lookup_eq_none (h : ∀ q ∈ paths.map Prod.fst, path < q) : paths.lookup path = none := by
  refine List.lookup_eq_none_iff.2 fun p hp => ?_
  simpa using (h p.1 (List.mem_map_of_mem hp)).ne

/-- An update changes the item of its path only. -/
theorem Sorted.lookup_update (h : paths.Sorted) :
    (paths.update path f).lookup q =
      if q = path then some (f ((paths.lookup path).getD {})) else paths.lookup q := by
  induction paths with
  | nil =>
    rw [Paths.update, lookup_cons_eq_ite]
    rfl
  | cons p rest ih =>
    obtain ⟨r, there⟩ := p
    obtain ⟨hbelow, hrest⟩ := List.pairwise_cons.1 h
    rcases lt_trichotomy path r with hlt | rfl | hlt
    · -- the path is not there: all that follow are greater
      have hnone : List.lookup path ((r, there) :: rest) = none := by
        refine lookup_eq_none fun q hq => ?_
        rcases List.mem_cons.1 hq with rfl | hq
        · exact hlt
        · exact hlt.trans (hbelow q hq)
      rw [update_cons_of_lt hlt, hnone, lookup_cons_eq_ite]
      rfl
    · rw [update_cons_self, lookup_cons_eq_ite, lookup_cons_eq_ite, lookup_cons_eq_ite, if_pos rfl]
      by_cases hq : q = path <;> simp only [hq, if_true, if_false, Option.getD_some]
    · rw [update_cons_of_gt hlt, lookup_cons_eq_ite, lookup_cons_eq_ite, lookup_cons_eq_ite,
        ih hrest, if_neg hlt.ne']
      by_cases hq : q = r
      · rw [if_pos hq, if_pos hq, if_neg (hq ▸ hlt.ne)]
      · rw [if_neg hq, if_neg hq]

/-- Filling a place leaves the others as they are. -/
theorem Sorted.operation?_update_set (h : paths.Sorted) (m : HttpMethod) :
    (paths.update path (·.set method o)).operation? q m =
      if (q, m) = (path, method) then some o else paths.operation? q m := by
  have hempty : PathItem.operation? {} m = none := by cases m <;> rfl
  rw [operation?, h.lookup_update, operation?]
  by_cases hq : q = path
  · subst hq
    rw [if_pos rfl, Option.bind_some, PathItem.operation?_set]
    cases hitem : paths.lookup q with
    | none => simp [hempty]
    | some item => simp
  · rw [if_neg hq, if_neg fun heq => hq (Prod.mk.inj heq).1]

theorem mem_of_lookup (h : paths.lookup path = some item) : (path, item) ∈ paths := by
  obtain ⟨front, back, rfl, -⟩ := List.lookup_eq_some_iff.1 h
  simp

theorem Sorted.lookup_of_mem (h : paths.Sorted) (hmem : (path, item) ∈ paths) :
    paths.lookup path = some item := by
  induction paths with
  | nil => cases hmem
  | cons p rest ih =>
    obtain ⟨hbelow, hrest⟩ := List.pairwise_cons.1 h
    rcases List.mem_cons.1 hmem with rfl | hmem
    · exact List.lookup_cons_self
    · have hne : (path == p.1) = false := by
        simpa using (hbelow path (List.mem_map.2 ⟨_, hmem, rfl⟩)).ne'
      rw [List.lookup_cons, hne]
      exact ih hrest hmem

/-- The list of operations shows what is in the places. -/
theorem Sorted.mem_operations (h : paths.Sorted) :
    (path, method, o) ∈ paths.operations ↔ paths.operation? path method = some o := by
  have hmem : (path, method, o) ∈ paths.operations ↔
      ∃ item, (path, item) ∈ paths ∧ item.operation? method = some o := by
    simp only [operations, PathItem.operations, List.mem_flatMap, List.mem_map, List.mem_filterMap,
      Option.map_eq_some_iff, Prod.exists, Prod.mk.injEq]
    grind [HttpMethod.mem_all]
  rw [hmem, operation?, Option.bind_eq_some_iff]
  exact exists_congr fun item => and_congr_left fun _ => ⟨h.lookup_of_mem, mem_of_lookup⟩

/-- No place is listed twice. -/
theorem Sorted.nodup_operations (h : paths.Sorted) :
    (paths.operations.map fun (q, m, _) => (q, m)).Nodup := by
  have hitem : ∀ item : PathItem, (item.operations.map Prod.fst).Nodup := by
    intro item
    have hall : HttpMethod.all.Nodup := by decide
    refine List.Nodup.sublist ?_ hall
    rw [PathItem.operations]
    induction HttpMethod.all with
    | nil => exact .slnil
    | cons m ms ih =>
      cases hm : item.operation? m with
      | none => simpa [hm] using ih.cons m
      | some o => simpa [hm] using ih.cons_cons m
  induction paths with
  | nil => exact List.nodup_nil
  | cons p rest ih =>
    obtain ⟨r, there⟩ := p
    obtain ⟨hbelow, hrest⟩ := List.pairwise_cons.1 h
    have hhead : (operations ((r, there) :: rest)).map (fun (q, m, _) => (q, m)) =
        (there.operations.map Prod.fst).map (Prod.mk r) ++
          (operations rest).map fun (q, m, _) => (q, m) := by
      rw [operations, List.flatMap_cons, List.map_append, List.map_map, List.map_map]
      rfl
    rw [hhead]
    refine List.Nodup.append ((hitem there).map (Prod.mk_right_injective r)) (ih hrest) ?_
    -- the paths of the rest are greater
    intro place hplace hplace'
    obtain ⟨m, -, rfl⟩ := List.mem_map.1 hplace
    obtain ⟨⟨q, m', o⟩, ho, heq⟩ := List.mem_map.1 hplace'
    obtain ⟨rfl, rfl⟩ := Prod.mk.inj heq
    obtain ⟨⟨q', item⟩, hmem, hin⟩ := List.mem_flatMap.1 ho
    obtain ⟨⟨m'', o'⟩, -, heq⟩ := List.mem_map.1 hin
    cases heq
    exact lt_irrefl _ (hbelow _ (List.mem_map.2 ⟨_, hmem, rfl⟩))

end Paths

/-! ## Operations of endpoints -/

/-- `o` is a parameter of an operation as an endpoint asks for it. -/
structure Parameter.IsOf (s : Sources) (scope : Scope) (o : Parameter) (p : EndpointParameter) :
    Prop where
  name : o.name = p.name
  location : o.location = p.location.name
  required : o.required = p.required
  description : o.description = some p.description
  schema : match p.source with
    | .typed type => s.IsSchemaOf scope type o.schema
    | .fixedHeader value => o.schema = .stringExample value

/-- `o` is an operation as an endpoint declares it. -/
structure Operation.IsOf (s : Sources) (o : Operation) (e : Endpoint) : Prop where
  summary : o.summary = some e.summary
  interface : o.interface = e.interface
  parameters : List.Forall₂ (Parameter.IsOf s e.scope) o.parameters e.parameters
  body : Option.Rel (fun schema type => s.IsSchemaOf e.scope type schema) o.body e.body
  description : o.response.description =
    "Response body type was declared as `" ++ e.response.render ++ "`"
  response : s.IsSchemaOf e.scope e.response o.response.schema
  servers : o.servers = none

def place (e : Endpoint) : String × HttpMethod :=
  (e.path, e.method)

namespace Draft

variable {s : Sources} {endpoints : List Endpoint} {d : Draft}

theorem parameters_isOf (s : Sources) (scope : Scope) (ps : List EndpointParameter)
    (g : Generator) :
    List.Forall₂ (Parameter.IsOf s scope) (parameters s scope g ps).1 ps := by
  induction ps generalizing g with
  | nil => exact .nil
  | cons p rest ih =>
    rw [parameters]
    cases hsource : p.source with
    | typed type =>
      refine .cons ⟨rfl, rfl, rfl, rfl, ?_⟩ (ih _)
      rw [hsource]
      exact ⟨_, rfl⟩
    | fixedHeader value =>
      refine .cons ⟨rfl, rfl, rfl, rfl, ?_⟩ (ih _)
      rw [hsource]

theorem operation_isOf (s : Sources) (g : Generator) (e : Endpoint) :
    (operation s g e).1.IsOf s e := by
  have hparameters := parameters_isOf s e.scope e.parameters g
  refine ⟨rfl, rfl, hparameters, ?_, rfl, ⟨_, rfl⟩, rfl⟩
  rw [operation]
  cases e.body with
  | none => exact .none
  | some type => exact .some ⟨_, rfl⟩

/-! ## Drafts -/

def addAll (d : Draft) (s : Sources) (endpoints : List Endpoint) : Draft :=
  endpoints.foldl (fun d e => d.add s e) d

theorem addAll_concat (d : Draft) (e : Endpoint) :
    d.addAll s (endpoints ++ [e]) = (d.addAll s endpoints).add s e :=
  List.foldl_concat ..

theorem sorted_addAll (h : d.paths.Sorted) (endpoints : List Endpoint) :
    (d.addAll s endpoints).paths.Sorted := by
  induction endpoints generalizing d with
  | nil => exact h
  | cons e endpoints ih => exact ih (d := d.add s e) h.update

theorem mem_paths_addAll {path : String} :
    path ∈ (d.addAll s endpoints).paths.map Prod.fst ↔
      path ∈ d.paths.map Prod.fst ∨ path ∈ endpoints.map (·.path) := by
  induction endpoints using List.reverseRecOn with
  | nil => simp [addAll]
  | append_singleton endpoints e ih =>
    rw [addAll_concat, add, Paths.mem_map_fst_update, ih, List.map_append, List.mem_append,
      List.map_singleton, List.mem_singleton, or_comm, or_assoc]

/-- Adding an endpoint fills its own place only. -/
theorem operation?_add (h : d.paths.Sorted) (e : Endpoint) (path : String) (method : HttpMethod) :
    (d.add s e).paths.operation? path method =
      if (path, method) = place e then some (operation s d.generator e).1
      else d.paths.operation? path method :=
  h.operation?_update_set method

/-- What is in a place has been made of the last endpoint that belongs there, at its turn. -/
def IsLast (s : Sources) (d : Draft) (endpoints : List Endpoint) (p : String × HttpMethod)
    (o : Operation) : Prop :=
  ∃ before e after, endpoints = before ++ e :: after ∧ place e = p ∧
    (∀ e' ∈ after, place e' ≠ p) ∧ o = (operation s (d.addAll s before).generator e).1

theorem concat_eq_append_cons {α : Type} {l before after : List α} {x y : α} :
    l ++ [x] = before ++ y :: after ↔
      (after = [] ∧ before = l ∧ y = x) ∨
        ∃ rest, after = rest ++ [x] ∧ l = before ++ y :: rest := by
  constructor
  · intro h
    rcases List.eq_nil_or_concat' after with rfl | ⟨rest, z, rfl⟩
    · obtain ⟨rfl, heq⟩ := List.append_inj' h rfl
      exact .inl ⟨rfl, rfl, (List.cons.inj heq).1.symm⟩
    · rw [← List.cons_append, ← List.append_assoc] at h
      obtain ⟨rfl, heq⟩ := List.append_inj' h rfl
      exact .inr ⟨rest, by rw [(List.cons.inj heq).1], rfl⟩
  · rintro (⟨rfl, rfl, rfl⟩ | ⟨rest, rfl, rfl⟩)
    · rfl
    · simp

theorem isLast_concat {p : String × HttpMethod} {e : Endpoint} {o : Operation} :
    IsLast s d (endpoints ++ [e]) p o ↔
      if p = place e then o = (operation s (d.addAll s endpoints).generator e).1
      else IsLast s d endpoints p o := by
  simp only [IsLast, concat_eq_append_cons]
  split
  · rename_i hp
    constructor
    · rintro ⟨before, e', after, ⟨rfl, rfl, rfl⟩ | ⟨rest, rfl, rfl⟩, -, hafter, rfl⟩
      · rfl
      · exact absurd hp.symm (hafter e (by simp))
    · rintro rfl
      exact ⟨endpoints, e, [], .inl ⟨rfl, rfl, rfl⟩, hp.symm, by simp, rfl⟩
  · rename_i hp
    constructor
    · rintro ⟨before, e', after, ⟨rfl, rfl, rfl⟩ | ⟨rest, rfl, rfl⟩, hplace, hafter, rfl⟩
      · exact absurd hplace.symm hp
      · exact ⟨before, e', rest, rfl, hplace, fun x hx => hafter x (by simp [hx]), rfl⟩
    · rintro ⟨before, e', after, rfl, hplace, hafter, rfl⟩
      refine ⟨before, e', after ++ [e], .inr ⟨after, rfl, rfl⟩, hplace, fun x hx => ?_, rfl⟩
      rcases List.mem_append.1 hx with hx | hx
      · exact hafter x hx
      · exact List.mem_singleton.1 hx ▸ Ne.symm hp

theorem operation?_addAll (h : d.paths = []) (path : String) (method : HttpMethod)
    (o : Operation) :
    (d.addAll s endpoints).paths.operation? path method = some o ↔
      IsLast s d endpoints (path, method) o := by
  induction endpoints using List.reverseRecOn with
  | nil =>
    rw [addAll, List.foldl_nil, h]
    constructor
    · intro hnone
      cases hnone
    · rintro ⟨before, e, after, heq, -⟩
      exact absurd heq (by simp)
  | append_singleton endpoints e ih =>
    rw [addAll_concat, operation?_add (sorted_addAll (h ▸ Paths.sorted_nil) endpoints),
      isLast_concat]
    split
    · rw [Option.some.injEq, eq_comm]
    · exact ih

theorem exists_isLast_iff {p : String × HttpMethod} :
    (∃ o, IsLast s d endpoints p o) ↔ p ∈ endpoints.map place := by
  induction endpoints using List.reverseRecOn with
  | nil => simp [IsLast]
  | append_singleton endpoints e ih =>
    rw [List.map_append, List.mem_append, List.map_singleton, List.mem_singleton, ← ih]
    simp only [isLast_concat]
    by_cases hp : p = place e <;> simp [hp]

/-- There are as many operations as places that have been filled. -/
theorem operationCount_addAll (h : d.paths = []) (endpoints : List Endpoint) :
    (d.addAll s endpoints).operationCount = (endpoints.map place).dedup.length := by
  have hsorted : (d.addAll s endpoints).paths.Sorted :=
    sorted_addAll (h ▸ Paths.sorted_nil) endpoints
  have hmem : ∀ p, p ∈ (d.addAll s endpoints).paths.operations.map (fun (q, m, _) => (q, m)) ↔
      p ∈ (endpoints.map place).dedup := by
    intro (path, method)
    rw [List.mem_dedup, ← exists_isLast_iff (s := s) (d := d)]
    simp only [List.mem_map, Prod.exists, Prod.mk.injEq, ← operation?_addAll h,
      ← hsorted.mem_operations]
    grind
  have hperm := (List.perm_ext_iff_of_nodup hsorted.nodup_operations (List.nodup_dedup _)).2 hmem
  rw [operationCount, ← hperm.length_eq, List.length_map]

/-- Finishing keeps every operation in its place, but for the targets of references. -/
theorem withoutTargets_finish (d : Draft) (s : Sources) :
    (d.finish s).paths.mapOperations (·.mapSchemas Schema.withoutTargets) =
      d.paths.mapOperations (·.mapSchemas Schema.withoutTargets) := by
  rw [finish, Paths.mapOperations_mapOperations]
  simp only [Operation.mapSchemas_mapSchemas, Schema.withoutTargets_patch]

/-- After adding endpoints in order to an empty draft, its paths are theirs. In the place of a path
and a method is the operation of the last endpoint that belongs there, which has all that the
endpoint declares, and the places of other paths and methods are empty. There are as many operations
as different places after every step, each of which fills one place and leaves the others as they
are; finishing then keeps them all in their places and changes nothing in them but the targets of
references. -/
theorem last_endpoint_wins (s : Sources) (info : Info) (g : Generator)
    (endpoints : List Endpoint) :
    let start : Draft := { info, generator := g }
    let draft := start.addAll s endpoints
    (draft.paths.Sorted ∧
      ∀ path, path ∈ draft.paths.map Prod.fst ↔ ∃ e ∈ endpoints, e.path = path) ∧
    (∀ path method o, draft.paths.operation? path method = some o ↔
      ∃ before e after, endpoints = before ++ e :: after ∧
        (e.path = path ∧ e.method = method) ∧
        (∀ e' ∈ after, ¬ (e'.path = path ∧ e'.method = method)) ∧
        o = (operation s (start.addAll s before).generator e).1 ∧ o.IsOf s e) ∧
    ((draft.paths.operations.map fun (path, method, _) => (path, method)).Nodup ∧
      ∀ path method o, (path, method, o) ∈ draft.paths.operations ↔
        draft.paths.operation? path method = some o) ∧
    (∀ n, (start.addAll s (endpoints.take n)).operationCount =
      ((endpoints.take n).map fun e => (e.path, e.method)).dedup.length) ∧
    (∀ e path method, (draft.add s e).paths.operation? path method =
      if path = e.path ∧ method = e.method then some (operation s draft.generator e).1
      else draft.paths.operation? path method) ∧
    (draft.finish s).paths.mapOperations (·.mapSchemas Schema.withoutTargets) =
      draft.paths.mapOperations (·.mapSchemas Schema.withoutTargets) := by
  intro start draft
  have hempty : start.paths = [] := rfl
  have hsorted : draft.paths.Sorted := sorted_addAll Paths.sorted_nil endpoints
  refine ⟨⟨hsorted, fun path => ?_⟩, fun path method o => ?_,
    ⟨hsorted.nodup_operations, fun _ _ _ => hsorted.mem_operations⟩,
    fun n => operationCount_addAll hempty _, fun e path method => ?_, withoutTargets_finish _ _⟩
  · rw [mem_paths_addAll, hempty, List.map_nil, List.mem_map]
    exact or_iff_right List.not_mem_nil
  · rw [operation?_addAll hempty, IsLast]
    simp only [place, Prod.mk.injEq, ne_eq]
    refine exists₃_congr fun before e after => and_congr_right fun _ => and_congr_right fun _ =>
      and_congr_right fun _ => (and_iff_left_of_imp ?_).symm
    rintro rfl
    exact operation_isOf s _ e
  · rw [operation?_add hsorted, place]
    simp only [Prod.mk.injEq]

end Draft

end OpenApi

end ApiRecovery
