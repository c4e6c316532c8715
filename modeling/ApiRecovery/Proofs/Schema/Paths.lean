import ApiRecovery.Proofs.Schema.Run

/-!
# What the path of a reference says

Finishing a closed generator gives every reference the path of the component of its type. Different
types have components of different names, whatever names they would have liked, so a path stands for
one type.
-/

namespace ApiRecovery

namespace Registry

theorem get?_patch (registry : Registry) (paths : List String) (name : String) :
    (registry.patch paths).get? name = (registry.get? name).map (Schema.patch paths) := by
  have hlookup : ∀ schemas : List (String × Schema),
      (schemas.map fun p => (p.1, p.2.patch paths)).lookup name =
        (schemas.lookup name).map (Schema.patch paths) := by
    intro schemas
    induction schemas with
    | nil => rfl
    | cons p rest ih =>
      rw [List.map_cons, List.lookup_cons, List.lookup_cons, ih]
      cases name == p.1 <;> rfl
  exact hlookup registry.schemas

end Registry

namespace Generator

variable {s : Sources} {g : Generator} {r : Reference} {i : Nat}

theorem Sound.pathOf_finish (h : g.Sound s) (hclosed : g.pending = [])
    (hr : g.references[i]? = some r) :
    ∃ name ∈ g.registry.names,
      Schema.pathOf g.finish.paths i = Schema.componentPath name ∧
      g.registry.path? r.target.qualifiedName = some (Schema.componentPath name) := by
  have hq : r.target.qualifiedName ∈ g.registry.processed :=
    (h.mem_processed hclosed).2 ⟨r, List.mem_of_getElem? hr, rfl⟩
  obtain ⟨name, hname, hpath⟩ := h.tidy.path?_of_mem hq
  refine ⟨name, hname, ?_, hpath⟩
  have hi : i < g.done := by
    rw [h.done_eq hclosed]
    exact (List.getElem?_eq_some_iff.1 hr).choose
  have hgiven : Schema.pathOf g.finish.paths i = g.path i r := by
    simp [Schema.pathOf, finish, List.getElem?_zipIdx, hr]
  rw [hgiven, path, if_pos hi, hpath, Option.getD_some]

theorem Sound.pathOf_finish_eq_iff (h : g.Sound s) (hclosed : g.pending = []) {j : Nat}
    {r' : Reference} (hr : g.references[i]? = some r) (hr' : g.references[j]? = some r') :
    Schema.pathOf g.finish.paths i = Schema.pathOf g.finish.paths j ↔
      r.target.qualifiedName = r'.target.qualifiedName := by
  obtain ⟨name, -, hpath, hq⟩ := h.pathOf_finish hclosed hr
  obtain ⟨name', -, hpath', hq'⟩ := h.pathOf_finish hclosed hr'
  rw [hpath, hpath']
  constructor
  · intro heq
    rw [← heq] at hq'
    exact h.tidy.path?_injective hq hq'
  · intro heq
    rw [heq, hq'] at hq
    exact (Option.some.inj hq).symm

/-- The component that a reference points to is the one that the first reference to its type makes. -/
theorem Sound.component_finish (h : g.Sound s) (hclosed : g.pending = [])
    (hr : g.references[i]? = some r) :
    ∃ r' first name, g.firstTo? r.target.qualifiedName = some r' ∧
      Schema.pathOf g.finish.paths i = Schema.componentPath name ∧
      g.finish.registry.get? name =
        some ((s.component r'.target first).2.1.patch g.finish.paths) ∧
      s.needs r'.target <+: g.references.drop first := by
  obtain ⟨name, -, hpath, hq⟩ := h.pathOf_finish hclosed hr
  have hprocessed : r.target.qualifiedName ∈ g.registry.processed :=
    (h.mem_processed hclosed).2 ⟨r, List.mem_of_getElem? hr, rfl⟩
  obtain ⟨r', first, name', hfirst, hq', hget, hneeds⟩ := h.component _ hprocessed
  obtain rfl : name = name' := by
    rw [hq] at hq'
    exact Schema.componentPath_injective (Option.some.inj hq')
  refine ⟨r', first, name, hfirst, hpath, ?_, hneeds⟩
  have hpatched := g.registry.get?_patch g.finish.paths name
  rwa [hget] at hpatched

/-- After any run that is closed and finished, two references have one path exactly if what their
names stand for has one qualified name, and the component there is the one that the first reference
to that name makes. -/
theorem finished_paths_identify_types (s : Sources) (calls : List Call) :
    let g := run s (calls ++ [Call.close])
    (∀ i j : Fin g.references.length,
      Schema.pathOf g.finish.paths i = Schema.pathOf g.finish.paths j ↔
        g.references[i].target.qualifiedName = g.references[j].target.qualifiedName) ∧
      ∀ i : Fin g.references.length,
        s.corpus.resolveName g.references[i].scope g.references[i].name =
          .ok g.references[i].target ∧
        ∃ r first name, g.firstTo? g.references[i].target.qualifiedName = some r ∧
          Schema.pathOf g.finish.paths i = Schema.componentPath name ∧
          g.finish.registry.get? name =
            some ((s.component r.target first).2.1.patch g.finish.paths) ∧
          s.needs r.target <+: g.references.drop first := by
  intro g
  have hsound : g.Sound s := sound_run s _
  have hclosed : g.pending = [] := pending_run_close s calls
  have hget : ∀ i : Fin g.references.length, g.references[i.val]? = some g.references[i] :=
    fun i => List.getElem?_eq_getElem i.isLt
  refine ⟨fun i j => hsound.pathOf_finish_eq_iff hclosed (hget i) (hget j), fun i => ⟨?_, ?_⟩⟩
  · exact hsound.resolved _ (List.getElem_mem i.isLt)
  · exact hsound.component_finish hclosed (hget i)

end Generator

end ApiRecovery
