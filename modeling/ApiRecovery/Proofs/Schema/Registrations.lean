import ApiRecovery.Proofs.Schema.Registry

/-!
# Registering one component after another

What becomes of a registry in a series of registrations, whichever names are asked for. Every
registration adds one component and leaves those that are there alone, so that at the end each of
them is still stored under the name it was given. Only the path of a qualified name moves, to the
component that was registered last.
-/

namespace ApiRecovery

/-- A component to be registered: the name it should have, the qualified name of its declaration
and its schema. -/
structure Registration where
  preferred : String
  qualifiedName : String
  schema : Schema

namespace Registry

variable {r : Registry} {c : Registration} {name q : String} {s : Schema}

/-! ## The name that is chosen -/

theorem freshName_of_not_mem {preferred : String} (h : preferred ∉ r.names) (q : String) :
    r.freshName preferred q = preferred := by
  simp [freshName, hasName_eq_false_iff.2 h]

theorem freshName_of_mem {preferred : String} (h : preferred ∈ r.names) (hq : q ∉ r.names) :
    r.freshName preferred q = q := by
  simp [freshName, hasName_iff.2 h, hasName_eq_false_iff.2 hq]

theorem freshName_of_mem_of_mem {preferred : String} (h : preferred ∈ r.names)
    (hq : q ∈ r.names) : r.freshName preferred q = r.firstFree q := by
  simp [freshName, hasName_iff.2 h, hasName_iff.2 hq]

/-! ## One registration -/

def nameFor (r : Registry) (c : Registration) : String :=
  (r.register c.preferred c.qualifiedName c.schema).1

def add (r : Registry) (c : Registration) : Registry :=
  (r.register c.preferred c.qualifiedName c.schema).2

theorem nameFor_not_mem (r : Registry) (c : Registration) : r.nameFor c ∉ r.names :=
  freshName_not_mem r c.preferred c.qualifiedName

theorem names_add (r : Registry) (c : Registration) : (r.add c).names = r.names ++ [r.nameFor c] :=
  register_names r c.preferred c.qualifiedName c.schema

theorem get?_add_self (r : Registry) (c : Registration) :
    (r.add c).get? (r.nameFor c) = some c.schema :=
  register_get?_self r c.preferred c.qualifiedName c.schema

theorem path?_add (r : Registry) (c : Registration) (q : String) :
    (r.add c).path? q =
      if q = c.qualifiedName then some (Schema.componentPath (r.nameFor c)) else r.path? q := by
  by_cases hq : q = c.qualifiedName
  · rw [if_pos hq, hq]
    exact register_path?_self r c.preferred c.qualifiedName c.schema
  · rw [if_neg hq]
    exact register_path?_of_ne hq

/-! ## A series of registrations -/

def addAll (r : Registry) (calls : List Registration) : Registry :=
  calls.foldl add r

theorem addAll_append_cons (r : Registry) (before after : List Registration) (c : Registration) :
    r.addAll (before ++ c :: after) = ((r.addAll before).add c).addAll after := by
  simp [addAll]

theorem size_addAll (r : Registry) (calls : List Registration) :
    (r.addAll calls).size = r.size + calls.length := by
  induction calls generalizing r with
  | nil => rfl
  | cons c rest ih =>
    have hadd : (r.add c).size = r.size + 1 := by
      have hlength := congrArg List.length (r.names_add c)
      simpa [names, size] using hlength
    show ((r.add c).addAll rest).size = r.size + (rest.length + 1)
    rw [ih, hadd]
    omega

theorem nodup_names_addAll (h : r.names.Nodup) (calls : List Registration) :
    (r.addAll calls).names.Nodup := by
  induction calls generalizing r with
  | nil => exact h
  | cons c rest ih =>
    apply ih (r := r.add c)
    rw [names_add, ← List.concat_eq_append]
    exact h.concat (r.nameFor_not_mem c)

/-- Later registrations do not touch a component. -/
theorem get?_addAll_of_some (h : r.get? name = some s) (calls : List Registration) :
    (r.addAll calls).get? name = some s := by
  induction calls generalizing r with
  | nil => exact h
  | cons c rest ih => exact ih (r := r.add c) (register_get?_of_some h)

/-- What a registration has stored, or has found, is there whatever follows. -/
theorem get?_addAll_append_cons {before after : List Registration}
    (h : ((r.addAll before).add c).get? name = some s) :
    (r.addAll (before ++ c :: after)).get? name = some s := by
  rw [addAll_append_cons]
  exact get?_addAll_of_some h after

/-- A path moves only when its qualified name is registered again. -/
theorem path?_addAll_of_forall_ne {calls : List Registration}
    (h : ∀ c ∈ calls, c.qualifiedName ≠ q) : (r.addAll calls).path? q = r.path? q := by
  induction calls generalizing r with
  | nil => rfl
  | cons c rest ih =>
    obtain ⟨hc, hrest⟩ := List.forall_mem_cons.1 h
    show ((r.add c).addAll rest).path? q = r.path? q
    rw [ih hrest, path?_add, if_neg (Ne.symm hc)]

/-- The last registration of a qualified name. -/
theorem exists_last_of_mem {calls : List Registration}
    (h : q ∈ calls.map Registration.qualifiedName) :
    ∃ before c after, calls = before ++ c :: after ∧ c.qualifiedName = q ∧
      ∀ later ∈ after, later.qualifiedName ≠ q := by
  induction calls with
  | nil => cases h
  | cons c rest ih =>
    by_cases hrest : q ∈ rest.map Registration.qualifiedName
    · obtain ⟨before, last, after, rfl, hq, hafter⟩ := ih hrest
      exact ⟨c :: before, last, after, rfl, hq, hafter⟩
    · have hc : q = c.qualifiedName := by
        rw [List.map_cons, List.mem_cons] at h
        exact h.resolve_right hrest
      refine ⟨[], c, rest, rfl, hc.symm, fun later hlater heq => hrest ?_⟩
      exact List.mem_map.2 ⟨later, hlater, heq⟩

/-- However components are registered in an empty registry, each gets a name that is not in use:
the preferred one, or the qualified name where that is taken, or the qualified name with the least
free number from two on where that is taken too. The components that are there are kept, there are
as many as registrations in the end, and the path of a qualified name leads to the component that
was registered last for it. -/
theorem registrations_are_kept (calls : List Registration) :
    let final := Registry.addAll {} calls
    (∀ before c after, calls = before ++ c :: after →
      let r := Registry.addAll {} before
      let name := (r.register c.preferred c.qualifiedName c.schema).1
      name ∉ r.names ∧
      (c.preferred ∉ r.names → name = c.preferred) ∧
      (c.preferred ∈ r.names → c.qualifiedName ∉ r.names → name = c.qualifiedName) ∧
      (c.preferred ∈ r.names → c.qualifiedName ∈ r.names →
        ∃ k, 2 ≤ k ∧ k ≤ before.length + 2 ∧ name = c.qualifiedName ++ "_" ++ toString k ∧
          ∀ j, 2 ≤ j → j < k → c.qualifiedName ++ "_" ++ toString j ∈ r.names) ∧
      (∀ old s, r.get? old = some s → final.get? old = some s) ∧
      final.get? name = some c.schema) ∧
    final.names.Nodup ∧ final.size = calls.length ∧
    ∀ q, (q ∉ calls.map Registration.qualifiedName → final.path? q = none) ∧
      (q ∈ calls.map Registration.qualifiedName →
        ∃ before c after, calls = before ++ c :: after ∧ c.qualifiedName = q ∧
          (∀ later ∈ after, later.qualifiedName ≠ q) ∧
          let name := ((Registry.addAll {} before).register c.preferred q c.schema).1
          final.path? q = some (Schema.componentPath name) ∧ final.get? name = some c.schema) := by
  intro final
  refine ⟨?_, nodup_names_addAll (r := {}) List.nodup_nil calls, ?_,
    fun q => ⟨fun hq => ?_, fun hq => ?_⟩⟩
  · rintro before c after rfl r name
    have hsize : r.size = before.length := by
      have hcount := size_addAll {} before
      simpa [size] using hcount
    refine ⟨r.nameFor_not_mem c, fun h => freshName_of_not_mem h _, freshName_of_mem,
      fun h hq => ?_, fun old s hold => ?_, ?_⟩
    · obtain ⟨k, htwo, hle, heq, -, hbefore⟩ := r.firstFree_eq_least c.qualifiedName
      rw [hsize] at hle
      exact ⟨k, htwo, hle, (freshName_of_mem_of_mem h hq).trans heq, hbefore⟩
    · exact get?_addAll_append_cons (register_get?_of_some hold)
    · exact get?_addAll_append_cons (r.get?_add_self c)
  · have hcount := size_addAll {} calls
    simpa [size] using hcount
  · have hnone : ∀ c ∈ calls, c.qualifiedName ≠ q :=
      fun c hc heq => hq (List.mem_map.2 ⟨c, hc, heq⟩)
    exact path?_addAll_of_forall_ne hnone
  · obtain ⟨before, c, after, rfl, rfl, hlast⟩ := exists_last_of_mem hq
    refine ⟨before, c, after, rfl, rfl, hlast, ?_, get?_addAll_append_cons (get?_add_self _ c)⟩
    show (Registry.addAll {} (before ++ c :: after)).path? c.qualifiedName = _
    rw [addAll_append_cons, path?_addAll_of_forall_ne hlast, path?_add, if_pos rfl]
    rfl

end Registry

end ApiRecovery
