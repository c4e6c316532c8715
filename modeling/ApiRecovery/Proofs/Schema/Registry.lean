import ApiRecovery.Schema.Registry
import Mathlib.Data.List.Nodup
import Mathlib.Data.List.Perm.Subperm

/-!
# Names in the registry

The name of a new component is free, whatever names have been taken before. So registering never
replaces a component, and as long as a qualified name is registered only once, different qualified
names have different paths.
-/

namespace ApiRecovery

theorem Schema.componentPath_injective : Function.Injective Schema.componentPath :=
  fun _ _ h => (String.append_right_inj _).1 h

namespace Registry

variable {r : Registry} {name preferred q q' : String} {schema : Schema}

def names (r : Registry) : List String :=
  r.schemas.map Prod.fst

theorem hasName_iff : r.hasName name = true ↔ name ∈ r.names := by
  simp only [hasName, names, List.any_eq_true, beq_iff_eq, List.mem_map]

theorem hasName_eq_false_iff : r.hasName name = false ↔ name ∉ r.names := by
  rw [← hasName_iff, Bool.not_eq_true]

/-! ## Free names -/

theorem numbered_injective (base : String) : Function.Injective (numbered base) := by
  intro m n h
  have hdigits : toString m = toString n := (String.append_right_inj _).1 h
  have hlists : Nat.toDigits 10 m = Nat.toDigits 10 n := by
    have hchars := congrArg String.toList hdigits
    simpa only [Nat.toString_eq_repr, Nat.toList_repr] using hchars
  simpa using congrArg (fun digits => Nat.ofDigitChars 10 digits 0) hlists

/-- The first free number is among as many as there are components and one more. -/
theorem exists_numbered_not_mem (r : Registry) (base : String) :
    ∃ i, i < r.size + 1 ∧ numbered base (i + 2) ∉ r.names := by
  let candidates := (List.range (r.size + 1)).map fun i => numbered base (i + 2)
  have hnodup : candidates.Nodup := by
    refine List.Nodup.map (fun i j h => ?_) List.nodup_range
    have hij := numbered_injective base h
    omega
  -- the candidates are distinct and one more than the names, so not all of them are taken
  by_contra hall
  push Not at hall
  have htaken : candidates ⊆ r.names := by
    intro candidate hmem
    obtain ⟨i, hi, rfl⟩ := List.mem_map.1 hmem
    exact hall i (List.mem_range.1 hi)
  have hle := (hnodup.subperm htaken).length_le
  simp only [candidates, names, List.length_map, List.length_range, size] at hle
  omega

/-- The numbers are tried in order, from two on. -/
theorem firstFree_eq_least (r : Registry) (base : String) :
    ∃ k, 2 ≤ k ∧ k ≤ r.size + 2 ∧ r.firstFree base = numbered base k ∧
      numbered base k ∉ r.names ∧ ∀ j, 2 ≤ j → j < k → numbered base j ∈ r.names := by
  obtain ⟨free, hfree, hnot⟩ := r.exists_numbered_not_mem base
  let isFree : Nat → Bool := fun i => !r.hasName (numbered base (i + 2))
  have hsome : ((List.range (r.size + 1)).find? isFree).isSome = true := by
    rw [List.find?_isSome]
    refine ⟨free, List.mem_range.2 hfree, ?_⟩
    simp [isFree, hasName_eq_false_iff.2 hnot]
  obtain ⟨i, hfound⟩ := Option.isSome_iff_exists.1 hsome
  have heq : r.firstFree base = numbered base (i + 2) := by
    have hmap : ((List.range (r.size + 1)).map fun i => numbered base (i + 2)).find?
        (fun name => !r.hasName name) = some (numbered base (i + 2)) := by
      rw [List.find?_map]
      exact congrArg (Option.map fun i => numbered base (i + 2)) hfound
    unfold firstFree
    simp only [hmap, Option.getD_some]
  obtain ⟨hi, hrange, hbefore⟩ := List.find?_range_eq_some.1 hfound
  have hlt : i < r.size + 1 := List.mem_range.1 hrange
  refine ⟨i + 2, by omega, by omega, heq, ?_, fun j hj hlt => ?_⟩
  · exact hasName_eq_false_iff.1 (by simpa [isFree] using hi)
  · have htaken := hbefore (j - 2) (by omega)
    have hj' : j - 2 + 2 = j := by omega
    simp only [isFree, Bool.not_not, hj'] at htaken
    exact hasName_iff.1 htaken

theorem firstFree_not_mem (r : Registry) (base : String) : r.firstFree base ∉ r.names := by
  obtain ⟨k, -, -, heq, hnot, -⟩ := r.firstFree_eq_least base
  rw [heq]
  exact hnot

/-- A new component gets a name that no other has. -/
theorem freshName_not_mem (r : Registry) (preferred q : String) :
    r.freshName preferred q ∉ r.names := by
  unfold freshName
  split
  · rename_i h
    exact hasName_eq_false_iff.1 (by simpa using h)
  · split
    · rename_i h
      exact hasName_eq_false_iff.1 (by simpa using h)
    · exact firstFree_not_mem r q

/-! ## Registering -/

theorem put_of_not_mem {schemas : List (String × Schema)} (h : name ∉ schemas.map Prod.fst) :
    put name schema schemas = schemas ++ [(name, schema)] := by
  induction schemas with
  | nil => rfl
  | cons p rest ih =>
    rw [List.map_cons, List.mem_cons, not_or] at h
    rw [put, if_neg (Ne.symm h.1), ih h.2, List.cons_append]

theorem register_schemas (r : Registry) (preferred q : String) (schema : Schema) :
    (r.register preferred q schema).2.schemas =
      r.schemas ++ [(r.freshName preferred q, schema)] :=
  put_of_not_mem (freshName_not_mem r preferred q)

theorem register_names (r : Registry) (preferred q : String) (schema : Schema) :
    (r.register preferred q schema).2.names = r.names ++ [r.freshName preferred q] := by
  rw [names, register_schemas, List.map_append]
  rfl

theorem register_path?_self (r : Registry) (preferred q : String) (schema : Schema) :
    (r.register preferred q schema).2.path? q =
      some (Schema.componentPath (r.freshName preferred q)) := by
  simp [register, path?]

theorem register_path?_of_ne (h : q' ≠ q) :
    (r.register preferred q schema).2.path? q' = r.path? q' := by
  have hne : (q' == q) = false := beq_eq_false_iff_ne.2 h
  simp [register, path?, List.lookup_cons, hne]

theorem register_get?_self (r : Registry) (preferred q : String) (schema : Schema) :
    (r.register preferred q schema).2.get? (r.freshName preferred q) = some schema := by
  rw [get?, register_schemas, List.lookup_append]
  have hnone : r.schemas.lookup (r.freshName preferred q) = none := by
    rw [List.lookup_eq_none_iff]
    intro p hp
    rw [bne_iff_ne]
    intro h
    exact freshName_not_mem r preferred q (h ▸ List.mem_map_of_mem hp)
  rw [hnone]
  simp

theorem register_get?_of_some {s : Schema} (h : r.get? name = some s) :
    (r.register preferred q schema).2.get? name = some s := by
  rw [get?] at h
  rw [get?, register_schemas, List.lookup_append, h, Option.some_or]

/-- Every converted qualified name has been registered once, and its component has a name that is
not that of another. -/
structure Tidy (r : Registry) : Prop where
  names_nodup : r.names.Nodup
  processed_nodup : r.processed.Nodup
  registered : r.paths.map Prod.fst = r.processed
  paths_eq : r.paths.map Prod.snd = (r.names.map Schema.componentPath).reverse

theorem Tidy.empty : Tidy {} :=
  ⟨List.nodup_nil, List.nodup_nil, rfl, rfl⟩

theorem Tidy.register (h : r.Tidy) (hq : q ∉ r.processed) (preferred : String) (schema : Schema) :
    ((r.markProcessed q).register preferred q schema).2.Tidy := by
  have hprocessed : (r.markProcessed q).processed = q :: r.processed :=
    List.insert_of_not_mem hq
  have hnames := register_names (r.markProcessed q) preferred q schema
  refine ⟨?_, ?_, ?_, ?_⟩
  · rw [hnames, ← List.concat_eq_append]
    exact h.names_nodup.concat (freshName_not_mem (r.markProcessed q) preferred q)
  · change (r.markProcessed q).processed.Nodup
    rw [hprocessed]
    exact List.nodup_cons.2 ⟨hq, h.processed_nodup⟩
  · change q :: r.paths.map Prod.fst = (r.markProcessed q).processed
    rw [hprocessed, h.registered]
  · rw [hnames, List.map_append, List.reverse_append]
    exact congrArg (_ :: ·) h.paths_eq

theorem Tidy.size_eq (h : r.Tidy) : r.size = r.processedCount := by
  have hpaths := congrArg List.length h.paths_eq
  have hregistered := congrArg List.length h.registered
  simp only [List.length_map, List.length_reverse, names] at hpaths hregistered
  rw [size, processedCount, ← hregistered, hpaths]

theorem Tidy.path?_of_mem (h : r.Tidy) (hq : q ∈ r.processed) :
    ∃ name ∈ r.names, r.path? q = some (Schema.componentPath name) := by
  rw [← h.registered] at hq
  obtain ⟨path, hpath⟩ : ∃ path, r.path? q = some path := by
    rw [← Option.isSome_iff_exists, path?, List.lookup_isSome_iff]
    obtain ⟨p, hp, rfl⟩ := List.mem_map.1 hq
    exact ⟨p, hp, beq_self_eq_true _⟩
  obtain ⟨l, l', heq, -⟩ := List.lookup_eq_some_iff.1 hpath
  have hmem : path ∈ r.paths.map Prod.snd := by
    rw [heq]
    simp
  rw [h.paths_eq, List.mem_reverse, List.mem_map] at hmem
  obtain ⟨name, hname, rfl⟩ := hmem
  exact ⟨name, hname, hpath⟩

theorem Tidy.path?_of_mem_names (h : r.Tidy) (hname : name ∈ r.names) :
    ∃ q ∈ r.processed, r.path? q = some (Schema.componentPath name) := by
  have hmem : Schema.componentPath name ∈ r.paths.map Prod.snd := by
    rw [h.paths_eq, List.mem_reverse]
    exact List.mem_map_of_mem hname
  obtain ⟨⟨q, path⟩, hp, rfl⟩ := List.mem_map.1 hmem
  have hq : q ∈ r.processed := by
    rw [← h.registered]
    exact List.mem_map_of_mem hp
  obtain ⟨name', -, hpath⟩ := h.path?_of_mem hq
  obtain ⟨l, l', heq, -⟩ := List.lookup_eq_some_iff.1 hpath
  have hp' : (q, Schema.componentPath name') ∈ r.paths := by
    rw [heq]
    simp
  have hnodup : (r.paths.map Prod.fst).Nodup := h.registered ▸ h.processed_nodup
  have hpair := List.inj_on_of_nodup_map hnodup hp' hp rfl
  exact ⟨q, hq, hpath.trans (congrArg (fun p => some p.2) hpair)⟩

theorem Tidy.path?_injective (h : r.Tidy) {path : String} (hq : r.path? q = some path)
    (hq' : r.path? q' = some path) : q = q' := by
  have hnodup : (r.paths.map Prod.snd).Nodup := by
    rw [h.paths_eq, List.nodup_reverse]
    exact h.names_nodup.map Schema.componentPath_injective
  have hmem : (q, path) ∈ r.paths := by
    obtain ⟨l, l', heq, -⟩ := List.lookup_eq_some_iff.1 hq
    rw [heq]
    simp
  have hmem' : (q', path) ∈ r.paths := by
    obtain ⟨l, l', heq, -⟩ := List.lookup_eq_some_iff.1 hq'
    rw [heq]
    simp
  have hpair := List.inj_on_of_nodup_map hnodup hmem hmem' rfl
  exact congrArg Prod.fst hpair

end Registry

end ApiRecovery
