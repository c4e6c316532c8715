import ApiRecovery.Proofs.Schema.Renumbering
import Mathlib.Data.List.Nodup

/-!
# What patching changes

A place in a schema is a path of steps into it. The references of a schema stand at different
places, and a walk that may change each target, with a record of what it visits, comes to them in
the order in which they are listed. Patching fills in all of them and nothing else: a schema is what
is left without its targets, together with the targets.
-/

namespace ApiRecovery.Schema

/-! ## Places -/

inductive Step
  | items
  | property (i : Nat)
  | additional
  | part (i : Nat)
  deriving DecidableEq, Repr

def child? : Schema → Step → Option Schema
  | array items, .items => some items
  | object properties _, .property i => properties[i]?.map Prod.snd
  | object _ additional, .additional => additional
  | allOf parts, .part i => parts[i]?
  | _, _ => none

def descendant? (s : Schema) : List Step → Option Schema
  | [] => some s
  | step :: place => (s.child? step).bind fun c => c.descendant? place

def children : Schema → List (Step × Schema)
  | array items => [(.items, items)]
  | object properties additional =>
    (properties.zipIdx.map fun p => (.property p.2, p.1.2)) ++
      additional.toList.map fun values => (.additional, values)
  | allOf parts => parts.zipIdx.map fun p => (.part p.2, p.1)
  | _ => []

theorem mem_children_iff {s c : Schema} {step : Step} :
    (step, c) ∈ s.children ↔ s.child? step = some c := by
  cases s with
  | array items => cases step <;> simp [children, child?, eq_comm]
  | object properties additional =>
    cases step <;> simp [children, child?, List.mem_zipIdx_iff_getElem?]
  | allOf parts => cases step <;> simp [children, child?, List.mem_zipIdx_iff_getElem?]
  | _ => simp [children, child?]

theorem nodup_steps (s : Schema) : (s.children.map Prod.fst).Nodup := by
  -- a step with an index comes once, as the indices of a list do
  have hindices : ∀ {α : Type} (xs : List α) (f : Nat → Step), Function.Injective f →
      (xs.zipIdx.map fun p => f p.2).Nodup := by
    intro α xs f hf
    rw [← Function.comp_def, ← List.map_map, List.zipIdx_map_snd]
    exact List.Nodup.map hf List.nodup_range'
  cases s with
  | object properties additional =>
    simp only [children, List.map_append, List.map_map, Function.comp_def]
    refine List.nodup_append.2 ⟨hindices _ _ fun i j h => Step.property.inj h, ?_, ?_⟩
    · cases additional <;> simp
    · simp +contextual [eq_comm]
  | allOf parts =>
    simp only [children, List.map_map, Function.comp_def]
    exact hindices _ _ fun i j h => Step.part.inj h
  | _ => simp [children]

theorem sizeOf_child_lt {s c : Schema} {step : Step} (h : (step, c) ∈ s.children) :
    sizeOf c < sizeOf s := by
  cases s with
  | array items =>
    obtain ⟨-, rfl⟩ := Prod.mk.inj (List.mem_singleton.1 h)
    simp
  | object properties additional =>
    simp only [children, List.mem_append, List.mem_map, Option.mem_toList, Prod.mk.injEq] at h
    rcases h with ⟨p, hp, -, rfl⟩ | ⟨values, hvalues, -, rfl⟩
    · have hlt := List.sizeOf_lt_of_mem (List.fst_mem_of_mem_zipIdx hp)
      have hpair : sizeOf p.1 = 1 + sizeOf p.1.1 + sizeOf p.1.2 := rfl
      simp only [object.sizeOf_spec]
      omega
    · rw [hvalues, object.sizeOf_spec, Option.some.sizeOf_spec]
      omega
  | allOf parts =>
    simp only [children, List.mem_map, Prod.mk.injEq] at h
    obtain ⟨p, hp, -, rfl⟩ := h
    have hlt := List.sizeOf_lt_of_mem (List.fst_mem_of_mem_zipIdx hp)
    simp only [allOf.sizeOf_spec]
    omega
  | _ => cases h

theorem child_induction {motive : Schema → Prop}
    (reference : ∀ id target, motive (.reference id target))
    (inner : ∀ s, (∀ id target, s ≠ .reference id target) → (∀ x ∈ s.children, motive x.2) →
      motive s) (s : Schema) : motive s := by
  by_cases h : ∃ id target, s = .reference id target
  · obtain ⟨id, target, rfl⟩ := h
    exact reference id target
  · push Not at h
    refine inner s h fun x hx => ?_
    have hlt := sizeOf_child_lt hx
    exact child_induction reference inner x.2
termination_by sizeOf s

def referencePlaces : Schema → List (List Step)
  | reference _ _ => [[]]
  | s => s.children.attach.flatMap fun x => (referencePlaces x.1.2).map (x.1.1 :: ·)
termination_by s => sizeOf s
decreasing_by exact sizeOf_child_lt x.2

theorem referencePlaces_of_not_reference {s : Schema} (h : ∀ id target, s ≠ reference id target) :
    s.referencePlaces = s.children.flatMap fun x => x.2.referencePlaces.map (x.1 :: ·) := by
  rw [referencePlaces]
  · conv => rhs; rw [← List.attach_map_subtype_val s.children, List.flatMap_map]
  · exact h

theorem references_of_not_reference {s : Schema} (h : ∀ id target, s ≠ reference id target) :
    s.references = s.children.flatMap fun x => x.2.references := by
  have hindexed : ∀ {α : Type} (xs : List α) (f : α → List (Nat × Option String)),
      (xs.zipIdx.flatMap fun p => f p.1) = xs.flatMap f := by
    intro α xs f
    conv => rhs; rw [← List.zipIdx_map_fst 0 xs, List.flatMap_map]
  cases s with
  | array items => simp [references, children]
  | object properties additional =>
    rw [references, referencesOfProperties_eq, children, List.flatMap_append, List.flatMap_map,
      hindexed properties fun p => p.2.references]
    cases additional <;> simp [referencesOfAdditional]
  | allOf parts =>
    rw [references, referencesOfParts_eq, children, List.flatMap_map, hindexed parts references]
  | reference id target => exact absurd rfl (h id target)
  | _ => rfl

/-- The places are those of the listed references, one by one. -/
theorem map_descendant?_referencePlaces (s : Schema) :
    s.referencePlaces.map s.descendant? =
      s.references.map fun x => some (reference x.1 x.2) := by
  induction s using child_induction with
  | reference id target => simp [referencePlaces, references, descendant?]
  | inner s hinner ih =>
    rw [referencePlaces_of_not_reference hinner, references_of_not_reference hinner,
      List.map_flatMap, List.map_flatMap]
    refine List.flatMap_congr fun x hx => ?_
    rw [← ih x hx, List.map_map]
    refine List.map_congr_left fun place _ => ?_
    rw [Function.comp_apply, descendant?, mem_children_iff.1 hx, Option.bind_some]

theorem mem_referencePlaces_iff {s : Schema} {place : List Step} :
    place ∈ s.referencePlaces ↔ ∃ id target, s.descendant? place = some (reference id target) := by
  induction s using child_induction generalizing place with
  | reference id target => cases place <;> simp [referencePlaces, descendant?, child?]
  | inner s hinner ih =>
    rw [referencePlaces_of_not_reference hinner]
    cases place with
    | nil => simpa [descendant?] using hinner
    | cons step place =>
      simp only [List.mem_flatMap, List.mem_map, List.cons.injEq, descendant?,
        Option.bind_eq_some_iff]
      constructor
      · rintro ⟨x, hx, _, hplace, rfl, rfl⟩
        obtain ⟨id, target, h⟩ := (ih x hx).1 hplace
        exact ⟨id, target, x.2, mem_children_iff.1 hx, h⟩
      · rintro ⟨id, target, c, hc, h⟩
        have hx := mem_children_iff.2 hc
        exact ⟨_, hx, place, (ih _ hx).2 ⟨id, target, h⟩, rfl, rfl⟩

theorem nodup_referencePlaces (s : Schema) : s.referencePlaces.Nodup := by
  induction s using child_induction with
  | reference id target => simp [referencePlaces]
  | inner s hinner ih =>
    rw [referencePlaces_of_not_reference hinner, List.nodup_flatMap]
    refine ⟨fun x hx => (ih x hx).map fun _ _ h => (List.cons.inj h).2, ?_⟩
    -- places below different steps begin differently
    have hsteps := List.pairwise_map.1 (nodup_steps s)
    refine hsteps.imp fun {x y} hne place hx hy => ?_
    obtain ⟨_, -, rfl⟩ := List.mem_map.1 hx
    obtain ⟨_, -, heq⟩ := List.mem_map.1 hy
    exact hne (List.cons.inj heq).1.symm

/-! ## A walk with a state -/

section

variable {σ : Type} (visit : Nat → Option String → σ → Option String × σ)

mutual

/-- Asks a visitor with a state for the target of every reference, one after the other. -/
def visitReferences : Schema → σ → Schema × σ
  | primitive type format value, state => (primitive type format value, state)
  | array items, state =>
    let (items, state) := visitReferences items state
    (array items, state)
  | object properties additional, state =>
    let (properties, state) := visitProperties properties state
    let (additional, state) := visitAdditional additional state
    (object properties additional, state)
  | free, state => (free, state)
  | reference id target, state =>
    let (target, state) := visit id target state
    (reference id target, state)
  | allOf parts, state =>
    let (parts, state) := visitParts parts state
    (allOf parts, state)
  | enumeration values, state => (enumeration values, state)

def visitProperties : List (String × Schema) → σ → List (String × Schema) × σ
  | [], state => ([], state)
  | (name, s) :: rest, state =>
    let (s, state) := visitReferences s state
    let (rest, state) := visitProperties rest state
    ((name, s) :: rest, state)

def visitAdditional : Option Schema → σ → Option Schema × σ
  | none, state => (none, state)
  | some s, state =>
    let (s, state) := visitReferences s state
    (some s, state)

def visitParts : List Schema → σ → List Schema × σ
  | [], state => ([], state)
  | s :: rest, state =>
    let (s, state) := visitReferences s state
    let (rest, state) := visitParts rest state
    (s :: rest, state)

end

end

section

variable {f : Nat → Option String → Option String}

/-- The visitor that changes targets by `f` and keeps a record of the references it comes to. -/
def recording (f : Nat → Option String → Option String) (id : Nat) (target : Option String)
    (visited : List (Nat × Option String)) : Option String × List (Nat × Option String) :=
  (f id target, visited ++ [(id, target)])

theorem visitProperties_recording {properties : List (String × Schema)}
    (h : ∀ p ∈ properties, ∀ visited,
      visitReferences (recording f) p.2 visited = (p.2.mapReferences f, visited ++ p.2.references))
    (visited : List (Nat × Option String)) :
    visitProperties (recording f) properties visited =
      (mapProperties f properties, visited ++ referencesOfProperties properties) := by
  induction properties generalizing visited with
  | nil => simp [visitProperties, mapProperties, referencesOfProperties]
  | cons p rest ih =>
    have hrest := ih fun p hp => h p (List.mem_cons_of_mem _ hp)
    simp [visitProperties, mapProperties, referencesOfProperties, h p List.mem_cons_self, hrest]

theorem visitParts_recording {parts : List Schema}
    (h : ∀ s ∈ parts, ∀ visited,
      visitReferences (recording f) s visited = (s.mapReferences f, visited ++ s.references))
    (visited : List (Nat × Option String)) :
    visitParts (recording f) parts visited =
      (mapParts f parts, visited ++ referencesOfParts parts) := by
  induction parts generalizing visited with
  | nil => simp [visitParts, mapParts, referencesOfParts]
  | cons part rest ih =>
    have hrest := ih fun s hs => h s (List.mem_cons_of_mem _ hs)
    simp [visitParts, mapParts, referencesOfParts, h part List.mem_cons_self, hrest]

/-- The walk comes to the references in the order in which they are listed. -/
theorem visitReferences_recording (s : Schema) (visited : List (Nat × Option String)) :
    visitReferences (recording f) s visited = (s.mapReferences f, visited ++ s.references) := by
  induction s using inside_induction generalizing visited with
  | primitive | free | enumeration => simp [visitReferences, mapReferences, references]
  | array items ih => simp [visitReferences, mapReferences, references, ih]
  | object properties additional ihp iha =>
    have hadditional : ∀ visited, visitAdditional (recording f) additional visited =
        (mapAdditional f additional, visited ++ referencesOfAdditional additional) := by
      cases additional with
      | none => simp [visitAdditional, mapAdditional, referencesOfAdditional]
      | some values => simp [visitAdditional, mapAdditional, referencesOfAdditional, iha values rfl]
    simp [visitReferences, mapReferences, references, visitProperties_recording ihp, hadditional]
  | reference id target => rfl
  | allOf parts ih => simp [visitReferences, mapReferences, references, visitParts_recording ih]

end

/-! ## What determines a schema -/

/-- What is left of a schema when both the targets and the numbers of its references are
forgotten. -/
def outline (s : Schema) : Schema :=
  s.withoutTargets.withoutNumbers

section

variable (f : Nat → Option String → Option String) (g : Nat → Nat)

theorem renumber_mapReferences_object (properties : List (String × Schema))
    (additional : Option Schema) :
    ((object properties additional).mapReferences f).renumber g =
      object (properties.map fun p => (p.1, (p.2.mapReferences f).renumber g))
        (additional.map fun s => (s.mapReferences f).renumber g) := by
  simp only [mapReferences, renumber, mapProperties_eq, renumberProperties_eq, mapAdditional_eq,
    renumberAdditional_eq, List.map_map, Option.map_map, Function.comp_def]

theorem renumber_mapReferences_allOf (parts : List Schema) :
    ((allOf parts).mapReferences f).renumber g =
      allOf (parts.map fun s => (s.mapReferences f).renumber g) := by
  simp only [mapReferences, renumber, mapParts_eq, renumberParts_eq, List.map_map,
    Function.comp_def]

end

theorem outline_object (properties : List (String × Schema)) (additional : Option Schema) :
    (object properties additional).outline =
      object (properties.map fun p => (p.1, p.2.outline)) (additional.map outline) :=
  renumber_mapReferences_object _ _ _ _

theorem outline_allOf (parts : List Schema) : (allOf parts).outline = allOf (parts.map outline) :=
  renumber_mapReferences_allOf _ _ _

theorem references_renumber (f : Nat → Nat) (s : Schema) :
    (s.renumber f).references = s.references.map fun x => (f x.1, x.2) := by
  induction s using inside_induction with
  | primitive | free | enumeration | reference => rfl
  | array items ih => rw [renumber, references, references, ih]
  | object properties additional ihp iha =>
    rw [renumber, references, references, List.map_append, renumberProperties_eq,
      referencesOfProperties_eq, referencesOfProperties_eq, List.flatMap_map, List.map_flatMap]
    congr 1
    · exact List.flatMap_congr ihp
    · cases additional with
      | none => rfl
      | some values => exact iha values rfl
  | allOf parts ih =>
    rw [renumber, references, references, renumberParts_eq, referencesOfParts_eq,
      referencesOfParts_eq, List.flatMap_map, List.map_flatMap]
    exact List.flatMap_congr ih

theorem length_references_outline (s : Schema) :
    s.outline.references.length = s.references.length := by
  rw [outline, withoutNumbers, references_renumber, withoutTargets, references_mapReferences,
    List.length_map, List.length_map]

/-- Lists are equal if their members are told apart by a shape and a list of contents, as the shape
tells how many contents there are. -/
theorem eq_of_map_eq_of_flatMap_eq {α β γ : Type} {shape : α → β} {contents : α → List γ}
    (hlength : ∀ a b, shape a = shape b → (contents a).length = (contents b).length)
    {as bs : List α} (h : ∀ a ∈ as, ∀ b, shape a = shape b → contents a = contents b → a = b)
    (hshape : as.map shape = bs.map shape)
    (hcontents : as.flatMap contents = bs.flatMap contents) : as = bs := by
  induction as generalizing bs with
  | nil => rw [List.map_nil, eq_comm, List.map_eq_nil_iff] at hshape; rw [hshape]
  | cons a as ih =>
    cases bs with
    | nil => cases hshape
    | cons b bs =>
      obtain ⟨hfirst, hrest⟩ := List.cons.inj hshape
      rw [List.flatMap_cons, List.flatMap_cons] at hcontents
      obtain ⟨hhere, hthere⟩ := List.append_inj hcontents (hlength a b hfirst)
      rw [h a List.mem_cons_self b hfirst hhere,
        ih (fun a ha => h a (List.mem_cons_of_mem _ ha)) hrest hthere]

/-- A schema is its outline together with its references. -/
theorem eq_of_outline {s t : Schema} (houtline : s.outline = t.outline)
    (hreferences : s.references = t.references) : s = t := by
  have hlength : ∀ a b : Schema, a.outline = b.outline →
      a.references.length = b.references.length := fun a b h => by
    rw [← length_references_outline a, h, length_references_outline]
  induction s using inside_induction generalizing t with
  | primitive | free | enumeration =>
    cases t <;> first | exact houtline | cases houtline
  | array items ih =>
    cases t with
    | array items' => rw [ih (array.inj houtline) hreferences]
    | _ => cases houtline
  | object properties additional ihp iha =>
    cases t with
    | object properties' additional' =>
      rw [outline_object, outline_object, object.injEq] at houtline
      -- the outline tells where the references of the properties end
      have hcount : ∀ ps : List (String × Schema), (referencesOfProperties ps).length =
          ((ps.map fun p => (p.1, p.2.outline)).map fun p => p.2.references.length).sum := by
        intro ps
        simp only [referencesOfProperties_eq, List.length_flatMap, List.map_map, Function.comp_def,
          length_references_outline]
      rw [references, references] at hreferences
      obtain ⟨hown, hvalues⟩ := List.append_inj hreferences (by rw [hcount, hcount, houtline.1])
      rw [referencesOfProperties_eq, referencesOfProperties_eq] at hown
      have hproperties : properties = properties' := by
        refine eq_of_map_eq_of_flatMap_eq (fun a b h => hlength _ _ (Prod.mk.inj h).2)
          (fun p hp q hshape hsame => ?_) houtline.1 hown
        obtain ⟨hname, hinside⟩ := Prod.mk.inj hshape
        exact Prod.ext hname (ihp p hp hinside hsame)
      have hadditional : additional = additional' := by
        cases additional with
        | none => exact (Option.map_eq_none_iff.1 houtline.2.symm).symm
        | some values =>
          obtain ⟨values', rfl, hinside⟩ := Option.map_eq_some_iff.1 houtline.2.symm
          rw [iha values rfl hinside.symm hvalues]
      rw [hproperties, hadditional]
    | _ => cases houtline
  | reference id target =>
    cases t with
    | reference id' target' => simpa [references] using hreferences
    | _ => cases houtline
  | allOf parts ih =>
    cases t with
    | allOf parts' =>
      rw [outline_allOf, outline_allOf, allOf.injEq] at houtline
      rw [references, references, referencesOfParts_eq, referencesOfParts_eq] at hreferences
      have hparts : parts = parts' :=
        eq_of_map_eq_of_flatMap_eq hlength (fun part hpart _ => ih part hpart) houtline hreferences
      rw [hparts]
    | _ => cases houtline

/-- A schema is what is left without its targets, together with the targets. -/
theorem eq_iff_targets {s t : Schema} :
    s = t ↔ s.withoutTargets = t.withoutTargets ∧ s.referenceTargets = t.referenceTargets := by
  refine ⟨fun h => h ▸ ⟨rfl, rfl⟩, fun ⟨hrest, htargets⟩ => eq_of_outline ?_ ?_⟩
  · rw [outline, hrest, outline]
  · have hids := congrArg (fun u => u.references.map Prod.fst) hrest
    simp only [withoutTargets, references_mapReferences, List.map_map] at hids
    exact (List.zip_of_prod hids htargets).trans (List.zip_of_prod rfl rfl).symm

/-! ## Patching -/

/-- Of two fillings the second shows. -/
theorem patch_patch (paths others : List String) (s : Schema) :
    (s.patch paths).patch others = s.patch others :=
  mapReferences_mapReferences _ _ s

/-- A walk that fills in paths as it comes to each reference is patching. It comes to one reference
for each place where one stands, and the targets afterwards are the paths of their numbers in that
order, with the unknown path for a number without one. No other schema has these targets and is the
same without targets. Patching again changes nothing, and of two patchings only the second shows. -/
theorem patch_fills_references (paths : List String) (s : Schema) :
    ∃ visited : List (Nat × Option String),
      visitReferences (recording fun id _ => some (pathOf paths id)) s [] =
        (s.patch paths, visited) ∧
      s.referencePlaces.Nodup ∧
      (∀ place, place ∈ s.referencePlaces ↔
        ∃ id target, s.descendant? place = some (reference id target)) ∧
      s.referencePlaces.map s.descendant? =
        visited.map (fun (id, target) => some (reference id target)) ∧
      (s.patch paths).referenceTargets =
        visited.map (fun (id, _) => some (paths[id]?.getD unknownPath)) ∧
      (∀ t : Schema, t = s.patch paths ↔ t.withoutTargets = s.withoutTargets ∧
        t.referenceTargets = visited.map fun (id, _) => some (paths[id]?.getD unknownPath)) ∧
      (s.patch paths).patch paths = s.patch paths ∧
      ∀ others, (s.patch paths).patch others = s.patch others := by
  have htargets : (s.patch paths).referenceTargets =
      s.references.map fun (id, _) => some (paths[id]?.getD unknownPath) := by
    rw [referenceTargets, references_patch, List.map_map]
    rfl
  refine ⟨s.references, ?_, s.nodup_referencePlaces, fun place => mem_referencePlaces_iff,
    s.map_descendant?_referencePlaces, htargets, fun t => ?_, s.patch_patch paths paths,
    fun others => s.patch_patch paths others⟩
  · rw [visitReferences_recording, List.nil_append, patch]
  · rw [eq_iff_targets, withoutTargets_patch, htargets]

end ApiRecovery.Schema
