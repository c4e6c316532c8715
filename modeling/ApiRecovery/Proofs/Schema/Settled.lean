import ApiRecovery.Proofs.Schema.Closure
import ApiRecovery.Proofs.Schema.Paths
import ApiRecovery.Proofs.Schema.Renumbering

/-!
# Components that do not depend on the run

Where every qualified name stands for one type and no two types would like the same name, a closed
generator gives each type the name it would like, and its components are those of the types that can
be reached from the roots. Neither depends on the order in which references were given out.
-/

namespace ApiRecovery

namespace Sources

variable {s : Sources}

def preferredName (s : Sources) (target : Resolved) : String :=
  (s.component target 0).1

/-- The paths of some references, if every type has the name that it should have. -/
def preferredPaths (s : Sources) (rs : List Reference) : List String :=
  rs.map fun r => Schema.componentPath (s.preferredName r.target)

/-- The component of a type with all paths filled in, if every type has the name that it should
have; the numbers are forgotten. -/
def settledComponent (s : Sources) (target : Resolved) : Schema :=
  ((s.component target 0).2.1.patch (s.preferredPaths (s.needs target))).withoutNumbers

theorem component_name (s : Sources) (target : Resolved) (next : Nat) :
    (s.component target next).1 = s.preferredName target := by
  unfold preferredName component
  cases target with
  | external name => rfl
  | declared d => cases hk : d.declaration.kind <;> simp only [hk]

theorem component_renumber (s : Sources) (target : Resolved) (next : Nat) :
    (s.component target next).2.1 = (s.component target 0).2.1.renumber (next + ·) := by
  unfold component
  cases target with
  | external name => rfl
  | declared d =>
    cases hk : d.declaration.kind <;> simp only [hk]
    case classType => exact (describe_renumber s next).2.1 _ _ _ 0
    all_goals rfl

/-- The paths give every reference the name that its type should have. -/
def Settles (s : Sources) (rs : List Reference) (paths : List String) : Prop :=
  ∀ i r, rs[i]? = some r →
    Schema.pathOf paths i = Schema.componentPath (s.preferredName r.target)

theorem settles_preferredPaths (s : Sources) (rs : List Reference) :
    s.Settles rs (s.preferredPaths rs) := by
  intro i r hr
  simp [Schema.pathOf, preferredPaths, hr]

/-- A schema whose references are given out in a row gets the same paths wherever the row begins. -/
theorem Settles.patch_renumber {rs issued : List Reference} {paths : List String} {first : Nat}
    (h : s.Settles rs paths) (hissued : issued <+: rs.drop first) {schema : Schema}
    (hschema : schema.NumberedBelow issued.length) :
    ((schema.renumber (first + ·)).patch paths).withoutNumbers =
      (schema.patch (s.preferredPaths issued)).withoutNumbers := by
  refine schema.patch_renumber_congr fun x hx => ?_
  have hlt : x.1 < issued.length := hschema x hx
  have hr : issued[x.1]? = some issued[x.1] := List.getElem?_eq_getElem hlt
  have hr' : rs[first + x.1]? = some issued[x.1] := by
    rw [← List.getElem?_drop, ← hr]
    obtain ⟨later, hlater⟩ := hissued
    rw [← hlater, List.getElem?_append_left hlt]
  rw [h _ _ hr', s.settles_preferredPaths issued _ _ hr]

theorem Settles.component {rs : List Reference} {paths : List String} {first : Nat}
    {target : Resolved} (h : s.Settles rs paths) (hneeds : s.needs target <+: rs.drop first) :
    ((s.component target first).2.1.patch paths).withoutNumbers = s.settledComponent target := by
  have hbelow := numberedBelow_of_perm (component_references s target 0)
  rw [Nat.zero_add] at hbelow
  rw [component_renumber, h.patch_renumber hneeds hbelow]
  rfl

end Sources

namespace Generator

variable {s : Sources} {g : Generator} {r r' : Reference} {rs roots : List Reference}

/-! ## What can be reached -/

/-- The references of the roots, of the components of their types, and so on. -/
inductive Reaches (s : Sources) (roots : List Reference) : Reference → Prop
  | root {r : Reference} : r ∈ roots → Reaches s roots r
  | needed {r r' : Reference} : Reaches s roots r → r' ∈ s.needs r.target → Reaches s roots r'

theorem Reaches.mono {roots' : List Reference} (hroots : ∀ r ∈ roots, r ∈ roots')
    (h : Reaches s roots r) : Reaches s roots' r := by
  induction h with
  | root hr => exact .root (hroots _ hr)
  | needed _ hneeds ih => exact .needed ih hneeds

theorem Reaches.mem_of_needs_nil (hroots : ∀ r ∈ roots, s.needs r.target = [])
    (h : Reaches s roots r) : r ∈ roots := by
  induction h with
  | root hr => exact hr
  | needed _ hneeds ih =>
    rw [hroots _ ih] at hneeds
    cases hneeds

/-- Each qualified name stands for one type, and no two types should have the same name. -/
structure Unambiguous (s : Sources) (rs : List Reference) : Prop where
  target_eq : ∀ r ∈ rs, ∀ r' ∈ rs, r.target.qualifiedName = r'.target.qualifiedName →
    r.target = r'.target
  name_eq : ∀ r ∈ rs, ∀ r' ∈ rs, s.preferredName r.target = s.preferredName r'.target →
    r.target.qualifiedName = r'.target.qualifiedName

theorem Unambiguous.mono {rs' : List Reference} (h : Unambiguous s rs') (hrs : ∀ r ∈ rs, r ∈ rs') :
    Unambiguous s rs where
  target_eq := fun r hr r' hr' => h.target_eq r (hrs r hr) r' (hrs r' hr')
  name_eq := fun r hr r' hr' => h.name_eq r (hrs r hr) r' (hrs r' hr')

theorem Rooted.reaches (h : g.Rooted s roots) (hr : r ∈ g.references) : Reaches s roots r := by
  obtain ⟨i, hi⟩ := List.mem_iff_getElem?.1 hr
  clear hr
  -- on the number of the reference: what is no root is needed by one with a smaller number
  induction i using Nat.strong_induction_on generalizing r with
  | _ i ih =>
    obtain hroot | ⟨j, hj, r', hr', -, hneeds⟩ := h.origin i r hi
    · exact .root hroot
    · exact .needed (ih j hj hr') hneeds

/-- In a closed generator the component of every type has been made, whichever reference to it came
first. -/
theorem Sound.exists_component (h : g.Sound s) (hclosed : g.pending = [])
    (hone : Unambiguous s g.references) (hr : r ∈ g.references) :
    ∃ first name, g.registry.path? r.target.qualifiedName = some (Schema.componentPath name) ∧
      g.registry.get? name = some (s.component r.target first).2.1 ∧
      s.needs r.target <+: g.references.drop first := by
  have hq : r.target.qualifiedName ∈ g.registry.processed :=
    (h.mem_processed hclosed).2 ⟨r, hr, rfl⟩
  obtain ⟨r', first, name, hfirst, hpath, hget, hneeds⟩ := h.component _ hq
  have hname : r'.target.qualifiedName = r.target.qualifiedName := by
    simpa using List.find?_some hfirst
  have htarget := hone.target_eq r' (List.mem_of_find?_eq_some hfirst) r hr hname
  rw [htarget] at hget hneeds
  exact ⟨first, name, hpath, hget, hneeds⟩

theorem Sound.mem_references_iff_reaches (h : g.Sound s) (hrooted : g.Rooted s roots)
    (hclosed : g.pending = []) (hone : Unambiguous s g.references) :
    r ∈ g.references ↔ Reaches s roots r := by
  refine ⟨hrooted.reaches, fun hreaches => ?_⟩
  induction hreaches with
  | root hr => exact hrooted.roots_mem _ hr
  | needed _ hr' ih =>
    obtain ⟨first, -, -, -, hneeds⟩ := h.exists_component hclosed hone ih
    exact List.mem_of_mem_drop (hneeds.subset hr')

/-! ## Names -/

def Named (s : Sources) (g : Generator) : Prop :=
  ∀ r ∈ g.references, r.target.qualifiedName ∈ g.registry.processed →
    g.registry.path? r.target.qualifiedName =
      some (Schema.componentPath (s.preferredName r.target))

/-- The name that a new type should have is free. -/
theorem Named.hasName_eq_false (h : g.Named s) (hg : g.Sound s)
    (hone : Unambiguous s g.references) (hr : r ∈ g.references)
    (hnew : r.target.qualifiedName ∉ g.registry.processed) :
    g.registry.hasName (s.preferredName r.target) = false := by
  rw [Registry.hasName_eq_false_iff]
  intro hname
  obtain ⟨q, hq, hpath⟩ := hg.tidy.path?_of_mem_names hname
  obtain ⟨r', hr', rfl⟩ := (hg.processed_iff q).1 hq
  have hmem : r' ∈ g.references := List.mem_of_mem_take hr'
  rw [h r' hmem hq, Option.some.injEq] at hpath
  have hnames := hone.name_eq r' hmem r hr (Schema.componentPath_injective hpath)
  exact hnew (hnames ▸ hq)

theorem Named.convert (h : Unambiguous s g.references → g.Named s) (hg : g.Sound s)
    (hr : g.references[g.done]? = some r) (hone : Unambiguous s (g.convert s r).references) :
    (g.convert s r).Named s := by
  have hmem : r ∈ g.references := List.mem_of_getElem? hr
  have hold : Unambiguous s g.references := hone.mono fun r' hr' => by
    rw [convert_references]
    exact List.mem_append_left _ hr'
  cases hnew : g.isConverted r with
  | true =>
    rw [convert_of_converted hnew]
    exact h hold
  | false =>
    have hq : r.target.qualifiedName ∉ g.registry.processed := by
      rw [← isConverted_iff, hnew]
      exact Bool.false_ne_true
    have hfree := (h hold).hasName_eq_false hg hold hmem hq
    rw [convert_of_new hnew] at hone ⊢
    intro r' hr' hprocessed
    by_cases heq : r'.target.qualifiedName = r.target.qualifiedName
    · have htarget := hone.target_eq r' hr' r (List.mem_append_left _ hmem) heq
      have hfresh : (g.registry.markProcessed r.target.qualifiedName).freshName
          (s.preferredName r.target) r.target.qualifiedName = s.preferredName r.target := by
        have hfree' : (g.registry.markProcessed r.target.qualifiedName).hasName
            (s.preferredName r.target) = false := hfree
        simp [Registry.freshName, hfree']
      rw [htarget, Registry.register_path?_self, Sources.component_name, hfresh]
    · have hprocessed' : r'.target.qualifiedName ∈ g.registry.processed := by
        simpa [Registry.register, Registry.markProcessed, heq] using hprocessed
      -- the name was converted for an earlier reference, to the same type
      obtain ⟨r'', hr'', hname⟩ := (hg.processed_iff _).1 hprocessed'
      have hmem'' : r'' ∈ g.references := List.mem_of_mem_take hr''
      have htarget := hone.target_eq r'' (List.mem_append_left _ hmem'') r' hr' hname
      rw [Registry.register_path?_of_ne heq, ← htarget]
      exact h hold r'' hmem'' (hname ▸ hprocessed')

theorem Named.close (h : g.registry.processed = []) (hg : g.Sound s)
    (hone : Unambiguous s (g.close s).references) : (g.close s).Named s := by
  have hboth : (g.close s).Sound s ∧ (Unambiguous s (g.close s).references → (g.close s).Named s) :=
    close_invariant (motive := fun g => g.Sound s ∧ (Unambiguous s g.references → g.Named s))
      (fun g r h hr => ⟨h.1.convert hr, Named.convert h.2 h.1 hr⟩)
      ⟨hg, fun _ r _ hr => by rw [h] at hr; cases hr⟩
  exact hboth.2 hone

theorem Named.settles_finish (h : g.Named s) (hg : g.Sound s) (hclosed : g.pending = []) :
    s.Settles g.references g.finish.paths := by
  intro i r hr
  have hmem : r ∈ g.references := List.mem_of_getElem? hr
  obtain ⟨name, -, hpath, hq⟩ := hg.pathOf_finish hclosed hr
  rw [h r hmem ((hg.mem_processed hclosed).2 ⟨r, hmem, rfl⟩), Option.some.injEq] at hq
  rw [hpath, hq]

/-! ## Components -/

/-- The finished components by name, without the numbers of their references. -/
def settledSchemas (g : Generator) : List (String × Schema) :=
  g.finish.registry.schemas.map fun p => (p.1, p.2.withoutNumbers)

theorem settledSchemas_names (g : Generator) :
    g.settledSchemas.map Prod.fst = g.registry.names := by
  simp [settledSchemas, finish, Registry.patch, Registry.names, Function.comp_def]

/-- The components are those of the types that references stand for, each under the name that it
should have. -/
theorem Named.mem_settledSchemas_iff (h : g.Named s) (hg : g.Sound s) (hclosed : g.pending = [])
    (hone : Unambiguous s g.references) {p : String × Schema} :
    p ∈ g.settledSchemas ↔
      ∃ r ∈ g.references, (s.preferredName r.target, s.settledComponent r.target) = p := by
  have hsettles := h.settles_finish hg hclosed
  have stored : ∀ r ∈ g.references, ∃ first,
      (s.preferredName r.target, (s.component r.target first).2.1) ∈ g.registry.schemas ∧
        ((s.component r.target first).2.1.patch g.finish.paths).withoutNumbers =
          s.settledComponent r.target := by
    intro r hr
    obtain ⟨first, name, hpath, hget, hneeds⟩ := hg.exists_component hclosed hone hr
    rw [h r hr ((hg.mem_processed hclosed).2 ⟨r, hr, rfl⟩), Option.some.injEq] at hpath
    rw [← Schema.componentPath_injective hpath] at hget
    obtain ⟨l, l', heq, -⟩ := List.lookup_eq_some_iff.1 hget
    exact ⟨first, by rw [heq]; simp, hsettles.component hneeds⟩
  have hmap : g.settledSchemas = g.registry.schemas.map fun p =>
      (p.1, (p.2.patch g.finish.paths).withoutNumbers) := by
    simp [settledSchemas, finish, Registry.patch, Function.comp_def]
  rw [hmap, List.mem_map]
  constructor
  · rintro ⟨⟨name, schema⟩, hmem, rfl⟩
    obtain ⟨q, hq, hpath⟩ := hg.tidy.path?_of_mem_names (List.mem_map_of_mem hmem)
    obtain ⟨r, hr, rfl⟩ := (hg.mem_processed hclosed).1 hq
    rw [h r hr hq, Option.some.injEq] at hpath
    obtain rfl := Schema.componentPath_injective hpath
    obtain ⟨first, hstored, hsettled⟩ := stored r hr
    -- two components of one name are one
    have hpair := List.inj_on_of_nodup_map hg.tidy.names_nodup hstored hmem rfl
    refine ⟨r, hr, ?_⟩
    rw [← (Prod.mk.inj hpair).2, hsettled]
  · rintro ⟨r, hr, rfl⟩
    obtain ⟨first, hstored, hsettled⟩ := stored r hr
    exact ⟨_, hstored, by rw [hsettled]⟩

/-! ## Closed generators -/

/-- All that the roots need has been converted, nothing before. -/
structure ClosedFrom (s : Sources) (roots : List Reference) (g : Generator) : Prop where
  sound : g.Sound s
  rooted : g.Rooted s roots
  closed : g.pending = []
  named : Unambiguous s g.references → g.Named s

theorem closedFrom_close (hg : g.Sound s) (hrooted : g.Rooted s roots)
    (hnew : g.registry.processed = []) : ClosedFrom s roots (g.close s) where
  sound := hg.close
  rooted := hrooted.close hg
  closed := pending_close g s
  named := Named.close hnew hg

variable {g' : Generator} {roots' : List Reference}

/-- Generators that are closed from the same roots have given out the same references, in some
order. -/
theorem ClosedFrom.unambiguous (h : ClosedFrom s roots g) (h' : ClosedFrom s roots' g')
    (hroots : ∀ r ∈ roots', r ∈ roots) (hone : Unambiguous s g.references) :
    Unambiguous s g'.references := by
  refine hone.mono fun r hr => ?_
  have hreaches := (h'.rooted.reaches hr).mono hroots
  exact (h.sound.mem_references_iff_reaches h.rooted h.closed hone).2 hreaches

theorem ClosedFrom.settledSchemas_perm (h : ClosedFrom s roots g) (h' : ClosedFrom s roots' g')
    (hroots : ∀ r, r ∈ roots ↔ r ∈ roots') (hone : Unambiguous s g.references) :
    g.settledSchemas.Perm g'.settledSchemas := by
  have hone' := h.unambiguous h' (fun r => (hroots r).2) hone
  have hmem : ∀ r, r ∈ g.references ↔ r ∈ g'.references := by
    intro r
    rw [h.sound.mem_references_iff_reaches h.rooted h.closed hone,
      h'.sound.mem_references_iff_reaches h'.rooted h'.closed hone']
    exact ⟨.mono fun r => (hroots r).1, .mono fun r => (hroots r).2⟩
  have hnodup : g.settledSchemas.Nodup :=
    .of_map Prod.fst (g.settledSchemas_names ▸ h.sound.tidy.names_nodup)
  have hnodup' : g'.settledSchemas.Nodup :=
    .of_map Prod.fst (g'.settledSchemas_names ▸ h'.sound.tidy.names_nodup)
  refine (List.perm_ext_iff_of_nodup hnodup hnodup').2 fun p => ?_
  rw [(h.named hone).mem_settledSchemas_iff h.sound h.closed hone,
    (h'.named hone').mem_settledSchemas_iff h'.sound h'.closed hone']
  simp only [hmem]

end Generator

end ApiRecovery
