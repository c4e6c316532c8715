import ApiRecovery.Proofs.Corpus.QualifiedNames

/-!
# The scoping rule

What a name means where it stands: a relation between the scope, the name and what it means. The
lookup agrees with the relation for every name, so that what holds of every meaning holds of every
result.
-/

namespace ApiRecovery

open Java (Declaration CompilationUnit Import)

/-! ## What binds a name -/

def Java.Import.IsOf (i : Import) (name : String) : Prop :=
  i.isStatic = false ∧ i.isWildcard = false ∧ (Text.split '.' i.path).getLast? = some name

/-- The first tier with a meaning for the name decides. -/
inductive FirstOf : List (Resolved → Prop) → Resolved → Prop
  | here {tier : Resolved → Prop} {tiers : List (Resolved → Prop)} {r : Resolved} :
      tier r → FirstOf (tier :: tiers) r
  | later {tier : Resolved → Prop} {tiers : List (Resolved → Prop)} {r : Resolved} :
      (∀ x, ¬ tier x) → FirstOf tiers r → FirstOf (tier :: tiers) r

theorem FirstOf.exists_mem {tiers : List (Resolved → Prop)} {r : Resolved}
    (h : FirstOf tiers r) : ∃ tier ∈ tiers, tier r := by
  induction h with
  | here h => exact ⟨_, List.mem_cons_self, h⟩
  | later _ _ ih =>
    obtain ⟨tier, hmem, htier⟩ := ih
    exact ⟨tier, List.mem_cons_of_mem _ hmem, htier⟩

namespace Corpus

def OffersAt (unit : CompilationUnit) (scope : Scope) (name : String) (n : Nat) (l : Located) :
    Prop :=
  ∃ d, unit.declaration? (scope.path.take n) = some d ∧
    (Located.mk scope.file (scope.path.take n) d).Offers name l

/-- The innermost declaration around the scope that offers something of that name offers `l`. -/
def Encloses (unit : CompilationUnit) (scope : Scope) (name : String) (l : Located) : Prop :=
  ∃ n, IsGreatest {n | n ≤ scope.path.length ∧ ∃ l, OffersAt unit scope name n l} n ∧
    OffersAt unit scope name n l

/-- The first import of a type of that name gives its meaning; a type that the corpus does not have
is external. -/
inductive Imports (c : Corpus) (unit : CompilationUnit) (name : String) : Resolved → Prop
  | found {k : Nat} {i : Import} {r : Resolved} : FirstAt (·.IsOf name) unit.imports k i →
      c.MeansQualified i.path r → Imports c unit name r
  | missing {k : Nat} {i : Import} : FirstAt (·.IsOf name) unit.imports k i →
      (∀ r, ¬ c.MeansQualified i.path r) → Imports c unit name (.external i.path)

/-- The first import on demand that provides a type of that name gives its meaning. -/
def ImportsOnDemand (c : Corpus) (unit : CompilationUnit) (name : String) (r : Resolved) : Prop :=
  ∃ k i, FirstAt (fun i => (i.isWildcard = true ∧ i.isStatic = false) ∧
      ∃ r, c.MeansQualified (i.path ++ "." ++ name) r) unit.imports k i ∧
    c.MeansQualified (i.path ++ "." ++ name) r

/-- What a name without dots may mean, what shadows the rest first: the enclosing declarations and
their members, the file, the imports of single types, the package, the imports on demand and
`java.lang`. -/
def tiers (c : Corpus) (unit : CompilationUnit) (scope : Scope) (name : String) :
    List (Resolved → Prop) :=
  [fun r => ∃ l, Encloses unit scope name l ∧ .declared l = r,
   fun r => ∃ l, c.TopLevel scope.file name l ∧ .declared l = r,
   fun r => c.Imports unit name r,
   fun r => ∃ l, c.MeansQualified (unit.qualify name) (.declared l) ∧ .declared l = r,
   fun r => c.ImportsOnDemand unit name r,
   fun r => "java.lang." ++ name ∈ knownLibraryTypes ∧ .external ("java.lang." ++ name) = r]

def Binds (c : Corpus) (scope : Scope) (name : String) (r : Resolved) : Prop :=
  ∃ unit, c.unit? scope.file = some unit ∧ FirstOf (c.tiers unit scope name) r

end Corpus

/-! ## What a dotted name means -/

/-- The member type of that name; what is beyond the corpus has every member. -/
inductive Resolved.Member : Resolved → String → Resolved → Prop
  | declared {l m : Located} {name : String} :
      l.HasMember name m → Member (.declared l) name (.declared m)
  | external {outer name : String} :
      Member (.external outer) name (.external (outer ++ "." ++ name))

inductive Resolved.Reaches : Resolved → List String → Resolved → Prop
  | here {r : Resolved} : Reaches r [] r
  | member {r r' r'' : Resolved} {name : String} {names : List String} :
      r.Member name r' → Reaches r' names r'' → Reaches r (name :: names) r''

/-- The last name of a chain is that of the declaration it leads to. -/
theorem Resolved.Reaches.getLast?_eq {found : Resolved} {names : List String} {l : Located}
    (h : found.Reaches names (.declared l)) (hne : names ≠ []) :
    names.getLast? = some l.declaration.name := by
  generalize hr : Resolved.declared l = r at h
  induction h with
  | here => exact absurd rfl hne
  | @member r r' r'' name names hstep hrest ih =>
    cases names with
    | nil =>
      subst hr
      cases hrest
      cases hstep with
      | declared hm =>
        rw [hm.name_eq]
        rfl
    | cons next names => simpa using ih (by simp) hr

namespace Corpus

/-- The name cannot be followed: `member` is no member of the declaration `l` that the segments
before it lead to. -/
def LacksMember (c : Corpus) (scope : Scope) (name : String) (l : Located) (member : String) :
    Prop :=
  ∃ head before after found, Text.split '.' name = head :: (before ++ member :: after) ∧
    c.Binds scope head found ∧ found.Reaches before (.declared l) ∧ ∀ m, ¬ l.HasMember member m

def Unbound (c : Corpus) (scope : Scope) (name : String) : Prop :=
  ∃ head rest, Text.split '.' name = head :: rest ∧ ∀ r, ¬ c.Binds scope head r

/-- The scoping rule. -/
inductive Means (c : Corpus) (scope : Scope) (name : String) : Except Failure Resolved → Prop
  | bound {head : String} {rest : List String} {found r : Resolved} :
      Text.split '.' name = head :: rest → c.Binds scope head found → found.Reaches rest r →
      Means c scope name (.ok r)
  | noMember {l : Located} {member : String} : c.LacksMember scope name l member →
      Means c scope name (.error (.unknownMember l.qualifiedName member))
  | qualified {r : Resolved} : c.Unbound scope name → c.MeansQualified name r →
      Means c scope name (.ok r)
  | unresolved : c.Unbound scope name → (∀ r, ¬ c.MeansQualified name r) →
      Means c scope name (.error (.unresolvedSymbol name))

variable {c : Corpus} {unit : CompilationUnit} {scope : Scope} {name : String} {r : Resolved}

/-! ## The tiers -/

theorem resolveEnclosing_of_offers {file : Nat} {path : List Nat} {outer : List (List Nat)}
    {d : Declaration} {l : Located} (hd : unit.declaration? path = some d)
    (h : (Located.mk file path d).Offers name l) :
    resolveEnclosing unit file name (path :: outer) = some l := by
  simp only [resolveEnclosing, hd]
  cases h with
  | member hm => rw [Located.member?_eq_some_iff.2 hm]
  | itself hnone hname =>
    rw [Located.member?_eq_none_iff.2 hnone]
    have hname' : d.name = name := hname
    simp [hname']

theorem resolveEnclosing_of_not_offers {file : Nat} {path : List Nat} {outer : List (List Nat)}
    (h : ∀ d l, unit.declaration? path = some d → ¬ (Located.mk file path d).Offers name l) :
    resolveEnclosing unit file name (path :: outer) = resolveEnclosing unit file name outer := by
  simp only [resolveEnclosing]
  cases hd : unit.declaration? path with
  | none => rfl
  | some d =>
    have hnone : ∀ m, ¬ (Located.mk file path d).HasMember name m :=
      fun m hm => h d m hd (.member hm)
    have hname : d.name ≠ name := fun e => h d _ hd (.itself hnone e)
    simp [Located.member?_eq_none_iff.2 hnone, hname]

/-- The search goes outwards, one prefix of the path after the other. -/
theorem resolveEnclosing_eq_some_iff {l : Located} (bound : Nat) :
    resolveEnclosing unit scope.file name
        ((List.range bound).reverse.map fun n => scope.path.take (n + 1)) = some l ↔
      ∃ n, IsGreatest {n | n ≤ bound ∧ ∃ l, OffersAt unit scope name n l} n ∧
        OffersAt unit scope name n l := by
  induction bound with
  | zero =>
    -- the empty path leads to no declaration
    constructor
    · intro h
      cases h
    · rintro ⟨n, hn, -⟩
      obtain ⟨-, l, d, hd, -⟩ := isGreatest_zero.1 hn
      cases hd
  | succ bound ih =>
    rw [List.range_succ, List.reverse_append, List.reverse_singleton, List.singleton_append,
      List.map_cons]
    by_cases htop : ∃ l, OffersAt unit scope name (bound + 1) l
    · obtain ⟨m, d, hd, hm⟩ := htop
      have hgreatest := @isGreatest_succ (fun n => ∃ l, OffersAt unit scope name n l) bound
      rw [resolveEnclosing_of_offers hd hm, Option.some.injEq]
      constructor
      · rintro rfl
        exact ⟨bound + 1, (hgreatest ⟨m, d, hd, hm⟩).2 rfl, d, hd, hm⟩
      · rintro ⟨n, hn, d', hd', hl⟩
        obtain rfl : n = bound + 1 := (hgreatest ⟨m, d, hd, hm⟩).1 hn
        obtain rfl : d = d' := Option.some.inj (hd.symm.trans hd')
        exact hm.unique hl
    · have hnot : ∀ d l, unit.declaration? (scope.path.take (bound + 1)) = some d →
          ¬ (Located.mk scope.file (scope.path.take (bound + 1)) d).Offers name l :=
        fun d l hd hl => htop ⟨l, d, hd, hl⟩
      have hgreatest := fun n =>
        @isGreatest_succ_of_not (fun n => ∃ l, OffersAt unit scope name n l) bound n htop
      rw [resolveEnclosing_of_not_offers hnot, ih]
      simp only [hgreatest]

theorem simpleName?_eq_some_iff {i : Import} :
    (!i.isStatic && i.simpleName? == some name) = true ↔ i.IsOf name := by
  rw [Import.IsOf, Text.getLast?_split_eq_lastSegment, Import.simpleName?]
  cases i.isStatic <;> cases i.isWildcard <;> simp

theorem resolveImported?_eq_some_iff :
    c.resolveImported? unit name = some r ↔ c.Imports unit name r := by
  rw [resolveImported?, Option.map_eq_some_iff]
  constructor
  · rintro ⟨i, hi, hr⟩
    obtain ⟨k, hfirst⟩ := (find?_eq_some_iff_firstAt fun _ => simpleName?_eq_some_iff).1 hi
    cases hpath : c.resolveQualified? i.path with
    | some found =>
      rw [hpath] at hr
      cases hr
      exact .found hfirst (resolveQualified?_eq_some_iff.1 hpath)
    | none =>
      rw [hpath] at hr
      cases hr
      refine .missing hfirst fun r hmeans => ?_
      rw [← resolveQualified?_eq_some_iff, hpath] at hmeans
      cases hmeans
  · intro h
    cases h with
    | @found k i r hfirst hmeans =>
      have hi := (find?_eq_some_iff_firstAt fun _ => simpleName?_eq_some_iff).2 ⟨k, hfirst⟩
      exact ⟨i, hi, by rw [resolveQualified?_eq_some_iff.2 hmeans, Option.getD_some]⟩
    | @missing k i hfirst hnone =>
      have hi := (find?_eq_some_iff_firstAt fun _ => simpleName?_eq_some_iff).2 ⟨k, hfirst⟩
      have hpath : c.resolveQualified? i.path = none := by
        rw [Option.eq_none_iff_forall_ne_some]
        exact fun r hr => hnone r (resolveQualified?_eq_some_iff.1 hr)
      exact ⟨i, hi, by rw [hpath, Option.getD_none]⟩

theorem resolveInPackage?_eq_some_iff :
    c.resolveInPackage? unit name = some r ↔
      ∃ l, c.MeansQualified (unit.qualify name) (.declared l) ∧ .declared l = r := by
  simp only [← resolveQualified?_eq_some_iff, resolveInPackage?]
  cases c.resolveQualified? (unit.qualify name) with
  | none => simp
  | some found => cases found <;> simp

theorem resolveOnDemand?_eq_some_iff :
    c.resolveOnDemand? unit name = some r ↔ c.ImportsOnDemand unit name r := by
  refine findSome?_filter_eq_some_iff (fun i => ?_) fun i r => resolveQualified?_eq_some_iff
  cases i.isStatic <;> simp

theorem resolveImplicit?_eq_some_iff :
    resolveImplicit? name = some r ↔
      "java.lang." ++ name ∈ knownLibraryTypes ∧ .external ("java.lang." ++ name) = r := by
  simp [resolveImplicit?, isKnownLibraryType]

theorem not_firstOf_nil : ¬ FirstOf [] r := fun h => by cases h

theorem or_eq_some_iff_firstOf {tier : Resolved → Prop} {tiers : List (Resolved → Prop)}
    {o rest : Option Resolved} (ho : ∀ r, o = some r ↔ tier r)
    (hrest : ∀ r, rest = some r ↔ FirstOf tiers r) (r : Resolved) :
    o.or rest = some r ↔ FirstOf (tier :: tiers) r := by
  rw [Option.or_eq_some_iff, ho, hrest]
  constructor
  · rintro (h | ⟨hnone, h⟩)
    · exact .here h
    · refine .later (fun x hx => ?_) h
      rw [← ho, hnone] at hx
      cases hx
  · intro h
    cases h with
    | here h => exact .inl h
    | later hnone h =>
      refine .inr ⟨?_, h⟩
      rw [Option.eq_none_iff_forall_ne_some]
      exact fun x hx => hnone x ((ho x).1 hx)

theorem resolveSimple?_eq_some_iff :
    c.resolveSimple? scope name = some r ↔ c.Binds scope name r := by
  have hlast : ∀ r, resolveImplicit? name = some r ↔
      FirstOf [fun r => "java.lang." ++ name ∈ knownLibraryTypes ∧
        .external ("java.lang." ++ name) = r] r := by
    intro r
    have h := @or_eq_some_iff_firstOf _ [] (resolveImplicit? name) none
      (fun _ => resolveImplicit?_eq_some_iff) (fun _ => by simp [not_firstOf_nil]) r
    rwa [Option.or_none] at h
  unfold resolveSimple? Binds
  cases hunit : c.unit? scope.file with
  | none => simp
  | some unit =>
    simp only [Option.some.injEq, exists_eq_left', Option.map_or, Option.or_assoc, enclosingPaths]
    refine or_eq_some_iff_firstOf (fun r => ?_) (or_eq_some_iff_firstOf (fun r => ?_)
      (or_eq_some_iff_firstOf (fun r => resolveImported?_eq_some_iff)
      (or_eq_some_iff_firstOf (fun r => resolveInPackage?_eq_some_iff)
      (or_eq_some_iff_firstOf (fun r => resolveOnDemand?_eq_some_iff) hlast)))) r
    · simp only [Option.map_eq_some_iff, resolveEnclosing_eq_some_iff, Encloses]
    · simp only [Option.map_eq_some_iff, topLevel?_eq_some_iff]

/-! ## Dotted names -/

theorem resolveMembers_eq_ok_iff {found : Resolved} {names : List String} :
    resolveMembers found names = .ok r ↔ found.Reaches names r := by
  constructor
  · intro h
    induction names generalizing found with
    | nil =>
      cases found <;> cases h <;> exact .here
    | cons name names ih =>
      cases found with
      | declared l =>
        simp only [resolveMembers] at h
        split at h
        · rename_i m hm
          exact .member (.declared (Located.member?_eq_some_iff.1 hm)) (ih h)
        · cases h
      | external outer => exact .member .external (ih h)
  · intro h
    induction h with
    | @here r => cases r <;> rfl
    | @member r r' r'' name names hr _ ih =>
      cases hr with
      | declared hm => simp [resolveMembers, Located.member?_eq_some_iff.2 hm, ih]
      | external => simp [resolveMembers, ih]

/-- Only a missing member of a declaration stops the way down. -/
theorem resolveMembers_eq_error_iff {found : Resolved} {names : List String} {e : Failure} :
    resolveMembers found names = .error e ↔
      ∃ before member after l, names = before ++ member :: after ∧
        found.Reaches before (.declared l) ∧ (∀ m, ¬ l.HasMember member m) ∧
        e = .unknownMember l.qualifiedName member := by
  constructor
  · intro h
    induction names generalizing found with
    | nil => cases found <;> cases h
    | cons name names ih =>
      cases found with
      | declared l =>
        simp only [resolveMembers] at h
        split at h
        · rename_i m hm
          obtain ⟨before, member, after, n, rfl, hreaches, hnone, rfl⟩ := ih h
          have hstep := Resolved.Member.declared (Located.member?_eq_some_iff.1 hm)
          exact ⟨name :: before, member, after, n, rfl, .member hstep hreaches, hnone, rfl⟩
        · rename_i hm
          cases h
          exact ⟨[], name, names, l, rfl, .here, Located.member?_eq_none_iff.1 hm, rfl⟩
      | external outer =>
        obtain ⟨before, member, after, n, rfl, hreaches, hnone, rfl⟩ := ih h
        exact ⟨name :: before, member, after, n, rfl, .member .external hreaches, hnone, rfl⟩
  · rintro ⟨before, member, after, l, rfl, hreaches, hnone, rfl⟩
    generalize hr : Resolved.declared l = r at hreaches
    induction hreaches with
    | here =>
      subst hr
      simp [resolveMembers, Located.member?_eq_none_iff.2 hnone]
    | @member r r' r'' name names hstep _ ih =>
      cases hstep with
      | declared hm => simpa [resolveMembers, Located.member?_eq_some_iff.2 hm] using ih hr
      | external => simpa [resolveMembers] using ih hr

theorem resolveSimple?_eq_none_iff :
    c.resolveSimple? scope name = none ↔ ∀ r, ¬ c.Binds scope name r := by
  simp only [← resolveSimple?_eq_some_iff, Option.eq_none_iff_forall_ne_some, ne_eq]

theorem resolveQualified?_eq_none_iff :
    c.resolveQualified? name = none ↔ ∀ r, ¬ c.MeansQualified name r := by
  simp only [← resolveQualified?_eq_some_iff, Option.eq_none_iff_forall_ne_some, ne_eq]

theorem means_resolveName : c.Means scope (Text.trim name) (c.resolveName scope name) := by
  unfold resolveName
  obtain ⟨head, rest, hsplit⟩ := List.exists_cons_of_ne_nil (Text.split_ne_nil '.' (Text.trim name))
  simp only [hsplit, List.headD_cons, List.tail_cons]
  cases hhead : c.resolveSimple? scope head with
  | some found =>
    have hbinds := resolveSimple?_eq_some_iff.1 hhead
    dsimp only
    cases hrest : resolveMembers found rest with
    | ok r => exact .bound hsplit hbinds (resolveMembers_eq_ok_iff.1 hrest)
    | error e =>
      obtain ⟨before, member, after, l, rfl, hreaches, hnone, rfl⟩ :=
        resolveMembers_eq_error_iff.1 hrest
      exact .noMember ⟨head, before, after, found, hsplit, hbinds, hreaches, hnone⟩
  | none =>
    have hunbound : c.Unbound scope (Text.trim name) :=
      ⟨head, rest, hsplit, resolveSimple?_eq_none_iff.1 hhead⟩
    dsimp only
    cases hname : c.resolveQualified? (Text.trim name) with
    | some r => exact .qualified hunbound (resolveQualified?_eq_some_iff.1 hname)
    | none => exact .unresolved hunbound (resolveQualified?_eq_none_iff.1 hname)

theorem Unbound.resolveSimple?_eq {head : String} {rest : List String}
    (h : c.Unbound scope name) (hsplit : Text.split '.' name = head :: rest) :
    c.resolveSimple? scope head = none := by
  obtain ⟨head', rest', hsplit', hnone⟩ := h
  rw [hsplit] at hsplit'
  cases hsplit'
  exact resolveSimple?_eq_none_iff.2 hnone

theorem resolveName_of_means {result : Except Failure Resolved}
    (h : c.Means scope (Text.trim name) result) : c.resolveName scope name = result := by
  unfold resolveName
  obtain ⟨head, rest, hsplit⟩ := List.exists_cons_of_ne_nil (Text.split_ne_nil '.' (Text.trim name))
  simp only [hsplit, List.headD_cons, List.tail_cons]
  cases h with
  | bound hsplit' hbinds hreaches =>
    rw [hsplit] at hsplit'
    cases hsplit'
    simp [resolveSimple?_eq_some_iff.2 hbinds, resolveMembers_eq_ok_iff.2 hreaches]
  | noMember hlacks =>
    obtain ⟨head', before, after, found, hsplit', hbinds, hreaches, hnone⟩ := hlacks
    rw [hsplit] at hsplit'
    cases hsplit'
    simp only [resolveSimple?_eq_some_iff.2 hbinds]
    exact resolveMembers_eq_error_iff.2 ⟨before, _, after, _, rfl, hreaches, hnone, rfl⟩
  | qualified hunbound hmeans =>
    simp [hunbound.resolveSimple?_eq hsplit, resolveQualified?_eq_some_iff.2 hmeans]
  | unresolved hunbound hnone =>
    simp [hunbound.resolveSimple?_eq hsplit, resolveQualified?_eq_none_iff.2 hnone]

theorem resolveName_eq_iff_means {result : Except Failure Resolved} :
    c.resolveName scope name = result ↔ c.Means scope (Text.trim name) result := by
  constructor
  · rintro rfl
    exact means_resolveName
  · exact resolveName_of_means

theorem exists_resolveName_eq_ok {β : Type} {f : Resolved → β} {b : β}
    (h : (c.resolveName scope name).toOption.map f = some b) :
    ∃ found, c.resolveName scope name = .ok found ∧ f found = b := by
  obtain ⟨found, hfound, hb⟩ := Option.map_eq_some_iff.1 h
  cases hresult : c.resolveName scope name with
  | error e =>
    rw [hresult] at hfound
    cases hfound
  | ok r =>
    rw [hresult] at hfound
    cases hfound
    exact ⟨found, rfl, hb⟩

/-! ## The name of what is found -/

theorem Encloses.name_eq {l : Located} (h : Encloses unit scope name l) :
    l.declaration.name = name := by
  obtain ⟨n, -, d, -, hl⟩ := h
  exact hl.name_eq

theorem getLast?_split_qualify (hname : '.' ∉ name.toList) (unit : CompilationUnit) :
    (Text.split '.' (unit.qualify name)).getLast? = some name := by
  unfold CompilationUnit.qualify
  cases unit.package with
  | none => simp [Text.split_of_not_mem hname]
  | some package => exact Text.getLast?_split_append hname package

/-- A declaration that a name without dots means is so named. -/
theorem Binds.name_eq {l : Located} (hname : '.' ∉ name.toList)
    (h : c.Binds scope name (.declared l)) : l.declaration.name = name := by
  have named : ∀ path, c.MeansQualified path (.declared l) →
      (Text.split '.' path).getLast? = some name → l.declaration.name = name :=
    fun path hmeans hlast => Option.some.inj (hmeans.getLast?_eq.symm.trans hlast)
  obtain ⟨unit, -, hfirst⟩ := h
  obtain ⟨tier, hmem, htier⟩ := hfirst.exists_mem
  simp only [tiers, List.mem_cons, List.not_mem_nil, or_false] at hmem
  -- the enclosing declarations, the file, imports, the package, imports on demand, `java.lang`
  obtain rfl | rfl | rfl | rfl | rfl | rfl := hmem
  · obtain ⟨m, henclosed, hm⟩ := htier
    cases hm
    exact henclosed.name_eq
  · obtain ⟨m, htop, hm⟩ := htier
    cases hm
    exact htop.name_eq
  · cases htier with
    | @found k i r hfirst hmeans => exact named i.path hmeans hfirst.holds.2.2
  · obtain ⟨m, hmeans, hm⟩ := htier
    cases hm
    exact named _ hmeans (getLast?_split_qualify hname unit)
  · obtain ⟨k, i, -, hmeans⟩ := htier
    exact named _ hmeans (Text.getLast?_split_append hname i.path)
  · cases htier.2

/-- A declaration that a name means has the last segment as its name. -/
theorem Means.getLast?_eq {l : Located} (h : c.Means scope name (.ok (.declared l))) :
    (Text.split '.' name).getLast? = some l.declaration.name := by
  cases h with
  | @bound head rest found r hsplit hbinds hreaches =>
    rw [hsplit]
    cases rest with
    | nil =>
      cases hreaches
      have hmem : head ∈ Text.split '.' name := hsplit ▸ List.mem_singleton_self head
      have hhead : '.' ∉ head.toList := Text.not_mem_of_mem_split hmem
      rw [hbinds.name_eq hhead]
      rfl
    | cons next rest => simpa using hreaches.getLast?_eq (by simp)
  | qualified _ hmeans => exact hmeans.getLast?_eq

/-- Looking up a name follows the scoping rule, wherever the name stands. A declaration found has
the last segment as its name, and its path leads to it in its unit. A member is unknown exactly when
the segments before it lead to a declaration without such a member, and a name is unresolved exactly
when its first segment is not bound and the whole of it is no qualified name; nothing else goes
wrong. -/
theorem resolveName_follows_scoping (c : Corpus) (scope : Scope) (name : String) :
    (∀ result, c.resolveName scope name = result ↔ c.Means scope (Text.trim name) result) ∧
    (∀ l, c.resolveName scope name = .ok (.declared l) →
      (Text.split '.' (Text.trim name)).getLast? = some l.declaration.name ∧
      ∃ unit, c.unit? l.file = some unit ∧ unit.declaration? l.path = some l.declaration) ∧
    (∀ owner member, c.resolveName scope name = .error (.unknownMember owner member) ↔
      ∃ l, c.LacksMember scope (Text.trim name) l member ∧ l.qualifiedName = owner) ∧
    (∀ symbol, c.resolveName scope name = .error (.unresolvedSymbol symbol) ↔
      Text.trim name = symbol ∧ c.Unbound scope symbol ∧ ∀ r, ¬ c.MeansQualified symbol r) ∧
    (∀ e, c.resolveName scope name = .error e →
      (∃ owner member, e = .unknownMember owner member) ∨
        ∃ symbol, e = .unresolvedSymbol symbol) := by
  have agrees := fun result => @resolveName_eq_iff_means c scope name result
  refine ⟨agrees, ?_, ?_, ?_, ?_⟩
  · intro l h
    exact ⟨((agrees _).1 h).getLast?_eq, provides_resolveName h⟩
  · intro owner member
    rw [agrees]
    constructor
    · intro h
      cases h with
      | noMember hlacks => exact ⟨_, hlacks, rfl⟩
    · rintro ⟨l, hlacks, rfl⟩
      exact .noMember hlacks
  · intro symbol
    rw [agrees]
    constructor
    · intro h
      cases h with
      | unresolved hunbound hnone => exact ⟨rfl, hunbound, hnone⟩
    · rintro ⟨rfl, hunbound, hnone⟩
      exact .unresolved hunbound hnone
  · intro e h
    rw [agrees] at h
    cases h with
    | noMember => exact .inl ⟨_, _, rfl⟩
    | unresolved => exact .inr ⟨_, rfl⟩

end Corpus

end ApiRecovery
