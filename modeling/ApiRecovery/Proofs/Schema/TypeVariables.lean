import ApiRecovery.Proofs.Corpus.Scoping
import ApiRecovery.Proofs.Schema.Numbering
import ApiRecovery.Proofs.Schema.Substitution

/-!
# Type variables

In the description of a class its own type parameters are variables and every other name is looked
up as a class. Where a description follows a name to a component, the name is thus no parameter of
the class in whose body it stands. The parameters of the classes around it are not known there,
though a class that is not static may use them.
-/

namespace ApiRecovery

open Java (Declaration CompilationUnit Field TypeRef)

/-! ## What is in scope -/

/-- In the body of the declaration at the path, the name is a type parameter of the declaration at
`owner`. A member type of that name hides the parameter, and only an inner class sees those of the
declarations around it. -/
inductive Java.CompilationUnit.BindsVariable (unit : CompilationUnit) (name : String) :
    List Nat → List Nat → Prop
  | own {path : List Nat} {d : Declaration} : unit.declaration? path = some d →
      name ∈ d.typeParameters → (∀ m ∈ d.members, m.name ≠ name) → BindsVariable unit name path path
  | outer {path owner : List Nat} {p d : Declaration} {i : Nat} :
      unit.declaration? path = some p → p.kind ≠ .interface → p.kind ≠ .annotationType →
      p.members[i]? = some d → d.kind = .classType → d.isStatic = false →
      name ∉ d.typeParameters → (∀ m ∈ d.members, m.name ≠ name) →
      BindsVariable unit name path owner → BindsVariable unit name (path ++ [i]) owner

/-- The environments that a class is described in: it is reached without arguments or with them. -/
inductive Environment.OfClass (d : Located) : Environment → Prop
  | component : OfClass d (.unbound d.declaration.typeParameters)
  | inPlace {arguments : List TypeRef} {scope : Scope} {outer : Environment} :
      OfClass d (.bound d.declaration.typeParameters arguments scope outer)

theorem Environment.OfClass.parameters_eq {env : Environment} {d : Located} (h : env.OfClass d) :
    env.parameters = d.declaration.typeParameters := by
  cases h <;> rfl

/-- A parameter of a declaration further out is none of the class itself. -/
theorem Java.CompilationUnit.BindsVariable.not_mem {unit : CompilationUnit} {name : String}
    {path owner : List Nat} {d : Declaration} (h : unit.BindsVariable name path owner)
    (howner : owner ≠ path) (hd : unit.declaration? path = some d) : name ∉ d.typeParameters := by
  cases h with
  | own => exact absurd rfl howner
  | @outer path owner p d' i hp _ _ hmember _ _ hname =>
    rw [CompilationUnit.declaration?_append hp, hmember] at hd
    cases hd
    exact hname

theorem parameterIndex?_of_not_mem {parameters : List String} {name : String}
    (h : name ∉ parameters) : parameterIndex? parameters name = none := by
  have hindex : parameters.findIdx? (· == name) = none := by
    rw [List.findIdx?_eq_none_iff]
    intro x hx
    exact beq_false_of_ne fun e => h (e ▸ hx)
  rw [parameterIndex?, hindex, ite_self]

/-! ## Names in closed types -/

/-- The name occurs in the type and is of that scope. -/
inductive ClosedType.Mentions (scope : Scope) (name : String) : ClosedType → Prop
  | here {arguments : List ClosedType} : Mentions scope name (.named scope name arguments)
  | argument {scope' : Scope} {name' : String} {arguments : List ClosedType} {t : ClosedType} :
      t ∈ arguments → Mentions scope name t → Mentions scope name (.named scope' name' arguments)
  | element {t : ClosedType} : Mentions scope name t → Mentions scope name (.array t)
  | upper {t : ClosedType} : Mentions scope name t → Mentions scope name (.upper t)
  | lower {t : ClosedType} : Mentions scope name t → Mentions scope name (.lower t)

/-- Replacing parameters leaves the names of the arguments and those that are no parameters. -/
theorem mentions_of_instantiate {parameters : List String} {arguments : List ClosedType}
    {scope scope' : Scope} {name : String} : ∀ {type : TypeRef},
    (type.instantiate parameters arguments scope).Mentions scope' name →
      (∃ a ∈ arguments, a.Mentions scope' name) ∨
        (scope' = scope ∧ parameterIndex? parameters name = none)
  | .primitive _, h | .void, h | .wildcard, h => by cases h
  | .array _, .element h | .upper _, .upper h | .lower _, .lower h => mentions_of_instantiate h
  | .named written types, h => by
    rw [TypeRef.instantiate] at h
    cases hindex : parameterIndex? parameters written with
    | some i =>
      simp only [hindex] at h
      cases hargument : arguments[i]? with
      | some a =>
        rw [hargument] at h
        exact .inl ⟨a, List.mem_of_getElem? hargument, h⟩
      | none =>
        rw [hargument] at h
        cases h
    | none =>
      simp only [hindex, TypeRef.instantiateAll_eq] at h
      cases h with
      | here => exact .inr ⟨rfl, hindex⟩
      | argument hmem h =>
        obtain ⟨t, ht, rfl⟩ := List.mem_map.1 hmem
        exact mentions_of_instantiate h

namespace Corpus

def NoVariableOf (c : Corpus) (scope : Scope) (name : String) : Prop :=
  ∃ d, c.Declares d ∧ d.scope = scope ∧ parameterIndex? d.declaration.typeParameters name = none

end Corpus

namespace Sources

section

variable {s : Sources} {stack : List String} {env : Environment} {d : Located}
  {type type' : ClosedType} {scope : Scope} {name : String}

/-! ## One step -/

theorem mentions_of_planClosed_reference {r : Reference}
    (h : s.planClosed stack type = .reference r) : type.Mentions r.scope r.name := by
  cases type with
  | named scope name arguments =>
    have hr : r.scope = scope ∧ r.name = name := by
      simp only [planClosed, planResolved, planGeneric, planSimple] at h
      grind
    rw [hr.1, hr.2]
    exact .here
  | _ => cases h

theorem mentions_of_planClosed_via {wrapper : Wrapper}
    (h : s.planClosed stack type = .via wrapper type') (hname : type'.Mentions scope name) :
    type.Mentions scope name := by
  cases type with
  | array element =>
    cases h
    exact .element hname
  | upper bound =>
    cases h
    exact .upper hname
  | named scope' name' arguments =>
    have hmem : type' ∈ arguments := by
      simp only [planClosed, planResolved, planGeneric, planSimple] at h
      grind
    exact .argument hmem hname
  | _ => cases h

theorem mentions_of_planClosed_inPlace {arguments : List ClosedType}
    (h : s.planClosed stack type = .inPlace d arguments)
    (hname : ∃ a ∈ arguments, a.Mentions scope name) : type.Mentions scope name := by
  obtain ⟨a, ha, hname⟩ := hname
  cases type with
  | named scope' name' written =>
    have hwritten : written = arguments := by
      simp only [planClosed, planResolved, planGeneric, planSimple] at h
      grind
    exact .argument (hwritten ▸ ha) hname
  | _ => cases h

/-- In a type that is closed in the body of a class, the names are those of its arguments, as they
were understood at the call site, and those that are none of its parameters. -/
theorem mentions_of_close (henv : env.OfClass d) {written : TypeRef}
    (h : (written.close env d.scope).Mentions scope name) :
    (∃ a ∈ env.closedArguments, a.Mentions scope name) ∨
      (scope = d.scope ∧ parameterIndex? d.declaration.typeParameters name = none) := by
  rw [← henv.parameters_eq]
  exact mentions_of_instantiate h

end

/-! ## Whole descriptions -/

/-- A name that a description follows is one of the type's, or it stands in the body of a class that
has no such parameter. -/
theorem references_mention_or_noVariableOf (s : Sources) :
    (∀ stack env scope type next, ∀ r ∈ (s.describe stack env scope next type).2,
      (type.close env scope).Mentions r.scope r.name ∨ s.corpus.NoVariableOf r.scope r.name) ∧
    (∀ stack env d next, s.corpus.Declares d → env.OfClass d →
      ∀ r ∈ (s.describeClass stack env d next).2,
        (∃ a ∈ env.closedArguments, a.Mentions r.scope r.name) ∨
          s.corpus.NoVariableOf r.scope r.name) ∧
    ∀ stack env scope fields next, ∀ r ∈ (s.describeFields stack env scope next fields).2,
      (∃ f ∈ fields, (f.type.close env scope).Mentions r.scope r.name) ∨
        s.corpus.NoVariableOf r.scope r.name := by
  -- what the fields and the superclass of a class mention
  have inClass : ∀ {env : Environment} {d : Located} {written : TypeRef} {r : Reference},
      s.corpus.Declares d → env.OfClass d →
      (written.close env d.scope).Mentions r.scope r.name →
      (∃ a ∈ env.closedArguments, a.Mentions r.scope r.name) ∨
        s.corpus.NoVariableOf r.scope r.name := by
    intro env d written r hd henv h
    rcases mentions_of_close henv h with hargument | ⟨hscope, hindex⟩
    · exact .inl hargument
    · exact .inr ⟨d, hd, hscope.symm, hindex⟩
  refine describe_induction s ?schema ?reference ?via ?inPlace ?plain ?extended ?nil ?cons
  case schema =>
    intro _ _ _ _ _ h next r hr
    rw [describe_of_schema h] at hr
    cases hr
  case reference =>
    intro stack env scope type name target h next r hr
    rw [describe_of_reference h, List.mem_singleton] at hr
    obtain ⟨_, _, _, hvia, -⟩ | hplan := s.plan_close stack env scope type
    · rw [h] at hvia
      cases hvia
    · rw [h] at hplan
      rw [hr]
      exact .inl (mentions_of_planClosed_reference hplan)
  case via =>
    intro stack env scope type wrapper env' scope' type' h ih next r hr
    rw [describe_of_via h] at hr
    refine (ih next r hr).imp_left fun hname => ?_
    obtain ⟨_, _, _, hvia, hclose⟩ | hplan := s.plan_close stack env scope type
    · -- the type is a parameter: its argument stands in its place
      rw [h] at hvia
      cases hvia
      rwa [hclose]
    · rw [h] at hplan
      exact mentions_of_planClosed_via hplan hname
  case inPlace =>
    intro stack env scope type d env' h ih next r hr
    rw [describe_of_inPlace h] at hr
    obtain ⟨-, -, name, arguments, -, hresolved, rfl⟩ := plan_eq_inPlace h
    have hd : s.corpus.Declares d := Corpus.provides_resolveName hresolved
    refine (ih next hd .inPlace r hr).imp_left fun hname => ?_
    obtain ⟨_, _, _, hvia, -⟩ | hplan := s.plan_close stack env scope type
    · rw [h] at hvia
      cases hvia
    · rw [h] at hplan
      exact mentions_of_planClosed_inPlace hplan hname
  case plain =>
    intro stack env d h ih next hd henv r hr
    rw [describeClass_of_none h] at hr
    rcases ih next r hr with ⟨f, -, hname⟩ | hnone
    · exact inClass hd henv hname
    · exact .inr hnone
  case extended =>
    intro stack env d superclass h ih₁ ih₂ next hd henv r hr
    rw [describeClass_of_some h, List.mem_append] at hr
    rcases hr with hr | hr
    · rcases ih₁ next r hr with ⟨f, -, hname⟩ | hnone
      · exact inClass hd henv hname
      · exact .inr hnone
    · rcases ih₂ _ r hr with hname | hnone
      · exact inClass hd henv hname
      · exact .inr hnone
  case nil =>
    intro _ _ _ next r hr
    rw [describeFields_nil] at hr
    cases hr
  case cons =>
    intro stack env scope f fields ih₁ ih₂ next r hr
    rw [describeFields_cons, List.mem_append] at hr
    rcases hr with hr | hr
    · exact (ih₁ next r hr).imp_left fun hname => ⟨f, List.mem_cons_self, hname⟩
    · exact (ih₂ _ r hr).imp_left fun ⟨g, hg, hname⟩ => ⟨g, List.mem_cons_of_mem _ hg, hname⟩

/-- A type parameter of a class is its argument in the class, closed where that was written, or
without one anything; it is never looked up, and no name that a description follows is a parameter
of the class in whose body it stands. A parameter of a class further out, though the class may use
it, stays a name and is looked up as a class. -/
theorem only_own_parameters_are_variables {s : Sources} {d : Located} {env : Environment}
    (hd : s.corpus.Declares d) (henv : env.OfClass d) :
    (∀ stack next, s.describeClass stack env d next =
      s.describeClosedClass stack next (s.closeClass d (·.close env d.scope))) ∧
    (∀ name written i, parameterIndex? d.declaration.typeParameters name = some i →
      ∀ stack next, s.describe stack env d.scope next (.named name written) =
        match env.closedArguments[i]? with
        | some argument => s.describeClosed stack next argument
        | none => (.free, [])) ∧
    (∀ (type : TypeRef) scope name, (type.close env d.scope).Mentions scope name →
      (∃ a ∈ env.closedArguments, a.Mentions scope name) ∨
        (scope = d.scope ∧ parameterIndex? d.declaration.typeParameters name = none)) ∧
    (∀ stack next, ∀ r ∈ (s.describeClass stack env d next).2,
      (∃ a ∈ env.closedArguments, a.Mentions r.scope r.name) ∨
        s.corpus.NoVariableOf r.scope r.name) ∧
    ∀ unit, s.corpus.unit? d.file = some unit → ∀ name owner,
      unit.BindsVariable name d.path owner → owner ≠ d.path → fixedSchema? name = none →
      ∀ stack written, s.plan stack env d.scope (.named name written) =
        match s.corpus.resolveName d.scope name with
        | .ok target => s.planTarget stack env d.scope name written target
        | .error _ => .schema .free := by
  refine ⟨fun stack next => ?closed, fun name written i hindex stack next => ?own,
    fun type scope name => ?names, fun stack next => ?references,
    fun unit hunit name owner hbinds howner hfixed stack written => ?outer⟩
  case closed => exact s.describe_eq_describeClosed.2.1 stack env d next
  case own =>
    rw [← henv.parameters_eq] at hindex
    rw [s.describe_eq_describeClosed.1, TypeRef.close, TypeRef.instantiate]
    simp only [hindex]
    cases env.closedArguments[i]? with
    | some argument => rfl
    | none => exact describeClosed_of_schema rfl next
  case names => exact mentions_of_close henv
  case references => exact s.references_mention_or_noVariableOf.2.1 stack env d next hd henv
  case outer =>
    obtain ⟨unit', hunit', hdeclaration⟩ := hd
    obtain rfl : unit' = unit := Option.some.inj (hunit'.symm.trans hunit)
    have hnone : parameterIndex? env.parameters name = none := by
      rw [henv.parameters_eq]
      exact parameterIndex?_of_not_mem (hbinds.not_mem howner hdeclaration)
    have hlookup : env.lookup name = .notParameter := by
      rw [Environment.lookup_eq, hnone]
    rw [plan, hlookup]
    simp only [hfixed]
    cases s.corpus.resolveName d.scope name <;> rfl

/-- A class that is called like the parameter does not matter. -/
theorem parameter_beside_class :
    let s : Sources := ⟨.ofSources [("Box.java", "class Box<T> \x7b T value; \x7d"),
      ("T.java", "class T \x7b\x7d")], {}⟩
    ∃ d, s.corpus.topLevel? 0 "Box" = some d ∧
      (s.corpus.resolveName d.scope "T").toOption.map (·.qualifiedName) = some "T" ∧
      ∀ stack next, s.describe stack (.unbound d.declaration.typeParameters) d.scope next
        (.named "T" []) = (.free, []) := by
  intro s
  have hevaluated : (s.corpus.topLevel? 0 "Box").map (fun d =>
      (parameterIndex? d.declaration.typeParameters "T",
        (s.corpus.resolveName d.scope "T").toOption.map (·.qualifiedName))) =
      some (some 0, some "T") := by
    decide +kernel
  obtain ⟨d, hd, hvalues⟩ := Option.map_eq_some_iff.1 hevaluated
  obtain ⟨hindex, hresolved⟩ := Prod.mk.inj hvalues
  exact ⟨d, hd, hresolved, (only_own_parameters_are_variables (Corpus.declares_topLevel hd)
    .component).2.1 "T" [] 0 hindex⟩

/-- A class that is called like a parameter of the class around it takes the parameter's place. -/
theorem outer_parameter_is_looked_up :
    let s : Sources := ⟨.ofSources [
      ("Box.java", "class Box<T> \x7b class Item \x7b T value; \x7d \x7d"),
      ("T.java", "class T \x7b\x7d")], {}⟩
    ∃ unit d m, s.corpus.unit? 0 = some unit ∧ s.corpus.topLevel? 0 "Box" = some d ∧
      d.member? "Item" = some m ∧ unit.BindsVariable "T" m.path d.path ∧
      (s.plainClass m 0).1 = .object [("value", .reference 0 none)] none ∧
      (s.plainClass m 0).2.map (fun r => r.target.declaration?.map (·.qualifiedName)) =
        [some "T"] := by
  intro s
  have hdeclared : ((s.corpus.topLevel? 0 "Box").bind fun d => (d.member? "Item").map fun m =>
      ((d.declaration.typeParameters, d.declaration.kind, d.declaration.members.map (·.name)),
        m.declaration.typeParameters, m.declaration.kind, m.declaration.isStatic,
        m.declaration.members.length)) =
      some ((["T"], .classType, ["Item"]), [], .classType, false, 0) := by
    decide +kernel
  have hplanned : ∀ d ∈ s.corpus.topLevel? 0 "Box", ∀ m ∈ d.member? "Item",
      (s.superclass? m).isNone = true ∧ (m.declaration.dataFields.map fun f =>
        (s.serializedName m.scope f,
          ((s.plan [] (.unbound m.declaration.typeParameters) m.scope f.type).target?.bind
            (·.declaration?)).map (·.qualifiedName))) = [("value", some "T")] := by
    decide +kernel
  obtain ⟨d, hd, hvalues⟩ := Option.bind_eq_some_iff.1 hdeclared
  obtain ⟨m, hm, hvalues⟩ := Option.map_eq_some_iff.1 hvalues
  simp only [Prod.mk.injEq] at hvalues
  obtain ⟨⟨houter, hkind, hmembers⟩, hown, hclass, hstatic, hinner⟩ := hvalues
  obtain ⟨hnone, hfields⟩ := hplanned d hd m hm
  obtain ⟨unit, i, t, hunit, htop, rfl⟩ := Corpus.topLevel?_eq_some_iff.1 hd
  obtain ⟨j, e, hmember, rfl⟩ := Located.member?_eq_some_iff.1 hm
  have hbox : unit.declaration? [i] = some t := by
    simp [CompilationUnit.declaration?, htop.at_index, Declaration.descendant?]
  have hbinds : unit.BindsVariable "T" ([i] ++ [j]) [i] := by
    dsimp only at houter hkind hmembers hown hclass hstatic hinner
    refine .outer hbox (by rw [hkind]; decide) (by rw [hkind]; decide) hmember.at_index hclass
      hstatic (by rw [hown]; exact List.not_mem_nil) ?_ (.own hbox ?_ ?_)
    · rw [List.eq_nil_of_length_eq_zero hinner]
      exact fun _ h => absurd h List.not_mem_nil
    · rw [houter]
      exact List.mem_singleton_self "T"
    · intro x hx hname
      have hmem := List.mem_map_of_mem (f := (·.name)) hx
      rw [hmembers, hname] at hmem
      exact absurd hmem (by decide)
  obtain ⟨f, hf, hvalue⟩ := List.map_eq_singleton_iff.1 hfields
  obtain ⟨hname, hplan⟩ := Prod.mk.inj hvalue
  obtain ⟨l, hplan, hqualified⟩ := Option.map_eq_some_iff.1 hplan
  obtain ⟨target, htarget, hl⟩ := Option.bind_eq_some_iff.1 hplan
  obtain ⟨written, hdescribed⟩ := describe_of_target? htarget 0
  refine ⟨unit, _, _, hunit, hd, hm, hbinds, ?_⟩
  rw [plainClass, describeClass_of_none (Option.isNone_iff_eq_none.1 hnone), hf,
    describeFields_cons, describeFields_nil, hdescribed, hname]
  exact ⟨rfl, by simp [hl, hqualified]⟩

end Sources

end ApiRecovery
