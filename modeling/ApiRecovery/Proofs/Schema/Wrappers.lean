import ApiRecovery.Proofs.Schema.Substitution
import Mathlib.Data.List.Forall2
import Mathlib.Logic.Relation

/-!
# Transparent wrappers

A wrapper is described like its first argument, wherever it stands in a type. Two closed types that
are described alike can stand for each other inside any third one, also where that is given to a
generic class and comes up in its fields; so it is enough to look at the wrapper alone.
-/

namespace ApiRecovery

open Java (TypeRef)

theorem Java.TypeRef.inside_induction {motive : TypeRef → Prop}
    (primitive : ∀ p, motive (.primitive p)) (void : motive .void)
    (array : ∀ element, motive element → motive (.array element))
    (wildcard : motive .wildcard) (upper : ∀ bound, motive bound → motive (.upper bound))
    (lower : ∀ bound, motive bound → motive (.lower bound))
    (named : ∀ name arguments, (∀ t ∈ arguments, motive t) → motive (.named name arguments))
    (type : TypeRef) : motive type := by
  match type with
  | .primitive p => exact primitive p
  | .void => exact void
  | .array element =>
    exact array _ (inside_induction primitive void array wildcard upper lower named element)
  | .wildcard => exact wildcard
  | .upper bound =>
    exact upper _ (inside_induction primitive void array wildcard upper lower named bound)
  | .lower bound =>
    exact lower _ (inside_induction primitive void array wildcard upper lower named bound)
  | .named name arguments =>
    refine named name arguments fun t ht => ?_
    have hlt := List.sizeOf_lt_of_mem ht
    exact inside_induction primitive void array wildcard upper lower named t
termination_by sizeOf type
decreasing_by all_goals simp +arith <;> omega

/-! ## Types that are described alike -/

/-- No description tells the types apart, as long as at most `left` more generic declarations may be
described in place. -/
def ClosedType.Alike (s : Sources) (left : Nat) (t t' : ClosedType) : Prop :=
  ∀ stack : List String, maxFlattenDepth ≤ stack.length + left →
    ∀ next, s.describeClosed stack next t = s.describeClosed stack next t'

namespace Sources

/-- Plans that differ only in the types that are left to describe. -/
inductive ClosedPlan.Agree (R : ClosedType → ClosedType → Prop) : ClosedPlan → ClosedPlan → Prop
  | schema (found : Schema) : Agree R (.schema found) (.schema found)
  | reference (r : Reference) : Agree R (.reference r) (.reference r)
  | via {wrapper : Wrapper} {t t' : ClosedType} : R t t' →
      Agree R (.via wrapper t) (.via wrapper t')
  | inPlace {d : Located} {arguments arguments' : List ClosedType} :
      List.Forall₂ R arguments arguments' →
      Agree R (.inPlace d arguments) (.inPlace d arguments')

variable {s : Sources} {R : ClosedType → ClosedType → Prop} {left : Nat} {scope : Scope}
  {name : String} {arguments arguments' : List ClosedType}

theorem planResolved_agree (stack : List String) (r : Reference)
    (h : List.Forall₂ R arguments arguments') :
    ClosedPlan.Agree R (s.planResolved stack r arguments) (s.planResolved stack r arguments') := by
  unfold planResolved
  split
  · cases h with
    | nil => exact .schema _
    | cons hfirst _ => exact .via hfirst
  split
  · cases h with
    | nil => exact .schema _
    | cons _ hrest =>
      cases hrest with
      | nil => exact .schema _
      | cons hvalues _ => exact .via hvalues
  cases valueSchemas.lookup r.target.qualifiedName with
  | some schema => exact .schema _
  | none =>
    cases h with
    | nil =>
      simp only [planSimple]
      split
      · exact .schema _
      · exact .reference _
    | cons hfirst hrest =>
      simp only [planGeneric]
      split
      · exact .via hfirst
      · split
        · exact .schema _
        · split
          · exact .inPlace (.cons hfirst hrest)
          · exact .schema _

theorem planClosed_agree (stack : List String) (scope : Scope) (name : String)
    (h : List.Forall₂ R arguments arguments') :
    ClosedPlan.Agree R (s.planClosed stack (.named scope name arguments))
      (s.planClosed stack (.named scope name arguments')) := by
  simp only [planClosed]
  split
  · exact .schema _
  · exact .schema _
  · exact planResolved_agree stack _ h

theorem describeClosedFields_congr {stack : List String} {close close' : TypeRef → ClosedType}
    (h : ∀ type next, s.describeClosed stack next (close type) =
      s.describeClosed stack next (close' type)) (scope : Scope) (fields : List Java.Field)
    (next : Nat) :
    s.describeClosedFields stack next
        (fields.map fun f => (s.serializedName scope f, close f.type)) =
      s.describeClosedFields stack next
        (fields.map fun f => (s.serializedName scope f, close' f.type)) := by
  induction fields generalizing next with
  | nil => rfl
  | cons f fields ih =>
    rw [List.map_cons, List.map_cons, describeClosedFields_cons, describeClosedFields_cons, h, ih]

theorem describeClosedClass_congr {stack : List String} {close close' : TypeRef → ClosedType}
    (h : ∀ type next, s.describeClosed stack next (close type) =
      s.describeClosed stack next (close' type)) (d : Located) (next : Nat) :
    s.describeClosedClass stack next (s.closeClass d close) =
      s.describeClosedClass stack next (s.closeClass d close') := by
  have hfields := describeClosedFields_congr h d.scope d.declaration.dataFields next
  rw [describeClosedClass, describeClosedClass]
  simp only [closeClass]
  rw [hfields]
  cases s.superclass? d with
  | none => rfl
  | some superclass =>
    simp only [Option.map_some]
    rw [h]

end Sources

namespace ClosedType

variable {s : Sources} {left : Nat} {t t' : ClosedType}
  {arguments arguments' : List ClosedType}

theorem Alike.refl (t : ClosedType) : Alike s left t t :=
  fun _ _ _ => rfl

theorem Alike.mono {more : Nat} (h : Alike s more t t') (hle : left ≤ more) : Alike s left t t' :=
  fun stack hstack => h stack (by omega)

theorem Alike.of_via {wrapper : Sources.Wrapper} {u u' : ClosedType}
    (ht : ∀ stack, s.planClosed stack t = .via wrapper u)
    (ht' : ∀ stack, s.planClosed stack t' = .via wrapper u') (h : Alike s left u u') :
    Alike s left t t' := by
  intro stack hle next
  rw [Sources.describeClosed_of_via (ht stack), Sources.describeClosed_of_via (ht' stack),
    h stack hle]

theorem Alike.array (h : Alike s left t t') : Alike s left (.array t) (.array t') :=
  .of_via (fun _ => rfl) (fun _ => rfl) h

theorem Alike.upper (h : Alike s left t t') : Alike s left (.upper t) (.upper t') :=
  .of_via (fun _ => rfl) (fun _ => rfl) h

theorem Alike.lower (t t' : ClosedType) : Alike s left (.lower t) (.lower t') := by
  intro stack hle next
  have free : ∀ u : ClosedType, s.describeClosed stack next (.lower u) = (.free, []) :=
    fun u => Sources.describeClosed_of_schema rfl next
  rw [free, free]

/-- Where arguments that are alike can stand for each other, so can types made by putting them in
for parameters. -/
theorem instantiate_alike_of
    (named : ∀ scope name {arguments arguments' : List ClosedType},
      List.Forall₂ (Alike s left) arguments arguments' →
      Alike s left (.named scope name arguments) (.named scope name arguments'))
    (h : List.Forall₂ (Alike s left) arguments arguments') (parameters : List String)
    (scope : Scope) (type : TypeRef) :
    Alike s left (type.instantiate parameters arguments scope)
      (type.instantiate parameters arguments' scope) := by
  induction type using TypeRef.inside_induction with
  | primitive p => exact .refl _
  | void => exact .refl _
  | wildcard => exact .refl _
  | array element ih => exact ih.array
  | upper bound ih => exact ih.upper
  | lower bound => exact .lower _ _
  | named name written ih =>
    rw [TypeRef.instantiate, TypeRef.instantiate, TypeRef.instantiateAll_eq,
      TypeRef.instantiateAll_eq]
    cases parameterIndex? parameters name with
    | none =>
      refine named scope name ?_
      rw [List.forall₂_map_left_iff, List.forall₂_map_right_iff, List.forall₂_same]
      exact ih
    | some i =>
      clear ih
      induction h generalizing i with
      | nil => exact .refl _
      | cons hfirst _ ihrest =>
        cases i with
        | zero => exact hfirst
        | succ i => exact ihrest i

theorem Alike.of_agree {stack : List String} {R : ClosedType → ClosedType → Prop}
    (hplan : Sources.ClosedPlan.Agree R (s.planClosed stack t) (s.planClosed stack t'))
    (hvia : ∀ u u', R u u' → ∀ next,
      s.describeClosed stack next u = s.describeClosed stack next u')
    (hinPlace : stack.length < maxFlattenDepth → ∀ d args args', List.Forall₂ R args args' →
      ∀ next, s.describeClosedClass (d.qualifiedName :: stack) next (s.instantiateClass d args) =
        s.describeClosedClass (d.qualifiedName :: stack) next (s.instantiateClass d args'))
    (next : Nat) : s.describeClosed stack next t = s.describeClosed stack next t' := by
  generalize ht : s.planClosed stack t = p at hplan
  generalize ht' : s.planClosed stack t' = p' at hplan
  cases hplan with
  | schema found =>
    rw [Sources.describeClosed_of_schema ht, Sources.describeClosed_of_schema ht']
  | reference r =>
    rw [Sources.describeClosed_of_reference ht, Sources.describeClosed_of_reference ht']
  | via h =>
    rw [Sources.describeClosed_of_via ht, Sources.describeClosed_of_via ht', hvia _ _ h]
  | inPlace h =>
    have hlt := Sources.planClosed_eq_inPlace ht
    rw [Sources.describeClosed_of_inPlace ht, Sources.describeClosed_of_inPlace ht',
      hinPlace hlt _ _ _ h]

/-- Arguments that are alike can stand for each other in any class. -/
theorem Alike.named (scope : Scope) (name : String)
    (h : List.Forall₂ (Alike s left) arguments arguments') :
    Alike s left (.named scope name arguments) (.named scope name arguments') := by
  -- on the number of declarations that may still be described: a generic class takes one of them
  induction left generalizing scope name arguments arguments' with
  | zero =>
    intro stack hle
    have hplan := Sources.planClosed_agree (s := s) stack scope name h
    refine Alike.of_agree hplan (fun u u' hu => hu stack hle) fun hlt => ?_
    omega
  | succ left ih =>
    intro stack hle
    have hplan := Sources.planClosed_agree (s := s) stack scope name h
    refine Alike.of_agree hplan (fun u u' hu => hu stack hle) fun _ d args args' hargs => ?_
    have hless : List.Forall₂ (Alike s left) args args' :=
      hargs.imp fun _ _ hu => hu.mono (Nat.le_succ left)
    refine Sources.describeClosedClass_congr (fun type => ?_) d
    have halike := instantiate_alike_of (fun scope name _ _ => ih scope name) hless
      d.declaration.typeParameters d.scope type
    refine halike _ ?_
    rw [List.length_cons]
    omega

theorem instantiate_alike (h : List.Forall₂ (Alike s left) arguments arguments')
    (parameters : List String) (scope : Scope) (type : TypeRef) :
    Alike s left (type.instantiate parameters arguments scope)
      (type.instantiate parameters arguments' scope) :=
  instantiate_alike_of (fun scope name _ _ => Alike.named scope name) h parameters scope type

end ClosedType

/-! ## Erasing wrappers -/

structure Sources.IsWrapper (s : Sources) (env : Environment) (scope : Scope) (name : String) :
    Prop where
  not_parameter : env.lookup name = .notParameter
  ne_string : name ≠ "String"
  ne_integer : name ≠ "Integer"
  wrapper : ∃ target, s.corpus.resolveName scope name = .ok target ∧
    s.isInRole .transparentWrapper target.qualifiedName = true ∧
    target.qualifiedName ∉ arrayTypes ∧ target.qualifiedName ∉ mapTypes ∧
    target.qualifiedName ∉ valueSchemas.map Prod.fst

/-- One wrapper, anywhere in the type, is replaced by its first argument. -/
inductive Java.TypeRef.Unwraps (s : Sources) (env : Environment) (scope : Scope) :
    TypeRef → TypeRef → Prop
  | here {name : String} {first : TypeRef} {rest : List TypeRef} :
      s.IsWrapper env scope name → Unwraps s env scope (.named name (first :: rest)) first
  | array {t t' : TypeRef} : Unwraps s env scope t t' → Unwraps s env scope (.array t) (.array t')
  | upper {t t' : TypeRef} : Unwraps s env scope t t' → Unwraps s env scope (.upper t) (.upper t')
  | lower {t t' : TypeRef} : Unwraps s env scope t t' → Unwraps s env scope (.lower t) (.lower t')
  | argument {name : String} {before after : List TypeRef} {t t' : TypeRef} :
      Unwraps s env scope t t' →
      Unwraps s env scope (.named name (before ++ t :: after)) (.named name (before ++ t' :: after))

inductive Environment.Unwraps (s : Sources) : Environment → Environment → Prop
  | argument {parameters : List String} {before after : List TypeRef} {t t' : TypeRef}
      {scope : Scope} {outer : Environment} : t.Unwraps s outer scope t' →
      Unwraps s (.bound parameters (before ++ t :: after) scope outer)
        (.bound parameters (before ++ t' :: after) scope outer)
  | outer {parameters : List String} {arguments : List TypeRef} {scope : Scope}
      {outer outer' : Environment} : Unwraps s outer outer' →
      Unwraps s (.bound parameters arguments scope outer) (.bound parameters arguments scope outer')

section

variable {s : Sources} {env env' : Environment} {scope : Scope} {t t' : TypeRef}

open ClosedType (Alike)

theorem Sources.IsWrapper.planClosed {name : String} (h : s.IsWrapper env scope name)
    (stack : List String) (first : ClosedType) (rest : List ClosedType) :
    s.planClosed stack (.named scope name (first :: rest)) = .via .bare first := by
  obtain ⟨target, hresolve, hrole, harray, hmap, hvalue⟩ := h.wrapper
  have hfixed : fixedSchema? name = none := by
    unfold fixedSchema?
    split
    · exact absurd rfl h.ne_string
    · exact absurd rfl h.ne_integer
    · rfl
  have hlookup : valueSchemas.lookup target.qualifiedName = none := by
    rw [List.lookup_eq_none_iff]
    intro p hp
    rw [bne_iff_ne]
    rintro heq
    exact hvalue (heq ▸ List.mem_map_of_mem hp)
  simp only [Sources.planClosed, hfixed, hresolve, Sources.planResolved, if_neg harray,
    if_neg hmap, hlookup, Sources.planGeneric, hrole, if_true]

theorem forall₂_alike_append {left : Nat} {f f' : TypeRef → ClosedType}
    {before after : List TypeRef} (h : Alike s left (f t) (f' t'))
    (hsame : ∀ u, Alike s left (f u) (f' u)) :
    List.Forall₂ (Alike s left) ((before ++ t :: after).map f)
      ((before ++ t' :: after).map f') := by
  have hpart : ∀ l : List TypeRef, List.Forall₂ (Alike s left) (l.map f) (l.map f') := by
    intro l
    rw [List.forall₂_map_left_iff, List.forall₂_map_right_iff, List.forall₂_same]
    exact fun u _ => hsame u
  rw [List.map_append, List.map_append]
  exact List.rel_append (hpart before) (.cons h (hpart after))

theorem Java.TypeRef.Unwraps.alike (h : t.Unwraps s env scope t') (left : Nat) :
    Alike s left (t.close env scope) (t'.close env scope) := by
  induction h with
  | @here name first rest hname =>
    intro stack _ next
    have hclose : (TypeRef.named name (first :: rest)).close env scope =
        .named scope name (first.close env scope :: rest.map (·.close env scope)) := by
      rw [close_named, hname.not_parameter]
      rfl
    rw [hclose, Sources.describeClosed_of_via (hname.planClosed stack _ _)]
    rfl
  | array _ ih => exact ih.array
  | upper _ ih => exact ih.upper
  | lower => exact .lower _ _
  | @argument name before after u u' _ ih =>
    rw [close_named, close_named]
    cases env.lookup name with
    | argument type callScope outer => exact .refl _
    | missing => exact .refl _
    | notParameter => exact .named scope name (forall₂_alike_append ih fun u => .refl _)

theorem Environment.Unwraps.alike (h : env.Unwraps s env') :
    env.parameters = env'.parameters ∧
      ∀ left, List.Forall₂ (Alike s left) env.closedArguments env'.closedArguments := by
  induction h with
  | argument ht =>
    exact ⟨rfl, fun left => forall₂_alike_append (ht.alike left) fun u => .refl _⟩
  | @outer parameters arguments scope outer outer' _ ih =>
    obtain ⟨hparameters, harguments⟩ := ih
    refine ⟨rfl, fun left => ?_⟩
    rw [closedArguments, closedArguments, hparameters, List.forall₂_map_left_iff,
      List.forall₂_map_right_iff, List.forall₂_same]
    exact fun u _ => ClosedType.instantiate_alike (harguments left) _ _ u

theorem describe_eq_of_alike (h : ∀ left, Alike s left (t.close env scope) (t'.close env' scope))
    (stack : List String) (next : Nat) :
    s.describe stack env scope next t = s.describe stack env' scope next t' := by
  rw [s.describe_eq_describeClosed.1, s.describe_eq_describeClosed.1]
  exact h maxFlattenDepth stack (Nat.le_add_left _ _) next

theorem describe_unwraps (h : t.Unwraps s env scope t') (stack : List String) (next : Nat) :
    s.describe stack env scope next t = s.describe stack env scope next t' :=
  describe_eq_of_alike h.alike stack next

theorem describe_environment_unwraps (h : env.Unwraps s env') (t : TypeRef) (stack : List String)
    (next : Nat) : s.describe stack env scope next t = s.describe stack env' scope next t := by
  refine describe_eq_of_alike (fun left => ?_) stack next
  obtain ⟨hparameters, harguments⟩ := h.alike
  rw [TypeRef.close, TypeRef.close, hparameters]
  exact ClosedType.instantiate_alike (harguments left) _ _ t

/-- Erasing any number of wrappers, one inside the other or side by side, anywhere in a type or in
the arguments that are bound around it, changes neither its schema nor the references that it
needs. -/
theorem describe_eq_of_erased_wrappers
    (ht : Relation.ReflTransGen (TypeRef.Unwraps s env scope) t t')
    (henv : Relation.ReflTransGen (Environment.Unwraps s) env env') :
    (∀ g : Generator, g.resolve s env scope t = g.resolve s env' scope t') ∧
      ∀ stack next, s.describe stack env scope next t = s.describe stack env' scope next t' := by
  have htype : ∀ stack next,
      s.describe stack env scope next t = s.describe stack env scope next t' := by
    intro stack next
    induction ht with
    | refl => rfl
    | tail _ hstep ih => rw [ih, describe_unwraps hstep]
  have henvironment : ∀ stack next,
      s.describe stack env scope next t' = s.describe stack env' scope next t' := by
    intro stack next
    induction henv with
    | refl => rfl
    | tail _ hstep ih => rw [ih, describe_environment_unwraps hstep]
  have hall : ∀ stack next,
      s.describe stack env scope next t = s.describe stack env' scope next t' :=
    fun stack next => (htype stack next).trans (henvironment stack next)
  refine ⟨fun g => ?_, hall⟩
  rw [Generator.resolve, Generator.resolve, hall]

end

/-- So it is with wrappers around a map and in it, and in the argument of a parameter. -/
theorem optional_files_are_files :
    let s : Sources :=
      { corpus := ⟨[]⟩
        classification := ({} : Classification).inject Catalogue.observable "java.util.Optional" }
    let scope : Scope := ⟨0, []⟩
    let file : TypeRef := .named "java.io.File" []
    let optional (t : TypeRef) : TypeRef := .named "java.util.Optional" [t]
    let map (t : TypeRef) : TypeRef := .named "java.util.Map" [.named "T" [], .array t]
    let env (t : TypeRef) : Environment := .bound ["T"] [t] scope .empty
    Relation.ReflTransGen (TypeRef.Unwraps s (env (optional file)) scope)
        (optional (map (optional file))) (map file) ∧
      Relation.ReflTransGen (Environment.Unwraps s) (env (optional file)) (env file) ∧
      Generator.resolve {} s (env (optional file)) scope (optional (map (optional file))) =
        Generator.resolve {} s (env file) scope (map file) := by
  intro s scope file optional map env
  have hwrapper : ∀ e : Environment, s.IsWrapper e scope "java.util.Optional" := by
    intro e
    refine ⟨?_, by decide, by decide, .external "java.util.Optional", rfl, rfl, ?_, ?_, ?_⟩
    · cases e <;> rfl
    all_goals decide
  have houtside : (optional (map (optional file))).Unwraps s (env (optional file)) scope
      (map (optional file)) := .here (hwrapper _)
  have hinside : (map (optional file)).Unwraps s (env (optional file)) scope (map file) :=
    @TypeRef.Unwraps.argument _ _ _ _ [.named "T" []] [] _ _ (.array (.here (hwrapper _)))
  have hbound : (env (optional file)).Unwraps s (env file) :=
    @Environment.Unwraps.argument _ _ [] [] _ _ _ _ (.here (hwrapper _))
  have htype := (Relation.ReflTransGen.single houtside).tail hinside
  have henv := Relation.ReflTransGen.single hbound
  exact ⟨htype, henv, (describe_eq_of_erased_wrappers htype henv).1 {}⟩

end ApiRecovery
