import ApiRecovery.Proofs.Schema.ClosedType
import ApiRecovery.Schema.Generator

/-!
# Bindings are a substitution

A description under bindings is the description of the type from which the bindings have been
substituted away. The substitution closes arguments where they were written before it puts them in
for parameters, so no argument is ever read as a name of the class that it is given to.
-/

namespace ApiRecovery

open Java (Field TypeRef)

/-! ## What closing does to a name -/

theorem contains_eq_isSome_findIdx? (l : List String) (name : String) :
    l.contains name = (l.findIdx? (· == name)).isSome := by
  rw [List.findIdx?_isSome, List.contains_eq_any_beq]
  congr 1
  funext x
  exact Bool.beq_comm

/-- What a name is in an environment, by the index of its parameter. -/
theorem Environment.lookup_eq (env : Environment) (name : String) :
    env.lookup name =
      match parameterIndex? env.parameters name with
      | none => .notParameter
      | some i =>
        match env with
        | bound _ arguments scope outer =>
          match arguments[i]? with
          | some type => .argument type scope outer
          | none => .missing
        | _ => .missing := by
  unfold lookup parameterIndex?
  split
  · rfl
  · cases env with
    | empty => rfl
    | unbound parameters =>
      simp only [Environment.parameters, contains_eq_isSome_findIdx?]
      cases parameters.findIdx? (· == name) <;> rfl
    | bound parameters arguments scope outer => rfl

/-- A parameter is replaced by its argument, which is closed where it was written; without an
argument anything may stand in its place. Every other name stays, and its arguments are closed. -/
theorem close_named (env : Environment) (scope : Scope) (name : String)
    (written : List TypeRef) :
    (TypeRef.named name written).close env scope =
      match env.lookup name with
      | .argument type callScope outer => type.close outer callScope
      | .missing => .any
      | .notParameter => .named scope name (written.map (·.close env scope)) := by
  rw [Environment.lookup_eq, TypeRef.close, TypeRef.instantiate]
  cases parameterIndex? env.parameters name with
  | none =>
    simp only [TypeRef.instantiateAll_eq]
    rfl
  | some i =>
    cases env with
    | empty => rfl
    | unbound parameters => rfl
    | bound parameters arguments callScope outer =>
      simp only [Environment.closedArguments, List.getElem?_map]
      cases arguments[i]? <;> rfl

-- an argument that is called like the parameter it is given for stays the name it was
example (callScope scope : Scope) :
    (TypeRef.named "T" []).close (.bound ["T"] [.named "T" []] callScope .empty) scope =
      .named callScope "T" [] := by
  rw [close_named]
  rfl

namespace Sources

variable {s : Sources} {stack : List String} {env : Environment} {scope : Scope} {type : TypeRef}

/-! ## Plans -/

def Plan.close (scope : Scope) : Plan → ClosedPlan
  | .schema found => .schema found
  | .reference name target => .reference ⟨name, scope, target⟩
  | .via wrapper env scope type => .via wrapper (type.close env scope)
  | .inPlace d env => .inPlace d env.closedArguments

theorem planTarget_close (s : Sources) (stack : List String) (env : Environment) (scope : Scope)
    (name : String) (written : List TypeRef) (target : Resolved) :
    (s.planTarget stack env scope name written target).close scope =
      s.planResolved stack ⟨name, scope, target⟩ (written.map (·.close env scope)) := by
  simp only [planTarget, planResolved, List.contains_iff_mem]
  by_cases harray : target.qualifiedName ∈ arrayTypes
  · rw [if_pos harray, if_pos harray]
    cases written <;> rfl
  by_cases hmap : target.qualifiedName ∈ mapTypes
  · rw [if_neg harray, if_neg harray, if_pos hmap, if_pos hmap]
    rcases written with _ | ⟨first, _ | ⟨values, rest⟩⟩ <;> rfl
  rw [if_neg harray, if_neg harray, if_neg hmap, if_neg hmap]
  cases valueSchemas.lookup target.qualifiedName with
  | some schema => rfl
  | none =>
    cases written with
    | nil =>
      simp only [List.map_nil, planSimple]
      cases s.classification.signatureOf? .forceSchema target.qualifiedName <;> rfl
    | cons first rest =>
      simp only [List.map_cons, planGeneric]
      split
      · rfl
      · cases target with
        | external q => rfl
        | declared d =>
          by_cases hkind : d.declaration.kind = .classType
          · by_cases hdepth : stack.length < maxFlattenDepth
            · simp only [hkind, hdepth, and_self, if_true]
              rfl
            · simp only [hkind, hdepth, and_false, if_true, if_false]
              rfl
          · simp only [hkind, false_and, if_false]
            rfl

/-- Either a type is a parameter, and its argument is closed in its place, or planning and closing
it can be done in either order. -/
theorem plan_close (s : Sources) (stack : List String) (env : Environment) (scope : Scope)
    (type : TypeRef) :
    (∃ env' scope' type', s.plan stack env scope type = .via .bare env' scope' type' ∧
      type.close env scope = type'.close env' scope') ∨
    s.planClosed stack (type.close env scope) = (s.plan stack env scope type).close scope := by
  cases type with
  | named name written =>
    rw [close_named, plan]
    cases env.lookup name with
    | argument type callScope outer => exact .inl ⟨_, _, _, rfl, rfl⟩
    | missing => exact .inr rfl
    | notParameter =>
      refine .inr ?_
      simp only [planClosed]
      cases fixedSchema? name with
      | some schema => rfl
      | none =>
        cases s.corpus.resolveName scope name with
        | error e => rfl
        | ok target => exact (planTarget_close s stack env scope name written target).symm
  | _ => exact .inr rfl

/-! ## Descriptions -/

/-- Under any environment a description is that of what closing leaves. -/
theorem describe_eq_describeClosed (s : Sources) :
    (∀ stack env scope type next, s.describe stack env scope next type =
      s.describeClosed stack next (type.close env scope)) ∧
    (∀ stack env d next, s.describeClass stack env d next =
      s.describeClosedClass stack next (s.closeClass d (·.close env d.scope))) ∧
    ∀ stack env scope fields next, s.describeFields stack env scope next fields =
      s.describeClosedFields stack next
        (fields.map fun f => (s.serializedName scope f, f.type.close env scope)) := by
  refine describe_induction s ?schema ?reference ?via ?inPlace ?plain ?extended ?nil ?cons
  case schema =>
    intro stack env scope type schema h next
    obtain ⟨_, _, _, hvia, -⟩ | hplan := s.plan_close stack env scope type
    · rw [h] at hvia
      cases hvia
    · rw [describe_of_schema h]
      rw [h] at hplan
      rw [describeClosed_of_schema hplan]
  case reference =>
    intro stack env scope type name target h next
    obtain ⟨_, _, _, hvia, -⟩ | hplan := s.plan_close stack env scope type
    · rw [h] at hvia
      cases hvia
    · rw [describe_of_reference h]
      rw [h] at hplan
      rw [describeClosed_of_reference hplan]
  case via =>
    intro stack env scope type wrapper env' scope' type' h ih next
    rw [describe_of_via h, ih]
    obtain ⟨_, _, _, hvia, hclose⟩ | hplan := s.plan_close stack env scope type
    · -- the type is a parameter: its argument is described in its place
      rw [h] at hvia
      cases hvia
      rw [hclose]
      rfl
    · rw [h] at hplan
      rw [describeClosed_of_via hplan]
  case inPlace =>
    intro stack env scope type d env' h ih next
    rw [describe_of_inPlace h, ih]
    obtain ⟨_, _, _, hvia, -⟩ | hplan := s.plan_close stack env scope type
    · rw [h] at hvia
      cases hvia
    · rw [h] at hplan
      rw [describeClosed_of_inPlace hplan]
      obtain ⟨-, -, name, arguments, -, -, rfl⟩ := plan_eq_inPlace h
      rfl
  case plain =>
    intro stack env d h ih next
    rw [describeClass_of_none h, ih, describeClosedClass, closeClass, h]
    rfl
  case extended =>
    intro stack env d superclass h ih₁ ih₂ next
    rw [describeClass_of_some h, ih₁, ih₂, describeClosedClass, closeClass, h]
    rfl
  case nil =>
    intro stack env scope next
    rw [describeFields_nil, List.map_nil, describeClosedFields_nil]
  case cons =>
    intro stack env scope f fields ih₁ ih₂ next
    rw [describeFields_cons, List.map_cons, describeClosedFields_cons, ih₁, ih₂]

end Sources

namespace Generator

/-- The schema of a closed type; its references wait for `close`. -/
def resolveClosed (g : Generator) (s : Sources) (type : ClosedType) : Schema × Generator :=
  let (schema, issued) := s.describeClosed [] g.references.length type
  (schema, { g with references := g.references ++ issued })

/-- Resolving a type under any chain of bindings gives the schema and the references, in order, that
its closed form gives without bindings, however deep in other declarations it is described; and so
does a class with its fields. In the closed form a parameter has become its argument, closed where
that was written, and so a class given arguments has them in the places of its parameters as they
were understood at the call site, whatever names are in them. -/
theorem bindings_are_substitution (s : Sources) (env : Environment) (scope : Scope) :
    (∀ (g : Generator) (type : TypeRef),
      g.resolve s env scope type = g.resolveClosed s (type.close env scope)) ∧
    (∀ stack next type, s.describe stack env scope next type =
      s.describeClosed stack next (type.close env scope)) ∧
    (∀ stack next d, s.describeClass stack env d next =
      s.describeClosedClass stack next (s.closeClass d (·.close env d.scope))) ∧
    (∀ stack next d (arguments : List TypeRef),
      s.describeClass stack (.bound d.declaration.typeParameters arguments scope env) d next =
        s.describeClosedClass stack next
          (s.instantiateClass d (arguments.map (·.close env scope)))) ∧
    ∀ name written, (TypeRef.named name written).close env scope =
      match env.lookup name with
      | .argument type callScope outer => type.close outer callScope
      | .missing => .any
      | .notParameter => .named scope name (written.map (·.close env scope)) := by
  obtain ⟨types, classes, -⟩ := s.describe_eq_describeClosed
  refine ⟨fun g type => ?_, fun stack next type => types stack env scope type next,
    fun stack next d => classes stack env d next, fun stack next d arguments => ?_,
    fun name written => close_named env scope name written⟩
  · rw [resolve, resolveClosed, types]
  · exact classes stack _ d next

end Generator

end ApiRecovery
