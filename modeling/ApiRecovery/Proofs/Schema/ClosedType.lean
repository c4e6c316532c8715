import ApiRecovery.Schema.Resolve

/-!
# Types without parameters

A closed type has its bindings substituted away: each name carries the scope it was written in, and
none is a parameter. `describeClosed` gives its schema without an environment, so that nothing but
the type itself, the corpus and the classification can have a say in it.
-/

namespace ApiRecovery

open Java (Primitive TypeRef)

inductive ClosedType
  | primitive (p : Primitive)
  | void
  | array (element : ClosedType)
  | wildcard
  | upper (bound : ClosedType)
  | lower (bound : ClosedType)
  /-- what stands in the place of a parameter that has no argument -/
  | any
  | named (scope : Scope) (name : String) (arguments : List ClosedType)

/-! ## Substitution -/

/-- The index of the parameter that a name is; a name with dots is none. -/
def parameterIndex? (parameters : List String) (name : String) : Option Nat :=
  if name.toList.contains '.' then none else parameters.findIdx? (· == name)

namespace Java.TypeRef

mutual

/-- Replaces parameters by closed arguments, all at once; other names are of `scope`. -/
def instantiate (parameters : List String) (arguments : List ClosedType) (scope : Scope) :
    TypeRef → ClosedType
  | primitive p => .primitive p
  | void => .void
  | array element => .array (instantiate parameters arguments scope element)
  | wildcard => .wildcard
  | upper bound => .upper (instantiate parameters arguments scope bound)
  | lower bound => .lower (instantiate parameters arguments scope bound)
  | named name written =>
    match parameterIndex? parameters name with
    | some i => (arguments[i]?).getD .any
    | none => .named scope name (instantiateAll parameters arguments scope written)

def instantiateAll (parameters : List String) (arguments : List ClosedType) (scope : Scope) :
    List TypeRef → List ClosedType
  | [] => []
  | t :: ts =>
    instantiate parameters arguments scope t :: instantiateAll parameters arguments scope ts

end

theorem instantiateAll_eq (parameters : List String) (arguments : List ClosedType)
    (scope : Scope) (types : List TypeRef) :
    instantiateAll parameters arguments scope types =
      types.map (instantiate parameters arguments scope) := by
  induction types with
  | nil => rfl
  | cons t ts ih => rw [instantiateAll, ih, List.map_cons]

end Java.TypeRef

namespace Environment

def parameters : Environment → List String
  | empty => []
  | unbound parameters => parameters
  | bound parameters _ _ _ => parameters

/-- The arguments of the innermost declaration, closed where they were written. -/
def closedArguments : Environment → List ClosedType
  | empty | unbound _ => []
  | bound _ arguments scope outer =>
    arguments.map (TypeRef.instantiate outer.parameters outer.closedArguments scope)

end Environment

/-- Substitutes the bindings of an environment away. -/
def Java.TypeRef.close (type : TypeRef) (env : Environment) (scope : Scope) : ClosedType :=
  type.instantiate env.parameters env.closedArguments scope

/-! ## Descriptions -/

namespace Sources

structure ClosedClass where
  fields : List (String × ClosedType)
  superclass : Option ClosedType

/-- Replaces the types of a class. Which fields describe data, and whether the superclass is
mentioned, is decided on the types as they are written. -/
def closeClass (s : Sources) (d : Located) (close : TypeRef → ClosedType) : ClosedClass where
  fields := d.declaration.dataFields.map fun f => (s.serializedName d.scope f, close f.type)
  superclass := (s.superclass? d).map close

def instantiateClass (s : Sources) (d : Located) (arguments : List ClosedType) : ClosedClass :=
  s.closeClass d (TypeRef.instantiate d.declaration.typeParameters arguments d.scope)

inductive ClosedPlan
  | schema (schema : Schema)
  | reference (r : Reference)
  | via (wrapper : Wrapper) (type : ClosedType)
  | inPlace (d : Located) (arguments : List ClosedType)

def planGeneric (s : Sources) (stack : List String) (first : ClosedType) (rest : List ClosedType)
    (target : Resolved) : ClosedPlan :=
  if s.isInRole .transparentWrapper target.qualifiedName then .via .bare first
  else
    match target with
    | .external _ => .schema .free
    | .declared d =>
      if d.declaration.kind = .classType ∧ stack.length < maxFlattenDepth then
        .inPlace d (first :: rest)
      else .schema .free

def planSimple (s : Sources) (r : Reference) : ClosedPlan :=
  match s.classification.signatureOf? .forceSchema r.target.qualifiedName with
  | some signature => .schema (signature.schema.getD .free)
  | none => .reference r

def planResolved (s : Sources) (stack : List String) (r : Reference)
    (arguments : List ClosedType) : ClosedPlan :=
  if r.target.qualifiedName ∈ arrayTypes then
    (arguments[0]?).elim (.schema .free) (.via .array)
  else if r.target.qualifiedName ∈ mapTypes then
    (arguments[1]?).elim (.schema .free) (.via .map)
  else
    match valueSchemas.lookup r.target.qualifiedName, arguments with
    | some schema, _ => .schema schema
    | none, first :: rest => s.planGeneric stack first rest r.target
    | none, [] => s.planSimple r

def planClosed (s : Sources) (stack : List String) : ClosedType → ClosedPlan
  | .primitive p => .schema (primitiveSchema p)
  | .array element => .via .array element
  | .upper bound => .via .bare bound
  | .void | .wildcard | .lower _ | .any => .schema .free
  | .named scope name arguments =>
    match fixedSchema? name, s.corpus.resolveName scope name with
    | some schema, _ => .schema schema
    | none, .error _ => .schema .free
    | none, .ok target => s.planResolved stack ⟨name, scope, target⟩ arguments

section

variable {s : Sources} {stack : List String} {type type' : ClosedType} {wrapper : Wrapper}
  {d : Located} {arguments : List ClosedType}

theorem planClosed_via_lt (h : s.planClosed stack type = .via wrapper type') :
    sizeOf type' < sizeOf type := by
  cases type with
  | array element =>
    cases h
    simp
  | upper bound =>
    cases h
    simp
  | named scope name arguments =>
    have inside : ∀ {t : ClosedType}, t ∈ arguments →
        sizeOf t < sizeOf (ClosedType.named scope name arguments) := by
      intro t ht
      have hlt := List.sizeOf_lt_of_mem ht
      simp
      omega
    apply inside
    simp only [planClosed, planResolved, planGeneric, planSimple] at h
    grind
  | _ => cases h

theorem planClosed_eq_inPlace (h : s.planClosed stack type = .inPlace d arguments) :
    stack.length < maxFlattenDepth := by
  cases type with
  | named scope name written =>
    simp only [planClosed, planResolved, planGeneric, planSimple] at h
    grind
  | _ => cases h

end

mutual

/-- The schema of a closed type and the new references in it, numbered from `next` on. -/
def describeClosed (s : Sources) (stack : List String) (next : Nat) (type : ClosedType) :
    Schema × List Reference :=
  match _h : s.planClosed stack type with
  | .schema schema => (schema, [])
  | .reference r => (.reference next none, [r])
  | .via wrapper type =>
    let (schema, references) := describeClosed s stack next type
    (wrapper.apply schema, references)
  | .inPlace d arguments =>
    describeClosedClass s (d.qualifiedName :: stack) next (s.instantiateClass d arguments)
termination_by (maxFlattenDepth - stack.length, 0, sizeOf type)
decreasing_by
  · exact .right _ (.right _ (planClosed_via_lt _h))
  · have hlt := planClosed_eq_inPlace _h
    exact .left _ _ (by rw [List.length_cons]; omega)

def describeClosedClass (s : Sources) (stack : List String) (next : Nat) (c : ClosedClass) :
    Schema × List Reference :=
  let (properties, references) := describeClosedFields s stack next c.fields
  match c.superclass with
  | none => (classSchema properties none, references)
  | some superclass =>
    let (parent, more) := describeClosed s stack (next + references.length) superclass
    (classSchema properties (some parent), references ++ more)
termination_by (maxFlattenDepth - stack.length, 1, 0)

def describeClosedFields (s : Sources) (stack : List String) (next : Nat)
    (fields : List (String × ClosedType)) : List (String × Schema) × List Reference :=
  match fields with
  | [] => ([], [])
  | (name, type) :: fields =>
    let (schema, references) := describeClosed s stack next type
    let (properties, more) := describeClosedFields s stack (next + references.length) fields
    ((name, schema) :: properties, references ++ more)
termination_by (maxFlattenDepth - stack.length, 0, sizeOf fields)

end

section

variable {s : Sources} {stack : List String} {type type' : ClosedType}

theorem describeClosed_of_schema {schema : Schema} (h : s.planClosed stack type = .schema schema)
    (next : Nat) : s.describeClosed stack next type = (schema, []) := by
  rw [describeClosed]
  split <;> simp_all

theorem describeClosed_of_reference {r : Reference} (h : s.planClosed stack type = .reference r)
    (next : Nat) : s.describeClosed stack next type = (.reference next none, [r]) := by
  rw [describeClosed]
  split <;> simp_all

theorem describeClosed_of_via {wrapper : Wrapper}
    (h : s.planClosed stack type = .via wrapper type') (next : Nat) :
    s.describeClosed stack next type =
      (wrapper.apply (s.describeClosed stack next type').1,
        (s.describeClosed stack next type').2) := by
  rw [describeClosed]
  split <;> simp_all

theorem describeClosed_of_inPlace {d : Located} {arguments : List ClosedType}
    (h : s.planClosed stack type = .inPlace d arguments) (next : Nat) :
    s.describeClosed stack next type =
      s.describeClosedClass (d.qualifiedName :: stack) next (s.instantiateClass d arguments) := by
  rw [describeClosed]
  split <;> simp_all

theorem describeClosedFields_nil (next : Nat) :
    s.describeClosedFields stack next [] = ([], []) := by
  rw [describeClosedFields]

theorem describeClosedFields_cons (name : String) (type : ClosedType)
    (fields : List (String × ClosedType)) (next : Nat) :
    s.describeClosedFields stack next ((name, type) :: fields) =
      ((name, (s.describeClosed stack next type).1) ::
        (s.describeClosedFields stack (next + (s.describeClosed stack next type).2.length)
          fields).1,
        (s.describeClosed stack next type).2 ++
          (s.describeClosedFields stack (next + (s.describeClosed stack next type).2.length)
            fields).2) := by
  rw [describeClosedFields]

end

end Sources

end ApiRecovery
