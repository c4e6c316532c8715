import ApiRecovery.Classification.Basic
import ApiRecovery.Naming
import ApiRecovery.Schema.Environment

/-!
# How the schema of a type is found

A `Plan` is the first step towards the schema of a type as written: the schema itself, a reference
to a component, another type whose schema to find, or a class to describe in place. Generic
declarations are described in place, with their parameters bound to the arguments, to a limited
depth.
-/

namespace ApiRecovery

open Java (Declaration Annotation Field Primitive TypeRef)

structure Sources where
  corpus : Corpus
  classification : Classification

/-- A type that a component is needed for: its name as written, where, and what it stands for. -/
structure Reference where
  name : String
  scope : Scope
  target : Resolved

/-- Collections, described as arrays of their first argument. -/
def arrayTypes : List String :=
  ["java.util.List", "java.util.ArrayList", "java.util.LinkedList", "java.util.Collection",
   "java.util.Set", "java.util.HashSet", "java.util.LinkedHashSet"]

/-- Maps, described as objects of their second argument. -/
def mapTypes : List String :=
  ["java.util.Map", "java.util.HashMap", "java.util.LinkedHashMap", "java.util.TreeMap"]

def valueSchemas : List (String × Schema) :=
  [("java.util.Date", .formatted "string" "date-time"),
   ("java.lang.Boolean", .boolean),
   ("java.lang.Integer", .integer),
   ("java.lang.Long", .integer),
   ("java.lang.Short", .integer),
   ("java.lang.Byte", .integer),
   ("java.math.BigInteger", .integer),
   ("java.lang.Float", .number),
   ("java.lang.Double", .number),
   ("java.math.BigDecimal", .number),
   ("java.lang.String", .string),
   ("java.lang.Object", .free),
   ("java.lang.Void", .free)]

def primitiveSchema : Primitive → Schema
  | .boolean => .boolean
  | .byte | .short | .int | .long | .char => .integer
  | .float | .double => .number

/-- The schemas of names that are never looked up. -/
def fixedSchema? : String → Option Schema
  | "String" => some .string
  | "Integer" => some .integer
  | _ => none

/-- How many generic declarations may be described inside each other. -/
def maxFlattenDepth : Nat := 4

def parcelableTypes : List String :=
  ["Parcelable", "Parcelable.Creator", "Creator"]

def isParcelable (f : Field) : Bool :=
  (f.type.name?.map parcelableTypes.contains).getD false

theorem Java.Field.sizeOf_type_lt (f : Field) : sizeOf f.type < sizeOf f := by
  cases f
  simp +arith

def Java.Declaration.dataFields (d : Declaration) : List Field :=
  d.fields.filter fun f => !f.isStatic && !isParcelable f

namespace Sources

def isInRole (s : Sources) (role : TypeRole) (qualifiedName : String) : Bool :=
  s.classification.isInRole role qualifiedName

/-- The name of a field in serialized data: what its first alias annotation says. -/
def serializedName (s : Sources) (scope : Scope) (f : Field) : String :=
  let alias? (a : Annotation) : Option String :=
    match s.corpus.resolveName scope a.name with
    | .ok found =>
      if s.isInRole .alias found.qualifiedName then a.value?.bind (·.text?) else none
    | .error _ => none
  (f.annotations.findSome? alias?).getD f.name

def keepsSuperclass (s : Sources) (scope : Scope) (superclass : TypeRef) : Bool :=
  match superclass.name?.map (s.corpus.resolveName scope) with
  | some (.ok found) =>
    found.qualifiedName != "java.lang.Object" &&
      !s.isInRole .ignoreWhenExtended found.qualifiedName
  | _ => false

def superclass? (s : Sources) (d : Located) : Option TypeRef :=
  d.declaration.superclass?.filter (s.keepsSuperclass d.scope)

def classSchema (properties : List (String × Schema)) : Option Schema → Schema
  | none => .object properties none
  | some parent => .allOf [parent, .object properties none]

/-- What becomes of the schema of a type on the way to the schema of the type around it. -/
inductive Wrapper
  | bare | array | map

def Wrapper.apply : Wrapper → Schema → Schema
  | bare, schema => schema
  | array, schema => .array schema
  | map, schema => .mapOf schema

inductive Plan
  /-- at once -/
  | schema (schema : Schema)
  /-- as a reference to the component of `target` -/
  | reference (name : String) (target : Resolved)
  /-- from the schema of another type -/
  | via (wrapper : Wrapper) (env : Environment) (scope : Scope) (type : TypeRef)
  /-- by describing a generic class in place -/
  | inPlace (d : Located) (env : Environment)

def planTarget (s : Sources) (stack : List String) (env : Environment) (scope : Scope)
    (name : String) (arguments : List TypeRef) (target : Resolved) : Plan :=
  let qualifiedName := target.qualifiedName
  if arrayTypes.contains qualifiedName then
    match arguments with
    | [] => .schema .free
    | element :: _ => .via .array env scope element
  else if mapTypes.contains qualifiedName then
    match arguments with
    | _ :: values :: _ => .via .map env scope values
    | _ => .schema .free
  else match valueSchemas.lookup qualifiedName with
    | some schema => .schema schema
    | none =>
      match arguments with
      | first :: rest =>
        if s.isInRole .transparentWrapper qualifiedName then .via .bare env scope first
        else
          match target with
          | .external _ => .schema .free
          | .declared d =>
            if d.declaration.kind = .classType then
              if stack.length < maxFlattenDepth then
                .inPlace d (.bound d.declaration.typeParameters (first :: rest) scope env)
              else .schema .free
            else .schema .free
      | [] =>
        match s.classification.signatureOf? .forceSchema qualifiedName with
        | some signature => .schema (signature.schema.getD .free)
        | none => .reference name target

/-- How the schema of a type is found. `stack` holds the generic declarations that are being
described, innermost first. -/
def plan (s : Sources) (stack : List String) (env : Environment) (scope : Scope) : TypeRef → Plan
  | .primitive p => .schema (primitiveSchema p)
  | .void => .schema .free
  | .array element => .via .array env scope element
  | .wildcard => .schema .free
  | .upper bound => .via .bare env scope bound
  | .lower _ => .schema .free
  | .named name arguments =>
    match env.lookup name with
    | .missing => .schema .free
    | .argument type scope outer => .via .bare outer scope type
    | .notParameter =>
      match fixedSchema? name with
      | some schema => .schema schema
      | none =>
        match s.corpus.resolveName scope name with
        | .error _ => .schema .free
        | .ok target => s.planTarget stack env scope name arguments target

section

variable {s : Sources} {stack : List String} {env env' : Environment} {scope scope' : Scope}
  {name : String} {arguments : List TypeRef} {target : Resolved} {type type' : TypeRef}
  {wrapper : Wrapper} {d : Located}

theorem planTarget_eq_via
    (h : s.planTarget stack env scope name arguments target = .via wrapper env' scope' type') :
    env' = env ∧ scope' = scope ∧ type' ∈ arguments := by
  simp only [planTarget] at h
  repeat' split at h
  all_goals cases h
  all_goals simp

/-- A class is described in place only where the depth allows it. -/
theorem planTarget_eq_inPlace
    (h : s.planTarget stack env scope name arguments target = .inPlace d env') :
    target = .declared d ∧ d.declaration.kind = .classType ∧ stack.length < maxFlattenDepth ∧
      env' = .bound d.declaration.typeParameters arguments scope env := by
  simp only [planTarget] at h
  repeat' split at h
  all_goals cases h
  exact ⟨rfl, ‹_›, ‹_›, rfl⟩

theorem planTarget_eq_reference {name' : String} {target' : Resolved}
    (h : s.planTarget stack env scope name arguments target = .reference name' target') :
    name' = name ∧ target' = target := by
  simp only [planTarget] at h
  repeat' split at h
  all_goals cases h
  exact ⟨rfl, rfl⟩

/-- On the way to another type either the environment or the type gets smaller. -/
theorem plan_via_lt (h : s.plan stack env scope type = .via wrapper env' scope' type') :
    Prod.Lex (· < ·) (· < ·) (env'.depth, sizeOf type') (env.depth, sizeOf type) := by
  cases type with
  | array element =>
    cases h
    exact .right _ (by simp)
  | upper bound =>
    cases h
    exact .right _ (by simp)
  | named name arguments =>
    simp only [plan] at h
    split at h
    · cases h
    · rename_i hl
      cases h
      exact .left _ _ (Environment.depth_lt_of_lookup hl)
    · split at h
      · cases h
      · split at h
        · cases h
        · obtain ⟨rfl, rfl, hmem⟩ := planTarget_eq_via h
          have hlt := List.sizeOf_lt_of_mem hmem
          exact .right _ (by simp; omega)
  | _ => cases h

theorem plan_eq_inPlace (h : s.plan stack env scope type = .inPlace d env') :
    stack.length < maxFlattenDepth ∧ d.declaration.kind = .classType ∧
      ∃ name arguments, type = .named name arguments ∧
        s.corpus.resolveName scope name = .ok (.declared d) ∧
        env' = .bound d.declaration.typeParameters arguments scope env := by
  cases type with
  | named name arguments =>
    simp only [plan] at h
    repeat' split at h
    all_goals first | cases h | skip
    rename_i hr
    obtain ⟨rfl, hkind, hlt, rfl⟩ := planTarget_eq_inPlace h
    exact ⟨hlt, hkind, name, arguments, rfl, hr, rfl⟩
  | _ => cases h

/-- A reference stands for what its name stands for in the scope. -/
theorem plan_eq_reference (h : s.plan stack env scope type = .reference name target) :
    s.corpus.resolveName scope name = .ok target := by
  cases type with
  | named name arguments =>
    simp only [plan] at h
    repeat' split at h
    all_goals first | cases h | skip
    rename_i hr
    obtain ⟨rfl, rfl⟩ := planTarget_eq_reference h
    exact hr
  | _ => cases h

end

end Sources

end ApiRecovery
