import ApiRecovery.Schema.Generator
import Mathlib.Data.List.Basic

/-!
# Names of properties

The properties of an object, at any depth of the description of a class, have the serialized names
of the fields of one class of the corpus. Nothing else keeps them distinct: a name that an alias
gives to one field may be the name of another.
-/

namespace ApiRecovery

open Java (Field TypeRef Declaration)

namespace Schema

inductive Within (inner : Schema) : Schema → Prop
  | here : Within inner inner
  | items {items : Schema} : Within inner items → Within inner (.array items)
  | property {properties : List (String × Schema)} {additional : Option Schema} {name : String}
      {s : Schema} : (name, s) ∈ properties → Within inner s →
      Within inner (.object properties additional)
  | additional {properties : List (String × Schema)} {values : Schema} :
      Within inner values → Within inner (.object properties (some values))
  | part {parts : List Schema} {s : Schema} : s ∈ parts → Within inner s →
      Within inner (.allOf parts)

def isSimple : Schema → Bool
  | primitive _ _ _ | free => true
  | _ => false

theorem not_within_of_isSimple {s : Schema} (h : s.isSimple)
    {properties : List (String × Schema)} {additional : Option Schema} :
    ¬ (object properties additional).Within s := by
  cases s with
  | primitive | free => rintro ⟨⟩
  | _ => cases h

theorem isSimple_forced (signature : Signature) : (signature.schema.getD free).isSimple := by
  rw [Signature.schema]
  rcases signature.forced with _ | _ | _ <;> rfl

end Schema

namespace Sources

def propertyNames (s : Sources) (d : Located) : List String :=
  d.declaration.dataFields.map (s.serializedName d.scope)

/-- Whether properties are those of a class of the corpus, or there are none. -/
def AreOfClass (s : Sources) (properties : List (String × Schema)) : Prop :=
  properties = [] ∨ ∃ d, s.corpus.Declares d ∧ d.declaration.kind = .classType ∧
    properties.map Prod.fst = s.propertyNames d

section

variable {s : Sources} {stack : List String} {env : Environment} {scope : Scope}
  {properties properties' : List (String × Schema)} {additional : Option Schema}

/-! ## Objects in composed schemas -/

theorem within_classSchema {parent : Option Schema}
    (h : (Schema.object properties additional).Within (classSchema properties' parent)) :
    properties = properties' ∨
      (∃ p ∈ properties', (Schema.object properties additional).Within p.2) ∨
      ∃ schema, parent = some schema ∧ (Schema.object properties additional).Within schema := by
  have hown : ∀ {schema}, (Schema.object properties additional).Within schema →
      schema = .object properties' none → properties = properties' ∨
        ∃ p ∈ properties', (Schema.object properties additional).Within p.2 := by
    intro schema h heq
    cases h <;> cases heq
    case here => exact .inl rfl
    case property h hp => exact .inr ⟨_, hp, h⟩
  cases parent with
  | none =>
    rcases hown h rfl with heq | hinner
    · exact .inl heq
    · exact .inr (.inl hinner)
  | some schema =>
    cases h with
    | part hmem h =>
      simp only [List.mem_cons, List.not_mem_nil, or_false] at hmem
      rcases hmem with rfl | rfl
      · exact .inr (.inr ⟨_, rfl, h⟩)
      · rcases hown h rfl with heq | hinner
        · exact .inl heq
        · exact .inr (.inl hinner)

theorem within_apply {wrapper : Wrapper} {schema : Schema}
    (h : (Schema.object properties additional).Within (wrapper.apply schema)) :
    properties = [] ∨ (Schema.object properties additional).Within schema := by
  cases wrapper with
  | bare => exact .inr h
  | array =>
    cases h with
    | items h => exact .inr h
  | map =>
    cases h with
    | here => exact .inl rfl
    | property hp _ => cases hp
    | additional h => exact .inr h

theorem isSimple_lookup {table : List (String × Schema)} {name : String} {schema : Schema}
    (htable : ∀ entry ∈ table, entry.2.isSimple) (h : table.lookup name = some schema) :
    schema.isSimple := by
  obtain ⟨before, after, rfl, -⟩ := List.lookup_eq_some_iff.1 h
  exact htable (name, schema) (by simp)

theorem isSimple_of_planTarget {name : String} {arguments : List TypeRef} {target : Resolved}
    {schema : Schema} (h : s.planTarget stack env scope name arguments target = .schema schema) :
    schema.isSimple := by
  simp only [planTarget] at h
  repeat' split at h
  all_goals cases h
  all_goals first
    | rfl
    | exact Schema.isSimple_forced _
    | exact isSimple_lookup (by decide) ‹valueSchemas.lookup _ = some _›

theorem isSimple_of_plan {type : TypeRef} {schema : Schema}
    (h : s.plan stack env scope type = .schema schema) : schema.isSimple := by
  cases type with
  | primitive p =>
    cases h
    cases p <;> rfl
  | array element => cases h
  | upper bound => cases h
  | named name arguments =>
    simp only [plan] at h
    split at h
    · cases h
      rfl
    · cases h
    · split at h
      · rename_i hfixed
        cases h
        simp only [fixedSchema?] at hfixed
        split at hfixed <;> cases hfixed <;> rfl
      · split at h
        · cases h
          rfl
        · exact isSimple_of_planTarget h
  | void | wildcard | lower _ =>
    cases h
    rfl

/-! ## Objects in descriptions -/

theorem names_describeFields (fields : List Field) (next : Nat) :
    (s.describeFields stack env scope next fields).1.map Prod.fst =
      fields.map (s.serializedName scope) := by
  induction fields generalizing next with
  | nil => rw [describeFields_nil, List.map_nil, List.map_nil]
  | cons f fields ih => rw [describeFields_cons, List.map_cons, List.map_cons, ih]

/-- Whatever object sits in a description has the properties of a class. -/
theorem areOfClass_of_within (s : Sources) :
    (∀ stack env scope type next properties additional,
      (Schema.object properties additional).Within (s.describe stack env scope next type).1 →
      s.AreOfClass properties) ∧
    (∀ stack env d, s.corpus.Declares d → d.declaration.kind = .classType →
      ∀ next properties additional,
      (Schema.object properties additional).Within (s.describeClass stack env d next).1 →
      s.AreOfClass properties) ∧
    ∀ stack env scope fields next properties additional,
      (∃ p ∈ (s.describeFields stack env scope next fields).1,
        (Schema.object properties additional).Within p.2) → s.AreOfClass properties := by
  refine describe_induction s ?schema ?reference ?via ?inPlace ?plain ?extended ?nil ?cons
  case schema =>
    intro _ _ _ _ _ h next properties additional hin
    rw [describe_of_schema h] at hin
    exact absurd hin (Schema.not_within_of_isSimple (isSimple_of_plan h))
  case reference =>
    intro _ _ _ _ _ _ h next properties additional hin
    rw [describe_of_reference h] at hin
    cases hin
  case via =>
    intro _ _ _ _ _ _ _ _ h ih next properties additional hin
    rw [describe_of_via h] at hin
    rcases within_apply hin with hnil | hin
    · exact .inl hnil
    · exact ih next properties additional hin
  case inPlace =>
    intro _ _ _ _ _ _ h ih next properties additional hin
    rw [describe_of_inPlace h] at hin
    obtain ⟨-, hkind, _, _, -, hname, -⟩ := plan_eq_inPlace h
    exact ih (Corpus.provides_resolveName hname) hkind next properties additional hin
  case plain =>
    intro stack env d h ih hd hkind next properties additional hin
    rw [describeClass_of_none h] at hin
    dsimp only at hin
    rcases within_classSchema hin with rfl | hinner | ⟨_, hnone, -⟩
    · exact .inr ⟨d, hd, hkind, names_describeFields _ _⟩
    · exact ih next properties additional hinner
    · cases hnone
  case extended =>
    intro stack env d _ h ih₁ ih₂ hd hkind next properties additional hin
    rw [describeClass_of_some h] at hin
    dsimp only at hin
    rcases within_classSchema hin with rfl | hinner | ⟨_, hparent, hinner⟩
    · exact .inr ⟨d, hd, hkind, names_describeFields _ _⟩
    · exact ih₁ next properties additional hinner
    · cases hparent
      exact ih₂ _ properties additional hinner
  case nil =>
    intro _ _ _ next properties additional hin
    rw [describeFields_nil] at hin
    obtain ⟨_, hmem, -⟩ := hin
    cases hmem
  case cons =>
    intro _ _ _ _ _ ih₁ ih₂ next properties additional hin
    rw [describeFields_cons] at hin
    obtain ⟨p, hmem, hin⟩ := hin
    rcases List.mem_cons.1 hmem with rfl | hmem
    · exact ih₁ next properties additional hin
    · exact ih₂ _ properties additional ⟨p, hmem, hin⟩

theorem exists_own_object (s : Sources) (stack : List String) (env : Environment) (d : Located)
    (next : Nat) : ∃ properties, properties.map Prod.fst = s.propertyNames d ∧
      (Schema.object properties none).Within (s.describeClass stack env d next).1 := by
  refine ⟨(s.describeFields stack env d.scope next d.declaration.dataFields).1,
    names_describeFields _ _, ?_⟩
  cases h : s.superclass? d with
  | none =>
    rw [describeClass_of_none h]
    exact .here
  | some superclass =>
    rw [describeClass_of_some h]
    exact .part (List.mem_cons_of_mem _ (List.mem_singleton_self _)) .here

end

/-- In the descriptions of classes, with whatever arguments, all objects have distinct names if and
only if the fields of each class have distinct serialized names. -/
theorem nodup_properties_iff (s : Sources) :
    (∀ d, s.corpus.Declares d → d.declaration.kind = .classType →
      ∀ stack env next properties additional,
        (Schema.object properties additional).Within (s.describeClass stack env d next).1 →
        (properties.map Prod.fst).Nodup) ↔
    ∀ d, s.corpus.Declares d → d.declaration.kind = .classType → (s.propertyNames d).Nodup := by
  constructor
  · intro h d hd hkind
    obtain ⟨properties, hnames, hin⟩ :=
      s.exists_own_object [] (.unbound d.declaration.typeParameters) d 0
    rw [← hnames]
    exact h d hd hkind _ _ _ properties none hin
  · intro h d hd hkind stack env next properties additional hin
    rcases s.areOfClass_of_within.2.1 stack env d hd hkind next properties additional hin with
      rfl | ⟨d', hd', hkind', hnames⟩
    · exact .nil
    · rw [hnames]
      exact h d' hd' hkind'

/-- An alias that is the name of another field. -/
theorem exists_repeated_name :
    let s : Sources :=
      ⟨.ofSources [("A.java", "import com.google.gson.annotations.SerializedName;\n" ++
        "class A \x7b @SerializedName(\"b\") int a; int b; \x7d")],
        Classification.injectByName {} "SerializedName"
          "com.google.gson.annotations.SerializedName"⟩
    ∃ d, s.corpus.Declares d ∧ d.declaration.kind = .classType ∧ ∃ properties,
      (Schema.object properties none).Within (s.plainClass d 0).1 ∧
      properties.map Prod.fst = ["b", "b"] := by
  intro s
  have hevaluated : (s.corpus.topLevel? 0 "A").map
      (fun d => (d.declaration.kind, s.propertyNames d)) = some (.classType, ["b", "b"]) := by
    decide +kernel
  obtain ⟨d, hd, hboth⟩ := Option.map_eq_some_iff.1 hevaluated
  obtain ⟨hkind, hnames⟩ := Prod.mk.inj hboth
  obtain ⟨properties, hproperties, hin⟩ :=
    s.exists_own_object [] (.unbound d.declaration.typeParameters) d 0
  exact ⟨d, Corpus.declares_topLevel hd, hkind, properties, hin, hproperties.trans hnames⟩

end Sources

end ApiRecovery
