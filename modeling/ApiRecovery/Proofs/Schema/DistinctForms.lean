import ApiRecovery.Proofs.Schema.Patching
import ApiRecovery.Proofs.Schema.PropertyNames

/-!
# Schemas told apart by their forms

All kinds of schemas are written as records with keys in common, but the keys and the type tell the
kind. The form of a schema determines it, up to what is not written: the number of a reference,
and whether a reference to the unknown path has got that path or none.
-/

namespace ApiRecovery

def Value.get? : Value → String → Option Value
  | record fields, key => fields.lookup key
  | _, _ => none

namespace Schema

/-! ## Kinds of schemas -/

inductive Shape
  | primitive | array | object | free | reference | allOf | enumeration
  deriving DecidableEq, Repr

def shape : Schema → Shape
  | primitive _ _ _ => .primitive
  | array _ => .array
  | object _ _ => .object
  | free => .free
  | reference _ _ => .reference
  | allOf _ => .allOf
  | enumeration _ => .enumeration

def shapeOfForm (v : Value) : Shape :=
  if (v.get? "$ref").isSome then .reference
  else if (v.get? "allOf").isSome then .allOf
  else if (v.get? "enum").isSome then .enumeration
  else match v.get? "type", v.get? "additionalProperties" with
    | some (.text "array"), _ => .array
    | some (.text "object"), some (.record []) => .free
    | some (.text "object"), _ => .object
    | _, _ => .primitive

def plainTypes : List String := ["string", "integer", "number", "boolean"]

def HasPlainTypes (s : Schema) : Prop :=
  ∀ type format sample, (primitive type format sample).Within s → type ∈ plainTypes

theorem form_ne_empty (s : Schema) : s.form ≠ .record [] := by
  cases s <;> simp [form]

theorem get?_properties (properties : List (String × Schema)) (additional : Option Schema) :
    (object properties additional).form.get? "properties" =
      if properties.isEmpty then none
      else some (.record (properties.map fun p => (p.1, p.2.form))) := by
  rw [← propertiesForm_eq]
  cases properties <;> cases additional <;> rfl

theorem get?_additionalProperties (properties : List (String × Schema))
    (additional : Option Schema) :
    (object properties additional).form.get? "additionalProperties" = additional.map form := by
  cases properties <;> cases additional <;> rfl

/-- The keys and the type of a form tell the kind of the schema. -/
theorem shapeOfForm_form {s : Schema} (h : s.HasPlainTypes) : shapeOfForm s.form = s.shape := by
  cases s with
  | primitive type format sample =>
    have htype := h type format sample .here
    cases format <;> cases sample <;>
      rcases htype with _ | ⟨_, _ | ⟨_, _ | ⟨_, _ | ⟨_, ⟨⟩⟩⟩⟩⟩ <;> rfl
  | object properties additional =>
    have hadditional := get?_additionalProperties properties additional
    have hkeys : ((object properties additional).form.get? "$ref",
        (object properties additional).form.get? "allOf",
        (object properties additional).form.get? "enum",
        (object properties additional).form.get? "type") =
        (none, none, none, some (.text "object")) := by
      cases properties <;> cases additional <;> rfl
    simp only [Prod.mk.injEq] at hkeys
    obtain ⟨href, hall, henum, htype⟩ := hkeys
    rw [shapeOfForm, href, hall, henum, htype, hadditional]
    cases additional with
    | none => rfl
    | some values =>
      -- the form of a schema is never the empty record that stands for any content
      rw [Option.map_some]
      have hvalues := form_ne_empty values
      generalize values.form = v at hvalues
      match v with
      | .record [] => exact absurd rfl hvalues
      | .record (_ :: _) | .text _ | .flag _ | .list _ => rfl
  | _ => rfl

/-! ## What is written of a schema -/

/-- A schema as far as it is written: the references without their numbers, and with the unknown
path where they have no target. -/
def shown (s : Schema) : Schema :=
  (s.mapReferences fun _ target => some (target.getD unknownPath)).withoutNumbers

theorem shown_object (properties : List (String × Schema)) (additional : Option Schema) :
    (object properties additional).shown =
      object (properties.map fun p => (p.1, p.2.shown)) (additional.map shown) :=
  renumber_mapReferences_object _ _ _ _

theorem shown_allOf (parts : List Schema) : (allOf parts).shown = allOf (parts.map shown) :=
  renumber_mapReferences_allOf _ _ _

theorem form_shown (s : Schema) : s.shown.form = s.form := by
  induction s using inside_induction with
  | primitive | free | enumeration | reference => rfl
  | array items ih => rw [form, ← ih]; rfl
  | object properties additional ihp iha =>
    have hproperties : propertiesForm (properties.map fun p => (p.1, p.2.shown)) =
        propertiesForm properties := by
      rw [propertiesForm_eq, propertiesForm_eq, List.map_map]
      exact List.map_congr_left fun p hp => congrArg (Prod.mk p.1) (ihp p hp)
    have hadditional : additionalForm (additional.map shown) = additionalForm additional := by
      cases additional with
      | none => rfl
      | some values => rw [Option.map_some, additionalForm, iha values rfl, additionalForm]
    rw [shown_object, form, form, List.isEmpty_map, hproperties, hadditional]
  | allOf parts ih =>
    have hparts : partsForm (parts.map shown) = partsForm parts := by
      rw [partsForm_eq, partsForm_eq, List.map_map]
      exact List.map_congr_left ih
    rw [shown_allOf, form, form, hparts]

/-- What one map of the members tells of another holds for whole lists. -/
theorem map_eq_map_of_map_eq_map {α β γ : Type} {f : α → β} {g : α → γ} {as bs : List α}
    (h : ∀ a ∈ as, ∀ b ∈ bs, f a = f b → g a = g b) (hf : as.map f = bs.map f) :
    as.map g = bs.map g := by
  induction as generalizing bs with
  | nil => rw [List.map_nil, eq_comm, List.map_eq_nil_iff] at hf; rw [hf]
  | cons a as ih =>
    cases bs with
    | nil => cases hf
    | cons b bs =>
      obtain ⟨hfirst, hrest⟩ := List.cons.inj hf
      rw [List.map_cons, List.map_cons, h a List.mem_cons_self b List.mem_cons_self hfirst,
        ih (fun a ha b hb => h a (List.mem_cons_of_mem _ ha) b (List.mem_cons_of_mem _ hb)) hrest]

theorem shape_eq_of_form_eq {s t : Schema} (hs : s.HasPlainTypes) (ht : t.HasPlainTypes)
    (h : s.form = t.form) : s.shape = t.shape := by
  rw [← shapeOfForm_form hs, h, shapeOfForm_form ht]

theorem shown_eq_of_form_eq {s t : Schema} (hs : s.HasPlainTypes) (ht : t.HasPlainTypes)
    (h : s.form = t.form) : s.shown = t.shown := by
  induction s using inside_induction generalizing t with
  | primitive type format sample =>
    cases t with
    | primitive type' format' sample' =>
      cases format <;> cases sample <;> cases format' <;> cases sample' <;>
        simp_all [form, Value.field?]
    | _ => cases shape_eq_of_form_eq hs ht h
  | array items ih =>
    cases t with
    | array items' =>
      have hinside : items.form = items'.form := by simpa [form] using h
      have hshown := ih (fun _ _ _ hw => hs _ _ _ (.items hw))
        (fun _ _ _ hw => ht _ _ _ (.items hw)) hinside
      exact congrArg array hshown
    | _ => cases shape_eq_of_form_eq hs ht h
  | object properties additional ihp iha =>
    cases t with
    | object properties' additional' =>
      have hforms : (properties.map fun p => (p.1, p.2.form)) =
          properties'.map fun p => (p.1, p.2.form) := by
        have hget := congrArg (·.get? "properties") h
        simp only [get?_properties] at hget
        cases properties with
        | nil =>
          cases properties' with
          | nil => rfl
          | cons => simp at hget
        | cons =>
          cases properties' with
          | nil => simp at hget
          | cons => simpa using hget
      have hproperties : (properties.map fun p => (p.1, p.2.shown)) =
          properties'.map fun p => (p.1, p.2.shown) := by
        refine map_eq_map_of_map_eq_map (fun p hp q hq hpq => ?_) hforms
        obtain ⟨hname, hinside⟩ := Prod.mk.inj hpq
        have hshown := ihp p hp (fun _ _ _ hw => hs _ _ _ (.property hp hw))
          (fun _ _ _ hw => ht _ _ _ (.property hq hw)) hinside
        rw [hname, hshown]
      have hadditional : additional.map shown = additional'.map shown := by
        have hget := congrArg (·.get? "additionalProperties") h
        simp only [get?_additionalProperties] at hget
        cases additional with
        | none => rw [Option.map_eq_none_iff.1 hget.symm]
        | some values =>
          obtain ⟨values', rfl, hinside⟩ := Option.map_eq_some_iff.1 hget.symm
          have hshown := iha values rfl (fun _ _ _ hw => hs _ _ _ (.additional hw))
            (fun _ _ _ hw => ht _ _ _ (.additional hw)) hinside.symm
          rw [Option.map_some, Option.map_some, hshown]
      rw [shown_object, shown_object, hproperties, hadditional]
    | _ => cases shape_eq_of_form_eq hs ht h
  | free =>
    cases t with
    | free => rfl
    | _ => cases shape_eq_of_form_eq hs ht h
  | reference id target =>
    cases t with
    | reference id' target' =>
      have hpath : target.getD unknownPath = target'.getD unknownPath := by simpa [form] using h
      exact congrArg (fun path => reference 0 (some path)) hpath
    | _ => cases shape_eq_of_form_eq hs ht h
  | allOf parts ih =>
    cases t with
    | allOf parts' =>
      have hforms : parts.map form = parts'.map form := by simpa [form, partsForm_eq] using h
      have hparts : parts.map shown = parts'.map shown :=
        map_eq_map_of_map_eq_map (fun a ha b hb => ih a ha (fun _ _ _ hw => hs _ _ _ (.part ha hw))
          (fun _ _ _ hw => ht _ _ _ (.part hb hw))) hforms
      rw [shown_allOf, shown_allOf, hparts]
    | _ => cases shape_eq_of_form_eq hs ht h
  | enumeration values =>
    cases t with
    | enumeration values' =>
      have htexts : values.map Value.text = values'.map Value.text := by simpa [form] using h
      rw [(List.map_injective_iff.2 fun _ _ => Value.text.inj) htexts]
    | _ => cases shape_eq_of_form_eq hs ht h

theorem outline_shown (s : Schema) : s.shown.outline = s.outline := by
  induction s using inside_induction with
  | primitive | free | enumeration | reference => rfl
  | array items ih => exact congrArg array ih
  | object properties additional ihp iha =>
    rw [shown_object, outline_object, outline_object, List.map_map, Option.map_map]
    congr 1
    · exact List.map_congr_left fun p hp => congrArg (Prod.mk p.1) (ihp p hp)
    · cases additional with
      | none => rfl
      | some values => exact congrArg some (iha values rfl)
  | allOf parts ih =>
    rw [shown_allOf, outline_allOf, outline_allOf, List.map_map]
    exact congrArg allOf (List.map_congr_left ih)

/-- Two schemas of plain types are written alike exactly when they are the same but for numbers of
references and for the unknown path in place of no target. Only these are lost: with the references
known, the form is the schema. -/
theorem form_eq_iff_shown_eq {s t : Schema} (hs : s.HasPlainTypes) (ht : t.HasPlainTypes) :
    (s.form = t.form ↔ s.shown = t.shown) ∧
      (s = t ↔ s.form = t.form ∧ s.references = t.references) := by
  refine ⟨⟨shown_eq_of_form_eq hs ht, fun h => ?_⟩, ⟨fun h => h ▸ ⟨rfl, rfl⟩, fun h => ?_⟩⟩
  · rw [← form_shown s, h, form_shown]
  · have hshown := shown_eq_of_form_eq hs ht h.1
    exact eq_of_outline (by rw [← outline_shown s, hshown, outline_shown]) h.2

/-- A reference without a target among fields of any content is written like one to the unknown
path. -/
theorem unpatched_is_shown_as_unknown :
    let s := object [("free", free), ("list", array (reference 1 none))] (some string)
    let t := object [("free", free), ("list", array (reference 7 (some unknownPath)))] (some string)
    s.HasPlainTypes ∧ t.HasPlainTypes ∧ s.form = t.form ∧ s.shown = t.shown ∧ s ≠ t := by
  intro s t
  have hplain : ∀ id target, (object [("free", free), ("list", array (reference id target))]
      (some string)).HasPlainTypes := by
    rintro id target type format sample (_ | _ | ⟨hp, hw⟩ | hw)
    · simp only [List.mem_cons, Prod.mk.injEq, List.not_mem_nil, or_false] at hp
      rcases hp with ⟨-, rfl⟩ | ⟨-, rfl⟩
      · cases hw
      · rcases hw with _ | ⟨⟨⟩⟩
    · cases hw
      decide
  have hform : s.form = t.form := rfl
  exact ⟨hplain _ _, hplain _ _, hform,
    (form_eq_iff_shown_eq (hplain _ _) (hplain _ _)).1.1 hform, by simp [s, t]⟩

end Schema

end ApiRecovery
