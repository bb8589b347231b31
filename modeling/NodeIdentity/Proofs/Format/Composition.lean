import NodeIdentity.Proofs.Format.RoundTrip

/-!
# Formats that are put together

All formats of resources are put together in a few ways: from plain values, lists, dictionaries and
records of fields.  `Format.Composed` says that a format is, so a law that every way keeps is proved
once, by induction on how the format was put together, and holds of every resource and of all its
parts.  The first such law is that what was written is read back.
-/

namespace NodeIdentity

mutual

/-- A format is put together from plain values, lists, dictionaries and records. -/
inductive Format.Composed : {α : Type} → Format α → Prop
  | text : Format.text.Composed
  | truth : Format.truth.Composed
  | int32 : Format.int32.Composed
  | int64 : Format.int64.Composed
  | list {α : Type} {items : Format α} (h : items.Composed) : items.list.Composed
  | dict {α : Type} {values : Format α} (h : values.Composed) : values.dict.Composed
  | described {α : Type} {format : Format α} (h : format.Composed) (description : String) :
      (format.described description).Composed
  | record {ρ : Type} {fields : Fields ρ ρ} {build : ρ → ρ} (h : fields.Composed build)
      (same : ∀ record, build record = record) (style : RecordStyle) (name : String) :
      (Format.recordOf style name fields).Composed

/-- A field of a record is one of the four kinds, and its value has such a format. -/
inductive Field.Composed : {ρ β : Type} → Field ρ β → (ρ → β) → Prop
  | mandatory {ρ β : Type} {format : Format β} (h : format.Composed) (name : String)
      (description : Option String) (get : ρ → β) :
      (Field.mandatory name description format get).Composed get
  | optional {ρ β : Type} {format : Format β} (h : format.Composed) (name : String)
      (description : Option String) (get : ρ → Option β) (mayEnd : Bool) :
      (Field.optional name description format get mayEnd).Composed get
  | defaulted {ρ β : Type} {format : Format β} (h : format.Composed) (name : String)
      (description : Option String) (standIn : β) (get : ρ → β) :
      (Field.defaulted name description format standIn get).Composed get
  | lenient {ρ β : Type} {format : Format β} (h : format.Composed) (name : String) (standIn : β)
      (get : ρ → β) :
      (Field.lenient name format standIn get).Composed get

/-- Fields under different names, from which `build` is what they give back for a record. -/
inductive Fields.Composed : {ρ α : Type} → Fields ρ α → (ρ → α) → Prop
  | start {ρ α : Type} (value : α) : (Fields.start value : Fields ρ α).Composed (fun _ => value)
  | and {ρ α β : Type} {fields : Fields ρ (β → α)} {build : ρ → β → α}
      (h : fields.Composed build) {field : Field ρ β} {get : ρ → β} (hfield : field.Composed get)
      (fresh : field.name ∉ fields.checks.map (·.name)) :
      (fields.and field).Composed (fun record => build record (get record))

end

mutual

theorem Format.Composed.lawful {α : Type} {format : Format α} : format.Composed → format.Lawful
  | .text => Format.text_lawful
  | .truth => Format.truth_lawful
  | .int32 => Format.int32_lawful
  | .int64 => Format.int64_lawful
  | .list h => Format.list_lawful h.lawful
  | .dict h => Format.dict_lawful h.lawful
  | .described h description => Format.described_lawful h.lawful description
  | .record h same style name => Format.recordOf_lawful h.lawful same style name

theorem Field.Composed.lawful {ρ β : Type} {field : Field ρ β} {get : ρ → β} :
    field.Composed get → field.Lawful get
  | .mandatory h name description get => Field.mandatory_lawful h.lawful name description get
  | .optional h name description get mayEnd =>
      Field.optional_lawful h.lawful name description get mayEnd
  | .defaulted h name description standIn get =>
      Field.defaulted_lawful h.lawful name description standIn get
  | .lenient h name standIn get => Field.lenient_lawful h.lawful name standIn get

theorem Fields.Composed.lawful {ρ α : Type} {fields : Fields ρ α} {build : ρ → α} :
    fields.Composed build → fields.Lawful build
  | .start value => Fields.start_lawful value
  | .and h hfield fresh => Fields.Lawful.and h.lawful hfield.lawful fresh

end

theorem Fields.declared_and {ρ α β : Type} {fields : Fields ρ (β → α)}
    (h : fields.members.map (·.1) = fields.checks.map (·.name)) (field : Field ρ β) :
    (fields.and field).members.map (·.1) = (fields.and field).checks.map (·.name) := by
  simp only [Fields.and, List.map_append, h]
  rfl

/-- Composed fields declare a member for each name that they read. -/
theorem Fields.Composed.declared {ρ α : Type} {fields : Fields ρ α} {build : ρ → α} :
    fields.Composed build → fields.members.map (·.1) = fields.checks.map (·.name)
  | .start _ => rfl
  | .and h _ _ => Fields.declared_and h.declared _

end NodeIdentity
