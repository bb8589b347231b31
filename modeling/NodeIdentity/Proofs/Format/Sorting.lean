import NodeIdentity.Proofs.Format.Composition
import NodeIdentity.Proofs.Format.Reading

/-!
# Reading sorted documents

A document is sent with the members of all its objects in ascending order, which is not the order of
a record's fields.  Writing in ascending order is lawful too, for every format that is put together.
-/

namespace NodeIdentity

def Format.sorted {α : Type} (format : Format α) : Format α :=
  { format with encode := fun value => (format.encode value).canonical }

def Field.sorted {ρ β : Type} (field : Field ρ β) : Field ρ β :=
  { field with write := fun record => (field.write record).map Json.canonical }

def Fields.sorted {ρ α : Type} (fields : Fields ρ α) : Fields ρ α :=
  { fields with write := fun record => Json.canonicalMembers (fields.write record) }

/-! ## Plain values, lists and dictionaries -/

namespace Format

variable {α : Type}

/-- Formats that read and write alike keep the law alike. -/
theorem Lawful.congr {format other : Format α} (h : format.Lawful)
    (decode : other.decode = format.decode)
    (encode : ∀ value, other.encode value = format.encode value) : other.Lawful := by
  constructor
  · intro value
    rw [decode, encode]
    exact h.decode_encode value
  · intro value
    rw [encode]
    exact h.encode_ne_null value

theorem list_sorted_lawful {items : Format α} (h : items.sorted.Lawful) :
    items.list.sorted.Lawful := by
  refine (list_lawful h).congr rfl ?_
  intro values
  simp [sorted, list, Json.canonical, Json.canonicalItems_eq]

theorem dict_sorted_lawful {values : Format α} (h : values.sorted.Lawful) :
    values.dict.sorted.Lawful := by
  refine (dict_lawful h).congr rfl ?_
  intro entries
  have hmembers : Json.canonicalMembers
      (entries.toList.map (fun entry => (entry.1, values.encode entry.2))) =
        entries.toList.map (fun entry => (entry.1, (values.encode entry.2).canonical)) := by
    simp [Json.canonicalMembers_eq]
  simp only [sorted, dict, Json.canonical, hmembers]
  apply Json.object_of_ascending
  rw [List.pairwise_map]
  exact entries.ascending

end Format

/-! ## Records -/

theorem Field.sorted_optional_lawful {ρ β : Type} {format : Format β} (h : format.sorted.Lawful)
    (name : String) (description : Option String) (get : ρ → Option β) (mayEnd : Bool) :
    (Field.optional name description format get mayEnd).sorted.Lawful get := by
  have hlaw := Field.optional_lawful h name description get mayEnd
  constructor
  · intro record document hwrite
    refine hlaw.written record document ?_
    rw [← hwrite]
    simp [Field.sorted, Field.optional, Format.sorted, Function.comp_def]
  · intro record hwrite
    refine hlaw.omitted record ?_
    rw [← hwrite]
    simp [Field.sorted, Field.optional, Format.sorted, Function.comp_def]

theorem Fields.sorted_and {ρ α β : Type} (fields : Fields ρ (β → α)) (field : Field ρ β) :
    (fields.and field).sorted = fields.sorted.and field.sorted := by
  have hwrite : ∀ record, Json.canonicalMembers ((fields.and field).write record) =
      (fields.sorted.and field.sorted).write record := by
    intro record
    simp only [and, sorted, Field.sorted, Json.canonicalMembers_eq, List.map_append]
    cases field.write record <;> rfl
  simp only [sorted, hwrite]
  rfl

theorem Fields.sorted_names {ρ α : Type} (fields : Fields ρ α) (record : ρ) :
    (fields.sorted.write record).map (·.1) = (fields.write record).map (·.1) := by
  simp [sorted, Json.canonicalMembers_eq, Function.comp_def]

theorem Fields.sublist_and {ρ α β : Type} {fields : Fields ρ (β → α)} {record : ρ}
    (h : ((fields.write record).map (·.1)).Sublist (fields.checks.map (·.name)))
    (field : Field ρ β) :
    (((fields.and field).write record).map (·.1)).Sublist
      ((fields.and field).checks.map (·.name)) := by
  simp only [Fields.and, List.map_append]
  refine h.append ?_
  cases field.write record <;> simp

/-- Members are written in the order of the fields, at most one for each. -/
theorem Fields.Composed.names_sublist {ρ α : Type} {fields : Fields ρ α} {build : ρ → α} :
    fields.Composed build → ∀ record,
      ((fields.write record).map (·.1)).Sublist (fields.checks.map (·.name))
  | .start _, _ => List.Sublist.refl []
  | .and h _ _, record => Fields.sublist_and (h.names_sublist record) _

theorem Fields.Composed.names_nodup {ρ α : Type} {fields : Fields ρ α} {build : ρ → α}
    (h : fields.Composed build) (record : ρ) : ((fields.write record).map (·.1)).Nodup :=
  (h.names_sublist record).nodup h.lawful.nodup

/-- A record is read back from its members in ascending order. -/
theorem Fields.Lawful.decodeObject_object {ρ α : Type} {fields : Fields ρ α} {build : ρ → α}
    (h : fields.Lawful build) (record : ρ) {header : List (String × Json)}
    (apart : ∀ member ∈ header, member.1 ∉ fields.checks.map (·.name))
    (names : ((header ++ fields.write record).map (·.1)).Nodup) :
    fields.decodeObject (Json.object (header ++ fields.write record)).members =
      .ok (build record) := by
  refine h.decodeObject_of_lookup record apart (fun _ => Json.mem_members_object) ?_
  intro name
  rw [← lookup_reverse names]
  exact Json.member?_object _ name

theorem Format.recordOf_sorted_lawful {ρ : Type} {fields : Fields ρ ρ} {build : ρ → ρ}
    (h : fields.sorted.Lawful build) (apart : ∀ record, ((fields.write record).map (·.1)).Nodup)
    (same : ∀ record, build record = record) (style : RecordStyle) (name : String) :
    (Format.recordOf style name fields).sorted.Lawful := by
  constructor
  · intro record
    have hnames : ((fields.sorted.write record).map (·.1)).Nodup := by
      rw [Fields.sorted_names]
      exact apart record
    have hapart : ∀ member ∈ ([] : List (String × Json)),
        member.1 ∉ fields.checks.map (·.name) := by simp
    have hread := h.decodeObject_object record hapart hnames
    rw [same] at hread
    exact hread
  · intro record hnull
    cases hnull

/-! ## Formats that are put together -/

mutual

theorem Format.Composed.sorted_lawful {α : Type} {format : Format α} :
    format.Composed → format.sorted.Lawful
  | .text => Format.text_lawful.congr rfl (fun _ => rfl)
  | .truth => Format.truth_lawful.congr rfl (fun _ => rfl)
  | .int32 => Format.int32_lawful.congr rfl (fun _ => rfl)
  | .int64 => Format.int64_lawful.congr rfl (fun _ => rfl)
  | .list h => Format.list_sorted_lawful h.sorted_lawful
  | .dict h => Format.dict_sorted_lawful h.sorted_lawful
  | .described h description => Format.described_lawful h.sorted_lawful description
  | .record h same style name =>
      Format.recordOf_sorted_lawful h.sorted_lawful h.names_nodup same style name

theorem Field.Composed.sorted_lawful {ρ β : Type} {field : Field ρ β} {get : ρ → β} :
    field.Composed get → field.sorted.Lawful get
  | .mandatory h name description get => Field.mandatory_lawful h.sorted_lawful name description get
  | .optional h name description get mayEnd =>
      Field.sorted_optional_lawful h.sorted_lawful name description get mayEnd
  | .defaulted h name description standIn get =>
      have law := Field.defaulted_lawful h.sorted_lawful name description standIn get
      ⟨law.written, law.omitted⟩
  | .lenient h name standIn get =>
      have law := Field.lenient_lawful h.sorted_lawful name standIn get
      ⟨law.written, law.omitted⟩

theorem Fields.Composed.sorted_lawful {ρ α : Type} {fields : Fields ρ α} {build : ρ → α} :
    fields.Composed build → fields.sorted.Lawful build
  | .start value => Fields.start_lawful value
  | .and h hfield fresh => by
      rw [Fields.sorted_and]
      exact h.sorted_lawful.and hfield.sorted_lawful fresh

end

end NodeIdentity
