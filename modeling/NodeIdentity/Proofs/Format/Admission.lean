import NodeIdentity.Proofs.Format.Composition
import NodeIdentity.Proofs.Format.Conformance

/-!
# Schemas of formats

A format and its schema are made from the same parts by different rules.  They agree, for every
format that is put together: a document that the schema admits is read, and a document that the
format writes is admitted.
-/

namespace NodeIdentity

open Schema

namespace Format

variable {α : Type}

/-- What the schema admits is read, and what is written is admitted. -/
structure Agrees (format : Format α) : Prop where
  reads : ∀ document, format.schema.admits document = true →
    ∃ value, format.decode document = .ok value
  writes : ∀ value, format.schema.admits (format.encode value) = true

/-! ## Plain values, lists and dictionaries -/

theorem text_agrees : text.Agrees := by
  constructor
  · intro document hadmits
    obtain ⟨value, rfl⟩ := admits_text.1 hadmits
    exact ⟨value, rfl⟩
  · intro value
    exact admits_text.2 ⟨value, rfl⟩

theorem truth_agrees : truth.Agrees := by
  constructor
  · intro document hadmits
    obtain ⟨value, rfl⟩ := admits_truth.1 hadmits
    exact ⟨value, rfl⟩
  · intro value
    exact admits_truth.2 ⟨value, rfl⟩

theorem decodeInteger_holds (width : IntWidth) (ofInt : Int → α) {value : Int}
    (h : width.holds value = true) :
    decodeInteger width ofInt (.int value) = .ok (ofInt value) := by
  rw [decodeInteger, if_pos h]

theorem int32_agrees : int32.Agrees := by
  constructor
  · intro document hadmits
    obtain ⟨value, rfl, hholds⟩ := admits_integer.1 hadmits
    exact ⟨Int32.ofInt value, decodeInteger_holds .w32 Int32.ofInt hholds⟩
  · intro value
    exact admits_integer.2 ⟨value.toInt, rfl, holds_int32 value⟩

theorem int64_agrees : int64.Agrees := by
  constructor
  · intro document hadmits
    obtain ⟨value, rfl, hholds⟩ := admits_integer.1 hadmits
    exact ⟨Int64.ofInt value, decodeInteger_holds .w64 Int64.ofInt hholds⟩
  · intro value
    exact admits_integer.2 ⟨value.toInt, rfl, holds_int64 value⟩

theorem decodeItems_ok {decode : Json → Except Mismatch α} {items : List Json}
    (h : ∀ item ∈ items, ∃ value, decode item = .ok value) :
    ∃ values, decodeItems decode items = .ok values := by
  induction items with
  | nil => exact ⟨[], rfl⟩
  | cons item items ih =>
      rw [List.forall_mem_cons] at h
      obtain ⟨⟨value, hvalue⟩, hrest⟩ := h
      obtain ⟨values, hvalues⟩ := ih hrest
      refine ⟨value :: values, ?_⟩
      rw [decodeItems, hvalue, hvalues]

theorem list_agrees {items : Format α} (h : items.Agrees) : items.list.Agrees := by
  constructor
  · intro document hadmits
    obtain ⟨documents, rfl, hitems⟩ := admits_array.1 hadmits
    exact decodeItems_ok (fun item hitem => h.reads item (hitems item hitem))
  · intro values
    refine admits_array.2 ⟨values.map items.encode, rfl, ?_⟩
    intro item hitem
    obtain ⟨value, -, rfl⟩ := List.mem_map.1 hitem
    exact h.writes value

theorem decodeEntries_ok {decode : Json → Except Mismatch α} {members : List (String × Json)}
    (h : ∀ member ∈ members, ∃ value, decode member.2 = .ok value) :
    ∃ entries, decodeEntries decode members = .ok entries := by
  induction members with
  | nil => exact ⟨[], rfl⟩
  | cons member rest ih =>
      rw [List.forall_mem_cons] at h
      obtain ⟨⟨value, hvalue⟩, hrest⟩ := h
      obtain ⟨entries, hentries⟩ := ih hrest
      refine ⟨(member.1, value) :: entries, ?_⟩
      rw [decodeEntries, hvalue, hentries]

theorem dict_agrees {values : Format α} (h : values.Agrees) : values.dict.Agrees := by
  constructor
  · intro document hadmits
    obtain ⟨members, rfl, hmembers⟩ := admits_dict.1 hadmits
    obtain ⟨entries, hentries⟩ :=
      decodeEntries_ok (fun member hmember => h.reads member.2 (hmembers member hmember))
    refine ⟨Dict.ofList entries, ?_⟩
    simp only [dict, hentries, Except.map]
  · intro entries
    refine admits_dict.2 ⟨_, rfl, ?_⟩
    intro member hmember
    obtain ⟨entry, -, rfl⟩ := List.mem_map.1 hmember
    exact h.writes entry.2

theorem described_agrees {format : Format α} (h : format.Agrees) (description : String) :
    (format.described description).Agrees := by
  constructor
  · intro document hadmits
    exact h.reads document (by simpa [described] using hadmits)
  · intro value
    simpa [described] using h.writes value

end Format

/-! ## Fields -/

/--
What the schema of a field admits is read, what is written is admitted, and the field is written or
has a stand-in as the schema has it.
-/
structure Field.Agrees {ρ β : Type} (field : Field ρ β) : Prop where
  reads : ∀ document, field.schema.admits document = true →
    ∃ value, field.read document = .ok value
  absent : field.required = false → ∃ value, field.absent = .ok value
  writes : ∀ record document, field.write record = some document →
    field.schema.admits document = true
  written : field.required = true → ∀ record, (field.write record).isSome = true

namespace Field

variable {ρ β : Type} {format : Format β}

theorem mandatory_agrees (h : format.Agrees) (name : String) (description : Option String)
    (get : ρ → β) : (mandatory name description format get).Agrees where
  reads document hadmits := h.reads document (by simpa [mandatory] using hadmits)
  absent hrequired := by cases hrequired
  writes record document hwrite := by
    cases hwrite
    simpa [mandatory] using h.writes (get record)
  written _ _ := rfl

theorem readOrNull_ok (h : format.Agrees) {document : Json}
    (hadmits : document = .null ∨ format.schema.admits document = true) :
    ∃ value, readOrNull format document = .ok value := by
  rcases hadmits with rfl | hadmits
  · exact ⟨none, rfl⟩
  · obtain ⟨value, hvalue⟩ := h.reads document hadmits
    cases document with
    | null => exact ⟨none, rfl⟩
    | _ => exact ⟨some value, by simp [readOrNull, hvalue, Except.map]⟩

theorem optional_agrees (h : format.Agrees) (name : String) (description : Option String)
    (get : ρ → Option β) (mayEnd : Bool) :
    (optional name description format get mayEnd).Agrees where
  reads document hadmits := readOrNull_ok h (by simpa [optional, admits_orNull] using hadmits)
  absent _ := ⟨none, rfl⟩
  writes record document hwrite := by
    obtain ⟨value, -, rfl⟩ := Option.map_eq_some_iff.1 hwrite
    have hvalue := h.writes value
    simp [optional, admits_orNull, hvalue]
  written hrequired := by cases hrequired

theorem defaulted_agrees (h : format.Agrees) (name : String) (description : Option String)
    (standIn : β) (get : ρ → β) : (defaulted name description format standIn get).Agrees where
  reads document hadmits := h.reads document (by simpa [defaulted] using hadmits)
  absent _ := ⟨standIn, rfl⟩
  writes record document hwrite := by
    cases hwrite
    simpa [defaulted] using h.writes (get record)
  written hrequired := by cases hrequired

theorem lenient_agrees (h : format.Agrees) (name : String) (standIn : β) (get : ρ → β) :
    (lenient name format standIn get).Agrees where
  reads document hadmits := by
    obtain ⟨value, hvalue⟩ := readOrNull_ok h (by simpa [lenient, admits_orNull] using hadmits)
    exact ⟨value.getD standIn, by simp [lenient, hvalue, Except.map]⟩
  absent _ := ⟨standIn, rfl⟩
  writes record document hwrite := by
    cases hwrite
    have hvalue := h.writes (get record)
    simp [lenient, admits_orNull, hvalue]
  written hrequired := by cases hrequired

end Field

/-! ## Records -/

namespace Fields

variable {ρ α β : Type}

/-- Every member under the name of a field can be read, and so can the record. -/
structure Readable (fields : Fields ρ α) (members : List (String × Json)) : Prop where
  checked : ∀ member ∈ members, ∀ field ∈ fields.checks, field.name = member.1 →
    field.check member.2 = .ok ()
  read : ∃ value, fields.read (fun name => members.lookup name) = .ok value

theorem start_readable (value : α) (members : List (String × Json)) :
    (start value : Fields ρ α).Readable members where
  checked _ _ _ hfield := absurd hfield List.not_mem_nil
  read := ⟨value, rfl⟩

theorem Readable.and {fields : Fields ρ (β → α)} {members : List (String × Json)}
    (h : fields.Readable members) {field : Field ρ β}
    (given : ∀ document, (field.name, document) ∈ members →
      ∃ value, field.read document = .ok value)
    (missing : members.lookup field.name = none → ∃ value, field.absent = .ok value) :
    (fields.and field).Readable members where
  checked member hmember check hcheck hname := by
    rcases List.mem_append.1 hcheck with hold | hnew
    · exact h.checked member hmember check hold hname
    · obtain rfl := List.mem_singleton.1 hnew
      have hfound : (field.name, member.2) ∈ members := by
        rw [show field.name = member.1 from hname]
        exact hmember
      obtain ⟨value, hvalue⟩ := given member.2 hfound
      simp [hvalue, Except.map]
  read := by
    obtain ⟨build, hbuild⟩ := h.read
    have hpart : ∃ value, readField field (fun name => members.lookup name) = .ok value := by
      cases hlookup : members.lookup field.name with
      | some document =>
          obtain ⟨value, hvalue⟩ := given document (mem_of_lookup hlookup)
          exact ⟨value, by simp only [readField, hlookup, hvalue]⟩
      | none =>
          obtain ⟨value, hvalue⟩ := missing hlookup
          exact ⟨value, by simp only [readField, hlookup, hvalue]⟩
    obtain ⟨value, hvalue⟩ := hpart
    refine ⟨build value, ?_⟩
    simp only [Fields.and, hbuild, hvalue, Except.map]

theorem Readable.and_agrees {fields : Fields ρ (β → α)} {members : List (String × Json)}
    (h : fields.Readable members) {field : Field ρ β} (hfield : field.Agrees)
    (required : field.required = true → (members.lookup field.name).isSome = true)
    (admitted : ∀ document, (field.name, document) ∈ members →
      field.schema.admits document = true) : (fields.and field).Readable members := by
  refine h.and (fun document hmember => hfield.reads document (admitted document hmember)) ?_
  intro hlookup
  have hoptional : field.required = false := by
    rw [hlookup] at required
    simpa using required
  exact hfield.absent hoptional

theorem Readable.decodeObject_ok {fields : Fields ρ α} {members : List (String × Json)}
    (h : fields.Readable members) : ∃ value, fields.decodeObject members = .ok value := by
  obtain ⟨value, hvalue⟩ := h.read
  exact ⟨value, decodeObject_eq_ok_iff.2 ⟨checkMembers_eq_ok h.checked, hvalue⟩⟩

/-- Members that are admitted as the fields declare them are read, and those written are admitted. -/
structure Agrees (fields : Fields ρ α) : Prop where
  reads : ∀ members, AdmitsMembers fields.members members → fields.Readable members
  writes : ∀ record, AdmitsMembers fields.members (fields.write record)

theorem start_agrees (value : α) : (start value : Fields ρ α).Agrees where
  reads members _ := start_readable value members
  writes _ _ _ _ hdeclared := absurd hdeclared List.not_mem_nil

theorem admitsMembers_and {fields : Fields ρ (β → α)} {field : Field ρ β}
    {members : List (String × Json)} :
    AdmitsMembers (fields.and field).members members ↔
      AdmitsMembers fields.members members ∧
        (field.required = true → (members.lookup field.name).isSome = true) ∧
        ∀ document, (field.name, document) ∈ members → field.schema.admits document = true := by
  constructor
  · intro hadmits
    refine ⟨?_, hadmits field.name field.required field.schema (by simp [Fields.and])⟩
    intro name required schema hdeclared
    exact hadmits name required schema (List.mem_append_left _ hdeclared)
  · rintro ⟨hfields, hfield⟩ name required schema hdeclared
    rcases List.mem_append.1 hdeclared with hold | hnew
    · exact hfields name required schema hold
    · cases List.mem_singleton.1 hnew
      exact hfield

/-- The members that are written for a record: those of the fields before, and the field's own. -/
theorem mem_write_and {fields : Fields ρ (β → α)} {field : Field ρ β} {record : ρ}
    {member : String × Json} (h : member ∈ (fields.and field).write record) :
    member ∈ fields.write record ∨
      (member.1 = field.name ∧ field.write record = some member.2) := by
  rcases List.mem_append.1 h with hold | hnew
  · exact Or.inl hold
  · cases hwrite : field.write record with
    | none => simp [hwrite] at hnew
    | some document =>
        simp only [hwrite, Option.map_some, Option.toList_some, List.mem_singleton] at hnew
        subst hnew
        exact Or.inr ⟨rfl, rfl⟩

/-- The member of a further field leaves the members of the fields before it as they were. -/
theorem admitsMembers_write_and {fields : Fields ρ (β → α)} {field : Field ρ β} {record : ρ}
    (h : AdmitsMembers fields.members (fields.write record))
    (fresh : field.name ∉ fields.members.map (·.1)) :
    AdmitsMembers fields.members ((fields.and field).write record) := by
  intro name required schema hdeclared
  obtain ⟨hrequired, hdocuments⟩ := h name required schema hdeclared
  have hne : name ≠ field.name := by
    rintro rfl
    exact fresh (List.mem_map.2 ⟨_, hdeclared, rfl⟩)
  constructor
  · intro hmust
    rw [lookup_and_of_ne fields field record hne]
    exact hrequired hmust
  · intro document hmember
    rcases mem_write_and hmember with hold | ⟨hname, -⟩
    · exact hdocuments document hold
    · exact absurd hname hne

theorem Agrees.and {fields : Fields ρ (β → α)} {build : ρ → β → α} (h : fields.Agrees)
    (lawful : fields.Lawful build) {field : Field ρ β} (hfield : field.Agrees)
    (declared : fields.members.map (·.1) = fields.checks.map (·.name))
    (fresh : field.name ∉ fields.checks.map (·.name)) : (fields.and field).Agrees where
  reads members hadmits := by
    obtain ⟨hfields, hrequired, hdocuments⟩ := admitsMembers_and.1 hadmits
    exact (h.reads members hfields).and_agrees hfield hrequired hdocuments
  writes record := by
    have hfields := admitsMembers_write_and (h.writes record) (declared ▸ fresh)
    refine admitsMembers_and.2 ⟨hfields, ?_, ?_⟩
    · intro hmust
      rw [lawful.lookup_and field fresh record]
      exact hfield.written hmust record
    · intro document hmember
      rcases mem_write_and hmember with hold | ⟨-, hwrite⟩
      · exact absurd (lawful.named record _ hold) fresh
      · exact hfield.writes record document hwrite

end Fields

theorem Format.recordOf_agrees {ρ : Type} {fields : Fields ρ ρ} (h : fields.Agrees)
    (apart : (fields.members.map (·.1)).Nodup) (style : RecordStyle) (name : String) :
    (Format.recordOf style name fields).Agrees := by
  constructor
  · intro document hadmits
    obtain ⟨members, rfl, hmembers⟩ := (admits_record apart).1 hadmits
    exact (h.reads members hmembers).decodeObject_ok
  · intro record
    exact (admits_record apart).2 ⟨fields.write record, rfl, h.writes record⟩

/-! ## Formats that are put together -/

mutual

theorem Format.Composed.agrees {α : Type} {format : Format α} : format.Composed → format.Agrees
  | .text => Format.text_agrees
  | .truth => Format.truth_agrees
  | .int32 => Format.int32_agrees
  | .int64 => Format.int64_agrees
  | .list h => Format.list_agrees h.agrees
  | .dict h => Format.dict_agrees h.agrees
  | .described h description => Format.described_agrees h.agrees description
  | .record h _ style name =>
      Format.recordOf_agrees h.agrees (h.declared ▸ h.lawful.nodup) style name

theorem Field.Composed.agrees {ρ β : Type} {field : Field ρ β} {get : ρ → β} :
    field.Composed get → field.Agrees
  | .mandatory h name description get => Field.mandatory_agrees h.agrees name description get
  | .optional h name description get mayEnd =>
      Field.optional_agrees h.agrees name description get mayEnd
  | .defaulted h name description standIn get =>
      Field.defaulted_agrees h.agrees name description standIn get
  | .lenient h name standIn get => Field.lenient_agrees h.agrees name standIn get

theorem Fields.Composed.agrees {ρ α : Type} {fields : Fields ρ α} {build : ρ → α} :
    fields.Composed build → fields.Agrees
  | .start value => Fields.start_agrees value
  | .and h hfield fresh => h.agrees.and h.lawful hfield.agrees h.declared fresh

end

end NodeIdentity
