import NodeIdentity.Format.Record
import NodeIdentity.Proofs.Data.Dict

/-!
# Reading back what was written

A format is lawful when the document of every value is read back as that value.  Every way of
putting formats together keeps the law, records included: the fields of a record are read from the
members that were written for them, whatever other members stand beside them.  The documents of a
lawful format tell its values apart.
-/

namespace NodeIdentity

namespace Format

variable {α : Type}

/-- The document of every value is read back as the value, and null is the document of none. -/
structure Lawful (format : Format α) : Prop where
  decode_encode : ∀ value, format.decode (format.encode value) = .ok value
  encode_ne_null : ∀ value, format.encode value ≠ .null

theorem Lawful.encode_inj {format : Format α} (h : format.Lawful) {a b : α} :
    format.encode a = format.encode b ↔ a = b := by
  constructor
  · intro same
    have hb := h.decode_encode b
    rw [← same, h.decode_encode a] at hb
    exact Except.ok.inj hb
  · intro same
    rw [same]

/-! ## Plain values, lists and dictionaries -/

theorem text_lawful : text.Lawful := by
  constructor
  · intro value
    rfl
  · intro value h
    cases h

theorem truth_lawful : truth.Lawful := by
  constructor
  · intro value
    rfl
  · intro value h
    cases h

theorem holds_int32 (value : Int32) : IntWidth.w32.holds value.toInt = true := by
  unfold IntWidth.holds
  rw [Bool.and_eq_true, decide_eq_true_eq, decide_eq_true_eq]
  exact ⟨Int32.le_toInt value, Int32.toInt_lt value⟩

theorem holds_int64 (value : Int64) : IntWidth.w64.holds value.toInt = true := by
  unfold IntWidth.holds
  rw [Bool.and_eq_true, decide_eq_true_eq, decide_eq_true_eq]
  exact ⟨Int64.le_toInt value, Int64.toInt_lt value⟩

theorem int32_lawful : int32.Lawful := by
  constructor
  · intro value
    simp [int32, decodeInteger, holds_int32]
  · intro value h
    cases h

theorem int64_lawful : int64.Lawful := by
  constructor
  · intro value
    simp [int64, decodeInteger, holds_int64]
  · intro value h
    cases h

theorem decodeItems_map {format : Format α} (h : format.Lawful) (values : List α) :
    decodeItems format.decode (values.map format.encode) = .ok values := by
  induction values with
  | nil => rfl
  | cons value values ih => simp [decodeItems, h.decode_encode, ih]

theorem list_lawful {items : Format α} (h : items.Lawful) : items.list.Lawful := by
  constructor
  · intro values
    exact decodeItems_map h values
  · intro values h
    cases h

theorem decodeEntries_map {format : Format α} (h : format.Lawful) (entries : List (String × α)) :
    decodeEntries format.decode (entries.map (fun entry => (entry.1, format.encode entry.2))) =
      .ok entries := by
  induction entries with
  | nil => rfl
  | cons entry entries ih => simp [decodeEntries, h.decode_encode, ih]

theorem dict_lawful {values : Format α} (h : values.Lawful) : values.dict.Lawful := by
  constructor
  · intro entries
    have hread := decodeEntries_map h entries.toList
    simp only [dict, hread, Except.map, Dict.ofList_toList]
  · intro entries h
    cases h

theorem described_lawful {format : Format α} (h : format.Lawful) (description : String) :
    (format.described description).Lawful :=
  ⟨h.decode_encode, h.encode_ne_null⟩

end Format

/-! ## Fields -/

/-- A field gives back what it was written for, and its stand-in where nothing was written. -/
structure Field.Lawful {ρ β : Type} (field : Field ρ β) (get : ρ → β) : Prop where
  written : ∀ record document, field.write record = some document →
    field.read document = .ok (get record)
  omitted : ∀ record, field.write record = none → field.absent = .ok (get record)

namespace Field

variable {ρ β : Type} {format : Format β}

theorem mandatory_lawful (h : format.Lawful) (name : String) (description : Option String)
    (get : ρ → β) : (mandatory name description format get).Lawful get := by
  constructor
  · intro record document hwrite
    cases hwrite
    exact h.decode_encode (get record)
  · intro record hwrite
    cases hwrite

theorem defaulted_lawful (h : format.Lawful) (name : String) (description : Option String)
    (standIn : β) (get : ρ → β) : (defaulted name description format standIn get).Lawful get := by
  constructor
  · intro record document hwrite
    cases hwrite
    exact h.decode_encode (get record)
  · intro record hwrite
    cases hwrite

theorem readOrNull_encode (h : format.Lawful) (value : β) :
    readOrNull format (format.encode value) = .ok (some value) := by
  have hread := h.decode_encode value
  have hnull := h.encode_ne_null value
  cases hdocument : format.encode value with
  | null => exact absurd hdocument hnull
  | _ =>
      rw [hdocument] at hread
      simp [readOrNull, hread, Except.map]

theorem optional_lawful (h : format.Lawful) (name : String) (description : Option String)
    (get : ρ → Option β) (mayEnd : Bool) :
    (optional name description format get mayEnd).Lawful get := by
  constructor
  · intro record document hwrite
    obtain ⟨value, hvalue, hdocument⟩ := Option.map_eq_some_iff.1 hwrite
    rw [← hdocument, hvalue]
    exact readOrNull_encode h value
  · intro record hwrite
    rw [Option.map_eq_none_iff.1 hwrite]
    rfl

theorem lenient_lawful (h : format.Lawful) (name : String) (standIn : β) (get : ρ → β) :
    (lenient name format standIn get).Lawful get := by
  constructor
  · intro record document hwrite
    cases hwrite
    simp [lenient, readOrNull_encode h, Except.map]
  · intro record hwrite
    cases hwrite

end Field

/-! ## Records -/

/-- Fields under different names, which give back the records that they were written for. -/
structure Fields.Lawful {ρ α : Type} (fields : Fields ρ α) (build : ρ → α) : Prop where
  nodup : (fields.checks.map (·.name)).Nodup
  named : ∀ record, ∀ member ∈ fields.write record, member.1 ∈ fields.checks.map (·.name)
  checked : ∀ record, ∀ member ∈ fields.write record, ∀ field ∈ fields.checks,
    field.name = member.1 → field.check member.2 = .ok ()
  /-- Only the members under the names of fields matter. -/
  reads : ∀ record lookup,
    (∀ name ∈ fields.checks.map (·.name), lookup name = (fields.write record).lookup name) →
      fields.read lookup = .ok (build record)

namespace Fields

variable {ρ α β : Type}

theorem start_lawful (value : α) : (start value : Fields ρ α).Lawful (fun _ => value) where
  nodup := List.nodup_nil
  named _ _ hmember := absurd hmember List.not_mem_nil
  checked _ _ hmember := absurd hmember List.not_mem_nil
  reads _ _ _ := rfl

theorem Lawful.lookup_eq_none {fields : Fields ρ α} {build : ρ → α} (h : fields.Lawful build)
    (record : ρ) {name : String} (fresh : name ∉ fields.checks.map (·.name)) :
    (fields.write record).lookup name = none := by
  rw [List.lookup_eq_none_iff]
  intro member hmember
  rw [bne_iff_ne]
  rintro rfl
  exact fresh (h.named record member hmember)

/-- The member that is written for a field is found under its name. -/
theorem Lawful.lookup_and {fields : Fields ρ (β → α)} {build : ρ → β → α}
    (h : fields.Lawful build) (field : Field ρ β)
    (fresh : field.name ∉ fields.checks.map (·.name)) (record : ρ) :
    ((fields.and field).write record).lookup field.name = field.write record := by
  simp only [Fields.and, List.lookup_append, h.lookup_eq_none record fresh, Option.none_or]
  cases field.write record <;> simp

theorem lookup_and_of_ne (fields : Fields ρ (β → α)) (field : Field ρ β) (record : ρ)
    {name : String} (hname : name ≠ field.name) :
    ((fields.and field).write record).lookup name = (fields.write record).lookup name := by
  simp only [Fields.and, List.lookup_append]
  cases field.write record <;> simp [List.lookup_cons, beq_eq_false_iff_ne.2 hname]

theorem Lawful.and {fields : Fields ρ (β → α)} {build : ρ → β → α} (h : fields.Lawful build)
    {field : Field ρ β} {get : ρ → β} (hfield : field.Lawful get)
    (fresh : field.name ∉ fields.checks.map (·.name)) :
    (fields.and field).Lawful (fun record => build record (get record)) where
  nodup := by
    simp only [Fields.and, List.map_append, List.map_cons, List.map_nil]
    exact List.nodup_append.2 ⟨h.nodup, by simp, by grind⟩
  named record member hmember := by
    simp only [Fields.and, List.mem_append] at hmember
    rcases hmember with hmember | hmember
    · simpa [Fields.and] using Or.inl (by simpa using h.named record member hmember)
    · cases hwrite : field.write record <;> simp_all [Fields.and]
  checked record member hmember check hcheck hname := by
    simp only [Fields.and, List.mem_append, List.mem_singleton] at hmember hcheck
    -- A member belongs to the check of its own name only, since the names differ.
    rcases hmember with hmember | hmember <;> rcases hcheck with hcheck | rfl
    · exact h.checked record member hmember check hcheck hname
    · have hnamed := h.named record member hmember
      rw [← hname] at hnamed
      exact absurd hnamed fresh
    · cases hwrite : field.write record with
      | none => simp [hwrite] at hmember
      | some document =>
          simp only [hwrite, Option.map_some, Option.toList_some, List.mem_singleton] at hmember
          subst hmember
          exact absurd (List.mem_map.2 ⟨check, hcheck, hname⟩) fresh
    · cases hwrite : field.write record with
      | none => simp [hwrite] at hmember
      | some document =>
          simp only [hwrite, Option.map_some, Option.toList_some, List.mem_singleton] at hmember
          subst hmember
          simp [hfield.written record document hwrite, Except.map]
  reads record lookup hlookup := by
    have hold : ∀ name ∈ fields.checks.map (·.name),
        lookup name = (fields.write record).lookup name := by
      intro name hname
      have hne : name ≠ field.name := fun heq => fresh (heq ▸ hname)
      rw [hlookup name (by simp [Fields.and]; simpa using Or.inl hname),
        lookup_and_of_ne fields field record hne]
    have hnew : lookup field.name = field.write record := by
      rw [hlookup field.name (by simp [Fields.and]), h.lookup_and field fresh record]
    simp only [Fields.and, h.reads record lookup hold, readField, hnew]
    cases hwrite : field.write record with
    | none => simp [hfield.omitted record hwrite, Except.map]
    | some document => simp [hfield.written record document hwrite, Except.map]

theorem checkMembers_eq_ok {checks : List FieldCheck} {members : List (String × Json)}
    (h : ∀ member ∈ members, ∀ field ∈ checks, field.name = member.1 →
      field.check member.2 = .ok ()) :
    checkMembers checks members = .ok () := by
  induction members with
  | nil => rfl
  | cons member rest ih =>
      have hrest := ih (fun other hother => h other (by simp [hother]))
      obtain ⟨name, document⟩ := member
      unfold checkMembers
      cases hfind : checks.find? (fun field => field.name = name) with
      | none => exact hrest
      | some field =>
          have hname : field.name = name := by simpa using List.find?_some hfind
          simp [h (name, document) (by simp) field (List.mem_of_find?_eq_some hfind) hname, hrest]

/-- A record is read back from members that are found as those that were written for it. -/
theorem Lawful.decodeObject_of_lookup {fields : Fields ρ α} {build : ρ → α}
    (h : fields.Lawful build) (record : ρ) {header members : List (String × Json)}
    (apart : ∀ member ∈ header, member.1 ∉ fields.checks.map (·.name))
    (given : ∀ member ∈ members, member ∈ header ++ fields.write record)
    (found : ∀ name, members.lookup name = (header ++ fields.write record).lookup name) :
    fields.decodeObject members = .ok (build record) := by
  have hchecks : checkMembers fields.checks members = .ok () := by
    apply checkMembers_eq_ok
    intro member hmember field hfield hname
    rcases List.mem_append.1 (given member hmember) with hmember | hmember
    · exact absurd (List.mem_map.2 ⟨field, hfield, hname⟩) (apart member hmember)
    · exact h.checked record member hmember field hfield hname
  simp only [Fields.decodeObject, hchecks]
  apply h.reads
  intro name hname
  have hheader : header.lookup name = none := by
    rw [List.lookup_eq_none_iff]
    intro member hmember
    rw [bne_iff_ne]
    rintro rfl
    exact apart member hmember hname
  rw [found, List.lookup_append, hheader, Option.none_or]

/-- A record is read back from its members, also with members of other names around them. -/
theorem Lawful.decodeObject {fields : Fields ρ α} {build : ρ → α} (h : fields.Lawful build)
    (record : ρ) {header : List (String × Json)}
    (apart : ∀ member ∈ header, member.1 ∉ fields.checks.map (·.name)) :
    fields.decodeObject (header ++ fields.write record) = .ok (build record) :=
  h.decodeObject_of_lookup record apart (fun _ hmember => hmember) (fun _ => rfl)

end Fields

/-- A record is a lawful format when its fields are, and build the record from itself. -/
theorem Format.recordOf_lawful {ρ : Type} {fields : Fields ρ ρ} {build : ρ → ρ}
    (h : fields.Lawful build) (same : ∀ record, build record = record) (style : RecordStyle)
    (name : String) : (Format.recordOf style name fields).Lawful := by
  constructor
  · intro record
    have apart : ∀ member ∈ ([] : List (String × Json)),
        member.1 ∉ fields.checks.map (·.name) := by simp
    have hread := h.decodeObject record apart
    rw [List.nil_append, same] at hread
    exact hread
  · intro record h
    cases h

end NodeIdentity
