import NodeIdentity.Format.Record
import NodeIdentity.Proofs.Json.Members

/-!
# Reading records from objects

A record is read from an object when every member under the name of a field can be read, and its
parts are read from the members of their own fields.  So a member that is put in the place of
another one changes its own part, and no other.
-/

namespace NodeIdentity.Fields

variable {ρ α β : Type}

theorem read_and_iff (fields : Fields ρ (β → α)) (field : Field ρ β)
    (lookup : String → Option Json) {value : α} :
    (fields.and field).read lookup = .ok value ↔
      ∃ build part, fields.read lookup = .ok build ∧ readField field lookup = .ok part ∧
        build part = value := by
  simp only [Fields.and]
  cases hread : fields.read lookup with
  | error e => simp
  | ok build => cases hpart : readField field lookup <;> simp [Except.map]

/-- Where a value is read, every member that is looked up for it passes its check. -/
def Checked (fields : Fields ρ α) : Prop :=
  ∀ lookup value, fields.read lookup = .ok value →
    ∀ field ∈ fields.checks, ∀ document, lookup field.name = some document →
      field.check document = .ok ()

theorem start_checked (value : α) : (start value : Fields ρ α).Checked :=
  fun _ _ _ _ member => absurd member List.not_mem_nil

theorem Checked.and {fields : Fields ρ (β → α)} (checked : fields.Checked) (field : Field ρ β) :
    (fields.and field).Checked := by
  intro lookup value reads check hcheck document hlookup
  obtain ⟨build, part, hbuild, hpart, -⟩ := (read_and_iff fields field lookup).1 reads
  rcases List.mem_append.1 hcheck with hold | hnew
  · exact checked lookup build hbuild check hold document hlookup
  · obtain rfl := List.mem_singleton.1 hnew
    have hread : field.read document = .ok part := by
      unfold readField at hpart
      rwa [show lookup field.name = some document from hlookup] at hpart
    simp [hread, Except.map]

/-- A lookup with the member of one name put in place of what it was. -/
def renew (lookup : String → Option Json) (name : String) (value : Option Json) :
    String → Option Json :=
  fun other => if other = name then value else lookup other

theorem readField_renew (field : Field ρ β) (lookup : String → Option Json) (value : Option Json) :
    readField field (renew lookup field.name value) = readField field (fun _ => value) := by
  unfold readField renew
  rw [if_pos rfl]

theorem readField_renew_of_ne {field : Field ρ β} {name : String} (apart : field.name ≠ name)
    (lookup : String → Option Json) (value : Option Json) :
    readField field (renew lookup name value) = readField field lookup := by
  unfold readField renew
  rw [if_neg apart]

theorem checkMembers_eq_ok_iff {checks : List FieldCheck} {members : List (String × Json)} :
    checkMembers checks members = .ok () ↔
      ∀ member ∈ members, ∀ field,
        checks.find? (fun field => field.name = member.1) = some field →
          field.check member.2 = .ok () := by
  induction members with
  | nil => simp [checkMembers]
  | cons member rest ih =>
      obtain ⟨name, document⟩ := member
      rw [checkMembers, List.forall_mem_cons, ← ih]
      cases hfind : checks.find? (fun field => field.name = name) with
      | none => simp
      | some field => cases hcheck : field.check document <;> simp [hcheck]

theorem decodeObject_eq_ok_iff {fields : Fields ρ α} {members : List (String × Json)} {value : α} :
    fields.decodeObject members = .ok value ↔
      checkMembers fields.checks members = .ok () ∧
        fields.read (fun name => members.lookup name) = .ok value := by
  unfold decodeObject
  cases checkMembers fields.checks members <;> simp

theorem lookup_of_mem {members : List (String × Json)} (apart : (members.map (·.1)).Nodup)
    {member : String × Json} (h : member ∈ members) : members.lookup member.1 = some member.2 := by
  induction members with
  | nil => cases h
  | cons head rest ih =>
      obtain ⟨name, document⟩ := head
      rw [List.map_cons, List.nodup_cons] at apart
      rcases List.mem_cons.1 h with rfl | h
      · simp
      · have hne : member.1 ≠ name := by
          intro same
          exact apart.1 (List.mem_map.2 ⟨member, h, same⟩)
        rw [List.lookup_cons, beq_eq_false_iff_ne.2 hne]
        exact ih apart.2 h

theorem mem_of_lookup {members : List (String × Json)} {name : String} {document : Json}
    (h : members.lookup name = some document) : (name, document) ∈ members := by
  obtain ⟨front, rest, rfl, -⟩ := List.lookup_eq_some_iff.1 h
  exact List.mem_append_right front List.mem_cons_self

/-- Where no two members share a name, the last one of a name is the first. -/
theorem lookup_reverse {members : List (String × Json)} (apart : (members.map (·.1)).Nodup)
    (name : String) : members.reverse.lookup name = members.lookup name := by
  have hreverse : (members.reverse.map (·.1)).Nodup :=
    ((List.reverse_perm members).map (·.1)).nodup_iff.2 apart
  cases hlookup : members.lookup name with
  | none =>
      rw [List.lookup_eq_none_iff] at hlookup ⊢
      intro member hmember
      exact hlookup member (List.mem_reverse.1 hmember)
  | some document => exact lookup_of_mem hreverse (List.mem_reverse.2 (mem_of_lookup hlookup))

/-- Where no two members share a name, an object is read as its fields are. -/
theorem decodeObject_of_read {fields : Fields ρ α} (checked : fields.Checked)
    {members : List (String × Json)} (apart : (members.map (·.1)).Nodup) {value : α}
    (reads : fields.read (fun name => members.lookup name) = .ok value) :
    fields.decodeObject members = .ok value := by
  refine decodeObject_eq_ok_iff.2 ⟨checkMembers_eq_ok_iff.2 ?_, reads⟩
  intro member hmember field hfind
  have hname : field.name = member.1 := by simpa using List.find?_some hfind
  refine checked _ value reads field (List.mem_of_find?_eq_some hfind) member.2 ?_
  rw [hname]
  exact lookup_of_mem apart hmember

/-- An object with another member is read as what its fields then come to. -/
theorem decodeObject_putMember {fields : Fields ρ α} {document : Json} {before after : α}
    (reads : fields.decodeObject document.members = .ok before) {name : String}
    {value : Option Json} (checked : fields.Checked)
    (renewed : fields.read (renew document.member? name value) = .ok after) :
    fields.decodeObject (document.putMember name value).members = .ok after := by
  have hchecks := checkMembers_eq_ok_iff.1 (decodeObject_eq_ok_iff.1 reads).1
  refine decodeObject_eq_ok_iff.2 ⟨checkMembers_eq_ok_iff.2 ?_, ?_⟩
  · intro member hmember field hfind
    rcases Json.mem_members_putMember hmember with ⟨hname, hvalue⟩ | hold
    · have hfield : field.name = member.1 := by simpa using List.find?_some hfind
      refine checked _ _ renewed field (List.mem_of_find?_eq_some hfind) member.2 ?_
      rw [renew, if_pos (hfield.trans hname), hvalue]
    · exact hchecks member hold field hfind
  · have hlookup : (fun other => (document.putMember name value).members.lookup other) =
        renew document.member? name value :=
      funext (fun other => Json.member?_putMember document name value other)
    rw [hlookup]
    exact renewed

end NodeIdentity.Fields
