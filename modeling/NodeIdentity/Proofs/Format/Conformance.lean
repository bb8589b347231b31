import NodeIdentity.Format.Schema
import NodeIdentity.Proofs.Format.Reading

/-!
# Conformance

An API server checks a document against a schema by what the document of the schema states: the
type, the shape of items and members, the members that must be there, and whether null may stand in
place of a value.  Members that the schema does not name may be there, and what it says of purposes
and defaults is not looked at.
-/

namespace NodeIdentity

namespace Json

/-- Whether a schema allows values of a type; one that names no type allows all. -/
def allowsType (schema : Json) (name : String) : Bool :=
  match schema.member? "type" with
  | some type => type = .str name
  | none => true

/-- Whether a schema allows an integer: by its type, and by the range that its format names. -/
def allowsInteger (schema : Json) (value : Int) : Bool :=
  (schema.allowsType "integer" || schema.allowsType "number") &&
    if schema.member? "format" = some (.str "int32") then IntWidth.w32.holds value
    else if schema.member? "format" = some (.str "int64") then IntWidth.w64.holds value
    else true

/-- The names of the members that a schema asks for. -/
def requiredMembers (schema : Json) : List String :=
  match schema.member? "required" with
  | some (.arr names) => names.filterMap asText?
  | _ => []

/-- The schema of the members with a name: their own, else that of all others. -/
def memberSchema? (schema : Json) (name : String) : Option Json :=
  ((schema.member? "properties").bind (·.member? name)).or (schema.member? "additionalProperties")

mutual

/-- Whether a document conforms to a schema. -/
def conforms : (document schema : Json) → Bool
  | .null, schema => schema.member? "nullable" = some (.bool true)
  | .bool _, schema => schema.allowsType "boolean"
  | .int value, schema => schema.allowsInteger value
  | .float _, schema => schema.allowsType "number"
  | .str _, schema => schema.allowsType "string"
  | .arr items, schema => schema.allowsType "array" && itemsConform items (schema.member? "items")
  | .obj members, schema =>
      schema.allowsType "object" &&
        (schema.requiredMembers.all (fun name => (members.lookup name).isSome) &&
          membersConform members schema)

/-- Whether all items conform to a schema, if there is one. -/
def itemsConform : List Json → Option Json → Bool
  | item :: items, some schema => item.conforms schema && itemsConform items (some schema)
  | _, _ => true

/-- Whether all members conform to what a schema says of members with their names. -/
def membersConform : List (String × Json) → Json → Bool
  | [], _ => true
  | (name, document) :: rest, schema =>
      (match schema.memberSchema? name with
        | some inner => document.conforms inner
        | none => true) && membersConform rest schema

end

theorem itemsConform_iff {items : List Json} {schema : Json} :
    itemsConform items (some schema) = true ↔ ∀ item ∈ items, item.conforms schema = true := by
  induction items with
  | nil => simp [itemsConform]
  | cons item items ih => rw [itemsConform, Bool.and_eq_true, ih, List.forall_mem_cons]

theorem membersConform_iff {members : List (String × Json)} {schema : Json} :
    membersConform members schema = true ↔
      ∀ member ∈ members, ∀ inner, schema.memberSchema? member.1 = some inner →
        member.2.conforms inner = true := by
  induction members with
  | nil => simp [membersConform]
  | cons member rest ih =>
      obtain ⟨name, document⟩ := member
      rw [membersConform, Bool.and_eq_true, ih, List.forall_mem_cons]
      cases schema.memberSchema? name <;> simp

/-- The members of a schema that say which values conform, null apart. -/
def shapeKeys : List String :=
  ["type", "format", "items", "properties", "additionalProperties", "required"]

theorem conforms_congr {a b : Json} (same : ∀ key ∈ shapeKeys, a.member? key = b.member? key)
    {document : Json} (h : document ≠ .null) : document.conforms a = document.conforms b := by
  have htype := same "type" (by decide)
  have hformat := same "format" (by decide)
  have hitems := same "items" (by decide)
  have hrequired := same "required" (by decide)
  have hmember : ∀ name, a.memberSchema? name = b.memberSchema? name := by
    intro name
    unfold memberSchema?
    rw [same "properties" (by decide), same "additionalProperties" (by decide)]
  cases document with
  | null => exact absurd rfl h
  | obj members =>
      have hmembers : membersConform members a = membersConform members b := by
        rw [Bool.eq_iff_iff, membersConform_iff, membersConform_iff]
        simp only [hmember]
      simp only [conforms, allowsType, requiredMembers, htype, hrequired, hmembers]
  | _ => simp only [conforms, allowsInteger, allowsType, htype, hformat, hitems]

/-! ## Order of members -/

mutual

/-- A document conforms also with the members of all its objects in ascending order. -/
theorem conforms_canonical : (document : Json) → ∀ {schema : Json},
    document.conforms schema = true → document.canonical.conforms schema = true
  | .null, _, h | .bool _, _, h | .int _, _, h | .float _, _, h | .str _, _, h => h
  | .arr items, schema, h => by
      simp only [conforms, canonical, Bool.and_eq_true] at h ⊢
      exact ⟨h.1, itemsConform_canonical items h.2⟩
  | .obj members, schema, h => by
      simp only [conforms, Bool.and_eq_true, List.all_eq_true] at h
      obtain ⟨htype, hrequired, hmembers⟩ := h
      have hsorted := membersConform_canonical members hmembers
      rw [membersConform_iff] at hsorted
      simp only [canonical, object, conforms, Bool.and_eq_true, List.all_eq_true,
        membersConform_iff]
      refine ⟨htype, ?_, fun member hmember => hsorted member (mem_members_object hmember)⟩
      intro name hname
      obtain ⟨member, hmember, hkey⟩ := List.lookup_isSome_iff.1 (hrequired name hname)
      have hsorted : (member.1, member.2.canonical) ∈ canonicalMembers members := by
        rw [canonicalMembers_eq]
        exact List.mem_map.2 ⟨member, hmember, rfl⟩
      have hfound : ((object (canonicalMembers members)).member? name).isSome = true := by
        rw [member?_object, List.lookup_isSome_iff]
        exact ⟨_, List.mem_reverse.2 hsorted, hkey⟩
      exact hfound

theorem itemsConform_canonical : (items : List Json) → ∀ {schema : Option Json},
    itemsConform items schema = true → itemsConform (canonicalItems items) schema = true
  | [], _, _ => by simp [canonicalItems, itemsConform]
  | _ :: _, none, _ => by simp [canonicalItems, itemsConform]
  | item :: items, some schema, h => by
      simp only [canonicalItems, itemsConform, Bool.and_eq_true] at h ⊢
      exact ⟨conforms_canonical item h.1, itemsConform_canonical items h.2⟩

theorem membersConform_canonical : (members : List (String × Json)) → ∀ {schema : Json},
    membersConform members schema = true →
      membersConform (canonicalMembers members) schema = true
  | [], _, _ => rfl
  | (name, document) :: rest, schema, h => by
      simp only [canonicalMembers, membersConform, Bool.and_eq_true] at h ⊢
      refine ⟨?_, membersConform_canonical rest h.2⟩
      cases hinner : schema.memberSchema? name with
      | none => rfl
      | some inner =>
          rw [hinner] at h
          exact conforms_canonical document h.1

end

end Json

namespace Schema

/-- Whether a document conforms to the document of a schema. -/
def admits (schema : Schema) (document : Json) : Bool :=
  document.conforms schema.toJson

/-! ## The document of a schema -/

/-- The members in which a schema states its shape. -/
def shape : Schema → List (String × Json)
  | .text _ => [("type", .str "string")]
  | .truth _ => [("type", .str "boolean")]
  | .integer width _ => [("type", .str "integer"), ("format", .str (widthName width))]
  | .array items _ => [("type", .str "array"), ("items", items.toJson)]
  | .dict values _ => [("type", .str "object"), ("additionalProperties", values.toJson)]
  | .record members _ =>
      ("type", .str "object") :: ("properties", .object (membersToJson members)) ::
        requiredNames members

theorem toJson_eq (schema : Schema) :
    schema.toJson = .object (schema.shape ++ noteMembers schema.note) := by
  cases schema <;> rfl

@[simp] theorem note_withNote (schema : Schema) (note : Note) :
    (schema.withNote note).note = note := by
  cases schema <;> rfl

@[simp] theorem shape_withNote (schema : Schema) (note : Note) :
    (schema.withNote note).shape = schema.shape := by
  cases schema <;> rfl

/-- The names of the members in which a schema states its note. -/
def noteKeys : List String :=
  ["default", "description", "nullable"]

theorem shapeKeys_apart {key : String} (h : key ∈ Json.shapeKeys) : key ∉ noteKeys := by
  simp only [Json.shapeKeys, List.mem_cons, List.not_mem_nil, or_false] at h
  rcases h with rfl | rfl | rfl | rfl | rfl | rfl <;> decide

theorem noteMembers_named (note : Note) : ∀ member ∈ noteMembers note, member.1 ∈ noteKeys := by
  obtain ⟨description, standIn, nullable⟩ := note
  cases description <;> cases standIn <;> cases nullable <;> simp [noteMembers, noteKeys]

theorem lookup_noteMembers {key : String} (h : key ∉ noteKeys) (note : Note) :
    (noteMembers note).reverse.lookup key = none := by
  rw [List.lookup_eq_none_iff]
  intro member hmember
  rw [bne_iff_ne]
  rintro rfl
  exact h (noteMembers_named note member (List.mem_reverse.1 hmember))

theorem member?_toJson (schema : Schema) {key : String} (h : key ∉ noteKeys) :
    schema.toJson.member? key = schema.shape.reverse.lookup key := by
  rw [toJson_eq, Json.member?_object, List.reverse_append, List.lookup_append,
    lookup_noteMembers h, Option.none_or]

theorem lookup_requiredNames {key : String} (h : key ≠ "required")
    (declared : List (String × Bool × Schema)) :
    (requiredNames declared).reverse.lookup key = none := by
  unfold requiredNames
  split <;> simp [List.lookup_cons, beq_eq_false_iff_ne.2 h]

theorem member?_nullable (schema : Schema) :
    schema.toJson.member? "nullable" =
      if schema.note.nullable then some (.bool true) else none := by
  have hshape : schema.shape.reverse.lookup "nullable" = none := by
    cases schema with
    | record members note =>
        simp [shape, List.lookup_append, List.lookup_cons, lookup_requiredNames]
    | _ => rfl
  rw [toJson_eq, Json.member?_object, List.reverse_append, List.lookup_append, hshape,
    Option.or_none]
  obtain ⟨description, standIn, nullable⟩ := schema.note
  cases description <;> cases standIn <;> cases nullable <;> rfl

/-! ## Notes -/

@[simp] theorem admits_null (schema : Schema) : schema.admits .null = schema.note.nullable := by
  unfold admits Json.conforms
  rw [member?_nullable]
  cases schema.note.nullable <;> rfl

/-- What a schema says beside its shape does not matter, null apart. -/
theorem admits_withNote (schema : Schema) (note : Note) {document : Json} (h : document ≠ .null) :
    (schema.withNote note).admits document = schema.admits document := by
  refine Json.conforms_congr ?_ h
  intro key hkey
  have hnote : key ∉ noteKeys := shapeKeys_apart hkey
  rw [member?_toJson _ hnote, member?_toJson _ hnote, shape_withNote]

theorem admits_withNote_of_nullable (schema : Schema) (note : Note)
    (same : note.nullable = schema.note.nullable) (document : Json) :
    (schema.withNote note).admits document = schema.admits document := by
  by_cases h : document = .null
  · rw [h, admits_null, admits_null, note_withNote, same]
  · exact schema.admits_withNote note h

@[simp] theorem admits_describe (schema : Schema) (description : Option String) (document : Json) :
    (schema.describe description).admits document = schema.admits document := by
  cases description with
  | none => rfl
  | some words =>
      exact schema.admits_withNote_of_nullable { schema.note with description := some words } rfl
        document

@[simp] theorem admits_standingIn (schema : Schema) (value document : Json) :
    (schema.standingIn value).admits document = schema.admits document :=
  schema.admits_withNote_of_nullable { schema.note with standIn := some value } rfl document

theorem admits_orNull (schema : Schema) {document : Json} :
    schema.orNull.admits document = true ↔ document = .null ∨ schema.admits document = true := by
  by_cases h : document = .null
  · simp [h, orNull]
  · simp [h, orNull, schema.admits_withNote _ h]

/-! ## Shapes -/

/-- The type that a schema asks for. -/
@[simp] def typeName : Schema → String
  | .text _ => "string"
  | .truth _ => "boolean"
  | .integer _ _ => "integer"
  | .array _ _ => "array"
  | .dict _ _ | .record _ _ => "object"

@[simp] theorem allowsType_toJson (schema : Schema) (name : String) :
    schema.toJson.allowsType name = decide (schema.typeName = name) := by
  have htype : schema.toJson.member? "type" = some (.str schema.typeName) := by
    rw [member?_toJson schema (by decide)]
    cases schema with
    | record members note =>
        simp [shape, typeName, List.lookup_append, List.lookup_cons, lookup_requiredNames]
    | _ => rfl
  unfold Json.allowsType
  rw [htype]
  simp only [Json.str.injEq]

theorem admits_text {document : Json} :
    (Schema.text {}).admits document = true ↔ ∃ value, document = .str value := by
  cases document with
  | null => simp [note]
  | int value => simp [admits, Json.conforms, Json.allowsInteger]
  | _ => simp [admits, Json.conforms]

theorem admits_truth {document : Json} :
    (Schema.truth {}).admits document = true ↔ ∃ value, document = .bool value := by
  cases document with
  | null => simp [note]
  | int value => simp [admits, Json.conforms, Json.allowsInteger]
  | _ => simp [admits, Json.conforms]

theorem admits_integer {width : IntWidth} {document : Json} :
    (Schema.integer width {}).admits document = true ↔
      ∃ value, document = .int value ∧ width.holds value = true := by
  have hformat : (Schema.integer width {}).toJson.member? "format" =
      some (.str (widthName width)) := by
    rw [member?_toJson _ (by decide)]
    rfl
  cases document with
  | null => simp [note]
  | int value =>
      cases width <;>
        simp [admits, Json.conforms, Json.allowsInteger, hformat, widthName]
  | _ => simp [admits, Json.conforms]

theorem admits_array {items : Schema} {document : Json} :
    (Schema.array items {}).admits document = true ↔
      ∃ documents, document = .arr documents ∧ ∀ item ∈ documents, items.admits item = true := by
  have hitems : (Schema.array items {}).toJson.member? "items" = some items.toJson := by
    rw [member?_toJson _ (by decide)]
    rfl
  cases document with
  | null => simp [note]
  | int value => simp [admits, Json.conforms, Json.allowsInteger]
  | arr documents =>
      simp [admits, Json.conforms, hitems, Json.itemsConform_iff]
  | _ => simp [admits, Json.conforms]

theorem admits_dict {values : Schema} {document : Json} :
    (Schema.dict values {}).admits document = true ↔
      ∃ members, document = .obj members ∧ ∀ member ∈ members, values.admits member.2 = true := by
  have hmember : ∀ name,
      (Schema.dict values {}).toJson.memberSchema? name = some values.toJson := by
    intro name
    unfold Json.memberSchema?
    rw [member?_toJson _ (by decide), member?_toJson _ (by decide)]
    rfl
  have hrequired : (Schema.dict values {}).toJson.requiredMembers = [] := by
    unfold Json.requiredMembers
    rw [member?_toJson _ (by decide)]
    rfl
  cases document with
  | null => simp [note]
  | int value => simp [admits, Json.conforms, Json.allowsInteger]
  | obj members =>
      simp [admits, Json.conforms, hmember, hrequired, Json.membersConform_iff]
  | _ => simp [admits, Json.conforms]

/-! ## Records -/

/-- Every declared member is there where it must be, and admitted where it is there. -/
def AdmitsMembers (declared : List (String × Bool × Schema)) (members : List (String × Json)) :
    Prop :=
  ∀ name required schema, (name, required, schema) ∈ declared →
    (required = true → (members.lookup name).isSome = true) ∧
      ∀ document, (name, document) ∈ members → schema.admits document = true

theorem AdmitsMembers.mono {declared fewer : List (String × Bool × Schema)}
    {members : List (String × Json)} (h : AdmitsMembers declared members) (sub : fewer ⊆ declared) :
    AdmitsMembers fewer members :=
  fun name required schema hdeclared => h name required schema (sub hdeclared)

/-- Members of other names may stand in front. -/
theorem AdmitsMembers.behind {declared : List (String × Bool × Schema)}
    {header members : List (String × Json)} (h : AdmitsMembers declared members)
    (apart : ∀ member ∈ header, member.1 ∉ declared.map (·.1)) :
    AdmitsMembers declared (header ++ members) := by
  intro name required schema hdeclared
  obtain ⟨hrequired, hdocuments⟩ := h name required schema hdeclared
  have hname : name ∈ declared.map (·.1) := List.mem_map.2 ⟨_, hdeclared, rfl⟩
  constructor
  · intro hmust
    rw [List.lookup_append, Option.isSome_or, hrequired hmust, Bool.or_true]
  · intro document hmember
    rcases List.mem_append.1 hmember with hheader | hmember
    · exact absurd hname (apart (name, document) hheader)
    · exact hdocuments document hmember

theorem membersToJson_eq (declared : List (String × Bool × Schema)) :
    membersToJson declared = declared.map (fun member => (member.1, member.2.2.toJson)) := by
  induction declared with
  | nil => rfl
  | cons member rest ih => rw [membersToJson, ih, List.map_cons]

theorem mem_requiredMembers {declared : List (String × Bool × Schema)} {name : String} :
    name ∈ (Schema.record declared {}).toJson.requiredMembers ↔
      ∃ schema, (name, true, schema) ∈ declared := by
  have hmember : (Schema.record declared {}).toJson.member? "required" =
      (requiredNames declared).reverse.lookup "required" := by
    rw [member?_toJson _ (by decide)]
    simp [shape, List.lookup_append, List.lookup_cons]
  have hnames : name ∈ (declared.filter (·.2.1)).map (·.1) ↔
      ∃ schema, (name, true, schema) ∈ declared := by
    simp
  unfold Json.requiredMembers
  rw [hmember, ← hnames, requiredNames]
  cases (declared.filter (·.2.1)).map (·.1) with
  | nil => simp
  | cons first rest =>
      simp [List.filterMap_map, Function.comp_def, Json.asText?, List.mem_mergeSort]

theorem memberSchema?_record {declared : List (String × Bool × Schema)}
    (apart : (declared.map (·.1)).Nodup) {name : String} {inner : Json} :
    (Schema.record declared {}).toJson.memberSchema? name = some inner ↔
      ∃ required schema, (name, required, schema) ∈ declared ∧ inner = schema.toJson := by
  have hproperties : (Schema.record declared {}).toJson.member? "properties" =
      some (.object (membersToJson declared)) := by
    rw [member?_toJson _ (by decide)]
    simp [shape, List.lookup_append, lookup_requiredNames]
  have hothers : (Schema.record declared {}).toJson.member? "additionalProperties" = none := by
    rw [member?_toJson _ (by decide)]
    simp [shape, List.lookup_append, List.lookup_cons, lookup_requiredNames]
  have hnames : ((membersToJson declared).map (·.1)).Nodup := by
    simpa [membersToJson_eq, Function.comp_def] using apart
  unfold Json.memberSchema?
  rw [hproperties, hothers, Option.bind_some, Option.or_none, Json.member?_object,
    Fields.lookup_reverse hnames]
  constructor
  · intro hlookup
    have hmember := Fields.mem_of_lookup hlookup
    rw [membersToJson_eq] at hmember
    obtain ⟨⟨_, required, schema⟩, hdeclared, heq⟩ := List.mem_map.1 hmember
    cases heq
    exact ⟨required, schema, hdeclared, rfl⟩
  · rintro ⟨required, schema, hdeclared, rfl⟩
    have hmember : (name, schema.toJson) ∈ membersToJson declared := by
      rw [membersToJson_eq]
      exact List.mem_map.2 ⟨(name, required, schema), hdeclared, rfl⟩
    exact Fields.lookup_of_mem hnames hmember

theorem admits_record {declared : List (String × Bool × Schema)}
    (apart : (declared.map (·.1)).Nodup) {document : Json} :
    (Schema.record declared {}).admits document = true ↔
      ∃ members, document = .obj members ∧ AdmitsMembers declared members := by
  cases document with
  | null => simp [note]
  | int value => simp [admits, Json.conforms, Json.allowsInteger]
  | obj members =>
      have hobject : (Schema.record declared {}).admits (.obj members) = true ↔
          (∀ name ∈ (Schema.record declared {}).toJson.requiredMembers,
            (members.lookup name).isSome = true) ∧
          ∀ member ∈ members, ∀ inner,
            (Schema.record declared {}).toJson.memberSchema? member.1 = some inner →
              member.2.conforms inner = true := by
        simp [admits, Json.conforms, Json.membersConform_iff]
      rw [hobject]
      simp only [mem_requiredMembers, memberSchema?_record apart]
      constructor
      · rintro ⟨hrequired, hconform⟩
        refine ⟨members, rfl, ?_⟩
        intro name required schema hdeclared
        constructor
        · rintro rfl
          exact hrequired name ⟨schema, hdeclared⟩
        · intro document hmember
          exact hconform (name, document) hmember _ ⟨required, schema, hdeclared, rfl⟩
      · rintro ⟨_, hsame, hadmits⟩
        cases hsame
        constructor
        · rintro name ⟨schema, hdeclared⟩
          exact (hadmits name true schema hdeclared).1 rfl
        · rintro member hmember _ ⟨required, schema, hdeclared, rfl⟩
          exact (hadmits member.1 required schema hdeclared).2 member.2 hmember
  | _ => simp [admits, Json.conforms]

end Schema

end NodeIdentity
