import NodeIdentity.Json.Pointer
import NodeIdentity.Manifest.Definition
import NodeIdentity.Proofs.Format.Admission
import NodeIdentity.Proofs.Resource.Encoding

/-!
# Schemas of resource definitions

A cluster checks objects against the schema in the definition of their kind, and the operator reads
and writes them by the formats of their parts.  Whatever passes the check is read, and whatever is
written passes it.
-/

namespace NodeIdentity

open Fields Schema

/-- Documents that conform to the schema are read, and those that are written conform to it. -/
structure Json.Governs {β γ : Type} (schema : Json) (decode : Json → Except Mismatch β)
    (encode : γ → Json) : Prop where
  reads : ∀ document, document.conforms schema = true → ∃ value, decode document = .ok value
  writes : ∀ value, (encode value).conforms schema = true
  /-- Documents are sent with their members in ascending order. -/
  sends : ∀ value, (encode value).canonical.conforms schema = true

theorem Format.Agrees.governs {α : Type} {format : Format α} (h : format.Agrees) :
    format.schema.toJson.Governs format.decode format.encode where
  reads := h.reads
  writes := h.writes
  sends value := Json.conforms_canonical _ (h.writes value)

/-- A part that may be missing is governed by its schema with null allowed. -/
theorem Format.Agrees.governs_orNull {α : Type} {format : Format α} (h : format.Agrees) :
    format.schema.orNull.toJson.Governs (Field.readOrNull format) format.encode := by
  have hwrites : ∀ value, (format.encode value).conforms format.schema.orNull.toJson = true :=
    fun value => (admits_orNull format.schema).2 (Or.inr (h.writes value))
  constructor
  · intro document hconforms
    exact Field.readOrNull_ok h ((admits_orNull format.schema).1 hconforms)
  · exact hwrites
  · intro value
    exact Json.conforms_canonical _ (hwrites value)

/-! ## Places in a definition -/

namespace Json

theorem child?_object (members : List (String × Json)) (name : String) :
    Pointer.child? name (object members) = members.reverse.lookup name :=
  member?_object members name

theorem child?_first (item : Json) (items : List Json) :
    Pointer.child? "0" (.arr (item :: items)) = some item := rfl

/-- An object that may be read as a resource as far as its metadata goes. -/
structure HasMetadata (document : Json) : Prop where
  given : (document.member? "metadata").isSome = true
  legible : ∀ part, ("metadata", part) ∈ document.members →
    ∃ metadata, ObjectMeta.format.decode part = .ok metadata

end Json

namespace ResourceType

variable {σ τ : Type} {type : ResourceType σ τ}

/-- What a resource is read and written by agrees with the schema of its kind. -/
structure AgreesWith (type : ResourceType σ τ) (schema : Json) : Prop where
  spec : ∃ shape, schema.at? "/properties/spec" = some shape ∧
    shape.Governs type.spec.decode type.spec.encode
  status : ∀ format, type.status = some format →
    ∃ shape, schema.at? "/properties/status" = some shape ∧
      shape.Governs (Field.readOrNull format) format.encode
  unreported : type.status = none → schema.at? "/properties/status" = none
  reads : ∀ document, document.conforms schema = true → document.HasMetadata →
    ∃ resource, type.format.decode document = .ok resource
  writes : ∀ resource, (type.format.encode resource).conforms schema = true
  sends : ∀ resource, (type.format.encode resource).canonical.conforms schema = true

theorem definition_at (type : ResourceType σ τ) :
    type.definition.at? "/spec/versions/0/schema/openAPIV3Schema" = some type.schemaDocument := by
  have hsteps : Json.Pointer.steps? "/spec/versions/0/schema/openAPIV3Schema" =
      some ["spec", "versions", "0", "schema", "openAPIV3Schema"] := by decide
  simp [Json.at?, hsteps, Json.Pointer.follow, definition, versionDocument, Json.child?_object,
    Json.child?_first, List.lookup_cons]

/-- The members that the schema of a kind declares. -/
def declared (type : ResourceType σ τ) : List (String × Bool × Schema) :=
  ("spec", true, type.spec.schema) ::
    (type.status.map (fun format => ("status", false, format.schema.orNull))).toList

theorem members_eq (type : ResourceType σ τ) :
    type.fields.members = ("metadata", true, ObjectMeta.format.schema) :: type.declared := by
  unfold fields declared
  cases type.status <;> rfl

theorem parts_eq (type : ResourceType σ τ) : type.parts = membersToJson type.declared := by
  unfold parts declared
  cases type.status <;> rfl

theorem declared_nodup (type : ResourceType σ τ) : (type.declared.map (·.1)).Nodup := by
  unfold declared
  cases type.status <;> simp

theorem spec_at (type : ResourceType σ τ) :
    type.schemaDocument.at? "/properties/spec" = some type.spec.schema.toJson := by
  have hsteps : Json.Pointer.steps? "/properties/spec" = some ["properties", "spec"] := by decide
  cases hstatus : type.status <;>
    simp [Json.at?, hsteps, Json.Pointer.follow, schemaDocument, parts, hstatus, Json.child?_object,
      List.lookup_cons]

theorem status_at (type : ResourceType σ τ) :
    type.schemaDocument.at? "/properties/status" =
      type.status.map (fun format => format.schema.orNull.toJson) := by
  have hsteps : Json.Pointer.steps? "/properties/status" = some ["properties", "status"] := by
    decide
  cases hstatus : type.status <;>
    simp [Json.at?, hsteps, Json.Pointer.follow, schemaDocument, parts, hstatus, Json.child?_object,
      List.lookup_cons]

/-- The schema of a kind admits what a record of the declared members admits. -/
theorem conforms_schemaDocument (type : ResourceType σ τ) (document : Json) :
    document.conforms type.schemaDocument = (Schema.record type.declared {}).admits document := by
  have hrequired : requiredNames type.declared = [("required", .arr [.str "spec"])] := by
    unfold requiredNames declared
    cases type.status <;> simp
  by_cases hnull : document = .null
  · subst hnull
    simp [Json.conforms, schemaDocument, Json.member?_object, note, List.lookup_cons]
  · refine Json.conforms_congr ?_ hnull
    intro key hkey
    have hnote : key ∉ noteKeys := shapeKeys_apart hkey
    rw [member?_toJson _ hnote]
    simp only [Json.shapeKeys, List.mem_cons, List.not_mem_nil, or_false] at hkey
    rcases hkey with rfl | rfl | rfl | rfl | rfl | rfl <;>
      simp [schemaDocument, shape, hrequired, parts_eq, List.lookup_cons]

theorem conforms_schemaDocument_iff {document : Json} :
    document.conforms type.schemaDocument = true ↔
      ∃ members, document = .obj members ∧ AdmitsMembers type.declared members := by
  rw [conforms_schemaDocument, admits_record type.declared_nodup]

/-! ## Resources -/

theorem fields_readable (h : type.Composed) {members : List (String × Json)}
    (admits : AdmitsMembers type.declared members) (metadata : (Json.obj members).HasMetadata) :
    type.fields.Readable members := by
  obtain ⟨hspec, hdocuments⟩ := admits "spec" true type.spec.schema List.mem_cons_self
  have hmissing : members.lookup "metadata" = none →
      ∃ value, (Except.error (.missing "metadata") : Except Mismatch ObjectMeta) = .ok value := by
    intro hlookup
    have hgiven : (members.lookup "metadata").isSome = true := metadata.given
    rw [hlookup] at hgiven
    cases hgiven
  unfold fields
  split
  · rename_i format hstatus
    have hdeclared : ("status", false, format.schema.orNull) ∈ type.declared := by
      simp [declared, hstatus]
    have hreport := Field.optional_agrees (h.status format hstatus).agrees "status" none
      (Resource.status : Resource σ τ → Option τ) false
    exact (start_readable Resource.mk members)
      |>.and metadata.legible hmissing
      |>.and_agrees (Field.mandatory_agrees h.spec.agrees "spec" none _) hspec hdocuments
      |>.and_agrees hreport (fun required => nomatch required)
        (admits "status" false _ hdeclared).2
  · exact (start_readable _ members)
      |>.and metadata.legible hmissing
      |>.and_agrees (Field.mandatory_agrees h.spec.agrees "spec" none _) hspec hdocuments

theorem encode_admitted (h : type.Composed) (resource : Resource σ τ) :
    AdmitsMembers type.declared (type.header ++ type.fields.write resource) := by
  obtain ⟨build, hfields, -⟩ := h.fields_composed
  have hwritten := hfields.agrees.writes resource
  have hsub : type.declared ⊆ type.fields.members := by
    rw [members_eq]
    exact List.subset_cons_self _ _
  refine (hwritten.behind ?_).mono hsub
  rw [hfields.declared]
  exact type.header_apart

theorem Composed.agreesWith (h : type.Composed) : type.AgreesWith type.schemaDocument := by
  have hwrites : ∀ resource, (type.format.encode resource).conforms type.schemaDocument = true :=
    fun resource => conforms_schemaDocument_iff.2 ⟨_, rfl, encode_admitted h resource⟩
  constructor
  case spec => exact ⟨_, type.spec_at, h.spec.agrees.governs⟩
  case status =>
    intro format hstatus
    refine ⟨_, ?_, (h.status format hstatus).agrees.governs_orNull⟩
    rw [status_at, hstatus, Option.map_some]
  case unreported =>
    intro hstatus
    rw [status_at, hstatus, Option.map_none]
  case reads =>
    intro document hconforms hmetadata
    obtain ⟨members, rfl, hadmits⟩ := conforms_schemaDocument_iff.1 hconforms
    exact (fields_readable h hadmits hmetadata).decodeObject_ok
  case writes => exact hwrites
  case sends => exact fun resource => Json.conforms_canonical _ (hwrites resource)

end ResourceType

/-! ## Kinds -/

/-- The definition of a kind states one schema, with which its type agrees. -/
def ResourceType.IsDefinedBy {σ τ : Type} (type : ResourceType σ τ) (definition : Json) : Prop :=
  ∃ schema, definition.at? "/spec/versions/0/schema/openAPIV3Schema" = some schema ∧
    type.AgreesWith schema

theorem ResourceType.Composed.isDefinedBy {σ τ : Type} {type : ResourceType σ τ}
    (h : type.Composed) : type.IsDefinedBy type.definition :=
  ⟨type.schemaDocument, type.definition_at, h.agreesWith⟩

/-- No object that a cluster admits is rejected, and none that is written is refused. -/
theorem definitions_agree :
    NodeSet.type.IsDefinedBy (Kind.definition .nodeSet) ∧
      IPReservation.type.IsDefinedBy (Kind.definition .ipReservation) ∧
      NetConfig.type.IsDefinedBy (Kind.definition .netConfig) ∧
      DNSService.type.IsDefinedBy (Kind.definition .dnsService) ∧
      DNSRecordSet.type.IsDefinedBy (Kind.definition .dnsRecordSet) :=
  ⟨NodeSet.type_composed.isDefinedBy, IPReservation.type_composed.isDefinedBy,
    NetConfig.type_composed.isDefinedBy, DNSService.type_composed.isDefinedBy,
    DNSRecordSet.type_composed.isDefinedBy⟩

example : (Json.obj [("spec", .obj [("hosts", .null)])]).conforms DNSRecordSet.type.schemaDocument =
    false := by decide

example : (Json.obj [("spec", .obj [])]).conforms DNSRecordSet.type.schemaDocument = true := by
  decide

end NodeIdentity
