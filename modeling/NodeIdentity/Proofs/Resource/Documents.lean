import NodeIdentity.Api.Server
import NodeIdentity.Proofs.Format.Reading
import NodeIdentity.Proofs.Resource.Chosen

/-!
# Documents at a server

A server puts versions and statuses into documents without reading them as resources.  What is read
from such a document is the resource with the version, or with the status, that was put in.
-/

namespace NodeIdentity

open Fields

/-! ## Metadata -/

theorem Format.decode_plainRecord_iff {ρ : Type} {name : String} {fields : Fields ρ ρ}
    {document : Json} {value : ρ} :
    (Format.plainRecord name fields).decode document = .ok value ↔
      document = .obj document.members ∧ fields.decodeObject document.members = .ok value := by
  cases document <;> simp [Format.plainRecord, Format.recordOf, Json.members]

theorem Fields.readField_text {ρ : Type} {name : String} {get : ρ → Option String} {mayEnd : Bool}
    {lookup : String → Option Json} {part : Option String} (value : String)
    (reads : readField (Field.optional name none .text get mayEnd) lookup = .ok part) :
    part = some value ↔ lookup name = some (.str value) := by
  have hname : (Field.optional name none .text get mayEnd).name = name := rfl
  unfold readField at reads
  rw [hname] at reads
  cases hdocument : lookup name with
  | none =>
      rw [hdocument] at reads
      cases reads
      simp
  | some document =>
      rw [hdocument] at reads
      cases document <;>
        simp [Field.optional, Field.readOrNull, Format.text, Format.decodeText, Except.map]
          at reads <;> simp [← reads]

namespace ObjectMeta

/-- Metadata whose parts are read from the members of their own fields. -/
structure ReadsFrom (lookup : String → Option Json) (metadata : ObjectMeta) : Prop where
  name : readField (.optional "name" none .text ObjectMeta.name true) lookup = .ok metadata.name
  generateName :
    readField (.optional "generateName" none .text ObjectMeta.generateName true) lookup =
      .ok metadata.generateName
  ns : readField (.optional "namespace" none .text ObjectMeta.ns true) lookup = .ok metadata.ns
  uid : readField (.optional "uid" none .text ObjectMeta.uid true) lookup = .ok metadata.uid
  generation :
    readField (.optional "generation" none .int64 ObjectMeta.generation true) lookup =
      .ok metadata.generation
  resourceVersion :
    readField (.optional "resourceVersion" none .text ObjectMeta.resourceVersion true) lookup =
      .ok metadata.resourceVersion
  labels :
    readField (.optional "labels" none (.dict .text) ObjectMeta.labels true) lookup =
      .ok metadata.labels
  annotations :
    readField (.optional "annotations" none (.dict .text) ObjectMeta.annotations true) lookup =
      .ok metadata.annotations
  finalizers :
    readField (.optional "finalizers" none (.list .text) ObjectMeta.finalizers true) lookup =
      .ok metadata.finalizers
  ownerReferences :
    readField (.optional "ownerReferences" none (.list OwnerReference.format)
      ObjectMeta.ownerReferences true) lookup = .ok metadata.ownerReferences

variable {lookup : String → Option Json} {document : Json} {metadata : ObjectMeta}

theorem read_eq_ok_iff : fields.read lookup = .ok metadata ↔ ReadsFrom lookup metadata := by
  simp only [fields, read_and_iff]
  constructor
  · rintro ⟨_, _, ⟨_, _, ⟨_, _, ⟨_, _, ⟨_, _, ⟨_, _, ⟨_, _, ⟨_, _, ⟨_, _, ⟨_, _, hstart, h1, rfl⟩,
      h2, rfl⟩, h3, rfl⟩, h4, rfl⟩, h5, rfl⟩, h6, rfl⟩, h7, rfl⟩, h8, rfl⟩, h9, rfl⟩, h10, rfl⟩
    cases hstart
    exact ⟨h1, h2, h3, h4, h5, h6, h7, h8, h9, h10⟩
  · intro h
    exact ⟨_, _, ⟨_, _, ⟨_, _, ⟨_, _, ⟨_, _, ⟨_, _, ⟨_, _, ⟨_, _, ⟨_, _, ⟨_, _, rfl, h.name, rfl⟩,
      h.generateName, rfl⟩, h.ns, rfl⟩, h.uid, rfl⟩, h.generation, rfl⟩, h.resourceVersion, rfl⟩,
      h.labels, rfl⟩, h.annotations, rfl⟩, h.finalizers, rfl⟩, h.ownerReferences, rfl⟩

theorem ReadsFrom.withVersion (reads : ReadsFrom lookup metadata) (version : String) :
    ReadsFrom (renew lookup "resourceVersion" (some (.str version)))
      { metadata with resourceVersion := some version } where
  name := (readField_renew_of_ne (by decide) _ _).trans reads.name
  generateName := (readField_renew_of_ne (by decide) _ _).trans reads.generateName
  ns := (readField_renew_of_ne (by decide) _ _).trans reads.ns
  uid := (readField_renew_of_ne (by decide) _ _).trans reads.uid
  generation := (readField_renew_of_ne (by decide) _ _).trans reads.generation
  resourceVersion := readField_renew _ _ _
  labels := (readField_renew_of_ne (by decide) _ _).trans reads.labels
  annotations := (readField_renew_of_ne (by decide) _ _).trans reads.annotations
  finalizers := (readField_renew_of_ne (by decide) _ _).trans reads.finalizers
  ownerReferences := (readField_renew_of_ne (by decide) _ _).trans reads.ownerReferences

theorem fields_checked : fields.Checked :=
  (start_checked ObjectMeta.mk)
    |>.and _ |>.and _ |>.and _ |>.and _ |>.and _ |>.and _ |>.and _ |>.and _ |>.and _ |>.and _

theorem decode_iff : format.decode document = .ok metadata ↔
    document = .obj document.members ∧ fields.decodeObject document.members = .ok metadata :=
  Format.decode_plainRecord_iff

theorem readsFrom_of_decode (decodes : format.decode document = .ok metadata) :
    ReadsFrom document.member? metadata :=
  read_eq_ok_iff.1 (decodeObject_eq_ok_iff.1 (decode_iff.1 decodes).2).2

theorem decode_withVersion (decodes : format.decode document = .ok metadata) (version : String) :
    format.decode (document.setMember "resourceVersion" (.str version)) =
      .ok { metadata with resourceVersion := some version } := by
  refine decode_iff.2 ⟨Json.putMember_eq_obj document "resourceVersion" (some (.str version)), ?_⟩
  have hrenewed := (readsFrom_of_decode decodes).withVersion version
  exact decodeObject_putMember (decode_iff.1 decodes).2 fields_checked (read_eq_ok_iff.2 hrenewed)

theorem version_iff (decodes : format.decode document = .ok metadata) (version : String) :
    metadata.resourceVersion = some version ↔
      document.member? "resourceVersion" = some (.str version) :=
  readField_text version (readsFrom_of_decode decodes).resourceVersion

theorem name_iff (decodes : format.decode document = .ok metadata) (name : String) :
    metadata.name = some name ↔ document.member? "name" = some (.str name) :=
  readField_text name (readsFrom_of_decode decodes).name

end ObjectMeta

/-! ## Resources -/

namespace ResourceType

variable {σ τ : Type} {type : ResourceType σ τ} {lookup : String → Option Json} {document : Json}
  {resource : Resource σ τ}

def metadataField : Field (Resource σ τ) ObjectMeta :=
  .mandatory "metadata" none ObjectMeta.format Resource.metadata

def specField (type : ResourceType σ τ) : Field (Resource σ τ) σ :=
  .mandatory "spec" none type.spec Resource.spec

def statusField (format : Format τ) : Field (Resource σ τ) (Option τ) :=
  .optional "status" none format Resource.status false

/-- A resource whose parts are read from the members of their own fields. -/
structure ReadsFrom (type : ResourceType σ τ) (lookup : String → Option Json)
    (resource : Resource σ τ) : Prop where
  metadata : readField (metadataField : Field (Resource σ τ) ObjectMeta) lookup =
    .ok resource.metadata
  spec : readField type.specField lookup = .ok resource.spec
  status : ∀ format, type.status = some format →
    readField (statusField format : Field (Resource σ τ) (Option τ)) lookup = .ok resource.status
  unreported : type.status = none → resource.status = none

theorem read_eq_ok_iff :
    type.fields.read lookup = .ok resource ↔ type.ReadsFrom lookup resource := by
  unfold fields
  split
  · rename_i format hstatus
    simp only [read_and_iff]
    constructor
    · rintro ⟨_, _, ⟨_, _, ⟨_, _, hstart, hmetadata, rfl⟩, hspec, rfl⟩, hreport, rfl⟩
      cases hstart
      refine ⟨hmetadata, hspec, ?_, by simp [hstatus]⟩
      intro other hother
      cases hstatus.symm.trans hother
      exact hreport
    · intro h
      exact ⟨_, _, ⟨_, _, ⟨_, _, rfl, h.metadata, rfl⟩, h.spec, rfl⟩, h.status format hstatus, rfl⟩
  · rename_i hstatus
    simp only [read_and_iff]
    constructor
    · rintro ⟨_, _, ⟨_, _, hstart, hmetadata, rfl⟩, hspec, rfl⟩
      cases hstart
      exact ⟨hmetadata, hspec, by simp [hstatus], fun _ => rfl⟩
    · intro h
      refine ⟨_, _, ⟨_, _, rfl, h.metadata, rfl⟩, h.spec, ?_⟩
      rw [← h.unreported hstatus]

theorem fields_checked (type : ResourceType σ τ) : type.fields.Checked := by
  unfold fields
  split
  · exact (start_checked Resource.mk) |>.and _ |>.and _ |>.and _
  · exact (start_checked _) |>.and _ |>.and _

theorem ReadsFrom.withMetadata (reads : type.ReadsFrom lookup resource) {part : Json}
    {metadata : ObjectMeta} (decodes : ObjectMeta.format.decode part = .ok metadata) :
    type.ReadsFrom (renew lookup "metadata" (some part))
      { resource with metadata := metadata } where
  metadata := (readField_renew metadataField _ _).trans decodes
  spec := (readField_renew_of_ne (by simp [specField, Field.mandatory]) _ _).trans reads.spec
  status format hstatus :=
    (readField_renew_of_ne (by simp [statusField, Field.optional]) _ _).trans
      (reads.status format hstatus)
  unreported := reads.unreported

theorem ReadsFrom.withStatus (reads : type.ReadsFrom lookup resource) {format : Format τ}
    (reported : type.status = some format) {value : Option Json} {status : Option τ}
    (decodes : readField (statusField format : Field (Resource σ τ) (Option τ)) (fun _ => value) =
      .ok status) :
    type.ReadsFrom (renew lookup "status" value) { resource with status := status } where
  metadata :=
    (readField_renew_of_ne (by simp [metadataField, Field.mandatory]) _ _).trans reads.metadata
  spec := (readField_renew_of_ne (by simp [specField, Field.mandatory]) _ _).trans reads.spec
  status other hother := by
    cases reported.symm.trans hother
    exact (readField_renew (statusField format) _ _).trans decodes
  unreported hnone := by
    rw [reported] at hnone
    cases hnone

/-- Documents that are objects; those that a server has stored are. -/
theorem decode_object_iff (object : document = .obj document.members) :
    type.format.decode document = .ok resource ↔
      type.fields.decodeObject document.members = .ok resource := by
  rw [object]
  rfl

theorem readsFrom_of_decode (object : document = .obj document.members)
    (decodes : type.format.decode document = .ok resource) :
    type.ReadsFrom document.member? resource :=
  read_eq_ok_iff.1 (decodeObject_eq_ok_iff.1 ((decode_object_iff object).1 decodes)).2

theorem decode_putMember (object : document = .obj document.members)
    (decodes : type.format.decode document = .ok resource) {name : String} {value : Option Json}
    {renewed : Resource σ τ} (reads : type.ReadsFrom (renew document.member? name value) renewed) :
    type.format.decode (document.putMember name value) = .ok renewed := by
  refine (decode_object_iff (Json.putMember_eq_obj document name value)).2 ?_
  exact decodeObject_putMember ((decode_object_iff object).1 decodes) type.fields_checked
    (read_eq_ok_iff.2 reads)

/-- The metadata of a resource is read from a member of its document. -/
theorem exists_metadata (object : document = .obj document.members)
    (decodes : type.format.decode document = .ok resource) :
    ∃ part, document.member? "metadata" = some part ∧
      ObjectMeta.format.decode part = .ok resource.metadata := by
  have hread := (readsFrom_of_decode object decodes).metadata
  unfold readField at hread
  split at hread
  · rename_i part hpart
    exact ⟨part, hpart, hread⟩
  · cases hread

end ResourceType

/-! ## Versions and statuses -/

namespace Server

variable {σ τ : Type} {type : ResourceType σ τ} {document : Json} {resource : Resource σ τ}

theorem versionOf_eq (document : Json) :
    versionOf document =
      (document.member? "metadata").bind (fun part => part.member? "resourceVersion") := by
  unfold versionOf
  simp only [Json.path?]
  cases document.member? "metadata" with
  | none => rfl
  | some part => simp

theorem object_of_version {version : Json} (h : versionOf document = some version) :
    document = .obj document.members := by
  cases document <;> first | rfl | cases h

theorem versionOf_stamp (document : Json) (revision : Nat) :
    versionOf (stamp document revision) = some (.str (toString revision)) := by
  rw [versionOf_eq, stamp, Json.member?_setMember, if_pos rfl, Option.bind_some,
    Json.member?_setMember, if_pos rfl]

theorem versionOf_iff (object : document = .obj document.members)
    (decodes : type.format.decode document = .ok resource) (version : String) :
    resource.metadata.resourceVersion = some version ↔
      versionOf document = some (.str version) := by
  obtain ⟨part, hpart, hmetadata⟩ := ResourceType.exists_metadata object decodes
  rw [versionOf_eq, hpart, Option.bind_some]
  exact ObjectMeta.version_iff hmetadata version

theorem decode_withStatusOf {stored : Json} {current : Resource σ τ} {format : Format τ}
    (reported : type.status = some format)
    (object : document = .obj document.members)
    (decodes : type.format.decode document = .ok resource)
    (storedObject : stored = .obj stored.members)
    (storedDecodes : type.format.decode stored = .ok current) :
    type.format.decode (document.putMember "status" (stored.member? "status")) =
      .ok { resource with status := current.status } := by
  have hstatus :=
    (ResourceType.readsFrom_of_decode storedObject storedDecodes).status format reported
  have hreads := (ResourceType.readsFrom_of_decode object decodes).withStatus reported hstatus
  exact ResourceType.decode_putMember object decodes hreads

/-- A stamped document is read as the resource with the revision as its version. -/
theorem decode_stamp (object : document = .obj document.members)
    (decodes : type.format.decode document = .ok resource) (revision : Nat) :
    type.format.decode (stamp document revision) =
      .ok { resource with
        metadata := { resource.metadata with resourceVersion := some (toString revision) } } := by
  obtain ⟨part, hpart, hmetadata⟩ := ResourceType.exists_metadata object decodes
  have hstamped := ObjectMeta.decode_withVersion hmetadata (toString revision)
  have hreads := (ResourceType.readsFrom_of_decode object decodes).withMetadata hstamped
  unfold stamp
  rw [hpart, Option.getD_some]
  exact ResourceType.decode_putMember object decodes hreads

theorem stamp_holds (object : document = .obj document.members)
    (decodes : type.format.decode document = .ok resource) (revision : Nat) :
    type.Holds (stamp document revision) resource :=
  ⟨_, decode_stamp object decodes revision, rfl⟩

end Server

end NodeIdentity
