import NodeIdentity.Proofs.Format.Sorting
import NodeIdentity.Proofs.Resource.Encoding

/-!
# Round trip of resources

Every format of a resource or of a part of one is faithful: a value is read back from its document,
in whichever order the members of the document stand, so documents tell values apart, and a write is
needed exactly where two values differ.
-/

namespace NodeIdentity

/-- A format whose documents say everything about their values, in whatever order their members stand. -/
structure Format.Faithful {α : Type} (format : Format α) : Prop where
  decode_encode : ∀ value, format.decode (format.encode value) = .ok value
  decode_sorted : ∀ value, format.decode (format.encode value).canonical = .ok value
  encode_inj : ∀ a b, format.encode a = format.encode b ↔ a = b
  sorted_inj : ∀ a b, (format.encode a).canonical = (format.encode b).canonical ↔ a = b
  needsWrite : ∀ current desired, format.needsWrite current desired = false ↔ current = desired
  /-- What was read is read again from what is written for it. -/
  reread : ∀ document value, format.decode document = .ok value →
    format.decode (format.encode value) = format.decode document

namespace Format

variable {α : Type} {format : Format α}

theorem Lawful.faithful (h : format.Lawful) (hsorted : format.sorted.Lawful) : format.Faithful where
  decode_encode := h.decode_encode
  decode_sorted := hsorted.decode_encode
  encode_inj _ _ := h.encode_inj
  sorted_inj _ _ := hsorted.encode_inj
  needsWrite _ _ := h.needsWrite_eq_false_iff
  reread document value reads := by rw [h.decode_encode, reads]

theorem Composed.faithful (h : format.Composed) : format.Faithful :=
  h.lawful.faithful h.sorted_lawful

end Format

/-! ## Resources -/

namespace ResourceType

variable {σ τ : Type} {type : ResourceType σ τ}

theorem Composed.sorted_lawful (h : type.Composed) : type.format.sorted.Lawful := by
  obtain ⟨build, hfields, same⟩ := h.fields_composed
  constructor
  · intro resource
    have hheader : Json.canonicalMembers type.header = type.header := rfl
    have hmembers : Json.canonicalMembers (type.header ++ type.fields.write resource) =
        type.header ++ type.fields.sorted.write resource := by
      simp only [Json.canonicalMembers_eq, List.map_append, Fields.sorted] at hheader ⊢
      rw [hheader]
    have hnames : ((type.header ++ type.fields.sorted.write resource).map (·.1)).Nodup := by
      rw [List.map_append, Fields.sorted_names]
      refine List.nodup_append.2 ⟨by simp [header], hfields.names_nodup resource, ?_⟩
      rintro _ hheading name hname rfl
      obtain ⟨member, hmember, rfl⟩ := List.mem_map.1 hheading
      exact type.header_apart member hmember ((hfields.names_sublist resource).subset hname)
    have hread := hfields.sorted_lawful.decodeObject_object resource type.header_apart hnames
    rw [same, ← hmembers] at hread
    exact hread
  · intro resource hnull
    cases hnull

theorem Composed.faithful (h : type.Composed) : type.format.Faithful :=
  h.lawful.format_lawful.faithful h.sorted_lawful

end ResourceType

/-! ## The catalog -/

theorem Catalog.resources_faithful : ∀ entry ∈ Catalog.resources, entry.format.Faithful := by
  simp only [Catalog.resources, List.forall_mem_cons, List.not_mem_nil, false_implies, implies_true,
    and_true]
  exact ⟨NodeSet.type_composed.faithful, IPReservation.type_composed.faithful,
    NetConfig.type_composed.faithful, DNSService.type_composed.faithful,
    DNSRecordSet.type_composed.faithful⟩

theorem Catalog.parts_faithful : ∀ entry ∈ Catalog.parts, entry.format.Faithful := by
  simp only [Catalog.parts, List.forall_mem_cons, List.not_mem_nil, false_implies, implies_true,
    and_true]
  exact ⟨NodeSetSpec.format_composed.faithful, NodeSetStatus.format_composed.faithful,
    NodeTemplate.format_composed.faithful, NodeSpec.format_composed.faithful,
    NetworkAttachment.format_composed.faithful, Condition.format_composed.faithful,
    IPReservationSpec.format_composed.faithful, IPReservationStatus.format_composed.faithful,
    Reservation.format_composed.faithful, NetConfigSpec.format_composed.faithful,
    NetworkDefinition.format_composed.faithful, Subnet.format_composed.faithful,
    AllocationRange.format_composed.faithful, DNSServiceSpec.format_composed.faithful,
    DNSServiceStatus.format_composed.faithful, DNSRecordSetSpec.format_composed.faithful,
    DNSRecordSetStatus.format_composed.faithful, DNSHost.format_composed.faithful⟩

/-- Resources, their parts and their metadata are read back as they were written. -/
theorem documents_faithful :
    (∀ entry ∈ Catalog.resources ++ Catalog.parts, entry.format.Faithful) ∧
      ObjectMeta.format.Faithful ∧ OwnerReference.format.Faithful := by
  refine ⟨?_, ObjectMeta.format_composed.faithful, OwnerReference.format_composed.faithful⟩
  intro entry hentry
  rcases List.mem_append.1 hentry with hresource | hpart
  · exact Catalog.resources_faithful entry hresource
  · exact Catalog.parts_faithful entry hpart

example : ObjectMeta.format.needsWrite {} { labels := some ∅ } = true := by decide

end NodeIdentity
