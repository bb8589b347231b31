import NodeIdentity.Proofs.Format.Composition
import NodeIdentity.Resource.Catalog
import NodeIdentity.Resource.Child

/-!
# Documents of resources

The five kinds of resources, with their metadata and all their parts, are put together field by
field, so they are read back from the documents that are written for them.  Their documents differ
exactly when they do, and a child is written only where it changes.
-/

namespace NodeIdentity

open Field.Composed

/-! ## Metadata and conditions -/

theorem OwnerReference.format_composed : OwnerReference.format.Composed :=
  .record
    ((Fields.Composed.start OwnerReference.mk)
      |>.and (lenient .text _ _ _) (by decide)
      |>.and (lenient .text _ _ _) (by decide)
      |>.and (lenient .text _ _ _) (by decide)
      |>.and (lenient .text _ _ _) (by decide)
      |>.and (optional .truth _ _ _ _) (by decide)
      |>.and (optional .truth _ _ _ _) (by decide))
    (fun _ => rfl) _ _

theorem ObjectMeta.format_composed : ObjectMeta.format.Composed :=
  .record
    ((Fields.Composed.start ObjectMeta.mk)
      |>.and (optional .text _ _ _ _) (by decide)
      |>.and (optional .text _ _ _ _) (by decide)
      |>.and (optional .text _ _ _ _) (by decide)
      |>.and (optional .text _ _ _ _) (by decide)
      |>.and (optional .int64 _ _ _ _) (by decide)
      |>.and (optional .text _ _ _ _) (by decide)
      |>.and (optional (.dict .text) _ _ _ _) (by decide)
      |>.and (optional (.dict .text) _ _ _ _) (by decide)
      |>.and (optional (.list .text) _ _ _ _) (by decide)
      |>.and (optional (.list OwnerReference.format_composed) _ _ _ _) (by decide))
    (fun _ => rfl) _ _

theorem Condition.format_composed : Condition.format.Composed :=
  .described
    (.record
      ((Fields.Composed.start Condition.mk)
        |>.and (mandatory .text _ _ _) (by decide)
        |>.and (mandatory .text _ _ _) (by decide)
        |>.and (optional .text _ _ _ _) (by decide)
        |>.and (optional .text _ _ _ _) (by decide)
        |>.and (optional .text _ _ _ _) (by decide)
        |>.and (optional .text _ _ _ _) (by decide))
      (fun _ => rfl) _ _) _

/-! ## What the kinds ask for and report -/

theorem NetworkAttachment.format_composed : NetworkAttachment.format.Composed :=
  .described
    (.record
      ((Fields.Composed.start NetworkAttachment.mk)
        |>.and (mandatory .text _ _ _) (by decide)
        |>.and (optional .text _ _ _ _) (by decide)
        |>.and (optional .text _ _ _ _) (by decide))
      (fun _ => rfl) _ _) _

theorem NodeTemplate.format_composed : NodeTemplate.format.Composed :=
  .described
    (.record
      ((Fields.Composed.start NodeTemplate.mk)
        |>.and (defaulted (.list NetworkAttachment.format_composed) _ _ _ _) (by decide))
      (fun _ => rfl) _ _) _

theorem NodeSpec.format_composed : NodeSpec.format.Composed :=
  .described
    (.record
      ((Fields.Composed.start NodeSpec.mk)
        |>.and (optional .text _ _ _ _) (by decide)
        |>.and (defaulted (.list NetworkAttachment.format_composed) _ _ _ _) (by decide))
      (fun _ => rfl) _ _) _

theorem NodeSetSpec.format_composed : NodeSetSpec.format.Composed :=
  .described
    (.record
      ((Fields.Composed.start NodeSetSpec.mk)
        |>.and (defaulted NodeTemplate.format_composed _ _ _ _) (by decide)
        |>.and (defaulted (.dict NodeSpec.format_composed) _ _ _ _) (by decide))
      (fun _ => rfl) _ _) _

theorem NodeSetStatus.format_composed : NodeSetStatus.format.Composed :=
  .described
    (.record
      ((Fields.Composed.start NodeSetStatus.mk)
        |>.and (defaulted (.list Condition.format_composed) _ _ _ _) (by decide)
        |>.and (optional .int64 _ _ _ _) (by decide)
        |>.and (defaulted (.list .text) _ _ _ _) (by decide)
        |>.and (optional .text _ _ _ _) (by decide)
        |>.and (defaulted (.dict (.dict .text)) _ _ _ _) (by decide)
        |>.and (defaulted (.dict (.dict .text)) _ _ _ _) (by decide))
      (fun _ => rfl) _ _) _

theorem IPReservationSpec.format_composed : IPReservationSpec.format.Composed :=
  .described
    (.record
      ((Fields.Composed.start IPReservationSpec.mk)
        |>.and (defaulted (.list NetworkAttachment.format_composed) _ _ _ _) (by decide))
      (fun _ => rfl) _ _) _

theorem Reservation.format_composed : Reservation.format.Composed :=
  .described
    (.record
      ((Fields.Composed.start Reservation.mk)
        |>.and (mandatory .text _ _ _) (by decide)
        |>.and (optional .text _ _ _ _) (by decide)
        |>.and (mandatory .text _ _ _) (by decide)
        |>.and (defaulted .text _ _ _ _) (by decide)
        |>.and (optional .text _ _ _ _) (by decide))
      (fun _ => rfl) _ _) _

theorem IPReservationStatus.format_composed : IPReservationStatus.format.Composed :=
  .described
    (.record
      ((Fields.Composed.start IPReservationStatus.mk)
        |>.and (defaulted (.list Reservation.format_composed) _ _ _ _) (by decide)
        |>.and (defaulted (.list Condition.format_composed) _ _ _ _) (by decide)
        |>.and (optional .int64 _ _ _ _) (by decide))
      (fun _ => rfl) _ _) _

theorem AllocationRange.format_composed : AllocationRange.format.Composed :=
  .described
    (.record
      ((Fields.Composed.start AllocationRange.mk)
        |>.and (mandatory .text _ _ _) (by decide)
        |>.and (mandatory .text _ _ _) (by decide))
      (fun _ => rfl) _ _) _

theorem Subnet.format_composed : Subnet.format.Composed :=
  .described
    (.record
      ((Fields.Composed.start Subnet.mk)
        |>.and (mandatory .text _ _ _) (by decide)
        |>.and (mandatory .text _ _ _) (by decide)
        |>.and (optional .text _ _ _ _) (by decide)
        |>.and (optional .int32 _ _ _ _) (by decide)
        |>.and (defaulted (.list AllocationRange.format_composed) _ _ _ _) (by decide))
      (fun _ => rfl) _ _) _

theorem NetworkDefinition.format_composed : NetworkDefinition.format.Composed :=
  .described
    (.record
      ((Fields.Composed.start NetworkDefinition.mk)
        |>.and (mandatory .text _ _ _) (by decide)
        |>.and (defaulted .text _ _ _ _) (by decide)
        |>.and (optional .int32 _ _ _ _) (by decide)
        |>.and (defaulted (.list Subnet.format_composed) _ _ _ _) (by decide))
      (fun _ => rfl) _ _) _

theorem NetConfigSpec.format_composed : NetConfigSpec.format.Composed :=
  .described
    (.record
      ((Fields.Composed.start NetConfigSpec.mk)
        |>.and (defaulted (.list NetworkDefinition.format_composed) _ _ _ _) (by decide))
      (fun _ => rfl) _ _) _

theorem DNSServiceSpec.format_composed : DNSServiceSpec.format.Composed :=
  .described
    (.record
      ((Fields.Composed.start DNSServiceSpec.mk)
        |>.and (optional .int32 _ _ _ _) (by decide))
      (fun _ => rfl) _ _) _

theorem DNSServiceStatus.format_composed : DNSServiceStatus.format.Composed :=
  .described
    (.record
      ((Fields.Composed.start DNSServiceStatus.mk)
        |>.and (optional (.list .text) _ _ _ _) (by decide)
        |>.and (optional (.list .text) _ _ _ _) (by decide)
        |>.and (defaulted (.list Condition.format_composed) _ _ _ _) (by decide))
      (fun _ => rfl) _ _) _

theorem DNSHost.format_composed : DNSHost.format.Composed :=
  .described
    (.record
      ((Fields.Composed.start DNSHost.mk)
        |>.and (mandatory .text _ _ _) (by decide)
        |>.and (mandatory (.list .text) _ _ _) (by decide))
      (fun _ => rfl) _ _) _

theorem DNSRecordSetSpec.format_composed : DNSRecordSetSpec.format.Composed :=
  .described
    (.record
      ((Fields.Composed.start DNSRecordSetSpec.mk)
        |>.and (defaulted (.list DNSHost.format_composed) _ _ _ _) (by decide)
        |>.and (defaulted .text _ _ _ _) (by decide))
      (fun _ => rfl) _ _) _

theorem DNSRecordSetStatus.format_composed : DNSRecordSetStatus.format.Composed :=
  .described
    (.record
      ((Fields.Composed.start DNSRecordSetStatus.mk)
        |>.and (defaulted (.list Condition.format_composed) _ _ _ _) (by decide))
      (fun _ => rfl) _ _) _

/-! ## Resources -/

/-- A write is needed exactly where two values differ. -/
theorem Format.Lawful.needsWrite_eq_false_iff {α : Type} {format : Format α} (h : format.Lawful)
    {current desired : α} : format.needsWrite current desired = false ↔ current = desired := by
  rw [Format.needsWrite, decide_eq_false_iff_not, Decidable.not_not, h.encode_inj]

namespace ResourceType

variable {σ τ : Type} {type : ResourceType σ τ}

/-- A type whose parts are put together; a kind without status has none to report. -/
structure Composed (type : ResourceType σ τ) : Prop where
  spec : type.spec.Composed
  status : ∀ format, type.status = some format → format.Composed
  empty : type.status = none → ∀ _ : τ, False

/-- A type whose resources, and what is reported of them, are read back as they were written. -/
structure Lawful (type : ResourceType σ τ) : Prop where
  format_lawful : type.format.Lawful
  status : ∀ format, type.status = some format → format.Lawful

theorem Composed.fields_composed (h : type.Composed) :
    ∃ build : Resource σ τ → Resource σ τ, type.fields.Composed build ∧
      ∀ resource, build resource = resource := by
  have hspec := h.spec
  unfold ResourceType.fields
  split
  · rename_i format hstatus
    have hformat := h.status format hstatus
    exact ⟨_, (Fields.Composed.start Resource.mk)
      |>.and (mandatory ObjectMeta.format_composed _ _ _) (by simp [Fields.start])
      |>.and (mandatory hspec _ _ _) (by simp [Fields.and, Fields.start, Field.mandatory])
      |>.and (optional hformat _ _ _ _)
        (by simp [Fields.and, Fields.start, Field.mandatory, Field.optional]), fun _ => rfl⟩
  · rename_i hstatus
    refine ⟨_, (Fields.Composed.start (fun metadata spec => Resource.mk metadata spec none))
      |>.and (mandatory ObjectMeta.format_composed _ _ _) (by simp [Fields.start])
      |>.and (mandatory hspec _ _ _) (by simp [Fields.and, Fields.start, Field.mandatory]),
      fun resource => ?_⟩
    cases hvalue : resource.status with
    | none => rw [← hvalue]
    | some value => exact (h.empty hstatus value).elim

/-- The members in front of a document, which tell its type, are no fields of the resource. -/
theorem header_apart (type : ResourceType σ τ) :
    ∀ member ∈ type.header, member.1 ∉ type.fields.checks.map (·.name) := by
  intro member hmember
  have hnames : type.fields.checks.map (·.name) ⊆ ["metadata", "spec", "status"] := by
    unfold ResourceType.fields
    split <;> simp [Fields.and, Fields.start, Field.mandatory, Field.optional]
  simp only [header, List.mem_cons, List.not_mem_nil, or_false] at hmember
  rcases hmember with rfl | rfl
  · intro hname
    simpa using hnames hname
  · intro hname
    simpa using hnames hname

theorem Composed.lawful (h : type.Composed) : type.Lawful := by
  obtain ⟨build, hfields, same⟩ := h.fields_composed
  refine ⟨⟨?_, ?_⟩, fun format hstatus => (h.status format hstatus).lawful⟩
  · intro resource
    have hread := hfields.lawful.decodeObject resource type.header_apart
    rw [same] at hread
    exact hread
  · intro resource hnull
    cases hnull

/-- The documents of two resources differ exactly when the resources do. -/
theorem Lawful.needsWrite_iff (h : type.Lawful) {current desired : Resource σ τ} :
    type.needsWrite current desired = true ↔ current ≠ desired := by
  rw [needsWrite, ne_eq, ← h.format_lawful.needsWrite_eq_false_iff, Bool.not_eq_false]

theorem Lawful.needsWrite_self (h : type.Lawful) (resource : Resource σ τ) :
    type.needsWrite resource resource = false := by
  rw [Bool.eq_false_iff, ne_eq, h.needsWrite_iff]
  exact fun apart => apart rfl

theorem Lawful.eq_of_not_needsWrite (h : type.Lawful) {current desired : Resource σ τ}
    (spared : ¬ type.needsWrite current desired = true) : desired = current := by
  rw [h.needsWrite_iff, ne_eq, Classical.not_not] at spared
  exact spared.symm

end ResourceType

/-! ## Kinds -/

theorem NodeSet.type_composed : NodeSet.type.Composed where
  spec := NodeSetSpec.format_composed
  status _ h := Option.some.inj h ▸ NodeSetStatus.format_composed
  empty h := nomatch h

theorem IPReservation.type_composed : IPReservation.type.Composed where
  spec := IPReservationSpec.format_composed
  status _ h := Option.some.inj h ▸ IPReservationStatus.format_composed
  empty h := nomatch h

theorem NetConfig.type_composed : NetConfig.type.Composed where
  spec := NetConfigSpec.format_composed
  status _ h := nomatch h
  empty _ value := nomatch value

theorem DNSService.type_composed : DNSService.type.Composed where
  spec := DNSServiceSpec.format_composed
  status _ h := Option.some.inj h ▸ DNSServiceStatus.format_composed
  empty h := nomatch h

theorem DNSRecordSet.type_composed : DNSRecordSet.type.Composed where
  spec := DNSRecordSetSpec.format_composed
  status _ h := Option.some.inj h ▸ DNSRecordSetStatus.format_composed
  empty h := nomatch h

theorem NodeSet.type_lawful : NodeSet.type.Lawful :=
  NodeSet.type_composed.lawful

theorem IPReservation.type_lawful : IPReservation.type.Lawful :=
  IPReservation.type_composed.lawful

theorem NetConfig.type_lawful : NetConfig.type.Lawful :=
  NetConfig.type_composed.lawful

theorem DNSService.type_lawful : DNSService.type.Lawful :=
  DNSService.type_composed.lawful

theorem DNSRecordSet.type_lawful : DNSRecordSet.type.Lawful :=
  DNSRecordSet.type_composed.lawful

end NodeIdentity
