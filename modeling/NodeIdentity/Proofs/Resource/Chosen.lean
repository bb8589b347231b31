import NodeIdentity.Proofs.Resource.Child
import NodeIdentity.Proofs.Resource.Encoding
import NodeIdentity.Readiness

/-!
# What clients choose

A server sets the namespace, the uid, the generation and the version of an object itself; the rest
is chosen by clients.  Marking a child does not touch what servers set, and readiness does not look
at it.
-/

namespace NodeIdentity

/-- Metadata without what servers set. -/
def ObjectMeta.chosen (metadata : ObjectMeta) : ObjectMeta :=
  { metadata with ns := none, uid := none, generation := none, resourceVersion := none }

section Resources

variable {σ τ : Type}

/-- A resource without what servers set. -/
def Resource.chosen (resource : Resource σ τ) : Resource σ τ :=
  { resource with metadata := resource.metadata.chosen }

/-- A document that is read as a resource, but for what servers set. -/
def ResourceType.Holds (type : ResourceType σ τ) (document : Json) (resource : Resource σ τ) :
    Prop :=
  ∃ held, type.format.decode document = .ok held ∧ held.chosen = resource.chosen

namespace Resource

variable {resource other : Resource σ τ}

theorem status_of_chosen (same : resource.chosen = other.chosen) :
    resource.status = other.status :=
  show resource.chosen.status = other.chosen.status by rw [same]

theorem name_of_chosen (same : resource.chosen = other.chosen) : resource.name = other.name :=
  show resource.chosen.name = other.chosen.name by rw [same]

theorem chosen_withStatus_congr (same : resource.chosen = other.chosen) (status : Option τ) :
    ({ resource with status := status } : Resource σ τ).chosen =
      ({ other with status := status } : Resource σ τ).chosen :=
  show ({ resource.chosen with status := status } : Resource σ τ) =
    { other.chosen with status := status } by rw [same]

theorem chosen_applyToResource (child : ChildMeta) (spec : σ) (resource : Resource σ τ) :
    (child.applyToResource spec resource).chosen = child.applyToResource spec resource.chosen := rfl

theorem chosen_applyToResource_congr (same : resource.chosen = other.chosen) (child : ChildMeta)
    (spec : σ) :
    (child.applyToResource spec resource).chosen = (child.applyToResource spec other).chosen := by
  rw [chosen_applyToResource, chosen_applyToResource, same]

/-- Whether a child is as it is wanted can be seen without what servers set. -/
theorem applyToResource_eq_self_iff (child : ChildMeta) (spec : σ) :
    child.applyToResource spec resource = resource ↔
      child.applyToResource spec resource.chosen = resource.chosen := by
  constructor
  · intro settled
    rw [← chosen_applyToResource, settled]
  · intro settled
    have hspec : spec = resource.spec := congrArg Resource.spec settled
    have hlabels := congrArg (·.metadata.labels) settled
    have howners := congrArg (·.metadata.ownerReferences) settled
    simp only [ChildMeta.applyToResource, ChildMeta.applyTo, chosen, ObjectMeta.chosen]
      at hlabels howners
    unfold ChildMeta.applyToResource ChildMeta.applyTo
    rw [hspec, hlabels, howners]

theorem applyToResource_eq_self_congr (same : resource.chosen = other.chosen) (child : ChildMeta)
    (spec : σ) :
    child.applyToResource spec resource = resource ↔
      child.applyToResource spec other = other := by
  rw [applyToResource_eq_self_iff child spec, same, ← applyToResource_eq_self_iff]

end Resource

theorem ResourceType.Lawful.needsWrite_congr {type : ResourceType σ τ} (lawful : type.Lawful)
    {resource other : Resource σ τ} (same : resource.chosen = other.chosen) (child : ChildMeta)
    (spec : σ) :
    type.needsWrite resource (child.applyToResource spec resource) =
      type.needsWrite other (child.applyToResource spec other) := by
  rw [Bool.eq_iff_iff, lawful.needsWrite_iff, lawful.needsWrite_iff, ne_eq, ne_eq, eq_comm,
    Resource.applyToResource_eq_self_congr same, eq_comm]

end Resources

/-! ## Readiness -/

theorem collectReservations_congr {list others : List IPReservation}
    (same : list.map Resource.chosen = others.map Resource.chosen) (map : ReservationMap) :
    collectReservations map list = collectReservations map others := by
  induction list generalizing others map with
  | nil =>
      rw [List.map_nil, eq_comm, List.map_eq_nil_iff] at same
      rw [same]
  | cons reservation rest ih =>
      obtain ⟨other, others, rfl, hother, hrest⟩ := List.map_eq_cons_iff.1 same.symm
      have hready : IPReservation.ready? other = IPReservation.ready? reservation := by
        unfold IPReservation.ready?
        rw [Resource.status_of_chosen hother]
      unfold collectReservations
      rw [hready, Resource.name_of_chosen hother]
      split
      · exact ih hrest.symm _
      · rfl

/-- What reservations come to does not depend on what servers set of them. -/
theorem aggregateReservations_congr {list others : List IPReservation}
    (same : list.map Resource.chosen = others.map Resource.chosen) :
    aggregateReservations list = aggregateReservations others := by
  have hempty : list.isEmpty = others.isEmpty := by
    have hlength := congrArg List.length same
    rw [List.length_map, List.length_map] at hlength
    cases list <;> cases others <;> simp_all
  unfold aggregateReservations
  rw [hempty, collectReservations_congr same]

/-- What name services come to does not depend on what servers set of them. -/
theorem inspectDnsServices_congr {list others : List DNSService}
    (same : list.map Resource.chosen = others.map Resource.chosen) :
    inspectDnsServices list = inspectDnsServices others := by
  cases list with
  | nil =>
      rw [List.map_nil, eq_comm, List.map_eq_nil_iff] at same
      rw [same]
  | cons service rest =>
      obtain ⟨other, others, rfl, hother, -⟩ := List.map_eq_cons_iff.1 same.symm
      unfold inspectDnsServices
      dsimp only
      rw [Resource.status_of_chosen hother]

end NodeIdentity
