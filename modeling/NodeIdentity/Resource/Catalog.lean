import NodeIdentity.Resource.Dns
import NodeIdentity.Resource.IPReservation
import NodeIdentity.Resource.NetConfig
import NodeIdentity.Resource.NodeSet

/-!
# Catalog

The formats of all resources and of their parts, by the name of their type.
-/

namespace NodeIdentity

/-- A format of some type. -/
structure NamedFormat where
  name : String
  {α : Type}
  format : Format α

namespace Catalog

/-- The formats of whole resources. -/
def resources : List NamedFormat :=
  [⟨"NodeSet", NodeSet.type.format⟩,
    ⟨"IPReservation", IPReservation.type.format⟩,
    ⟨"NetConfig", NetConfig.type.format⟩,
    ⟨"DNSService", DNSService.type.format⟩,
    ⟨"DNSRecordSet", DNSRecordSet.type.format⟩]

/-- The formats of the parts of resources. -/
def parts : List NamedFormat :=
  [⟨"NodeSetSpec", NodeSetSpec.format⟩,
    ⟨"NodeSetStatus", NodeSetStatus.format⟩,
    ⟨"NodeTemplate", NodeTemplate.format⟩,
    ⟨"NodeSpec", NodeSpec.format⟩,
    ⟨"NetworkAttachment", NetworkAttachment.format⟩,
    ⟨"Condition", Condition.format⟩,
    ⟨"IPReservationSpec", IPReservationSpec.format⟩,
    ⟨"IPReservationStatus", IPReservationStatus.format⟩,
    ⟨"Reservation", Reservation.format⟩,
    ⟨"NetConfigSpec", NetConfigSpec.format⟩,
    ⟨"NetworkDefinition", NetworkDefinition.format⟩,
    ⟨"Subnet", Subnet.format⟩,
    ⟨"AllocationRange", AllocationRange.format⟩,
    ⟨"DNSServiceSpec", DNSServiceSpec.format⟩,
    ⟨"DNSServiceStatus", DNSServiceStatus.format⟩,
    ⟨"DNSRecordSetSpec", DNSRecordSetSpec.format⟩,
    ⟨"DNSRecordSetStatus", DNSRecordSetStatus.format⟩,
    ⟨"DNSHost", DNSHost.format⟩]

/-- The format with a name. -/
def find? (name : String) : Option NamedFormat :=
  (resources ++ parts).find? (fun entry => entry.name = name)

end Catalog

end NodeIdentity
