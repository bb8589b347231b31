import NodeIdentity.Resource.NodeSet

/-!
# Address reservations

A reservation asks for an address on each of a node's networks; the address manager reports the
addresses that it has given.
-/

namespace NodeIdentity

/-- What a reservation asks for. -/
structure IPReservationSpec where
  networks : List NetworkAttachment := []
deriving DecidableEq, Repr, Inhabited

/-- How the request of a reservation is written and read. -/
def IPReservationSpec.format : Format IPReservationSpec :=
  Format.described
    (.record "IPReservationSpec" ((Fields.start IPReservationSpec.mk)
      |>.and (.defaulted "networks" "Networks to reserve addresses on."
        (.list NetworkAttachment.format) [] IPReservationSpec.networks)))
    "`IPReservation` requests one address per listed network for a single node.

Addresses are allocated by the IPAM controller, which reports them in
`status.reservations` and marks the resource Ready."

/-- An address given to a node on one of its networks. -/
structure Reservation where
  network : String
  subnet : Option String := none
  address : String
  /-- The domain of the subnet, empty if it has none. -/
  dnsDomain : String := ""
  gateway : Option String := none
deriving DecidableEq, Repr, Inhabited

/-- How reserved addresses are written and read. -/
def Reservation.format : Format Reservation :=
  Format.described
    (.record "Reservation" ((Fields.start Reservation.mk)
      |>.and (.mandatory "network" "Network the address was allocated on." .text
        Reservation.network)
      |>.and (.optional "subnet" "Subnet the address was allocated from." .text
        Reservation.subnet true)
      |>.and (.mandatory "address" "Allocated address." .text Reservation.address)
      |>.and (.defaulted "dnsDomain" "DNS domain of the subnet (e.g., \"ctlplane.example.com\")."
        .text "" Reservation.dnsDomain)
      |>.and (.optional "gateway" "Gateway of the subnet." .text Reservation.gateway true)))
    "An allocated address plus DNS domain for one network of a node."

/-- What is reported of a reservation. -/
structure IPReservationStatus where
  reservations : List Reservation := []
  conditions : List Condition := []
  observedGeneration : Option Int64 := none
deriving DecidableEq, Inhabited

/-- How the status of a reservation is written and read. -/
def IPReservationStatus.format : Format IPReservationStatus :=
  Format.described
    (.record "IPReservationStatus" ((Fields.start IPReservationStatus.mk)
      |>.and (.defaulted "reservations" none (.list Reservation.format) []
        IPReservationStatus.reservations)
      |>.and (.defaulted "conditions" none (.list Condition.format) []
        IPReservationStatus.conditions)
      |>.and (.optional "observedGeneration" none .int64
        IPReservationStatus.observedGeneration false)))
    "`IPReservation` status"

/-- A request for the addresses of one node. -/
abbrev IPReservation : Type :=
  Resource IPReservationSpec IPReservationStatus

/-- The type of address reservations. -/
def IPReservation.type : ResourceType IPReservationSpec IPReservationStatus where
  kind := .ipReservation
  purpose := "IPReservation requests an address on each listed network for a single node."
  spec := IPReservationSpec.format
  status := some IPReservationStatus.format

end NodeIdentity
