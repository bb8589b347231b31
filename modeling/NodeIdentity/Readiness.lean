import NodeIdentity.Resource.Dns
import NodeIdentity.Resource.IPReservation

/-!
# Readiness

How far something is that others bring about: ready with a value, still awaited, or not to be
expected at all; and what the reservations of a plan and the name service of a namespace come to.
-/

namespace NodeIdentity

/-- How far something is that others bring about. -/
inductive Readiness (α : Type)
  | ready (value : α)
  | waiting
  | notApplicable
deriving DecidableEq, Repr

/-- The addresses given to every node. -/
abbrev ReservationMap : Type :=
  Dict (List Reservation)

/-- The addresses of a reservation that is ready. -/
def IPReservation.ready? (reservation : IPReservation) : Option (List Reservation) :=
  match reservation.status with
  | some status => if isReady status.conditions then some status.reservations else none
  | none => none

/-- Collect the addresses of reservations behind those in `map`, until one is not ready. -/
def collectReservations (map : ReservationMap) : List IPReservation → Readiness ReservationMap
  | [] => .ready map
  | reservation :: rest =>
      match reservation.ready? with
      | some reservations => collectReservations (map.insert reservation.name reservations) rest
      | none => .waiting

/-- The addresses of all reservations, once every one of them is ready. -/
def aggregateReservations (reservations : List IPReservation) : Readiness ReservationMap :=
  if reservations.isEmpty then .notApplicable else collectReservations ∅ reservations

/-- The addresses under which a name service is reached. -/
structure DnsAddresses where
  /-- The addresses that nodes use. -/
  serverAddresses : Option (List String) := none
  /-- The addresses inside the cluster. -/
  clusterAddresses : Option (List String) := none
deriving DecidableEq, Repr, Inhabited

/-- Whether nodes can reach the name service. -/
def DnsAddresses.hasServerAddresses (addresses : DnsAddresses) : Bool :=
  match addresses.serverAddresses with
  | some list => !list.isEmpty
  | none => false

/-- The addresses of the first name service of a namespace, once it is ready. -/
def inspectDnsServices : List DNSService → Readiness DnsAddresses
  | [] => .notApplicable
  | service :: _ =>
      let status := service.status.getD {}
      if isReady status.conditions then
        .ready ⟨status.dnsAddresses, status.dnsClusterAddresses⟩
      else .waiting

end NodeIdentity
