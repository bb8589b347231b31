import NodeIdentity.HostRecords
import NodeIdentity.Store.Memory

/-!
# Peers of the operator

What others do to a store in memory: store objects, give addresses to reservations, and offer a name
service.
-/

namespace NodeIdentity.MemoryStore

/-- A store in a namespace that has a network configuration. -/
def configured : MemoryStore where
  netConfigs := [Resource.named "netconfig" {}]

/-- Store a reservation under its name. -/
def putReservation (store : MemoryStore) (reservation : IPReservation) : MemoryStore :=
  { store with
    reservations := store.reservations.insert reservation.metadata.ownName reservation }

/-- Store a record set under its name. -/
def putRecordSet (store : MemoryStore) (recordSet : DNSRecordSet) : MemoryStore :=
  { store with recordSets := store.recordSets.insert recordSet.metadata.ownName recordSet }

/-- Report the status of a reservation, if there is one of the name. -/
def reportReservation (store : MemoryStore) (name : String)
    (status : Option IPReservationStatus) : MemoryStore :=
  match store.reservations.get? name with
  | some reservation =>
      { store with
        reservations := store.reservations.insert name { reservation with status := status } }
  | none => store

/-- Report the status of a record set, if there is one of the name. -/
def reportRecordSet (store : MemoryStore) (name : String)
    (status : Option DNSRecordSetStatus) : MemoryStore :=
  match store.recordSets.get? name with
  | some recordSet =>
      { store with
        recordSets := store.recordSets.insert name { recordSet with status := status } }
  | none => store

/-- Offer a name service under some addresses, for nodes and inside the cluster alike. -/
def addDnsService (store : MemoryStore) (name : String) (ready : Bool)
    (addresses : Option (List String)) : MemoryStore :=
  let status : DNSServiceStatus :=
    { dnsClusterAddresses := addresses
      dnsAddresses := addresses
      conditions := [readyCondition (if ready then "True" else "False")] }
  let service : DNSService :=
    { metadata := { name := some name }, spec := {}, status := some status }
  { store with dnsServices := store.dnsServices ++ [service] }

/-- The status of a reservation that was given addresses. -/
def allocated (ready : String) (reservations : List Reservation) : IPReservationStatus where
  reservations := reservations
  conditions := [readyCondition ready]

/-- Give addresses to the reservation of a name. -/
def allocate (store : MemoryStore) (name ready : String) (reservations : List Reservation) :
    MemoryStore :=
  store.reportReservation name (some (allocated ready reservations))

/-- The address that the reservation at a place in the order of names gets. -/
def defaultAddress (index : Nat) : String :=
  "172.20.0." ++ toString (10 + index)

/-- Give every reservation an address on the control network. -/
def allocateAll (store : MemoryStore) (ready domain : String) : MemoryStore :=
  store.reservations.keys.zipIdx.foldl
    (fun store (name, index) =>
      store.allocate name ready
        [{ network := ctlplaneNetwork, address := defaultAddress index, dnsDomain := domain }])
    store

end NodeIdentity.MemoryStore
