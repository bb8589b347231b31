import NodeIdentity.Store.Script

/-!
# A store in memory

Resources kept by name, without regard to namespaces, with a log of all calls and of all writes.
Calls can be made to fail: a failing call is logged and does nothing else.
-/

namespace NodeIdentity

/-- A write to a store in memory. -/
structure StoreWrite where
  outcome : UpsertOutcome
  kind : Kind
  name : String
deriving DecidableEq, Repr

/-- A store in memory. -/
structure MemoryStore where
  reservations : Dict IPReservation := ∅
  recordSets : Dict DNSRecordSet := ∅
  netConfigs : List NetConfig := []
  dnsServices : List DNSService := []
  /-- Whether record sets are served as soon as they are written. -/
  recordSetsServed : Bool := false
  /-- The causes with which calls are made to fail. -/
  faults : StoreCall → Option Cause := fun _ => none
  calls : List StoreCall := []
  writes : List StoreWrite := []

namespace MemoryStore

/-- The condition by which something is shown to be ready, or not to be. -/
def readyCondition (status : String) : Condition where
  type := Condition.readyType
  status := status
  reason := some "Ready"

/-- The status of a record set that is served. -/
def servedStatus : DNSRecordSetStatus where
  conditions := [readyCondition "True"]

/-- The resource that an upsert wants, and what it takes to have it, given what is stored. -/
def desired {σ τ : Type} (type : ResourceType σ τ) (blank : σ) (stored : Option (Resource σ τ))
    (name : String) (spec : σ) (child : ChildMeta) : Resource σ τ × UpsertOutcome :=
  match stored with
  | none => (child.applyToResource spec (Resource.named name blank), .created)
  | some current =>
      let wanted := child.applyToResource spec current
      (wanted, if type.needsWrite current wanted then .updated else .unchanged)

/-- The store with a call in its log. -/
def logCall (store : MemoryStore) (request : StoreCall) : MemoryStore :=
  { store with calls := store.calls ++ [request] }

/-- The store with a write in its log, if something was written. -/
def logWrite (store : MemoryStore) (outcome : UpsertOutcome) (kind : Kind) (name : String) :
    MemoryStore :=
  if outcome.wrote then { store with writes := store.writes ++ [⟨outcome, kind, name⟩] }
  else store

/-- Create or update a reservation. -/
def upsertReservation (store : MemoryStore) (name : String) (spec : IPReservationSpec)
    (child : ChildMeta) : UpsertOutcome × MemoryStore :=
  let (wanted, outcome) :=
    desired IPReservation.type {} (store.reservations.get? name) name spec child
  let written :=
    if outcome.wrote then { store with reservations := store.reservations.insert name wanted }
    else store
  (outcome, written.logWrite outcome .ipReservation name)

/-- Show a record set as served. -/
def serveRecordSet (store : MemoryStore) (name : String) : MemoryStore :=
  match store.recordSets.get? name with
  | some recordSet =>
      { store with
        recordSets := store.recordSets.insert name { recordSet with status := some servedStatus } }
  | none => store

/-- Create or update a record set, which is then shown as served if the store does so. -/
def upsertRecordSet (store : MemoryStore) (name : String) (spec : DNSRecordSetSpec)
    (child : ChildMeta) : UpsertOutcome × MemoryStore :=
  let (wanted, outcome) :=
    desired DNSRecordSet.type {} (store.recordSets.get? name) name spec child
  let written :=
    if outcome.wrote then { store with recordSets := store.recordSets.insert name wanted }
    else store
  let logged := written.logWrite outcome .dnsRecordSet name
  (outcome, if store.recordSetsServed then logged.serveRecordSet name else logged)

/-- The answer of a read: what is stored, or the failure that nothing is. -/
def found {α : Type} : Option α → Except Cause α
  | some value => .ok value
  | none => .error (.other "not found")

/-- Answer a call that is not made to fail. -/
def answer (store : MemoryStore) : (request : StoreCall) → request.Answer × MemoryStore
  | .listNetConfigs _ => (.ok store.netConfigs, store)
  | .listDnsServices _ => (.ok store.dnsServices, store)
  | .getReservation _ name => (found (store.reservations.get? name), store)
  | .getRecordSet _ name => (found (store.recordSets.get? name), store)
  | .upsertReservation _ name spec child =>
      let (outcome, store) := store.upsertReservation name spec child
      (.ok outcome, store)
  | .upsertRecordSet _ name spec child =>
      let (outcome, store) := store.upsertRecordSet name spec child
      (.ok outcome, store)

/-- Log a call and answer it, or fail where the call is made to. -/
def serve (request : StoreCall) (store : MemoryStore) : request.Answer × MemoryStore :=
  let logged := store.logCall request
  match store.faults request with
  | some cause => (.error cause, logged)
  | none => logged.answer request

end MemoryStore

end NodeIdentity
