import NodeIdentity.Store.Script

/-!
# Faults of a store

Which calls on a store are made to fail, chosen by the kind of call and the name of the object.
-/

namespace NodeIdentity

/-- What a call does to what, without regard to its namespace. -/
def StoreCall.target (request : StoreCall) : String :=
  let verb := request.verb ++ " " ++ request.kind.name
  match request.name? with
  | some name => verb ++ "/" ++ name
  | none => verb

/-- What a call does to what, and where. -/
def StoreCall.text (request : StoreCall) : String :=
  let verb := request.verb ++ " " ++ request.kind.name ++ " " ++ request.ns
  match request.name? with
  | some name => verb ++ "/" ++ name
  | none => verb

/-- The calls that are made to fail, whatever the cause. -/
structure FaultFlags where
  /-- The names whose upserts fail. -/
  upserts : List String := []
  listNetConfigs : Bool := false
  listDnsServices : Bool := false
  getRecordSet : Bool := false
deriving DecidableEq, Repr

/-- The cause of a failure that was arranged. -/
def injected : Cause :=
  .other "injected failure"

/-- Whether a call is made to fail. -/
def FaultFlags.hits (flags : FaultFlags) : StoreCall → Bool
  | .listNetConfigs _ => flags.listNetConfigs
  | .listDnsServices _ => flags.listDnsServices
  | .upsertReservation _ name _ _ | .upsertRecordSet _ name _ _ => flags.upserts.contains name
  | .getRecordSet _ _ => flags.getRecordSet
  | .getReservation _ _ => false

/-- The cause with which a call is made to fail. -/
def FaultFlags.cause? (flags : FaultFlags) (request : StoreCall) : Option Cause :=
  if flags.hits request then some injected else none

/-- Make the calls with a target fail with a cause, or no longer fail, and leave all others. -/
def overrideFault (target : String) (cause : Option Cause) (faults : StoreCall → Option Cause)
    (request : StoreCall) : Option Cause :=
  if request.target = target then cause else faults request

end NodeIdentity
