import NodeIdentity.HostRecords
import NodeIdentity.Status.State

/-!
# Status updates

The status of a node set while it is being put together.  An updater starts from the stored status,
collects changes, notes the condition states that are entered on the way, and tells whether what it
has collected is worth writing.
-/

namespace NodeIdentity

/-- A condition entering a state. -/
structure Transition where
  type : String
  state : ConditionState
deriving DecidableEq, Repr

/-- The status of a node set, stored and collected. -/
structure StatusUpdater where
  /-- The namespace of the node set. -/
  ns : String
  name : String
  /-- The stored status. -/
  current : Option NodeSetStatus
  /-- The collected status. -/
  status : NodeSetStatus
  /-- The transitions on the way to the collected status, in order. -/
  transitions : List Transition := []
deriving DecidableEq

namespace StatusUpdater

/-- An updater that has collected nothing yet. -/
def ofNodeSet (nodeSet : NodeSet) : StatusUpdater where
  ns := nodeSet.place
  name := nodeSet.name
  current := nodeSet.status
  status := nodeSet.status.getD {}

/-- The collected condition of a type. -/
def condition? (updater : StatusUpdater) (type : String) : Option Condition :=
  findCondition updater.status.conditions type

/-- The state that the collected condition of a type shows. -/
def state? (updater : StatusUpdater) (type : String) : Option ConditionState :=
  ConditionState.find? updater.status.conditions type

/-- Set a condition. -/
def setCondition (updater : StatusUpdater) (now : String) (new : Condition) : StatusUpdater :=
  { updater with
    status := { updater.status with
      conditions := NodeIdentity.setCondition now new updater.status.conditions } }

/-- Set the generation of the request that the status speaks of. -/
def setObservedGeneration (updater : StatusUpdater) (generation : Option Int64) : StatusUpdater :=
  { updater with status := { updater.status with observedGeneration := generation } }

/-- Publish an identity in place of the one before. -/
def setIdentity (updater : StatusUpdater) (identity : PublishedIdentity) : StatusUpdater :=
  { updater with
    status := { updater.status with
      dnsClusterAddresses := identity.dnsClusterAddresses
      ctlplaneSearchDomain := identity.ctlplaneSearchDomain
      allHostnames := identity.allHostnames
      allIPs := identity.allIPs } }

/-- Withdraw the published identity. -/
def clearIdentity (updater : StatusUpdater) : StatusUpdater :=
  updater.setIdentity {}

/-- Show a state in the condition of a type; a state other than before is a transition. -/
def setState (updater : StatusUpdater) (now type : String) (state : ConditionState)
    (message : String) : StatusUpdater :=
  let marked := updater.setCondition now (state.condition type message)
  if updater.state? type = some state then marked
  else { marked with transitions := marked.transitions ++ [⟨type, state⟩] }

/-- Show a part in a state, with a detail behind its message if there is one. -/
def mark (updater : StatusUpdater) (now : String) (feature : Feature) (state : ConditionState)
    (detail : Option String) : StatusUpdater :=
  let message :=
    match detail with
    | some detail => feature.message state ++ ": " ++ detail
    | none => feature.message state
  updater.setState now feature.conditionType state message

/-- The state of the whole that follows from the collected conditions of the parts. -/
def overall (updater : StatusUpdater) : ConditionState :=
  overallState (updater.state? Feature.ipReservation.conditionType)
    (updater.state? Feature.dnsData.conditionType)

/-- Show the whole in the state that follows from its parts. -/
def markOverall (updater : StatusUpdater) (now : String) : StatusUpdater :=
  updater.setState now Condition.readyType updater.overall (overallMessage updater.overall)

/-- Whether the collected status says something else than the stored one. -/
def hasChanges (updater : StatusUpdater) : Bool :=
  match updater.current with
  | none => true
  | some current =>
      current.observedGeneration ≠ updater.status.observedGeneration ||
        current.dnsClusterAddresses ≠ updater.status.dnsClusterAddresses ||
        current.ctlplaneSearchDomain ≠ updater.status.ctlplaneSearchDomain ||
        current.allHostnames ≠ updater.status.allHostnames ||
        current.allIPs ≠ updater.status.allIPs ||
        !conditionsEqual current.conditions updater.status.conditions

end StatusUpdater

end NodeIdentity
