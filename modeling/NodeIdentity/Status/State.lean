import NodeIdentity.Readiness

/-!
# Condition states

The four states in which a part of a node set's network identity can be, how a condition shows each
of them, and how they are read back from conditions, whoever wrote them.
-/

namespace NodeIdentity

/-- The state of a part of a node set's network identity. -/
inductive ConditionState
  | ready
  | waiting
  | error
  | notApplicable
deriving DecidableEq, Repr

namespace ConditionState

/-- All states. -/
def all : List ConditionState :=
  [.ready, .waiting, .error, .notApplicable]

/-- The name of a state. -/
def name : ConditionState → String
  | .ready => "Ready"
  | .waiting => "Waiting"
  | .error => "Error"
  | .notApplicable => "NotApplicable"

/-- The status of a condition that shows a state. -/
def status : ConditionState → String
  | .ready | .notApplicable => "True"
  | .waiting | .error => "False"

/-- The reason of a condition that shows a state. -/
def reason : ConditionState → String
  | .ready => "Ready"
  | .waiting => "Requested"
  | .error => "Error"
  | .notApplicable => "NotApplicable"

/-- The severity of a condition that shows a state. -/
def severity : ConditionState → Option String
  | .ready | .notApplicable => none
  | .waiting => some "Info"
  | .error => some "Error"

/-- Whether something is still to be done about a state. -/
def isPending : ConditionState → Bool
  | .waiting | .error => true
  | .ready | .notApplicable => false

/-- The state that a condition shows; a condition written by others may show it in other words. -/
def ofCondition (condition : Condition) : ConditionState :=
  if condition.status = "True" then
    if condition.reason = some "NotApplicable" then .notApplicable else .ready
  else if condition.reason = some "Error" then .error
  else .waiting

/-- The state that the condition of a type shows, if there is one. -/
def find? (conditions : List Condition) (type : String) : Option ConditionState :=
  (findCondition conditions type).map ofCondition

/-- The condition of a type that shows a state with a message. -/
def condition (state : ConditionState) (type message : String) : Condition where
  type := type
  status := state.status
  reason := some state.reason
  severity := state.severity
  message := some message

/-- The state that a readiness amounts to. -/
def ofReadiness {α : Type} : Readiness α → ConditionState
  | .ready _ => .ready
  | .waiting => .waiting
  | .notApplicable => .notApplicable

@[simp] theorem ofCondition_condition (state : ConditionState) (type message : String) :
    ofCondition (state.condition type message) = state := by
  cases state <;> simp [ofCondition, condition, status, reason]

end ConditionState

/-- The parts of a node set's network identity. -/
inductive Feature
  | ipReservation
  | dnsData
deriving DecidableEq, Repr

namespace Feature

/-- The type of the condition that shows a part. -/
def conditionType : Feature → String
  | .ipReservation => "IPReservationReady"
  | .dnsData => "DNSDataReady"

/-- The message of a condition that shows a part in a state. -/
def message : Feature → ConditionState → String
  | .ipReservation, .ready => "NodeSet IP reservations ready"
  | .ipReservation, .waiting => "NodeSet IP reservations in progress"
  | .ipReservation, .error => "NodeSet IP reservation error occurred"
  | .ipReservation, .notApplicable =>
      "No NetConfig exists or no node of the NodeSet requests a network, " ++
        "IP reservations are not used"
  | .dnsData, .ready => "NodeSet DNS data ready"
  | .dnsData, .waiting => "NodeSet DNS data not ready"
  | .dnsData, .error => "NodeSet DNS data error occurred"
  | .dnsData, .notApplicable =>
      "No DNS service or no IP reservations exist, DNS data is not used"

end Feature

/-- The state of a whole from the states of its parts; a part of which nothing is known waits. -/
def overallState (reservations dns : Option ConditionState) : ConditionState :=
  let states := [reservations.getD .waiting, dns.getD .waiting]
  if states.contains .error then .error
  else if states.contains .waiting then .waiting
  else .ready

/-- The message of the condition that shows a node set as a whole in a state. -/
def overallMessage : ConditionState → String
  | .error => "NodeSet network identity reconciliation failed"
  | .waiting => "NodeSet network identity is converging"
  | .ready | .notApplicable => "NodeSet network identity ready"

end NodeIdentity
