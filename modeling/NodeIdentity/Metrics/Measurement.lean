import NodeIdentity.Failure
import NodeIdentity.Status.Updater

/-!
# Measurements

What the operator counts, as the list of the events that were counted, in order.
-/

namespace NodeIdentity

/-- What an upsert did: nothing was there, something else was there, or all was as wanted. -/
inductive UpsertOutcome
  | created
  | updated
  | unchanged
deriving DecidableEq, Repr

namespace UpsertOutcome

/-- The name of an outcome. -/
def name : UpsertOutcome → String
  | .created => "created"
  | .updated => "updated"
  | .unchanged => "unchanged"

/-- Whether something was written. -/
def wrote : UpsertOutcome → Bool
  | .created | .updated => true
  | .unchanged => false

end UpsertOutcome

/-- How a reconciliation ended: done, failed, or to be continued. -/
inductive ReconcileResult
  | success
  | error
  | requeue
deriving DecidableEq, Repr

/-- The name of a result. -/
def ReconcileResult.name : ReconcileResult → String
  | .success => "success"
  | .error => "error"
  | .requeue => "requeue"

/-- An event that is counted. -/
inductive Measurement
  /-- A reconciliation of an object of a kind ended after some nanoseconds. -/
  | reconciliation (kind : String) (result : ReconcileResult) (nanos : Nat)
  /-- An upsert of a child of a kind succeeded. -/
  | childWrite (kind : String) (outcome : UpsertOutcome)
  /-- A condition of a type entered a state. -/
  | transition (type state : String)
  /-- A call on an object of a kind failed. -/
  | failure (kind category : String)
deriving DecidableEq, Repr

/-- The transitions of an updater, as they are counted. -/
def StatusUpdater.measurements (updater : StatusUpdater) : List Measurement :=
  updater.transitions.map (fun entry => .transition entry.type entry.state.name)

/-- A failed call, as it is counted. -/
def NetworkError.measurement (e : NetworkError) : Measurement :=
  .failure e.kind e.category

end NodeIdentity
