import NodeIdentity.Format.Record

/-!
# Conditions

Observations of the state of a resource, listed by their type in its status.
-/

namespace NodeIdentity

/-- An observation of the state of a resource. -/
structure Condition where
  type : String
  status : String
  reason : Option String := none
  severity : Option String := none
  message : Option String := none
  lastTransitionTime : Option String := none
deriving DecidableEq, Repr, Inhabited

namespace Condition

/-- The fields of a condition. -/
def fields : Fields Condition Condition :=
  (Fields.start Condition.mk)
    |>.and (.mandatory "type"
      "Type of condition (e.g., Ready, IPReservationReady, DNSDataReady)." .text Condition.type)
    |>.and (.mandatory "status"
      "Status of the condition: True, False, or Unknown." .text Condition.status)
    |>.and (.optional "reason"
      "Brief CamelCase reason for the condition's last transition." .text Condition.reason false)
    |>.and (.optional "severity"
      "Severity of a False condition: Info, Warning, or Error." .text Condition.severity false)
    |>.and (.optional "message"
      "Human-readable message indicating details about the transition." .text
      Condition.message false)
    |>.and (.optional "lastTransitionTime"
      "Last time the condition transitioned from one status to another (RFC3339 format)." .text
      Condition.lastTransitionTime false)

/-- How conditions are written and read. -/
def format : Format Condition :=
  Format.described (.record "Condition" fields)
    "Condition represents an observation of a resource's current state.

Conditions are used in status subresources to communicate the state of
a resource to users and controllers. Conditions are keyed by `type`; at most
one condition of each type exists in a list."

/-- The type of the condition that tells whether a resource is ready as a whole. -/
def readyType : String := "Ready"

end Condition

/-- The first condition of a type. -/
def findCondition (conditions : List Condition) (type : String) : Option Condition :=
  conditions.find? (fun condition => condition.type = type)

/-- Whether a resource with these conditions is ready: its first such condition is true. -/
def isReady (conditions : List Condition) : Bool :=
  match findCondition conditions Condition.readyType with
  | some condition => condition.status = "True"
  | none => false

/--
Set the condition of a type.  The first condition of the type is replaced in place, and a missing
one is appended.  The time changes only with the status, or where there was none.
-/
def setCondition (now : String) (new : Condition) : List Condition → List Condition
  | [] => [{ new with lastTransitionTime := some now }]
  | old :: rest =>
      if old.type = new.type then
        let time :=
          if old.status = new.status ∧ old.lastTransitionTime.isSome then old.lastTransitionTime
          else some now
        { new with lastTransitionTime := time } :: rest
      else old :: setCondition now new rest

/-- Whether two conditions say the same, whenever they began to. -/
def Condition.agrees (a b : Condition) : Bool :=
  a.status = b.status && a.reason = b.reason && a.severity = b.severity && a.message = b.message

/--
Whether a list of conditions says the same as the list it is to replace: as many conditions, and
each agrees with the first old one of its type.
-/
def conditionsEqual (current new : List Condition) : Bool :=
  current.length = new.length &&
    new.all (fun condition =>
      match findCondition current condition.type with
      | some old => old.agrees condition
      | none => false)

end NodeIdentity
