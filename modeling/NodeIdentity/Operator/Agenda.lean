import NodeIdentity.Json.Basic

/-!
# Agenda

When the objects that a controller looks after are due, in tenths of a second.  An object is due at
most once at a time: what is due earlier takes the place of what is due later.
-/

namespace NodeIdentity

/-- Where an object of a known kind is. -/
structure Place where
  ns : String
  name : String
deriving DecidableEq, Repr

/-- Something that is due at a time. -/
structure Appointment where
  place : Place
  time : Nat
deriving DecidableEq, Repr

/-- What is due, each object once. -/
abbrev Agenda : Type :=
  List Appointment

namespace Agenda

/-- Make an object due at a time, unless it is due no later already. -/
def schedule (place : Place) (time : Nat) : Agenda → Agenda
  | [] => [⟨place, time⟩]
  | entry :: rest =>
      if entry.place = place then { entry with time := min entry.time time } :: rest
      else entry :: schedule place time rest

/-- Make objects due at a time. -/
def scheduleAll (agenda : Agenda) (places : List Place) (time : Nat) : Agenda :=
  places.foldl (fun agenda place => schedule place time agenda) agenda

/-- What is due first; of several the one that was made due first. -/
def next? : Agenda → Option Appointment
  | [] => none
  | entry :: rest =>
      match next? rest with
      | some other => if other.time < entry.time then some other else some entry
      | none => some entry

/-- The agenda without an object. -/
def cancel (agenda : Agenda) (place : Place) : Agenda :=
  agenda.filter (fun entry => entry.place ≠ place)

end Agenda

end NodeIdentity
