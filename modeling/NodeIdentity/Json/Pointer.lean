import NodeIdentity.Json.Basic

/-!
# Pointers into documents

A pointer names a part of a document: a slash in front of every step, where a step is the name of a
member or the number of an item.  In a step `~1` stands for a slash and `~0` for a tilde.
-/

namespace NodeIdentity.Json

namespace Pointer

/-- Put slashes for `~1`. -/
def restoreSlashes : List Char → List Char
  | '~' :: '1' :: rest => '/' :: restoreSlashes rest
  | c :: rest => c :: restoreSlashes rest
  | [] => []

/-- Put tildes for `~0`. -/
def restoreTildes : List Char → List Char
  | '~' :: '0' :: rest => '~' :: restoreTildes rest
  | c :: rest => c :: restoreTildes rest
  | [] => []

/-- The name or number that a step is written for. -/
def unescape (step : List Char) : String :=
  String.ofList (restoreTildes (restoreSlashes step))

/-- The steps between slashes, from a first one on. -/
def splitSteps (step : List Char) : List Char → List (List Char)
  | [] => [step.reverse]
  | '/' :: rest => step.reverse :: splitSteps [] rest
  | c :: rest => splitSteps (c :: step) rest

/-- The steps of a pointer, if it is one. -/
def steps? (pointer : String) : Option (List String) :=
  match pointer.toList with
  | [] => some []
  | '/' :: rest => some ((splitSteps [] rest).map unescape)
  | _ => none

/-- The number of an item: digits, without a zero in front of others. -/
def index? (step : String) : Option Nat :=
  match step.toList with
  | [] => none
  | ['0'] => some 0
  | '0' :: _ => none
  | digits =>
      if digits.all Char.isDigit then
        some (digits.foldl (fun n c => 10 * n + (c.toNat - 48)) 0)
      else none

/-- The part of a document to which one step leads. -/
def child? (step : String) : Json → Option Json
  | .obj members => members.lookup step
  | .arr items => (index? step).bind (fun index => items[index]?)
  | _ => none

/-- The part of a document to which steps lead. -/
def follow (document : Json) : List String → Option Json
  | [] => some document
  | step :: rest => (child? step document).bind (fun part => follow part rest)

end Pointer

/-- The part of a document that a pointer names. -/
def at? (document : Json) (pointer : String) : Option Json :=
  (Pointer.steps? pointer).bind (Pointer.follow document)

end NodeIdentity.Json
