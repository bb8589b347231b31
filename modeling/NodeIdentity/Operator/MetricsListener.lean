import NodeIdentity.Metrics.Exposition

/-!
# Metrics listener

The listener from which measurements are collected: the addresses that it cannot be bound to, and
how it answers requests.
-/

namespace NodeIdentity.MetricsListener

/-- The path under which the measurements are found. -/
def metricsPath : String := "/metrics"

/-- The address that is bound where no other is asked for. -/
def defaultAddress : String := "0.0.0.0:8080"

/-- Why an address cannot be bound. -/
inductive AddressFault
  /-- It has no colon, behind which a number would stand. -/
  | incomplete
  /-- What stands behind its last colon is no number of an endpoint. -/
  | badNumber
deriving DecidableEq, Repr

/-- The fault of an address in words. -/
def AddressFault.message : AddressFault → String
  | .incomplete => "invalid socket address"
  | .badNumber => "invalid port value"

/-- What stands behind the last colon of an address, if it has one. -/
def numberText? (address : List Char) : Option (List Char) :=
  if address.contains ':' then some (address.reverse.takeWhile (· ≠ ':')).reverse else none

/-- Whether a text states the number of an endpoint: digits, maybe behind a plus, below 65536. -/
def isEndpointNumber (text : List Char) : Bool :=
  let digits :=
    match text with
    | '+' :: rest => rest
    | _ => text
  !digits.isEmpty && digits.all Char.isDigit &&
    digits.foldl (fun n c => 10 * n + (c.toNat - 48)) 0 < 65536

/-- The fault of an address, if it has one that shows in its form. -/
def addressFault? (address : String) : Option AddressFault :=
  match numberText? address.toList with
  | none => some .incomplete
  | some number => if isEndpointNumber number then none else some .badNumber

/-- That an address cannot be bound. -/
def bindFailure (address : String) : String :=
  "failed to bind metrics server to " ++ address

/-- An answer of the listener. -/
structure Answer where
  status : Nat
  contentType : Option String := none
  /-- The methods that are allowed, where another one was used. -/
  allow : Option String := none
  lines : List String := []
deriving DecidableEq, Repr

/-- The path of a target, without the query behind it. -/
def pathOf (target : String) : String :=
  String.ofList (target.toList.takeWhile (· ≠ '?'))

/-- The type of the text of measurements. -/
def textType : String := "text/plain; charset=utf-8"

/-- Answer a request. -/
def answer (measurements : List Measurement) (method target : String) : Answer :=
  if pathOf target ≠ metricsPath then { status := 404 }
  else if method = "GET" then
    { status := 200, contentType := some textType, lines := Metrics.lines measurements }
  else if method = "HEAD" then { status := 200, contentType := some textType }
  else { status := 405, allow := some "GET,HEAD" }

end NodeIdentity.MetricsListener
