import NodeIdentity.Failure
import NodeIdentity.Metrics.Measurement
import NodeIdentity.Resource.Child
import NodeIdentity.Resource.NetConfig

/-!
# Scripts over a store

The calls that a reconciliation makes on a store of resources, as data, and programs that make them:
a script is either done, or makes one call and goes on with the answer.  The same script runs
against a store in memory and against an API server, and two scripts can be interleaved call by
call.
-/

namespace NodeIdentity

/-- A call on a store. -/
inductive StoreCall
  | listNetConfigs (ns : String)
  | upsertReservation (ns name : String) (spec : IPReservationSpec) (child : ChildMeta)
  | getReservation (ns name : String)
  | listDnsServices (ns : String)
  | upsertRecordSet (ns name : String) (spec : DNSRecordSetSpec) (child : ChildMeta)
  | getRecordSet (ns name : String)
deriving DecidableEq

namespace StoreCall

/-- What a call answers when it succeeds. -/
@[reducible] def Reply : StoreCall → Type
  | listNetConfigs _ => List NetConfig
  | upsertReservation .. => UpsertOutcome
  | getReservation .. => IPReservation
  | listDnsServices _ => List DNSService
  | upsertRecordSet .. => UpsertOutcome
  | getRecordSet .. => DNSRecordSet

/-- The answer to a call, or the cause of its failure. -/
abbrev Answer (call : StoreCall) : Type :=
  Except Cause call.Reply

/-- The kind of the objects of a call. -/
def kind : StoreCall → Kind
  | listNetConfigs _ => .netConfig
  | upsertReservation .. | getReservation .. => .ipReservation
  | listDnsServices _ => .dnsService
  | upsertRecordSet .. | getRecordSet .. => .dnsRecordSet

/-- The namespace of a call. -/
def ns : StoreCall → String
  | listNetConfigs ns | upsertReservation ns .. | getReservation ns _ | listDnsServices ns
  | upsertRecordSet ns .. | getRecordSet ns _ => ns

/-- The name of the object of a call, where it has one. -/
def name? : StoreCall → Option String
  | listNetConfigs _ | listDnsServices _ => none
  | upsertReservation _ name .. | getReservation _ name | upsertRecordSet _ name ..
  | getRecordSet _ name => some name

/-- What a call does, in a word. -/
def verb : StoreCall → String
  | listNetConfigs _ | listDnsServices _ => "list"
  | upsertReservation .. | upsertRecordSet .. => "upsert"
  | getReservation .. | getRecordSet .. => "get"

/-- The failure of a call. -/
def failed (call : StoreCall) (cause : Cause) : NetworkError :=
  match call with
  | listNetConfigs ns | listDnsServices ns => .list call.kind.name ns cause
  | getReservation ns name | getRecordSet ns name => .get call.kind.name ns name cause
  | upsertReservation ns name .. | upsertRecordSet ns name .. =>
      .persist call.kind.name ns name cause

end StoreCall

/-- A program that makes calls on a store. -/
inductive StoreScript (α : Type)
  | done (value : α)
  | call (request : StoreCall) (next : request.Answer → StoreScript α)

namespace StoreScript

variable {α β : Type}

/-- Go on with the value at which a script is done. -/
def bind : StoreScript α → (α → StoreScript β) → StoreScript β
  | done value, f => f value
  | call request next, f => call request (fun answer => (next answer).bind f)

instance : Monad StoreScript where
  pure := done
  bind := bind

/-- Run a script on a state, with a function that answers calls. -/
def run {σ : Type} (serve : (request : StoreCall) → σ → request.Answer × σ) :
    StoreScript α → σ → α × σ
  | done value, state => (value, state)
  | call request next, state =>
      let (answer, state) := serve request state
      run serve (next answer) state

/-- The calls that a script makes on a state, in order. -/
def trace {σ : Type} (serve : (request : StoreCall) → σ → request.Answer × σ) :
    StoreScript α → σ → List StoreCall
  | done _, _ => []
  | call request next, state =>
      let (answer, state) := serve request state
      request :: trace serve (next answer) state

end StoreScript

/-- A script that may give up with the failure of a call. -/
abbrev StoreAction : Type → Type :=
  ExceptT NetworkError StoreScript

/-- Make a call, and give up if it fails. -/
def StoreAction.perform (request : StoreCall) : StoreAction request.Reply :=
  ExceptT.mk (.call request (fun answer =>
    match answer with
    | .ok reply => .done (.ok reply)
    | .error cause => .done (.error (request.failed cause))))

end NodeIdentity
