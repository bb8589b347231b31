import NodeIdentity.Api.Client
import NodeIdentity.Pass

/-!
# The store behind an API server

How the calls of a reconciliation become requests to an API server, and how a whole reconciliation
runs: the pass, the write of the status that it collected, and what is counted of both.
-/

namespace NodeIdentity

namespace ApiStore

/-- Upsert a child, and count the upsert if it succeeded. -/
def upsertChild {σ τ : Type} (type : ResourceType σ τ) (ns name : String) (blank spec : σ)
    (child : ChildMeta) : ApiScript (Except Cause UpsertOutcome × List Measurement) :=
  (Client.createOrReplace type ns name blank (child.applyToResource spec)).run.bind (fun answer =>
    .done (answer,
      match answer with
      | .ok outcome => [.childWrite type.kind.name outcome]
      | .error _ => []))

/-- Run an action of which nothing is counted. -/
def uncounted {α : Type} (action : ApiAction α) : ApiScript (Except Cause α × List Measurement) :=
  action.run.bind (fun answer => .done (answer, []))

/-- The requests that fulfil a call. -/
def perform : (call : StoreCall) → ApiScript (call.Answer × List Measurement)
  | .listNetConfigs ns => uncounted (Client.listAll NetConfig.type ns)
  | .listDnsServices ns => uncounted (Client.listAll DNSService.type ns)
  | .getReservation ns name => uncounted (Client.get IPReservation.type ns name)
  | .getRecordSet ns name => uncounted (Client.get DNSRecordSet.type ns name)
  | .upsertReservation ns name spec child =>
      upsertChild IPReservation.type ns name {} spec child
  | .upsertRecordSet ns name spec child =>
      upsertChild DNSRecordSet.type ns name {} spec child

end ApiStore

/-- The requests that fulfil the calls of a script, and what is counted on the way. -/
def StoreScript.overApi {α : Type} : StoreScript α → ApiScript (α × List Measurement)
  | .done value => .done (value, [])
  | .call request next =>
      (ApiStore.perform request).bind (fun answered =>
        (next answered.1).overApi.bind (fun ended =>
          .done (ended.1, answered.2 ++ ended.2)))

namespace StatusUpdater

/-- Write the collected status, unless it says nothing new. -/
def apply (updater : StatusUpdater) : ApiScript (Except NetworkError Unit) :=
  if updater.hasChanges then
    (Client.applyStatus NodeSet.type updater.ns updater.name
        (NodeSetStatus.format.encode updater.status)).run.bind (fun answer =>
      .done
        (match answer with
        | .ok _ => .ok ()
        | .error cause =>
            .error (.statusUpdate NodeSet.type.kind.name updater.ns updater.name cause)))
  else .done (.ok ())

end StatusUpdater

/-- How a reconciliation ended, and what was counted. -/
structure Reconciled where
  result : Except NetworkError PassOutcome
  measurements : List Measurement

/-- The result of a reconciliation: the first failure counts, that of the pass before the status's. -/
def reconcileResult (pass : Except NetworkError PassOutcome) (status : Except NetworkError Unit) :
    Except NetworkError PassOutcome :=
  match pass, status with
  | .ok _, .error e => .error e
  | pass, _ => pass

/-- What is counted of the write of a status: a failure. -/
def statusMeasurements : Except NetworkError Unit → List Measurement
  | .ok () => []
  | .error e => [.failure NodeSet.type.kind.name e.category]

/-- Run a pass of a node set at a time, and write the status that it collected, however it ended. -/
def reconcileNodeSet (nodeSet : NodeSet) (now : String) : ApiScript Reconciled :=
  (runPass nodeSet (.ofNodeSet nodeSet) now).overApi.bind (fun passed =>
    passed.1.updater.apply.bind (fun status =>
      .done
        { result := reconcileResult passed.1.result status
          measurements :=
            passed.2 ++ passed.1.measurements ++ statusMeasurements status }))

/-- When a reconciliation is due again, and the failure it ended with, if it failed. -/
structure Requeue where
  seconds : Nat
  failure : Option NetworkError

/-- What the result of a reconciliation counts as. -/
def resultOf : Except NetworkError PassOutcome → ReconcileResult
  | .ok outcome => if outcome.isWaiting then .requeue else .success
  | .error _ => .error

/-- When a reconciliation with a result is due again. -/
def requeueOf : Except NetworkError PassOutcome → Requeue
  | .ok outcome => { seconds := outcome.requeueSeconds, failure := none }
  | .error e => { seconds := e.requeueSeconds, failure := some e }

/-- Reconcile a node set, count the reconciliation, and say when it is due again. -/
def reconcileAndRequeue (nodeSet : NodeSet) (now : String) (nanos : Nat) :
    ApiScript (Requeue × List Measurement) :=
  (reconcileNodeSet nodeSet now).bind (fun reconciled =>
    .done (requeueOf reconciled.result,
      reconciled.measurements ++
        [.reconciliation NodeSet.type.kind.name (resultOf reconciled.result) nanos]))

end NodeIdentity
