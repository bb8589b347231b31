import NodeIdentity.Store.Script

/-!
# Reconciliation pass

One pass brings the network identity of a node set as far as it can be brought now.  It has two
stages.  The first writes a reservation for every planned node and reads all of them back; the
second, once they and the name service are ready, writes the host records and waits until they are
served.  The pass collects the status that tells how far it came.
-/

namespace NodeIdentity

/-- How far a pass brought the parts of a node set, and the whole. -/
structure PassOutcome where
  reservations : ConditionState
  dns : ConditionState
  overall : ConditionState
deriving DecidableEq, Repr

namespace PassOutcome

/-- Whether the whole still waits for something. -/
def isWaiting (outcome : PassOutcome) : Bool :=
  outcome.overall.isPending

/-- Seconds until the next pass: soon while something is awaited. -/
def requeueSeconds (outcome : PassOutcome) : Nat :=
  if outcome.isWaiting then 15 else 300

end PassOutcome

/-- Write a reservation for every planned node, and count those that had to be written. -/
def syncReservations (ns : String) (child : ChildMeta) : List PlannedNode → StoreAction Nat
  | [] => pure 0
  | node :: rest => do
      let outcome ← StoreAction.perform
        (.upsertReservation ns node.name { networks := node.networks } child)
      let written ← syncReservations ns child rest
      pure (if outcome.wrote then written + 1 else written)

/-- Read the reservations of all planned nodes. -/
def readBackReservations (ns : String) : List PlannedNode → StoreAction (List IPReservation)
  | [] => pure []
  | node :: rest => do
      let reservation ← StoreAction.perform (.getReservation ns node.name)
      let others ← readBackReservations ns rest
      pure (reservation :: others)

/--
The first stage: reserve addresses for the planned nodes.  It does not apply where no node takes
part, and where the namespace has no network configuration.
-/
def ensureReservations (nodeSet : NodeSet) :
    StoreAction (List PlannedNode × Readiness ReservationMap) := do
  let plan := planReservations nodeSet.spec
  if plan.isEmpty then
    pure (plan, .notApplicable)
  else
    let netConfigs ← StoreAction.perform (.listNetConfigs nodeSet.place)
    if netConfigs.isEmpty then
      pure (plan, .notApplicable)
    else
      let _ ← syncReservations nodeSet.place (nodeSet.childMeta .ipReservation) plan
      let reservations ← readBackReservations nodeSet.place plan
      pure (plan, aggregateReservations reservations)

/-- The addresses of the name service of a namespace, once it is ready. -/
def checkDnsService (ns : String) : StoreAction (Readiness DnsAddresses) := do
  let services ← StoreAction.perform (.listDnsServices ns)
  pure (inspectDnsServices services)

/-- Whether a record set is served. -/
def DNSRecordSet.isServed (recordSet : DNSRecordSet) : Bool :=
  match recordSet.status with
  | some status => isReady status.conditions
  | none => false

/-- Write the host records of a node set, and wait until they are served. -/
def publishRecords (nodeSet : NodeSet) (plan : List PlannedNode) (reservations : ReservationMap)
    (addresses : DnsAddresses) : StoreAction (Readiness NetworkIdentity) := do
  let records := buildDnsRecords plan reservations
  let spec : DNSRecordSetSpec :=
    { hosts := records.hosts, dnsDataLabelSelectorValue := dnsDataSelector }
  let _ ← StoreAction.perform
    (.upsertRecordSet nodeSet.place nodeSet.name spec (nodeSet.childMeta .dnsRecords))
  let recordSet ← StoreAction.perform (.getRecordSet nodeSet.place nodeSet.name)
  if recordSet.isServed then
    pure (.ready
      { addresses := addresses, searchDomain := records.searchDomain,
        hostnames := records.hostnames, ips := records.ips })
  else pure .waiting

/--
The second stage: publish host records.  It does not apply where there are no reservations, no name
service, or no address of it, even while the other one of the two is still awaited.
-/
def ensureDnsRecords (nodeSet : NodeSet) (plan : List PlannedNode)
    (reservations : Readiness ReservationMap) : StoreAction (Readiness NetworkIdentity) := do
  let known : Option (Option ReservationMap) :=
    match reservations with
    | .ready map => if map.isEmpty then none else some (some map)
    | .waiting => some none
    | .notApplicable => none
  match known with
  | none => pure .notApplicable
  | some known =>
      match ← checkDnsService nodeSet.place with
      | .notApplicable => pure .notApplicable
      | .waiting => pure .waiting
      | .ready addresses =>
          if !addresses.hasServerAddresses then pure .notApplicable
          else
            match known with
            | none => pure .waiting
            | some map => publishRecords nodeSet plan map addresses

/-- How a pass ended: its result, the collected status, and what was counted. -/
structure PassEnd where
  result : Except NetworkError PassOutcome
  updater : StatusUpdater
  /-- The failure that was counted, if the pass failed. -/
  failures : List Measurement

/-- All that a pass counted. -/
def PassEnd.measurements (passEnd : PassEnd) : List Measurement :=
  passEnd.failures ++ passEnd.updater.measurements

/-- End a pass with the failure of a stage: the failure is shown, and no identity is published. -/
def failPass (updater : StatusUpdater) (now : String) (feature : Feature) (e : NetworkError) :
    PassEnd where
  result := .error e
  updater := ((updater.mark now feature .error (some e.message)).clearIdentity).markOverall now
  failures := [e.measurement]

/-- End a pass after both stages: show their states, and publish the identity if there is one. -/
def finishPass (updater : StatusUpdater) (now : String) (reservations : ConditionState)
    (dns : Readiness NetworkIdentity) : PassEnd :=
  let marked := updater.mark now .dnsData (.ofReadiness dns) none
  let published :=
    match dns with
    | .ready identity => marked.setIdentity identity.published
    | .waiting | .notApplicable => marked.clearIdentity
  { result := .ok
      { reservations := reservations, dns := .ofReadiness dns, overall := published.overall }
    updater := published.markOverall now
    failures := [] }

/-- The second stage of a pass, behind a first stage that succeeded. -/
def dnsStage (nodeSet : NodeSet) (updater : StatusUpdater) (now : String)
    (plan : List PlannedNode) (reservations : Readiness ReservationMap) : StoreScript PassEnd := do
  let marked := updater.mark now .ipReservation (.ofReadiness reservations) none
  match ← (ensureDnsRecords nodeSet plan reservations).run with
  | .error e => pure (failPass marked now .dnsData e)
  | .ok dns => pure (finishPass marked now (.ofReadiness reservations) dns)

/-- One pass of a node set at a time, collecting its status in an updater. -/
def runPass (nodeSet : NodeSet) (updater : StatusUpdater) (now : String) : StoreScript PassEnd := do
  let observed := updater.setObservedGeneration nodeSet.metadata.generation
  match ← (ensureReservations nodeSet).run with
  | .error e => pure (failPass observed now .ipReservation e)
  | .ok (plan, reservations) => dnsStage nodeSet observed now plan reservations

end NodeIdentity
