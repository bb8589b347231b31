import NodeIdentity.Pass
import NodeIdentity.Proofs.Store.Memory

/-!
# The record stage on a store in memory

The stage passes several gates before it writes the record set of the node set, and it writes no
other.  `RecordCourse` lists the ways in which the stage can go, each with its result, the store
behind it and the attempts; every run goes one of them.
-/

namespace NodeIdentity

open StoreScript MemoryStore

/-! ## Gates -/

/-- There are reservations to wait for, or addresses that they gave. -/
def HasReservations : Readiness ReservationMap → Prop
  | .ready map => map.isEmpty = false
  | .waiting => True
  | .notApplicable => False

/-- The first name service is ready, and nodes can reach it. -/
structure ServesNodes (services : List DNSService) (addresses : DnsAddresses) : Prop where
  ready : inspectDnsServices services = .ready addresses
  reachable : addresses.hasServerAddresses = true

/-- The gates that can hold records back, and what the stage amounts to then. -/
inductive Withheld (services : List DNSService) (reservations : Readiness ReservationMap) :
    Readiness NetworkIdentity → Prop
  | noService (absent : inspectDnsServices services = .notApplicable) :
      Withheld services reservations .notApplicable
  | serviceAwaited (awaited : inspectDnsServices services = .waiting) :
      Withheld services reservations .waiting
  | unreachable {addresses : DnsAddresses} (ready : inspectDnsServices services = .ready addresses)
      (unreachable : addresses.hasServerAddresses = false) :
      Withheld services reservations .notApplicable
  | reservationsAwaited {addresses : DnsAddresses} (serves : ServesNodes services addresses)
      (awaited : reservations = .waiting) :
      Withheld services reservations .waiting

/-! ## The stage -/

/-- The record set that is asked for. -/
def recordSpec (plan : List PlannedNode) (map : ReservationMap) : DNSRecordSetSpec where
  hosts := (buildDnsRecords plan map).hosts
  dnsDataLabelSelectorValue := dnsDataSelector

/-- What the stage comes to once the record set is written. -/
def publishedReadiness (plan : List PlannedNode) (map : ReservationMap) (addresses : DnsAddresses)
    (recordSet : DNSRecordSet) : Readiness NetworkIdentity :=
  if recordSet.isServed then
    .ready
      { addresses := addresses
        searchDomain := (buildDnsRecords plan map).searchDomain
        hostnames := (buildDnsRecords plan map).hostnames
        ips := (buildDnsRecords plan map).ips }
  else .waiting

namespace NodeSet

/-- The call that looks for name services. -/
abbrev serviceCall (nodeSet : NodeSet) : StoreCall :=
  .listDnsServices nodeSet.place

/-- The call that writes the record set. -/
abbrev publishCall (nodeSet : NodeSet) (spec : DNSRecordSetSpec) : StoreCall :=
  .upsertRecordSet nodeSet.place nodeSet.name spec (nodeSet.childMeta .dnsRecords)

/-- The call that reads the record set back. -/
abbrev servedCall (nodeSet : NodeSet) : StoreCall :=
  .getRecordSet nodeSet.place nodeSet.name

/-- The record set that is stored once it is written. -/
def recordSetIn (nodeSet : NodeSet) (store : MemoryStore) (spec : DNSRecordSetSpec) :
    DNSRecordSet :=
  store.recordSetAfter nodeSet.name spec (nodeSet.childMeta .dnsRecords)

/-- The store after looking for name services and writing the record set. -/
def publishedStore (nodeSet : NodeSet) (store : MemoryStore) (spec : DNSRecordSetSpec) :
    MemoryStore :=
  ((store.logCalls [nodeSet.serviceCall, nodeSet.publishCall spec]).upsertRecordSet nodeSet.name
    spec (nodeSet.childMeta .dnsRecords)).2

/-- Writing the record set changes nothing but it and logs. -/
theorem publishedStore_eq (nodeSet : NodeSet) (store : MemoryStore) (spec : DNSRecordSetSpec) :
    ∃ written, nodeSet.publishedStore store spec =
      { store with
        recordSets := store.recordSets.insert nodeSet.name (nodeSet.recordSetIn store spec)
        writes := store.writes ++ written
        calls := store.calls ++ [nodeSet.serviceCall, nodeSet.publishCall spec] } :=
  ⟨_, upsertRecordSet_eq (store.logCalls [nodeSet.serviceCall, nodeSet.publishCall spec])
    nodeSet.name spec (nodeSet.childMeta .dnsRecords)⟩

@[simp] theorem publishedStore_faults (nodeSet : NodeSet) (store : MemoryStore)
    (spec : DNSRecordSetSpec) : (nodeSet.publishedStore store spec).faults = store.faults := by
  obtain ⟨written, h⟩ := nodeSet.publishedStore_eq store spec
  rw [h]

@[simp] theorem publishedStore_recordSets (nodeSet : NodeSet) (store : MemoryStore)
    (spec : DNSRecordSetSpec) :
    (nodeSet.publishedStore store spec).recordSets =
      store.recordSets.insert nodeSet.name (nodeSet.recordSetIn store spec) := by
  obtain ⟨written, h⟩ := nodeSet.publishedStore_eq store spec
  rw [h]

theorem get?_publishedStore (nodeSet : NodeSet) (store : MemoryStore) (spec : DNSRecordSetSpec) :
    (nodeSet.publishedStore store spec).recordSets.get? nodeSet.name =
      some (nodeSet.recordSetIn store spec) := by
  rw [publishedStore_recordSets, Dict.get?_insert_self]

/-- Writing the record set that was written before leaves traces in the log of calls only. -/
theorem publishedStore_settled {nodeSet : NodeSet} {store later : MemoryStore}
    {spec : DNSRecordSetSpec} (served : later.recordSetsServed = store.recordSetsServed)
    (stored : later.recordSets.get? nodeSet.name = some (nodeSet.recordSetIn store spec)) :
    nodeSet.publishedStore later spec =
      later.logCalls [nodeSet.serviceCall, nodeSet.publishCall spec] := by
  have hserved : later.recordSetsServed = true →
      (nodeSet.recordSetIn store spec).status = some servedStatus := by
    intro h
    exact recordSetAfter_served (served ▸ h) nodeSet.name spec _
  have hsettled := upsertRecordSet_settled
    (show (later.logCalls [nodeSet.serviceCall, nodeSet.publishCall spec]).recordSets.get?
      nodeSet.name = some (nodeSet.recordSetIn store spec) from stored)
    (store.recordSetAfter_settled nodeSet.name spec _) hserved
  unfold publishedStore
  rw [hsettled]

theorem recordSetIn_settled {nodeSet : NodeSet} {store later : MemoryStore}
    {spec : DNSRecordSetSpec} (served : later.recordSetsServed = store.recordSetsServed)
    (stored : later.recordSets.get? nodeSet.name = some (nodeSet.recordSetIn store spec)) :
    nodeSet.recordSetIn later spec = nodeSet.recordSetIn store spec := by
  have hinsert := later.recordSets.get?_insert_self nodeSet.name (nodeSet.recordSetIn later spec)
  rw [← publishedStore_recordSets, publishedStore_settled served stored] at hinsert
  exact Option.some.inj (hinsert.symm.trans stored)

theorem runs_publishCall (nodeSet : NodeSet) {store : MemoryStore} {spec : DNSRecordSetSpec}
    (written : store.faults (nodeSet.publishCall spec) = none) :
    ∃ outcome, Runs serve (StoreAction.perform (nodeSet.publishCall spec)).run
      (store.logCalls [nodeSet.serviceCall]) (.ok outcome) (nodeSet.publishedStore store spec)
      [Attempt.success (nodeSet.publishCall spec)] := by
  have h := runs_upsertRecordSet
    (show (store.logCalls [nodeSet.serviceCall]).faults (nodeSet.publishCall spec) = none from
      written)
  dsimp only at h
  rw [logCalls_logCalls] at h
  exact ⟨_, h⟩

end NodeSet

/-- The ways in which the record stage can go. -/
inductive RecordCourse (nodeSet : NodeSet) (plan : List PlannedNode)
    (reservations : Readiness ReservationMap) (store : MemoryStore) :
    Except NetworkError (Readiness NetworkIdentity) → MemoryStore → List Attempt → Prop
  | unreserved (unreserved : ¬ HasReservations reservations) :
      RecordCourse nodeSet plan reservations store (.ok .notApplicable) store []
  | listFailed {cause : Cause} (reserved : HasReservations reservations)
      (fault : store.faults nodeSet.serviceCall = some cause) :
      RecordCourse nodeSet plan reservations store (.error (nodeSet.serviceCall.failed cause))
        (store.logCalls [nodeSet.serviceCall]) [Attempt.failed nodeSet.serviceCall cause]
  | withheld {readiness : Readiness NetworkIdentity} (reserved : HasReservations reservations)
      (visible : store.faults nodeSet.serviceCall = none)
      (withheld : Withheld store.dnsServices reservations readiness) :
      RecordCourse nodeSet plan reservations store (.ok readiness)
        (store.logCalls [nodeSet.serviceCall]) [Attempt.success nodeSet.serviceCall]
  | writeFailed {map : ReservationMap} {addresses : DnsAddresses} {cause : Cause}
      (ready : reservations = .ready map) (reserved : map.isEmpty = false)
      (visible : store.faults nodeSet.serviceCall = none)
      (serves : ServesNodes store.dnsServices addresses)
      (fault : store.faults (nodeSet.publishCall (recordSpec plan map)) = some cause) :
      RecordCourse nodeSet plan reservations store
        (.error ((nodeSet.publishCall (recordSpec plan map)).failed cause))
        (store.logCalls [nodeSet.serviceCall, nodeSet.publishCall (recordSpec plan map)])
        [Attempt.success nodeSet.serviceCall,
          Attempt.failed (nodeSet.publishCall (recordSpec plan map)) cause]
  | readFailed {map : ReservationMap} {addresses : DnsAddresses} {cause : Cause}
      (ready : reservations = .ready map) (reserved : map.isEmpty = false)
      (visible : store.faults nodeSet.serviceCall = none)
      (serves : ServesNodes store.dnsServices addresses)
      (written : store.faults (nodeSet.publishCall (recordSpec plan map)) = none)
      (fault : store.faults nodeSet.servedCall = some cause) :
      RecordCourse nodeSet plan reservations store (.error (nodeSet.servedCall.failed cause))
        ((nodeSet.publishedStore store (recordSpec plan map)).logCalls [nodeSet.servedCall])
        [Attempt.success nodeSet.serviceCall,
          Attempt.success (nodeSet.publishCall (recordSpec plan map)),
          Attempt.failed nodeSet.servedCall cause]
  | published {map : ReservationMap} {addresses : DnsAddresses}
      (ready : reservations = .ready map) (reserved : map.isEmpty = false)
      (visible : store.faults nodeSet.serviceCall = none)
      (serves : ServesNodes store.dnsServices addresses)
      (written : store.faults (nodeSet.publishCall (recordSpec plan map)) = none)
      (readBack : store.faults nodeSet.servedCall = none) :
      RecordCourse nodeSet plan reservations store
        (.ok (publishedReadiness plan map addresses
          (nodeSet.recordSetIn store (recordSpec plan map))))
        ((nodeSet.publishedStore store (recordSpec plan map)).logCalls [nodeSet.servedCall])
        [Attempt.success nodeSet.serviceCall,
          Attempt.success (nodeSet.publishCall (recordSpec plan map)),
          Attempt.success nodeSet.servedCall]

/-- What the stage does once it knows how far the name service is. -/
def recordsBehind (nodeSet : NodeSet) (plan : List PlannedNode)
    (reservations : Readiness ReservationMap) :
    Readiness DnsAddresses → StoreAction (Readiness NetworkIdentity)
  | .notApplicable => pure .notApplicable
  | .waiting => pure .waiting
  | .ready addresses =>
      if !addresses.hasServerAddresses then pure .notApplicable
      else
        match reservations with
        | .ready map => publishRecords nodeSet plan map addresses
        | .waiting | .notApplicable => pure .waiting

theorem ensureDnsRecords_reserved (nodeSet : NodeSet) (plan : List PlannedNode)
    {reservations : Readiness ReservationMap} (reserved : HasReservations reservations) :
    ensureDnsRecords nodeSet plan reservations =
      (checkDnsService nodeSet.place >>= recordsBehind nodeSet plan reservations) := by
  cases reservations with
  | notApplicable => cases reserved
  | waiting =>
      unfold ensureDnsRecords
      dsimp only
      congr 1
  | ready map =>
      unfold ensureDnsRecords
      dsimp only
      rw [if_neg (Bool.eq_false_iff.1 reserved)]
      dsimp only
      congr 1

theorem ensureDnsRecords_unreserved (nodeSet : NodeSet) (plan : List PlannedNode)
    {reservations : Readiness ReservationMap} (unreserved : ¬ HasReservations reservations) :
    ensureDnsRecords nodeSet plan reservations = pure .notApplicable := by
  cases reservations with
  | notApplicable => rfl
  | waiting => exact absurd trivial unreserved
  | ready map =>
      have hempty : map.isEmpty = true := by simpa [HasReservations] using unreserved
      unfold ensureDnsRecords
      dsimp only
      rw [if_pos hempty]

theorem runs_checkDnsService {ns : String} {store : MemoryStore}
    (visible : store.faults (.listDnsServices ns) = none) :
    Runs serve (checkDnsService ns).run store (.ok (inspectDnsServices store.dnsServices))
      (store.logCalls [.listDnsServices ns]) [Attempt.success (.listDnsServices ns)] :=
  Runs.andDone (runs_listDnsServices visible) rfl

theorem recordsBehind_withheld (nodeSet : NodeSet) (plan : List PlannedNode)
    {services : List DNSService} {reservations : Readiness ReservationMap}
    {readiness : Readiness NetworkIdentity} (withheld : Withheld services reservations readiness) :
    recordsBehind nodeSet plan reservations (inspectDnsServices services) = pure readiness := by
  cases withheld with
  | noService absent =>
      rw [absent]
      rfl
  | serviceAwaited awaited =>
      rw [awaited]
      rfl
  | unreachable ready unreachable =>
      rw [ready]
      simp [recordsBehind, unreachable]
  | reservationsAwaited serves awaited =>
      rw [serves.ready, awaited]
      simp [recordsBehind, serves.reachable]

theorem recordsBehind_serves (nodeSet : NodeSet) (plan : List PlannedNode)
    {services : List DNSService} {addresses : DnsAddresses} (map : ReservationMap)
    (serves : ServesNodes services addresses) :
    recordsBehind nodeSet plan (.ready map) (inspectDnsServices services) =
      publishRecords nodeSet plan map addresses := by
  rw [serves.ready]
  simp [recordsBehind, serves.reachable]

/-- Over any store, records that are held back are no longer asked for. -/
theorem runs_ensureDnsRecords_withheld {σ : Type}
    {answer : (request : StoreCall) → σ → request.Answer × σ} {state after : σ}
    {nodeSet : NodeSet} {services : List DNSService} {reservations : Readiness ReservationMap}
    {readiness : Readiness NetworkIdentity} {made : List Attempt} (plan : List PlannedNode)
    (reserved : HasReservations reservations)
    (checked : Runs answer (checkDnsService nodeSet.place).run state
      (.ok (inspectDnsServices services)) after made)
    (withheld : Withheld services reservations readiness) :
    Runs answer (ensureDnsRecords nodeSet plan reservations).run state (.ok readiness) after
      made := by
  rw [ensureDnsRecords_reserved nodeSet plan reserved]
  exact Runs.andDone checked (recordsBehind_withheld nodeSet plan withheld)

namespace RecordCourse

variable {nodeSet : NodeSet} {plan : List PlannedNode} {reservations : Readiness ReservationMap}
  {store after : MemoryStore} {made : List Attempt}
  {result : Except NetworkError (Readiness NetworkIdentity)}

/-- The stage goes on with what it does behind the name service, once it finds any. -/
theorem runs_reserved (reserved : HasReservations reservations)
    (visible : store.faults nodeSet.serviceCall = none)
    (h : Runs serve
      (recordsBehind nodeSet plan reservations (inspectDnsServices store.dnsServices)).run
      (store.logCalls [nodeSet.serviceCall]) result after made) :
    Runs serve (ensureDnsRecords nodeSet plan reservations).run store result after
      (Attempt.success nodeSet.serviceCall :: made) := by
  rw [ensureDnsRecords_reserved nodeSet plan reserved]
  exact Runs.andThen (runs_checkDnsService visible) h

theorem runs (course : RecordCourse nodeSet plan reservations store result after made) :
    Runs serve (ensureDnsRecords nodeSet plan reservations).run store result after made := by
  cases course with
  | unreserved unreserved =>
      rw [ensureDnsRecords_unreserved nodeSet plan unreserved]
      exact Runs.succeed _ store
  | listFailed reserved fault =>
      rw [ensureDnsRecords_reserved nodeSet plan reserved]
      exact Runs.giveUp (Runs.giveUp (runs_fault fault))
  | withheld reserved visible withheld =>
      apply runs_reserved reserved visible
      rw [recordsBehind_withheld nodeSet plan withheld]
      exact Runs.succeed _ _
  | @writeFailed map addresses cause ready reserved visible serves fault =>
      subst ready
      refine runs_reserved (show HasReservations (.ready map) from reserved) visible ?_
      rw [recordsBehind_serves nodeSet plan map serves]
      have hwrite := runs_fault (show (store.logCalls [nodeSet.serviceCall]).faults
        (nodeSet.publishCall (recordSpec plan map)) = some cause from fault)
      rw [logCalls_logCalls] at hwrite
      exact Runs.giveUp hwrite
  | @readFailed map addresses cause ready reserved visible serves written fault =>
      subst ready
      refine runs_reserved (show HasReservations (.ready map) from reserved) visible ?_
      rw [recordsBehind_serves nodeSet plan map serves]
      obtain ⟨outcome, hwrite⟩ := nodeSet.runs_publishCall written
      have hread := runs_fault (show (nodeSet.publishedStore store (recordSpec plan map)).faults
        nodeSet.servedCall = some cause by rwa [NodeSet.publishedStore_faults])
      exact Runs.andThen hwrite (Runs.giveUp hread)
  | @published map addresses ready reserved visible serves written readBack =>
      subst ready
      refine runs_reserved (show HasReservations (.ready map) from reserved) visible ?_
      rw [recordsBehind_serves nodeSet plan map serves]
      obtain ⟨outcome, hwrite⟩ := nodeSet.runs_publishCall written
      have hread := runs_getRecordSet
        (show (nodeSet.publishedStore store (recordSpec plan map)).faults nodeSet.servedCall = none
          by rwa [NodeSet.publishedStore_faults])
        (nodeSet.get?_publishedStore store (recordSpec plan map))
      refine Runs.andThen hwrite (Runs.andDone hread ?_)
      unfold publishedReadiness
      split
      · rfl
      · rfl

/-- The stage always goes one of the ways. -/
theorem exists_recordCourse (nodeSet : NodeSet) (plan : List PlannedNode)
    (reservations : Readiness ReservationMap) (store : MemoryStore) :
    ∃ result after made, RecordCourse nodeSet plan reservations store result after made := by
  by_cases reserved : HasReservations reservations
  · cases hlist : store.faults nodeSet.serviceCall with
    | some cause => exact ⟨_, _, _, listFailed reserved hlist⟩
    | none =>
        cases hservice : inspectDnsServices store.dnsServices with
        | notApplicable => exact ⟨_, _, _, withheld reserved hlist (.noService hservice)⟩
        | waiting => exact ⟨_, _, _, withheld reserved hlist (.serviceAwaited hservice)⟩
        | ready addresses =>
            cases hreachable : addresses.hasServerAddresses with
            | false => exact ⟨_, _, _, withheld reserved hlist (.unreachable hservice hreachable)⟩
            | true =>
                have serves : ServesNodes store.dnsServices addresses := ⟨hservice, hreachable⟩
                cases reservations with
                | notApplicable => cases reserved
                | waiting =>
                    exact ⟨_, _, _, withheld reserved hlist (.reservationsAwaited serves rfl)⟩
                | ready map =>
                    cases hwrite : store.faults (nodeSet.publishCall (recordSpec plan map)) with
                    | some cause =>
                        exact ⟨_, _, _, writeFailed rfl reserved hlist serves hwrite⟩
                    | none =>
                        cases hread : store.faults nodeSet.servedCall with
                        | some cause =>
                            exact ⟨_, _, _, readFailed rfl reserved hlist serves hwrite hread⟩
                        | none =>
                            exact ⟨_, _, _, published rfl reserved hlist serves hwrite hread⟩
  · exact ⟨_, _, _, unreserved reserved⟩

/-- The stage changes nothing but record sets and logs. -/
theorem frame (course : RecordCourse nodeSet plan reservations store result after made) :
    ∃ written, after =
      { store with
        recordSets := after.recordSets
        writes := store.writes ++ written
        calls := store.calls ++ made.map (·.request) } := by
  cases course with
  | unreserved unreserved => exact ⟨[], by simp⟩
  | listFailed reserved fault => exact ⟨[], by simp [logCalls]⟩
  | withheld reserved visible withheld => exact ⟨[], by simp [logCalls]⟩
  | writeFailed ready reserved visible serves fault => exact ⟨[], by simp [logCalls]⟩
  | @readFailed map addresses cause ready reserved visible serves written fault =>
      obtain ⟨entries, h⟩ := nodeSet.publishedStore_eq store (recordSpec plan map)
      refine ⟨entries, ?_⟩
      rw [h]
      simp [logCalls]
  | @published map addresses ready reserved visible serves written readBack =>
      obtain ⟨entries, h⟩ := nodeSet.publishedStore_eq store (recordSpec plan map)
      refine ⟨entries, ?_⟩
      rw [h]
      simp [logCalls]

theorem reservations_unchanged
    (course : RecordCourse nodeSet plan reservations store result after made) :
    after.reservations = store.reservations := by
  obtain ⟨written, h⟩ := course.frame
  rw [h]

theorem dnsServices_unchanged
    (course : RecordCourse nodeSet plan reservations store result after made) :
    after.dnsServices = store.dnsServices := by
  obtain ⟨written, h⟩ := course.frame
  rw [h]

/-- A stage that finds what another one left stored goes the same way, and only logs its calls. -/
theorem again (course : RecordCourse nodeSet plan reservations store result after made)
    {later : MemoryStore} (faults : later.faults = store.faults)
    (dnsServices : later.dnsServices = store.dnsServices)
    (served : later.recordSetsServed = store.recordSetsServed)
    (recordSets : later.recordSets = after.recordSets) :
    RecordCourse nodeSet plan reservations later result (later.logCalls (made.map (·.request)))
      made := by
  cases course with
  | unreserved unreserved =>
      rw [List.map_nil, logCalls_nil]
      exact .unreserved unreserved
  | listFailed reserved fault => exact .listFailed reserved (faults ▸ fault)
  | withheld reserved visible withheld =>
      exact .withheld reserved (faults ▸ visible) (dnsServices ▸ withheld)
  | writeFailed ready reserved visible serves fault =>
      exact .writeFailed ready reserved (faults ▸ visible) (dnsServices ▸ serves) (faults ▸ fault)
  | @readFailed map addresses cause ready reserved visible serves written fault =>
      have hstored : later.recordSets.get? nodeSet.name =
          some (nodeSet.recordSetIn store (recordSpec plan map)) := by
        rw [recordSets]
        exact nodeSet.get?_publishedStore store (recordSpec plan map)
      have hagain := RecordCourse.readFailed ready reserved (faults ▸ visible)
        (dnsServices ▸ serves) (faults ▸ written) (faults ▸ fault)
      rw [NodeSet.publishedStore_settled served hstored, logCalls_logCalls] at hagain
      exact hagain
  | @published map addresses ready reserved visible serves written readBack =>
      have hstored : later.recordSets.get? nodeSet.name =
          some (nodeSet.recordSetIn store (recordSpec plan map)) := by
        rw [recordSets]
        exact nodeSet.get?_publishedStore store (recordSpec plan map)
      have hagain := RecordCourse.published ready reserved (faults ▸ visible)
        (dnsServices ▸ serves) (faults ▸ written) (faults ▸ readBack)
      rw [NodeSet.publishedStore_settled served hstored, NodeSet.recordSetIn_settled served hstored,
        logCalls_logCalls] at hagain
      exact hagain

end RecordCourse

end NodeIdentity
