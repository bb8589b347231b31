import NodeIdentity.Proofs.Pass.Gates

/-!
# The outcome of a pass

A pass that succeeds has an outcome that is told by what is stored: by what the node set asks for,
by the network configurations and name services of the namespace, and by what is reported for the
children once they are written.  `OutcomeTold` says how, part by part.  Where several reasons hold a
part back, one that makes it not applicable counts before one that makes it wait; for host records
that is so even while reservations are still awaited.
-/

namespace NodeIdentity

open StoreScript MemoryStore

/-! ## What the outcome depends on -/

/-- No node has a network, neither its own nor one of the template. -/
def NodeSetSpec.Networkless (spec : NodeSetSpec) : Prop :=
  ∀ name node, spec.nodes.get? name = some node → effectiveNetworks node spec.nodeTemplate = []

/-- Nothing is reserved: no node takes part, or there is no network configuration. -/
def NodeSet.Unreserved (nodeSet : NodeSet) (store : MemoryStore) : Prop :=
  nodeSet.spec.Networkless ∨ store.netConfigs = []

/-- The first name service is reported ready, but at no address that nodes can reach. -/
def FirstUnreachable (services : List DNSService) : Prop :=
  ∃ service others status, services = service :: others ∧ service.status = some status ∧
    isReady status.conditions = true ∧
    (status.dnsAddresses = none ∨ status.dnsAddresses = some [])

/-- The record set of a name is stored, and is reported ready. -/
def ServedAt (recordSets : Dict DNSRecordSet) (name : String) : Prop :=
  ∃ recordSet status, recordSets.get? name = some recordSet ∧ recordSet.status = some status ∧
    isReady status.conditions = true

theorem planNode_eq_none_iff {template : NodeTemplate} {name : String} {node : NodeSpec} :
    planNode template name node = none ↔ effectiveNetworks node template = [] := by
  unfold planNode
  dsimp only
  rw [← List.isEmpty_iff]
  split
  · rename_i hempty
    exact iff_of_true rfl hempty
  · rename_i hnonempty
    exact iff_of_false (fun h => nomatch h) hnonempty

theorem planReservations_eq_nil_iff {spec : NodeSetSpec} :
    planReservations spec = [] ↔ spec.Networkless := by
  unfold planReservations NodeSetSpec.Networkless
  rw [List.filterMap_eq_nil_iff]
  constructor
  · intro h name node hnode
    exact planNode_eq_none_iff.1 (h (name, node) (Dict.get?_eq_some_iff.1 hnode))
  · rintro h ⟨name, node⟩ hentry
    exact planNode_eq_none_iff.2 (h name node (Dict.get?_eq_some_iff.2 hentry))

theorem DNSRecordSet.isServed_iff {recordSet : DNSRecordSet} :
    recordSet.isServed = true ↔
      ∃ status, recordSet.status = some status ∧ isReady status.conditions = true := by
  unfold DNSRecordSet.isServed
  cases recordSet.status with
  | none => simp
  | some status => simp

theorem servedAt_iff_of_get? {recordSets : Dict DNSRecordSet} {name : String}
    {recordSet : DNSRecordSet} (stored : recordSets.get? name = some recordSet) :
    ServedAt recordSets name ↔ recordSet.isServed = true := by
  rw [DNSRecordSet.isServed_iff]
  constructor
  · rintro ⟨other, status, hother, hstatus⟩
    cases stored.symm.trans hother
    exact ⟨status, hstatus⟩
  · rintro ⟨status, hstatus⟩
    exact ⟨recordSet, status, stored, hstatus⟩

theorem inspectDnsServices_eq_notApplicable_iff {services : List DNSService} :
    inspectDnsServices services = .notApplicable ↔ services = [] := by
  cases services with
  | nil => exact iff_of_true rfl rfl
  | cons service others =>
      refine iff_of_false ?_ (List.cons_ne_nil service others)
      unfold inspectDnsServices
      dsimp only
      split
      · exact fun h => nomatch h
      · exact fun h => nomatch h

theorem DnsAddresses.hasServerAddresses_eq_false_iff {addresses : DnsAddresses} :
    addresses.hasServerAddresses = false ↔
      addresses.serverAddresses = none ∨ addresses.serverAddresses = some [] := by
  unfold DnsAddresses.hasServerAddresses
  cases addresses.serverAddresses with
  | none => simp
  | some list => cases list <;> simp

theorem firstUnreachable_iff {services : List DNSService} :
    FirstUnreachable services ↔ ∃ addresses, inspectDnsServices services = .ready addresses ∧
      addresses.hasServerAddresses = false := by
  constructor
  · rintro ⟨service, others, status, hservices, hstatus, hready, haddresses⟩
    refine ⟨⟨status.dnsAddresses, status.dnsClusterAddresses⟩, ?_, ?_⟩
    · exact inspectDnsServices_eq_ready.2 ⟨service, others, status, hservices, hstatus, hready, rfl⟩
    · exact DnsAddresses.hasServerAddresses_eq_false_iff.2 haddresses
  · rintro ⟨addresses, hready, hunreachable⟩
    obtain ⟨service, others, status, hservices, hstatus, hisReady, rfl⟩ :=
      inspectDnsServices_eq_ready.1 hready
    exact ⟨service, others, status, hservices, hstatus, hisReady,
      DnsAddresses.hasServerAddresses_eq_false_iff.1 hunreachable⟩

/-- There is no use in host records: there is no name service, or no address of the first one. -/
theorem unserviced_iff {services : List DNSService} :
    services = [] ∨ FirstUnreachable services ↔
      inspectDnsServices services = .notApplicable ∨
        ∃ addresses, inspectDnsServices services = .ready addresses ∧
          addresses.hasServerAddresses = false := by
  rw [inspectDnsServices_eq_notApplicable_iff, firstUnreachable_iff]

theorem ServesNodes.not_unserviced {services : List DNSService} {addresses : DnsAddresses}
    (serves : ServesNodes services addresses) :
    ¬ (services = [] ∨ FirstUnreachable services) := by
  rw [unserviced_iff, serves.ready]
  rintro (h | ⟨other, hother, hunreachable⟩)
  · cases h
  · cases hother
    cases hunreachable.symm.trans serves.reachable

/-! ## States -/

namespace ConditionState

variable {α β : Type}

theorem ofReadiness_eq_ready_iff {readiness : Readiness α} :
    ofReadiness readiness = .ready ↔ ∃ value, readiness = .ready value := by
  cases readiness <;> simp [ofReadiness]

theorem ofReadiness_eq_notApplicable_iff {readiness : Readiness α} :
    ofReadiness readiness = .notApplicable ↔ readiness = .notApplicable := by
  cases readiness <;> simp [ofReadiness]

theorem overallState_ofReadiness (reservations : Readiness α) (dns : Readiness β) :
    overallState (some (ofReadiness reservations)) (some (ofReadiness dns)) =
      if ofReadiness reservations = .waiting ∨ ofReadiness dns = .waiting then .waiting
      else .ready := by
  cases reservations <;> cases dns <;> rfl

end ConditionState

/-! ## Stages -/

variable {nodeSet : NodeSet} {store after : MemoryStore} {made : List Attempt}
  {plan : List PlannedNode} {reservations : Readiness ReservationMap}
  {dns : Readiness NetworkIdentity}

namespace ReservationCourse

/-- The first stage finds reservations exactly where any are to be made. -/
theorem unreserved_or
    (course : ReservationCourse nodeSet store (.ok (plan, reservations)) after made) :
    nodeSet.Unreserved store ∧ reservations = .notApplicable ∨
      ¬ nodeSet.Unreserved store ∧ HasReservations reservations := by
  unfold NodeSet.Unreserved
  rw [← planReservations_eq_nil_iff]
  cases course with
  | unplanned empty => exact Or.inl ⟨Or.inl empty, rfl⟩
  | unconfigured planned visible absent => exact Or.inl ⟨Or.inr absent, rfl⟩
  | reserved configured written readBack =>
      have hnot : ¬ (planReservations nodeSet.spec = [] ∨ store.netConfigs = []) :=
        not_or.2 ⟨configured.planned, configured.present⟩
      exact Or.inr ⟨hnot, configured.hasReservations⟩

theorem notApplicable_iff
    (course : ReservationCourse nodeSet store (.ok (plan, reservations)) after made) :
    reservations = .notApplicable ↔ nodeSet.Unreserved store := by
  rcases course.unreserved_or with ⟨hunreserved, hstate⟩ | ⟨hreserved, hhas⟩
  · exact iff_of_true hstate hunreserved
  · refine iff_of_false ?_ hreserved
    rintro rfl
    exact hhas

theorem hasReservations_iff
    (course : ReservationCourse nodeSet store (.ok (plan, reservations)) after made) :
    HasReservations reservations ↔ reservations ≠ .notApplicable := by
  rcases course.unreserved_or with ⟨-, rfl⟩ | ⟨-, hhas⟩
  · exact iff_of_false id (fun h => h rfl)
  · refine iff_of_true hhas ?_
    rintro rfl
    exact hhas

theorem ready_iff
    (course : ReservationCourse nodeSet store (.ok (plan, reservations)) after made) :
    (∃ map, reservations = .ready map) ↔
      ¬ nodeSet.Unreserved store ∧
        AllReady after.reservations (planReservations nodeSet.spec) := by
  rcases course.unreserved_or with ⟨hunreserved, rfl⟩ | ⟨hreserved, hhas⟩
  · exact iff_of_false (fun ⟨_, h⟩ => nomatch h) (fun h => h.1 hunreserved)
  · have hread := course.reservationsRead hhas
    rw [← hread.plan_eq]
    cases reservations with
    | ready map => exact iff_of_true ⟨map, rfl⟩ ⟨hreserved, hread.allReady⟩
    | waiting =>
        exact iff_of_false (fun ⟨_, h⟩ => nomatch h) (fun h => hread.waiting_iff.1 rfl h.2)
    | notApplicable => cases hhas

end ReservationCourse

theorem Withheld.notApplicable_iff {services : List DNSService}
    (withheld : Withheld services reservations dns) :
    dns = .notApplicable ↔ services = [] ∨ FirstUnreachable services := by
  cases withheld with
  | noService absent => exact iff_of_true rfl (unserviced_iff.2 (Or.inl absent))
  | serviceAwaited awaited =>
      rw [unserviced_iff, awaited]
      simp
  | unreachable ready unreachable =>
      exact iff_of_true rfl (unserviced_iff.2 (Or.inr ⟨_, ready, unreachable⟩))
  | reservationsAwaited serves awaited =>
      exact iff_of_false (fun h => nomatch h) serves.not_unserviced

namespace RecordCourse

theorem notApplicable_iff
    (course : RecordCourse nodeSet plan reservations store (.ok dns) after made) :
    dns = .notApplicable ↔
      ¬ HasReservations reservations ∨ store.dnsServices = [] ∨
        FirstUnreachable store.dnsServices := by
  cases course with
  | unreserved unreserved => exact iff_of_true rfl (Or.inl unreserved)
  | withheld reserved visible withheld =>
      rw [withheld.notApplicable_iff]
      exact (or_iff_right (not_not_intro reserved)).symm
  | published ready reserved visible serves written readBack =>
      subst ready
      refine iff_of_false ?_ (fun h => h.elim (· reserved) serves.not_unserviced)
      unfold publishedReadiness
      split
      · exact fun h => nomatch h
      · exact fun h => nomatch h

/-- Host records are ready once all gates are passed and the record set is read back as served. -/
theorem ready_iff
    (course : RecordCourse nodeSet plan reservations store (.ok dns) after made) :
    (∃ identity, dns = .ready identity) ↔
      (HasReservations reservations ∧ ∃ map, reservations = .ready map) ∧
        FirstServes store.dnsServices ∧ ServedAt after.recordSets nodeSet.name := by
  cases course with
  | unreserved unreserved =>
      exact iff_of_false (fun ⟨_, h⟩ => nomatch h) (fun h => unreserved h.1.1)
  | withheld reserved visible withheld =>
      refine iff_of_false (fun ⟨identity, h⟩ => withheld.ne_ready identity h) ?_
      rintro ⟨⟨-, map, rfl⟩, hserves, -⟩
      exact withheld.not_firstServes_or.elim (· hserves) (fun h => nomatch h)
  | @published map addresses ready reserved visible serves written readBack =>
      subst ready
      have hserves : FirstServes store.dnsServices := firstServes_iff.2 ⟨addresses, serves⟩
      have hserved := servedAt_iff_of_get? (nodeSet.get?_publishedStore store (recordSpec plan map))
      unfold publishedReadiness
      split
      · rename_i hisServed
        exact iff_of_true ⟨_, rfl⟩ ⟨⟨reserved, map, rfl⟩, hserves, hserved.2 hisServed⟩
      · rename_i hisNotServed
        exact iff_of_false (fun ⟨_, h⟩ => nomatch h) (fun h => hisNotServed (hserved.1 h.2.2))

end RecordCourse

/-! ## Passes -/

/-- An outcome is the one that follows from what is stored before and after the pass. -/
structure OutcomeTold (nodeSet : NodeSet) (store after : MemoryStore) (outcome : PassOutcome) :
    Prop where
  reservations_notApplicable : outcome.reservations = .notApplicable ↔ nodeSet.Unreserved store
  reservations_ready : outcome.reservations = .ready ↔
    ¬ nodeSet.Unreserved store ∧ AllReady after.reservations (planReservations nodeSet.spec)
  reservations_waiting : outcome.reservations = .waiting ↔
    outcome.reservations ≠ .notApplicable ∧ outcome.reservations ≠ .ready
  dns_notApplicable : outcome.dns = .notApplicable ↔
    outcome.reservations = .notApplicable ∨ store.dnsServices = [] ∨
      FirstUnreachable store.dnsServices
  dns_ready : outcome.dns = .ready ↔
    outcome.reservations = .ready ∧ FirstServes store.dnsServices ∧
      ServedAt after.recordSets nodeSet.name
  dns_waiting : outcome.dns = .waiting ↔ outcome.dns ≠ .notApplicable ∧ outcome.dns ≠ .ready
  overall_waiting : outcome.overall = .waiting ↔
    outcome.reservations = .waiting ∨ outcome.dns = .waiting
  overall_ready : outcome.overall = .ready ↔
    ¬ (outcome.reservations = .waiting ∨ outcome.dns = .waiting)
  requeue_soon : outcome.requeueSeconds = 15 ↔ outcome.overall = .waiting
  requeue_late : outcome.requeueSeconds = 300 ↔ outcome.overall ≠ .waiting

/-- What the parts of an outcome are, from the readiness that the stages came to. -/
structure StagesTold (nodeSet : NodeSet) (store after : MemoryStore)
    (reservations : Readiness ReservationMap) (dns : Readiness NetworkIdentity) : Prop where
  reservations_notApplicable : reservations = .notApplicable ↔ nodeSet.Unreserved store
  reservations_ready : (∃ map, reservations = .ready map) ↔
    ¬ nodeSet.Unreserved store ∧ AllReady after.reservations (planReservations nodeSet.spec)
  dns_notApplicable : dns = .notApplicable ↔
    reservations = .notApplicable ∨ store.dnsServices = [] ∨ FirstUnreachable store.dnsServices
  dns_ready : (∃ identity, dns = .ready identity) ↔
    (∃ map, reservations = .ready map) ∧ FirstServes store.dnsServices ∧
      ServedAt after.recordSets nodeSet.name

theorem PassCourse.stagesTold
    (course : PassCourse nodeSet store (.finished reservations dns) after made) :
    StagesTold nodeSet store after reservations dns := by
  cases course with
  | @finished plan _ _ middle _ made more first second =>
      have hhas := first.hasReservations_iff
      have hservices := first.dnsServices_unchanged
      constructor
      case reservations_notApplicable => exact first.notApplicable_iff
      case reservations_ready =>
        rw [second.reservations_unchanged]
        exact first.ready_iff
      case dns_notApplicable =>
        rw [second.notApplicable_iff, hhas, hservices, Classical.not_not]
      case dns_ready =>
        have hpart : (HasReservations reservations ∧ ∃ map, reservations = .ready map) ↔
            ∃ map, reservations = .ready map :=
          and_iff_right_of_imp (fun ⟨_, h⟩ => hhas.2 (h ▸ fun h => nomatch h))
        rw [second.ready_iff, hpart, hservices]

open ConditionState in
theorem StagesTold.outcomeTold (told : StagesTold nodeSet store after reservations dns) :
    OutcomeTold nodeSet store after
      { reservations := ofReadiness reservations
        dns := ofReadiness dns
        overall := overallState (some (ofReadiness reservations)) (some (ofReadiness dns)) } := by
  constructor
  case reservations_notApplicable =>
    exact ofReadiness_eq_notApplicable_iff.trans told.reservations_notApplicable
  case reservations_ready => exact ofReadiness_eq_ready_iff.trans told.reservations_ready
  case reservations_waiting => cases reservations <;> simp [ofReadiness]
  case dns_notApplicable =>
    dsimp only
    rw [ofReadiness_eq_notApplicable_iff, ofReadiness_eq_notApplicable_iff]
    exact told.dns_notApplicable
  case dns_ready =>
    dsimp only
    rw [ofReadiness_eq_ready_iff, ofReadiness_eq_ready_iff]
    exact told.dns_ready
  case dns_waiting => cases dns <;> simp [ofReadiness]
  case overall_waiting =>
    dsimp only
    rw [overallState_ofReadiness]
    split <;> simp_all
  case overall_ready =>
    dsimp only
    rw [overallState_ofReadiness]
    split <;> simp_all
  case requeue_soon =>
    simp only [PassOutcome.requeueSeconds, PassOutcome.isWaiting, overallState_ofReadiness]
    split <;> decide
  case requeue_late =>
    simp only [PassOutcome.requeueSeconds, PassOutcome.isWaiting, overallState_ofReadiness]
    split <;> decide

theorem PassCourse.outcomeTold {ending : PassEnding} {outcome : PassOutcome}
    (course : PassCourse nodeSet store ending after made)
    (succeeded : ending.result = .ok outcome) : OutcomeTold nodeSet store after outcome := by
  cases ending with
  | reservationsFailed e => cases succeeded
  | recordsFailed reservations e => cases succeeded
  | finished reservations dns =>
      cases succeeded
      exact course.stagesTold.outcomeTold

/--
The outcome of a pass that succeeds is a function of what is stored, under whatever names objects
are kept: what makes a part not applicable, ready or awaited is the documented reason and no other,
the whole waits exactly where a part does, and the next pass comes soon exactly then.
-/
theorem outcome_told (nodeSet : NodeSet) (updater : StatusUpdater) (now : String)
    (store : MemoryStore) (outcome : PassOutcome)
    (succeeded : ((runPass nodeSet updater now).run serve store).1.result = .ok outcome) :
    OutcomeTold nodeSet store ((runPass nodeSet updater now).run serve store).2 outcome := by
  obtain ⟨ending, after, made, course⟩ := PassCourse.exists_passCourse nodeSet store
  rw [(course.runs updater now).run_eq, PassEnding.passEnd_result] at succeeded
  rw [(course.runs updater now).run_eq]
  exact course.outcomeTold succeeded

/-- A node set of one node on one network. -/
def loneNode : NodeSet where
  metadata := { name := some "edpm", ns := some "openstack" }
  spec := { nodes := Dict.ofList [("edpm-0", { networks := [{ name := "ctlplane" }] })] }
  status := none

/-- A store without reservations, whose name service is ready but can be reached at no address. -/
def unreachableStore : MemoryStore where
  netConfigs := [{ metadata := { name := some "netconfig" }, spec := {}, status := none }]
  dnsServices :=
    [{ metadata := { name := some "dns" }
       spec := {}
       status := some { conditions := [readyCondition "True"] } }]

/-- Host records do not apply even while reservations wait, which alone holds the whole back. -/
theorem outcome_of_loneNode :
    let ended := (runPass loneNode (.ofNodeSet loneNode) "2026-01-01T00:00:00Z").run serve
      unreachableStore
    let outcome : PassOutcome :=
      { reservations := .waiting, dns := .notApplicable, overall := .waiting }
    ended.1.result = .ok outcome ∧ OutcomeTold loneNode unreachableStore ended.2 outcome := by
  have hresult : ((runPass loneNode (.ofNodeSet loneNode) "2026-01-01T00:00:00Z").run serve
      unreachableStore).1.result =
        .ok { reservations := .waiting, dns := .notApplicable, overall := .waiting } := by
    rfl
  exact ⟨hresult, outcome_told loneNode _ _ unreachableStore _ hresult⟩

end NodeIdentity
