import NodeIdentity.Proofs.Pass.Outcome
import NodeIdentity.Proofs.Pass.Publication

/-!
# Reports on children

What is reported of a reservation or a record set is kept when the child is asked for something
else, and a pass that reads the child back goes by it.  So a child that was reported ready counts as
ready, whatever it was asked for at the time, while a pass that writes a child of which that was not
reported waits for it.
-/

namespace NodeIdentity

open StoreScript MemoryStore

/-! ## Reports -/

/-- The reservation of a name is stored, and is reported ready. -/
def ReadyAt (reservations : Dict IPReservation) (name : String) : Prop :=
  ∃ reservation status, reservations.get? name = some reservation ∧
    reservation.status = some status ∧ isReady status.conditions = true

theorem readyAt_iff {reservations : Dict IPReservation} {name : String} :
    ReadyAt reservations name ↔
      ∃ status, reportedAt reservations name = some status ∧
        isReady status.conditions = true := by
  unfold ReadyAt reportedAt
  cases reservations.get? name <;> simp

theorem allReady_congr {reservations others : Dict IPReservation}
    (same : ∀ name, reportedAt reservations name = reportedAt others name)
    (plan : List PlannedNode) : AllReady reservations plan ↔ AllReady others plan := by
  have hnode (node : PlannedNode) :
      ReadyAt reservations node.name ↔ ReadyAt others node.name := by
    rw [readyAt_iff, readyAt_iff, same]
  exact forall₂_congr (fun node _ => hnode node)

theorem servedAt_iff {recordSets : Dict DNSRecordSet} {name : String} :
    ServedAt recordSets name ↔
      ∃ status, reportedAt recordSets name = some status ∧ isReady status.conditions = true := by
  unfold ServedAt reportedAt
  cases recordSets.get? name <;> simp

theorem servedAt_congr {recordSets others : Dict DNSRecordSet} {name : String}
    (same : reportedAt recordSets name = reportedAt others name) :
    ServedAt recordSets name ↔ ServedAt others name := by
  rw [servedAt_iff, servedAt_iff, same]

/-! ## Passes -/

section Passes

variable {nodeSet : NodeSet} {store after : MemoryStore} {made : List Attempt}
  {ending : PassEnding}

/-- A pass changes no reservations but those of planned nodes. -/
theorem PassCourse.planned_of_changed (course : PassCourse nodeSet store ending after made)
    {name : String} (changed : after.reservations.get? name ≠ store.reservations.get? name) :
    ∃ node ∈ planReservations nodeSet.spec, node.name = name := by
  obtain ⟨written, hprefix, hafter⟩ := course.reservations_eq
  apply Classical.byContradiction
  intro hnone
  apply changed
  rw [hafter]
  apply get?_reservedAll_of_ne
  intro node hnode hname
  exact hnone ⟨node, hprefix.subset hnode, hname.symm⟩

theorem PassCourse.reservations_reported (course : PassCourse nodeSet store ending after made)
    (name : String) :
    reportedAt after.reservations name = reportedAt store.reservations name := by
  obtain ⟨written, -, hafter⟩ := course.reservations_eq
  rw [hafter]
  exact reportedAt_reservedAll _ store.reservations written name

private theorem stages_recordSets_eq {plan : List PlannedNode}
    {reservations : Readiness ReservationMap}
    {result : Except NetworkError (Readiness NetworkIdentity)} {middle : MemoryStore}
    {more : List Attempt}
    (first : ReservationCourse nodeSet store (.ok (plan, reservations)) middle made)
    (second : RecordCourse nodeSet plan reservations middle result after more) :
    after.recordSets = store.recordSets ∨
      ∃ spec, after.recordSets =
        store.recordSets.insert nodeSet.name (nodeSet.recordSetIn store spec) := by
  rcases second.untouched_or with ⟨huntouched, -⟩ | ⟨-, map, -, -, -, -, hinserted⟩
  · left
    rw [huntouched, first.recordSets_unchanged]
  · right
    refine ⟨recordSpec plan map, ?_⟩
    rw [hinserted]
    unfold NodeSet.recordSetIn recordSetAfter
    rw [first.recordSets_unchanged, first.recordSetsServed_unchanged]

/-- A pass changes no record set but that of its node set, and that one only by asking for it. -/
theorem PassCourse.recordSets_eq (course : PassCourse nodeSet store ending after made) :
    after.recordSets = store.recordSets ∨
      ∃ spec, after.recordSets =
        store.recordSets.insert nodeSet.name (nodeSet.recordSetIn store spec) := by
  cases course with
  | reservationsFailed first => exact Or.inl first.recordSets_unchanged
  | recordsFailed first second => exact stages_recordSets_eq first second
  | finished first second => exact stages_recordSets_eq first second

theorem PassCourse.eq_name_of_changed (course : PassCourse nodeSet store ending after made)
    {name : String} (changed : after.recordSets.get? name ≠ store.recordSets.get? name) :
    name = nodeSet.name := by
  apply Classical.byContradiction
  intro hname
  apply changed
  rcases course.recordSets_eq with huntouched | ⟨spec, hinserted⟩
  · rw [huntouched]
  · rw [hinserted, Dict.get?_insert, if_neg hname]

theorem PassCourse.recordSets_reported (course : PassCourse nodeSet store ending after made)
    (unserved : store.recordSetsServed = false) (name : String) :
    reportedAt after.recordSets name = reportedAt store.recordSets name := by
  rcases course.recordSets_eq with huntouched | ⟨spec, hinserted⟩
  · rw [huntouched]
  · rw [hinserted]
    exact reportedAt_insert (recordSetAfter_status unserved nodeSet.name spec _) name

/-- A pass goes by what was reported of children before it, whatever it asks of them. -/
structure GoesByReports (nodeSet : NodeSet) (store after : MemoryStore) (outcome : PassOutcome) :
    Prop where
  reservations_reported : ∀ name,
    reportedAt after.reservations name = reportedAt store.reservations name
  recordSets_reported : ∀ name, reportedAt after.recordSets name = reportedAt store.recordSets name
  /-- Reservations are ready exactly where those of all planned nodes were reported ready. -/
  reservations_ready : outcome.reservations = .ready ↔
    ¬ nodeSet.Unreserved store ∧ AllReady store.reservations (planReservations nodeSet.spec)
  /-- Behind ready reservations and a name service that serves, host records are ready exactly where
  the record set was reported ready. -/
  dns_ready : outcome.dns = .ready ↔
    outcome.reservations = .ready ∧ FirstServes store.dnsServices ∧
      ServedAt store.recordSets nodeSet.name
  reservations : ∀ name, after.reservations.get? name ≠ store.reservations.get? name →
    ¬ ReadyAt store.reservations name → outcome.reservations ≠ .ready
  dns : ∀ name, after.recordSets.get? name ≠ store.recordSets.get? name →
    ¬ ServedAt store.recordSets name → outcome.dns ≠ .ready

theorem PassCourse.goesByReports {outcome : PassOutcome}
    (course : PassCourse nodeSet store ending after made)
    (unserved : store.recordSetsServed = false) (succeeded : ending.result = .ok outcome) :
    GoesByReports nodeSet store after outcome := by
  have htold := course.outcomeTold succeeded
  have hreservations := course.reservations_reported
  have hrecordSets := course.recordSets_reported unserved
  have hready : outcome.reservations = .ready ↔
      ¬ nodeSet.Unreserved store ∧ AllReady store.reservations (planReservations nodeSet.spec) := by
    rw [htold.reservations_ready, allReady_congr hreservations]
  have hserved : outcome.dns = .ready ↔ outcome.reservations = .ready ∧
      FirstServes store.dnsServices ∧ ServedAt store.recordSets nodeSet.name := by
    rw [htold.dns_ready, servedAt_congr (hrecordSets nodeSet.name)]
  constructor
  case reservations_reported => exact hreservations
  case recordSets_reported => exact hrecordSets
  case reservations_ready => exact hready
  case dns_ready => exact hserved
  case reservations =>
    intro name changed unready succeeded
    obtain ⟨node, planned, rfl⟩ := course.planned_of_changed changed
    exact unready ((hready.1 succeeded).2 node planned)
  case dns =>
    intro name changed unready succeeded
    rw [course.eq_name_of_changed changed] at unready
    exact unready (hserved.1 succeeded).2.2

end Passes

/--
Where nobody reports of a record set while a pass runs, a pass that succeeds keeps all that was
reported of children, and finds ready exactly what was reported ready before it.  It does not find
reservations ready where it creates or changes one, in what networks it asks for or in anything
else, that was not reported ready before; and no more does it find host records ready where it
creates or changes a record set that was not.
-/
theorem readiness_as_reported (nodeSet : NodeSet) (updater : StatusUpdater) (now : String)
    (store : MemoryStore) (outcome : PassOutcome) (unserved : store.recordSetsServed = false)
    (succeeded : ((runPass nodeSet updater now).run serve store).1.result = .ok outcome) :
    GoesByReports nodeSet store ((runPass nodeSet updater now).run serve store).2 outcome := by
  obtain ⟨ending, after, made, course⟩ := PassCourse.exists_passCourse nodeSet store
  rw [(course.runs updater now).run_eq, PassEnding.passEnd_result] at succeeded
  rw [(course.runs updater now).run_eq]
  exact course.goesByReports unserved succeeded

/-- A node set whose node asks for a second network since its reservation was made. -/
def widenedSet : NodeSet where
  metadata := { name := some "edpm", ns := some "openstack", generation := some 2 }
  spec :=
    { nodes := Dict.ofList
        [("edpm-0", { networks := [{ name := "ctlplane" }, { name := "internalapi" }] })] }
  status := none

/-- A store with a reservation of one network, of which something may be reported. -/
def reservedWith (status : Option IPReservationStatus) : MemoryStore where
  reservations := (∅ : Dict IPReservation).insert "edpm-0"
    { metadata := { name := some "edpm-0", generation := some 1 }
      spec := { networks := [{ name := "ctlplane" }] }
      status := status }
  netConfigs := [{ metadata := { name := some "netconfig" }, spec := {}, status := none }]

/-- A reservation that is widened before anything is reported of it is awaited. -/
theorem widened_unreported_awaited :
    let ended := (runPass widenedSet (.ofNodeSet widenedSet) "2026-01-01T00:00:00Z").run serve
      (reservedWith none)
    let outcome : PassOutcome :=
      { reservations := .waiting, dns := .notApplicable, overall := .waiting }
    (reservedWith none).recordSetsServed = false ∧ ended.1.result = .ok outcome ∧
      ended.2.reservations.get? "edpm-0" ≠ (reservedWith none).reservations.get? "edpm-0" ∧
      GoesByReports widenedSet (reservedWith none) ended.2 outcome := by
  have hresult : ((runPass widenedSet (.ofNodeSet widenedSet) "2026-01-01T00:00:00Z").run serve
      (reservedWith none)).1.result =
        .ok { reservations := .waiting, dns := .notApplicable, overall := .waiting } := by
    rfl
  refine ⟨rfl, hresult, by decide, ?_⟩
  exact readiness_as_reported widenedSet _ _ (reservedWith none) _ rfl hresult

/-! ## Reports for older requests -/

/-- A reservation that was stored asks for other networks than before. -/
def AsksOtherNetworks (store after : MemoryStore) (name : String) : Prop :=
  ∃ old new, store.reservations.get? name = some old ∧
    after.reservations.get? name = some new ∧ new.spec.networks ≠ old.spec.networks

/-- A record set that was stored asks for other hosts than before. -/
def AsksOtherHosts (store after : MemoryStore) (name : String) : Prop :=
  ∃ old new, store.recordSets.get? name = some old ∧ after.recordSets.get? name = some new ∧
    new.spec.hosts ≠ old.spec.hosts

/-- What is reported of a reservation once it has its address. -/
def singleReport : IPReservationStatus where
  reservations :=
    [{ network := "ctlplane", address := "192.168.122.100", dnsDomain := "ctlplane.example.com" }]
  conditions := [readyCondition "True"]
  observedGeneration := some 1

/-- A node set whose node has a new host name since its records were served. -/
def renamedSet : NodeSet where
  metadata := { name := some "edpm", ns := some "openstack", generation := some 2 }
  spec :=
    { nodes := Dict.ofList
        [("edpm-0", { hostName := some "compute-0", networks := [{ name := "ctlplane" }] })] }
  status := none

/-- A store in which a record set is served for the old host name. -/
def servedStore : MemoryStore :=
  { reservedWith (some singleReport) with
    recordSets := (∅ : Dict DNSRecordSet).insert "edpm"
      { metadata := { name := some "edpm" }
        spec :=
          { hosts := [{ ip := "192.168.122.100", hostnames := ["edpm-0.ctlplane.example.com"] }]
            dnsDataLabelSelectorValue := dnsDataSelector }
        status := some servedStatus }
    dnsServices :=
      [{ metadata := { name := some "dns" }
         spec := {}
         status := some
          { dnsAddresses := some ["192.168.122.80"]
            dnsClusterAddresses := some ["10.0.0.10"]
            conditions := [readyCondition "True"] } }] }

/-- A child that was reported ready for an older request counts as ready for the new one. -/
theorem older_reports_count :
    let store := reservedWith (some singleReport)
    let widened := (runPass widenedSet (.ofNodeSet widenedSet) "2026-01-01T00:00:00Z").run serve
      store
    let renamed := (runPass renamedSet (.ofNodeSet renamedSet) "2026-01-01T00:00:00Z").run serve
      servedStore
    (store.recordSetsServed = false ∧ AsksOtherNetworks store widened.2 "edpm-0" ∧
      ∃ outcome, widened.1.result = .ok outcome ∧ outcome.reservations = .ready) ∧
    (servedStore.recordSetsServed = false ∧ AsksOtherHosts servedStore renamed.2 "edpm" ∧
      ∃ outcome, renamed.1.result = .ok outcome ∧ outcome.dns = .ready) := by
  constructor
  · exact ⟨rfl, ⟨_, _, rfl, rfl, by decide⟩, _, rfl, rfl⟩
  · exact ⟨rfl, ⟨_, _, rfl, rfl, by decide⟩, _, rfl, rfl⟩

end NodeIdentity
