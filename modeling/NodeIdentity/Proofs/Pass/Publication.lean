import NodeIdentity.Proofs.Pass.Gates

/-!
# Publication

Host records are written whole or not at all.  A pass writes no record set but that of its node
set, and that one only behind all gates, from the addresses of every planned node; in all other
passes the record sets stay as they are.
-/

namespace NodeIdentity

open StoreScript MemoryStore

/-- A write of a record set succeeded. -/
def Publishes (made : List Attempt) : Prop :=
  ∃ ns name spec child, Attempt.success (.upsertRecordSet ns name spec child) ∈ made

theorem Publishes.append_right {made more : List Attempt} (h : Publishes more) :
    Publishes (made ++ more) := by
  obtain ⟨ns, name, spec, child, hmem⟩ := h
  exact ⟨ns, name, spec, child, List.mem_append_right made hmem⟩

theorem not_publishes_append {made more : List Attempt} (first : ¬ Publishes made)
    (second : ¬ Publishes more) : ¬ Publishes (made ++ more) := by
  rintro ⟨ns, name, spec, child, h⟩
  rcases List.mem_append.1 h with h | h
  · exact first ⟨ns, name, spec, child, h⟩
  · exact second ⟨ns, name, spec, child, h⟩

/-- The record set that is asked for when the addresses of all planned nodes are known. -/
def NodeSet.wholeSpec (nodeSet : NodeSet) (store : MemoryStore) : DNSRecordSetSpec :=
  recordSpec (planReservations nodeSet.spec)
    (addressMap store.reservations (planReservations nodeSet.spec))

/-- All gates are open: those that are passed before reservations are written, and those behind. -/
structure MayPublish (nodeSet : NodeSet) (store after : MemoryStore) : Prop where
  planned : planReservations nodeSet.spec ≠ []
  configured : store.netConfigs ≠ []
  reserved : AllReady after.reservations (planReservations nodeSet.spec)
  serves : FirstServes store.dnsServices
  permitted : store.faults (nodeSet.publishCall (nodeSet.wholeSpec after)) = none

variable {nodeSet : NodeSet} {store after : MemoryStore} {made : List Attempt}

/-! ## Stages -/

theorem ReservationCourse.not_publishes
    {result : Except NetworkError (List PlannedNode × Readiness ReservationMap)}
    (course : ReservationCourse nodeSet store result after made) : ¬ Publishes made := by
  rintro ⟨ns, name, spec, child, h⟩
  rcases course.kind_of_mem h with hkind | hkind
  · cases hkind
  · cases hkind

/-- The record stage leaves all record sets as they are, or it passed its gates. -/
theorem RecordCourse.untouched_or {plan : List PlannedNode}
    {reservations : Readiness ReservationMap}
    {result : Except NetworkError (Readiness NetworkIdentity)}
    (course : RecordCourse nodeSet plan reservations store result after made) :
    (after.recordSets = store.recordSets ∧ ¬ Publishes made) ∨
      Publishes made ∧ ∃ map, reservations = .ready map ∧ map.isEmpty = false ∧
        FirstServes store.dnsServices ∧
        store.faults (nodeSet.publishCall (recordSpec plan map)) = none ∧
        after.recordSets =
          store.recordSets.insert nodeSet.name
            (nodeSet.recordSetIn store (recordSpec plan map)) := by
  cases course with
  | unreserved unreserved =>
      left
      exact ⟨rfl, by simp [Publishes]⟩
  | listFailed reserved fault =>
      left
      exact ⟨rfl, by simp [Publishes, Attempt.success, Attempt.failed]⟩
  | withheld reserved visible withheld =>
      left
      exact ⟨rfl, by simp [Publishes, Attempt.success]⟩
  | writeFailed ready reserved visible serves fault =>
      left
      exact ⟨rfl, by simp [Publishes, Attempt.success, Attempt.failed]⟩
  | @readFailed map addresses cause ready reserved visible serves written fault =>
      right
      refine ⟨⟨_, _, _, _, List.mem_cons_of_mem _ List.mem_cons_self⟩, ?_⟩
      exact ⟨map, ready, reserved, firstServes_iff.2 ⟨addresses, serves⟩, written,
        nodeSet.publishedStore_recordSets store _⟩
  | @published map addresses ready reserved visible serves written readBack =>
      right
      refine ⟨⟨_, _, _, _, List.mem_cons_of_mem _ List.mem_cons_self⟩, ?_⟩
      exact ⟨map, ready, reserved, firstServes_iff.2 ⟨addresses, serves⟩, written,
        nodeSet.publishedStore_recordSets store _⟩

/-! ## Passes -/

/-- What two stages in a row do with record sets. -/
private theorem stages_untouched_or {plan : List PlannedNode}
    {reservations : Readiness ReservationMap}
    {result : Except NetworkError (Readiness NetworkIdentity)} {middle : MemoryStore}
    {more : List Attempt} (kept : KeptByName store.reservations)
    (first : ReservationCourse nodeSet store (.ok (plan, reservations)) middle made)
    (second : RecordCourse nodeSet plan reservations middle result after more) :
    (after.recordSets = store.recordSets ∧ ¬ Publishes (made ++ more)) ∨
      Publishes (made ++ more) ∧ MayPublish nodeSet store after ∧
        ∃ recordSet, recordSet.spec = nodeSet.wholeSpec after ∧
          after.recordSets = store.recordSets.insert nodeSet.name recordSet := by
  obtain ⟨written, hmiddle⟩ := first.frame
  obtain ⟨written', hafter⟩ := second.frame
  have hrecordSets : middle.recordSets = store.recordSets := by rw [hmiddle]
  have hreservations : after.reservations = middle.reservations := by rw [hafter]
  rcases second.untouched_or with
    ⟨huntouched, hnot⟩ | ⟨hpublishes, map, rfl, hreserved, hserves, hpermitted, hinserted⟩
  · left
    exact ⟨huntouched.trans hrecordSets, not_publishes_append first.not_publishes hnot⟩
  · right
    have hread := first.reservationsRead hreserved
    have hmap := hread.map_eq kept
    have hready := hread.allReady
    have hplan := hread.plan_eq
    subst hplan
    have hspec : nodeSet.wholeSpec after = recordSpec (planReservations nodeSet.spec) map := by
      unfold NodeSet.wholeSpec
      rw [hreservations, ← hmap]
    refine ⟨hpublishes.append_right, ?_, ?_⟩
    · constructor
      case planned => exact hread.planned
      case configured => exact hread.configured.present
      case reserved => rwa [hreservations]
      case serves => rwa [hmiddle] at hserves
      case permitted =>
        rw [hmiddle] at hpermitted
        rwa [hspec]
    · refine ⟨nodeSet.recordSetIn middle (recordSpec (planReservations nodeSet.spec) map), ?_, ?_⟩
      · rw [hspec]
        exact middle.recordSetAfter_spec nodeSet.name _ _
      · rw [hinserted, hrecordSets]

/-- A pass leaves all record sets as they are, or it writes the one of its node set, and whole. -/
theorem PassCourse.untouched_or {ending : PassEnding} (kept : KeptByName store.reservations)
    (course : PassCourse nodeSet store ending after made) :
    (after.recordSets = store.recordSets ∧ ¬ Publishes made) ∨
      Publishes made ∧ MayPublish nodeSet store after ∧
        ∃ recordSet, recordSet.spec = nodeSet.wholeSpec after ∧
          after.recordSets = store.recordSets.insert nodeSet.name recordSet := by
  cases course with
  | reservationsFailed first =>
      obtain ⟨written, hafter⟩ := first.frame
      left
      refine ⟨?_, first.not_publishes⟩
      rw [hafter]
  | recordsFailed first second => exact stages_untouched_or kept first second
  | finished first second => exact stages_untouched_or kept first second

/--
Host records are never built from partial data.  A pass changes no record set but that of its node
set.  It changes any only behind all gates; where a write of a record set succeeds, the hosts that
are stored then are those of all planned nodes, each with the addresses that its own reservation
reports; and where none succeeds, all record sets stay as they are.
-/
theorem records_whole_or_untouched (nodeSet : NodeSet) (updater : StatusUpdater) (now : String)
    (store : MemoryStore) (kept : KeptByName store.reservations) :
    let after := ((runPass nodeSet updater now).run serve store).2
    let made := (runPass nodeSet updater now).attempts serve store
    let plan := planReservations nodeSet.spec
    let addresses := addressMap after.reservations plan
    (∀ name, name ≠ nodeSet.name → after.recordSets.get? name = store.recordSets.get? name) ∧
      (after.recordSets ≠ store.recordSets → MayPublish nodeSet store after) ∧
      (Publishes made →
        MayPublish nodeSet store after ∧
        (∀ node ∈ plan, ∃ reservation status,
          after.reservations.get? node.name = some reservation ∧
          reservation.status = some status ∧
          addresses.get? node.name = some status.reservations) ∧
        ∃ recordSet, after.recordSets.get? nodeSet.name = some recordSet ∧
          recordSet.spec =
            { hosts := (buildDnsRecords plan addresses).hosts
              dnsDataLabelSelectorValue := dnsDataSelector }) ∧
      (¬ Publishes made → after.recordSets = store.recordSets) := by
  obtain ⟨ending, after, made, course, hruns⟩ := runPass_course nodeSet store
  have hrun := (hruns updater now).run_eq
  have hattempts := (hruns updater now).attempts_eq
  dsimp only
  rw [hrun, hattempts]
  dsimp only
  rcases course.untouched_or kept with ⟨huntouched, hnot⟩ |
    ⟨hpublishes, hmay, recordSet, hspec, hinserted⟩
  · refine ⟨?_, ?_, ?_, fun _ => huntouched⟩
    · intro name _
      rw [huntouched]
    · exact fun h => absurd huntouched h
    · exact fun h => absurd h hnot
  · refine ⟨?_, fun _ => hmay, fun _ => ⟨hmay, ?_, recordSet, ?_, hspec⟩, ?_⟩
    · intro name hname
      rw [hinserted, Dict.get?_insert, if_neg hname]
    · intro node planned
      obtain ⟨reservation, status, hstored, hstatus, -⟩ := hmay.reserved node planned
      refine ⟨reservation, status, hstored, hstatus, ?_⟩
      rw [get?_addressMap after.reservations planned]
      simp [addressesAt, hstored, hstatus]
    · rw [hinserted, Dict.get?_insert_self]
    · exact fun h => absurd hpublishes h

/-- A node set of one node. -/
def edpm : NodeSet where
  metadata := { name := some "edpm", ns := some "openstack" }
  spec := { nodes := Dict.ofList [("edpm-0", { networks := [{ name := "ctlplane" }] })] }
  status := none

/-- A store in which all is ready for the host records of `edpm`, before its first pass. -/
def edpmStore : MemoryStore where
  reservations :=
    (∅ : Dict IPReservation).insert "edpm-0"
      { metadata := { name := some "edpm-0" }
        spec := {}
        status := some
          { reservations := [{ network := "ctlplane", address := "192.168.122.100" }]
            conditions := [readyCondition "True"] } }
  netConfigs := [{ metadata := { name := some "netconfig" }, spec := {}, status := none }]
  dnsServices :=
    [{ metadata := { name := some "dns" }
       spec := {}
       status := some
        { dnsAddresses := some ["192.168.122.80"], conditions := [readyCondition "True"] } }]

theorem keptByName_edpmStore : KeptByName edpmStore.reservations := by
  refine KeptByName.insert ?_ rfl
  intro name object h
  cases h

/-- The first pass of `edpm` writes its record set, so all gates were open. -/
theorem records_of_edpm :
    let after := ((runPass edpm (.ofNodeSet edpm) "2026-01-01T00:00:00Z").run serve edpmStore).2
    KeptByName edpmStore.reservations ∧ after.recordSets ≠ edpmStore.recordSets ∧
      MayPublish edpm edpmStore after := by
  have hchanged : ((runPass edpm (.ofNodeSet edpm) "2026-01-01T00:00:00Z").run serve
      edpmStore).2.recordSets ≠ edpmStore.recordSets := by
    decide
  have hwhole := records_whole_or_untouched edpm (.ofNodeSet edpm) "2026-01-01T00:00:00Z"
    edpmStore keptByName_edpmStore
  exact ⟨keptByName_edpmStore, hchanged, hwhole.2.1 hchanged⟩

end NodeIdentity
