import NodeIdentity.Proofs.Pass.Course
import NodeIdentity.Store.Faults

/-!
# Synchronization of reservations

Writing the reservations of a plan stops at the first write that is made to fail: what was planned
before it is stored as planned, and all else is as it was.  If none fails, every planned node has its
reservation, the count is that of the reservations that changed, and reading back finds one for each
node in the order of the plan.  No call of a pass fails that was not made to.
-/

namespace NodeIdentity

open StoreScript MemoryStore

/-! ## What is written -/

/-- A stored reservation is that of a planned node: all but its networks and its mark is kept. -/
structure IsPlanned (child : ChildMeta) (earlier : Dict IPReservation) (node : PlannedNode)
    (reservation : IPReservation) : Prop where
  networks : reservation.spec.networks = node.networks
  marked : reservation.metadata = child.applyTo
    (((earlier.get? node.name).map (·.metadata)).getD { name := some node.name })
  status : reservation.status = reportedAt earlier node.name

theorem reservationOf_isPlanned (child : ChildMeta) (earlier : Dict IPReservation)
    (node : PlannedNode) :
    IsPlanned child earlier node (reservationOf child earlier node) where
  networks := rfl
  marked := by
    unfold reservationOf wanted
    cases earlier.get? node.name <;> rfl
  status :=
    wanted_status ({} : IPReservationSpec) earlier node.name { networks := node.networks } child

def NeedsWriting (child : ChildMeta) (reservations : Dict IPReservation) (node : PlannedNode) :
    Bool :=
  reservations.get? node.name ≠ some (reservationOf child reservations node)

/-- Where names are planned once, no write decides whether another one is needed. -/
theorem rewrittenCount_eq {child : ChildMeta} {plan : List PlannedNode}
    (distinct : plan.Pairwise (fun a b => a.name ≠ b.name)) (reservations : Dict IPReservation) :
    rewrittenCount child reservations plan = plan.countP (NeedsWriting child reservations) := by
  induction plan generalizing reservations with
  | nil => rfl
  | cons node rest ih =>
      obtain ⟨hnode, hrest⟩ := List.pairwise_cons.1 distinct
      have hothers : rest.countP (NeedsWriting child
          (reservations.insert node.name (reservationOf child reservations node))) =
            rest.countP (NeedsWriting child reservations) := by
        refine List.countP_congr (fun other hother => ?_)
        have hne : other.name ≠ node.name := (hnode other hother).symm
        have hsame : NeedsWriting child
            (reservations.insert node.name (reservationOf child reservations node)) other =
              NeedsWriting child reservations other := by
          unfold NeedsWriting reservationOf
          rw [Dict.get?_insert, if_neg hne]
        rw [hsame]
      rw [rewrittenCount, ih hrest, hothers, List.countP_cons]
      by_cases hstored : reservations.get? node.name = some (reservationOf child reservations node)
      · simp [NeedsWriting, hstored]
      · simp [NeedsWriting, hstored]

/-! ## The loops -/

section Loops

variable {ns : String} {child : ChildMeta} {store : MemoryStore}

/-- A run of the loop that stopped at a node whose write was made to fail. -/
structure StoppedAt (ns : String) (child : ChildMeta) (before : List PlannedNode)
    (node : PlannedNode) (rest : List PlannedNode) (cause : Cause) (store : MemoryStore)
    (result : Except NetworkError Nat) (after : MemoryStore) : Prop where
  failure : result = .error (.persist "IPReservation" ns node.name cause)
  written : ∀ other ∈ before, ∃ reservation,
    after.reservations.get? other.name = some reservation ∧
      IsPlanned child store.reservations other reservation
  unwritten : ∀ other ∈ node :: rest,
    after.reservations.get? other.name = store.reservations.get? other.name
  unplanned : ∀ name, (∀ other ∈ before ++ node :: rest, other.name ≠ name) →
    after.reservations.get? name = store.reservations.get? name
  /-- Nothing else changes, and no call comes behind the one that failed. -/
  frame : ∃ entries, after =
    { store with
      reservations := after.reservations
      writes := store.writes ++ entries
      calls := store.calls ++ (before ++ [node]).map (reserveCall ns child) }

theorem stoppedAt_of_fault {before rest : List PlannedNode} {node : PlannedNode} {cause : Cause}
    (distinct : (before ++ node :: rest).Pairwise (fun a b => a.name ≠ b.name))
    (sound : ∀ other ∈ before, store.faults (reserveCall ns child other) = none)
    (fault : store.faults (reserveCall ns child node) = some cause) :
    let ran := (syncReservations ns child (before ++ node :: rest)).run.run serve store
    StoppedAt ns child before node rest cause store ran.1 ran.2 := by
  intro ran
  obtain ⟨hbefore, -, hapart⟩ := List.pairwise_append.1 distinct
  have hran : ran = _ := (runs_syncReservations_stopped rest store sound fault).run_eq
  obtain ⟨entries, hafter⟩ := store.reserveAll_eq ns child before
  have hkept : ran.2.reservations = reservedAll child store.reservations before := by
    rw [hran]
    show (store.reserveAll ns child before).reservations = _
    rw [hafter]
  constructor
  case failure => exact congrArg Prod.fst hran
  case written =>
    intro other hother
    rw [hkept]
    exact ⟨_, get?_reservedAll hbefore hother store.reservations,
      reservationOf_isPlanned child store.reservations other⟩
  case unwritten =>
    intro other hother
    rw [hkept]
    exact get?_reservedAll_of_ne
      (fun earlier hearlier => (hapart earlier hearlier other hother).symm) store.reservations
  case unplanned =>
    intro name unplanned
    rw [hkept]
    exact get?_reservedAll_of_ne
      (fun earlier hearlier => (unplanned earlier (List.mem_append_left _ hearlier)).symm)
      store.reservations
  case frame =>
    refine ⟨entries, ?_⟩
    rw [hkept, hran, hafter]
    simp [logCalls]

/-- A run of the loop in which no write was made to fail, and what reading back finds then. -/
structure Completed (ns : String) (child : ChildMeta) (plan : List PlannedNode)
    (store : MemoryStore) (result : Except NetworkError Nat) (after : MemoryStore) : Prop where
  count : result = .ok (plan.countP (fun node =>
    after.reservations.get? node.name ≠ store.reservations.get? node.name))
  written : ∀ node ∈ plan, ∃ reservation,
    after.reservations.get? node.name = some reservation ∧
      IsPlanned child store.reservations node reservation
  unplanned : ∀ name, (∀ node ∈ plan, node.name ≠ name) →
    after.reservations.get? name = store.reservations.get? name
  frame : ∃ entries, after =
    { store with
      reservations := after.reservations
      writes := store.writes ++ entries
      calls := store.calls ++ plan.map (reserveCall ns child) }
  /-- One reservation is read for each node, in the order of the plan. -/
  readBack : (∀ node ∈ plan, store.faults (readCall ns node) = none) →
    ∃ read, ((readBackReservations ns plan).run.run serve after).1 = .ok read ∧
      read.map some = plan.map (fun node => after.reservations.get? node.name)
  readFailure : ∀ e, ((readBackReservations ns plan).run.run serve after).1 = .error e →
    ∃ node ∈ plan, ∃ cause, store.faults (readCall ns node) = some cause ∧
      e = .get "IPReservation" ns node.name cause

theorem map_some_storedReservations {reservations : Dict IPReservation} {plan : List PlannedNode}
    (stored : ∀ node ∈ plan, ∃ current, reservations.get? node.name = some current) :
    (storedReservations reservations plan).map some =
      plan.map (fun node => reservations.get? node.name) := by
  unfold storedReservations
  induction plan with
  | nil => rfl
  | cons node rest ih =>
      obtain ⟨hnode, hrest⟩ := List.forall_mem_cons.1 stored
      obtain ⟨current, hcurrent⟩ := hnode
      simp [hcurrent, ih hrest]

theorem completed_of_sound {plan : List PlannedNode}
    (distinct : plan.Pairwise (fun a b => a.name ≠ b.name))
    (sound : ∀ node ∈ plan, store.faults (reserveCall ns child node) = none) :
    let ran := (syncReservations ns child plan).run.run serve store
    Completed ns child plan store ran.1 ran.2 := by
  intro ran
  have hran : ran = _ := (runs_syncReservations store sound).run_eq
  obtain ⟨entries, hafter⟩ := store.reserveAll_eq ns child plan
  have hleft : ran.2 = store.reserveAll ns child plan := congrArg Prod.snd hran
  have hkept : ran.2.reservations = reservedAll child store.reservations plan := by
    rw [hleft, hafter]
  have hfaults : ran.2.faults = store.faults := by rw [hleft, hafter]
  have hwritten : ∀ node ∈ plan, ran.2.reservations.get? node.name =
      some (reservationOf child store.reservations node) := by
    intro node planned
    rw [hkept]
    exact get?_reservedAll distinct planned store.reservations
  have hstored : ∀ node ∈ plan, ∃ current, ran.2.reservations.get? node.name = some current :=
    fun node planned => ⟨_, hwritten node planned⟩
  constructor
  case count =>
    have hcount : plan.countP (NeedsWriting child store.reservations) =
        plan.countP (fun node =>
          ran.2.reservations.get? node.name ≠ store.reservations.get? node.name) := by
      refine List.countP_congr (fun node planned => ?_)
      rw [hwritten node planned]
      unfold NeedsWriting
      rw [decide_eq_true_iff, decide_eq_true_iff]
      exact ne_comm
    have hvalue : ran.1 = .ok (rewrittenCount child store.reservations plan) :=
      congrArg Prod.fst hran
    rw [hvalue, ← hcount, rewrittenCount_eq distinct]
  case written =>
    intro node planned
    exact ⟨_, hwritten node planned, reservationOf_isPlanned child store.reservations node⟩
  case unplanned =>
    intro name unplanned
    rw [hkept]
    exact get?_reservedAll_of_ne (fun node planned => (unplanned node planned).symm)
      store.reservations
  case frame =>
    refine ⟨entries, ?_⟩
    rw [hkept, hleft, hafter]
  case readBack =>
    intro readable
    refine ⟨storedReservations ran.2.reservations plan, ?_, map_some_storedReservations hstored⟩
    rw [(runs_readBackReservations ran.2 (hfaults ▸ readable) hstored).run_eq]
  case readFailure =>
    intro e failed
    rcases first_fault (fun node => store.faults (readCall ns node)) plan with
      readable | ⟨before, node, rest, cause, split, readable, fault⟩
    · rw [(runs_readBackReservations ran.2 (hfaults ▸ readable) hstored).run_eq] at failed
      cases failed
    -- Every node has its reservation, so the first failure is the one that was arranged.
    · have hbefore : ∀ other ∈ before,
          ∃ current, ran.2.reservations.get? other.name = some current := by
        intro other hother
        apply hstored
        rw [split]
        exact List.mem_append_left _ hother
      have hstopped := runs_readBackReservations_stopped rest ran.2 (hfaults ▸ readable) hbefore
        (hfaults ▸ fault)
      rw [← split] at hstopped
      rw [hstopped.run_eq] at failed
      cases failed
      refine ⟨node, ?_, cause, fault, rfl⟩
      rw [split]
      exact List.mem_append_right _ List.mem_cons_self

end Loops

/-! ## Passes -/

/-- Calls fail where they are made to, with the cause that was arranged, and nowhere else. -/
def FailAsArranged (faults : StoreCall → Option Cause) (made : List Attempt) : Prop :=
  ∀ attempt ∈ made, attempt.failure = faults attempt.request

namespace FailAsArranged

variable {faults : StoreCall → Option Cause} {made more : List Attempt}

theorem nil : FailAsArranged faults [] := fun _ member => nomatch member

theorem failed {request : StoreCall} {cause : Cause} (fault : faults request = some cause) :
    FailAsArranged faults [Attempt.failed request cause] :=
  List.forall_mem_singleton.2 fault.symm

theorem succeeded {request : StoreCall} (sound : faults request = none)
    (rest : FailAsArranged faults more) :
    FailAsArranged faults (Attempt.success request :: more) :=
  List.forall_mem_cons.2 ⟨sound.symm, rest⟩

theorem successes {requests : List StoreCall} (sound : ∀ request ∈ requests, faults request = none) :
    FailAsArranged faults (requests.map Attempt.success) :=
  List.forall_mem_map.2 (fun request member => (sound request member).symm)

theorem append (first : FailAsArranged faults made) (second : FailAsArranged faults more) :
    FailAsArranged faults (made ++ more) :=
  List.forall_mem_append.2 ⟨first, second⟩

end FailAsArranged

variable {nodeSet : NodeSet} {store after : MemoryStore} {made : List Attempt}

theorem ReservationCourse.failAsArranged
    {result : Except NetworkError (List PlannedNode × Readiness ReservationMap)}
    (course : ReservationCourse nodeSet store result after made) :
    FailAsArranged store.faults made := by
  cases course with
  | unplanned empty => exact .nil
  | listFailed planned fault => exact .failed fault
  | unconfigured planned visible absent => exact .succeeded visible .nil
  | writeFailed configured split written fault =>
      have hwritten := FailAsArranged.successes (List.forall_mem_map.2 written)
      exact .succeeded configured.visible (hwritten.append (.failed fault))
  | readFailed configured written split readBack fault =>
      have hserved := FailAsArranged.successes (List.forall_mem_append.2
        ⟨List.forall_mem_map.2 written, List.forall_mem_map.2 readBack⟩)
      exact .succeeded configured.visible (hserved.append (.failed fault))
  | reserved configured written readBack =>
      have hserved := FailAsArranged.successes (List.forall_mem_append.2
        ⟨List.forall_mem_map.2 written, List.forall_mem_map.2 readBack⟩)
      exact .succeeded configured.visible hserved

theorem RecordCourse.failAsArranged {plan : List PlannedNode}
    {reservations : Readiness ReservationMap}
    {result : Except NetworkError (Readiness NetworkIdentity)}
    (course : RecordCourse nodeSet plan reservations store result after made) :
    FailAsArranged store.faults made := by
  cases course with
  | unreserved unreserved => exact .nil
  | listFailed reserved fault => exact .failed fault
  | withheld reserved visible withheld => exact .succeeded visible .nil
  | writeFailed ready reserved visible serves fault => exact .succeeded visible (.failed fault)
  | readFailed ready reserved visible serves written fault =>
      exact .succeeded visible (.succeeded written (.failed fault))
  | published ready reserved visible serves written readBack =>
      exact .succeeded visible (.succeeded written (.succeeded readBack .nil))

theorem PassCourse.failAsArranged {ending : PassEnding}
    (course : PassCourse nodeSet store ending after made) : FailAsArranged store.faults made := by
  cases course with
  | reservationsFailed first => exact first.failAsArranged
  | recordsFailed first second =>
      exact first.failAsArranged.append (first.faults_unchanged ▸ second.failAsArranged)
  | finished first second =>
      exact first.failAsArranged.append (first.faults_unchanged ▸ second.failAsArranged)

/--
Writing the reservations of a plan that names no node twice stops at the first write that fails, or
goes to its end, and then what it wrote can be read back.  In a pass nothing is looked for that is
not there, so no call fails but those that are made to.
-/
theorem synchronization_stops_cleanly (store : MemoryStore) (ns : String) (child : ChildMeta)
    {plan : List PlannedNode} (distinct : plan.Pairwise (fun a b => a.name ≠ b.name)) :
    let ran := (syncReservations ns child plan).run.run serve store
    (∀ before node rest cause, plan = before ++ node :: rest →
      (∀ other ∈ before, store.faults (reserveCall ns child other) = none) →
      store.faults (reserveCall ns child node) = some cause →
      StoppedAt ns child before node rest cause store ran.1 ran.2) ∧
    ((∀ node ∈ plan, store.faults (reserveCall ns child node) = none) →
      Completed ns child plan store ran.1 ran.2) ∧
    ∀ nodeSet updater now,
      FailAsArranged store.faults ((runPass nodeSet updater now).attempts serve store) := by
  intro ran
  refine ⟨?_, completed_of_sound distinct, ?_⟩
  · intro before node rest cause split sound fault
    subst split
    exact stoppedAt_of_fault distinct sound fault
  · intro nodeSet updater now
    obtain ⟨ending, after, made, course, hruns⟩ := runPass_course nodeSet store
    rw [(hruns updater now).attempts_eq]
    exact course.failAsArranged

def plannedOnControl (name : String) : PlannedNode where
  name := name
  hostname := name
  networks := [{ name := "ctlplane" }]

/-- A store with a reservation of the first node, in which that of the second cannot be written. -/
def refusingStore : MemoryStore where
  reservations := (∅ : Dict IPReservation).insert "edpm-0"
    { metadata := { name := some "edpm-0", annotations := some ∅ }
      spec := {}
      status := some { conditions := [readyCondition "True"] } }
  faults := ({ upserts := ["edpm-1"] } : FaultFlags).cause?

def namelessMark : ChildMeta where
  labels := childLabels "" Component.ipReservation.label
  owner := controllerReference .nodeSet {}

theorem refusingStore_stops :
    let plan := ["edpm-0", "edpm-1", "edpm-2"].map plannedOnControl
    let served := ["edpm-0", "edpm-2"].map plannedOnControl
    let stopped := (syncReservations "openstack" namelessMark plan).run.run serve refusingStore
    let completed := (syncReservations "openstack" namelessMark served).run.run serve refusingStore
    plan.Pairwise (fun a b => a.name ≠ b.name) ∧
      StoppedAt "openstack" namelessMark [plannedOnControl "edpm-0"] (plannedOnControl "edpm-1")
        [plannedOnControl "edpm-2"] injected refusingStore stopped.1 stopped.2 ∧
      Completed "openstack" namelessMark served refusingStore completed.1 completed.2 := by
  intro plan served stopped completed
  have hplan : plan.Pairwise (fun a b => a.name ≠ b.name) := by decide
  have hserved : served.Pairwise (fun a b => a.name ≠ b.name) := by decide
  have hsound : ∀ node ∈ served,
      refusingStore.faults (reserveCall "openstack" namelessMark node) = none := by
    decide
  refine ⟨hplan, ?_, ?_⟩
  · refine (synchronization_stops_cleanly refusingStore "openstack" namelessMark hplan).1
      [plannedOnControl "edpm-0"] (plannedOnControl "edpm-1") [plannedOnControl "edpm-2"] injected
      rfl ?_ rfl
    decide
  · exact (synchronization_stops_cleanly refusingStore "openstack" namelessMark hserved).2.1 hsound

end NodeIdentity
