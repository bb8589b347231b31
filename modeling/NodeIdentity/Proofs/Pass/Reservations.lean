import NodeIdentity.Proofs.Pass.ReservationLoops

/-!
# The reservation stage on a store in memory

`ReservationCourse` lists the ways in which the stage can go, each with its result, the store behind
it and the attempts; every run goes one of them.  On what the stage left stored it goes the same way
once more, wherever it stopped.
-/

namespace NodeIdentity

open StoreScript MemoryStore

namespace NodeSet

/-- The call that looks for network configurations. -/
abbrev configCall (nodeSet : NodeSet) : StoreCall :=
  .listNetConfigs nodeSet.place

/-- The call that writes the reservation of a planned node. -/
abbrev writeCall (nodeSet : NodeSet) (node : PlannedNode) : StoreCall :=
  reserveCall nodeSet.place (nodeSet.childMeta .ipReservation) node

/-- The call that reads the reservation of a planned node back. -/
abbrev readBackCall (nodeSet : NodeSet) (node : PlannedNode) : StoreCall :=
  readCall nodeSet.place node

/-- The calls of a stage that goes to its end. -/
def reservationCalls (nodeSet : NodeSet) : List StoreCall :=
  nodeSet.configCall :: ((planReservations nodeSet.spec).map nodeSet.writeCall ++
    (planReservations nodeSet.spec).map nodeSet.readBackCall)

/-- The store after looking for network configurations and writing some reservations. -/
def reservedStore (nodeSet : NodeSet) (store : MemoryStore) (plan : List PlannedNode) :
    MemoryStore :=
  (store.logCalls [nodeSet.configCall]).reserveAll nodeSet.place
    (nodeSet.childMeta .ipReservation) plan

/-- Nodes take part, and there is a network configuration and it can be seen. -/
structure IsConfigured (nodeSet : NodeSet) (store : MemoryStore) : Prop where
  planned : planReservations nodeSet.spec ≠ []
  visible : store.faults nodeSet.configCall = none
  present : store.netConfigs ≠ []

end NodeSet

/-- The ways in which the reservation stage can go. -/
inductive ReservationCourse (nodeSet : NodeSet) (store : MemoryStore) :
    Except NetworkError (List PlannedNode × Readiness ReservationMap) → MemoryStore →
      List Attempt → Prop
  | unplanned (empty : planReservations nodeSet.spec = []) :
      ReservationCourse nodeSet store (.ok (planReservations nodeSet.spec, .notApplicable)) store []
  | listFailed {cause : Cause} (planned : planReservations nodeSet.spec ≠ [])
      (fault : store.faults nodeSet.configCall = some cause) :
      ReservationCourse nodeSet store (.error (nodeSet.configCall.failed cause))
        (store.logCalls [nodeSet.configCall]) [Attempt.failed nodeSet.configCall cause]
  | unconfigured (planned : planReservations nodeSet.spec ≠ [])
      (visible : store.faults nodeSet.configCall = none) (absent : store.netConfigs = []) :
      ReservationCourse nodeSet store (.ok (planReservations nodeSet.spec, .notApplicable))
        (store.logCalls [nodeSet.configCall]) [Attempt.success nodeSet.configCall]
  | writeFailed {before rest : List PlannedNode} {node : PlannedNode} {cause : Cause}
      (configured : nodeSet.IsConfigured store)
      (split : planReservations nodeSet.spec = before ++ node :: rest)
      (written : ∀ other ∈ before, store.faults (nodeSet.writeCall other) = none)
      (fault : store.faults (nodeSet.writeCall node) = some cause) :
      ReservationCourse nodeSet store (.error ((nodeSet.writeCall node).failed cause))
        ((nodeSet.reservedStore store before).logCalls [nodeSet.writeCall node])
        ((nodeSet.configCall :: before.map nodeSet.writeCall).map Attempt.success ++
          [Attempt.failed (nodeSet.writeCall node) cause])
  | readFailed {before rest : List PlannedNode} {node : PlannedNode} {cause : Cause}
      (configured : nodeSet.IsConfigured store)
      (written : ∀ other ∈ planReservations nodeSet.spec,
        store.faults (nodeSet.writeCall other) = none)
      (split : planReservations nodeSet.spec = before ++ node :: rest)
      (readBack : ∀ other ∈ before, store.faults (nodeSet.readBackCall other) = none)
      (fault : store.faults (nodeSet.readBackCall node) = some cause) :
      ReservationCourse nodeSet store (.error ((nodeSet.readBackCall node).failed cause))
        ((nodeSet.reservedStore store (planReservations nodeSet.spec)).logCalls
          (before.map nodeSet.readBackCall ++ [nodeSet.readBackCall node]))
        ((nodeSet.configCall :: ((planReservations nodeSet.spec).map nodeSet.writeCall ++
            before.map nodeSet.readBackCall)).map Attempt.success ++
          [Attempt.failed (nodeSet.readBackCall node) cause])
  | reserved (configured : nodeSet.IsConfigured store)
      (written : ∀ other ∈ planReservations nodeSet.spec,
        store.faults (nodeSet.writeCall other) = none)
      (readBack : ∀ other ∈ planReservations nodeSet.spec,
        store.faults (nodeSet.readBackCall other) = none) :
      ReservationCourse nodeSet store
        (.ok (planReservations nodeSet.spec, aggregateReservations (storedReservations
          (reservedAll (nodeSet.childMeta .ipReservation) store.reservations
            (planReservations nodeSet.spec)) (planReservations nodeSet.spec))))
        ((nodeSet.reservedStore store (planReservations nodeSet.spec)).logCalls
          ((planReservations nodeSet.spec).map nodeSet.readBackCall))
        (nodeSet.reservationCalls.map Attempt.success)

namespace NodeSet

/-- Writing reservations changes nothing but reservations and logs. -/
theorem reservedStore_eq (nodeSet : NodeSet) (store : MemoryStore) (plan : List PlannedNode) :
    ∃ written, nodeSet.reservedStore store plan =
      { store with
        reservations := reservedAll (nodeSet.childMeta .ipReservation) store.reservations plan
        writes := store.writes ++ written
        calls := store.calls ++ nodeSet.configCall :: plan.map nodeSet.writeCall } := by
  obtain ⟨written, h⟩ := (store.logCalls [nodeSet.configCall]).reserveAll_eq nodeSet.place
    (nodeSet.childMeta .ipReservation) plan
  refine ⟨written, ?_⟩
  unfold reservedStore
  rw [h]
  simp [logCalls]

@[simp] theorem reservedStore_faults (nodeSet : NodeSet) (store : MemoryStore)
    (plan : List PlannedNode) : (nodeSet.reservedStore store plan).faults = store.faults := by
  obtain ⟨written, h⟩ := nodeSet.reservedStore_eq store plan
  rw [h]

@[simp] theorem reservedStore_reservations (nodeSet : NodeSet) (store : MemoryStore)
    (plan : List PlannedNode) :
    (nodeSet.reservedStore store plan).reservations =
      reservedAll (nodeSet.childMeta .ipReservation) store.reservations plan := by
  obtain ⟨written, h⟩ := nodeSet.reservedStore_eq store plan
  rw [h]

/-- Writing reservations that are as they are wanted leaves traces in the log of calls only. -/
theorem reservedStore_settled (nodeSet : NodeSet) {store : MemoryStore} {plan : List PlannedNode}
    (settled : ∀ node ∈ plan,
      IsReserved (nodeSet.childMeta .ipReservation) store.reservations node) :
    nodeSet.reservedStore store plan =
      store.logCalls (nodeSet.configCall :: plan.map nodeSet.writeCall) := by
  unfold reservedStore
  rw [reserveAll_settled nodeSet.place (store.logCalls [nodeSet.configCall]) settled,
    logCalls_logCalls]
  rfl

/-- Every planned node has a reservation once all of them are written. -/
theorem stored_reservedStore (nodeSet : NodeSet) (store : MemoryStore) :
    ∀ node ∈ planReservations nodeSet.spec, ∃ current,
      (nodeSet.reservedStore store (planReservations nodeSet.spec)).reservations.get? node.name =
        some current := by
  intro node planned
  rw [reservedStore_reservations]
  exact ⟨_, get?_reservedAll (planReservations_distinct nodeSet.spec) planned store.reservations⟩

/-- The stage on nodes that take part. -/
theorem ensureReservations_planned {nodeSet : NodeSet}
    (planned : planReservations nodeSet.spec ≠ []) :
    ensureReservations nodeSet =
      (do
        let netConfigs ← StoreAction.perform nodeSet.configCall
        if netConfigs.isEmpty then pure (planReservations nodeSet.spec, .notApplicable)
        else
          let _ ← syncReservations nodeSet.place (nodeSet.childMeta .ipReservation)
            (planReservations nodeSet.spec)
          let reservations ← readBackReservations nodeSet.place (planReservations nodeSet.spec)
          pure (planReservations nodeSet.spec, aggregateReservations reservations)) := by
  unfold ensureReservations
  dsimp only
  rw [if_neg (mt List.isEmpty_iff.1 planned)]

/-- The stage goes on to write reservations where it finds a network configuration. -/
theorem IsConfigured.runs {nodeSet : NodeSet} {store after : MemoryStore} {made : List Attempt}
    {result : Except NetworkError (List PlannedNode × Readiness ReservationMap)}
    (configured : nodeSet.IsConfigured store)
    (h : Runs serve
      (do
        let _ ← syncReservations nodeSet.place (nodeSet.childMeta .ipReservation)
          (planReservations nodeSet.spec)
        let reservations ← readBackReservations nodeSet.place (planReservations nodeSet.spec)
        pure (planReservations nodeSet.spec, aggregateReservations reservations)).run
      (store.logCalls [nodeSet.configCall]) result after made) :
    Runs serve (ensureReservations nodeSet).run store result after
      (Attempt.success nodeSet.configCall :: made) := by
  rw [ensureReservations_planned configured.planned]
  refine Runs.andThen (runs_listNetConfigs configured.visible) ?_
  rw [if_neg (mt List.isEmpty_iff.1 configured.present)]
  exact h

end NodeSet

namespace ReservationCourse

variable {nodeSet : NodeSet} {store after : MemoryStore} {made : List Attempt}
  {result : Except NetworkError (List PlannedNode × Readiness ReservationMap)}

theorem runs (course : ReservationCourse nodeSet store result after made) :
    Runs serve (ensureReservations nodeSet).run store result after made := by
  cases course with
  | unplanned empty =>
      unfold ensureReservations
      dsimp only
      rw [empty]
      exact Runs.succeed _ store
  | listFailed planned fault =>
      rw [NodeSet.ensureReservations_planned planned]
      exact Runs.giveUp (runs_fault fault)
  | unconfigured planned visible absent =>
      rw [NodeSet.ensureReservations_planned planned]
      have hlist := runs_listNetConfigs visible
      rw [absent] at hlist
      exact Runs.andDone hlist rfl
  | @writeFailed before rest node cause configured split written fault =>
      have hstopped := runs_syncReservations_stopped rest (store.logCalls [nodeSet.configCall])
        written fault
      rw [← split] at hstopped
      exact configured.runs (Runs.giveUp hstopped)
  | @readFailed before rest node cause configured written split readBack fault =>
      have hwritten := runs_syncReservations (store.logCalls [nodeSet.configCall]) written
      have hstored := nodeSet.stored_reservedStore store
      have hbefore : ∀ other ∈ before, other ∈ planReservations nodeSet.spec := by
        intro other hother
        rw [split]
        exact List.mem_append_left _ hother
      have hstopped := runs_readBackReservations_stopped rest
        (nodeSet.reservedStore store (planReservations nodeSet.spec))
        (by simpa using readBack) (fun other hother => hstored other (hbefore other hother))
        (by simpa using fault)
      rw [← split] at hstopped
      have hruns := configured.runs (Runs.andThen hwritten (Runs.giveUp hstopped))
      simpa using hruns
  | reserved configured written readBack =>
      have hwritten := runs_syncReservations (store.logCalls [nodeSet.configCall]) written
      have hread := runs_readBackReservations
        (nodeSet.reservedStore store (planReservations nodeSet.spec))
        (by simpa using readBack) (nodeSet.stored_reservedStore store)
      rw [NodeSet.reservedStore_reservations] at hread
      have hruns := configured.runs (Runs.andThen hwritten (Runs.andDone hread rfl))
      simpa [NodeSet.reservationCalls] using hruns

/-- The stage always goes one of the ways. -/
theorem exists_reservationCourse (nodeSet : NodeSet) (store : MemoryStore) :
    ∃ result after made, ReservationCourse nodeSet store result after made := by
  by_cases empty : planReservations nodeSet.spec = []
  · exact ⟨_, _, _, unplanned empty⟩
  cases hlist : store.faults nodeSet.configCall with
  | some cause => exact ⟨_, _, _, listFailed empty hlist⟩
  | none =>
      by_cases absent : store.netConfigs = []
      · exact ⟨_, _, _, unconfigured empty hlist absent⟩
      have configured : nodeSet.IsConfigured store := ⟨empty, hlist, absent⟩
      rcases first_fault (fun node => store.faults (nodeSet.writeCall node))
        (planReservations nodeSet.spec) with written |
        ⟨before, node, rest, cause, split, written, fault⟩
      · rcases first_fault (fun node => store.faults (nodeSet.readBackCall node))
          (planReservations nodeSet.spec) with readBack |
          ⟨before, node, rest, cause, split, readBack, fault⟩
        · exact ⟨_, _, _, reserved configured written readBack⟩
        · exact ⟨_, _, _, readFailed configured written split readBack fault⟩
      · exact ⟨_, _, _, writeFailed configured split written fault⟩

/-- The stage makes a beginning of its calls. -/
theorem calls_prefix (course : ReservationCourse nodeSet store result after made) :
    made.map (·.request) <+: nodeSet.reservationCalls := by
  unfold NodeSet.reservationCalls
  cases course with
  | unplanned empty => exact List.nil_prefix
  | listFailed planned fault => simp
  | unconfigured planned visible absent => simp
  | @writeFailed before rest node cause configured split written fault =>
      rw [List.map_append, Attempt.map_request_success, split]
      simp
  | @readFailed before rest node cause configured written split readBack fault =>
      rw [List.map_append, Attempt.map_request_success, split]
      simp
  | reserved configured written readBack =>
      rw [Attempt.map_request_success]
      exact List.prefix_rfl

/-- The stage has nothing to do with name services and record sets. -/
theorem kind_of_mem (course : ReservationCourse nodeSet store result after made)
    {attempt : Attempt} (member : attempt ∈ made) :
    attempt.request.kind = .netConfig ∨ attempt.request.kind = .ipReservation := by
  have hcalled := course.calls_prefix.subset (List.mem_map_of_mem member)
  rcases List.mem_cons.1 hcalled with hconfig | hcalled
  · rw [hconfig]
    exact Or.inl rfl
  · right
    rcases List.mem_append.1 hcalled with hwrite | hread
    · obtain ⟨node, -, hnode⟩ := List.mem_map.1 hwrite
      rw [← hnode]
      rfl
    · obtain ⟨node, -, hnode⟩ := List.mem_map.1 hread
      rw [← hnode]
      rfl

/-- The stage changes nothing but reservations and logs. -/
theorem frame (course : ReservationCourse nodeSet store result after made) :
    ∃ written, after =
      { store with
        reservations := after.reservations
        writes := store.writes ++ written
        calls := store.calls ++ made.map (·.request) } := by
  cases course with
  | unplanned empty => exact ⟨[], by simp⟩
  | listFailed planned fault => exact ⟨[], by simp [logCalls]⟩
  | unconfigured planned visible absent => exact ⟨[], by simp [logCalls]⟩
  | @writeFailed before rest node cause configured split written fault =>
      obtain ⟨entries, h⟩ := nodeSet.reservedStore_eq store before
      refine ⟨entries, ?_⟩
      rw [h, List.map_append, Attempt.map_request_success]
      simp [logCalls]
  | @readFailed before rest node cause configured written split readBack fault =>
      obtain ⟨entries, h⟩ := nodeSet.reservedStore_eq store (planReservations nodeSet.spec)
      refine ⟨entries, ?_⟩
      rw [h, List.map_append, Attempt.map_request_success]
      simp [logCalls]
  | reserved configured written readBack =>
      obtain ⟨entries, h⟩ := nodeSet.reservedStore_eq store (planReservations nodeSet.spec)
      refine ⟨entries, ?_⟩
      rw [h, Attempt.map_request_success]
      simp [logCalls, NodeSet.reservationCalls]

theorem recordSets_unchanged (course : ReservationCourse nodeSet store result after made) :
    after.recordSets = store.recordSets := by
  obtain ⟨written, h⟩ := course.frame
  rw [h]

theorem dnsServices_unchanged (course : ReservationCourse nodeSet store result after made) :
    after.dnsServices = store.dnsServices := by
  obtain ⟨written, h⟩ := course.frame
  rw [h]

theorem recordSetsServed_unchanged (course : ReservationCourse nodeSet store result after made) :
    after.recordSetsServed = store.recordSetsServed := by
  obtain ⟨written, h⟩ := course.frame
  rw [h]

theorem faults_unchanged (course : ReservationCourse nodeSet store result after made) :
    after.faults = store.faults := by
  obtain ⟨written, h⟩ := course.frame
  rw [h]

/-- What the stage leaves is what was stored, with a beginning of the plan written over it. -/
theorem reservations_eq (course : ReservationCourse nodeSet store result after made) :
    ∃ written, written <+: planReservations nodeSet.spec ∧
      after.reservations =
        reservedAll (nodeSet.childMeta .ipReservation) store.reservations written := by
  cases course with
  | unplanned empty => exact ⟨[], List.nil_prefix, rfl⟩
  | listFailed planned fault => exact ⟨[], List.nil_prefix, rfl⟩
  | unconfigured planned visible absent => exact ⟨[], List.nil_prefix, rfl⟩
  | @writeFailed before rest node cause configured split written fault =>
      refine ⟨before, ?_, nodeSet.reservedStore_reservations store before⟩
      rw [split]
      exact List.prefix_append before _
  | readFailed configured written split readBack fault =>
      exact ⟨_, List.prefix_rfl, nodeSet.reservedStore_reservations store _⟩
  | reserved configured written readBack =>
      exact ⟨_, List.prefix_rfl, nodeSet.reservedStore_reservations store _⟩

/-- A stage that finds what another one left stored goes the same way, and only logs its calls. -/
theorem again (course : ReservationCourse nodeSet store result after made) {later : MemoryStore}
    (faults : later.faults = store.faults) (netConfigs : later.netConfigs = store.netConfigs)
    (reservations : later.reservations = after.reservations) :
    ReservationCourse nodeSet later result (later.logCalls (made.map (·.request))) made := by
  have hdistinct := planReservations_distinct nodeSet.spec
  have hconfigured : nodeSet.IsConfigured store → nodeSet.IsConfigured later := by
    intro configured
    exact ⟨configured.planned, by rw [faults, configured.visible],
      by rw [netConfigs]; exact configured.present⟩
  -- What was written is stored as it is wanted, so writing it once more only logs the calls.
  have hafter : ∀ plan,
      later.reservations = (nodeSet.reservedStore store plan).reservations →
        later.reservations =
          reservedAll (nodeSet.childMeta .ipReservation) store.reservations plan := by
    intro plan h
    rw [h, NodeSet.reservedStore_reservations]
  cases course with
  | unplanned empty =>
      rw [List.map_nil, logCalls_nil]
      exact unplanned empty
  | listFailed planned fault => exact listFailed planned (by rw [faults, fault])
  | unconfigured planned visible absent =>
      exact unconfigured planned (by rw [faults, visible]) (by rw [netConfigs, absent])
  | @writeFailed before rest node cause configured split written fault =>
      rw [split] at hdistinct
      have hsettled := isReserved_reservedAll (nodeSet.childMeta .ipReservation)
        (List.pairwise_append.1 hdistinct).1 store.reservations
      rw [← hafter before reservations] at hsettled
      have hagain := writeFailed (hconfigured configured) split (faults ▸ written)
        (faults ▸ fault)
      rw [nodeSet.reservedStore_settled hsettled, logCalls_logCalls] at hagain
      rw [List.map_append, Attempt.map_request_success]
      simpa using hagain
  | @readFailed before rest node cause configured written split readBack fault =>
      have hsettled := isReserved_reservedAll (nodeSet.childMeta .ipReservation)
        hdistinct store.reservations
      rw [← hafter _ reservations] at hsettled
      have hagain := readFailed (hconfigured configured) (faults ▸ written) split
        (faults ▸ readBack) (faults ▸ fault)
      rw [nodeSet.reservedStore_settled hsettled, logCalls_logCalls] at hagain
      rw [List.map_append, Attempt.map_request_success]
      simpa using hagain
  | reserved configured written readBack =>
      have hsettled := isReserved_reservedAll (nodeSet.childMeta .ipReservation)
        hdistinct store.reservations
      rw [← hafter _ reservations] at hsettled ⊢
      have hagain := reserved (hconfigured configured) (faults ▸ written) (faults ▸ readBack)
      rw [nodeSet.reservedStore_settled hsettled, reservedAll_settled hsettled,
        logCalls_logCalls] at hagain
      rw [Attempt.map_request_success]
      exact hagain

end ReservationCourse

end NodeIdentity
