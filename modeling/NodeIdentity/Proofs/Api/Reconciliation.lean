import NodeIdentity.Proofs.Api.PagedGates
import NodeIdentity.Proofs.Status.Changes

/-!
# Whole reconciliations

A reconciliation is a pass, and behind it the write of the status that the pass collected, however
it ended.  Its result is the first failure of the two.  The write is spared only where it would say
nothing new, so a reconciliation that succeeds leaves the status of its pass stored.
-/

namespace NodeIdentity

open Client StoreScript

/-! ## Updaters of passes -/

namespace PassEnding

variable {nodeSet : NodeSet} {updater : StatusUpdater}

theorem passEnd_startsFrom (h : updater.StartsFrom nodeSet) (now : String)
    (ending : PassEnding) : (ending.passEnd nodeSet updater now).updater.StartsFrom nodeSet := by
  have hobserved := h.setObservedGeneration nodeSet.metadata.generation
  cases ending with
  | reservationsFailed e =>
      exact ((hobserved.mark now _ _ _).setIdentity _).markOverall now
  | recordsFailed reservations e =>
      exact (((hobserved.mark now _ _ _).mark now _ _ _).setIdentity _).markOverall now
  | finished reservations dns =>
      show (finishPass _ _ _ _).updater.StartsFrom nodeSet
      rw [finishPass_updater]
      exact (((hobserved.mark now _ _ _).mark now _ _ _).setIdentity _).markOverall now

/-- A pass counts the failure that it ends with, and no other. -/
theorem passEnd_counted (nodeSet : NodeSet) (updater : StatusUpdater) (now : String)
    (ending : PassEnding) :
    (ending.passEnd nodeSet updater now).measurements.filterMap Metrics.errors.pair? =
      match (ending.passEnd nodeSet updater now).result with
      | .error e => [⟨e.kind, e.category⟩]
      | .ok _ => [] := by
  have htransitions (collected : StatusUpdater) :
      collected.measurements.filterMap Metrics.errors.pair? = [] := by
    unfold StatusUpdater.measurements
    rw [List.filterMap_map, List.filterMap_eq_nil_iff]
    intro _ _
    rfl
  unfold PassEnd.measurements
  rw [List.filterMap_append, htransitions, List.append_nil]
  cases ending with
  | reservationsFailed e => rfl
  | recordsFailed reservations e => rfl
  | finished reservations dns => rfl

end PassEnding

/-! ## Writes of statuses -/

namespace NodeSet

/-- The request that writes a status of a node set. -/
def statusRequest (nodeSet : NodeSet) (status : NodeSetStatus) : ApiRequest :=
  Client.statusRequest NodeSet.type nodeSet.place nodeSet.name
    (NodeSetStatus.format.encode status)

/-- The request that writes a status of a node set, as it goes out. -/
def statusSent (nodeSet : NodeSet) (status : NodeSetStatus) : ApiRequest :=
  (nodeSet.statusRequest status).outgoing

/-- Whether a status of a node set can be sent, whatever it says: the node set has a name, and a
request can be built. -/
def isAddressable (nodeSet : NodeSet) : Bool :=
  (refusal? nodeSet.name (nodeSet.statusRequest {})).isNone

/-- The failure of the write of a status, by what it is answered if it is sent. -/
def statusFailure? (nodeSet : NodeSet) (status : NodeSetStatus) (answer : ApiAnswer) :
    Option Cause :=
  match refusal? nodeSet.name (nodeSet.statusRequest status) with
  | some cause => some cause
  | none =>
      match readAnswer NodeSet.type.format answer with
      | .ok _ => none
      | .error cause => some cause

theorem refusal?_statusRequest_eq_none_iff (nodeSet : NodeSet) (status : NodeSetStatus) :
    refusal? nodeSet.name (nodeSet.statusRequest status) = none ↔
      nodeSet.isAddressable = true :=
  Option.isNone_iff_eq_none.symm

/-- What it takes for a status to be sent. -/
theorem isAddressable_iff (nodeSet : NodeSet) (status : NodeSetStatus) :
    nodeSet.isAddressable = true ↔ nodeSet.name ≠ "" ∧
      let address := (nodeSet.statusRequest status).address
      address.utf8ByteSize ≤ Address.byteLimit ∧
        (∀ c ∈ Address.path address.toList, Address.isPathChar c = true) ∧
        ∀ c ∈ (Address.behind? address.toList).getD [], Address.isQueryChar c = true := by
  rw [← nodeSet.refusal?_statusRequest_eq_none_iff status]
  by_cases named : nodeSet.name = ""
  · simp [refusal?, named]
  · rw [refusal?_of_named named, ApiRequest.fault?_eq_none_iff, List.all_eq_true, List.all_eq_true]
    exact (and_iff_right named).symm

/-- Where namespace and name are plain, the request goes out as it is written. -/
theorem statusSent_plain {nodeSet : NodeSet} (place : Address.isPlain nodeSet.place = true)
    (plain : Address.isPlain nodeSet.name = true) (status : NodeSetStatus) :
    nodeSet.statusSent status = nodeSet.statusRequest status :=
  Client.statusRequest_outgoing (.of_plain place) (.of_plain plain) _

end NodeSet

/-! ## Writes of what was collected -/

section Writes

variable {σ : Type} {serve : ApiRequest → σ → ApiAnswer × σ} {nodeSet : NodeSet}

namespace StatusUpdater

variable {updater : StatusUpdater}

/-- The failure of the write of a collected status, if one is due and it fails. -/
def writeFailure? (updater : StatusUpdater) (nodeSet : NodeSet) (answer : ApiAnswer) :
    Option Cause :=
  if updater.hasChanges then nodeSet.statusFailure? updater.status answer else none

/-- Whether a collected status is sent. -/
def isSent (updater : StatusUpdater) (nodeSet : NodeSet) : Bool :=
  updater.hasChanges && nodeSet.isAddressable

/-- The result of the write of a status that failed in a way, or did not. -/
def writeResult (nodeSet : NodeSet) : Option Cause → Except NetworkError Unit
  | none => .ok ()
  | some cause =>
      .error (.statusUpdate NodeSet.type.kind.name nodeSet.place nodeSet.name cause)

theorem applyStatus_of_startsFrom (h : updater.StartsFrom nodeSet) :
    (applyStatus NodeSet.type updater.ns updater.name
        (NodeSetStatus.format.encode updater.status)).run =
      match refusal? nodeSet.name (nodeSet.statusRequest updater.status) with
      | some cause => .done (.error cause)
      | none => .send (nodeSet.statusSent updater.status) (fun answer =>
          .done (readAnswer NodeSet.type.format answer)) := by
  rw [applyStatus_run, h.ns, h.name]
  rfl

/-- A status that is sent is answered, and one that is not leaves everything as it is. -/
theorem StartsFrom.apply_run (h : updater.StartsFrom nodeSet) (state : σ) :
    updater.apply.run serve state =
      (writeResult nodeSet (updater.writeFailure? nodeSet
          (serve (nodeSet.statusSent updater.status) state).1),
        if updater.isSent nodeSet then (serve (nodeSet.statusSent updater.status) state).2
        else state) := by
  have hsent := nodeSet.refusal?_statusRequest_eq_none_iff updater.status
  unfold StatusUpdater.apply writeFailure? isSent
  by_cases changed : updater.hasChanges = true
  · simp only [changed, if_true, Bool.true_and, NodeSet.statusFailure?]
    rw [applyStatus_of_startsFrom h, ApiScript.run_bind]
    cases hrefusal : refusal? nodeSet.name (nodeSet.statusRequest updater.status) with
    | some cause =>
        have haddress : nodeSet.isAddressable = false := by
          simpa [hrefusal] using hsent
        simp [ApiScript.run, writeResult, haddress, h.ns, h.name]
    | none =>
        simp only [ApiScript.run, hsent.1 hrefusal, if_true]
        cases readAnswer NodeSet.type.format
          (serve (nodeSet.statusSent updater.status) state).1 <;>
            simp [writeResult, h.ns, h.name]
  · rw [Bool.not_eq_true] at changed
    simp [changed, ApiScript.run, writeResult]

theorem StartsFrom.apply_trace (h : updater.StartsFrom nodeSet) (state : σ) :
    updater.apply.trace serve state =
      if updater.isSent nodeSet then
        [(nodeSet.statusSent updater.status,
          (serve (nodeSet.statusSent updater.status) state).1)]
      else [] := by
  have hsent := nodeSet.refusal?_statusRequest_eq_none_iff updater.status
  unfold StatusUpdater.apply isSent
  by_cases changed : updater.hasChanges = true
  · simp only [changed, if_true, Bool.true_and]
    rw [applyStatus_of_startsFrom h, ApiScript.trace_bind]
    cases hrefusal : refusal? nodeSet.name (nodeSet.statusRequest updater.status) with
    | some cause =>
        have haddress : nodeSet.isAddressable = false := by
          simpa [hrefusal] using hsent
        simp [ApiScript.trace, haddress]
    | none => simp [ApiScript.trace, hsent.1 hrefusal]
  · rw [Bool.not_eq_true] at changed
    simp [changed, ApiScript.trace]

end StatusUpdater

end Writes

/-! ## Reconciliations -/

section Reconciliations

variable {σ : Type}

/-- The pass of a reconciliation, over a server. -/
def passOver (nodeSet : NodeSet) (now : String) : ApiScript (PassEnd × List Measurement) :=
  (runPass nodeSet (.ofNodeSet nodeSet) now).overApi

/-- The failure of the pass if it failed, else that of the write if it failed, else the outcome. -/
def firstFailure (nodeSet : NodeSet) :
    Except NetworkError PassOutcome → Option Cause → Except NetworkError PassOutcome
  | .error e, _ => .error e
  | .ok _, some cause =>
      .error (.statusUpdate NodeSet.type.kind.name nodeSet.place nodeSet.name cause)
  | .ok outcome, none => .ok outcome

/-- The failed calls that are counted: that of the pass, and the write of the status. -/
def countedFailures (pass : Except NetworkError PassOutcome) (write : Option Cause) :
    List Metrics.CountedPair :=
  (match pass with
    | .error e => [⟨e.kind, e.category⟩]
    | .ok _ => []) ++
  match write with
  | some _ => [⟨NodeSet.type.kind.name, "status_error"⟩]
  | none => []

/--
What a reconciliation comes to: the pass `passed`, behind which the server is in the state `middle`,
and the write of the status that the pass collected, which fails with `write` if it fails.
-/
structure ReconciledFully (serve : ApiRequest → σ → ApiAnswer × σ) (nodeSet : NodeSet)
    (now : String) (before : σ) (passed : PassEnd) (middle : σ) (write : Option Cause) :
    Prop where
  /-- The status is written last, once, and only if it says something new and can be sent. -/
  exchanges :
    (reconcileNodeSet nodeSet now).trace serve before =
      (passOver nodeSet now).trace serve before ++
        if passed.updater.hasChanges && nodeSet.isAddressable then
          [(nodeSet.statusSent passed.updater.status,
            (serve (nodeSet.statusSent passed.updater.status) middle).1)]
        else []
  /-- A status can be sent where there is a name, and an address that is not too long and whose
  characters may stand where they do. -/
  addressable : ∀ status, nodeSet.isAddressable = true ↔ nodeSet.name ≠ "" ∧
    let address := (nodeSet.statusRequest status).address
    address.utf8ByteSize ≤ Address.byteLimit ∧
      (∀ c ∈ Address.path address.toList, Address.isPathChar c = true) ∧
      ∀ c ∈ (Address.behind? address.toList).getD [], Address.isQueryChar c = true
  /-- Where namespace and name are plain, the status is written where the node set is stored. -/
  written : Address.isPlain nodeSet.place = true → Address.isPlain nodeSet.name = true →
    ∀ status, nodeSet.statusSent status = nodeSet.statusRequest status
  /-- A question mark in them ends the path. -/
  queried : ∀ status front behind, (nodeSet.statusRequest status).path = front ++ "?" ++ behind →
    Address.Unmarked front.toList → '#' ∉ behind.toList →
      nodeSet.statusSent status =
        { nodeSet.statusRequest status with path := front, stray := some behind }
  /-- A hash sign in them ends the address. -/
  dropped : ∀ status front rest, (nodeSet.statusRequest status).path = front ++ "#" ++ rest →
    '#' ∉ front.toList →
      nodeSet.statusSent status =
        { ({ nodeSet.statusRequest status with path := front } : ApiRequest).outgoing with
          query := [] }
  /-- No request of the pass writes a status. -/
  children : ∀ exchange ∈ (passOver nodeSet now).trace serve before, exchange.1.method ≠ .patch
  /-- A status that says something new and cannot be sent is not passed over: its write fails. -/
  unaddressable :
    passed.updater.hasChanges = true → nodeSet.isAddressable = false → write.isSome = true
  /-- The first failure is the result. -/
  result :
    ((reconcileNodeSet nodeSet now).run serve before).1.result =
      firstFailure nodeSet passed.result write
  /-- A failed pass is counted, a failed write is, and nothing else. -/
  counted : ∀ earlier,
    Metrics.errors.counters
        (earlier ++ ((reconcileNodeSet nodeSet now).run serve before).1.measurements) =
      (countedFailures passed.result write).foldl Metrics.Counters.count
        (Metrics.errors.counters earlier)
  /-- Where the node set came with its stored status, only writes of statuses change what is stored,
  and one that succeeds stores what was sent, success leaves the status of the pass stored, but for
  times. -/
  stored : ∀ view : σ → Option NodeSetStatus,
    (∀ request state, request.method ≠ .patch → view (serve request state).2 = view state) →
    (∀ status state value,
      readAnswer NodeSet.type.format (serve (nodeSet.statusSent status) state).1 = .ok value →
        view (serve (nodeSet.statusSent status) state).2 = some status) →
    view before = nodeSet.status →
    ∀ outcome, ((reconcileNodeSet nodeSet now).run serve before).1.result = .ok outcome →
      ∃ status, view ((reconcileNodeSet nodeSet now).run serve before).2 = some status ∧
        status.untimed = passed.updater.status.untimed

variable {serve : ApiRequest → σ → ApiAnswer × σ}

theorem passOver_ending (serve : ApiRequest → σ → ApiAnswer × σ) (nodeSet : NodeSet)
    (now : String) (before : σ) :
    ∃ ending : PassEnding, ((passOver nodeSet now).run serve before).1.1 =
      ending.passEnd nodeSet (.ofNodeSet nodeSet) now :=
  (runPass_endsIn nodeSet (.ofNodeSet nodeSet) now).overApi before

theorem passOver_startsFrom (nodeSet : NodeSet) (now : String) (before : σ) :
    ((passOver nodeSet now).run serve before).1.1.updater.StartsFrom nodeSet := by
  obtain ⟨ending, hending⟩ := passOver_ending serve nodeSet now before
  rw [hending]
  exact ending.passEnd_startsFrom (.ofNodeSet nodeSet) now

theorem passOver_keeps {α : Type} {view : σ → α}
    (kept : ∀ request state, request.method ≠ .patch →
      view (serve request state).2 = view state)
    (nodeSet : NodeSet) (now : String) (before : σ) :
    view ((passOver nodeSet now).run serve before).2 = view before :=
  (StoreScript.overApi_uses _).run_keeps (fun request state h => kept request state h) before

theorem reconcileNodeSet_run (nodeSet : NodeSet) (now : String) (before : σ) :
    (reconcileNodeSet nodeSet now).run serve before =
      let passed := (passOver nodeSet now).run serve before
      let written := passed.1.1.updater.apply.run serve passed.2
      ({ result := reconcileResult passed.1.1.result written.1
         measurements :=
          passed.1.2 ++ passed.1.1.measurements ++ statusMeasurements written.1 }, written.2) := by
  unfold reconcileNodeSet
  rw [ApiScript.run_bind, ApiScript.run_bind]
  rfl

theorem reconcileNodeSet_trace (nodeSet : NodeSet) (now : String) (before : σ) :
    (reconcileNodeSet nodeSet now).trace serve before =
      let passed := (passOver nodeSet now).run serve before
      (passOver nodeSet now).trace serve before ++
        passed.1.1.updater.apply.trace serve passed.2 := by
  unfold reconcileNodeSet
  rw [ApiScript.trace_bind, ApiScript.trace_bind]
  simp only [ApiScript.trace, List.append_nil]
  rfl

theorem passOver_counted (nodeSet : NodeSet) (now : String) (before : σ) :
    let passed := ((passOver nodeSet now).run serve before).1
    (passed.2 ++ passed.1.measurements).filterMap Metrics.errors.pair? =
      countedFailures passed.1.result none := by
  intro passed
  obtain ⟨ending, hending⟩ := passOver_ending serve nodeSet now before
  have hupserts : passed.2.filterMap Metrics.errors.pair? = [] :=
    StoreScript.overApi_measurements (fun _ _ => rfl) _ before
  have hpass := ending.passEnd_counted nodeSet (.ofNodeSet nodeSet) now
  rw [← hending] at hpass
  rw [List.filterMap_append, hupserts, List.nil_append]
  exact hpass.trans (List.append_nil _).symm

/-- Where success is reported, the collected status is stored, had it to be written or not. -/
theorem stored_of_written {nodeSet : NodeSet} {updater : StatusUpdater}
    (starts : updater.StartsFrom nodeSet) {view : σ → Option NodeSetStatus} {middle : σ}
    (stores : ∀ status state value,
      readAnswer NodeSet.type.format (serve (nodeSet.statusSent status) state).1 = .ok value →
        view (serve (nodeSet.statusSent status) state).2 = some status)
    (carried : view middle = nodeSet.status)
    (written : updater.writeFailure? nodeSet
      (serve (nodeSet.statusSent updater.status) middle).1 = none) :
    ∃ status, view (updater.apply.run serve middle).2 = some status ∧
      status.untimed = updater.status.untimed := by
  rw [starts.apply_run]
  unfold StatusUpdater.isSent
  by_cases changed : updater.hasChanges = true
  · rw [StatusUpdater.writeFailure?, if_pos changed, NodeSet.statusFailure?] at written
    cases hrefusal : refusal? nodeSet.name (nodeSet.statusRequest updater.status) with
    | some cause => simp [hrefusal] at written
    | none =>
        have haddress := (nodeSet.refusal?_statusRequest_eq_none_iff _).1 hrefusal
        cases hread : readAnswer NodeSet.type.format
          (serve (nodeSet.statusSent updater.status) middle).1 with
        | error cause => simp [hrefusal, hread] at written
        | ok value =>
            refine ⟨updater.status, ?_, rfl⟩
            simpa [changed, haddress] using stores updater.status middle value hread
  · rw [Bool.not_eq_true] at changed
    obtain ⟨stored, hstored, huntimed⟩ := starts.untimed_eq_of_unchanged changed
    refine ⟨stored, ?_, huntimed.symm⟩
    simpa [changed, hstored] using carried

/-- Every reconciliation records its pass, and hides none of its failures. -/
theorem reconcileNodeSet_fully (serve : ApiRequest → σ → ApiAnswer × σ) (nodeSet : NodeSet)
    (now : String) (before : σ) :
    let passed := (passOver nodeSet now).run serve before
    let updater := passed.1.1.updater
    ReconciledFully serve nodeSet now before passed.1.1 passed.2
      (updater.writeFailure? nodeSet
        (serve (nodeSet.statusSent updater.status) passed.2).1) := by
  intro passed updater
  have starts : updater.StartsFrom nodeSet := passOver_startsFrom nodeSet now before
  have hresult : ((reconcileNodeSet nodeSet now).run serve before).1.result =
      reconcileResult passed.1.1.result (StatusUpdater.writeResult nodeSet
        (updater.writeFailure? nodeSet
          (serve (nodeSet.statusSent updater.status) passed.2).1)) := by
    rw [reconcileNodeSet_run]
    exact congrArg (reconcileResult passed.1.1.result) (congrArg Prod.fst (starts.apply_run _))
  constructor
  case exchanges =>
    rw [reconcileNodeSet_trace]
    exact congrArg (_ ++ ·) (starts.apply_trace passed.2)
  case addressable => exact nodeSet.isAddressable_iff
  case written => exact fun place plain status => NodeSet.statusSent_plain place plain status
  case queried =>
    intro status front behind written unmarked whole
    exact ApiRequest.outgoing_of_question unmarked whole written
  case dropped =>
    intro status front rest written whole
    exact ApiRequest.outgoing_of_hash whole written
  case children =>
    intro exchange member
    exact (StoreScript.overApi_uses _).of_mem_trace member
  case unaddressable =>
    intro changed haddress
    have hrefused : refusal? nodeSet.name (nodeSet.statusRequest updater.status) ≠ none := by
      rw [ne_eq, NodeSet.refusal?_statusRequest_eq_none_iff, haddress]
      decide
    obtain ⟨cause, hcause⟩ := Option.ne_none_iff_exists'.1 hrefused
    rw [StatusUpdater.writeFailure?, if_pos changed, NodeSet.statusFailure?, hcause]
    rfl
  case result =>
    rw [hresult]
    cases passed.1.1.result <;> cases updater.writeFailure? nodeSet _ <;> rfl
  case counted =>
    intro earlier
    have hpass : (passed.1.2 ++ passed.1.1.measurements).filterMap Metrics.errors.pair? =
        countedFailures passed.1.1.result none := passOver_counted nodeSet now before
    have hwrite : (updater.apply.run serve passed.2).1 = _ :=
      congrArg Prod.fst (starts.apply_run passed.2)
    rw [reconcileNodeSet_run]
    show ((earlier ++ (passed.1.2 ++ passed.1.1.measurements ++ statusMeasurements
      (updater.apply.run serve passed.2).1)).filterMap Metrics.errors.pair?).foldl _ _ = _
    rw [List.filterMap_append, List.filterMap_append, hpass, List.foldl_append, hwrite]
    congr 1
    cases passed.1.1.result <;> cases updater.writeFailure? nodeSet _ <;> rfl
  case stored =>
    intro view kept stores carried outcome success
    have hmiddle : view passed.2 = nodeSet.status :=
      (passOver_keeps kept nodeSet now before).trans carried
    rw [reconcileNodeSet_run]
    refine stored_of_written starts stores hmiddle ?_
    rw [hresult] at success
    cases hwrite : updater.writeFailure? nodeSet
        (serve (nodeSet.statusSent updater.status) passed.2).1 with
    | none => rfl
    | some cause =>
        rw [hwrite] at success
        cases hpass : passed.1.1.result <;>
          simp [hpass, StatusUpdater.writeResult, reconcileResult] at success

end Reconciliations

/-! ## A status behind child requests -/

/-- A status that stands in what a request carries. -/
def ApiRequest.carriedStatus? (request : ApiRequest) : Option NodeSetStatus := do
  let payload ← request.payload
  let document ← payload.document.member? "status"
  (NodeSetStatus.format.decode document).toOption

/-- A server that deals answers out, and stores the status that a patch carries. -/
def storeStatus (request : ApiRequest) (state : List ApiAnswer × Option NodeSetStatus) :
    ApiAnswer × List ApiAnswer × Option NodeSetStatus :=
  match request.method, request.carriedStatus? with
  | .patch, some status =>
      (objectAnswer NodeSet.type { oneNode with status := some status }, state.1, some status)
  | _, _ =>
      let (answer, rest) := dealOut request state.1
      (answer, rest, state.2)

theorem storeStatus_of_child {request : ApiRequest} (child : request.method ≠ .patch)
    (state : List ApiAnswer × Option NodeSetStatus) :
    storeStatus request state =
      ((dealOut request state.1).1, (dealOut request state.1).2, state.2) := by
  unfold storeStatus
  cases hmethod : request.method <;> first | rfl | exact absurd hmethod child

theorem storeStatus_statusSent (nodeSet : NodeSet) (status : NodeSetStatus)
    (state : List ApiAnswer × Option NodeSetStatus) :
    storeStatus (nodeSet.statusSent status) state =
      (objectAnswer NodeSet.type { oneNode with status := some status }, state.1, some status) := by
  have hcarried : (nodeSet.statusSent status).carriedStatus? = some status := by
    have hdecode : NodeSetStatus.format.decode (NodeSetStatus.format.encode status) = .ok status :=
      NodeSetStatus.format_composed.lawful.decode_encode status
    show (NodeSetStatus.format.decode (NodeSetStatus.format.encode status)).toOption = some status
    rw [hdecode]
    rfl
  unfold storeStatus
  rw [hcarried]
  rfl

/-- The reservation of the only node of `oneNode` as it is created. -/
def edpmCreated : IPReservation :=
  (oneNode.childMeta .ipReservation).applyToResource { networks := edpmNode.networks }
    (fresh "openstack" "edpm-0" {})

/-- Answers by which a reservation is created, and awaited while a name service is ready. -/
def firstAnswers : List ApiAnswer :=
  networkPages.map (pageAnswer NetConfig.type) ++
    (Server.notFound .ipReservation "edpm-0" :: objectAnswer IPReservation.type edpmCreated ::
      objectAnswer IPReservation.type edpmCreated :: servicePages.map (pageAnswer DNSService.type))

/-- The requests of a first stage that creates the reservation of `oneNode`. -/
def stageRequests : List ApiRequest :=
  [pageRequest .netConfig "openstack" none, pageRequest .netConfig "openstack" (some "1"),
    pageRequest .netConfig "openstack" (some "2"), readRequest .ipReservation "openstack" "edpm-0",
    createRequest IPReservation.type "openstack" edpmCreated,
    readRequest .ipReservation "openstack" "edpm-0"]

/-- The requests by which the name services are listed. -/
def serviceRequests : List ApiRequest :=
  [pageRequest .dnsService "openstack" none, pageRequest .dnsService "openstack" (some "1")]

theorem runs_create_edpm (behind : List ApiAnswer) :
    ApiScript.Runs dealOut (ApiStore.perform (oneNode.writeCall edpmNode))
      (Server.notFound .ipReservation "edpm-0" :: objectAnswer IPReservation.type edpmCreated ::
        behind) (.ok .created, [.childWrite "IPReservation" .created]) behind
      [readRequest .ipReservation "openstack" "edpm-0",
        createRequest IPReservation.type "openstack" edpmCreated] := by
  obtain ⟨body, hbody, hreason⟩ := Server.notFound_reads .ipReservation "edpm-0"
  obtain ⟨cause, hcause, habsent⟩ :=
    readAnswer_of_absent (show isFailure 404 = true by decide) hreason IPReservation.type.format
  rw [← hbody] at hcause
  exact ApiStore.runs_upsertChild (runs_createOrReplace_absent IPReservation.type_lawful
    (edpm_reachable _) {} _ hcause habsent edpmCreated behind)

theorem runs_firstStage :
    Runs (ApiStore.serveCall (ApiScript.noting dealOut)) (ensureReservations oneNode).run
      (firstAnswers, []) (.ok ([edpmNode], .waiting))
      (servicePages.map (pageAnswer DNSService.type), stageRequests)
      (oneNode.reservationCalls.map Attempt.success) := by
  have hsent : pageSent .netConfig "openstack" = pageRequest .netConfig "openstack" :=
    funext (pageSent_plain (by decide))
  have hstage := runs_stage_oneNode
    (ApiStore.serveCall_noting (ApiStore.runs_listNetConfigs (canList_networkPages
      (firstAnswers.drop 3))) [])
    (ApiStore.serveCall_noting (runs_create_edpm _) _)
    (ApiStore.serveCall_noting (runs_read_edpm edpmCreated _) _)
  rw [hsent] at hstage
  exact hstage

/-- The first pass of `oneNode`: the reservation is created, and not ready yet. -/
theorem runs_firstPass (now : String) :
    ∃ made, Runs (ApiStore.serveCall (ApiScript.noting dealOut))
      (runPass oneNode (.ofNodeSet oneNode) now) (firstAnswers, [])
      ((PassEnding.finished .waiting .waiting).passEnd oneNode (.ofNodeSet oneNode) now)
      ([], stageRequests ++ serviceRequests) made := by
  have hsent : pageSent .dnsService "openstack" = pageRequest .dnsService "openstack" :=
    funext (pageSent_plain (by decide))
  have hservices := ApiStore.serveCall_noting (ApiStore.runs_listDnsServices canList_servicePages)
    stageRequests
  rw [hsent] at hservices
  have hchecked : Runs (ApiStore.serveCall (ApiScript.noting dealOut))
      (checkDnsService oneNode.place).run
      (servicePages.map (pageAnswer DNSService.type), stageRequests)
      (.ok (inspectDnsServices [dnsService])) ([], stageRequests ++ serviceRequests)
      [Attempt.success oneNode.serviceCall] :=
    Runs.andDone (Runs.perform_ok hservices) rfl
  have hwithheld : Withheld [dnsService] .waiting .waiting :=
    .reservationsAwaited ⟨rfl, rfl⟩ rfl
  have hrecords := runs_ensureDnsRecords_withheld [edpmNode]
    (show HasReservations .waiting from trivial) hchecked hwithheld
  exact ⟨_, Runs.bind runs_firstStage (Runs.bindDone hrecords rfl)⟩

theorem oneNode_addressable : oneNode.isAddressable = true := by
  rw [← oneNode.refusal?_statusRequest_eq_none_iff {}]
  exact statusRequest_accepted (by decide) (by decide) (by decide) (by decide) _

/-- How the first pass of `oneNode` ends, over answers by which its reservation is created. -/
def firstEnd (now : String) : PassEnd :=
  (PassEnding.finished .waiting .waiting).passEnd oneNode (.ofNodeSet oneNode) now

theorem firstPass_stored (now : String) :
    ((passOver oneNode now).run storeStatus (firstAnswers, none)).1.1 = firstEnd now ∧
      ((passOver oneNode now).trace storeStatus (firstAnswers, none)).map (·.1) =
        stageRequests ++ serviceRequests := by
  have halike : ∀ request (state : List ApiAnswer × Option NodeSetStatus),
      request.method ≠ .patch →
        dealOut request (Prod.fst state) =
          ((storeStatus request state).1, Prod.fst (storeStatus request state).2) := by
    intro request state child
    rw [storeStatus_of_child child]
  obtain ⟨made, hruns⟩ := runs_firstPass now
  obtain ⟨hended, -, hsent⟩ := hruns.overApi_noted
  obtain ⟨hvalue, -, htrace⟩ := (StoreScript.overApi_uses (runPass oneNode (.ofNodeSet oneNode)
    now)).run_follows halike (firstAnswers, none)
  rw [hvalue] at hended
  rw [htrace] at hsent
  exact ⟨hended, hsent⟩

theorem writeFailure?_storeStatus (updater : StatusUpdater)
    (state : List ApiAnswer × Option NodeSetStatus) :
    updater.writeFailure? oneNode (storeStatus (oneNode.statusSent updater.status) state).1 =
      none := by
  have haccepted := (oneNode.refusal?_statusRequest_eq_none_iff updater.status).2
    oneNode_addressable
  unfold StatusUpdater.writeFailure? NodeSet.statusFailure?
  rw [haccepted, storeStatus_statusSent]
  simp only [readAnswer_objectAnswer NodeSet.type_lawful, ite_self]

/-- The first reconciliation of a node set with a node: its children, and behind them its status. -/
theorem oneNode_stored :
    let now := "2026-01-01T00:00:00Z"
    let before : List ApiAnswer × Option NodeSetStatus := (firstAnswers, none)
    ((reconcileNodeSet oneNode now).run storeStatus before).1.result =
        .ok { reservations := .waiting, dns := .waiting, overall := .waiting } ∧
      ((reconcileNodeSet oneNode now).trace storeStatus before).map (·.1) =
        stageRequests ++ serviceRequests ++
          [oneNode.statusRequest (firstEnd now).updater.status] ∧
      ∃ status, ((reconcileNodeSet oneNode now).run storeStatus before).2.2 = some status ∧
        status.untimed = (firstEnd now).updater.status.untimed := by
  intro now before
  obtain ⟨hended, hsent⟩ := firstPass_stored now
  have fully := reconcileNodeSet_fully storeStatus oneNode now before
  dsimp only at fully
  rw [writeFailure?_storeStatus] at fully
  have hresult : ((reconcileNodeSet oneNode now).run storeStatus before).1.result =
      .ok { reservations := .waiting, dns := .waiting, overall := .waiting } := by
    rw [fully.result, hended, firstEnd, PassEnding.passEnd_result]
    rfl
  refine ⟨hresult, ?_, ?_⟩
  · have hchanged : (firstEnd now).updater.hasChanges = true := rfl
    have hwritten := fully.written (by decide) (by decide) (firstEnd now).updater.status
    rw [fully.exchanges, hended, oneNode_addressable, hchanged, List.map_append, hsent, hwritten]
    rfl
  · have hkept : ∀ request (state : List ApiAnswer × Option NodeSetStatus),
        request.method ≠ .patch → (storeStatus request state).2.2 = state.2 := by
      intro request state child
      rw [storeStatus_of_child child]
    have hstores : ∀ status state value,
        readAnswer NodeSet.type.format (storeStatus (oneNode.statusSent status) state).1 =
          .ok value → (storeStatus (oneNode.statusSent status) state).2.2 = some status := by
      intro status state _ _
      rw [storeStatus_statusSent]
    have hstored := fully.stored (·.2) hkept hstores rfl _ hresult
    rwa [hended] at hstored

/-! ## A status that cannot be sent -/

/-- A node set without nodes. -/
def emptySet (name : String) : NodeSet where
  metadata := { name := some name, ns := some "openstack" }
  spec := {}
  status := none

/-- The pass of a node set without nodes needs no request, and has something to show. -/
theorem emptySet_pass (name now : String) :
    ∃ passed, passOver (emptySet name) now = .done (passed, []) ∧
      passed.updater.hasChanges = true :=
  ⟨_, rfl, rfl⟩

/-- No request about an object is built with a blank in the address. -/
theorem blank_refused (type : ResourceType NodeSetSpec NodeSetStatus) (status : Json) :
    refusal? "ed pm" (Client.statusRequest type "openstack" "ed pm" status) ≠ none := by
  have hpath : (objectPath type.kind "openstack" "ed pm" ++ "/status").toList =
      (objectPath type.kind "openstack" "ed").toList ++ ' ' :: "pm/status".toList := by
    simp [objectPath]
  have hfront : Address.isPlain (objectPath type.kind "openstack" "ed") = true :=
    objectPath_plain (by decide) (by decide) type.kind
  rw [refusal?_of_named (by decide)]
  exact ApiRequest.fault?_of_notPlain hfront hpath (by decide) (by decide)

/--
A status that says something new is not sent where an address would have a blank in it: the first
reconciliation of such a node set sends no request at all, and fails.
-/
theorem blankName_unsent :
    let nodeSet := emptySet "ed pm"
    let passed := (passOver nodeSet "2026-01-01T00:00:00Z").run Server.serve {}
    nodeSet.name ≠ "" ∧ passed.1.1.updater.hasChanges = true ∧
      (reconcileNodeSet nodeSet "2026-01-01T00:00:00Z").trace Server.serve {} = [] := by
  intro nodeSet passed
  obtain ⟨ended, hpass, hchanges⟩ := emptySet_pass "ed pm" "2026-01-01T00:00:00Z"
  have hended : passed.1.1 = ended := by
    simp only [passed, nodeSet, hpass, ApiScript.run]
  have starts : passed.1.1.updater.StartsFrom nodeSet := passOver_startsFrom nodeSet _ _
  have hunsent : passed.1.1.updater.isSent nodeSet = false := by
    have haddress : nodeSet.isAddressable = false := by
      rw [Bool.eq_false_iff, ne_eq, ← nodeSet.refusal?_statusRequest_eq_none_iff {}]
      exact blank_refused NodeSet.type _
    rw [StatusUpdater.isSent, haddress, Bool.and_false]
  refine ⟨by decide, hended ▸ hchanges, ?_⟩
  rw [reconcileNodeSet_trace]
  show (passOver nodeSet _).trace Server.serve {} ++ passed.1.1.updater.apply.trace _ _ = []
  rw [starts.apply_trace, hunsent, hpass]
  rfl

end NodeIdentity
