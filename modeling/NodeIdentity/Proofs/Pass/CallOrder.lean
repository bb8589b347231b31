import NodeIdentity.Proofs.Pass.Gates

/-!
# Order of calls

A pass makes its calls in one fixed order, of which it takes a beginning: it stops at the first call
that fails, and otherwise at the first gate that is closed.  A failure that a pass ends with is that
of its last call.
-/

namespace NodeIdentity

open StoreScript MemoryStore

/-! ## Failures and calls -/

/-- The namespace that a failure names. -/
def NetworkError.ns : NetworkError → String
  | .list _ ns _ | .get _ ns _ _ | .persist _ ns _ _ | .statusUpdate _ ns _ _ => ns

/-- The object that a failure names, if it does. -/
def NetworkError.name? : NetworkError → Option String
  | .list .. => none
  | .get _ _ name _ | .persist _ _ name _ | .statusUpdate _ _ name _ => some name

namespace StoreCall

/-- The category under which the failure of a call is counted. -/
def failureCategory : StoreCall → String
  | listNetConfigs _ | listDnsServices _ => "list_error"
  | getReservation .. | getRecordSet .. => "get_error"
  | upsertReservation .. | upsertRecordSet .. => "persist_error"

theorem failed_category (request : StoreCall) (cause : Cause) :
    (request.failed cause).category = request.failureCategory := by
  cases request <;> rfl

theorem failed_kind (request : StoreCall) (cause : Cause) :
    (request.failed cause).kind = request.kind.name := by
  cases request <;> rfl

theorem failed_ns (request : StoreCall) (cause : Cause) :
    (request.failed cause).ns = request.ns := by
  cases request <;> rfl

theorem failed_cause (request : StoreCall) (cause : Cause) :
    (request.failed cause).cause = cause := by
  cases request <;> rfl

theorem failed_name? (request : StoreCall) (cause : Cause) :
    (request.failed cause).name? = request.name? := by
  cases request <;> rfl

/-- A call concerns name services or record sets. -/
def IsDns (request : StoreCall) : Prop :=
  request.kind = .dnsService ∨ request.kind = .dnsRecordSet

end StoreCall

/-! ## Failing fast -/

/-- All attempts succeeded. -/
def AllSucceeded (made : List Attempt) : Prop :=
  ∀ attempt ∈ made, attempt.failure = none

theorem allSucceeded_map_success (requests : List StoreCall) :
    AllSucceeded (requests.map Attempt.success) := by
  intro attempt h
  obtain ⟨request, -, rfl⟩ := List.mem_map.1 h
  rfl

theorem AllSucceeded.append {made more : List Attempt} (first : AllSucceeded made)
    (second : AllSucceeded more) : AllSucceeded (made ++ more) := by
  intro attempt h
  exact (List.mem_append.1 h).elim (first attempt) (second attempt)

/-- The result is the failure of the last attempt, or none failed; no earlier one did. -/
def FailsFast {α : Type} (result : Except NetworkError α) (made : List Attempt) : Prop :=
  match result with
  | .ok _ => AllSucceeded made
  | .error e => ∃ before request cause, made = before ++ [Attempt.failed request cause] ∧
      AllSucceeded before ∧ e = request.failed cause

namespace FailsFast

variable {α : Type} {result : Except NetworkError α} {made more : List Attempt}

theorem append (h : FailsFast result more) (first : AllSucceeded made) :
    FailsFast result (made ++ more) := by
  cases result with
  | ok value => exact first.append h
  | error e =>
      obtain ⟨before, request, cause, hmade, hbefore, he⟩ := h
      exact ⟨made ++ before, request, cause, by rw [hmade, List.append_assoc],
        first.append hbefore, he⟩

theorem failed {before : List Attempt} (first : AllSucceeded before) (request : StoreCall)
    (cause : Cause) :
    FailsFast (.error (request.failed cause) : Except NetworkError α)
      (before ++ [Attempt.failed request cause]) :=
  ⟨before, request, cause, rfl, first, rfl⟩

end FailsFast

variable {nodeSet : NodeSet} {store after : MemoryStore} {made : List Attempt}

theorem ReservationCourse.failsFast
    {result : Except NetworkError (List PlannedNode × Readiness ReservationMap)}
    (course : ReservationCourse nodeSet store result after made) : FailsFast result made := by
  cases course with
  | unplanned empty => exact allSucceeded_map_success []
  | listFailed planned fault => exact FailsFast.failed (allSucceeded_map_success []) _ _
  | unconfigured planned visible absent => exact allSucceeded_map_success [nodeSet.configCall]
  | writeFailed configured split written fault =>
      exact FailsFast.failed (allSucceeded_map_success _) _ _
  | readFailed configured written split readBack fault =>
      exact FailsFast.failed (allSucceeded_map_success _) _ _
  | reserved configured written readBack => exact allSucceeded_map_success _

section Records

variable {plan : List PlannedNode} {reservations : Readiness ReservationMap}
  {result : Except NetworkError (Readiness NetworkIdentity)}

theorem RecordCourse.failsFast
    (course : RecordCourse nodeSet plan reservations store result after made) :
    FailsFast result made := by
  cases course with
  | unreserved unreserved => exact allSucceeded_map_success []
  | listFailed reserved fault => exact FailsFast.failed (allSucceeded_map_success []) _ _
  | withheld reserved visible withheld => exact allSucceeded_map_success [nodeSet.serviceCall]
  | @writeFailed map addresses cause ready reserved visible serves fault =>
      exact FailsFast.failed (allSucceeded_map_success [nodeSet.serviceCall]) _ _
  | @readFailed map addresses cause ready reserved visible serves written fault =>
      exact FailsFast.failed (allSucceeded_map_success
        [nodeSet.serviceCall, nodeSet.publishCall (recordSpec plan map)]) _ _
  | @published map addresses ready reserved visible serves written readBack =>
      exact allSucceeded_map_success
        [nodeSet.serviceCall, nodeSet.publishCall (recordSpec plan map), nodeSet.servedCall]

end Records

/-- A pass stops at the first failure, and ends with it. -/
theorem PassCourse.failsFast {ending : PassEnding}
    (course : PassCourse nodeSet store ending after made) : FailsFast ending.result made := by
  cases course with
  | reservationsFailed first => exact first.failsFast
  | recordsFailed first second => exact second.failsFast.append first.failsFast
  | finished first second => exact AllSucceeded.append first.failsFast second.failsFast

/-! ## The order -/

namespace NodeSet

/-- The calls of a record stage that goes to its end. -/
def recordCalls (nodeSet : NodeSet) (spec : DNSRecordSetSpec) : List StoreCall :=
  [nodeSet.serviceCall, nodeSet.publishCall spec, nodeSet.servedCall]

/-- The calls of a pass that goes to its end, where a record set is asked for. -/
def passCalls (nodeSet : NodeSet) (spec : DNSRecordSetSpec) : List StoreCall :=
  nodeSet.reservationCalls ++ nodeSet.recordCalls spec

end NodeSet

section Records

variable {plan : List PlannedNode} {reservations : Readiness ReservationMap}
  {result : Except NetworkError (Readiness NetworkIdentity)}

theorem RecordCourse.calls_prefix
    (course : RecordCourse nodeSet plan reservations store result after made) :
    ∃ spec, made.map (·.request) <+: nodeSet.recordCalls spec := by
  unfold NodeSet.recordCalls
  cases course with
  | unreserved unreserved => exact ⟨{}, List.nil_prefix⟩
  | listFailed reserved fault => exact ⟨{}, by simp⟩
  | withheld reserved visible withheld => exact ⟨{}, by simp⟩
  | @writeFailed map addresses cause ready reserved visible serves fault =>
      exact ⟨recordSpec plan map, by simp⟩
  | @readFailed map addresses cause ready reserved visible serves written fault =>
      exact ⟨recordSpec plan map, by simp⟩
  | @published map addresses ready reserved visible serves written readBack =>
      exact ⟨recordSpec plan map, by simp⟩

/-- Without reservations the stage makes no call. -/
theorem RecordCourse.made_eq_nil
    (course : RecordCourse nodeSet plan reservations store result after made)
    (unreserved : ¬ HasReservations reservations) : made = [] := by
  cases course with
  | unreserved _ => rfl
  | listFailed reserved fault => exact absurd reserved unreserved
  | withheld reserved visible withheld => exact absurd reserved unreserved
  | writeFailed ready reserved visible serves fault =>
      subst ready
      exact absurd reserved unreserved
  | readFailed ready reserved visible serves written fault =>
      subst ready
      exact absurd reserved unreserved
  | published ready reserved visible serves written readBack =>
      subst ready
      exact absurd reserved unreserved

end Records

private theorem stages_calls_prefix {plan : List PlannedNode}
    {reservations : Readiness ReservationMap}
    {result : Except NetworkError (Readiness NetworkIdentity)} {middle : MemoryStore}
    {more : List Attempt}
    (first : ReservationCourse nodeSet store (.ok (plan, reservations)) middle made)
    (second : RecordCourse nodeSet plan reservations middle result after more) :
    ∃ spec, (made ++ more).map (·.request) <+: nodeSet.passCalls spec := by
  unfold NodeSet.passCalls
  by_cases reserved : HasReservations reservations
  · have hmade := (first.reservationsRead reserved).made_eq
    obtain ⟨spec, hprefix⟩ := second.calls_prefix
    refine ⟨spec, ?_⟩
    rw [List.map_append, hmade, Attempt.map_request_success]
    exact (List.prefix_append_right_inj _).2 hprefix
  · rw [second.made_eq_nil reserved, List.append_nil]
    exact ⟨{}, first.calls_prefix.trans (List.prefix_append _ _)⟩

/-- A pass makes a beginning of its calls. -/
theorem PassCourse.calls_prefix {ending : PassEnding}
    (course : PassCourse nodeSet store ending after made) :
    ∃ spec, made.map (·.request) <+: nodeSet.passCalls spec := by
  cases course with
  | reservationsFailed first =>
      exact ⟨{}, first.calls_prefix.trans (List.prefix_append _ _)⟩
  | recordsFailed first second => exact stages_calls_prefix first second
  | finished first second => exact stages_calls_prefix first second

/-! ## Where a pass stops -/

/--
Where the calls of a pass that succeeds stop: at the first gate that is closed, given the
reservations that are stored once they were written.
-/
structure StopsAtGate (nodeSet : NodeSet) (store : MemoryStore)
    (reservations : Dict IPReservation) (calls : List StoreCall) : Prop where
  unplanned : planReservations nodeSet.spec = [] → calls = []
  unconfigured : planReservations nodeSet.spec ≠ [] → store.netConfigs = [] →
    calls = [nodeSet.configCall]
  withheld : planReservations nodeSet.spec ≠ [] → store.netConfigs ≠ [] →
    ¬ (AllReady reservations (planReservations nodeSet.spec) ∧ FirstServes store.dnsServices) →
    calls = nodeSet.reservationCalls ++ [nodeSet.serviceCall]
  published : planReservations nodeSet.spec ≠ [] → store.netConfigs ≠ [] →
    AllReady reservations (planReservations nodeSet.spec) → FirstServes store.dnsServices →
    ∃ spec, calls = nodeSet.passCalls spec

/-- A first stage that finds no reservations stops at one of the first two gates. -/
theorem ReservationCourse.stopsAtGate {plan : List PlannedNode}
    {reservations : Readiness ReservationMap}
    (course : ReservationCourse nodeSet store (.ok (plan, reservations)) after made)
    (unreserved : ¬ HasReservations reservations) (stored : Dict IPReservation) :
    StopsAtGate nodeSet store stored (made.map (·.request)) := by
  cases course with
  | unplanned empty =>
      constructor
      case unplanned => exact fun _ => rfl
      case unconfigured => exact fun planned => absurd empty planned
      case withheld => exact fun planned => absurd empty planned
      case published => exact fun planned => absurd empty planned
  | unconfigured planned visible absent =>
      constructor
      case unplanned => exact fun empty => absurd empty planned
      case unconfigured => exact fun _ _ => rfl
      case withheld => exact fun _ present => absurd absent present
      case published => exact fun _ present => absurd absent present
  | reserved configured written readBack =>
      exact absurd configured.hasReservations unreserved

/-- A second stage that finds reservations stops at the gate behind the name service, or never. -/
theorem RecordCourse.stopsAtGate {plan : List PlannedNode}
    {reservations : Readiness ReservationMap} {dns : Readiness NetworkIdentity}
    {middle : MemoryStore} {more : List Attempt}
    (course : RecordCourse nodeSet plan reservations middle (.ok dns) after more)
    (services : middle.dnsServices = store.dnsServices)
    (read : ReservationsRead nodeSet store plan reservations middle made)
    (reserved : HasReservations reservations) :
    StopsAtGate nodeSet store middle.reservations
      (nodeSet.reservationCalls ++ more.map (·.request)) := by
  have hplanned := read.configured.planned
  have hpresent := read.configured.present
  have hwaiting := read.waiting_iff
  rw [read.plan_eq] at hwaiting
  cases course with
  | unreserved unreserved => exact absurd reserved unreserved
  | withheld _ visible withheld =>
      have hclosed : ¬ (AllReady middle.reservations (planReservations nodeSet.spec) ∧
          FirstServes store.dnsServices) := by
        rw [← services]
        rintro ⟨ready, serves⟩
        exact withheld.not_firstServes_or.elim (· serves) (fun h => hwaiting.1 h ready)
      constructor
      case unplanned => exact fun empty => absurd empty hplanned
      case unconfigured => exact fun _ absent => absurd absent hpresent
      case withheld => exact fun _ _ _ => rfl
      case published => exact fun _ _ ready serves => absurd ⟨ready, serves⟩ hclosed
  | @published map addresses ready _ visible serves written readBack =>
      subst ready
      have hready : AllReady middle.reservations (planReservations nodeSet.spec) :=
        read.plan_eq ▸ read.allReady
      have hserves : FirstServes store.dnsServices := services ▸ firstServes_iff.2 ⟨_, serves⟩
      constructor
      case unplanned => exact fun empty => absurd empty hplanned
      case unconfigured => exact fun _ absent => absurd absent hpresent
      case withheld => exact fun _ _ closed => absurd ⟨hready, hserves⟩ closed
      case published => exact fun _ _ _ _ => ⟨recordSpec plan map, rfl⟩

/-- A pass that succeeds stops at the first gate that is closed. -/
theorem PassCourse.stopsAtGate {reservations : Readiness ReservationMap}
    {dns : Readiness NetworkIdentity}
    (course : PassCourse nodeSet store (.finished reservations dns) after made) :
    StopsAtGate nodeSet store after.reservations (made.map (·.request)) := by
  cases course with
  | @finished plan _ _ middle _ made more first second =>
      by_cases reserved : HasReservations reservations
      · have hread := first.reservationsRead reserved
        rw [second.reservations_unchanged, List.map_append, hread.made_eq,
          Attempt.map_request_success]
        exact second.stopsAtGate first.dnsServices_unchanged hread reserved
      · rw [second.made_eq_nil reserved, List.append_nil]
        exact first.stopsAtGate reserved after.reservations

/-! ## Name services and record sets come last -/

theorem ReservationCourse.not_isDns
    {result : Except NetworkError (List PlannedNode × Readiness ReservationMap)}
    (course : ReservationCourse nodeSet store result after made) {attempt : Attempt}
    (member : attempt ∈ made) : ¬ attempt.request.IsDns := by
  intro dns
  rcases course.kind_of_mem member with hkind | hkind
  · exact dns.elim (fun h => nomatch hkind.symm.trans h) (fun h => nomatch hkind.symm.trans h)
  · exact dns.elim (fun h => nomatch hkind.symm.trans h) (fun h => nomatch hkind.symm.trans h)

/-- What comes before a call on name services or record sets behind a first stage. -/
private theorem stages_reserved_before {plan : List PlannedNode}
    {reservations : Readiness ReservationMap}
    {result : Except NetworkError (Readiness NetworkIdentity)} {middle : MemoryStore}
    {more before rest : List Attempt} {attempt : Attempt}
    (first : ReservationCourse nodeSet store (.ok (plan, reservations)) middle made)
    (second : RecordCourse nodeSet plan reservations middle result after more)
    (split : made ++ more = before ++ attempt :: rest) (dns : attempt.request.IsDns) :
    ∀ request ∈ nodeSet.reservationCalls, Attempt.success request ∈ before := by
  have hnot : attempt ∉ made := fun member => first.not_isDns member dns
  by_cases reserved : HasReservations reservations
  · intro request hrequest
    have hsuccess : Attempt.success request ∈ made := by
      rw [(first.reservationsRead reserved).made_eq]
      exact List.mem_map_of_mem hrequest
    -- Either the first stage comes whole before the attempt, or the attempt is one of its own.
    rcases List.append_eq_append_iff.1 split with ⟨others, hbefore, -⟩ | ⟨others, hmade, hrest⟩
    · rw [hbefore]
      exact List.mem_append_left _ hsuccess
    · cases others with
      | nil =>
          rw [hmade, List.append_nil] at hsuccess
          exact hsuccess
      | cons head tail =>
          cases hrest
          exact absurd (hmade ▸ List.mem_append_right _ List.mem_cons_self) hnot
  · rw [second.made_eq_nil reserved, List.append_nil] at split
    exact absurd (split ▸ List.mem_append_right _ List.mem_cons_self) hnot

/-- All reservations are written and read back before any call on name services or record sets. -/
theorem PassCourse.reserved_before {ending : PassEnding} {before rest : List Attempt}
    {attempt : Attempt} (course : PassCourse nodeSet store ending after made)
    (split : made = before ++ attempt :: rest) (dns : attempt.request.IsDns) :
    ∀ request ∈ nodeSet.reservationCalls, Attempt.success request ∈ before := by
  cases course with
  | reservationsFailed first =>
      exact absurd dns
        (first.not_isDns (split ▸ List.mem_append_right _ List.mem_cons_self))
  | recordsFailed first second => exact stages_reserved_before first second split dns
  | finished first second => exact stages_reserved_before first second split dns

/-! ## Passes -/

theorem FailsFast.dropLast {α : Type} {result : Except NetworkError α} {made : List Attempt}
    (h : FailsFast result made) : AllSucceeded made.dropLast := by
  cases result with
  | ok value => exact fun attempt member => h attempt ((List.dropLast_prefix made).subset member)
  | error e =>
      obtain ⟨before, request, cause, rfl, hbefore, -⟩ := h
      rw [List.dropLast_concat]
      exact hbefore

/-- A result is a failure exactly where the last attempt failed. -/
theorem FailsFast.error_iff {α : Type} {result : Except NetworkError α} {made : List Attempt}
    (h : FailsFast result made) :
    (∃ e, result = .error e) ↔
      ∃ request cause, made.getLast? = some (Attempt.failed request cause) := by
  cases result with
  | ok value =>
      constructor
      · rintro ⟨e, he⟩
        cases he
      · rintro ⟨request, cause, hlast⟩
        cases h _ (List.mem_of_getLast? hlast)
  | error e =>
      obtain ⟨before, request, cause, rfl, -, -⟩ := h
      constructor
      · exact fun _ => ⟨request, cause, List.getLast?_concat⟩
      · exact fun _ => ⟨e, rfl⟩

/-- The failure that a result reports is that of the last attempt. -/
theorem FailsFast.error_eq {α : Type} {e : NetworkError} {made : List Attempt}
    (h : FailsFast (.error e : Except NetworkError α) made) {request : StoreCall} {cause : Cause}
    (last : made.getLast? = some (Attempt.failed request cause)) : e = request.failed cause := by
  obtain ⟨before, other, cause', rfl, -, rfl⟩ := h
  rw [List.getLast?_concat] at last
  cases last
  rfl

/-- What is known of the attempts of a pass, from the store that it found, and its end. -/
structure CallsInOrder (nodeSet : NodeSet) (store : MemoryStore)
    (result : Except NetworkError PassOutcome) (after : MemoryStore) (made : List Attempt) :
    Prop where
  /-- The attempts are what the store logs. -/
  logged : after.calls = store.calls ++ made.map (·.request)
  /-- The planned nodes, in whose order calls are made, ascend by their names. -/
  ascending : (planReservations nodeSet.spec).Pairwise (fun a b => a.name < b.name)
  beginning : ∃ spec, made.map (·.request) <+: nodeSet.passCalls spec
  failsLast : AllSucceeded made.dropLast
  error_iff : (∃ e, result = .error e) ↔
    ∃ request cause, made.getLast? = some (Attempt.failed request cause)
  /-- A failure tells which call it was that failed. -/
  reports : ∀ e request cause, result = .error e →
    made.getLast? = some (Attempt.failed request cause) →
    e.category = request.failureCategory ∧ e.kind = request.kind.name ∧ e.ns = request.ns ∧
      e.name? = request.name? ∧ e.cause = cause
  stops : ∀ outcome, result = .ok outcome →
    StopsAtGate nodeSet store after.reservations (made.map (·.request))
  /-- Name services and record sets come behind all reservations. -/
  dnsLast : ∀ before attempt rest, made = before ++ attempt :: rest → attempt.request.IsDns →
    ∀ node ∈ planReservations nodeSet.spec,
      Attempt.success (nodeSet.writeCall node) ∈ before ∧
        Attempt.success (nodeSet.readBackCall node) ∈ before

theorem PassCourse.callsInOrder {ending : PassEnding}
    (course : PassCourse nodeSet store ending after made) :
    CallsInOrder nodeSet store ending.result after made := by
  have hfast := course.failsFast
  constructor
  case logged =>
    obtain ⟨written, hafter⟩ := course.frame
    rw [hafter]
  case ascending => exact planReservations_ascending nodeSet.spec
  case beginning => exact course.calls_prefix
  case failsLast => exact hfast.dropLast
  case error_iff => exact hfast.error_iff
  case reports =>
    intro e request cause hresult hlast
    rw [hresult] at hfast
    rw [hfast.error_eq hlast]
    exact ⟨request.failed_category cause, request.failed_kind cause, request.failed_ns cause,
      request.failed_name? cause, request.failed_cause cause⟩
  case stops =>
    intro outcome hresult
    cases ending with
    | reservationsFailed e => cases hresult
    | recordsFailed reservations e => cases hresult
    | finished reservations dns => exact course.stopsAtGate
  case dnsLast =>
    intro before attempt rest split dns node planned
    have hbefore := course.reserved_before split dns
    constructor
    · apply hbefore
      exact List.mem_cons_of_mem _ (List.mem_append_left _ (List.mem_map_of_mem planned))
    · apply hbefore
      exact List.mem_cons_of_mem _ (List.mem_append_right _ (List.mem_map_of_mem planned))

/--
Every pass makes its calls in the one order and stops at the first that fails, or else at the first
gate that is closed; it fails exactly if its last call did, and its failure tells which one that
was.
-/
theorem runPass_callsInOrder (nodeSet : NodeSet) (updater : StatusUpdater) (now : String)
    (store : MemoryStore) :
    CallsInOrder nodeSet store ((runPass nodeSet updater now).run serve store).1.result
      ((runPass nodeSet updater now).run serve store).2
      ((runPass nodeSet updater now).attempts serve store) := by
  obtain ⟨ending, after, made, course, hruns⟩ := runPass_course nodeSet store
  rw [(hruns updater now).run_eq, (hruns updater now).attempts_eq, PassEnding.passEnd_result]
  exact course.callsInOrder

end NodeIdentity
