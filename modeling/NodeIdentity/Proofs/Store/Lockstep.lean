import NodeIdentity.Proofs.Pass.CallOrder
import NodeIdentity.Proofs.Pass.Conduct
import NodeIdentity.Proofs.Resource.Chosen

/-!
# Scripts in lockstep

Two scripts go in lockstep where they make the same calls as long as the replies to them are alike,
which means that they differ in nothing but what servers set.  Over two stores that reply alike,
both then end alike.  A pass goes in lockstep with itself at any other time.
-/

namespace NodeIdentity

namespace StoreCall

/-- Replies that differ in nothing but what servers set. -/
def LikeReply : (call : StoreCall) → call.Reply → call.Reply → Prop
  | .listNetConfigs _, list, others => list.map Resource.chosen = others.map Resource.chosen
  | .listDnsServices _, list, others => list.map Resource.chosen = others.map Resource.chosen
  | .getReservation _ _, reservation, other =>
      Resource.chosen reservation = Resource.chosen other
  | .getRecordSet _ _, recordSet, other => Resource.chosen recordSet = Resource.chosen other
  | .upsertReservation .., outcome, other => outcome = other
  | .upsertRecordSet .., outcome, other => outcome = other

/-- The outcome that an answer tells, if the call is an upsert and succeeded. -/
def outcome? : (call : StoreCall) → call.Answer → Option UpsertOutcome
  | .upsertReservation .., .ok outcome => some outcome
  | .upsertRecordSet .., .ok outcome => some outcome
  | _, _ => none

theorem LikeReply.outcome?_eq {call : StoreCall} {reply other : call.Reply}
    (like : call.LikeReply reply other) :
    call.outcome? (.ok reply) = call.outcome? (.ok other) := by
  cases call with
  | upsertReservation ns name spec child => exact congrArg some like
  | upsertRecordSet ns name spec child => exact congrArg some like
  | listNetConfigs ns | listDnsServices ns | getReservation ns name | getRecordSet ns name => rfl

end StoreCall

namespace StoreScript

variable {σ τ α β γ δ : Type}

/-- The upserts of a script that succeeded, each with its outcome, in order. -/
def upserts (serve : (request : StoreCall) → σ → request.Answer × σ) :
    StoreScript α → σ → List (StoreCall × UpsertOutcome)
  | done _, _ => []
  | call request next, state =>
      let (answer, state) := serve request state
      ((request.outcome? answer).map (request, ·)).toList ++ upserts serve (next answer) state

/-- Scripts that make the same calls as long as they succeed with like replies, and end alike. -/
inductive Lockstep (Like : α → β → Prop) : StoreScript α → StoreScript β → Prop
  | done {value : α} {other : β} (like : Like value other) :
      Lockstep Like (done value) (done other)
  | call {request : StoreCall} {next : request.Answer → StoreScript α}
      {others : request.Answer → StoreScript β}
      (rest : ∀ reply other, request.LikeReply reply other →
        Lockstep Like (next (.ok reply)) (others (.ok other))) :
      Lockstep Like (call request next) (call request others)

namespace Lockstep

variable {Like : α → β → Prop}

theorem bind {Last : γ → δ → Prop} {script : StoreScript α} {other : StoreScript β}
    {next : α → StoreScript γ} {others : β → StoreScript δ} (first : Lockstep Like script other)
    (rest : ∀ value other, Like value other → Lockstep Last (next value) (others other)) :
    Lockstep Last (script >>= next) (other >>= others) := by
  induction first with
  | done like => exact rest _ _ like
  | call _ ih => exact .call (fun reply other like => ih reply other like)

/-- Results of actions that succeeded with like values. -/
def LikeOk (Like : α → β → Prop) (result : Except NetworkError α)
    (other : Except NetworkError β) : Prop :=
  ∃ value value', result = .ok value ∧ other = .ok value' ∧ Like value value'

theorem succeed {value : α} {other : β} (like : Like value other) :
    Lockstep (LikeOk Like) (pure value : StoreAction α).run (pure other : StoreAction β).run :=
  .done ⟨value, other, rfl, rfl, like⟩

theorem perform (request : StoreCall) :
    Lockstep (LikeOk request.LikeReply) (StoreAction.perform request).run
      (StoreAction.perform request).run :=
  .call (fun reply other like => .done ⟨reply, other, rfl, rfl, like⟩)

theorem andThen {Last : γ → δ → Prop} {action : StoreAction α} {other : StoreAction β}
    {next : α → StoreAction γ} {others : β → StoreAction δ}
    (first : Lockstep (LikeOk Like) action.run other.run)
    (rest : ∀ value other, Like value other →
      Lockstep (LikeOk Last) (next value).run (others other).run) :
    Lockstep (LikeOk Last) (action >>= next).run (other >>= others).run := by
  refine bind first ?_
  rintro _ _ ⟨value, value', rfl, rfl, like⟩
  exact rest value value' like

/--
Where each call that succeeds on the second state succeeds on the first one with a like reply, and
leaves related states behind, scripts in lockstep end alike if none of the second one's calls fails.
-/
theorem run {script : StoreScript α} {other : StoreScript β} (lockstep : Lockstep Like script other)
    {serve : (request : StoreCall) → σ → request.Answer × σ}
    {serve' : (request : StoreCall) → τ → request.Answer × τ}
    {allowed : StoreCall → Prop} {Related : σ → τ → Prop} (uses : other.Uses allowed)
    (step : ∀ request state state', allowed request → Related state state' →
      ∀ reply', (serve' request state').1 = .ok reply' →
        ∃ reply, (serve request state).1 = .ok reply ∧ request.LikeReply reply reply' ∧
          Related (serve request state).2 (serve' request state').2)
    {state : σ} {state' : τ} (succeeded : AllSucceeded (other.attempts serve' state'))
    (related : Related state state') :
    Like (script.run serve state).1 (other.run serve' state').1 ∧
      Related (script.run serve state).2 (other.run serve' state').2 ∧
      script.upserts serve state = other.upserts serve' state' := by
  induction lockstep generalizing state state' with
  | done like => exact ⟨like, related, rfl⟩
  | @call request next others _ ih =>
      have hmade : causeOf (serve' request state').1 = none :=
        succeeded ⟨request, causeOf (serve' request state').1⟩ List.mem_cons_self
      have hrest : AllSucceeded
          ((others (serve' request state').1).attempts serve' (serve' request state').2) :=
        fun attempt member => succeeded attempt (List.mem_cons_of_mem _ member)
      cases hreply' : (serve' request state').1 with
      | error cause => rw [hreply'] at hmade; cases hmade
      | ok reply' =>
          obtain ⟨reply, hreply, hlike, hrelated⟩ :=
            step request state state' uses.1 related reply' hreply'
          rw [hreply'] at hrest
          obtain ⟨hvalue, hafter, hupserts⟩ :=
            ih reply reply' hlike (uses.2 (.ok reply')) hrest hrelated
          simp only [StoreScript.run, upserts, hreply, hreply']
          exact ⟨hvalue, hafter, by rw [hlike.outcome?_eq, hupserts]⟩

end Lockstep

end StoreScript

/-! ## Passes -/

open StoreScript Lockstep

theorem syncReservations_lockstep (ns : String) (child : ChildMeta) (plan : List PlannedNode) :
    Lockstep (LikeOk Eq) (syncReservations ns child plan).run
      (syncReservations ns child plan).run := by
  induction plan with
  | nil => exact succeed rfl
  | cons node rest ih =>
      refine andThen (perform _) (fun outcome other same => ?_)
      refine andThen ih (fun written written' hwritten => ?_)
      have houtcome : outcome = other := same
      exact succeed (by rw [houtcome, hwritten])

theorem readBackReservations_lockstep (ns : String) (plan : List PlannedNode) :
    Lockstep (LikeOk (fun list others : List IPReservation =>
        list.map Resource.chosen = others.map Resource.chosen))
      (readBackReservations ns plan).run (readBackReservations ns plan).run := by
  induction plan with
  | nil => exact succeed rfl
  | cons node rest ih =>
      refine andThen (perform _) (fun reservation other same => ?_)
      refine andThen ih (fun list others hrest => ?_)
      have hfirst : Resource.chosen reservation = Resource.chosen other := same
      exact succeed (by rw [List.map_cons, List.map_cons, hfirst, hrest])

theorem ensureReservations_lockstep (nodeSet : NodeSet) :
    Lockstep (LikeOk Eq) (ensureReservations nodeSet).run (ensureReservations nodeSet).run := by
  unfold ensureReservations
  dsimp only
  split
  · exact succeed rfl
  · refine andThen (perform _) (fun list others same => ?_)
    have hlist : list.map Resource.chosen = others.map Resource.chosen := same
    have hempty : list.isEmpty = others.isEmpty := by
      rw [← List.isEmpty_map (f := Resource.chosen), hlist, List.isEmpty_map]
    rw [hempty]
    split
    · exact succeed rfl
    · refine andThen (syncReservations_lockstep _ _ _) (fun _ _ _ => ?_)
      refine andThen (readBackReservations_lockstep _ _) (fun found found' hfound => ?_)
      exact succeed (by rw [aggregateReservations_congr hfound])

theorem publishRecords_lockstep (nodeSet : NodeSet) (plan : List PlannedNode)
    (reservations : ReservationMap) (addresses : DnsAddresses) :
    Lockstep (LikeOk Eq) (publishRecords nodeSet plan reservations addresses).run
      (publishRecords nodeSet plan reservations addresses).run := by
  unfold publishRecords
  dsimp only
  refine andThen (perform _) (fun _ _ _ => ?_)
  refine andThen (perform _) (fun recordSet other same => ?_)
  have hchosen : Resource.chosen recordSet = Resource.chosen other := same
  have hstatus := Resource.status_of_chosen hchosen
  have hserved : DNSRecordSet.isServed recordSet = DNSRecordSet.isServed other := by
    unfold DNSRecordSet.isServed
    rw [hstatus]
  rw [hserved]
  split <;> exact succeed rfl

theorem ensureDnsRecords_lockstep (nodeSet : NodeSet) (plan : List PlannedNode)
    (reservations : Readiness ReservationMap) :
    Lockstep (LikeOk Eq) (ensureDnsRecords nodeSet plan reservations).run
      (ensureDnsRecords nodeSet plan reservations).run := by
  unfold ensureDnsRecords
  dsimp only
  split
  · exact succeed rfl
  · have hservice : Lockstep (LikeOk Eq) (checkDnsService nodeSet.place).run
        (checkDnsService nodeSet.place).run :=
      andThen (perform _) (fun list others same => succeed (inspectDnsServices_congr same))
    refine andThen hservice (fun readiness _ same => ?_)
    subst same
    cases readiness with
    | notApplicable => exact succeed rfl
    | waiting => exact succeed rfl
    | ready addresses =>
        dsimp only
        split
        · exact succeed rfl
        · split
          · exact succeed rfl
          · exact publishRecords_lockstep nodeSet plan _ addresses

/-- A pass goes in lockstep with itself at another time, from a status that was the same but for
times. -/
theorem runPass_lockstep (nodeSet : NodeSet) {updater other : StatusUpdater}
    (same : updater.status.untimed = other.status.untimed) (now later : String) :
    Lockstep PassEnd.Like (runPass nodeSet updater now) (runPass nodeSet other later) := by
  have hlike (ending : PassEnding) : (ending.passEnd nodeSet updater now).Like
      (ending.passEnd nodeSet other later) :=
    ⟨by rw [ending.passEnd_result, ending.passEnd_result],
      ending.passEnd_untimed same nodeSet now later⟩
  refine Lockstep.bind (ensureReservations_lockstep nodeSet) ?_
  rintro _ _ ⟨⟨plan, reservations⟩, _, rfl, rfl, rfl⟩
  refine Lockstep.bind (ensureDnsRecords_lockstep nodeSet plan reservations) ?_
  rintro _ _ ⟨dns, _, rfl, rfl, rfl⟩
  exact .done (hlike (.finished reservations dns))

/-! ## Faultless passes -/

/-- On a store that makes no call fail, every call of a pass succeeds. -/
theorem runPass_allSucceeded (nodeSet : NodeSet) (updater : StatusUpdater) (now : String)
    {store : MemoryStore} (faultless : ∀ request, store.faults request = none) :
    AllSucceeded ((runPass nodeSet updater now).attempts MemoryStore.serve store) := by
  obtain ⟨ending, after, made, course, hruns⟩ := runPass_course nodeSet store
  rw [(hruns updater now).attempts_eq]
  have hfast := course.failsFast
  cases course with
  | finished first second => exact hfast
  | reservationsFailed first =>
      cases first <;> rename_i fault <;> simp [faultless] at fault
  | @recordsFailed plan reservations e middle after made more first second =>
      obtain ⟨written, hmiddle⟩ := first.frame
      have hfaults (request : StoreCall) : middle.faults request = none := by
        rw [hmiddle]
        exact faultless request
      cases second <;> rename_i fault <;> simp [hfaults] at fault

end NodeIdentity
