import NodeIdentity.Proofs.Api.Reconciliation
import NodeIdentity.Proofs.Api.UpsertCounts
import NodeIdentity.Proofs.Pass.Outcome

/-!
# Accounts of reconciliations

What the counters show of a row of reconciliations over any server: every reconciliation once, under
how it ended, and every upsert of its pass that succeeded once, as a write if a create or a replace
succeeded.  How a reconciliation ended decides when it is due again.
-/

namespace NodeIdentity

open ApiScript

variable {σ : Type}

/-- A reconciliation to be done: the node set as it is handed over, the time, and how long it takes. -/
structure Visit where
  nodeSet : NodeSet
  now : String
  nanos : Nat

namespace Visit

/-- The requests of a visit, when its node set is due again, and what is counted. -/
def script (visit : Visit) : ApiScript (Requeue × List Measurement) :=
  reconcileAndRequeue visit.nodeSet visit.now visit.nanos

def pass (visit : Visit) : StoreScript PassEnd :=
  runPass visit.nodeSet (.ofNodeSet visit.nodeSet) visit.now

/-- The requests of visits, one behind the other, and all that is counted. -/
def scripts : List Visit → ApiScript (List Measurement)
  | [] => .done []
  | visit :: rest =>
      visit.script.bind (fun ended => (scripts rest).bind (fun more => .done (ended.2 ++ more)))

/-- The calls of the passes of visits, and which of them failed. -/
def attempts (serve : ApiRequest → σ → ApiAnswer × σ) : List Visit → σ → List Attempt
  | [], _ => []
  | visit :: rest, state =>
      visit.pass.attempts (ApiStore.serveCall serve) state ++
        attempts serve rest (visit.script.run serve state).2

def result (visit : Visit) (serve : ApiRequest → σ → ApiAnswer × σ) (state : σ) :
    Except NetworkError PassOutcome :=
  ((reconcileNodeSet visit.nodeSet visit.now).run serve state).1.result

end Visit

/-- How many reconciliations of node sets are shown to have ended in a way. -/
def reconciliationCount (measured : List Measurement) (result : ReconcileResult) : Nat :=
  (Metrics.reconciliations.counters measured).sum (fun pair =>
    pair = ⟨NodeSet.type.kind.name, result.name⟩)

/-! ## Counted reconciliations -/

/-- The pairs under which reconciliations of node sets are counted. -/
def IsReconciliationPair (pair : Metrics.CountedPair) : Prop :=
  ∃ result : ReconcileResult, pair = ⟨NodeSet.type.kind.name, result.name⟩

theorem reconciliationPairs_toldApart : Metrics.ToldApart IsReconciliationPair := by
  rintro _ _ ⟨result, rfl⟩ ⟨other, rfl⟩ hkey
  cases result <;> cases other <;> first | rfl | exact absurd hkey (by decide)

/-- What is counted of reconciliations: they ended in some ways, in this order. -/
def CountsResults (measured : List Measurement) (results : List ReconcileResult) : Prop :=
  measured.filterMap Metrics.reconciliations.pair? =
    results.map (fun result => ⟨NodeSet.type.kind.name, result.name⟩)

namespace CountsResults

variable {measured more : List Measurement} {results others : List ReconcileResult}

theorem append (first : CountsResults measured results) (second : CountsResults more others) :
    CountsResults (measured ++ more) (results ++ others) := by
  unfold CountsResults at *
  rw [List.filterMap_append, List.map_append, first, second]

theorem sum_counters (h : CountsResults measured results)
    (counts : Metrics.CountedPair → Bool) :
    (Metrics.reconciliations.counters measured).sum counts =
      results.countP (fun result => counts ⟨NodeSet.type.kind.name, result.name⟩) := by
  rw [Metrics.CounterFamily.sum_counters _ reconciliationPairs_toldApart, h, List.countP_map]
  · rfl
  · rw [h]
    intro pair hpair
    obtain ⟨result, -, rfl⟩ := List.mem_map.1 hpair
    exact ⟨result, rfl⟩

theorem count_eq (h : CountsResults measured results) (result : ReconcileResult) :
    reconciliationCount measured result = results.count result := by
  unfold reconciliationCount
  rw [h.sum_counters, List.count_eq_countP]
  refine List.countP_congr (fun other _ => ?_)
  cases other <;> cases result <;> decide

theorem sum_results (h : CountsResults measured results) :
    reconciliationCount measured .success + reconciliationCount measured .error +
      reconciliationCount measured .requeue = results.length := by
  rw [h.count_eq, h.count_eq, h.count_eq]
  clear h
  induction results with
  | nil => rfl
  | cons first rest ih =>
      cases first <;> simp <;> omega

theorem durationCount_eq (h : CountsResults measured results) :
    Metrics.durationCount measured NodeSet.type.kind.name = results.length := by
  rw [Metrics.durationCount_eq, h, List.countP_map, List.countP_eq_length]
  intro result _
  simp

end CountsResults

/-! ## One reconciliation -/

/-- Neither the end of a pass nor the write of a status counts as a reconciliation or an upsert. -/
def Uninvolved (measured : List Measurement) : Prop :=
  measured.filterMap Metrics.reconciliations.pair? = [] ∧
    measured.filterMap Metrics.childUpserts.pair? = []

theorem Uninvolved.append {measured more : List Measurement} (first : Uninvolved measured)
    (second : Uninvolved more) : Uninvolved (measured ++ more) := by
  constructor
  · rw [List.filterMap_append, first.1, second.1, List.append_nil]
  · rw [List.filterMap_append, first.2, second.2, List.append_nil]

theorem StatusUpdater.measurements_uninvolved (updater : StatusUpdater) :
    Uninvolved updater.measurements := by
  unfold StatusUpdater.measurements
  constructor <;>
  · rw [List.filterMap_map, List.filterMap_eq_nil_iff]
    intro transition _
    rfl

theorem statusMeasurements_uninvolved (written : Except NetworkError Unit) :
    Uninvolved (statusMeasurements written) := by
  cases written <;> exact ⟨rfl, rfl⟩

theorem PassEnding.measurements_uninvolved (nodeSet : NodeSet) (updater : StatusUpdater)
    (now : String) (ending : PassEnding) :
    Uninvolved (ending.passEnd nodeSet updater now).measurements := by
  unfold PassEnd.measurements
  refine Uninvolved.append ?_ (StatusUpdater.measurements_uninvolved _)
  cases ending with
  | reservationsFailed e => exact ⟨rfl, rfl⟩
  | recordsFailed reservations e => exact ⟨rfl, rfl⟩
  | finished reservations dns => exact ⟨rfl, rfl⟩

section Visits

variable (serve : ApiRequest → σ → ApiAnswer × σ)

theorem StatusUpdater.apply_writes (updater : StatusUpdater) (state : σ) :
    (updater.apply.trace serve state).countP wroteChild = 0 := by
  have huses : updater.apply.Uses (fun request => request.method = .patch) := by
    unfold StatusUpdater.apply
    split
    · rw [Client.applyStatus_run]
      exact Uses.bind (Client.sendNamed_uses _ _ rfl) (fun _ => .done _)
    · exact .done _
  rw [List.countP_eq_zero]
  intro exchange member
  have hpatch := huses.of_mem_trace member
  have hwrote : wroteChild exchange = false :=
    wroteChild_of_method (by simp [hpatch]) (by simp [hpatch])
  simp [hwrote]

namespace Visit

theorem run_eq (visit : Visit) (state : σ) :
    visit.script.run serve state =
      ((requeueOf (visit.result serve state),
        ((reconcileNodeSet visit.nodeSet visit.now).run serve state).1.measurements ++
          [.reconciliation NodeSet.type.kind.name (resultOf (visit.result serve state))
            visit.nanos]),
        ((reconcileNodeSet visit.nodeSet visit.now).run serve state).2) := by
  unfold script reconcileAndRequeue
  rw [ApiScript.run_bind]
  rfl

theorem trace_eq (visit : Visit) (state : σ) :
    visit.script.trace serve state =
      (reconcileNodeSet visit.nodeSet visit.now).trace serve state := by
  unfold script reconcileAndRequeue
  rw [ApiScript.trace_bind]
  exact List.append_nil _

theorem reconcile_uninvolved (visit : Visit) (state : σ) :
    ∃ upserts rest,
      ((reconcileNodeSet visit.nodeSet visit.now).run serve state).1.measurements =
          upserts ++ rest ∧
        upserts = ((passOver visit.nodeSet visit.now).run serve state).1.2 ∧ Uninvolved rest := by
  obtain ⟨ending, hending⟩ := passOver_ending serve visit.nodeSet visit.now state
  rw [reconcileNodeSet_run]
  refine ⟨_, _, List.append_assoc _ _ _, rfl, ?_⟩
  rw [hending]
  exact (ending.measurements_uninvolved _ _ _).append (statusMeasurements_uninvolved _)

theorem countsResults (visit : Visit) (state : σ) :
    CountsResults (visit.script.run serve state).1.2 [resultOf (visit.result serve state)] := by
  obtain ⟨upserts, rest, hmeasured, hupserts, huninvolved⟩ :=
    visit.reconcile_uninvolved serve state
  unfold CountsResults
  rw [run_eq]
  dsimp only
  rw [hmeasured, hupserts, List.filterMap_append, List.filterMap_append, huninvolved.1]
  unfold passOver
  rw [StoreScript.overApi_measurements (fun _ _ => rfl)]
  rfl

theorem tally (visit : Visit) (state : σ) :
    Tally (visit.script.run serve state).1.2
      ((visit.pass.attempts (ApiStore.serveCall serve) state).countP Attempt.isUpserted)
      ((visit.script.trace serve state).countP wroteChild) := by
  obtain ⟨upserts, rest, hmeasured, hupserts, huninvolved⟩ :=
    visit.reconcile_uninvolved serve state
  have hpass := StoreScript.overApi_tally serve visit.pass state
  -- Behind the upserts stand the end of the pass, the write of the status and the result.
  have hrest : Tally (rest ++ [.reconciliation NodeSet.type.kind.name
      (resultOf (visit.result serve state)) visit.nanos]) 0 0 := by
    apply Tally.none
    rw [List.filterMap_append, huninvolved.2]
    rfl
  have htrace : (visit.script.trace serve state).countP wroteChild =
      (visit.pass.overApi.trace serve state).countP wroteChild := by
    rw [trace_eq, reconcileNodeSet_trace, List.countP_append, StatusUpdater.apply_writes]
    rfl
  rw [run_eq, htrace]
  dsimp only
  rw [hmeasured, hupserts, List.append_assoc]
  exact hpass.append hrest

end Visit

/-! ## Rows of reconciliations -/

namespace Visit

theorem scripts_run_append (visits later : List Visit) (before : σ) :
    (scripts (visits ++ later)).run serve before =
      let first := (scripts visits).run serve before
      let second := (scripts later).run serve first.2
      (first.1 ++ second.1, second.2) := by
  induction visits generalizing before with
  | nil => rfl
  | cons visit rest ih =>
      simp only [List.cons_append, scripts, ApiScript.run_bind, ApiScript.run, ih,
        List.append_assoc]

theorem scripts_countsResults (visits : List Visit) (before : σ) :
    ∃ results, CountsResults ((scripts visits).run serve before).1 results ∧
      results.length = visits.length := by
  induction visits generalizing before with
  | nil => exact ⟨[], rfl, rfl⟩
  | cons visit rest ih =>
      obtain ⟨results, hcounts, hlength⟩ := ih (visit.script.run serve before).2
      refine ⟨resultOf (visit.result serve before) :: results, ?_, by simp [hlength]⟩
      simp only [scripts, ApiScript.run_bind, ApiScript.run]
      exact (visit.countsResults serve before).append hcounts

theorem scripts_tally (visits : List Visit) (before : σ) :
    Tally ((scripts visits).run serve before).1
      ((attempts serve visits before).countP Attempt.isUpserted)
      (((scripts visits).trace serve before).countP wroteChild) := by
  induction visits generalizing before with
  | nil => exact Tally.none rfl
  | cons visit rest ih =>
      have hrest := ih (visit.script.run serve before).2
      have htrace : ((scripts (visit :: rest)).trace serve before).countP wroteChild =
          (visit.script.trace serve before).countP wroteChild +
            ((scripts rest).trace serve (visit.script.run serve before).2).countP wroteChild := by
        simp only [scripts, ApiScript.trace_bind, ApiScript.trace, List.append_nil,
          List.countP_append]
      rw [htrace, attempts, List.countP_append]
      simp only [scripts, ApiScript.run_bind, ApiScript.run]
      exact (visit.tally serve before).append hrest

end Visit

end Visits

/-! ## Ends of reconciliations -/

/-- How a reconciliation ends, what it counts as, and when its node set is due again. -/
inductive Ended : Except NetworkError PassOutcome → ReconcileResult → Requeue → Prop
  | ready {outcome : PassOutcome} (h : outcome.overall = .ready) :
      Ended (.ok outcome) .success ⟨300, none⟩
  | waiting {outcome : PassOutcome} (h : outcome.overall = .waiting) :
      Ended (.ok outcome) .requeue ⟨15, none⟩
  | failed (e : NetworkError) : Ended (.error e) .error ⟨if e.isRetryable then 30 else 120, some e⟩

namespace Ended

variable {result : Except NetworkError PassOutcome} {raised : ReconcileResult} {due : Requeue}

theorem success_iff (ended : Ended result raised due) :
    raised = .success ↔
      due = ⟨300, none⟩ ∧ ∃ outcome, result = .ok outcome ∧ outcome.overall = .ready := by
  cases ended with
  | ready h => simp [h]
  | waiting h => simp [h]
  | failed e => simp

theorem requeue_iff (ended : Ended result raised due) :
    raised = .requeue ↔
      due = ⟨15, none⟩ ∧ ∃ outcome, result = .ok outcome ∧ outcome.overall = .waiting := by
  cases ended with
  | ready h => simp [h]
  | waiting h => simp [h]
  | failed e => simp

theorem error_iff (ended : Ended result raised due) :
    raised = .error ↔
      ∃ e, result = .error e ∧ due = ⟨if e.isRetryable then 30 else 120, some e⟩ := by
  cases ended with
  | ready h => simp
  | waiting h => simp
  | failed e => simp

theorem due_of_conflict {e : NetworkError} (ended : Ended (.error e) raised due)
    (conflict : e.isConflict = true) : due = ⟨30, some e⟩ := by
  have hretryable : e.isRetryable = true := Cause.isRetryable_of_isConflict conflict
  cases ended with
  | failed => rw [if_pos hretryable]

end Ended

/-- A reconciliation that succeeds left everything ready, or waits for something. -/
theorem overall_of_reconciled {serve : ApiRequest → σ → ApiAnswer × σ} {nodeSet : NodeSet}
    {now : String} {state : σ} {outcome : PassOutcome}
    (h : ((reconcileNodeSet nodeSet now).run serve state).1.result = .ok outcome) :
    outcome.overall = .ready ∨ outcome.overall = .waiting := by
  obtain ⟨ending, hending⟩ := passOver_ending serve nodeSet now state
  rw [reconcileNodeSet_run] at h
  dsimp only at h
  rw [hending, ending.passEnd_result] at h
  cases ending with
  | reservationsFailed e => cases h
  | recordsFailed reservations e => cases h
  | finished reservations dns =>
      have hoverall := ConditionState.overallState_ofReadiness reservations dns
      unfold PassEnding.result reconcileResult at h
      dsimp only at h
      split at h
      · cases h
      · cases h
        dsimp only
        rw [hoverall]
        split
        · exact Or.inr rfl
        · exact Or.inl rfl

theorem Visit.ended (serve : ApiRequest → σ → ApiAnswer × σ) (visit : Visit) (state : σ) :
    Ended (visit.result serve state) (resultOf (visit.result serve state))
      (visit.script.run serve state).1.1 := by
  have hoverall : ∀ outcome, visit.result serve state = .ok outcome →
      outcome.overall = .ready ∨ outcome.overall = .waiting :=
    fun outcome h => overall_of_reconciled h
  rw [visit.run_eq]
  generalize visit.result serve state = result at hoverall
  cases result with
  | error e => exact .failed e
  | ok outcome =>
      rcases hoverall outcome rfl with h | h
      · have hwaiting : outcome.isWaiting = false := by
          simp [PassOutcome.isWaiting, ConditionState.isPending, h]
        have hended := Ended.ready h
        simpa [resultOf, requeueOf, PassOutcome.requeueSeconds, hwaiting] using hended
      · have hwaiting : outcome.isWaiting = true := by
          simp [PassOutcome.isWaiting, ConditionState.isPending, h]
        have hended := Ended.waiting h
        simpa [resultOf, requeueOf, PassOutcome.requeueSeconds, hwaiting] using hended

/-! ## Accounts -/

section Accounts

variable (serve : ApiRequest → σ → ApiAnswer × σ) (visits : List Visit) (before : σ)

def measuredOf : List Measurement :=
  ((Visit.scripts visits).run serve before).1

def stateBehind : σ :=
  ((Visit.scripts visits).run serve before).2

/-- Whether one more visit raises the counter of a result by one. -/
def Raises (visit : Visit) (result : ReconcileResult) : Prop :=
  reconciliationCount (measuredOf serve (visits ++ [visit]) before) result =
    reconciliationCount (measuredOf serve visits before) result + 1

/-- What one more visit does to the counters, and when its node set is due again. -/
structure RaisesOne (visit : Visit) : Prop where
  /-- One of the three counters is raised by one, and the others stay as they are. -/
  one : ∃ raised, Raises serve visits before visit raised ∧ ∀ other, other ≠ raised →
    reconciliationCount (measuredOf serve (visits ++ [visit]) before) other =
      reconciliationCount (measuredOf serve visits before) other
  success : Raises serve visits before visit .success ↔
    (visit.script.run serve (stateBehind serve visits before)).1.1 = ⟨300, none⟩ ∧
      ∃ outcome, visit.result serve (stateBehind serve visits before) = .ok outcome ∧
        outcome.overall = .ready
  requeue : Raises serve visits before visit .requeue ↔
    (visit.script.run serve (stateBehind serve visits before)).1.1 = ⟨15, none⟩ ∧
      ∃ outcome, visit.result serve (stateBehind serve visits before) = .ok outcome ∧
        outcome.overall = .waiting
  error : Raises serve visits before visit .error ↔
    ∃ e, visit.result serve (stateBehind serve visits before) = .error e ∧
      (visit.script.run serve (stateBehind serve visits before)).1.1 =
        ⟨if e.isRetryable then 30 else 120, some e⟩
  /-- A conflict is tried again soon. -/
  conflict : ∀ e, visit.result serve (stateBehind serve visits before) = .error e →
    e.isConflict = true →
      (visit.script.run serve (stateBehind serve visits before)).1.1 = ⟨30, some e⟩

/-- What the counters show of some visits, one behind the other. -/
structure Accounted : Prop where
  /-- Every reconciliation is counted once. -/
  reconciliations :
    reconciliationCount (measuredOf serve visits before) .success +
      reconciliationCount (measuredOf serve visits before) .error +
        reconciliationCount (measuredOf serve visits before) .requeue = visits.length
  /-- Every reconciliation has its duration. -/
  durations :
    Metrics.durationCount (measuredOf serve visits before) NodeSet.type.kind.name = visits.length
  /-- Every reconciliation is counted under how it ended. -/
  each : ∀ earlier visit later, visits = earlier ++ visit :: later →
    RaisesOne serve earlier before visit
  /-- All samples of upserts together are the upserts that succeeded in the passes. -/
  upserts :
    (Metrics.childUpserts.counters (measuredOf serve visits before)).sum (fun _ => true) =
      (Visit.attempts serve visits before).countP Attempt.isUpserted
  /-- Those for what was created and updated are the creates and replaces that succeeded. -/
  writes :
    (Metrics.childUpserts.counters (measuredOf serve visits before)).sum countsWrite =
      ((Visit.scripts visits).trace serve before).countP wroteChild
  /-- A call that fails is not among them. -/
  failed : ∀ call state, (causeOf (ApiStore.serveCall serve call state).1).isSome = true →
    ((ApiStore.perform call).run serve state).1.2 = []


theorem reconciliationCount_append (visit : Visit) (result : ReconcileResult) :
    reconciliationCount (measuredOf serve (visits ++ [visit]) before) result =
      reconciliationCount (measuredOf serve visits before) result +
        if result = resultOf (visit.result serve (stateBehind serve visits before)) then 1
        else 0 := by
  -- A visit more counts one result more, and what is counted is read off the results alone.
  obtain ⟨results, hcounts, -⟩ := Visit.scripts_countsResults serve visits before
  have hfirst : CountsResults (measuredOf serve visits before) results := hcounts
  have hlast := visit.countsResults serve (stateBehind serve visits before)
  have hmeasured : measuredOf serve (visits ++ [visit]) before =
      measuredOf serve visits before ++
        (visit.script.run serve (stateBehind serve visits before)).1.2 := by
    unfold measuredOf stateBehind
    rw [Visit.scripts_run_append]
    simp only [Visit.scripts, ApiScript.run_bind, ApiScript.run, List.append_nil]
  rw [hmeasured, (hfirst.append hlast).count_eq, hfirst.count_eq, List.count_append]
  congr 1
  by_cases hresult : result = resultOf (visit.result serve (stateBehind serve visits before))
  · simp [hresult]
  · rw [if_neg hresult, List.count_eq_zero, List.mem_singleton]
    exact hresult

theorem raises_iff (visit : Visit) (result : ReconcileResult) :
    Raises serve visits before visit result ↔
      resultOf (visit.result serve (stateBehind serve visits before)) = result := by
  unfold Raises
  rw [reconciliationCount_append]
  split
  · rename_i hresult
    exact iff_of_true rfl hresult.symm
  · rename_i hresult
    exact iff_of_false (by omega) (fun h => hresult h.symm)

theorem raisesOne (visit : Visit) : RaisesOne serve visits before visit := by
  have hended := visit.ended serve (stateBehind serve visits before)
  have hcount := reconciliationCount_append serve visits before visit
  have hraises := raises_iff serve visits before visit
  constructor
  case one =>
    refine ⟨_, (hraises _).2 rfl, fun other hother => ?_⟩
    rw [hcount, if_neg hother, Nat.add_zero]
  case success => exact (hraises _).trans hended.success_iff
  case requeue => exact (hraises _).trans hended.requeue_iff
  case error => exact (hraises _).trans hended.error_iff
  case conflict =>
    intro e hresult conflict
    rw [hresult] at hended
    exact hended.due_of_conflict conflict

end Accounts

/-- The counters account for every row of reconciliations, whatever is answered. -/
theorem reconciliations_accounted (serve : ApiRequest → σ → ApiAnswer × σ) (visits : List Visit)
    (before : σ) : Accounted serve visits before := by
  obtain ⟨results, hcounts, hlength⟩ := Visit.scripts_countsResults serve visits before
  have htally := Visit.scripts_tally serve visits before
  have hsum := Metrics.CounterFamily.sum_counters Metrics.childUpserts childPairs_toldApart
    htally.pairs
  constructor
  case reconciliations => exact hcounts.sum_results.trans hlength
  case durations => exact hcounts.durationCount_eq.trans hlength
  case each =>
    intro earlier visit later _
    exact raisesOne serve earlier before visit
  case upserts =>
    rw [← htally.upserts]
    exact (hsum _).trans (congrFun List.countP_true _)
  case writes =>
    rw [← htally.writes]
    exact hsum countsWrite
  case failed =>
    intro call state failed
    exact ApiStore.perform_failed serve call state failed

end NodeIdentity
