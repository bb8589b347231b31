import NodeIdentity.Api.Repository
import NodeIdentity.Metrics.Exposition
import NodeIdentity.Proofs.Api.Requests
import NodeIdentity.Proofs.Pass.Conduct

/-!
# Calls over an API server

A script of calls over an API server ends as the script can end on any store, sends only requests
that fulfil its calls, and counts nothing but upserts that succeeded.  None of its requests is a
patch: children are read, created and replaced.
-/

namespace NodeIdentity

open ApiScript Client

section

variable {σ α : Type} {serve : ApiRequest → σ → ApiAnswer × σ}

/-! ## Calls -/

/-- A server answers a call by answering the requests that fulfil it. -/
def ApiStore.serveCall (serve : ApiRequest → σ → ApiAnswer × σ) (call : StoreCall) (state : σ) :
    call.Answer × σ :=
  let (answered, after) := (perform call).run serve state
  (answered.1, after)

namespace ApiStore

variable {state after : σ} {sent : List ApiRequest}

theorem serveCall_eq {call : StoreCall} {answer : call.Answer} {counted : List Measurement}
    (runs : (perform call).run serve state = ((answer, counted), after)) :
    serveCall serve call state = (answer, after) := by
  unfold serveCall
  rw [runs]

theorem runs_uncounted {action : ApiAction α} {answer : Except Cause α}
    (runs : ApiScript.Runs serve action.run state answer after sent) :
    ApiScript.Runs serve (uncounted action) state (answer, []) after sent :=
  runs.bindDone rfl

theorem runs_upsertChild {ρ τ : Type} {type : ResourceType ρ τ} {ns name : String} {blank spec : ρ}
    {child : ChildMeta} {outcome : UpsertOutcome}
    (runs : ApiScript.Runs serve
      (createOrReplace type ns name blank (child.applyToResource spec)).run state (.ok outcome)
      after sent) :
    ApiScript.Runs serve (upsertChild type ns name blank spec child) state
      (.ok outcome, [.childWrite type.kind.name outcome]) after sent :=
  runs.bindDone rfl

/-- The requests of a call are noted behind those of the calls before. -/
theorem serveCall_noting {call : StoreCall} {answer : call.Answer} {counted : List Measurement}
    (runs : ApiScript.Runs serve (perform call) state (answer, counted) after sent)
    (earlier : List ApiRequest) :
    serveCall (noting serve) call (state, earlier) = (answer, after, earlier ++ sent) := by
  have hrun : (perform call).run (noting serve) (state, earlier) =
      ((answer, counted), after, earlier ++ sent) := by
    rw [run_noting, runs.run_eq, runs.sent_eq]
  exact serveCall_eq hrun

end ApiStore

theorem StoreScript.overApi_run (serve : ApiRequest → σ → ApiAnswer × σ) (script : StoreScript α)
    (state : σ) :
    (script.overApi.run serve state).1.1 = (script.run (ApiStore.serveCall serve) state).1 ∧
      (script.overApi.run serve state).2 = (script.run (ApiStore.serveCall serve) state).2 := by
  induction script generalizing state with
  | done value => exact ⟨rfl, rfl⟩
  | call request next ih =>
      unfold StoreScript.overApi
      rw [ApiScript.run_bind, ApiScript.run_bind]
      exact ih _ _

/-- Calls that are followed over a server that notes its requests tell all requests of a script. -/
theorem StoreScript.Runs.overApi_noted {script : StoreScript α} {value : α} {state after : σ}
    {sent : List ApiRequest} {made : List Attempt}
    (runs : StoreScript.Runs (ApiStore.serveCall (noting serve)) script (state, []) value
      (after, sent) made) :
    (script.overApi.run serve state).1.1 = value ∧ (script.overApi.run serve state).2 = after ∧
      (script.overApi.trace serve state).map (·.1) = sent := by
  obtain ⟨hvalue, hstate⟩ := script.overApi_run (noting serve) (state, [])
  rw [run_noting, runs.run_eq] at hvalue hstate
  exact ⟨hvalue, congrArg Prod.fst hstate, congrArg Prod.snd hstate⟩

/-! ## Ends -/

/-- Over a server, too, a script ends with a value that it can end with whatever is answered. -/
theorem StoreScript.EndsIn.overApi {script : StoreScript α} {post : α → Prop}
    (h : script.EndsIn post) (state : σ) : post (script.overApi.run serve state).1.1 := by
  induction script generalizing state with
  | done value => exact h
  | call request next ih =>
      unfold StoreScript.overApi
      rw [ApiScript.run_bind, ApiScript.run_bind]
      exact ih _ (h _) _

/-! ## Requests -/

/-- The requests that fulfil a call write no status. -/
theorem ApiStore.perform_uses (call : StoreCall) :
    (ApiStore.perform call).Uses (fun request => request.method ≠ .patch) := by
  have plain {β : Type} {action : ApiAction β}
      (h : action.run.Uses (fun request => request.method ≠ .patch)) :
      (ApiStore.uncounted action).Uses (fun request => request.method ≠ .patch) :=
    Uses.bind h (fun _ => .done _)
  cases call with
  | listNetConfigs ns => exact plain (listAll_uses _ _ (by simp [pageRequest]))
  | listDnsServices ns => exact plain (listAll_uses _ _ (by simp [pageRequest]))
  | getReservation ns name =>
      refine plain ?_
      rw [get_run]
      exact sendNamed_uses _ _ (by simp [readRequest])
  | getRecordSet ns name =>
      refine plain ?_
      rw [get_run]
      exact sendNamed_uses _ _ (by simp [readRequest])
  | upsertReservation ns name spec child =>
      refine Uses.bind (createOrReplace_uses _ _ _ _ _ ?_ ?_ ?_) (fun _ => .done _)
      · simp [readRequest]
      · simp [createRequest]
      · simp [replaceRequest]
  | upsertRecordSet ns name spec child =>
      refine Uses.bind (createOrReplace_uses _ _ _ _ _ ?_ ?_ ?_) (fun _ => .done _)
      · simp [readRequest]
      · simp [createRequest]
      · simp [replaceRequest]

theorem StoreScript.overApi_uses (script : StoreScript α) :
    script.overApi.Uses (fun request => request.method ≠ .patch) := by
  induction script with
  | done value => exact .done _
  | call request next ih =>
      exact ApiScript.Uses.bind (ApiStore.perform_uses request)
        (fun answered => ApiScript.Uses.bind (ih answered.1) (fun _ => .done _))

/-! ## Measurements -/

section

variable {β : Type} {count : Measurement → Option β}

/-- Calls count nothing but upserts. -/
theorem ApiStore.perform_measurements
    (spared : ∀ kind outcome, count (.childWrite kind outcome) = none) (call : StoreCall)
    (state : σ) :
    ((ApiStore.perform call).run serve state).1.2.filterMap count = [] := by
  have upsert {τ : Type} {σ' : Type} (type : ResourceType σ' τ) (ns name : String)
      (blank spec : σ') (child : ChildMeta) :
      ((ApiStore.upsertChild type ns name blank spec child).run serve
        state).1.2.filterMap count = [] := by
    unfold ApiStore.upsertChild
    rw [ApiScript.run_bind]
    simp only [ApiScript.run]
    split
    · rw [List.filterMap_cons, spared]
      rfl
    · rfl
  cases call with
  | upsertReservation ns name spec child => exact upsert ..
  | upsertRecordSet ns name spec child => exact upsert ..
  | listNetConfigs ns | listDnsServices ns | getReservation ns name | getRecordSet ns name =>
      simp only [ApiStore.perform, ApiStore.uncounted, run_bind]
      rfl

theorem StoreScript.overApi_measurements
    (spared : ∀ kind outcome, count (.childWrite kind outcome) = none)
    (script : StoreScript α) (state : σ) :
    (script.overApi.run serve state).1.2.filterMap count = [] := by
  induction script generalizing state with
  | done value => rfl
  | call request next ih =>
      unfold StoreScript.overApi
      rw [ApiScript.run_bind, ApiScript.run_bind]
      simp only [ApiScript.run, List.filterMap_append, ApiStore.perform_measurements spared,
        List.nil_append]
      exact ih _ _

end

end

end NodeIdentity
