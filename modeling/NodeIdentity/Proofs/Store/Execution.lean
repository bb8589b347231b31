import NodeIdentity.Store.Script

/-!
# Execution of scripts

`Runs` says at once with which value a script ends, on which state, and after which attempts: the
calls that it made, each with the cause of its failure if it failed.  Executions compose with their
attempts, so an execution of a script is put together from those of its parts.  An action gives up
with the first failure, and goes on otherwise.  `Begins` says only with which calls a script begins.
-/

namespace NodeIdentity

/-- The cause in an answer. -/
def causeOf {α : Type} : Except Cause α → Option Cause
  | .ok _ => none
  | .error cause => some cause

/-- A call that was made, and the cause of its failure if it failed. -/
structure Attempt where
  request : StoreCall
  failure : Option Cause

/-- An attempt at a call that succeeded. -/
def Attempt.success (request : StoreCall) : Attempt where
  request := request
  failure := none

/-- An attempt at a call that failed. -/
def Attempt.failed (request : StoreCall) (cause : Cause) : Attempt where
  request := request
  failure := some cause

@[simp] theorem Attempt.success_request (request : StoreCall) :
    (Attempt.success request).request = request := rfl

@[simp] theorem Attempt.success_failure (request : StoreCall) :
    (Attempt.success request).failure = none := rfl

@[simp] theorem Attempt.failed_request (request : StoreCall) (cause : Cause) :
    (Attempt.failed request cause).request = request := rfl

@[simp] theorem Attempt.failed_failure (request : StoreCall) (cause : Cause) :
    (Attempt.failed request cause).failure = some cause := rfl

@[simp] theorem Attempt.map_request_success (requests : List StoreCall) :
    (requests.map Attempt.success).map (·.request) = requests := by
  rw [List.map_map]
  exact List.map_id requests

namespace StoreScript

variable {σ α β : Type} {serve : (request : StoreCall) → σ → request.Answer × σ}

/-- The calls that a script makes on a state and how each of them ended, in order. -/
def attempts (serve : (request : StoreCall) → σ → request.Answer × σ) :
    StoreScript α → σ → List Attempt
  | done _, _ => []
  | call request next, state =>
      let (answer, state) := serve request state
      ⟨request, causeOf answer⟩ :: attempts serve (next answer) state

theorem run_bind (script : StoreScript α) (next : α → StoreScript β) (state : σ) :
    (script >>= next).run serve state =
      (next (script.run serve state).1).run serve (script.run serve state).2 := by
  induction script generalizing state with
  | done value => rfl
  | call request more ih => exact ih (serve request state).1 (serve request state).2

theorem attempts_bind (script : StoreScript α) (next : α → StoreScript β) (state : σ) :
    (script >>= next).attempts serve state =
      script.attempts serve state ++
        (next (script.run serve state).1).attempts serve (script.run serve state).2 := by
  induction script generalizing state with
  | done value => rfl
  | call request more ih =>
      exact congrArg (List.cons ⟨request, causeOf (serve request state).1⟩)
        (ih (serve request state).1 (serve request state).2)

/-- A script run on a state ends with a value on a later state, after some attempts. -/
structure Runs (serve : (request : StoreCall) → σ → request.Answer × σ) (script : StoreScript α)
    (state : σ) (value : α) (after : σ) (made : List Attempt) : Prop where
  run_eq : script.run serve state = (value, after)
  attempts_eq : script.attempts serve state = made

namespace Runs

variable {state middle after : σ} {made more : List Attempt}

theorem done (value : α) (state : σ) : Runs serve (pure value) state value state [] :=
  ⟨rfl, rfl⟩

theorem bind {script : StoreScript α} {next : α → StoreScript β} {value : α} {result : β}
    (first : Runs serve script state value middle made)
    (second : Runs serve (next value) middle result after more) :
    Runs serve (script >>= next) state result after (made ++ more) := by
  constructor
  · rw [run_bind, first.run_eq]
    exact second.run_eq
  · rw [attempts_bind, first.run_eq, first.attempts_eq]
    exact congrArg (made ++ ·) second.attempts_eq

/-- Where nothing is called behind a script, its attempts are all there are. -/
theorem bindDone {script : StoreScript α} {next : α → StoreScript β} {value : α} {result : β}
    (first : Runs serve script state value after made) (last : next value = pure result) :
    Runs serve (script >>= next) state result after made := by
  have h := bind first (last ▸ done result after)
  rwa [List.append_nil] at h

/-! ## Actions -/

variable {action : StoreAction α} {next : α → StoreAction β}

theorem succeed (value : α) (state : σ) :
    Runs serve (pure value : StoreAction α).run state (.ok value) state [] :=
  ⟨rfl, rfl⟩

/-- An action that succeeds hands its value on. -/
theorem andThen {value : α} {result : Except NetworkError β}
    (first : Runs serve action.run state (.ok value) middle made)
    (second : Runs serve (next value).run middle result after more) :
    Runs serve (action >>= next).run state result after (made ++ more) :=
  bind first second

theorem andDone {value : α} {result : β}
    (first : Runs serve action.run state (.ok value) after made) (last : next value = pure result) :
    Runs serve (action >>= next).run state (.ok result) after made := by
  apply bindDone first
  show (next value).run = pure (.ok result)
  rw [last]
  rfl

/-- An action that fails ends there. -/
theorem giveUp {e : NetworkError} (first : Runs serve action.run state (.error e) after made) :
    Runs serve (action >>= next).run state (.error e) after made :=
  bindDone first rfl

theorem perform_ok {request : StoreCall} {reply : request.Reply}
    (h : serve request state = (.ok reply, after)) :
    Runs serve (StoreAction.perform request).run state (.ok reply) after
      [Attempt.success request] := by
  constructor
  · simp [StoreAction.perform, ExceptT.run, ExceptT.mk, run, h]
  · simp [StoreAction.perform, ExceptT.run, ExceptT.mk, attempts, h, causeOf, Attempt.success]

theorem perform_error {request : StoreCall} {cause : Cause}
    (h : serve request state = (.error cause, after)) :
    Runs serve (StoreAction.perform request).run state (.error (request.failed cause)) after
      [Attempt.failed request cause] := by
  constructor
  · simp [StoreAction.perform, ExceptT.run, ExceptT.mk, run, h]
  · simp [StoreAction.perform, ExceptT.run, ExceptT.mk, attempts, h, causeOf, Attempt.failed]

end Runs

/-! ## Beginnings -/

/-- A script run on a state begins with some calls, whatever it goes on with. -/
def Begins (serve : (request : StoreCall) → σ → request.Answer × σ) (script : StoreScript α)
    (state : σ) (calls : List StoreCall) : Prop :=
  calls <+: (script.attempts serve state).map (·.request)

namespace Begins

variable {state middle : σ} {made : List Attempt} {calls : List StoreCall}

theorem bind {script : StoreScript α} (first : Begins serve script state calls)
    (next : α → StoreScript β) : Begins serve (script >>= next) state calls := by
  unfold Begins
  rw [attempts_bind, List.map_append]
  exact first.trans (List.prefix_append _ _)

/-- What another script goes on with comes behind the attempts of the first one. -/
theorem behind {script : StoreScript α} {next : α → StoreScript β} {value : α}
    (first : Runs serve script state value middle made)
    (second : Begins serve (next value) middle calls) :
    Begins serve (script >>= next) state (made.map (·.request) ++ calls) := by
  unfold Begins
  rw [attempts_bind, first.run_eq, first.attempts_eq, List.map_append]
  exact (List.prefix_append_right_inj _).2 second

theorem perform (request : StoreCall) (state : σ) :
    Begins serve (StoreAction.perform request).run state [request] :=
  ⟨_, rfl⟩

end Begins

end StoreScript

end NodeIdentity
