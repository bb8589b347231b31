import NodeIdentity.Api.Script

/-!
# Execution of request scripts

A script that goes on with another one sends the requests of both, in order.  Which requests a
script may send, whatever it is answered, goes by its parts; a run of it then sends no others.
`Runs` says at once with which value a script ends, on which state, and which requests it has sent.
A server that notes its requests carries them through anything that is told of final states.
-/

namespace NodeIdentity.ApiScript

variable {σ τ α β : Type} {serve : ApiRequest → σ → ApiAnswer × σ} {allowed : ApiRequest → Prop}

theorem run_bind (script : ApiScript α) (next : α → ApiScript β) (state : σ) :
    (script.bind next).run serve state =
      (next (script.run serve state).1).run serve (script.run serve state).2 := by
  induction script generalizing state with
  | done value => rfl
  | send request more ih => exact ih (serve request state).1 (serve request state).2

theorem trace_bind (script : ApiScript α) (next : α → ApiScript β) (state : σ) :
    (script.bind next).trace serve state =
      script.trace serve state ++
        (next (script.run serve state).1).trace serve (script.run serve state).2 := by
  induction script generalizing state with
  | done value => rfl
  | send request more ih =>
      exact congrArg (List.cons (request, (serve request state).1))
        (ih (serve request state).1 (serve request state).2)

/-- Whatever is answered, the script sends allowed requests only. -/
inductive Uses (allowed : ApiRequest → Prop) : ApiScript α → Prop
  | done (value : α) : Uses allowed (done value)
  | send {request : ApiRequest} {next : ApiAnswer → ApiScript α} (first : allowed request)
      (rest : ∀ answer, Uses allowed (next answer)) : Uses allowed (send request next)

namespace Uses

theorem bind {script : ApiScript α} {next : α → ApiScript β} (first : script.Uses allowed)
    (rest : ∀ value, (next value).Uses allowed) : (script.bind next).Uses allowed := by
  induction first with
  | done value => exact rest value
  | send first _ ih => exact .send first ih

theorem of_send {request : ApiRequest} {next : ApiAnswer → ApiScript α}
    (h : (ApiScript.send request next).Uses allowed) :
    allowed request ∧ ∀ answer, (next answer).Uses allowed := by
  cases h with
  | send first rest => exact ⟨first, rest⟩

theorem of_mem_trace {script : ApiScript α} (h : script.Uses allowed) {state : σ}
    {exchange : ApiRequest × ApiAnswer} (member : exchange ∈ script.trace serve state) :
    allowed exchange.1 := by
  induction h generalizing state with
  | done value => cases member
  | send first _ ih =>
      rcases List.mem_cons.1 member with rfl | member
      · exact first
      · exact ih _ member

/-- What no allowed request changes is as before behind a run. -/
theorem run_keeps {script : ApiScript α} (h : script.Uses allowed) {view : σ → β}
    (kept : ∀ request state, allowed request → view (serve request state).2 = view state)
    (state : σ) : view (script.run serve state).2 = view state := by
  induction h generalizing state with
  | done value => rfl
  | send first _ ih => exact (ih _ _).trans (kept _ state first)

/-- Where two servers answer alike through a view, a script ends alike and sends the same. -/
theorem run_follows {script : ApiScript α} (h : script.Uses allowed) {view : σ → τ}
    {other : ApiRequest → τ → ApiAnswer × τ}
    (alike : ∀ request state, allowed request →
      other request (view state) = ((serve request state).1, view (serve request state).2))
    (state : σ) :
    (script.run other (view state)).1 = (script.run serve state).1 ∧
      (script.run other (view state)).2 = view (script.run serve state).2 ∧
      script.trace other (view state) = script.trace serve state := by
  induction h generalizing state with
  | done value => exact ⟨rfl, rfl, rfl⟩
  | @send request next first _ ih =>
      obtain ⟨hvalue, hstate, htrace⟩ := ih (serve request state).1 (serve request state).2
      simp only [run, trace, alike request state first]
      exact ⟨hvalue, hstate, congrArg (List.cons _) htrace⟩

end Uses

/-! ## Requests that are noted -/

/-- A server that also notes the requests that it is sent. -/
def noting (serve : ApiRequest → σ → ApiAnswer × σ) (request : ApiRequest)
    (state : σ × List ApiRequest) : ApiAnswer × σ × List ApiRequest :=
  let (answer, after) := serve request state.1
  (answer, after, state.2 ++ [request])

theorem run_noting (script : ApiScript α) (state : σ) (earlier : List ApiRequest) :
    script.run (noting serve) (state, earlier) =
      ((script.run serve state).1, (script.run serve state).2,
        earlier ++ (script.trace serve state).map (·.1)) := by
  induction script generalizing state earlier with
  | done value => simp [run, trace]
  | send request next ih =>
      have hrest := ih (serve request state).1 (serve request state).2 (earlier ++ [request])
      rw [List.append_assoc] at hrest
      exact hrest

/-- A script run on a state ends with a value on a later state, after it has sent some requests. -/
structure Runs (serve : ApiRequest → σ → ApiAnswer × σ) (script : ApiScript α) (state : σ)
    (value : α) (after : σ) (sent : List ApiRequest) : Prop where
  run_eq : script.run serve state = (value, after)
  sent_eq : (script.trace serve state).map (·.1) = sent

namespace Runs

variable {state middle after : σ} {sent more : List ApiRequest}

theorem done (value : α) (state : σ) : Runs serve (.done value) state value state [] :=
  ⟨rfl, rfl⟩

theorem bind {script : ApiScript α} {next : α → ApiScript β} {value : α} {result : β}
    (first : Runs serve script state value middle sent)
    (second : Runs serve (next value) middle result after more) :
    Runs serve (script.bind next) state result after (sent ++ more) := by
  constructor
  · rw [run_bind, first.run_eq]
    exact second.run_eq
  · rw [trace_bind, first.run_eq, List.map_append, first.sent_eq]
    exact congrArg (sent ++ ·) second.sent_eq

/-- Where nothing is sent behind a script, its requests are all there are. -/
theorem bindDone {script : ApiScript α} {next : α → ApiScript β} {value : α} {result : β}
    (first : Runs serve script state value after sent) (last : next value = .done result) :
    Runs serve (script.bind next) state result after sent := by
  have h := bind first (last ▸ done result after)
  rwa [List.append_nil] at h

/-! ## Actions -/

variable {ε : Type} {action : ExceptT ε ApiScript α} {next : α → ExceptT ε ApiScript β}

/-- An action that succeeds hands its value on. -/
theorem andThen {value : α} {result : Except ε β}
    (first : Runs serve action.run state (.ok value) middle sent)
    (second : Runs serve (next value).run middle result after more) :
    Runs serve (action >>= next).run state result after (sent ++ more) :=
  bind first second

theorem andDone {value : α} {result : β}
    (first : Runs serve action.run state (.ok value) after sent) (last : next value = pure result) :
    Runs serve (action >>= next).run state (.ok result) after sent := by
  apply bindDone first
  show (next value).run = .done (.ok result)
  rw [last]
  rfl

/-- An action that fails ends there. -/
theorem giveUp {cause : ε} (first : Runs serve action.run state (.error cause) after sent) :
    Runs serve (action >>= next).run state (.error cause) after sent :=
  bindDone first rfl

end Runs

end NodeIdentity.ApiScript
