import Mathlib.Logic.Function.Basic
import NodeIdentity.Proofs.Api.Execution
import NodeIdentity.Proofs.Api.VersionedServer

/-!
# Races

Clients that send their requests to one server in any order, while others write there as well.  To
each client the rest of the race is no more than steps of others between its own requests.
-/

namespace NodeIdentity

open Client

variable {σ ι α β : Type}

/-- A request of a client, between the states of the server before it and behind it. -/
structure Served (σ : Type) where
  request : ApiRequest
  before : σ
  after : σ

/-- What one client meets: its own requests, and between them steps of others. -/
inductive Session (view : VersionView σ) : ApiScript α → σ → List (Served σ) → α → Prop
  | done (value : α) (state : σ) : Session view (.done value) state [] value
  | send {request : ApiRequest} {next : ApiAnswer → ApiScript α} {state before : σ}
      {own : List (Served σ)} {value : α} (others : view.Evolves state before)
      (rest : Session view (next (view.serve request before).1) (view.serve request before).2 own
        value) :
      Session view (.send request next) state
        (⟨request, before, (view.serve request before).2⟩ :: own) value

/-- Clients that send their requests in any order, and steps of others at any time. -/
inductive Race [DecidableEq ι] (view : VersionView σ) :
    (ι → ApiScript α) → σ → List (ι × Served σ) → (ι → ApiScript α) → Prop
  | done (scripts : ι → ApiScript α) (state : σ) : Race view scripts state [] scripts
  | send {scripts last : ι → ApiScript α} {state : σ} {events : List (ι × Served σ)}
      (client : ι) {request : ApiRequest} {next : ApiAnswer → ApiScript α}
      (turn : scripts client = .send request next)
      (rest : Race view (Function.update scripts client (next (view.serve request state).1))
        (view.serve request state).2 events last) :
      Race view scripts state
        ((client, ⟨request, state, (view.serve request state).2⟩) :: events) last
  | others {scripts last : ι → ApiScript α} {state after : σ} {events : List (ι × Served σ)}
      (step : view.Evolves state after) (rest : Race view scripts after events last) :
      Race view scripts state events last

/-- The requests of one client in a race. -/
def ownOf [DecidableEq ι] (client : ι) (events : List (ι × Served σ)) : List (Served σ) :=
  (events.filter (fun event => event.1 = client)).map (·.2)

namespace Session

variable {view : VersionView σ}

theorem after_others {script : ApiScript α} {state after : σ} {own : List (Served σ)} {value : α}
    (others : view.Evolves state after) (session : Session view script after own value) :
    Session view script state own value := by
  cases session with
  | done => exact .done value state
  | send more rest => exact .send (others.trans more) rest

end Session

/-- Whatever happens in a race, each client that is done has met a session of its own. -/
theorem Race.session [DecidableEq ι] {server : VersionedServer σ}
    {scripts last : ι → ApiScript α} {state : σ} {events : List (ι × Served σ)}
    (race : Race server.toVersionView scripts state events last) (sound : server.sound state)
    (upserts : ∀ client, (scripts client).Uses OfUpsert) {client : ι} {value : α}
    (ended : last client = .done value) :
    Session server.toVersionView (scripts client) state (ownOf client events) value := by
  induction race with
  | done scripts state =>
      rw [ended]
      exact .done value state
  | @send scripts last state events other request next turn rest ih =>
      have huses := upserts other
      rw [turn] at huses
      obtain ⟨hrequest, hnext⟩ := huses.of_send
      have hserved := server.evolves sound hrequest
      have hothers : ∀ client, (Function.update scripts other
          (next (server.serve request state).1) client).Uses OfUpsert := by
        intro client
        by_cases same : client = other
        · rw [same, Function.update_self]
          exact hnext _
        · rw [Function.update_of_ne same]
          exact upserts client
      have hrest := ih hserved.sound hothers ended
      by_cases same : client = other
      · subst same
        rw [Function.update_self] at hrest
        have hown : ownOf client ((client, ⟨request, state, (server.serve request state).2⟩) ::
            events) = ⟨request, state, (server.serve request state).2⟩ :: ownOf client events := by
          simp [ownOf]
        rw [turn, hown]
        exact .send (.refl sound) hrest
      · -- To this client the request of another one is a step of others.
        rw [Function.update_of_ne same] at hrest
        have hown : ownOf client ((other, ⟨request, state, (server.serve request state).2⟩) ::
            events) = ownOf client events := by
          simp [ownOf, Ne.symm same]
        rw [hown]
        exact hrest.after_others hserved
  | others step rest ih => exact (ih step.sound upserts ended).after_others step

end NodeIdentity
