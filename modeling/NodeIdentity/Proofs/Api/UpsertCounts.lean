import NodeIdentity.Api.Objects
import NodeIdentity.Proofs.Api.Repository
import NodeIdentity.Proofs.Api.Upsert
import NodeIdentity.Proofs.Metrics.Counters

/-!
# Counted upserts

Over any server, what is counted of the calls of a script agrees with its calls and its requests: an
upsert is counted once if it succeeds, and not at all if it fails, and it is counted as a write
exactly if a create or a replace of it succeeded.
-/

namespace NodeIdentity

open ApiScript Client

/-! ## Writes of children -/

/-- Whether a request carries a resource of a kind. -/
def ApiRequest.carries (kind : Kind) (request : ApiRequest) : Bool :=
  request.payload.any (fun payload => (ObjectKey.ofObject payload.document).kind = kind.name)

/-- Whether a request was a create or a replace of a resource of a type, and succeeded. -/
def wroteResource {ρ τ : Type} (type : ResourceType ρ τ) (exchange : ApiRequest × ApiAnswer) :
    Bool :=
  (exchange.1.method = .post || exchange.1.method = .put) && exchange.1.carries type.kind &&
    (readAnswer type.format exchange.2).isOk

/-- Whether a request was a create or a replace of a child, and succeeded. -/
def wroteChild (exchange : ApiRequest × ApiAnswer) : Bool :=
  wroteResource IPReservation.type exchange || wroteResource DNSRecordSet.type exchange

/-- Whether an attempt was an upsert that succeeded. -/
def Attempt.isUpserted (attempt : Attempt) : Bool :=
  attempt.request.verb = "upsert" && attempt.failure.isNone

/-- How many writes the end of an upsert tells of. -/
def writesTold : Except Cause UpsertOutcome → Nat
  | .ok outcome => if outcome.wrote then 1 else 0
  | .error _ => 0

theorem wroteChild_of_method {exchange : ApiRequest × ApiAnswer} (hpost : exchange.1.method ≠ .post)
    (hput : exchange.1.method ≠ .put) : wroteChild exchange = false := by
  simp [wroteChild, wroteResource, hpost, hput]

theorem carries_wholePayload {ρ τ : Type} (type : ResourceType ρ τ) (resource : Resource ρ τ)
    {request : ApiRequest} (h : request.payload = some (wholePayload type resource)) (kind : Kind) :
    request.carries kind = decide (type.kind.name = kind.name) := by
  unfold ApiRequest.carries
  rw [h]
  rfl

/-- A type of which children are made: its writes are those that count. -/
def IsChildType {ρ τ : Type} (type : ResourceType ρ τ) : Prop :=
  ∀ exchange : ApiRequest × ApiAnswer, ∀ resource : Resource ρ τ,
    exchange.1.method = .post ∨ exchange.1.method = .put →
      exchange.1.payload = some (wholePayload type resource) →
        wroteChild exchange = (readAnswer type.format exchange.2).isOk

theorem IPReservation.type_isChildType : IsChildType IPReservation.type := by
  intro exchange resource hmethod hpayload
  have hother : ¬ Kind.ipReservation.name = Kind.dnsRecordSet.name := by decide
  unfold wroteChild wroteResource
  rw [carries_wholePayload _ _ hpayload, carries_wholePayload _ _ hpayload]
  rcases hmethod with hmethod | hmethod <;>
    simp [hmethod, IPReservation.type, DNSRecordSet.type, hother]

theorem DNSRecordSet.type_isChildType : IsChildType DNSRecordSet.type := by
  intro exchange resource hmethod hpayload
  have hother : ¬ Kind.dnsRecordSet.name = Kind.ipReservation.name := by decide
  unfold wroteChild wroteResource
  rw [carries_wholePayload _ _ hpayload, carries_wholePayload _ _ hpayload]
  rcases hmethod with hmethod | hmethod <;>
    simp [hmethod, IPReservation.type, DNSRecordSet.type, hother]

/-! ## Counted pairs -/

/-- The pairs under which upserts of children are counted. -/
def IsChildPair (pair : Metrics.CountedPair) : Prop :=
  ∃ kind outcome, (kind = Kind.ipReservation ∨ kind = Kind.dnsRecordSet) ∧
    pair = ⟨kind.name, UpsertOutcome.name outcome⟩

theorem childPairs_toldApart : Metrics.ToldApart IsChildPair := by
  rintro _ _ ⟨kind, outcome, hkind, rfl⟩ ⟨kind', outcome', hkind', rfl⟩ hkey
  rcases hkind with rfl | rfl <;> rcases hkind' with rfl | rfl <;> cases outcome <;>
    cases outcome' <;> first | rfl | exact absurd hkey (by decide)

/-- Whether a pair counts upserts that wrote. -/
def countsWrite (pair : Metrics.CountedPair) : Bool :=
  pair.aspect = UpsertOutcome.created.name || pair.aspect = UpsertOutcome.updated.name

/-- What is counted of upserts: so many that succeeded, and so many of them that wrote. -/
structure Tally (measured : List Measurement) (upserts writes : Nat) : Prop where
  pairs : ∀ pair ∈ measured.filterMap Metrics.childUpserts.pair?, IsChildPair pair
  upserts : (measured.filterMap Metrics.childUpserts.pair?).length = upserts
  writes : (measured.filterMap Metrics.childUpserts.pair?).countP countsWrite = writes

namespace Tally

variable {measured more : List Measurement} {upserts writes others further : Nat}

theorem append (first : Tally measured upserts writes) (second : Tally more others further) :
    Tally (measured ++ more) (upserts + others) (writes + further) := by
  constructor
  · intro pair hpair
    rw [List.filterMap_append, List.mem_append] at hpair
    exact hpair.elim (first.pairs pair) (second.pairs pair)
  · rw [List.filterMap_append, List.length_append, first.upserts, second.upserts]
  · rw [List.filterMap_append, List.countP_append, first.writes, second.writes]

theorem none (h : measured.filterMap Metrics.childUpserts.pair? = []) : Tally measured 0 0 := by
  constructor
  · rw [h]
    exact fun _ hpair => nomatch hpair
  · rw [h]
    rfl
  · rw [h]
    rfl

theorem one {kind : Kind} (child : kind = .ipReservation ∨ kind = .dnsRecordSet)
    (outcome : UpsertOutcome) :
    Tally [.childWrite kind.name outcome] 1 (if outcome.wrote then 1 else 0) := by
  constructor
  · intro pair hpair
    exact ⟨kind, outcome, child, List.mem_singleton.1 hpair⟩
  · rfl
  · cases outcome <;> rfl

end Tally

section

variable {σ α : Type} (serve : ApiRequest → σ → ApiAnswer × σ)

/-! ## One upsert -/

section Upsert

variable {ρ τ : Type} (type : ResourceType ρ τ) (ns name : String) (blank : ρ)
  (change : Resource ρ τ → Resource ρ τ)

/-- A write of a child wrote exactly if it succeeded. -/
theorem write_told {type : ResourceType ρ τ} (child : IsChildType type) {request : ApiRequest}
    {resource : Resource ρ τ} (method : request.method = .post ∨ request.method = .put)
    (payload : request.payload = some (wholePayload type resource)) {outcome : UpsertOutcome}
    (wrote : outcome.wrote = true) (state : σ) :
    let write : ApiScript (Except Cause UpsertOutcome) := .send request (fun answer =>
      .done ((readAnswer type.format answer).map (fun _ => outcome)))
    (write.trace serve state).countP wroteChild = writesTold (write.run serve state).1 := by
  have hwrote := child (request, (serve request state).1) resource method payload
  simp only [ApiScript.trace, ApiScript.run, List.countP_cons, hwrote]
  cases readAnswer type.format (serve request state).1 with
  | ok value =>
      show 1 = if outcome.wrote = true then 1 else 0
      rw [if_pos wrote]
  | error cause => rfl

theorem upsertBehind_told (child : IsChildType type)
    (reading : Except Cause (Resource ρ τ)) (state : σ) :
    ((upsertBehind type ns name blank change reading).trace serve state).countP wroteChild =
      writesTold ((upsertBehind type ns name blank change reading).run serve state).1 := by
  unfold upsertBehind
  cases reading with
  | ok current =>
      dsimp only
      split
      · rcases sendNamed_cases type.format name (replaceRequest type ns name (change current)) with
          ⟨cause, hrefused⟩ | hsent
        · rw [hrefused]
          rfl
        · rw [hsent]
          exact write_told serve child (Or.inr (ApiRequest.outgoing_method _)) rfl
            (show UpsertOutcome.updated.wrote = true from rfl) state
      · rfl
  | error cause =>
      dsimp only
      split
      · rcases send_cases type.format (createRequest type ns (change (fresh ns name blank))) with
          ⟨cause, hrefused⟩ | hsent
        · rw [hrefused]
          rfl
        · rw [hsent]
          exact write_told serve child (Or.inl (ApiRequest.outgoing_method _)) rfl
            (show UpsertOutcome.created.wrote = true from rfl) state
      · rfl

/-- An upsert tells whether a create or a replace of it succeeded. -/
theorem createOrReplace_told (child : IsChildType type) (state : σ) :
    ((createOrReplace type ns name blank change).run.trace serve state).countP wroteChild =
      writesTold ((createOrReplace type ns name blank change).run.run serve state).1 := by
  cases hrefusal : refusal? name (readRequest type.kind ns name) with
  | some cause =>
      rw [createOrReplace_refused type blank change hrefusal]
      rfl
  | none =>
      have hread : wroteChild ((readRequest type.kind ns name).outgoing,
          (serve (readRequest type.kind ns name).outgoing state).1) = false :=
        wroteChild_of_method (by simp [readRequest]) (by simp [readRequest])
      rw [createOrReplace_run type blank change hrefusal]
      simp only [ApiScript.trace, ApiScript.run, List.countP_cons, hread]
      exact upsertBehind_told serve type ns name blank change child _ _

end Upsert

/-! ## Calls -/

namespace ApiStore

theorem upsertChild_tally {ρ τ : Type} {type : ResourceType ρ τ}
    (kind : type.kind = .ipReservation ∨ type.kind = .dnsRecordSet) (child : IsChildType type)
    (ns name : String) (blank spec : ρ) (owned : ChildMeta) (state : σ) :
    Tally ((upsertChild type ns name blank spec owned).run serve state).1.2
      (if (causeOf ((upsertChild type ns name blank spec owned).run serve state).1.1).isNone then 1
        else 0)
      (((upsertChild type ns name blank spec owned).trace serve state).countP wroteChild) := by
  have htold := createOrReplace_told serve type ns name blank
    (owned.applyToResource spec) child state
  unfold upsertChild
  rw [ApiScript.run_bind, ApiScript.trace_bind, List.countP_append, htold]
  cases ((createOrReplace type ns name blank (owned.applyToResource spec)).run.run serve
    state).1 with
  | ok outcome => exact Tally.one kind outcome
  | error cause => exact Tally.none rfl

theorem uncounted_tally {action : ApiAction α}
    (reads : action.run.Uses (fun request => request.method = .get)) (state : σ) :
    Tally ((uncounted action).run serve state).1.2 0
      (((uncounted action).trace serve state).countP wroteChild) := by
  have huses : (uncounted action).Uses (fun request => request.method = .get) :=
    Uses.bind reads (fun _ => .done _)
  have hnone : ((uncounted action).trace serve state).countP wroteChild = 0 := by
    rw [List.countP_eq_zero]
    intro exchange member
    have hget := huses.of_mem_trace member
    have hwrote : wroteChild exchange = false :=
      wroteChild_of_method (by simp [hget]) (by simp [hget])
    simp [hwrote]
  rw [hnone]
  unfold uncounted
  rw [ApiScript.run_bind]
  exact Tally.none rfl

/-- A call is counted once if it is an upsert that succeeds, and else not at all. -/
theorem perform_tally (call : StoreCall) (state : σ) :
    Tally ((perform call).run serve state).1.2
      (if Attempt.isUpserted ⟨call, causeOf (serveCall serve call state).1⟩ then 1 else 0)
      (((perform call).trace serve state).countP wroteChild) := by
  cases call with
  | upsertReservation ns name spec owned =>
      exact upsertChild_tally serve (Or.inl rfl) IPReservation.type_isChildType ns name {} spec
        owned state
  | upsertRecordSet ns name spec owned =>
      exact upsertChild_tally serve (Or.inr rfl) DNSRecordSet.type_isChildType ns name {} spec
        owned state
  -- The pages of a listing are left closed: that it only reads is all that matters.
  | listNetConfigs ns =>
      have reads : (listAll NetConfig.type ns).run.Uses (fun request => request.method = .get) :=
        listAll_uses NetConfig.type ns (fun _ => rfl)
      rw [if_neg (by simp [Attempt.isUpserted, StoreCall.verb])]
      simp only [perform]
      generalize listAll NetConfig.type ns = action at reads ⊢
      exact uncounted_tally serve reads state
  | listDnsServices ns =>
      have reads : (listAll DNSService.type ns).run.Uses (fun request => request.method = .get) :=
        listAll_uses DNSService.type ns (fun _ => rfl)
      rw [if_neg (by simp [Attempt.isUpserted, StoreCall.verb])]
      simp only [perform]
      generalize listAll DNSService.type ns = action at reads ⊢
      exact uncounted_tally serve reads state
  | getReservation ns name | getRecordSet ns name =>
      rw [if_neg (by simp [Attempt.isUpserted, StoreCall.verb])]
      refine uncounted_tally serve ?_ state
      rw [get_run]
      exact sendNamed_uses _ _ rfl

theorem upsertChild_failed {ρ τ : Type} (type : ResourceType ρ τ) (ns name : String)
    (blank spec : ρ) (owned : ChildMeta) (state : σ)
    (failed : (causeOf ((upsertChild type ns name blank spec owned).run serve
      state).1.1).isSome = true) :
    ((upsertChild type ns name blank spec owned).run serve state).1.2 = [] := by
  unfold upsertChild at failed ⊢
  rw [ApiScript.run_bind] at failed ⊢
  generalize ((createOrReplace type ns name blank (owned.applyToResource spec)).run.run serve
    state).1 = answer at failed ⊢
  cases answer with
  | ok outcome => cases failed
  | error cause => rfl

theorem perform_failed (call : StoreCall) (state : σ)
    (failed : (causeOf (serveCall serve call state).1).isSome = true) :
    ((perform call).run serve state).1.2 = [] := by
  cases call with
  | upsertReservation ns name spec owned =>
      exact upsertChild_failed serve IPReservation.type ns name {} spec owned state failed
  | upsertRecordSet ns name spec owned =>
      exact upsertChild_failed serve DNSRecordSet.type ns name {} spec owned state failed
  | listNetConfigs ns | listDnsServices ns | getReservation ns name | getRecordSet ns name =>
      simp only [perform, uncounted, run_bind]
      rfl

end ApiStore

/-! ## Scripts -/

theorem StoreScript.overApi_tally (script : StoreScript α) (state : σ) :
    Tally (script.overApi.run serve state).1.2
      ((script.attempts (ApiStore.serveCall serve) state).countP Attempt.isUpserted)
      ((script.overApi.trace serve state).countP wroteChild) := by
  induction script generalizing state with
  | done value => exact Tally.none rfl
  | call request next ih =>
      have hcall := ApiStore.perform_tally serve request state
      have hrest := ih ((ApiStore.perform request).run serve state).1.1
        ((ApiStore.perform request).run serve state).2
      unfold StoreScript.overApi
      rw [ApiScript.run_bind, ApiScript.run_bind, ApiScript.trace_bind, ApiScript.trace_bind,
        StoreScript.attempts, List.countP_cons, List.countP_append, List.countP_append,
        Nat.add_comm (List.countP _ _)]
      exact hcall.append hrest

end

end NodeIdentity
