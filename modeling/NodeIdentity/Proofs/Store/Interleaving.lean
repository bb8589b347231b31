import NodeIdentity.Proofs.Pass.Conduct
import NodeIdentity.Proofs.Store.Memory

/-!
# Interleaved scripts

Two scripts may share a store, each call falling before, between or behind the calls of the other
script.  A script is not disturbed by another one that changes nothing it looks at: it is answered
as if it were alone, and ends with the same value.  What a script on a store in memory looks at goes
by the names of its calls, so scripts whose names differ do not disturb each other.
-/

namespace NodeIdentity

namespace StoreScript

variable {σ α β : Type} {serve : (request : StoreCall) → σ → request.Answer × σ}

/-- Two scripts on one state, call by call in some order, up to the values of both. -/
inductive Interleaved (serve : (request : StoreCall) → σ → request.Answer × σ) :
    StoreScript α → StoreScript β → σ → α × β → σ → Prop
  | done (first : α) (second : β) (state : σ) :
      Interleaved serve (done first) (done second) state (first, second) state
  | first {request : StoreCall} {next : request.Answer → StoreScript α} {other : StoreScript β}
      {before after : σ} {values : α × β}
      (rest : Interleaved serve (next (serve request before).1) other (serve request before).2
        values after) :
      Interleaved serve (call request next) other before values after
  | second {request : StoreCall} {next : request.Answer → StoreScript β} {other : StoreScript α}
      {before after : σ} {values : α × β}
      (rest : Interleaved serve other (next (serve request before).1) (serve request before).2
        values after) :
      Interleaved serve other (call request next) before values after

namespace Interleaved

variable {first : StoreScript α} {second : StoreScript β} {before after : σ} {values : α × β}

theorem swap (run : Interleaved serve first second before values after) :
    Interleaved serve second first before values.swap after := by
  induction run with
  | done a b state => exact done b a state
  | first _ ih => exact .second ih
  | second _ ih => exact .first ih

/-- To run one script behind the other is one way to interleave them. -/
theorem oneByOne (first : StoreScript α) (second : StoreScript β) (before : σ) :
    Interleaved serve first second before
      ((first.run serve before).1, (second.run serve (first.run serve before).2).1)
      (second.run serve (first.run serve before).2).2 := by
  induction first generalizing before with
  | done value =>
      induction second generalizing before with
      | done other => exact done value other before
      | call request next ih => exact .second (ih (serve request before).1 (serve request before).2)
  | call request next ih => exact .first (ih (serve request before).1 (serve request before).2)

/-- A relation to a state that the calls of neither script touch is kept. -/
theorem keeps (run : Interleaved serve first second before values after)
    (Same : σ → Prop) {own other : StoreCall → Prop} (uses : first.Uses own)
    (otherUses : second.Uses other)
    (kept : ∀ request state, own request ∨ other request → Same state →
      Same (serve request state).2)
    (same : Same before) : Same after := by
  induction run with
  | done a b state => exact same
  | first _ ih => exact ih (uses.2 _) otherUses (kept _ _ (.inl uses.1) same)
  | second _ ih => exact ih uses (otherUses.2 _) (kept _ _ (.inr otherUses.1) same)

/--
Where two states are related as long as the first script takes its steps on both, and the second one
on the interleaved state only, the first script ends as it does alone.
-/
theorem alone (run : Interleaved serve first second before values after)
    {Same : σ → σ → Prop} {own other : StoreCall → Prop} (uses : first.Uses own)
    (otherUses : second.Uses other)
    (together : ∀ request state apart, own request → Same state apart →
      (serve request state).1 = (serve request apart).1 ∧
        Same (serve request state).2 (serve request apart).2)
    (ignored : ∀ request state apart, other request → Same state apart →
      Same (serve request state).2 apart)
    {apart : σ} (same : Same before apart) :
    values.1 = (first.run serve apart).1 ∧ Same after (first.run serve apart).2 := by
  induction run generalizing apart with
  | done a b state => exact ⟨rfl, same⟩
  | @first request next other before after values _ ih =>
      obtain ⟨hanswer, hsame⟩ := together request before apart uses.1 same
      have hrest := ih (uses.2 _) otherUses hsame
      rw [hanswer] at hrest
      exact hrest
  | second _ ih => exact ih uses (otherUses.2 _) (ignored _ _ _ otherUses.1 same)

end Interleaved

end StoreScript

namespace MemoryStore

/-! ## Scopes -/

/-- Some of the names under which a store in memory keeps objects. -/
structure Scope where
  reservations : String → Prop
  recordSets : String → Prop

namespace Scope

/-- Calls that name objects of a scope only; lists name none. -/
def Covers (scope : Scope) : StoreCall → Prop
  | .upsertReservation _ name _ _ | .getReservation _ name => scope.reservations name
  | .upsertRecordSet _ name _ _ | .getRecordSet _ name => scope.recordSets name
  | .listNetConfigs _ | .listDnsServices _ => True

/-- Calls that write no object of a scope. -/
def Spares (scope : Scope) : StoreCall → Prop
  | .upsertReservation _ name _ _ => ¬ scope.reservations name
  | .upsertRecordSet _ name _ _ => ¬ scope.recordSets name
  | _ => True

end Scope

/-- Two stores that differ in their logs and outside of a scope at most. -/
structure SameWithin (scope : Scope) (store other : MemoryStore) : Prop where
  reservations : ∀ name, scope.reservations name →
    store.reservations.get? name = other.reservations.get? name
  recordSets : ∀ name, scope.recordSets name →
    store.recordSets.get? name = other.recordSets.get? name
  netConfigs : store.netConfigs = other.netConfigs
  dnsServices : store.dnsServices = other.dnsServices
  recordSetsServed : store.recordSetsServed = other.recordSetsServed
  faults : store.faults = other.faults

namespace SameWithin

variable {scope : Scope} {store other : MemoryStore}

theorem refl (scope : Scope) (store : MemoryStore) : SameWithin scope store store :=
  ⟨fun _ _ => rfl, fun _ _ => rfl, rfl, rfl, rfl, rfl⟩

theorem symm (same : SameWithin scope store other) : SameWithin scope other store :=
  ⟨fun name h => (same.reservations name h).symm, fun name h => (same.recordSets name h).symm,
    same.netConfigs.symm, same.dnsServices.symm, same.recordSetsServed.symm, same.faults.symm⟩

theorem trans {third : MemoryStore} (same : SameWithin scope store other)
    (same' : SameWithin scope other third) : SameWithin scope store third :=
  ⟨fun name h => (same.reservations name h).trans (same'.reservations name h),
    fun name h => (same.recordSets name h).trans (same'.recordSets name h),
    same.netConfigs.trans same'.netConfigs, same.dnsServices.trans same'.dnsServices,
    same.recordSetsServed.trans same'.recordSetsServed, same.faults.trans same'.faults⟩

/-- Logs are no part of any scope. -/
theorem logCall (scope : Scope) (request : StoreCall) (store : MemoryStore) :
    SameWithin scope (store.logCall request) store :=
  ⟨fun _ _ => rfl, fun _ _ => rfl, rfl, rfl, rfl, rfl⟩

/-- A call that writes nothing in a scope leaves everything in it as it is. -/
theorem serve_spared {request : StoreCall} (spared : scope.Spares request)
    (store : MemoryStore) : SameWithin scope (serve request store).2 store := by
  have hlogged := SameWithin.logCall scope request store
  cases hfault : store.faults request with
  | some cause =>
      rw [serve_fault hfault]
      exact hlogged
  | none =>
      rw [serve_ok hfault]
      cases request with
      | listNetConfigs ns => exact hlogged
      | listDnsServices ns => exact hlogged
      | getReservation ns name => exact hlogged
      | getRecordSet ns name => exact hlogged
      | upsertReservation ns name spec child =>
          refine SameWithin.trans ?_ hlogged
          show SameWithin scope ((store.logCall _).upsertReservation name spec child).2 _
          rw [upsertReservation_eq]
          refine ⟨fun named inside => ?_, fun _ _ => rfl, rfl, rfl, rfl, rfl⟩
          have hne : named ≠ name := fun h => spared (h ▸ inside)
          simp [hne]
      | upsertRecordSet ns name spec child =>
          refine SameWithin.trans ?_ hlogged
          show SameWithin scope ((store.logCall _).upsertRecordSet name spec child).2 _
          rw [upsertRecordSet_eq]
          refine ⟨fun _ _ => rfl, fun named inside => ?_, rfl, rfl, rfl, rfl⟩
          have hne : named ≠ name := fun h => spared (h ▸ inside)
          simp [hne]

theorem upsertReservation {name : String} (inside : scope.reservations name)
    (same : SameWithin scope store other) (spec : IPReservationSpec) (child : ChildMeta) :
    (store.upsertReservation name spec child).1 = (other.upsertReservation name spec child).1 ∧
      SameWithin scope (store.upsertReservation name spec child).2
        (other.upsertReservation name spec child).2 := by
  have hstored := same.reservations name inside
  constructor
  · show (desired _ _ (store.reservations.get? name) _ _ _).2 = _
    rw [hstored]
    rfl
  · rw [upsertReservation_eq, upsertReservation_eq]
    refine ⟨fun named inside => ?_, same.recordSets, same.netConfigs, same.dnsServices,
      same.recordSetsServed, same.faults⟩
    simp only [Dict.get?_insert, hstored, same.reservations named inside]

theorem upsertRecordSet {name : String} (inside : scope.recordSets name)
    (same : SameWithin scope store other) (spec : DNSRecordSetSpec) (child : ChildMeta) :
    (store.upsertRecordSet name spec child).1 = (other.upsertRecordSet name spec child).1 ∧
      SameWithin scope (store.upsertRecordSet name spec child).2
        (other.upsertRecordSet name spec child).2 := by
  have hstored := same.recordSets name inside
  constructor
  · show (desired _ _ (store.recordSets.get? name) _ _ _).2 = _
    rw [hstored]
    rfl
  · have hwritten : store.recordSetAfter name spec child =
        other.recordSetAfter name spec child := by
      unfold recordSetAfter
      rw [hstored, same.recordSetsServed]
    rw [upsertRecordSet_eq, upsertRecordSet_eq, hwritten]
    refine ⟨same.reservations, fun named inside => ?_, same.netConfigs, same.dnsServices,
      same.recordSetsServed, same.faults⟩
    simp only [Dict.get?_insert, same.recordSets named inside]

/-- A call that names objects of a scope only is answered alike, and does the same in the scope. -/
theorem serve_covered {request : StoreCall} (covered : scope.Covers request)
    (same : SameWithin scope store other) :
    (serve request store).1 = (serve request other).1 ∧
      SameWithin scope (serve request store).2 (serve request other).2 := by
  have hlogged : SameWithin scope (store.logCall request) (other.logCall request) :=
    ((logCall scope request store).trans same).trans (logCall scope request other).symm
  cases hfault : store.faults request with
  | some cause =>
      rw [serve_fault hfault, serve_fault (same.faults ▸ hfault)]
      exact ⟨rfl, hlogged⟩
  | none =>
      rw [serve_ok hfault, serve_ok (same.faults ▸ hfault)]
      cases request with
      | listNetConfigs ns => exact ⟨congrArg Except.ok same.netConfigs, hlogged⟩
      | listDnsServices ns => exact ⟨congrArg Except.ok same.dnsServices, hlogged⟩
      | getReservation ns name =>
          exact ⟨congrArg found (same.reservations name covered), hlogged⟩
      | getRecordSet ns name => exact ⟨congrArg found (same.recordSets name covered), hlogged⟩
      | upsertReservation ns name spec child =>
          obtain ⟨houtcome, hsame⟩ := hlogged.upsertReservation covered spec child
          exact ⟨congrArg Except.ok houtcome, hsame⟩
      | upsertRecordSet ns name spec child =>
          obtain ⟨houtcome, hsame⟩ := hlogged.upsertRecordSet covered spec child
          exact ⟨congrArg Except.ok houtcome, hsame⟩

end SameWithin

end MemoryStore

end NodeIdentity
