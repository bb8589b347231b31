import NodeIdentity.Proofs.Resource.Child
import NodeIdentity.Proofs.Resource.Encoding
import NodeIdentity.Proofs.Store.Execution
import NodeIdentity.Store.Memory

/-!
# Calls on a store in memory

What each call does to a store.  Since documents tell resources apart, an upsert leaves the wanted
resource stored whether or not it had to write it, so its effect is one insertion; and an upsert of
what is there already leaves the store as it is.
-/

namespace NodeIdentity

namespace MemoryStore

/-! ## Logs -/

/-- The store with calls in its log. -/
def logCalls (store : MemoryStore) (requests : List StoreCall) : MemoryStore :=
  { store with calls := store.calls ++ requests }

theorem logCalls_nil (store : MemoryStore) : store.logCalls [] = store := by
  simp [logCalls]

theorem logCall_eq (store : MemoryStore) (request : StoreCall) :
    store.logCall request = store.logCalls [request] := rfl

theorem logCalls_logCalls (store : MemoryStore) (first second : List StoreCall) :
    (store.logCalls first).logCalls second = store.logCalls (first ++ second) := by
  simp [logCalls]

/-- The entry of a write in the log, if something was written. -/
def writeEntry (outcome : UpsertOutcome) (kind : Kind) (name : String) : List StoreWrite :=
  if outcome.wrote then [⟨outcome, kind, name⟩] else []

theorem logWrite_eq (store : MemoryStore) (outcome : UpsertOutcome) (kind : Kind)
    (name : String) :
    store.logWrite outcome kind name =
      { store with writes := store.writes ++ writeEntry outcome kind name } := by
  unfold logWrite writeEntry
  split <;> simp

/-! ## Upserts -/

section Wanted

variable {σ τ : Type} {type : ResourceType σ τ}

/-- The resource that an upsert wants to be stored, given what is stored. -/
def wanted (blank : σ) (stored : Option (Resource σ τ)) (name : String) (spec : σ)
    (child : ChildMeta) : Resource σ τ :=
  child.applyToResource spec (stored.getD (Resource.named name blank))

theorem desired_fst (type : ResourceType σ τ) (blank : σ) (stored : Option (Resource σ τ))
    (name : String) (spec : σ) (child : ChildMeta) :
    (desired type blank stored name spec child).1 = wanted blank stored name spec child := by
  cases stored <;> rfl

/-- A resource that has what an upsert asks for is wanted as it is. -/
theorem desired_settled (lawful : type.Lawful) (blank : σ) {current : Resource σ τ}
    (name : String) {spec : σ} {child : ChildMeta}
    (settled : child.applyToResource spec current = current) :
    desired type blank (some current) name spec child = (current, .unchanged) := by
  simp [desired, settled, lawful.needsWrite_self]

/-- An upsert writes exactly where the wanted resource is not stored. -/
theorem desired_wrote (lawful : type.Lawful) (blank : σ) (stored : Option (Resource σ τ))
    (name : String) (spec : σ) (child : ChildMeta) :
    (desired type blank stored name spec child).2.wrote = true ↔
      stored ≠ some (wanted blank stored name spec child) := by
  cases stored with
  | none => simp [desired, UpsertOutcome.wrote]
  | some current =>
      by_cases hsettled : child.applyToResource spec current = current
      · rw [desired_settled lawful blank name hsettled]
        simp [wanted, hsettled, UpsertOutcome.wrote]
      · have hneeds : type.needsWrite current (child.applyToResource spec current) = true :=
          lawful.needsWrite_iff.2 (Ne.symm hsettled)
        simp [desired, wanted, hneeds, UpsertOutcome.wrote, Ne.symm hsettled]

/-- Whether it was written or not, the wanted resource is what is stored afterwards. -/
theorem insert_if_wrote (lawful : type.Lawful) (blank : σ) (objects : Dict (Resource σ τ))
    (name : String) (spec : σ) (child : ChildMeta) :
    (if (desired type blank (objects.get? name) name spec child).2.wrote then
        objects.insert name (wanted blank (objects.get? name) name spec child)
      else objects) =
      objects.insert name (wanted blank (objects.get? name) name spec child) := by
  split
  · rfl
  · -- A write that is left out would have stored what is there already.
    rename_i hwrote
    have hstored : objects.get? name = some (wanted blank (objects.get? name) name spec child) :=
      Classical.not_not.1 (fun hne => hwrote ((desired_wrote lawful ..).2 hne))
    exact (Dict.insert_of_get? hstored).symm

end Wanted

/-! ## Names -/

/-- Every object is kept under the name in its metadata. -/
def KeptByName {σ τ : Type} (objects : Dict (Resource σ τ)) : Prop :=
  ∀ name object, objects.get? name = some object → object.metadata.name = some name

theorem KeptByName.wanted_name {σ τ : Type} {objects : Dict (Resource σ τ)}
    (kept : KeptByName objects) (blank : σ) (name : String) (spec : σ) (child : ChildMeta) :
    (wanted blank (objects.get? name) name spec child).metadata.name = some name := by
  cases hstored : objects.get? name with
  | none => rfl
  | some object => exact kept name object hstored

theorem KeptByName.insert {σ τ : Type} {objects : Dict (Resource σ τ)}
    (kept : KeptByName objects) {name : String} {object : Resource σ τ}
    (named : object.metadata.name = some name) : KeptByName (objects.insert name object) := by
  intro other found hfound
  rw [Dict.get?_insert] at hfound
  split at hfound
  · rename_i hname
    cases hfound
    rw [hname, named]
  · exact kept other found hfound

/-! ## Reports -/

/-- What is reported of the object that is kept under a name. -/
def reportedAt {σ τ : Type} (objects : Dict (Resource σ τ)) (name : String) : Option τ :=
  (objects.get? name).bind (·.status)

/-- An upsert asks for something else, and keeps what was reported. -/
theorem wanted_status {σ τ : Type} (blank : σ) (objects : Dict (Resource σ τ)) (name : String)
    (spec : σ) (child : ChildMeta) :
    (wanted blank (objects.get? name) name spec child).status = reportedAt objects name := by
  unfold reportedAt
  cases objects.get? name <;> rfl

theorem reportedAt_insert {σ τ : Type} {objects : Dict (Resource σ τ)} {name : String}
    {object : Resource σ τ} (same : object.status = reportedAt objects name) (other : String) :
    reportedAt (objects.insert name object) other = reportedAt objects other := by
  unfold reportedAt at *
  rw [Dict.get?_insert]
  split
  · rename_i hname
    rw [hname, ← same]
    rfl
  · rfl

/-! ## Upserts on a store -/

theorem ite_reservations (store : MemoryStore) (wrote : Bool) (objects : Dict IPReservation) :
    (if wrote then { store with reservations := objects } else store) =
      { store with reservations := if wrote then objects else store.reservations } := by
  cases wrote <;> rfl

theorem upsertReservation_eq (store : MemoryStore) (name : String) (spec : IPReservationSpec)
    (child : ChildMeta) :
    (store.upsertReservation name spec child).2 =
      { store with
        reservations := store.reservations.insert name
          (wanted {} (store.reservations.get? name) name spec child)
        writes := store.writes ++
          writeEntry (store.upsertReservation name spec child).1 .ipReservation name } := by
  have hinsert := insert_if_wrote IPReservation.type_lawful {} store.reservations name spec child
  unfold upsertReservation
  dsimp only
  rw [desired_fst, ite_reservations, hinsert, logWrite_eq]

theorem upsertReservation_settled {store : MemoryStore} {name : String}
    {current : IPReservation} {spec : IPReservationSpec} {child : ChildMeta}
    (stored : store.reservations.get? name = some current)
    (settled : child.applyToResource spec current = current) :
    store.upsertReservation name spec child = (.unchanged, store) := by
  unfold upsertReservation
  rw [stored, desired_settled IPReservation.type_lawful _ _ settled]
  rfl

theorem ite_recordSets (store : MemoryStore) (wrote : Bool) (objects : Dict DNSRecordSet) :
    (if wrote then { store with recordSets := objects } else store) =
      { store with recordSets := if wrote then objects else store.recordSets } := by
  cases wrote <;> rfl

theorem serveRecordSet_of_get? {store : MemoryStore} {name : String} {recordSet : DNSRecordSet}
    (stored : store.recordSets.get? name = some recordSet) :
    store.serveRecordSet name =
      { store with
        recordSets :=
          store.recordSets.insert name { recordSet with status := some servedStatus } } := by
  unfold serveRecordSet
  rw [stored]

/-- The record set that is stored after an upsert of it. -/
def recordSetAfter (store : MemoryStore) (name : String) (spec : DNSRecordSetSpec)
    (child : ChildMeta) : DNSRecordSet :=
  let recordSet := wanted {} (store.recordSets.get? name) name spec child
  if store.recordSetsServed then { recordSet with status := some servedStatus } else recordSet

@[simp] theorem recordSetAfter_spec (store : MemoryStore) (name : String)
    (spec : DNSRecordSetSpec) (child : ChildMeta) :
    (store.recordSetAfter name spec child).spec = spec := by
  unfold recordSetAfter
  dsimp only
  split <;> rfl

/-- Where record sets are not served at once, writing one keeps what is reported of it. -/
theorem recordSetAfter_status {store : MemoryStore} (unserved : store.recordSetsServed = false)
    (name : String) (spec : DNSRecordSetSpec) (child : ChildMeta) :
    (store.recordSetAfter name spec child).status = reportedAt store.recordSets name := by
  unfold recordSetAfter
  rw [unserved]
  exact wanted_status {} store.recordSets name spec child

theorem upsertRecordSet_eq (store : MemoryStore) (name : String) (spec : DNSRecordSetSpec)
    (child : ChildMeta) :
    (store.upsertRecordSet name spec child).2 =
      { store with
        recordSets := store.recordSets.insert name (store.recordSetAfter name spec child)
        writes := store.writes ++
          writeEntry (store.upsertRecordSet name spec child).1 .dnsRecordSet name } := by
  have hinsert := insert_if_wrote DNSRecordSet.type_lawful {} store.recordSets name spec child
  unfold upsertRecordSet recordSetAfter
  dsimp only
  rw [desired_fst, ite_recordSets, hinsert, logWrite_eq]
  cases hserved : store.recordSetsServed with
  | false => simp
  | true =>
      simp only [if_true]
      rw [serveRecordSet_of_get? (Dict.get?_insert_self ..)]
      simp only [Dict.insert_insert]

theorem upsertRecordSet_settled {store : MemoryStore} {name : String} {current : DNSRecordSet}
    {spec : DNSRecordSetSpec} {child : ChildMeta}
    (stored : store.recordSets.get? name = some current)
    (settled : child.applyToResource spec current = current)
    (served : store.recordSetsServed = true → current.status = some servedStatus) :
    store.upsertRecordSet name spec child = (.unchanged, store) := by
  unfold upsertRecordSet
  rw [stored, desired_settled DNSRecordSet.type_lawful _ _ settled]
  cases hserved : store.recordSetsServed with
  | false => simp [logWrite, UpsertOutcome.wrote]
  | true =>
      have hstatus : { current with status := some servedStatus } = current := by
        rw [← served hserved]
      simp [logWrite, UpsertOutcome.wrote, serveRecordSet_of_get? stored, hstatus,
        Dict.insert_of_get? stored]

/-- What an upsert of a record set leaves stored, the same upsert leaves as it is. -/
theorem recordSetAfter_settled (store : MemoryStore) (name : String) (spec : DNSRecordSetSpec)
    (child : ChildMeta) :
    child.applyToResource spec (store.recordSetAfter name spec child) =
      store.recordSetAfter name spec child := by
  unfold recordSetAfter
  dsimp only
  split
  · exact child.applyToResource_of_report spec _ _
  · exact child.applyToResource_applyToResource spec _

theorem recordSetAfter_served {store : MemoryStore} (served : store.recordSetsServed = true)
    (name : String) (spec : DNSRecordSetSpec) (child : ChildMeta) :
    (store.recordSetAfter name spec child).status = some servedStatus := by
  simp [recordSetAfter, served]

/-! ## Calls -/

open StoreScript

variable {store : MemoryStore}

theorem serve_fault {request : StoreCall} {cause : Cause}
    (fault : store.faults request = some cause) :
    serve request store = (.error cause, store.logCall request) := by
  simp [serve, fault]

theorem serve_ok {request : StoreCall} (sound : store.faults request = none) :
    serve request store = (store.logCall request).answer request := by
  simp [serve, sound]

theorem runs_fault {request : StoreCall} {cause : Cause}
    (fault : store.faults request = some cause) :
    Runs serve (StoreAction.perform request).run store (.error (request.failed cause))
      (store.logCalls [request]) [Attempt.failed request cause] :=
  Runs.perform_error (serve_fault fault)

theorem runs_listNetConfigs {ns : String} (sound : store.faults (.listNetConfigs ns) = none) :
    Runs serve (StoreAction.perform (.listNetConfigs ns)).run store (.ok store.netConfigs)
      (store.logCalls [.listNetConfigs ns]) [Attempt.success (.listNetConfigs ns)] :=
  Runs.perform_ok (serve_ok sound)

theorem runs_listDnsServices {ns : String} (sound : store.faults (.listDnsServices ns) = none) :
    Runs serve (StoreAction.perform (.listDnsServices ns)).run store (.ok store.dnsServices)
      (store.logCalls [.listDnsServices ns]) [Attempt.success (.listDnsServices ns)] :=
  Runs.perform_ok (serve_ok sound)

theorem runs_getReservation {ns name : String} {reservation : IPReservation}
    (sound : store.faults (.getReservation ns name) = none)
    (stored : store.reservations.get? name = some reservation) :
    Runs serve (StoreAction.perform (.getReservation ns name)).run store (.ok reservation)
      (store.logCalls [.getReservation ns name]) [Attempt.success (.getReservation ns name)] := by
  apply Runs.perform_ok
  rw [serve_ok sound]
  simp [answer, logCall_eq, logCalls, stored, found]

theorem runs_getRecordSet {ns name : String} {recordSet : DNSRecordSet}
    (sound : store.faults (.getRecordSet ns name) = none)
    (stored : store.recordSets.get? name = some recordSet) :
    Runs serve (StoreAction.perform (.getRecordSet ns name)).run store (.ok recordSet)
      (store.logCalls [.getRecordSet ns name]) [Attempt.success (.getRecordSet ns name)] := by
  apply Runs.perform_ok
  rw [serve_ok sound]
  simp [answer, logCall_eq, logCalls, stored, found]

theorem runs_upsertReservation {ns name : String} {spec : IPReservationSpec} {child : ChildMeta}
    (sound : store.faults (.upsertReservation ns name spec child) = none) :
    let request := StoreCall.upsertReservation ns name spec child
    Runs serve (StoreAction.perform request).run store
      (.ok ((store.logCalls [request]).upsertReservation name spec child).1)
      ((store.logCalls [request]).upsertReservation name spec child).2
      [Attempt.success request] :=
  Runs.perform_ok (serve_ok sound)

theorem runs_upsertRecordSet {ns name : String} {spec : DNSRecordSetSpec} {child : ChildMeta}
    (sound : store.faults (.upsertRecordSet ns name spec child) = none) :
    let request := StoreCall.upsertRecordSet ns name spec child
    Runs serve (StoreAction.perform request).run store
      (.ok ((store.logCalls [request]).upsertRecordSet name spec child).1)
      ((store.logCalls [request]).upsertRecordSet name spec child).2
      [Attempt.success request] :=
  Runs.perform_ok (serve_ok sound)

end MemoryStore

end NodeIdentity
