import NodeIdentity.Proofs.Resource.Ownership
import NodeIdentity.Proofs.Store.Memory
import NodeIdentity.Store.Peers

/-!
# When an upsert writes

An upsert creates an object that is not there, leaves one alone that is as it is asked for, and
updates any other.  It logs a write exactly if it made one, keeps what was reported of the object
and touches no other; issued again, it finds nothing to do, whatever was reported meanwhile.  One
that is made to fail leaves its trace in the log of calls only.
-/

namespace NodeIdentity

namespace MemoryStore

section Wanted

variable {σ τ : Type} {type : ResourceType σ τ}

theorem desired_created_iff (type : ResourceType σ τ) (blank : σ)
    (stored : Option (Resource σ τ)) (name : String) (spec : σ) (child : ChildMeta) :
    (desired type blank stored name spec child).2 = .created ↔ stored = none := by
  cases stored with
  | none => simp [desired]
  | some current =>
      unfold desired
      dsimp only
      split <;> simp

theorem desired_unchanged_iff (lawful : type.Lawful) (blank : σ)
    (stored : Option (Resource σ τ)) (name : String) (spec : σ) (child : ChildMeta) :
    (desired type blank stored name spec child).2 = .unchanged ↔
      ∃ current, stored = some current ∧ child.applyToResource spec current = current := by
  cases stored with
  | none => simp [desired]
  | some current =>
      by_cases hsettled : child.applyToResource spec current = current
      · rw [desired_settled lawful blank name hsettled]
        simp [hsettled]
      · have hneeds : type.needsWrite current (child.applyToResource spec current) = true :=
          lawful.needsWrite_iff.2 (Ne.symm hsettled)
        simp [desired, hneeds, hsettled]

theorem desired_updated_iff (lawful : type.Lawful) (blank : σ)
    (stored : Option (Resource σ τ)) (name : String) (spec : σ) (child : ChildMeta) :
    (desired type blank stored name spec child).2 = .updated ↔
      ∃ current, stored = some current ∧ child.applyToResource spec current ≠ current := by
  have hcreated := desired_created_iff type blank stored name spec child
  have hunchanged := desired_unchanged_iff lawful blank stored name spec child
  cases houtcome : (desired type blank stored name spec child).2 with
  | created =>
      rw [hcreated.1 houtcome]
      simp
  | updated =>
      rw [houtcome] at hcreated hunchanged
      cases stored with
      | none => simp at hcreated
      | some current => simpa using hunchanged
  | unchanged =>
      obtain ⟨current, rfl, hsettled⟩ := hunchanged.1 houtcome
      simp [hsettled]

end Wanted

/-! ## Children of a kind -/

/-- The children of a kind in a store: where they are kept, and the call that upserts one. -/
structure ChildTable (σ τ : Type) where
  kind : Kind
  kept : MemoryStore → Dict (Resource σ τ)
  /-- The store with other children of the kind and other logs. -/
  put (store : MemoryStore) (objects : Dict (Resource σ τ)) (writes : List StoreWrite)
    (calls : List StoreCall) : MemoryStore
  request (ns name : String) (spec : σ) (child : ChildMeta) : StoreCall
  upsert (ns name : String) (spec : σ) (child : ChildMeta) (store : MemoryStore) :
    Except Cause UpsertOutcome × MemoryStore
  /-- The store where something else is reported of a child. -/
  report : MemoryStore → String → Option τ → MemoryStore

def reservationTable : ChildTable IPReservationSpec IPReservationStatus where
  kind := .ipReservation
  kept := reservations
  put store objects writes calls :=
    { store with reservations := objects, writes := writes, calls := calls }
  request := .upsertReservation
  upsert ns name spec child store := serve (.upsertReservation ns name spec child) store
  report := reportReservation

def recordSetTable : ChildTable DNSRecordSetSpec DNSRecordSetStatus where
  kind := .dnsRecordSet
  kept := recordSets
  put store objects writes calls :=
    { store with recordSets := objects, writes := writes, calls := calls }
  request := .upsertRecordSet
  upsert ns name spec child store := serve (.upsertRecordSet ns name spec child) store
  report := reportRecordSet

namespace ChildTable

variable {σ τ : Type} {table : ChildTable σ τ} {type : ResourceType σ τ} {blank : σ}
  {ns name : String} {spec : σ} {child : ChildMeta} {store : MemoryStore}

/-- What the outcome of an upsert tells of the children before it and behind it. -/
structure UpsertTold (table : ChildTable σ τ) (name : String) (spec : σ) (child : ChildMeta)
    (store : MemoryStore) (outcome : UpsertOutcome) (after : MemoryStore) : Prop where
  created_iff : outcome = .created ↔ (table.kept store).get? name = none
  unchanged_iff : outcome = .unchanged ↔
    ∃ current, (table.kept store).get? name = some current ∧
      child.applyToResource spec current = current
  updated_iff : outcome = .updated ↔
    ∃ current, (table.kept store).get? name = some current ∧
      child.applyToResource spec current ≠ current
  idle : outcome = .unchanged →
    table.kept after = table.kept store ∧ after.writes = store.writes
  logged : outcome ≠ .unchanged →
    after.writes = store.writes ++ [⟨outcome, table.kind, name⟩]
  stored : ∃ object, (table.kept after).get? name = some object ∧ object.spec = spec ∧
    (∀ label value, child.labels.get? label = some value →
      object.metadata.label? label = some value) ∧
    child.owner ∈ object.metadata.owners ∧
    object.status = reportedAt (table.kept store) name
  others : ∀ other, other ≠ name → (table.kept after).get? other = (table.kept store).get? other

/-- What is answered to an upsert, and what it leaves. -/
structure Answers (table : ChildTable σ τ) (ns name : String) (spec : σ) (child : ChildMeta)
    (store : MemoryStore) : Prop where
  fault : ∀ cause, store.faults (table.request ns name spec child) = some cause →
    table.upsert ns name spec child store =
      (.error cause, store.logCall (table.request ns name spec child))
  /-- Otherwise the outcome tells what was done, and once more there is nothing to do. -/
  sound : store.faults (table.request ns name spec child) = none →
    ∃ outcome after, table.upsert ns name spec child store = (.ok outcome, after) ∧
      table.UpsertTold name spec child store outcome after ∧
      after = table.put store (table.kept after) after.writes
        (store.calls ++ [table.request ns name spec child]) ∧
      table.upsert ns name spec child after =
        (.ok .unchanged, after.logCall (table.request ns name spec child)) ∧
      ∀ status, table.upsert ns name spec child (table.report after name status) =
        (.ok .unchanged,
          (table.report after name status).logCall (table.request ns name spec child))

def wantedIn (table : ChildTable σ τ) (blank : σ) (store : MemoryStore) (name : String) (spec : σ)
    (child : ChildMeta) : Resource σ τ :=
  wanted blank ((table.kept store).get? name) name spec child

def outcomeIn (table : ChildTable σ τ) (type : ResourceType σ τ) (blank : σ) (store : MemoryStore)
    (name : String) (spec : σ) (child : ChildMeta) : UpsertOutcome :=
  (desired type blank ((table.kept store).get? name) name spec child).2

/--
Upserts on the table store what is wanted, on the stores that fit: those that leave it as it was
written.
-/
structure Lawful (table : ChildTable σ τ) (type : ResourceType σ τ) (blank : σ)
    (Fits : MemoryStore → Prop) : Prop where
  type_lawful : type.Lawful
  kept_put : ∀ store objects writes calls, table.kept (table.put store objects writes calls) = objects
  writes_put : ∀ store objects writes calls,
    (table.put store objects writes calls).writes = writes
  faults_put : ∀ store objects writes calls,
    (table.put store objects writes calls).faults = store.faults
  put_kept : ∀ store calls,
    table.put store (table.kept store) store.writes calls = { store with calls := calls }
  fits_put : ∀ store objects writes calls, Fits store → Fits (table.put store objects writes calls)
  fault : ∀ ns name spec child store cause,
    store.faults (table.request ns name spec child) = some cause →
    table.upsert ns name spec child store =
      (.error cause, store.logCall (table.request ns name spec child))
  sound : ∀ ns name spec child store, Fits store →
    store.faults (table.request ns name spec child) = none →
    table.upsert ns name spec child store =
      (.ok (table.outcomeIn type blank store name spec child),
        table.put store
          ((table.kept store).insert name (table.wantedIn blank store name spec child))
          (store.writes ++
            writeEntry (table.outcomeIn type blank store name spec child) table.kind name)
          (store.calls ++ [table.request ns name spec child]))
  report : ∀ store name object status, (table.kept store).get? name = some object →
    table.report store name status = table.put store
      ((table.kept store).insert name { object with status := status }) store.writes store.calls

namespace Lawful

variable {Fits : MemoryStore → Prop}

theorem settled (lawful : table.Lawful type blank Fits) (fits : Fits store)
    (sound : store.faults (table.request ns name spec child) = none) {current : Resource σ τ}
    (stored : (table.kept store).get? name = some current)
    (settled : child.applyToResource spec current = current) :
    table.upsert ns name spec child store =
      (.ok .unchanged, store.logCall (table.request ns name spec child)) := by
  have hwanted : table.wantedIn blank store name spec child = current := by
    unfold wantedIn
    rw [stored]
    exact settled
  have houtcome : table.outcomeIn type blank store name spec child = .unchanged :=
    (desired_unchanged_iff lawful.type_lawful blank _ name spec child).2 ⟨current, stored, settled⟩
  rw [lawful.sound ns name spec child store fits sound, hwanted, houtcome,
    Dict.insert_of_get? stored]
  refine congrArg (Prod.mk _) ?_
  show table.put store (table.kept store) (store.writes ++ []) _ = _
  rw [List.append_nil, lawful.put_kept]
  rfl

theorem upsertTold (lawful : table.Lawful type blank Fits) (store : MemoryStore) (name : String)
    (spec : σ) (child : ChildMeta) (calls : List StoreCall) :
    let outcome := table.outcomeIn type blank store name spec child
    table.UpsertTold name spec child store outcome
      (table.put store
        ((table.kept store).insert name (table.wantedIn blank store name spec child))
        (store.writes ++ writeEntry outcome table.kind name) calls) := by
  intro outcome
  have hunchanged : outcome = .unchanged ↔ _ :=
    desired_unchanged_iff lawful.type_lawful blank ((table.kept store).get? name) name spec child
  constructor
  case created_iff => exact desired_created_iff type blank _ name spec child
  case unchanged_iff => exact hunchanged
  case updated_iff => exact desired_updated_iff lawful.type_lawful blank _ name spec child
  case idle =>
    intro idle
    obtain ⟨current, hstored, hsettled⟩ := hunchanged.1 idle
    have hwanted : table.wantedIn blank store name spec child = current := by
      unfold wantedIn
      rw [hstored]
      exact hsettled
    rw [lawful.kept_put, lawful.writes_put, hwanted, Dict.insert_of_get? hstored, idle]
    exact ⟨rfl, List.append_nil _⟩
  case logged =>
    intro wrote
    rw [lawful.writes_put]
    unfold writeEntry
    rw [if_pos (by cases h : outcome <;> simp_all [UpsertOutcome.wrote])]
  case stored =>
    rw [lawful.kept_put]
    refine ⟨_, Dict.get?_insert_self .., rfl, ?_, mem_claimOwner_self _ _,
      wanted_status blank (table.kept store) name spec child⟩
    intro label value hlabel
    show (child.applyTo _).label? label = some value
    rw [ChildMeta.applyTo_label?, hlabel, Option.some_or]
  case others =>
    intro other hne
    rw [lawful.kept_put, Dict.get?_insert, if_neg hne]

theorem answers (lawful : table.Lawful type blank Fits) (fits : Fits store) (ns name : String)
    (spec : σ) (child : ChildMeta) : table.Answers ns name spec child store := by
  constructor
  case fault => exact lawful.fault ns name spec child store
  case sound =>
    intro sound
    let object := table.wantedIn blank store name spec child
    let after := table.put store ((table.kept store).insert name object)
      (store.writes ++
        writeEntry (table.outcomeIn type blank store name spec child) table.kind name)
      (store.calls ++ [table.request ns name spec child])
    have hstored : (table.kept after).get? name = some object := by
      rw [lawful.kept_put, Dict.get?_insert_self]
    have hsound : after.faults (table.request ns name spec child) = none := by
      rw [lawful.faults_put, sound]
    have hfits : Fits after := lawful.fits_put _ _ _ _ fits
    refine ⟨_, after, lawful.sound ns name spec child store fits sound,
      lawful.upsertTold store name spec child _, ?_, ?_, ?_⟩
    · rw [lawful.kept_put, lawful.writes_put]
    · exact lawful.settled hfits hsound hstored (child.applyToResource_applyToResource spec _)
    · intro status
      have hsettled : child.applyToResource spec { object with status := status } =
          { object with status := status } :=
        child.applyToResource_of_report spec _ status
      rw [lawful.report after name object status hstored]
      refine lawful.settled (lawful.fits_put _ _ _ _ hfits) ?_ ?_ hsettled
      · rw [lawful.faults_put, hsound]
      · rw [lawful.kept_put, Dict.get?_insert_self]

end Lawful

end ChildTable

theorem reservationTable_lawful :
    reservationTable.Lawful IPReservation.type {} (fun _ => True) where
  type_lawful := IPReservation.type_lawful
  kept_put _ _ _ _ := rfl
  writes_put _ _ _ _ := rfl
  faults_put _ _ _ _ := rfl
  put_kept _ _ := rfl
  fits_put _ _ _ _ _ := trivial
  fault _ _ _ _ _ _ fault := serve_fault fault
  sound ns name spec child store _ sound := by
    have hafter := upsertReservation_eq
      (store.logCall (.upsertReservation ns name spec child)) name spec child
    exact (serve_ok sound).trans (congrArg (Prod.mk _) hafter)
  report store name object status stored := by
    show store.reportReservation name status = _
    unfold reportReservation
    rw [show store.reservations.get? name = some object from stored]
    rfl

theorem recordSetTable_lawful :
    recordSetTable.Lawful DNSRecordSet.type {} (fun store => store.recordSetsServed = false) where
  type_lawful := DNSRecordSet.type_lawful
  kept_put _ _ _ _ := rfl
  writes_put _ _ _ _ := rfl
  faults_put _ _ _ _ := rfl
  put_kept _ _ := rfl
  fits_put _ _ _ _ unserved := unserved
  fault _ _ _ _ _ _ fault := serve_fault fault
  sound ns name spec child store unserved sound := by
    have hafter := upsertRecordSet_eq
      (store.logCall (.upsertRecordSet ns name spec child)) name spec child
    -- What was written is shown as served only where record sets are served at once.
    have hwritten : (store.logCall (.upsertRecordSet ns name spec child)).recordSetAfter name spec
        child = recordSetTable.wantedIn {} store name spec child := by
      unfold recordSetAfter
      rw [show (store.logCall _).recordSetsServed = false from unserved]
      rfl
    rw [hwritten] at hafter
    exact (serve_ok sound).trans (congrArg (Prod.mk _) hafter)
  report store name object status stored := by
    show store.reportRecordSet name status = _
    unfold reportRecordSet
    rw [show store.recordSets.get? name = some object from stored]
    rfl

end MemoryStore

/--
On every store, an upsert of a reservation writes exactly where something is to be written, and so
does one of a record set where record sets are not served at once.
-/
theorem upserts_write_where_needed (store : MemoryStore) (ns name : String) (child : ChildMeta) :
    (∀ spec, MemoryStore.reservationTable.Answers ns name spec child store) ∧
      (store.recordSetsServed = false →
        ∀ spec, MemoryStore.recordSetTable.Answers ns name spec child store) :=
  ⟨fun spec => MemoryStore.reservationTable_lawful.answers trivial ns name spec child,
    fun unserved spec => MemoryStore.recordSetTable_lawful.answers unserved ns name spec child⟩

end NodeIdentity
