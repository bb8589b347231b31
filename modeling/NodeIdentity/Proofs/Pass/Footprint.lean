import NodeIdentity.Proofs.Pass.ChildReports

/-!
# What a pass touches

A pass writes to the reservations of planned nodes and to the record set of its node set, and to
nothing else.  Of a child that was there before, it changes what the child is asked for, the labels
and owners that mark it, and no other part.  One write leaves the rest of its object, so any number
of them do, and it does not matter where the pass ended.
-/

namespace NodeIdentity

open StoreScript MemoryStore

/-! ## The rest of a child -/

/-- Metadata without its labels and owners. -/
def ObjectMeta.unmarked (metadata : ObjectMeta) : ObjectMeta :=
  { metadata with labels := none, ownerReferences := none }

/--
All that a child mark does not own is on a later state of an object as it was: the other metadata,
labels of other names, and owners that others have put there, in their order.
-/
structure ChildMeta.LeavesRest {σ τ : Type} (child : ChildMeta) (before after : Resource σ τ) :
    Prop where
  unmarked : after.metadata.unmarked = before.metadata.unmarked
  labels : ∀ name, child.labels.get? name = none →
    (after.metadata.labels.getD ∅).get? name = (before.metadata.labels.getD ∅).get? name
  owners : (after.metadata.ownerReferences.getD []).filter child.owner.isForeign =
    (before.metadata.ownerReferences.getD []).filter child.owner.isForeign

namespace ChildMeta.LeavesRest

variable {σ τ : Type} {child : ChildMeta} {first second third : Resource σ τ}

theorem refl (child : ChildMeta) (resource : Resource σ τ) :
    child.LeavesRest resource resource where
  unmarked := rfl
  labels _ _ := rfl
  owners := rfl

theorem trans (early : child.LeavesRest first second) (late : child.LeavesRest second third) :
    child.LeavesRest first third where
  unmarked := late.unmarked.trans early.unmarked
  labels name foreign := (late.labels name foreign).trans (early.labels name foreign)
  owners := late.owners.trans early.owners

theorem applyToResource (child : ChildMeta) (spec : σ) (resource : Resource σ τ) :
    child.LeavesRest resource (child.applyToResource spec resource) where
  unmarked := rfl
  labels := (child.applyToResource_spares spec resource).labels
  owners := (child.applyToResource_spares spec resource).owners

end ChildMeta.LeavesRest

/-! ## Stored children -/

/-- Every object that was kept is kept under its name, and a child mark has left the rest of it. -/
def KeepsRest {σ τ : Type} (child : ChildMeta) (objects later : Dict (Resource σ τ)) : Prop :=
  ∀ name before, objects.get? name = some before →
    ∃ after, later.get? name = some after ∧ child.LeavesRest before after

namespace KeepsRest

variable {σ τ : Type} {child : ChildMeta} {first second third : Dict (Resource σ τ)}

theorem refl (child : ChildMeta) (objects : Dict (Resource σ τ)) :
    KeepsRest child objects objects := by
  intro name before stored
  exact ⟨before, stored, .refl child before⟩

theorem trans (early : KeepsRest child first second) (late : KeepsRest child second third) :
    KeepsRest child first third := by
  intro name before stored
  obtain ⟨middle, hmiddle, hearly⟩ := early name before stored
  obtain ⟨after, hafter, hlate⟩ := late name middle hmiddle
  exact ⟨after, hafter, hearly.trans hlate⟩

/-- Storing an object is harmless where it leaves the rest of the one that it replaces. -/
theorem insert {objects : Dict (Resource σ τ)} {name : String} {object : Resource σ τ}
    (leaves : ∀ before, objects.get? name = some before → child.LeavesRest before object) :
    KeepsRest child objects (objects.insert name object) := by
  intro other before stored
  by_cases hname : other = name
  · subst hname
    exact ⟨object, objects.get?_insert_self other object, leaves before stored⟩
  · refine ⟨before, ?_, .refl child before⟩
    rw [Dict.get?_insert, if_neg hname, stored]

end KeepsRest

theorem leavesRest_wanted {σ τ : Type} (blank : σ) {stored : Option (Resource σ τ)}
    {before : Resource σ τ} (found : stored = some before) (name : String) (spec : σ)
    (child : ChildMeta) : child.LeavesRest before (wanted blank stored name spec child) := by
  subst found
  exact .applyToResource child spec before

/-- Writing reservations of planned nodes, however many, leaves the rest of them. -/
theorem keepsRest_reservedAll (child : ChildMeta) (reservations : Dict IPReservation)
    (plan : List PlannedNode) :
    KeepsRest child reservations (reservedAll child reservations plan) := by
  induction plan generalizing reservations with
  | nil => exact .refl child reservations
  | cons node rest ih =>
      have hwrite : KeepsRest child reservations
          (reservations.insert node.name (reservationOf child reservations node)) := by
        apply KeepsRest.insert
        intro before stored
        exact leavesRest_wanted {} stored node.name { networks := node.networks } child
      exact hwrite.trans (ih _)

theorem leavesRest_recordSetAfter {store : MemoryStore} {name : String} {before : DNSRecordSet}
    (stored : store.recordSets.get? name = some before) (spec : DNSRecordSetSpec)
    (child : ChildMeta) : child.LeavesRest before (store.recordSetAfter name spec child) := by
  have hwanted := leavesRest_wanted {} stored name spec child
  unfold recordSetAfter
  dsimp only
  split
  · exact ⟨hwanted.unmarked, hwanted.labels, hwanted.owners⟩
  · exact hwanted

/-! ## Passes -/

/-- A store has changed in the children of a node set only, and of those in their own parts only. -/
structure TouchesOwnChildren (nodeSet : NodeSet) (store after : MemoryStore) : Prop where
  netConfigs : after.netConfigs = store.netConfigs
  dnsServices : after.dnsServices = store.dnsServices
  unplanned : ∀ name, (∀ node ∈ planReservations nodeSet.spec, node.name ≠ name) →
    after.reservations.get? name = store.reservations.get? name
  otherRecordSets : ∀ name, name ≠ nodeSet.name →
    after.recordSets.get? name = store.recordSets.get? name
  reservations : KeepsRest (nodeSet.childMeta .ipReservation) store.reservations after.reservations
  reservations_reported : ∀ name,
    reportedAt after.reservations name = reportedAt store.reservations name
  recordSets : KeepsRest (nodeSet.childMeta .dnsRecords) store.recordSets after.recordSets
  recordSets_reported : ∀ name,
    reportedAt after.recordSets name = reportedAt store.recordSets name ∨
      store.recordSetsServed = true ∧ reportedAt after.recordSets name = some servedStatus

namespace PassCourse

variable {nodeSet : NodeSet} {store after : MemoryStore} {ending : PassEnding}
  {made : List Attempt}

theorem keepsRest_reservations (course : PassCourse nodeSet store ending after made) :
    KeepsRest (nodeSet.childMeta .ipReservation) store.reservations after.reservations := by
  obtain ⟨written, -, hafter⟩ := course.reservations_eq
  rw [hafter]
  exact keepsRest_reservedAll _ store.reservations written

theorem keepsRest_recordSets (course : PassCourse nodeSet store ending after made) :
    KeepsRest (nodeSet.childMeta .dnsRecords) store.recordSets after.recordSets := by
  rcases course.recordSets_eq with huntouched | ⟨spec, hinserted⟩
  · rw [huntouched]
    exact .refl _ store.recordSets
  · rw [hinserted]
    apply KeepsRest.insert
    intro before stored
    exact leavesRest_recordSetAfter stored spec _

/-- What is reported of a record set changes only where record sets are served at once. -/
theorem recordSets_reported_or (course : PassCourse nodeSet store ending after made)
    (name : String) :
    reportedAt after.recordSets name = reportedAt store.recordSets name ∨
      store.recordSetsServed = true ∧ reportedAt after.recordSets name = some servedStatus := by
  cases hserved : store.recordSetsServed with
  | false => exact Or.inl (course.recordSets_reported hserved name)
  | true =>
      rcases course.recordSets_eq with huntouched | ⟨spec, hinserted⟩
      · left
        rw [huntouched]
      · by_cases hname : name = nodeSet.name
        · right
          have hstatus : (nodeSet.recordSetIn store spec).status = some servedStatus :=
            recordSetAfter_served hserved nodeSet.name spec _
          refine ⟨rfl, ?_⟩
          unfold reportedAt
          rw [hinserted, hname, Dict.get?_insert_self, Option.bind_some, hstatus]
        · left
          unfold reportedAt
          rw [hinserted, Dict.get?_insert, if_neg hname]

theorem touchesOwnChildren (course : PassCourse nodeSet store ending after made) :
    TouchesOwnChildren nodeSet store after := by
  obtain ⟨written, hframe⟩ := course.frame
  constructor
  case netConfigs => rw [hframe]
  case dnsServices => rw [hframe]
  case unplanned =>
    intro name unplanned
    apply Classical.byContradiction
    intro changed
    obtain ⟨node, planned, hname⟩ := course.planned_of_changed changed
    exact unplanned node planned hname
  case otherRecordSets =>
    intro name other
    apply Classical.byContradiction
    intro changed
    exact other (course.eq_name_of_changed changed)
  case reservations => exact course.keepsRest_reservations
  case reservations_reported => exact course.reservations_reported
  case recordSets => exact course.keepsRest_recordSets
  case recordSets_reported => exact course.recordSets_reported_or

end PassCourse

/--
Whatever is stored, whichever calls fail and wherever a pass ends, it changes no network
configuration, no name service and no child of others, and removes nothing.  In its own children
it changes what they are asked for, the labels of a child and the owners that control them or are
the node set itself; the status of a record set changes only where record sets are served at once.
-/
theorem pass_touches_own_children (nodeSet : NodeSet) (updater : StatusUpdater) (now : String)
    (store : MemoryStore) :
    TouchesOwnChildren nodeSet store ((runPass nodeSet updater now).run serve store).2 := by
  obtain ⟨ending, after, made, course⟩ := PassCourse.exists_passCourse nodeSet store
  rw [(course.runs updater now).run_eq]
  exact course.touchesOwnChildren

end NodeIdentity
