import NodeIdentity.Proofs.Status.Conditions
import NodeIdentity.Status.Updater

/-!
# Updates that were made before

An update that a status shows already leaves the whole updater as it is: the time of the condition
stays, and no transition is noted.  So a status settles as soon as every update of a pass is shown
in what the pass leaves.
-/

namespace NodeIdentity

/-- What a status publishes. -/
def NodeSetStatus.identity (status : NodeSetStatus) : PublishedIdentity where
  dnsClusterAddresses := status.dnsClusterAddresses
  ctlplaneSearchDomain := status.ctlplaneSearchDomain
  allHostnames := status.allHostnames
  allIPs := status.allIPs

namespace Feature

/-- The message of the condition that shows a part, with a detail behind it if there is one. -/
def messageWith (feature : Feature) (state : ConditionState) : Option String → String
  | some detail => feature.message state ++ ": " ++ detail
  | none => feature.message state

theorem conditionType_ne_readyType (feature : Feature) :
    feature.conditionType ≠ Condition.readyType := by
  cases feature <;> simp [conditionType, Condition.readyType]

theorem conditionType_ne {feature other : Feature} (h : feature ≠ other) :
    feature.conditionType ≠ other.conditionType := by
  cases feature <;> cases other <;> simp_all [conditionType]

end Feature

namespace StatusUpdater

variable {updater again : StatusUpdater} {now type message : String} {state : ConditionState}

/-! ## Frames -/

theorem setState_status (updater : StatusUpdater) (now type : String) (state : ConditionState)
    (message : String) :
    (updater.setState now type state message).status =
      { updater.status with
        conditions :=
          NodeIdentity.setCondition now (state.condition type message)
            updater.status.conditions } := by
  unfold setState
  dsimp only
  split <;> rfl

theorem mark_eq_setState (updater : StatusUpdater) (now : String) (feature : Feature)
    (state : ConditionState) (detail : Option String) :
    updater.mark now feature state detail =
      updater.setState now feature.conditionType state (feature.messageWith state detail) := by
  cases detail <;> rfl

@[simp] theorem mark_observedGeneration (updater : StatusUpdater) (now : String)
    (feature : Feature) (state : ConditionState) (detail : Option String) :
    (updater.mark now feature state detail).status.observedGeneration =
      updater.status.observedGeneration := by
  rw [mark_eq_setState, setState_status]

@[simp] theorem setIdentity_observedGeneration (updater : StatusUpdater)
    (identity : PublishedIdentity) :
    (updater.setIdentity identity).status.observedGeneration =
      updater.status.observedGeneration := rfl

@[simp] theorem markOverall_observedGeneration (updater : StatusUpdater) (now : String) :
    (updater.markOverall now).status.observedGeneration = updater.status.observedGeneration := by
  unfold markOverall
  rw [setState_status]

@[simp] theorem markOverall_identity (updater : StatusUpdater) (now : String) :
    (updater.markOverall now).status.identity = updater.status.identity := by
  unfold markOverall
  rw [setState_status]
  rfl

/-- Updates keep the types of conditions distinct. -/
theorem distinctTypes_setState (distinct : DistinctTypes updater.status.conditions)
    (now type : String) (state : ConditionState) (message : String) :
    DistinctTypes (updater.setState now type state message).status.conditions := by
  rw [setState_status]
  exact distinct.setCondition now _

theorem distinctTypes_mark (distinct : DistinctTypes updater.status.conditions) (now : String)
    (feature : Feature) (state : ConditionState) (detail : Option String) :
    DistinctTypes (updater.mark now feature state detail).status.conditions := by
  rw [mark_eq_setState]
  exact distinctTypes_setState distinct now _ _ _

theorem distinctTypes_markOverall (distinct : DistinctTypes updater.status.conditions)
    (now : String) : DistinctTypes (updater.markOverall now).status.conditions :=
  distinctTypes_setState distinct now _ _ _

/-! ## Updates that are shown -/

theorem setState_of_shows (shows : Shows updater.status.conditions type state message)
    (now : String) : updater.setState now type state message = updater := by
  have hstate : updater.state? type = some state := shows.find?
  unfold setState
  dsimp only
  rw [if_pos hstate]
  unfold setCondition
  rw [shows.setCondition_eq now]

theorem setObservedGeneration_of_eq {generation : Option Int64}
    (h : updater.status.observedGeneration = generation) :
    updater.setObservedGeneration generation = updater := by
  subst h
  rfl

theorem setIdentity_of_eq {identity : PublishedIdentity} (h : updater.status.identity = identity) :
    updater.setIdentity identity = updater := by
  subst h
  rfl

/-- The status shows a part in a state, with a detail if there is one. -/
def IsMarked (updater : StatusUpdater) (feature : Feature) (state : ConditionState)
    (detail : Option String) : Prop :=
  Shows updater.status.conditions feature.conditionType state (feature.messageWith state detail)

theorem isMarked_mark (updater : StatusUpdater) (now : String) (feature : Feature)
    (state : ConditionState) (detail : Option String) :
    (updater.mark now feature state detail).IsMarked feature state detail := by
  unfold IsMarked
  rw [mark_eq_setState, setState_status]
  exact Shows.of_setCondition ..

namespace IsMarked

variable {feature : Feature} {detail : Option String}

theorem state? (marked : updater.IsMarked feature state detail) :
    updater.state? feature.conditionType = some state :=
  Shows.find? marked

theorem mark_eq (marked : updater.IsMarked feature state detail) (now : String) :
    updater.mark now feature state detail = updater := by
  rw [mark_eq_setState]
  exact setState_of_shows marked now

theorem mark_of_ne (marked : updater.IsMarked feature state detail) {other : Feature}
    (h : feature ≠ other) (now : String) (state' : ConditionState) (detail' : Option String) :
    (updater.mark now other state' detail').IsMarked feature state detail := by
  unfold IsMarked
  rw [mark_eq_setState, setState_status]
  exact Shows.setCondition_of_ne marked (Feature.conditionType_ne h) now

theorem setIdentity (marked : updater.IsMarked feature state detail)
    (identity : PublishedIdentity) : (updater.setIdentity identity).IsMarked feature state detail :=
  marked

theorem markOverall (marked : updater.IsMarked feature state detail) (now : String) :
    (updater.markOverall now).IsMarked feature state detail := by
  unfold IsMarked StatusUpdater.markOverall
  rw [setState_status]
  exact Shows.setCondition_of_ne marked feature.conditionType_ne_readyType now

theorem congr (marked : updater.IsMarked feature state detail)
    (same : again.status = updater.status) : again.IsMarked feature state detail := by
  unfold IsMarked
  rw [same]
  exact marked

end IsMarked

/-! ## The whole -/

theorem overall_congr (same : again.status = updater.status) : again.overall = updater.overall := by
  unfold overall StatusUpdater.state?
  rw [same]

/-- The condition of the whole has a type of its own, so those of the parts are not touched. -/
theorem state?_markOverall (updater : StatusUpdater) (now : String) (feature : Feature) :
    (updater.markOverall now).state? feature.conditionType =
      updater.state? feature.conditionType := by
  unfold markOverall StatusUpdater.state? ConditionState.find?
  rw [setState_status]
  exact congrArg (Option.map ConditionState.ofCondition)
    (findCondition_setCondition_of_ne feature.conditionType_ne_readyType now
      updater.status.conditions)

/-- Showing the state of the whole does not change it. -/
theorem overall_markOverall (updater : StatusUpdater) (now : String) :
    (updater.markOverall now).overall = updater.overall := by
  unfold overall
  rw [state?_markOverall, state?_markOverall]

theorem shows_markOverall (updater : StatusUpdater) (now : String) :
    Shows (updater.markOverall now).status.conditions Condition.readyType updater.overall
      (overallMessage updater.overall) := by
  unfold markOverall
  rw [setState_status]
  exact Shows.of_setCondition ..

theorem markOverall_again (same : again.status = (updater.markOverall now).status)
    (later : String) : again.markOverall later = again := by
  have hoverall : again.overall = updater.overall := by
    rw [overall_congr same, overall_markOverall]
  have hshows : Shows again.status.conditions Condition.readyType updater.overall
      (overallMessage updater.overall) := by
    rw [same]
    exact shows_markOverall updater now
  unfold markOverall
  rw [hoverall]
  exact setState_of_shows hshows later

/-- The state of the whole where both parts are shown. -/
theorem overall_of_isMarked {reservations dns : ConditionState} {detail detail' : Option String}
    (first : updater.IsMarked .ipReservation reservations detail)
    (second : updater.IsMarked .dnsData dns detail') :
    updater.overall = overallState (some reservations) (some dns) := by
  unfold overall
  rw [first.state?, second.state?]

/-! ## Changes -/

/-- There is nothing to write where the status is the one that is stored. -/
theorem hasChanges_eq_false (stored : updater.current = some updater.status)
    (distinct : DistinctTypes updater.status.conditions) : updater.hasChanges = false := by
  unfold hasChanges
  rw [stored]
  simp [distinct.conditionsEqual_self]

end StatusUpdater

end NodeIdentity
