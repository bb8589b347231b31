import NodeIdentity.Pass
import NodeIdentity.Proofs.Status.Updater

/-!
# Statuses without their times

When a pass is run decides nothing but the times of conditions.  What an update makes of a status,
the times left out, depends only on what the status was without its times, so two collections of one
pass that began alike and ran at different times end alike.
-/

namespace NodeIdentity

/-- A condition without the time at which it began. -/
def Condition.untimed (condition : Condition) : Condition :=
  { condition with lastTransitionTime := none }

/-- A status without the times of its conditions. -/
def NodeSetStatus.untimed (status : NodeSetStatus) : NodeSetStatus :=
  { status with conditions := status.conditions.map Condition.untimed }

@[simp] theorem Condition.untimed_untimed (condition : Condition) :
    condition.untimed.untimed = condition.untimed := rfl

/-! ## Conditions -/

theorem Condition.untimed_eq_iff {a b : Condition} :
    a.untimed = b.untimed ↔ a.type = b.type ∧ a.agrees b = true := by
  rw [agrees_iff]
  simp [untimed]

/-- Setting a condition, the times left out, does not look at times. -/
theorem map_untimed_setCondition (now : String) (new : Condition) (conditions : List Condition) :
    (setCondition now new conditions).map Condition.untimed =
      (setCondition "" new (conditions.map Condition.untimed)).map Condition.untimed := by
  induction conditions with
  | nil => rfl
  | cons old rest ih =>
      have hrest : rest.map Condition.untimed =
          (rest.map Condition.untimed).map Condition.untimed := by simp
      have htype : old.untimed.type = old.type := rfl
      simp only [List.map_cons, setCondition, htype]
      split
      · rw [List.map_cons, List.map_cons, ← hrest]
        rfl
      · rw [List.map_cons, List.map_cons, ih]
        rfl

theorem findCondition_map_untimed (conditions : List Condition) (type : String) :
    findCondition (conditions.map Condition.untimed) type =
      (findCondition conditions type).map Condition.untimed := by
  induction conditions with
  | nil => rfl
  | cons condition rest ih =>
      have htype : condition.untimed.type = condition.type := rfl
      rw [List.map_cons, findCondition_cons, findCondition_cons, ih, htype]
      split <;> rfl

/-- The state that a condition shows does not depend on when it began. -/
theorem ConditionState.find?_map_untimed (conditions : List Condition) (type : String) :
    ConditionState.find? (conditions.map Condition.untimed) type =
      ConditionState.find? conditions type := by
  unfold ConditionState.find?
  rw [findCondition_map_untimed]
  cases findCondition conditions type <;> rfl

/-! ## Updaters -/

namespace StatusUpdater

variable {updater other : StatusUpdater}

theorem state?_congr_untimed (same : updater.status.untimed = other.status.untimed)
    (type : String) : updater.state? type = other.state? type := by
  have hconditions := congrArg NodeSetStatus.conditions same
  unfold state?
  rw [← ConditionState.find?_map_untimed updater.status.conditions,
    ← ConditionState.find?_map_untimed other.status.conditions]
  exact congrArg (ConditionState.find? · type) hconditions

theorem overall_congr_untimed (same : updater.status.untimed = other.status.untimed) :
    updater.overall = other.overall := by
  unfold overall
  rw [state?_congr_untimed same, state?_congr_untimed same]

theorem setState_untimed (same : updater.status.untimed = other.status.untimed)
    (now later type : String) (state : ConditionState) (message : String) :
    (updater.setState now type state message).status.untimed =
      (other.setState later type state message).status.untimed := by
  have hconditions : updater.status.conditions.map Condition.untimed =
      other.status.conditions.map Condition.untimed := congrArg NodeSetStatus.conditions same
  have hset : (NodeIdentity.setCondition now (state.condition type message)
        updater.status.conditions).map Condition.untimed =
      (NodeIdentity.setCondition later (state.condition type message)
        other.status.conditions).map Condition.untimed := by
    rw [map_untimed_setCondition now, map_untimed_setCondition later, hconditions]
  rw [setState_status, setState_status]
  unfold NodeSetStatus.untimed at same ⊢
  simp only [NodeSetStatus.mk.injEq] at same ⊢
  exact ⟨hset, same.2⟩

theorem mark_untimed (same : updater.status.untimed = other.status.untimed) (now later : String)
    (feature : Feature) (state : ConditionState) (detail : Option String) :
    (updater.mark now feature state detail).status.untimed =
      (other.mark later feature state detail).status.untimed := by
  rw [mark_eq_setState, mark_eq_setState]
  exact setState_untimed same now later _ state _

theorem markOverall_untimed (same : updater.status.untimed = other.status.untimed)
    (now later : String) :
    (updater.markOverall now).status.untimed = (other.markOverall later).status.untimed := by
  unfold markOverall
  rw [overall_congr_untimed same]
  exact setState_untimed same now later _ _ _

theorem setIdentity_untimed (same : updater.status.untimed = other.status.untimed)
    (identity : PublishedIdentity) :
    (updater.setIdentity identity).status.untimed =
      (other.setIdentity identity).status.untimed := by
  unfold setIdentity NodeSetStatus.untimed at *
  simp only [NodeSetStatus.mk.injEq, and_true] at same ⊢
  exact ⟨same.1, same.2.1⟩

theorem setObservedGeneration_untimed (same : updater.status.untimed = other.status.untimed)
    (generation : Option Int64) :
    (updater.setObservedGeneration generation).status.untimed =
      (other.setObservedGeneration generation).status.untimed := by
  unfold setObservedGeneration NodeSetStatus.untimed at *
  simp only [NodeSetStatus.mk.injEq, true_and] at same ⊢
  exact ⟨same.1, same.2.2⟩

end StatusUpdater

/-! ## Endings of passes -/

section Endings

variable {updater other : StatusUpdater}

theorem failPass_untimed (same : updater.status.untimed = other.status.untimed)
    (now later : String) (feature : Feature) (e : NetworkError) :
    (failPass updater now feature e).updater.status.untimed =
      (failPass other later feature e).updater.status.untimed := by
  unfold failPass StatusUpdater.clearIdentity
  have hmarked := StatusUpdater.mark_untimed same now later feature .error (some e.message)
  exact StatusUpdater.markOverall_untimed (StatusUpdater.setIdentity_untimed hmarked {}) now later

/-- A pass that finishes shows the same, whenever it does, and comes to the same result. -/
theorem finishPass_untimed (same : updater.status.untimed = other.status.untimed)
    (now later : String) (reservations : ConditionState) (dns : Readiness NetworkIdentity) :
    (finishPass updater now reservations dns).updater.status.untimed =
        (finishPass other later reservations dns).updater.status.untimed ∧
      (finishPass updater now reservations dns).result =
        (finishPass other later reservations dns).result := by
  have hmarked := StatusUpdater.mark_untimed same now later .dnsData (.ofReadiness dns) none
  cases dns with
  | ready identity =>
      have hpublished := StatusUpdater.setIdentity_untimed hmarked identity.published
      refine ⟨StatusUpdater.markOverall_untimed hpublished now later, ?_⟩
      simp only [finishPass, StatusUpdater.overall_congr_untimed hpublished]
  | waiting =>
      have hcleared := StatusUpdater.setIdentity_untimed hmarked {}
      refine ⟨StatusUpdater.markOverall_untimed hcleared now later, ?_⟩
      simp only [finishPass, StatusUpdater.clearIdentity,
        StatusUpdater.overall_congr_untimed hcleared]
  | notApplicable =>
      have hcleared := StatusUpdater.setIdentity_untimed hmarked {}
      refine ⟨StatusUpdater.markOverall_untimed hcleared now later, ?_⟩
      simp only [finishPass, StatusUpdater.clearIdentity,
        StatusUpdater.overall_congr_untimed hcleared]

end Endings

end NodeIdentity
