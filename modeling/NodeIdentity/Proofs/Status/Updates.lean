import NodeIdentity.Proofs.Status.Changes
import NodeIdentity.Proofs.Status.Comparison

/-!
# Rows of updates

An updater is asked for one thing after the other, and may come back to what is stored on the way.
Whatever the row of updates, the updater still starts from the stored status, which is what makes the
test for changes sound; and where the stored status repeats no type of condition, nothing is taken
for a change that is none.
-/

namespace NodeIdentity

/-- What an updater can be asked for. -/
inductive StatusUpdate
  | condition (now : String) (new : Condition)
  | mark (now : String) (feature : Feature) (state : ConditionState) (detail : Option String)
  | overall (now : String)
  | generation (generation : Option Int64)
  | identity (identity : PublishedIdentity)
  | withdrawal

namespace StatusUpdater

variable {updater : StatusUpdater} {nodeSet : NodeSet}

def collect (updater : StatusUpdater) : StatusUpdate → StatusUpdater
  | .condition now new => updater.setCondition now new
  | .mark now feature state detail => updater.mark now feature state detail
  | .overall now => updater.markOverall now
  | .generation generation => updater.setObservedGeneration generation
  | .identity identity => updater.setIdentity identity
  | .withdrawal => updater.clearIdentity

def collectAll (updater : StatusUpdater) (updates : List StatusUpdate) : StatusUpdater :=
  updates.foldl collect updater

theorem StartsFrom.collect (h : updater.StartsFrom nodeSet) (update : StatusUpdate) :
    (updater.collect update).StartsFrom nodeSet := by
  cases update with
  | condition now new => exact h.setCondition now new
  | mark now feature state detail => exact h.mark now feature state detail
  | overall now => exact h.markOverall now
  | generation generation => exact h.setObservedGeneration generation
  | identity identity => exact h.setIdentity identity
  | withdrawal => exact h.setIdentity {}

theorem StartsFrom.collectAll (h : updater.StartsFrom nodeSet) (updates : List StatusUpdate) :
    (updater.collectAll updates).StartsFrom nodeSet := by
  induction updates generalizing updater with
  | nil => exact h
  | cons update rest ih => exact ih (h.collect update)

/-- Nothing is taken for a change where only times have changed, and no type was repeated. -/
theorem hasChanges_eq_false_of_untimed {stored : NodeSetStatus}
    (current : updater.current = some stored) (distinct : DistinctTypes stored.conditions)
    (same : updater.status.untimed = stored.untimed) : updater.hasChanges = false := by
  have hconditions : updater.status.conditions.map Condition.untimed =
      stored.conditions.map Condition.untimed := congrArg NodeSetStatus.conditions same
  have hequal : conditionsEqual stored.conditions updater.status.conditions = true :=
    (conditionsEqual_iff_perm distinct (distinct.of_map_untimed hconditions)).2
      (List.Perm.of_eq hconditions)
  unfold NodeSetStatus.untimed at same
  rw [NodeSetStatus.mk.injEq] at same
  obtain ⟨-, hgeneration, haddresses, hdomain, hnames, hips⟩ := same
  unfold hasChanges
  rw [current]
  simp [hequal, hgeneration, haddresses, hdomain, hnames, hips]

end StatusUpdater

/--
After any row of updates, a status that is told to have no changes is the stored one but for times.
A status that is told to have changes says something that the stored one does not, unless a type is
repeated there.
-/
theorem changes_told (nodeSet : NodeSet) (updates : List StatusUpdate) :
    let updater := (StatusUpdater.ofNodeSet nodeSet).collectAll updates
    (updater.hasChanges = false →
      ∃ stored, nodeSet.status = some stored ∧ updater.status.untimed = stored.untimed) ∧
    ((∀ stored, nodeSet.status = some stored → DistinctTypes stored.conditions) →
      updater.hasChanges = true →
        nodeSet.status = none ∨
          ∃ stored, nodeSet.status = some stored ∧ updater.status.untimed ≠ stored.untimed) := by
  intro updater
  have hstarts : updater.StartsFrom nodeSet :=
    (StatusUpdater.StartsFrom.ofNodeSet nodeSet).collectAll updates
  refine ⟨hstarts.untimed_eq_of_unchanged, fun distinct changed => ?_⟩
  cases hstatus : nodeSet.status with
  | none => exact Or.inl rfl
  | some stored =>
      refine Or.inr ⟨stored, rfl, fun same => ?_⟩
      have hcurrent : updater.current = some stored := hstarts.current.trans hstatus
      have hunchanged :=
        StatusUpdater.hasChanges_eq_false_of_untimed hcurrent (distinct stored hstatus) same
      rw [hunchanged] at changed
      cases changed

/-- A stored status in which a type is repeated seems to change before anything is collected. -/
example :
    let status : NodeSetStatus :=
      { conditions := [{ type := "Ready", status := "True" }, { type := "Ready", status := "False" }] }
    (StatusUpdater.ofNodeSet { metadata := {}, spec := {}, status := some status }).hasChanges =
      true := by
  decide

end NodeIdentity
