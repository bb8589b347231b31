import NodeIdentity.Proofs.Status.Times

/-!
# Changes that are noticed

The test for changes looks a collected condition up by its type in the stored list, where several
conditions may be of one type.  It is sound all the same, because of how a list of conditions is put
together: it keeps the types of the stored list in their places, and of several conditions of one
type it changes the first only.  So where the test finds no change, the collected status is the
stored one but for times.
-/

namespace NodeIdentity

/--
A list of conditions continues a list `old` that stands behind some conditions: the types of `old`
are in their places, a condition whose type occurs earlier is unchanged, and others may follow.
-/
inductive Continues : List Condition → List Condition → List Condition → Prop
  | nil (before more : List Condition) : Continues before [] more
  | first {before old new : List Condition} {was is : Condition} (type : is.type = was.type)
      (fresh : was.type ∉ before.map (·.type)) (rest : Continues (before ++ [was]) old new) :
      Continues before (was :: old) (is :: new)
  | later {before old new : List Condition} {was : Condition}
      (repeated : was.type ∈ before.map (·.type)) (rest : Continues (before ++ [was]) old new) :
      Continues before (was :: old) (was :: new)

namespace Continues

variable {before old new : List Condition}

theorem refl (before old : List Condition) : Continues before old old := by
  induction old generalizing before with
  | nil => exact nil before []
  | cons was old ih =>
      by_cases repeated : was.type ∈ before.map (·.type)
      · exact later repeated (ih _)
      · exact first rfl repeated (ih _)

/-- Setting a condition whose type does not occur earlier changes the first one of its type. -/
theorem setCondition (h : Continues before old new) (now : String) {condition : Condition}
    (fresh : condition.type ∉ before.map (·.type)) :
    Continues before old (setCondition now condition new) := by
  induction h with
  | nil before more => exact nil before _
  | @first before old new was is type unseen rest ih =>
      unfold NodeIdentity.setCondition
      split
      · rename_i htype
        exact first (htype.symm.trans type) unseen rest
      · rename_i htype
        have hne : condition.type ≠ was.type := fun h => htype (type.trans h.symm)
        exact first type unseen (ih (by simpa [hne] using fresh))
  | @later before old new was repeated rest ih =>
      have hne : was.type ≠ condition.type := fun h => fresh (h ▸ repeated)
      unfold NodeIdentity.setCondition
      rw [if_neg hne]
      exact later repeated (ih (by simpa [hne.symm] using fresh))

/-- The first condition of a type that does not occur earlier is found. -/
private theorem findCondition_first {was : Condition}
    (fresh : was.type ∉ before.map (·.type)) (rest : List Condition) :
    findCondition (before ++ was :: rest) was.type = some was := by
  refine findCondition_eq_some_iff.2 ⟨rfl, before, rest, rfl, fun other hother htype => ?_⟩
  exact fresh (htype ▸ List.mem_map_of_mem hother)

/-- Where every condition agrees with the first old one of its type, only times have changed. -/
theorem map_untimed_eq (h : Continues before old new) (length : old.length = new.length)
    (agree : ∀ condition ∈ new, ∃ first,
      findCondition (before ++ old) condition.type = some first ∧
        first.agrees condition = true) :
    new.map Condition.untimed = old.map Condition.untimed := by
  induction h with
  | nil before more =>
      rw [List.length_nil, eq_comm, List.length_eq_zero_iff] at length
      rw [length]
  | @first before old new was is type unseen rest ih =>
      obtain ⟨found, hfound, hagrees⟩ := agree is List.mem_cons_self
      rw [type, findCondition_first unseen] at hfound
      cases hfound
      have hrest := ih (Nat.succ.inj length) (fun condition member => by
        simpa using agree condition (List.mem_cons_of_mem is member))
      have hsame : is.untimed = was.untimed :=
        (Condition.untimed_eq_iff.2 ⟨type.symm, hagrees⟩).symm
      rw [List.map_cons, List.map_cons, hrest, hsame]
  | @later before old new was repeated rest ih =>
      have hrest := ih (Nat.succ.inj length) (fun condition member => by
        simpa using agree condition (List.mem_cons_of_mem was member))
      rw [List.map_cons, List.map_cons, hrest]

/-- A list that a list continues, and that it is found equal to, is the same but for times. -/
theorem untimed_of_conditionsEqual (h : Continues [] old new)
    (equal : conditionsEqual old new = true) :
    new.map Condition.untimed = old.map Condition.untimed := by
  obtain ⟨hlength, hfound⟩ := conditionsEqual_iff.1 equal
  exact h.map_untimed_eq hlength hfound

end Continues

namespace StatusUpdater

/-- An updater that was made for a node set, and has collected updates since. -/
structure StartsFrom (updater : StatusUpdater) (nodeSet : NodeSet) : Prop where
  ns : updater.ns = nodeSet.place
  name : updater.name = nodeSet.name
  current : updater.current = nodeSet.status
  conditions : Continues [] (nodeSet.status.getD {}).conditions updater.status.conditions

namespace StartsFrom

variable {updater : StatusUpdater} {nodeSet : NodeSet}

theorem ofNodeSet (nodeSet : NodeSet) : (ofNodeSet nodeSet).StartsFrom nodeSet :=
  ⟨rfl, rfl, rfl, Continues.refl [] _⟩

theorem setCondition (h : updater.StartsFrom nodeSet) (now : String) (new : Condition) :
    (updater.setCondition now new).StartsFrom nodeSet :=
  ⟨h.ns, h.name, h.current, h.conditions.setCondition now List.not_mem_nil⟩

theorem setState (h : updater.StartsFrom nodeSet) (now type : String) (state : ConditionState)
    (message : String) : (updater.setState now type state message).StartsFrom nodeSet := by
  have hmarked := h.setCondition now (state.condition type message)
  unfold StatusUpdater.setState
  dsimp only
  split
  · exact hmarked
  · exact ⟨hmarked.ns, hmarked.name, hmarked.current, hmarked.conditions⟩

theorem mark (h : updater.StartsFrom nodeSet) (now : String) (feature : Feature)
    (state : ConditionState) (detail : Option String) :
    (updater.mark now feature state detail).StartsFrom nodeSet := by
  rw [mark_eq_setState]
  exact h.setState now _ state _

theorem markOverall (h : updater.StartsFrom nodeSet) (now : String) :
    (updater.markOverall now).StartsFrom nodeSet :=
  h.setState now _ _ _

theorem setIdentity (h : updater.StartsFrom nodeSet) (identity : PublishedIdentity) :
    (updater.setIdentity identity).StartsFrom nodeSet :=
  ⟨h.ns, h.name, h.current, h.conditions⟩

theorem setObservedGeneration (h : updater.StartsFrom nodeSet) (generation : Option Int64) :
    (updater.setObservedGeneration generation).StartsFrom nodeSet :=
  ⟨h.ns, h.name, h.current, h.conditions⟩

/-- Where no change is noticed there is none, but for times. -/
theorem untimed_eq_of_unchanged (h : updater.StartsFrom nodeSet)
    (unchanged : updater.hasChanges = false) :
    ∃ stored, nodeSet.status = some stored ∧ updater.status.untimed = stored.untimed := by
  have hconditions := h.conditions
  unfold hasChanges at unchanged
  rw [h.current] at unchanged
  cases hstatus : nodeSet.status with
  | none => simp [hstatus] at unchanged
  | some stored =>
      simp only [hstatus, Bool.or_eq_false_iff, decide_eq_false_iff_not, ne_eq, Classical.not_not,
        Bool.not_eq_false', Option.getD_some] at unchanged hconditions
      obtain ⟨⟨⟨⟨⟨hgeneration, haddresses⟩, hdomain⟩, hnames⟩, hips⟩, hequal⟩ := unchanged
      have huntimed := hconditions.untimed_of_conditionsEqual hequal
      refine ⟨stored, rfl, ?_⟩
      unfold NodeSetStatus.untimed
      simp only [NodeSetStatus.mk.injEq]
      exact ⟨huntimed, hgeneration.symm, haddresses.symm, hdomain.symm, hnames.symm, hips.symm⟩

end StartsFrom

end StatusUpdater

end NodeIdentity
