import NodeIdentity.Status.State

/-!
# Lists of conditions

What setting a condition leaves in a list.  A condition that is shown already is not changed by
being set again, at whatever time, and the conditions of other types are never touched.
-/

namespace NodeIdentity

variable {conditions : List Condition} {new : Condition} {now type message : String}

/-! ## Setting a condition -/

theorem findCondition_cons (condition : Condition) (rest : List Condition) (type : String) :
    findCondition (condition :: rest) type =
      if condition.type = type then some condition else findCondition rest type := by
  unfold findCondition
  rw [List.find?_cons]
  by_cases htype : condition.type = type
  · simp [htype]
  · simp [htype]

theorem findCondition_eq_some_iff {conditions : List Condition} {type : String}
    {condition : Condition} :
    findCondition conditions type = some condition ↔
      condition.type = type ∧ ∃ earlier later, conditions = earlier ++ condition :: later ∧
        ∀ other ∈ earlier, other.type ≠ type := by
  unfold findCondition
  simp only [List.find?_eq_some_iff_append, decide_eq_true_eq, Bool.not_eq_true',
    decide_eq_false_iff_not, ne_eq]

/-- The time that a condition keeps when its type is set to a status. -/
def keptTime (old : Option Condition) (status : String) : Option String :=
  old.bind (fun condition =>
    if condition.status = status then condition.lastTransitionTime else none)

/-- A condition that was set is found, with the time that is kept, or else the present one. -/
theorem findCondition_setCondition_self (now : String) (new : Condition)
    (conditions : List Condition) :
    findCondition (setCondition now new conditions) new.type =
      some { new with
        lastTransitionTime :=
          some ((keptTime (findCondition conditions new.type) new.status).getD now) } := by
  induction conditions with
  | nil => simp [setCondition, findCondition, keptTime]
  | cons old rest ih =>
      rw [findCondition_cons old rest]
      unfold setCondition
      by_cases htype : old.type = new.type
      · rw [if_pos htype, if_pos htype, findCondition_cons, if_pos rfl]
        by_cases hstatus : old.status = new.status
        · cases htime : old.lastTransitionTime <;> simp [keptTime, hstatus, htime]
        · simp [keptTime, hstatus]
      · rw [if_neg htype, if_neg htype, findCondition_cons, if_neg htype, ih]

theorem findCondition_setCondition (now : String) (new : Condition)
    (conditions : List Condition) :
    ∃ time, findCondition (setCondition now new conditions) new.type =
      some { new with lastTransitionTime := some time } :=
  ⟨_, findCondition_setCondition_self now new conditions⟩

/-- The conditions of a type, in order. -/
def conditionsOf (conditions : List Condition) (type : String) : List Condition :=
  conditions.filter (fun condition => condition.type = type)

theorem findCondition_eq_head? (conditions : List Condition) (type : String) :
    findCondition conditions type = (conditionsOf conditions type).head? :=
  List.head?_filter.symm

theorem conditionsOf_setCondition_of_ne (h : type ≠ new.type) (now : String)
    (conditions : List Condition) :
    conditionsOf (setCondition now new conditions) type = conditionsOf conditions type := by
  unfold conditionsOf
  induction conditions with
  | nil => simp [setCondition, Ne.symm h]
  | cons old rest ih =>
      by_cases htype : old.type = new.type
      · simp [setCondition, htype, Ne.symm h]
      · simp only [setCondition, if_neg htype, List.filter_cons, ih]

theorem findCondition_setCondition_of_ne (h : type ≠ new.type) (now : String)
    (conditions : List Condition) :
    findCondition (setCondition now new conditions) type = findCondition conditions type := by
  rw [findCondition_eq_head?, findCondition_eq_head?, conditionsOf_setCondition_of_ne h]

/-- A condition that is shown with a time is not changed by being set. -/
theorem setCondition_settled {time : String}
    (shown : findCondition conditions new.type =
      some { new with lastTransitionTime := some time }) (now : String) :
    setCondition now new conditions = conditions := by
  induction conditions with
  | nil => cases shown
  | cons old rest ih =>
      rw [findCondition_cons] at shown
      by_cases htype : old.type = new.type
      · rw [if_pos htype] at shown
        cases shown
        simp [setCondition]
      · rw [if_neg htype] at shown
        simp [setCondition, htype, ih shown]

/-! ## Distinct types -/

/-- No two conditions are of one type. -/
def DistinctTypes (conditions : List Condition) : Prop :=
  (conditions.map (·.type)).Nodup

/-- Types stay in their places, and a missing one is appended. -/
theorem types_setCondition (now : String) (new : Condition) (conditions : List Condition) :
    (setCondition now new conditions).map (·.type) =
      conditions.map (·.type) ++
        if new.type ∈ conditions.map (·.type) then [] else [new.type] := by
  induction conditions with
  | nil => simp [setCondition]
  | cons old rest ih =>
      unfold setCondition
      by_cases htype : old.type = new.type
      · simp [htype]
      · have hne : new.type ≠ old.type := fun h => htype h.symm
        rw [if_neg htype, List.map_cons, ih]
        simp [hne]

theorem DistinctTypes.setCondition (distinct : DistinctTypes conditions) (now : String)
    (new : Condition) : DistinctTypes (setCondition now new conditions) := by
  unfold DistinctTypes at *
  rw [types_setCondition]
  by_cases hmember : new.type ∈ conditions.map (·.type)
  · rwa [if_pos hmember, List.append_nil]
  · rw [if_neg hmember, List.nodup_append]
    refine ⟨distinct, by simp, fun type hold other hnew heq => ?_⟩
    rw [List.mem_singleton] at hnew
    exact hmember (hnew ▸ heq ▸ hold)

theorem DistinctTypes.findCondition (distinct : DistinctTypes conditions) {condition : Condition}
    (member : condition ∈ conditions) :
    findCondition conditions condition.type = some condition := by
  unfold DistinctTypes at distinct
  induction conditions with
  | nil => cases member
  | cons head rest ih =>
      rw [List.map_cons, List.nodup_cons] at distinct
      obtain ⟨hhead, hrest⟩ := distinct
      rw [findCondition_cons]
      rcases List.mem_cons.1 member with rfl | hmember
      · rw [if_pos rfl]
      · have hne : head.type ≠ condition.type := by
          intro heq
          exact hhead (heq ▸ List.mem_map_of_mem hmember)
        rw [if_neg hne]
        exact ih hrest hmember

theorem Condition.agrees_iff {a b : Condition} :
    a.agrees b = true ↔
      a.status = b.status ∧ a.reason = b.reason ∧ a.severity = b.severity ∧
        a.message = b.message := by
  simp [agrees, and_assoc]

@[simp] theorem Condition.agrees_self (condition : Condition) :
    condition.agrees condition = true := by
  simp [Condition.agrees]

/-- Lists are compared by length, and by looking every new condition up among the current ones. -/
theorem conditionsEqual_iff {current new : List Condition} :
    conditionsEqual current new = true ↔ current.length = new.length ∧
      ∀ condition ∈ new, ∃ old, findCondition current condition.type = some old ∧
        old.agrees condition = true := by
  unfold conditionsEqual
  rw [Bool.and_eq_true, decide_eq_true_eq, List.all_eq_true]
  refine and_congr_right fun _ => forall_congr' fun condition => imp_congr_right fun _ => ?_
  cases findCondition current condition.type <;> simp

/-- A list of conditions of distinct types says the same as itself. -/
theorem DistinctTypes.conditionsEqual_self (distinct : DistinctTypes conditions) :
    conditionsEqual conditions conditions = true :=
  conditionsEqual_iff.2
    ⟨rfl, fun condition member => ⟨condition, distinct.findCondition member, condition.agrees_self⟩⟩

/-! ## States -/

/-- The condition of a type shows a state with a message, and since when. -/
def Shows (conditions : List Condition) (type : String) (state : ConditionState)
    (message : String) : Prop :=
  ∃ time, findCondition conditions type =
    some { state.condition type message with lastTransitionTime := some time }

theorem ConditionState.ofCondition_at (state : ConditionState) (type message : String)
    (time : Option String) :
    ofCondition { state.condition type message with lastTransitionTime := time } = state :=
  state.ofCondition_condition type message

namespace Shows

variable {state : ConditionState}

theorem find? (shows : Shows conditions type state message) :
    ConditionState.find? conditions type = some state := by
  obtain ⟨time, h⟩ := shows
  unfold ConditionState.find?
  rw [h, Option.map_some, ConditionState.ofCondition_at]

theorem of_setCondition (conditions : List Condition) (now type : String)
    (state : ConditionState) (message : String) :
    Shows (setCondition now (state.condition type message) conditions) type state message :=
  findCondition_setCondition now (state.condition type message) conditions

theorem setCondition_of_ne (shows : Shows conditions type state message) (h : type ≠ new.type)
    (now : String) : Shows (setCondition now new conditions) type state message := by
  obtain ⟨time, hfind⟩ := shows
  exact ⟨time, by rw [findCondition_setCondition_of_ne h, hfind]⟩

theorem setCondition_eq (shows : Shows conditions type state message) (now : String) :
    setCondition now (state.condition type message) conditions = conditions := by
  obtain ⟨time, hfind⟩ := shows
  exact setCondition_settled hfind now

end Shows

end NodeIdentity
