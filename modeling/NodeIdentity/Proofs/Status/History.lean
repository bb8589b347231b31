import Mathlib.Data.List.Induction
import NodeIdentity.Proofs.Status.Conditions

/-!
# Since when conditions hold

A condition keeps its time as long as its status stays.  Over a row of observations the time is
therefore that of the first observation in the last run of one status, and a run that takes up all
observations of the type goes on from the condition that was there before.  What is observed of
other types does not matter, and neither do reasons, severities and messages.
-/

namespace NodeIdentity

/-- A condition that is to be set, and the time at which it is. -/
structure Observation where
  now : String
  new : Condition

def setConditions (conditions : List Condition) (observations : List Observation) :
    List Condition :=
  observations.foldl
    (fun conditions observation => setCondition observation.now observation.new conditions)
    conditions

def observationsOf (observations : List Observation) (type : String) : List Observation :=
  observations.filter (fun observation => observation.new.type = type)

/-- The observed types that are not among those of a list, in the order of their first use. -/
def addedTypes (conditions : List Condition) (observations : List Observation) : List String :=
  ((observations.map (·.new.type)).filter (· ∉ conditions.map (·.type))).eraseDups

theorem setConditions_concat (conditions : List Condition) (observations : List Observation)
    (last : Observation) :
    setConditions conditions (observations ++ [last]) =
      setCondition last.now last.new (setConditions conditions observations) := by
  simp [setConditions]

theorem observationsOf_concat_self (observations : List Observation) (last : Observation) :
    observationsOf (observations ++ [last]) last.new.type =
      observationsOf observations last.new.type ++ [last] := by
  simp [observationsOf]

theorem observationsOf_concat_of_ne {last : Observation} {type : String} (h : last.new.type ≠ type)
    (observations : List Observation) :
    observationsOf (observations ++ [last]) type = observationsOf observations type := by
  simp [observationsOf, h]

section Lists

variable {conditions : List Condition} {observations : List Observation} {type : String}

/-! ## Places -/

theorem mem_addedTypes :
    type ∈ addedTypes conditions observations ↔
      type ∈ observations.map (·.new.type) ∧ type ∉ conditions.map (·.type) := by
  unfold addedTypes
  rw [List.mem_eraseDups, List.mem_filter, decide_eq_true_eq]

theorem addedTypes_concat (conditions : List Condition) (observations : List Observation)
    (last : Observation) :
    addedTypes conditions (observations ++ [last]) =
      addedTypes conditions observations ++
        if last.new.type ∈ conditions.map (·.type) ++ addedTypes conditions observations then []
        else [last.new.type] := by
  have hmember : last.new.type ∈ conditions.map (·.type) ++ addedTypes conditions observations ↔
      last.new.type ∈ conditions.map (·.type) ∨ last.new.type ∈ observations.map (·.new.type) := by
    rw [List.mem_append, mem_addedTypes]
    tauto
  simp only [hmember]
  unfold addedTypes
  rw [List.map_append, List.filter_append, List.eraseDups_append, List.map_singleton]
  congr 1
  -- What is left of the last type: nothing where it was there or observed before, else itself.
  by_cases hold : last.new.type ∈ conditions.map (·.type)
  · rw [if_pos (Or.inl hold), List.filter_cons_of_neg (by simpa using hold)]
    rfl
  · have hlisted : ∀ types : List String,
        (types.filter (· ∉ conditions.map (·.type))).contains last.new.type =
          types.contains last.new.type := by
      intro types
      rw [Bool.eq_iff_iff, List.contains_iff_mem, List.contains_iff_mem, List.mem_filter]
      exact and_iff_left (decide_eq_true hold)
    rw [List.filter_cons_of_pos (by simpa using hold), List.filter_nil, List.cons_removeAll,
      hlisted]
    by_cases hset : last.new.type ∈ observations.map (·.new.type)
    · rw [if_pos (Or.inr hset), List.contains_iff_mem.2 hset]
      rfl
    · rw [if_neg (not_or.2 ⟨hold, hset⟩), Bool.eq_false_iff.2 (mt List.contains_iff_mem.1 hset)]
      rfl

theorem types_setConditions (conditions : List Condition) (observations : List Observation) :
    (setConditions conditions observations).map (·.type) =
      conditions.map (·.type) ++ addedTypes conditions observations := by
  induction observations using List.reverseRecOn with
  | nil => simp [setConditions, addedTypes]
  | append_singleton observations last ih =>
      rw [setConditions_concat, types_setCondition, ih, addedTypes_concat, List.append_assoc]

theorem count_types_setConditions (observations : List Observation)
    (single : (conditions.map (·.type)).count type ≤ 1) :
    ((setConditions conditions observations).map (·.type)).count type ≤ 1 := by
  induction observations using List.reverseRecOn with
  | nil => exact single
  | append_singleton observations last ih =>
      rw [setConditions_concat, types_setCondition, List.count_append]
      by_cases hmember :
          last.new.type ∈ (setConditions conditions observations).map (·.type)
      · simpa [hmember] using ih
      · rw [if_neg hmember]
        by_cases htype : last.new.type = type
        · have hnone := List.count_eq_zero_of_not_mem (htype ▸ hmember)
          rw [hnone, Nat.zero_add]
          exact List.count_le_length
        · simpa [List.count_singleton, htype] using ih

theorem getElem?_setCondition {index : Nat} {condition : Condition}
    (h : conditions[index]? = some condition) {new : Condition}
    (spared : condition.type ≠ new.type ∨
      condition.type ∈ (conditions.take index).map (·.type)) (now : String) :
    (setCondition now new conditions)[index]? = some condition := by
  induction conditions generalizing index with
  | nil => simp at h
  | cons old rest ih =>
      unfold setCondition
      cases index with
      | zero =>
          have hcondition : old = condition := by simpa using h
          have hne : condition.type ≠ new.type := by simpa using spared
          rw [hcondition, if_neg hne]
          rfl
      | succ index =>
          rw [List.getElem?_cons_succ] at h
          by_cases htype : old.type = new.type
          · rw [if_pos htype]
            exact h
          · rw [if_neg htype]
            refine ih h ?_
            rw [List.take_succ_cons, List.map_cons, List.mem_cons] at spared
            rcases spared with hne | heq | hmember
            · exact Or.inl hne
            · exact Or.inl (heq ▸ htype)
            · exact Or.inr hmember

theorem getElem?_setConditions {index : Nat} {condition : Condition}
    (h : conditions[index]? = some condition)
    (spared : (∀ observation ∈ observations, observation.new.type ≠ condition.type) ∨
      condition.type ∈ (conditions.take index).map (·.type)) :
    (setConditions conditions observations)[index]? = some condition := by
  induction observations generalizing conditions with
  | nil => exact h
  | cons observation rest ih =>
      have hfirst : condition.type ≠ observation.new.type ∨
          condition.type ∈ (conditions.take index).map (·.type) := by
        refine spared.imp_left fun others => ?_
        exact (others observation List.mem_cons_self).symm
      refine ih (getElem?_setCondition h hfirst observation.now) ?_
      refine spared.imp (fun others other hother => ?_) (fun hmember => ?_)
      · exact others other (List.mem_cons_of_mem observation hother)
      · rw [List.map_take, types_setCondition, List.take_append]
        rw [List.map_take] at hmember
        exact List.mem_append_left _ hmember

/-! ## Times -/

/-- The last observations of a row that set one status, as many as there are. -/
structure FinalRun (observations earlier run : List Observation) (status : String) : Prop where
  split : observations = earlier ++ run
  same : ∀ observation ∈ run, observation.new.status = status
  longest : ∀ observation, earlier.getLast? = some observation → observation.new.status ≠ status

/--
Since when a status holds to which a run was observed: since the first observation of the run,
unless there is none before it and the condition at the start had the status already, and a time.
-/
def beginning (start : Option Condition) (earlier : List Observation) (first : Observation) :
    String :=
  match earlier with
  | [] => (keptTime start first.new.status).getD first.now
  | _ :: _ => first.now

theorem beginning_of_ne_nil {earlier : List Observation} (h : earlier ≠ [])
    (start : Option Condition) (first : Observation) :
    beginning start earlier first = first.now := by
  cases earlier with
  | nil => exact absurd rfl h
  | cons => rfl

/-- What is found behind observations of one type: the last of them, since its run began. -/
def IsDated (start : Option Condition) (observations : List Observation) (last : Observation)
    (found : Option Condition) : Prop :=
  ∃ earlier first rest, FinalRun observations earlier (first :: rest) last.new.status ∧
    found = some { last.new with lastTransitionTime := some (beginning start earlier first) }

theorem isDated_first (start : Option Condition) (first : Observation) :
    IsDated start [first] first
      (some { first.new with
        lastTransitionTime := some ((keptTime start first.new.status).getD first.now) }) := by
  refine ⟨[], first, [], ⟨rfl, ?_, ?_⟩, rfl⟩
  · simp
  · simp

/-- One more observation goes on with the final run, or begins another. -/
theorem IsDated.concat {start found : Option Condition} {last : Observation}
    (h : IsDated start observations last found) (ends : observations.getLast? = some last)
    (next : Observation) :
    IsDated start (observations ++ [next]) next
      (some { next.new with
        lastTransitionTime := some ((keptTime found next.new.status).getD next.now) }) := by
  obtain ⟨earlier, first, rest, hrun, hfound⟩ := h
  by_cases hstatus : last.new.status = next.new.status
  · have hkept : keptTime found next.new.status = some (beginning start earlier first) := by
      simp [hfound, keptTime, hstatus]
    refine ⟨earlier, first, rest ++ [next], ⟨?_, ?_, ?_⟩, ?_⟩
    · rw [hrun.split, List.append_assoc, List.cons_append]
    · intro observation hmember
      rw [← List.cons_append, List.mem_append, List.mem_singleton] at hmember
      rcases hmember with hmember | rfl
      · exact (hrun.same observation hmember).trans hstatus
      · rfl
    · rw [← hstatus]
      exact hrun.longest
    · rw [hkept, Option.getD_some]
  · have hkept : keptTime found next.new.status = none := by
      simp [hfound, keptTime, hstatus]
    have hnonempty : observations ≠ [] := by
      rintro rfl
      cases ends
    refine ⟨observations, next, [], ⟨rfl, ?_, ?_⟩, ?_⟩
    · simp
    · intro observation hlast
      cases ends.symm.trans hlast
      exact hstatus
    · rw [hkept, Option.getD_none, beginning_of_ne_nil hnonempty]

theorem findCondition_setConditions_of_unset (unset : observationsOf observations type = []) :
    findCondition (setConditions conditions observations) type = findCondition conditions type := by
  unfold observationsOf at unset
  induction observations generalizing conditions with
  | nil => rfl
  | cons observation rest ih =>
      rw [List.filter_eq_nil_iff] at unset
      have hne : type ≠ observation.new.type := by
        intro heq
        exact unset observation List.mem_cons_self (decide_eq_true heq.symm)
      have hrest : rest.filter (fun observation => observation.new.type = type) = [] :=
        List.filter_eq_nil_iff.2 fun other hother =>
          unset other (List.mem_cons_of_mem observation hother)
      exact (ih hrest).trans (findCondition_setCondition_of_ne hne observation.now conditions)

theorem isDated_setConditions (conditions : List Condition) {last : Observation}
    (ends : (observationsOf observations type).getLast? = some last) :
    IsDated (findCondition conditions type) (observationsOf observations type) last
      (findCondition (setConditions conditions observations) type) := by
  -- Taken apart from the end: the last observation sets what the ones before it have left.
  induction observations using List.reverseRecOn generalizing last with
  | nil => cases ends
  | append_singleton observations next ih =>
      rw [setConditions_concat]
      by_cases htype : next.new.type = type
      · subst htype
        rw [observationsOf_concat_self, List.getLast?_concat] at ends
        cases ends
        rw [observationsOf_concat_self, findCondition_setCondition_self]
        cases hprevious : (observationsOf observations next.new.type).getLast? with
        | none =>
            have hunset := List.getLast?_eq_none_iff.1 hprevious
            rw [hunset, findCondition_setConditions_of_unset hunset]
            exact isDated_first _ next
        | some previous => exact (ih hprevious).concat hprevious next
      · rw [observationsOf_concat_of_ne htype] at ends ⊢
        rw [findCondition_setCondition_of_ne (Ne.symm htype)]
        exact ih ends

end Lists

/-! ## Histories -/

/-- What a row of observations makes of a list of conditions. -/
structure SetInTurn (conditions : List Condition) (observations : List Observation)
    (result : List Condition) : Prop where
  /-- Conditions keep their places, and new types follow in the order of their first use. -/
  types : result.map (·.type) = conditions.map (·.type) ++ addedTypes conditions observations
  /-- Nothing changes but the first condition of a type that is observed. -/
  untouched : ∀ index condition, conditions[index]? = some condition →
    ((∀ observation ∈ observations, observation.new.type ≠ condition.type) ∨
      condition.type ∈ (conditions.take index).map (·.type)) →
    result[index]? = some condition
  /-- The first condition of a type is the last one observed, since the run to its status began. -/
  dated : ∀ type last, (observationsOf observations type).getLast? = some last →
    IsDated (findCondition conditions type) (observationsOf observations type) last
      (findCondition result type)
  /-- A type that occurs at most once still does. -/
  single : ∀ type, (conditions.map (·.type)).count type ≤ 1 →
    (result.map (·.type)).count type ≤ 1

/-- Over any row of observations the time of a condition is the start of its status. -/
theorem times_since_status (conditions : List Condition) (observations : List Observation) :
    SetInTurn conditions observations (setConditions conditions observations) := by
  constructor
  case types => exact types_setConditions conditions observations
  case untouched => exact fun index condition h spared => getElem?_setConditions h spared
  case dated => exact fun type last ends => isDated_setConditions conditions ends
  case single => exact fun type single => count_types_setConditions observations single

/-- A change of the reason goes on with the run, and other types are passed over. -/
example :
    let ready : Condition := { type := "Ready", status := "True", reason := some "Ready" }
    let unused : Condition := { type := "Ready", status := "True", reason := some "NotApplicable" }
    let other : Condition := { type := "DNSDataReady", status := "False" }
    setConditions [{ type := "Ready", status := "False", lastTransitionTime := some "12:00" }]
        [⟨"12:05", ready⟩, ⟨"12:10", other⟩, ⟨"12:15", unused⟩] =
      [{ unused with lastTransitionTime := some "12:05" },
        { other with lastTransitionTime := some "12:10" }] := by
  decide

end NodeIdentity
