import Mathlib.Data.List.Chain
import NodeIdentity.Proofs.Metrics.Counters
import NodeIdentity.Proofs.Status.Updates

/-!
# Transitions that are counted

A mark is counted exactly where its condition shows another state behind it than before, whoever
wrote the condition that was there.  So over a row of marks the counter of a type and a state rises
once for every mark that brings the type into the state, and of the states that are counted for a
type no two in a row are the same.
-/

namespace NodeIdentity

/-- Whether an update notes the states that it brings about.  A bare condition is set unnoted. -/
def StatusUpdate.isNoted : StatusUpdate → Bool
  | .condition .. => false
  | .mark .. | .overall _ | .generation _ | .identity _ | .withdrawal => true

namespace StatusUpdater

variable {updater before after : StatusUpdater} {type : String} {state : ConditionState}

/-! ## One update -/

/-- What an update does to the states that are shown: nothing, or one type enters another state. -/
inductive Steps (before after : StatusUpdater) : Prop
  | rests (states : ∀ type, after.state? type = before.state? type)
      (noted : after.transitions = before.transitions)
  | enters (type : String) (state : ConditionState) (new : before.state? type ≠ some state)
      (shown : after.state? type = some state)
      (others : ∀ other, other ≠ type → after.state? other = before.state? other)
      (noted : after.transitions = before.transitions ++ [⟨type, state⟩])

theorem state?_setState_self (updater : StatusUpdater) (now type : String) (state : ConditionState)
    (message : String) : (updater.setState now type state message).state? type = some state := by
  unfold StatusUpdater.state?
  rw [setState_status]
  exact (Shows.of_setCondition updater.status.conditions now type state message).find?

theorem state?_setState_of_ne {other : String} (h : other ≠ type) (updater : StatusUpdater)
    (now : String) (state : ConditionState) (message : String) :
    (updater.setState now type state message).state? other = updater.state? other := by
  unfold StatusUpdater.state? ConditionState.find?
  rw [setState_status]
  exact congrArg (Option.map ConditionState.ofCondition)
    (findCondition_setCondition_of_ne h now updater.status.conditions)

theorem transitions_setState (updater : StatusUpdater) (now type : String)
    (state : ConditionState) (message : String) :
    (updater.setState now type state message).transitions =
      updater.transitions ++ if updater.state? type = some state then [] else [⟨type, state⟩] := by
  unfold setState
  dsimp only
  split
  · exact (List.append_nil _).symm
  · rfl

theorem steps_setState (updater : StatusUpdater) (now type : String) (state : ConditionState)
    (message : String) : updater.Steps (updater.setState now type state message) := by
  have hshown := updater.state?_setState_self now type state message
  have hothers : ∀ other, other ≠ type →
      (updater.setState now type state message).state? other = updater.state? other :=
    fun other h => state?_setState_of_ne h updater now state message
  have hnoted := updater.transitions_setState now type state message
  by_cases hstate : updater.state? type = some state
  · rw [if_pos hstate, List.append_nil] at hnoted
    refine .rests (fun other => ?_) hnoted
    by_cases hother : other = type
    · rw [hother, hshown, hstate]
    · exact hothers other hother
  · rw [if_neg hstate] at hnoted
    exact .enters type state hstate hshown hothers hnoted

theorem steps_collect (updater : StatusUpdater) {update : StatusUpdate}
    (noted : update.isNoted = true) : updater.Steps (updater.collect update) := by
  cases update with
  | condition now new => cases noted
  | mark now feature state detail =>
      show updater.Steps (updater.mark now feature state detail)
      rw [mark_eq_setState]
      exact updater.steps_setState ..
  | overall now => exact updater.steps_setState ..
  | generation generation => exact .rests (fun _ => rfl) rfl
  | identity identity => exact .rests (fun _ => rfl) rfl
  | withdrawal => exact .rests (fun _ => rfl) rfl

/-- The state that the condition of a type enters, if it enters one. -/
def entered (before after : StatusUpdater) (type : String) : Option ConditionState :=
  if after.state? type = before.state? type then none else after.state? type

/-- The states that were noted for a type, in order. -/
def notedStates (updater : StatusUpdater) (type : String) : List ConditionState :=
  (updater.transitions.filter (fun entry => entry.type = type)).map (·.state)

namespace Steps

theorem notedStates_eq (steps : before.Steps after) (type : String) :
    after.notedStates type = before.notedStates type ++ (entered before after type).toList := by
  unfold notedStates entered
  cases steps with
  | rests states noted => simp [states type, noted]
  | enters entering state new shown others noted =>
      rw [noted]
      by_cases htype : entering = type
      · subst htype
        simp [shown, Ne.symm new]
      · simp [others type (Ne.symm htype), htype]

/-- A condition that is shown is never taken away. -/
theorem state?_eq_or (steps : before.Steps after) (type : String) :
    after.state? type = before.state? type ∨
      ∃ state, after.state? type = some state ∧ before.state? type ≠ some state := by
  cases steps with
  | rests states noted => exact Or.inl (states type)
  | enters entering state new shown others noted =>
      by_cases htype : type = entering
      · subst htype
        exact Or.inr ⟨state, shown, new⟩
      · exact Or.inl (others type htype)

theorem transitions_eq_of_states (steps : before.Steps after)
    (states : ∀ type, after.state? type = before.state? type) :
    after.transitions = before.transitions := by
  cases steps with
  | rests _ noted => exact noted
  | enters type state new shown others noted =>
      exact absurd ((states type).symm.trans shown) new

end Steps

/-! ## Rows of updates -/

/-- The updates of a row, each as what is collected before and behind it. -/
def course (updater : StatusUpdater) : List StatusUpdate → List (StatusUpdater × StatusUpdater)
  | [] => []
  | update :: rest => (updater, updater.collect update) :: (updater.collect update).course rest

/-- Whether the condition of a type shows a state behind an update that it did not show before. -/
def enters (type : String) (state : ConditionState) (step : StatusUpdater × StatusUpdater) : Bool :=
  step.2.state? type = some state ∧ step.1.state? type ≠ some state

section Rows

variable {updates : List StatusUpdate}

theorem entered_eq_some_iff :
    entered before after type = some state ↔ enters type state (before, after) = true := by
  unfold entered enters
  split
  · rename_i hsame
    simp [hsame]
  · rename_i hdiffer
    simp only [decide_eq_true_eq]
    refine ⟨fun hshown => ⟨hshown, fun hold => ?_⟩, And.left⟩
    exact hdiffer (hshown.trans hold.symm)

/-- What is noted over a row is what its updates enter, one behind the other. -/
theorem notedStates_collectAll (updater : StatusUpdater)
    (noted : ∀ update ∈ updates, update.isNoted = true) (type : String) :
    (updater.collectAll updates).notedStates type =
      updater.notedStates type ++
        (updater.course updates).filterMap (fun step => entered step.1 step.2 type) := by
  induction updates generalizing updater with
  | nil => exact (List.append_nil _).symm
  | cons update rest ih =>
      obtain ⟨hupdate, hrest⟩ := List.forall_mem_cons.1 noted
      have hrow := ih (updater.collect update) hrest
      rw [(updater.steps_collect hupdate).notedStates_eq type, List.append_assoc] at hrow
      refine hrow.trans (congrArg (updater.notedStates type ++ ·) ?_)
      rw [course, List.filterMap_cons]
      cases updater.entered (updater.collect update) type <;> rfl

theorem count_notedStates (updater : StatusUpdater)
    (noted : ∀ update ∈ updates, update.isNoted = true) (type : String) (state : ConditionState) :
    ((updater.collectAll updates).notedStates type).count state =
      (updater.notedStates type).count state +
        (updater.course updates).countP (enters type state) := by
  rw [notedStates_collectAll updater noted, List.count_append, List.count_filterMap]
  congr 1
  refine List.countP_congr (fun step _ => ?_)
  rw [beq_iff_eq]
  exact entered_eq_some_iff

/-- The states that a type enters differ from one to the next, the first from what was shown. -/
theorem isChain_entered (updater : StatusUpdater)
    (noted : ∀ update ∈ updates, update.isNoted = true) (type : String) :
    ((updater.state? type).toList ++
      (updater.course updates).filterMap (fun step => entered step.1 step.2 type)).IsChain
        (· ≠ ·) := by
  -- The state that is shown is the last one entered, so the next one entered differs from it.
  induction updates generalizing updater with
  | nil =>
      cases updater.state? type with
      | none => exact .nil
      | some state => exact .singleton state
  | cons update rest ih =>
      obtain ⟨hupdate, hrest⟩ := List.forall_mem_cons.1 noted
      have hrow := ih (updater.collect update) hrest
      rw [course, List.filterMap_cons]
      rcases (updater.steps_collect hupdate).state?_eq_or type with hsame | ⟨state, hshown, hnew⟩
      · have hentered : entered updater (updater.collect update) type = none := if_pos hsame
        rw [hsame] at hrow
        simpa only [hentered] using hrow
      · have hentered : entered updater (updater.collect update) type = some state :=
          entered_eq_some_iff.2 (by simp [enters, hshown, hnew])
        rw [hshown] at hrow
        simp only [hentered]
        cases hold : updater.state? type with
        | none => exact hrow
        | some old =>
            refine List.IsChain.cons_cons (fun heq => hnew ?_) hrow
            rw [hold, heq]

end Rows

end StatusUpdater

/-! ## Counters -/

theorem ConditionState.name_injective : Function.Injective ConditionState.name := by
  intro one other h
  cases one <;> cases other <;> first | rfl | exact absurd h (by decide)

/-- The pairs under which transitions are counted. -/
def IsTransitionPair (pair : Metrics.CountedPair) : Prop :=
  ∃ (type : String) (state : ConditionState), pair = ⟨type, state.name⟩

/-- The names of the states end differently, so that no type makes up for the difference. -/
theorem transitionPairs_toldApart : Metrics.ToldApart IsTransitionPair := by
  rintro _ _ ⟨type, state, rfl⟩ ⟨other, second, rfl⟩ hkey
  have hletters : type.toList ++ state.name.toList = other.toList ++ second.name.toList := by
    rw [← String.toList_append, ← String.toList_append]
    exact congrArg String.toList hkey
  have hsame : state = second := by
    have hlast := congrArg List.getLast? hletters
    cases state <;> cases second <;>
      first | rfl | simp [ConditionState.name] at hlast
  subst hsame
  rw [String.toList_injective (List.append_cancel_right hletters)]

/-- How often the conditions of a type are shown to have entered a state. -/
def transitionCount (measured : List Measurement) (type : String) (state : ConditionState) : Nat :=
  (Metrics.conditionTransitions.counters measured).sum (fun pair => pair = ⟨type, state.name⟩)

/-- The states that were counted for a type, in order. -/
def countedStates (measured : List Measurement) (type : String) : List String :=
  ((measured.filterMap Metrics.conditionTransitions.pair?).filter
    (fun pair => pair.subject = type)).map (·.aspect)

/-- What was counted of transitions: that conditions of some types entered some of the states. -/
def CountsTransitions (measured : List Measurement) : Prop :=
  ∀ pair ∈ measured.filterMap Metrics.conditionTransitions.pair?, IsTransitionPair pair

namespace StatusUpdater

theorem measurements_pairs (updater : StatusUpdater) :
    updater.measurements.filterMap Metrics.conditionTransitions.pair? =
      updater.transitions.map (fun entry => ⟨entry.type, entry.state.name⟩) := by
  unfold measurements
  rw [List.filterMap_map]
  exact congrFun List.filterMap_eq_map updater.transitions

theorem countsTransitions (updater : StatusUpdater) : CountsTransitions updater.measurements := by
  intro pair hpair
  rw [measurements_pairs] at hpair
  obtain ⟨entry, -, rfl⟩ := List.mem_map.1 hpair
  exact ⟨entry.type, entry.state, rfl⟩

theorem countedStates_eq (updater : StatusUpdater) (type : String) :
    countedStates updater.measurements type = (updater.notedStates type).map (·.name) := by
  unfold countedStates notedStates
  rw [measurements_pairs, List.filter_map, List.map_map, List.map_map]
  rfl

/-- What an updater noted is added to what was counted before. -/
theorem transitionCount_append {earlier : List Measurement} (told : CountsTransitions earlier)
    (updater : StatusUpdater) (type : String) (state : ConditionState) :
    transitionCount (earlier ++ updater.measurements) type state =
      transitionCount earlier type state + (updater.notedStates type).count state := by
  have hpairs : CountsTransitions (earlier ++ updater.measurements) := by
    intro pair hpair
    rw [List.filterMap_append, List.mem_append] at hpair
    exact hpair.elim (told pair) (updater.countsTransitions pair)
  unfold transitionCount
  rw [Metrics.CounterFamily.sum_counters _ transitionPairs_toldApart hpairs,
    Metrics.CounterFamily.sum_counters _ transitionPairs_toldApart told, List.filterMap_append,
    List.countP_append, measurements_pairs]
  congr 1
  unfold notedStates
  rw [List.countP_map, List.count_eq_countP, List.countP_map, List.countP_filter]
  refine List.countP_congr (fun entry _ => ?_)
  simp [ConditionState.name_injective.eq_iff, and_comm]

end StatusUpdater

/-! ## What is counted of a row of marks -/

/-- A condition without its message. -/
def Condition.unworded (condition : Condition) : Condition :=
  { condition with message := none }

/-- What is shown goes by types, status and reasons, and not by messages. -/
theorem StatusUpdater.state?_congr {before after : StatusUpdater}
    (same : after.status.conditions.map Condition.unworded =
      before.status.conditions.map Condition.unworded) (type : String) :
    after.state? type = before.state? type := by
  have hfind : ∀ conditions : List Condition,
      ConditionState.find? (conditions.map Condition.unworded) type =
        ConditionState.find? conditions type := by
    intro conditions
    unfold ConditionState.find? findCondition
    rw [List.find?_map, Option.map_map]
    rfl
  unfold StatusUpdater.state?
  rw [← hfind, same, hfind]

/-- What the counters of transitions show of a row of updates that start from an updater. -/
structure TransitionsCounted (start : StatusUpdater) (updates : List StatusUpdate) : Prop where
  /-- A counter rises once for every update behind which its type newly shows its state. -/
  counters : ∀ earlier type state, CountsTransitions earlier →
    transitionCount (earlier ++ (start.collectAll updates).measurements) type state =
      transitionCount earlier type state +
        (start.course updates).countP (StatusUpdater.enters type state)
  /-- An update that changes nothing but messages is not counted. -/
  reworded : ∀ earlier update later, updates = earlier ++ update :: later →
    ((start.collectAll earlier).collect update).status.conditions.map Condition.unworded =
        (start.collectAll earlier).status.conditions.map Condition.unworded →
      ((start.collectAll earlier).collect update).measurements =
        (start.collectAll earlier).measurements
  /-- Of what was shown at first and the states that are counted no two in a row are the same. -/
  alternating : ∀ type,
    (((start.state? type).map (·.name)).toList ++
      countedStates (start.collectAll updates).measurements type).IsChain (· ≠ ·)

/--
The counters of transitions count the marks of an updater that bring a condition into another state,
whatever is collected between them, and whoever wrote the conditions that are stored.
-/
theorem transitions_counted (nodeSet : NodeSet) (updates : List StatusUpdate)
    (noted : ∀ update ∈ updates, update.isNoted = true) :
    TransitionsCounted (.ofNodeSet nodeSet) updates := by
  constructor
  case counters =>
    intro earlier type state told
    rw [StatusUpdater.transitionCount_append told, StatusUpdater.count_notedStates _ noted]
    exact congrArg _ (Nat.zero_add _)
  case reworded =>
    rintro earlier update later rfl same
    have hupdate : update.isNoted = true :=
      noted update (List.mem_append_right earlier List.mem_cons_self)
    have hsteps := ((StatusUpdater.ofNodeSet nodeSet).collectAll earlier).steps_collect hupdate
    unfold StatusUpdater.measurements
    rw [hsteps.transitions_eq_of_states (StatusUpdater.state?_congr same)]
  case alternating =>
    intro type
    have hchain := (StatusUpdater.ofNodeSet nodeSet).isChain_entered noted type
    rw [StatusUpdater.countedStates_eq, StatusUpdater.notedStates_collectAll _ noted,
      Option.toList_map, ← List.map_append]
    exact List.isChain_map_of_isChain _ (fun _ _ h => ConditionState.name_injective.ne h) hchain

/-- A node set whose reservations others have called blocked, which counts as waiting. -/
def blockedSet : NodeSet where
  metadata := {}
  spec := {}
  status := some
    { conditions :=
        [{ type := "IPReservationReady", status := "Unknown", reason := some "Blocked" }] }

/-- Reservations are awaited, then ready, and then ready once more, in other words. -/
def readyRow : List StatusUpdate :=
  [.mark "12:00" .ipReservation .waiting none, .mark "12:05" .ipReservation .ready none,
    .withdrawal, .mark "12:10" .ipReservation .ready (some "all of them"), .overall "12:10"]

theorem blockedSet_transitions :
    (∀ update ∈ readyRow, update.isNoted = true) ∧
      let measured := ((StatusUpdater.ofNodeSet blockedSet).collectAll readyRow).measurements
      transitionCount measured "IPReservationReady" .waiting = 0 ∧
        transitionCount measured "IPReservationReady" .ready = 1 := by
  have noted : ∀ update ∈ readyRow, update.isNoted = true := by decide
  have hcounters := (transitions_counted blockedSet readyRow noted).counters []
    "IPReservationReady"
  have hnothing : CountsTransitions [] := fun _ hpair => nomatch hpair
  refine ⟨noted, (hcounters .waiting hnothing).trans ?_, (hcounters .ready hnothing).trans ?_⟩
  · decide
  · decide

end NodeIdentity
