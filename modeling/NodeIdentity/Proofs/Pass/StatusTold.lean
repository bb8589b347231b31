import NodeIdentity.Proofs.Pass.Settling

/-!
# What the conditions tell of a pass

Whatever conditions are stored, those that a pass leaves tell how it went: the states of the parts
where it succeeded, the stage that failed and why where it did not.  The condition of the whole
follows from those of the parts, also from one that the pass has not touched.
-/

namespace NodeIdentity

open StoreScript MemoryStore StatusUpdater ConditionState

/-! ## Telling conditions -/

/-- The condition by which a state is shown: the first of its type, in the words of the state. -/
structure ShownBy (conditions : List Condition) (type : String) (state : ConditionState)
    (condition : Condition) : Prop where
  found : findCondition conditions type = some condition
  decoded : ofCondition condition = state
  status : condition.status = state.status
  reason : condition.reason = some state.reason
  severity : condition.severity = state.severity

/-- The condition of a type shows a state. -/
def IsShown (conditions : List Condition) (type : String) (state : ConditionState) : Prop :=
  ∃ condition, ShownBy conditions type state condition

/-- A part is shown as failed, with the cause at the end of the message. -/
def IsBlamed (conditions : List Condition) (feature : Feature) (e : NetworkError) : Prop :=
  ∃ condition lead, ShownBy conditions feature.conditionType .error condition ∧
    condition.message = some (lead ++ e.message)

/-- The whole is shown in the state that follows from those in which its parts are shown. -/
structure FollowsFromParts (conditions : List Condition) : Prop where
  error : (∃ feature : Feature, find? conditions feature.conditionType = some .error) →
    find? conditions Condition.readyType = some .error
  waiting : (∀ feature : Feature, find? conditions feature.conditionType ≠ some .error) →
    (∃ feature : Feature, find? conditions feature.conditionType = some .waiting ∨
      find? conditions feature.conditionType = none) →
    find? conditions Condition.readyType = some .waiting
  ready : (∀ feature : Feature, find? conditions feature.conditionType = some .ready ∨
      find? conditions feature.conditionType = some .notApplicable) →
    find? conditions Condition.readyType = some .ready

theorem Shows.shownBy {conditions : List Condition} {type message : String}
    {state : ConditionState} (shows : Shows conditions type state message) :
    ∃ condition, ShownBy conditions type state condition ∧ condition.message = some message := by
  obtain ⟨time, hfind⟩ := shows
  refine ⟨{ state.condition type message with lastTransitionTime := some time }, ?_, rfl⟩
  exact { found := hfind, decoded := ofCondition_at .., status := rfl, reason := rfl,
          severity := rfl }

theorem Shows.isShown {conditions : List Condition} {type message : String}
    {state : ConditionState} (shows : Shows conditions type state message) :
    IsShown conditions type state := by
  obtain ⟨condition, hshown, -⟩ := shows.shownBy
  exact ⟨condition, hshown⟩

theorem StatusUpdater.IsMarked.isBlamed {updater : StatusUpdater} {feature : Feature}
    {e : NetworkError} (marked : updater.IsMarked feature .error (some e.message)) :
    IsBlamed updater.status.conditions feature e := by
  obtain ⟨condition, hshown, hmessage⟩ := Shows.shownBy marked
  exact ⟨condition, feature.message .error ++ ": ", hshown, hmessage⟩

/-! ## The condition of the whole -/

section Overall

variable {parts : Feature → Option ConditionState}

theorem overallState_eq_error (failed : ∃ feature, parts feature = some .error) :
    overallState (parts .ipReservation) (parts .dnsData) = .error := by
  obtain ⟨feature, hfeature⟩ := failed
  cases feature <;> simp [overallState, hfeature]

theorem overallState_eq_waiting (sound : ∀ feature, parts feature ≠ some .error)
    (awaited : ∃ feature, parts feature = some .waiting ∨ parts feature = none) :
    overallState (parts .ipReservation) (parts .dnsData) = .waiting := by
  have hsound : ∀ feature, (parts feature).getD .waiting ≠ .error := by
    intro feature herror
    cases hpart : parts feature with
    | none => simp [hpart] at herror
    | some state =>
        rw [hpart] at herror
        exact sound feature (hpart.trans (congrArg some herror))
  obtain ⟨feature, hfeature⟩ := awaited
  have hawaited : (parts feature).getD .waiting = .waiting := by
    rcases hfeature with h | h <;> rw [h] <;> rfl
  have hreservations := hsound .ipReservation
  have hdns := hsound .dnsData
  cases feature <;> simp_all [overallState, Ne.symm]

theorem overallState_eq_ready
    (settled : ∀ feature, parts feature = some .ready ∨ parts feature = some .notApplicable) :
    overallState (parts .ipReservation) (parts .dnsData) = .ready := by
  rcases settled .ipReservation with h | h <;> rcases settled .dnsData with h' | h' <;>
    rw [h, h'] <;> rfl

end Overall

namespace StatusUpdater

variable {updater : StatusUpdater}

theorem overall_of_isMarked_error {feature : Feature} {detail : Option String}
    (marked : updater.IsMarked feature .error detail) : updater.overall = .error := by
  have hfailed : ∃ part : Feature, updater.state? part.conditionType = some .error :=
    ⟨feature, marked.state?⟩
  exact overallState_eq_error hfailed

/-- Whatever is collected, the state of the whole is shown as it follows from that. -/
theorem followsFromParts_markOverall (updater : StatusUpdater) (now : String) :
    FollowsFromParts (updater.markOverall now).status.conditions := by
  have hwhole : find? (updater.markOverall now).status.conditions Condition.readyType =
      some (updater.markOverall now).overall := by
    rw [overall_markOverall]
    exact (shows_markOverall updater now).find?
  constructor
  case error =>
    intro failed
    exact hwhole.trans (congrArg some (overallState_eq_error failed))
  case waiting =>
    intro sound awaited
    exact hwhole.trans (congrArg some (overallState_eq_waiting sound awaited))
  case ready =>
    intro settled
    exact hwhole.trans (congrArg some (overallState_eq_ready settled))

end StatusUpdater

/-! ## Conditions that are not touched -/

section Untouched

variable {type : String}

namespace StatusUpdater

theorem conditionsOf_mark (updater : StatusUpdater) (now : String) {feature : Feature}
    (h : type ≠ feature.conditionType) (state : ConditionState) (detail : Option String) :
    conditionsOf (updater.mark now feature state detail).status.conditions type =
      conditionsOf updater.status.conditions type := by
  rw [mark_eq_setState, setState_status]
  exact conditionsOf_setCondition_of_ne h now updater.status.conditions

theorem conditionsOf_markOverall (updater : StatusUpdater) (now : String)
    (h : type ≠ Condition.readyType) :
    conditionsOf (updater.markOverall now).status.conditions type =
      conditionsOf updater.status.conditions type := by
  unfold markOverall
  rw [setState_status]
  exact conditionsOf_setCondition_of_ne h now updater.status.conditions

end StatusUpdater

theorem conditionsOf_failPass (updater : StatusUpdater) (now : String) {feature : Feature}
    (h : type ≠ feature.conditionType) (h' : type ≠ Condition.readyType) (e : NetworkError) :
    conditionsOf (failPass updater now feature e).updater.status.conditions type =
      conditionsOf updater.status.conditions type :=
  (conditionsOf_markOverall _ now h').trans (conditionsOf_mark updater now h .error _)

theorem conditionsOf_finishPass (updater : StatusUpdater) (now : String)
    (h : type ≠ Feature.dnsData.conditionType) (h' : type ≠ Condition.readyType)
    (reservations : ConditionState) (dns : Readiness NetworkIdentity) :
    conditionsOf (finishPass updater now reservations dns).updater.status.conditions type =
      conditionsOf updater.status.conditions type := by
  rw [finishPass_updater]
  exact (conditionsOf_markOverall _ now h').trans (conditionsOf_mark updater now h _ none)

/-- A pass touches no conditions but those of its parts and of the whole. -/
theorem PassEnding.conditionsOf_passEnd (nodeSet : NodeSet) (updater : StatusUpdater)
    (now : String) (foreign : ∀ feature : Feature, type ≠ feature.conditionType)
    (h : type ≠ Condition.readyType) (ending : PassEnding) :
    conditionsOf (ending.passEnd nodeSet updater now).updater.status.conditions type =
      conditionsOf updater.status.conditions type := by
  cases ending with
  | reservationsFailed e => exact conditionsOf_failPass _ now (foreign .ipReservation) h e
  | recordsFailed reservations e =>
      exact (conditionsOf_failPass _ now (foreign .dnsData) h e).trans
        (conditionsOf_mark _ now (foreign .ipReservation) _ none)
  | finished reservations dns =>
      exact (conditionsOf_finishPass _ now (foreign .dnsData) h _ dns).trans
        (conditionsOf_mark _ now (foreign .ipReservation) _ none)

end Untouched

/-! ## Endings -/

theorem isShown_failPass (updater : StatusUpdater) (now : String) (feature : Feature)
    (e : NetworkError) :
    IsShown (failPass updater now feature e).updater.status.conditions Condition.readyType
      .error := by
  have hmarked : ((updater.mark now feature .error (some e.message)).clearIdentity).IsMarked
      feature .error (some e.message) :=
    (isMarked_mark updater now feature .error (some e.message)).setIdentity {}
  have hshows := shows_markOverall
    ((updater.mark now feature .error (some e.message)).clearIdentity) now
  rw [overall_of_isMarked_error hmarked] at hshows
  exact hshows.isShown

namespace PassEnding

variable (nodeSet : NodeSet) (updater : StatusUpdater) (now : String)

theorem followsFromParts_passEnd (ending : PassEnding) :
    FollowsFromParts (ending.passEnd nodeSet updater now).updater.status.conditions := by
  cases ending with
  | reservationsFailed e => exact followsFromParts_markOverall _ now
  | recordsFailed reservations e => exact followsFromParts_markOverall _ now
  | finished reservations dns =>
      unfold passEnd
      dsimp only
      rw [finishPass_updater]
      exact followsFromParts_markOverall _ now

/-- A pass that succeeded shows the states of its outcome. -/
theorem isShown_finished (reservations : Readiness ReservationMap)
    (dns : Readiness NetworkIdentity) :
    let conditions :=
      ((finished reservations dns).passEnd nodeSet updater now).updater.status.conditions
    IsShown conditions Feature.ipReservation.conditionType (ofReadiness reservations) ∧
      IsShown conditions Feature.dnsData.conditionType (ofReadiness dns) ∧
      IsShown conditions Condition.readyType
        (overallState (some (ofReadiness reservations)) (some (ofReadiness dns))) := by
  have hmarked := reservedUpdater_isMarked nodeSet updater now reservations
  refine ⟨?_, ?_, ?_⟩
  · exact Shows.isShown (isMarked_finishPass hmarked now _ dns)
  · exact Shows.isShown (isMarked_finishPass_dnsData _ now _ dns)
  · rw [← overall_published nodeSet updater now]
    unfold passEnd
    dsimp only
    rw [finishPass_updater]
    exact (shows_markOverall _ now).isShown

end PassEnding

/-! ## Passes -/

/-- A failure is told as that of the stage which failed, and of no other. -/
inductive FailureTold (nodeSet : NodeSet) (store : MemoryStore)
    (before conditions : List Condition) (e : NetworkError) : Prop
  | reservations
      (failed : ((ensureReservations nodeSet).run.run serve store).1 = .error e)
      (blamed : IsBlamed conditions .ipReservation e)
      (kept : conditionsOf conditions Feature.dnsData.conditionType =
        conditionsOf before Feature.dnsData.conditionType) :
      FailureTold nodeSet store before conditions e
  | records {plan : List PlannedNode} {reservations : Readiness ReservationMap}
      {middle : MemoryStore}
      (reserved : (ensureReservations nodeSet).run.run serve store =
        (.ok (plan, reservations), middle))
      (failed : ((ensureDnsRecords nodeSet plan reservations).run.run serve middle).1 = .error e)
      (blamed : IsBlamed conditions .dnsData e)
      (shown : IsShown conditions Feature.ipReservation.conditionType
        (ofReadiness reservations)) :
      FailureTold nodeSet store before conditions e

/-- The status that a pass ends with tells how it went, given the conditions before it. -/
structure PassTold (nodeSet : NodeSet) (store : MemoryStore) (before : List Condition)
    (ended : PassEnd) : Prop where
  observed : ended.updater.status.observedGeneration = nodeSet.metadata.generation
  whole : FollowsFromParts ended.updater.status.conditions
  succeeded : ∀ outcome, ended.result = .ok outcome →
    IsShown ended.updater.status.conditions Feature.ipReservation.conditionType
        outcome.reservations ∧
      IsShown ended.updater.status.conditions Feature.dnsData.conditionType outcome.dns ∧
      IsShown ended.updater.status.conditions Condition.readyType outcome.overall
  failed : ∀ e, ended.result = .error e →
    IsShown ended.updater.status.conditions Condition.readyType .error ∧
      FailureTold nodeSet store before ended.updater.status.conditions e
  foreign : ∀ type, (∀ feature : Feature, type ≠ feature.conditionType) →
    type ≠ Condition.readyType →
    conditionsOf ended.updater.status.conditions type = conditionsOf before type

theorem PassCourse.failureTold {nodeSet : NodeSet} {store after : MemoryStore}
    {ending : PassEnding} {made : List Attempt} (updater : StatusUpdater) (now : String)
    (course : PassCourse nodeSet store ending after made) {e : NetworkError}
    (failed : ending.result = .error e) :
    FailureTold nodeSet store updater.status.conditions
      (ending.passEnd nodeSet updater now).updater.status.conditions e := by
  cases course with
  | reservationsFailed first =>
      cases failed
      apply FailureTold.reservations
      case failed => rw [first.runs.run_eq]
      case blamed => exact (isMarked_failPass_self _ now .ipReservation e).isBlamed
      case kept => exact conditionsOf_failPass _ now (by decide) (by decide) e
  | recordsFailed first second =>
      cases failed
      apply FailureTold.records first.runs.run_eq
      case failed => rw [second.runs.run_eq]
      case blamed => exact (isMarked_failPass_self _ now .dnsData e).isBlamed
      case shown =>
        have hmarked := PassEnding.reservedUpdater_isMarked nodeSet updater now
        exact Shows.isShown (isMarked_failPass (hmarked _) (by decide) now e)
  | finished first second => cases failed

/--
Whatever is stored, the status that a pass leaves tells the truth about it: it speaks of the request
that was looked at, and shows each part as the pass found it, or the failed stage as failed.
-/
theorem pass_told (nodeSet : NodeSet) (updater : StatusUpdater) (now : String)
    (store : MemoryStore) :
    PassTold nodeSet store updater.status.conditions
      ((runPass nodeSet updater now).run serve store).1 := by
  obtain ⟨ending, after, made, course⟩ := PassCourse.exists_passCourse nodeSet store
  rw [(course.runs updater now).run_eq]
  constructor
  case observed => exact ending.passEnd_observedGeneration nodeSet updater now
  case whole => exact ending.followsFromParts_passEnd nodeSet updater now
  case succeeded =>
    intro outcome succeeded
    rw [PassEnding.passEnd_result] at succeeded
    cases ending with
    | reservationsFailed e => cases succeeded
    | recordsFailed reservations e => cases succeeded
    | finished reservations dns =>
        cases succeeded
        exact PassEnding.isShown_finished nodeSet updater now reservations dns
  case failed =>
    intro e failed
    rw [PassEnding.passEnd_result] at failed
    refine ⟨?_, course.failureTold updater now failed⟩
    cases ending with
    | reservationsFailed e' => exact isShown_failPass _ now .ipReservation e'
    | recordsFailed reservations e' => exact isShown_failPass _ now .dnsData e'
    | finished reservations dns => cases failed
  case foreign =>
    intro type foreign h
    exact ending.conditionsOf_passEnd nodeSet updater now foreign h

end NodeIdentity
