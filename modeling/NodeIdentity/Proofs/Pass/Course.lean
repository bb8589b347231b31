import NodeIdentity.Proofs.Pass.Records
import NodeIdentity.Proofs.Pass.Reservations
import NodeIdentity.Proofs.Status.Updater

/-!
# The course of a pass on a store in memory

A pass ends behind its first stage if that fails, and behind its second stage otherwise.  Which
calls it makes and what it leaves stored depends neither on the time nor on what is collected for
the status, so `PassCourse` lists the ways in which a pass can go without them.  Every pass goes one
of these ways; all results about passes start from there.
-/

namespace NodeIdentity

open StoreScript MemoryStore

/-! ## Endings -/

/-- Where a pass ended, and what its stages came to. -/
inductive PassEnding
  | reservationsFailed (e : NetworkError)
  | recordsFailed (reservations : Readiness ReservationMap) (e : NetworkError)
  | finished (reservations : Readiness ReservationMap) (dns : Readiness NetworkIdentity)

namespace PassEnding

/-- The updater behind a first stage that succeeded. -/
def reservedUpdater (nodeSet : NodeSet) (updater : StatusUpdater) (now : String)
    (reservations : Readiness ReservationMap) : StatusUpdater :=
  (updater.setObservedGeneration nodeSet.metadata.generation).mark now .ipReservation
    (.ofReadiness reservations) none

/-- How the pass ended: its result, its status, and what was counted. -/
def passEnd (nodeSet : NodeSet) (updater : StatusUpdater) (now : String) : PassEnding → PassEnd
  | reservationsFailed e =>
      failPass (updater.setObservedGeneration nodeSet.metadata.generation) now .ipReservation e
  | recordsFailed reservations e =>
      failPass (reservedUpdater nodeSet updater now reservations) now .dnsData e
  | finished reservations dns =>
      finishPass (reservedUpdater nodeSet updater now reservations) now (.ofReadiness reservations)
        dns

/-- The result of the pass. -/
def result : PassEnding → Except NetworkError PassOutcome
  | reservationsFailed e => .error e
  | recordsFailed _ e => .error e
  | finished reservations dns =>
      .ok
        { reservations := .ofReadiness reservations
          dns := .ofReadiness dns
          overall :=
            overallState (some (.ofReadiness reservations)) (some (.ofReadiness dns)) }

end PassEnding

/-- The identity that a pass publishes. -/
def publishedIdentity : Readiness NetworkIdentity → PublishedIdentity
  | .ready identity => identity.published
  | .waiting | .notApplicable => {}

theorem finishPass_updater (updater : StatusUpdater) (now : String) (reservations : ConditionState)
    (dns : Readiness NetworkIdentity) :
    (finishPass updater now reservations dns).updater =
      ((updater.mark now .dnsData (.ofReadiness dns) none).setIdentity
        (publishedIdentity dns)).markOverall now := by
  cases dns <;> rfl

theorem finishPass_result (updater : StatusUpdater) (now : String) (reservations : ConditionState)
    (dns : Readiness NetworkIdentity) :
    (finishPass updater now reservations dns).result =
      .ok
        { reservations := reservations
          dns := .ofReadiness dns
          overall :=
            ((updater.mark now .dnsData (.ofReadiness dns) none).setIdentity
              (publishedIdentity dns)).overall } := by
  cases dns <;> rfl

namespace PassEnding

theorem reservedUpdater_isMarked (nodeSet : NodeSet) (updater : StatusUpdater) (now : String)
    (reservations : Readiness ReservationMap) :
    (reservedUpdater nodeSet updater now reservations).IsMarked .ipReservation
      (.ofReadiness reservations) none :=
  StatusUpdater.isMarked_mark ..

/-- The whole, where both stages succeeded, is what its parts amount to. -/
theorem overall_published (nodeSet : NodeSet) (updater : StatusUpdater) (now : String)
    (reservations : Readiness ReservationMap) (dns : Readiness NetworkIdentity) :
    (((reservedUpdater nodeSet updater now reservations).mark now .dnsData (.ofReadiness dns)
      none).setIdentity (publishedIdentity dns)).overall =
        overallState (some (.ofReadiness reservations)) (some (.ofReadiness dns)) := by
  have hfirst := (reservedUpdater_isMarked nodeSet updater now reservations).mark_of_ne
    (by decide : Feature.ipReservation ≠ .dnsData) now (.ofReadiness dns) none
  exact StatusUpdater.overall_of_isMarked (hfirst.setIdentity (publishedIdentity dns))
    ((StatusUpdater.isMarked_mark ..).setIdentity (publishedIdentity dns))

/-- The result of a pass does not depend on what was collected before. -/
theorem passEnd_result (nodeSet : NodeSet) (updater : StatusUpdater) (now : String)
    (ending : PassEnding) : (ending.passEnd nodeSet updater now).result = ending.result := by
  cases ending with
  | reservationsFailed e => rfl
  | recordsFailed reservations e => rfl
  | finished reservations dns =>
      show (finishPass _ _ _ _).result = _
      rw [finishPass_result, overall_published]
      rfl

end PassEnding

/-! ## Courses -/

/-- The ways in which a pass can go. -/
inductive PassCourse (nodeSet : NodeSet) (store : MemoryStore) :
    PassEnding → MemoryStore → List Attempt → Prop
  | reservationsFailed {e : NetworkError} {after : MemoryStore} {made : List Attempt}
      (first : ReservationCourse nodeSet store (.error e) after made) :
      PassCourse nodeSet store (.reservationsFailed e) after made
  | recordsFailed {plan : List PlannedNode} {reservations : Readiness ReservationMap}
      {e : NetworkError} {middle after : MemoryStore} {made more : List Attempt}
      (first : ReservationCourse nodeSet store (.ok (plan, reservations)) middle made)
      (second : RecordCourse nodeSet plan reservations middle (.error e) after more) :
      PassCourse nodeSet store (.recordsFailed reservations e) after (made ++ more)
  | finished {plan : List PlannedNode} {reservations : Readiness ReservationMap}
      {dns : Readiness NetworkIdentity} {middle after : MemoryStore} {made more : List Attempt}
      (first : ReservationCourse nodeSet store (.ok (plan, reservations)) middle made)
      (second : RecordCourse nodeSet plan reservations middle (.ok dns) after more) :
      PassCourse nodeSet store (.finished reservations dns) after (made ++ more)

namespace PassCourse

variable {nodeSet : NodeSet} {store after : MemoryStore} {ending : PassEnding}
  {made : List Attempt}

theorem runs (course : PassCourse nodeSet store ending after made) (updater : StatusUpdater)
    (now : String) :
    Runs serve (runPass nodeSet updater now) store (ending.passEnd nodeSet updater now) after
      made := by
  cases course with
  | reservationsFailed first => exact Runs.bindDone first.runs rfl
  | recordsFailed first second => exact Runs.bind first.runs (Runs.bindDone second.runs rfl)
  | finished first second => exact Runs.bind first.runs (Runs.bindDone second.runs rfl)

theorem exists_passCourse (nodeSet : NodeSet) (store : MemoryStore) :
    ∃ ending after made, PassCourse nodeSet store ending after made := by
  obtain ⟨result, middle, made, first⟩ :=
    ReservationCourse.exists_reservationCourse nodeSet store
  cases result with
  | error e => exact ⟨_, _, _, reservationsFailed first⟩
  | ok value =>
      obtain ⟨plan, reservations⟩ := value
      obtain ⟨result, after, more, second⟩ :=
        RecordCourse.exists_recordCourse nodeSet plan reservations middle
      cases result with
      | error e => exact ⟨_, _, _, recordsFailed first second⟩
      | ok dns => exact ⟨_, _, _, finished first second⟩

/-- A pass changes nothing but reservations, record sets and logs. -/
theorem frame (course : PassCourse nodeSet store ending after made) :
    ∃ written, after =
      { store with
        reservations := after.reservations
        recordSets := after.recordSets
        writes := store.writes ++ written
        calls := store.calls ++ made.map (·.request) } := by
  cases course with
  | reservationsFailed first =>
      obtain ⟨written, h⟩ := first.frame
      refine ⟨written, ?_⟩
      rw [h]
  | recordsFailed first second =>
      obtain ⟨written, h⟩ := first.frame
      obtain ⟨more, h'⟩ := second.frame
      refine ⟨written ++ more, ?_⟩
      rw [h', h]
      simp
  | finished first second =>
      obtain ⟨written, h⟩ := first.frame
      obtain ⟨more, h'⟩ := second.frame
      refine ⟨written ++ more, ?_⟩
      rw [h', h]
      simp

/-- A pass writes reservations in its first stage only: those of a beginning of its plan. -/
theorem reservations_eq (course : PassCourse nodeSet store ending after made) :
    ∃ written, written <+: planReservations nodeSet.spec ∧
      after.reservations =
        reservedAll (nodeSet.childMeta .ipReservation) store.reservations written := by
  cases course with
  | reservationsFailed first => exact first.reservations_eq
  | recordsFailed first second =>
      rw [second.reservations_unchanged]
      exact first.reservations_eq
  | finished first second =>
      rw [second.reservations_unchanged]
      exact first.reservations_eq

theorem keptByName (course : PassCourse nodeSet store ending after made)
    (kept : KeptByName store.reservations) : KeptByName after.reservations := by
  obtain ⟨written, -, h⟩ := course.reservations_eq
  rw [h]
  exact keptByName_reservedAll kept _ written

end PassCourse

/-- Every pass goes one of the ways, whatever is collected and whenever it is run. -/
theorem runPass_course (nodeSet : NodeSet) (store : MemoryStore) :
    ∃ ending after made, PassCourse nodeSet store ending after made ∧
      ∀ updater now, Runs serve (runPass nodeSet updater now) store
        (ending.passEnd nodeSet updater now) after made := by
  obtain ⟨ending, after, made, course⟩ := PassCourse.exists_passCourse nodeSet store
  exact ⟨ending, after, made, course, course.runs⟩

end NodeIdentity
