import NodeIdentity.Proofs.Pass.Repetition

/-!
# Settled status

The status that a pass collects shows every update of the pass, so the next pass of the node set
that carries it has nothing to add.  An operator that writes its status only when it has changed
therefore comes to rest, whichever way the pass ended.
-/

namespace NodeIdentity

open StoreScript MemoryStore StatusUpdater

variable {updater again : StatusUpdater} {now : String}

/-! ## What an ending keeps -/

theorem failPass_observedGeneration (updater : StatusUpdater) (now : String) (feature : Feature)
    (e : NetworkError) :
    (failPass updater now feature e).updater.status.observedGeneration =
      updater.status.observedGeneration := by
  simp [failPass, clearIdentity]

theorem finishPass_observedGeneration (updater : StatusUpdater) (now : String)
    (reservations : ConditionState) (dns : Readiness NetworkIdentity) :
    (finishPass updater now reservations dns).updater.status.observedGeneration =
      updater.status.observedGeneration := by
  simp [finishPass_updater]

theorem isMarked_failPass {feature other : Feature} {state : ConditionState}
    {detail : Option String} (marked : updater.IsMarked feature state detail)
    (h : feature ≠ other) (now : String) (e : NetworkError) :
    (failPass updater now other e).updater.IsMarked feature state detail :=
  ((marked.mark_of_ne h now .error (some e.message)).setIdentity {}).markOverall now

theorem isMarked_failPass_self (updater : StatusUpdater) (now : String) (feature : Feature)
    (e : NetworkError) :
    (failPass updater now feature e).updater.IsMarked feature .error (some e.message) :=
  ((isMarked_mark updater now feature .error (some e.message)).setIdentity {}).markOverall now

theorem isMarked_finishPass {state : ConditionState} {detail : Option String}
    (marked : updater.IsMarked .ipReservation state detail) (now : String)
    (reservations : ConditionState) (dns : Readiness NetworkIdentity) :
    (finishPass updater now reservations dns).updater.IsMarked .ipReservation state detail := by
  rw [finishPass_updater]
  exact ((marked.mark_of_ne (by decide) now (.ofReadiness dns) none).setIdentity
    (publishedIdentity dns)).markOverall now

theorem isMarked_finishPass_dnsData (updater : StatusUpdater) (now : String)
    (reservations : ConditionState) (dns : Readiness NetworkIdentity) :
    (finishPass updater now reservations dns).updater.IsMarked .dnsData (.ofReadiness dns)
      none := by
  rw [finishPass_updater]
  exact ((isMarked_mark updater now .dnsData (.ofReadiness dns) none).setIdentity
    (publishedIdentity dns)).markOverall now

theorem failPass_identity (updater : StatusUpdater) (now : String) (feature : Feature)
    (e : NetworkError) : (failPass updater now feature e).updater.status.identity = {} :=
  markOverall_identity _ now

theorem finishPass_identity (updater : StatusUpdater) (now : String)
    (reservations : ConditionState) (dns : Readiness NetworkIdentity) :
    (finishPass updater now reservations dns).updater.status.identity = publishedIdentity dns := by
  rw [finishPass_updater, markOverall_identity]
  rfl

theorem distinctTypes_failPass (distinct : DistinctTypes updater.status.conditions) (now : String)
    (feature : Feature) (e : NetworkError) :
    DistinctTypes (failPass updater now feature e).updater.status.conditions := by
  have hmarked := distinctTypes_mark distinct now feature .error (some e.message)
  exact distinctTypes_markOverall
    (show DistinctTypes (clearIdentity _).status.conditions from hmarked) now

theorem distinctTypes_finishPass (distinct : DistinctTypes updater.status.conditions)
    (now : String) (reservations : ConditionState) (dns : Readiness NetworkIdentity) :
    DistinctTypes (finishPass updater now reservations dns).updater.status.conditions := by
  have hmarked := distinctTypes_mark distinct now .dnsData (.ofReadiness dns) none
  rw [finishPass_updater]
  exact distinctTypes_markOverall
    (show DistinctTypes (setIdentity _ (publishedIdentity dns)).status.conditions from hmarked) now

namespace PassEnding

/-- The identity that a pass with this ending publishes. -/
def identity : PassEnding → PublishedIdentity
  | reservationsFailed _ | recordsFailed _ _ => {}
  | finished _ dns => publishedIdentity dns

theorem passEnd_observedGeneration (nodeSet : NodeSet) (updater : StatusUpdater) (now : String)
    (ending : PassEnding) :
    (ending.passEnd nodeSet updater now).updater.status.observedGeneration =
      nodeSet.metadata.generation := by
  cases ending with
  | reservationsFailed e => exact failPass_observedGeneration ..
  | recordsFailed reservations e =>
      exact (failPass_observedGeneration ..).trans (mark_observedGeneration ..)
  | finished reservations dns =>
      exact (finishPass_observedGeneration ..).trans (mark_observedGeneration ..)

/-- What a pass publishes does not depend on what was published before. -/
theorem passEnd_identity (nodeSet : NodeSet) (updater : StatusUpdater) (now : String)
    (ending : PassEnding) :
    (ending.passEnd nodeSet updater now).updater.status.identity = ending.identity := by
  cases ending with
  | reservationsFailed e => exact failPass_identity ..
  | recordsFailed reservations e => exact failPass_identity ..
  | finished reservations dns => exact finishPass_identity ..

theorem distinctTypes_passEnd (nodeSet : NodeSet)
    (distinct : DistinctTypes updater.status.conditions) (now : String) (ending : PassEnding) :
    DistinctTypes (ending.passEnd nodeSet updater now).updater.status.conditions := by
  have hobserved : DistinctTypes
      (updater.setObservedGeneration nodeSet.metadata.generation).status.conditions := distinct
  cases ending with
  | reservationsFailed e => exact distinctTypes_failPass hobserved now _ e
  | recordsFailed reservations e =>
      exact distinctTypes_failPass (distinctTypes_mark hobserved now _ _ none) now _ e
  | finished reservations dns =>
      exact distinctTypes_finishPass (distinctTypes_mark hobserved now _ _ none) now _ dns

end PassEnding

/-! ## Endings that were shown before -/

/-- A failure that is shown already leaves the updater as it is. -/
theorem failPass_again {feature : Feature} {e : NetworkError}
    (same : again.status = (failPass updater now feature e).updater.status) (later : String) :
    (failPass again later feature e).updater = again := by
  have hmarked : again.IsMarked feature .error (some e.message) :=
    (isMarked_failPass_self updater now feature e).congr same
  have hidentity : again.status.identity = {} := by
    rw [same, failPass_identity]
  show ((again.mark later feature .error (some e.message)).setIdentity {}).markOverall later = again
  rw [hmarked.mark_eq later, setIdentity_of_eq hidentity]
  exact markOverall_again same later

/-- An outcome that is shown already leaves the updater as it is. -/
theorem finishPass_again {reservations : ConditionState} {dns : Readiness NetworkIdentity}
    (same : again.status = (finishPass updater now reservations dns).updater.status)
    (later : String) : (finishPass again later reservations dns).updater = again := by
  have hmarked : again.IsMarked .dnsData (.ofReadiness dns) none :=
    (isMarked_finishPass_dnsData updater now reservations dns).congr same
  have hidentity : again.status.identity = publishedIdentity dns := by
    rw [same, finishPass_identity]
  rw [finishPass_updater] at same ⊢
  rw [hmarked.mark_eq later, setIdentity_of_eq hidentity]
  exact markOverall_again same later

namespace PassEnding

theorem reservedUpdater_again {nodeSet : NodeSet} {reservations : Readiness ReservationMap}
    (observed : again.status.observedGeneration = nodeSet.metadata.generation)
    (marked : again.IsMarked .ipReservation (.ofReadiness reservations) none) (later : String) :
    reservedUpdater nodeSet again later reservations = again := by
  unfold reservedUpdater
  rw [setObservedGeneration_of_eq observed, marked.mark_eq later]

/-- A pass whose ending is shown already leaves the updater as it is. -/
theorem passEnd_again {nodeSet : NodeSet} (ending : PassEnding)
    (same : again.status = (ending.passEnd nodeSet updater now).updater.status) (later : String) :
    (ending.passEnd nodeSet again later).updater = again := by
  have hobserved : again.status.observedGeneration = nodeSet.metadata.generation := by
    rw [same, passEnd_observedGeneration]
  cases ending with
  | reservationsFailed e =>
      unfold passEnd
      dsimp only
      rw [setObservedGeneration_of_eq hobserved]
      exact failPass_again same later
  | recordsFailed reservations e =>
      have hmarked := (isMarked_failPass
        (reservedUpdater_isMarked nodeSet updater now reservations) (by decide) now e).congr same
      unfold passEnd
      dsimp only
      rw [reservedUpdater_again hobserved hmarked]
      exact failPass_again same later
  | finished reservations dns =>
      have hmarked := (isMarked_finishPass
        (reservedUpdater_isMarked nodeSet updater now reservations) now _ dns).congr same
      unfold passEnd
      dsimp only
      rw [reservedUpdater_again hobserved hmarked]
      exact finishPass_again same later

/-- What a failed pass counts beside transitions is its failure. -/
theorem passEnd_failures (nodeSet : NodeSet) (updater : StatusUpdater) (now : String)
    (ending : PassEnding) (type state : String) :
    Measurement.transition type state ∉ (ending.passEnd nodeSet updater now).failures := by
  cases ending with
  | reservationsFailed e => simp [passEnd, failPass, NetworkError.measurement]
  | recordsFailed reservations e => simp [passEnd, failPass, NetworkError.measurement]
  | finished reservations dns => simp [passEnd, finishPass]

end PassEnding

/-! ## Passes of a node set that carries its status -/

/-- What a pass does with the store does not depend on the status that is stored. -/
theorem runPass_withStatus (nodeSet : NodeSet) (status : Option NodeSetStatus)
    (updater : StatusUpdater) (now : String) :
    runPass { nodeSet with status := status } updater now = runPass nodeSet updater now := rfl

theorem distinctTypes_ofNodeSet {nodeSet : NodeSet}
    (distinct : ∀ status, nodeSet.status = some status → DistinctTypes status.conditions) :
    DistinctTypes (ofNodeSet nodeSet).status.conditions := by
  unfold ofNodeSet
  cases hstatus : nodeSet.status with
  | none => exact List.nodup_nil
  | some status => exact distinct status hstatus

/--
The status settles: a second pass, at whatever time, of the node set that carries the status which
the first pass collected ends with the same status, in which each condition has the time that it
had; there is nothing to write, and no transition is counted.
-/
theorem status_settles (nodeSet : NodeSet) (now later : String) (store : MemoryStore)
    (distinct : ∀ status, nodeSet.status = some status → DistinctTypes status.conditions) :
    let first := (runPass nodeSet (.ofNodeSet nodeSet) now).run serve store
    let settled : NodeSet := { nodeSet with status := some first.1.updater.status }
    let second := (runPass settled (.ofNodeSet settled) later).run serve first.2
    second.1.updater.status = first.1.updater.status ∧
      second.1.updater.hasChanges = false ∧
      ∀ type state, Measurement.transition type state ∉ second.1.measurements := by
  obtain ⟨ending, after, made, course, hruns⟩ := runPass_course nodeSet store
  have hfirst := (hruns (.ofNodeSet nodeSet) now).run_eq
  dsimp only
  rw [hfirst, runPass_withStatus]
  dsimp only
  -- The second pass knows of the first no more than its status and its store.
  generalize hstatus : (ending.passEnd nodeSet (ofNodeSet nodeSet) now).updater.status = status
  have hdistinct : DistinctTypes status.conditions := by
    rw [← hstatus]
    exact ending.distinctTypes_passEnd nodeSet (distinctTypes_ofNodeSet distinct) now
  have hcarried : (ending.passEnd nodeSet (ofNodeSet { nodeSet with status := some status })
      later).updater = ofNodeSet { nodeSet with status := some status } :=
    ending.passEnd_again hstatus.symm later
  have hsecond := (runs_again course (ofNodeSet { nodeSet with status := some status })
    later).run_eq
  rw [hsecond]
  unfold PassEnd.measurements
  dsimp only
  rw [hcarried]
  refine ⟨rfl, hasChanges_eq_false rfl hdistinct, fun type state => ?_⟩
  rw [show (ofNodeSet { nodeSet with status := some status }).measurements = [] from rfl,
    List.append_nil]
  exact ending.passEnd_failures nodeSet _ later type state

/-- A node set of one node, with a status that is out of date. -/
def staleSet : NodeSet where
  metadata := { name := some "edpm", ns := some "openstack", generation := some 2 }
  spec := { nodes := Dict.ofList [("edpm-0", { networks := [{ name := "ctlplane" }] })] }
  status := some
    { conditions :=
        [ConditionState.waiting.condition "IPReservationReady" "in progress",
          ConditionState.waiting.condition "Ready" "in progress"]
      observedGeneration := some 1 }

theorem distinctTypes_staleSet :
    ∀ status, staleSet.status = some status → DistinctTypes status.conditions := by
  rintro _ ⟨⟩
  unfold DistinctTypes
  decide

/-- The status of `staleSet` changes in the first pass, and no more in the second. -/
theorem staleSet_settles :
    let first := (runPass staleSet (.ofNodeSet staleSet) "2026-01-01T00:00:00Z").run serve
      ({} : MemoryStore)
    let settled : NodeSet := { staleSet with status := some first.1.updater.status }
    let second := (runPass settled (.ofNodeSet settled) "2026-01-01T00:05:00Z").run serve first.2
    (∀ status, staleSet.status = some status → DistinctTypes status.conditions) ∧
      first.1.updater.hasChanges = true ∧ second.1.updater.hasChanges = false := by
  have hsettles := status_settles staleSet "2026-01-01T00:00:00Z" "2026-01-01T00:05:00Z" {}
    distinctTypes_staleSet
  exact ⟨distinctTypes_staleSet, by decide, hsettles.2.1⟩

end NodeIdentity
