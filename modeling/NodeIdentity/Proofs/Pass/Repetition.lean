import NodeIdentity.Proofs.Pass.Course

/-!
# Repeated passes

A pass on the store that a pass left goes the same way: it makes the same calls, finds every object
as it wants it, and ends in the same way.  This holds wherever the first pass stopped, also where it
stopped half-way.
-/

namespace NodeIdentity

open StoreScript MemoryStore

/-- Both stages go the same way again, the second behind the first. -/
private theorem stages_again {nodeSet : NodeSet} {store middle after : MemoryStore}
    {plan : List PlannedNode} {reservations : Readiness ReservationMap}
    {result : Except NetworkError (Readiness NetworkIdentity)} {made more : List Attempt}
    (first : ReservationCourse nodeSet store (.ok (plan, reservations)) middle made)
    (second : RecordCourse nodeSet plan reservations middle result after more) :
    ReservationCourse nodeSet after (.ok (plan, reservations))
        (after.logCalls (made.map (·.request))) made ∧
      RecordCourse nodeSet plan reservations (after.logCalls (made.map (·.request))) result
        (after.logCalls ((made ++ more).map (·.request))) more := by
  obtain ⟨written, hmiddle⟩ := first.frame
  obtain ⟨written', hafter⟩ := second.frame
  have hfaults : after.faults = middle.faults := by rw [hafter]
  have hnetConfigs : after.netConfigs = middle.netConfigs := by rw [hafter]
  have hservices : after.dnsServices = middle.dnsServices := by rw [hafter]
  have hserved : after.recordSetsServed = middle.recordSetsServed := by rw [hafter]
  have hreservations : after.reservations = middle.reservations := by rw [hafter]
  constructor
  -- The second stage left reservations alone, so the first finds them as it left them.
  · refine first.again ?_ ?_ hreservations
    · rw [hfaults, hmiddle]
    · rw [hnetConfigs, hmiddle]
  · have hagain := second.again
      (show (after.logCalls (made.map (·.request))).faults = middle.faults from hfaults)
      hservices hserved rfl
    rw [logCalls_logCalls, ← List.map_append] at hagain
    exact hagain

/-- A pass on what a pass left goes the same way, and only logs its calls. -/
theorem PassCourse.again {nodeSet : NodeSet} {store after : MemoryStore} {ending : PassEnding}
    {made : List Attempt} (course : PassCourse nodeSet store ending after made) :
    PassCourse nodeSet after ending (after.logCalls (made.map (·.request))) made := by
  cases course with
  | reservationsFailed first =>
      obtain ⟨written, hafter⟩ := first.frame
      exact .reservationsFailed (first.again (by rw [hafter]) (by rw [hafter]) rfl)
  | recordsFailed first second =>
      obtain ⟨hfirst, hsecond⟩ := stages_again first second
      exact .recordsFailed hfirst hsecond
  | finished first second =>
      obtain ⟨hfirst, hsecond⟩ := stages_again first second
      exact .finished hfirst hsecond

/-- Two passes in a row make the same calls, and the second only adds them to the log. -/
theorem runs_again {nodeSet : NodeSet} {store after : MemoryStore} {ending : PassEnding}
    {made : List Attempt} (course : PassCourse nodeSet store ending after made)
    (updater : StatusUpdater) (now : String) :
    Runs serve (runPass nodeSet updater now) after (ending.passEnd nodeSet updater now)
      (after.logCalls (made.map (·.request))) made :=
  course.again.runs updater now

/--
A pass brings the store to rest: run once more at whatever time, it writes nothing, leaves all
objects as they are, and comes to the same result, be it an outcome or a failure.
-/
theorem second_pass_at_rest (nodeSet : NodeSet) (updater updater' : StatusUpdater)
    (now now' : String) (store : MemoryStore) :
    let first := (runPass nodeSet updater now).run serve store
    let second := (runPass nodeSet updater' now').run serve first.2
    second.2.writes = first.2.writes ∧
      second.2.reservations = first.2.reservations ∧
      second.2.recordSets = first.2.recordSets ∧
      second.1.result = first.1.result := by
  obtain ⟨ending, after, made, course, hruns⟩ := runPass_course nodeSet store
  have hfirst := (hruns updater now).run_eq
  have hsecond := (runs_again course updater' now').run_eq
  dsimp only
  rw [hfirst, hsecond]
  refine ⟨rfl, rfl, rfl, ?_⟩
  rw [PassEnding.passEnd_result, PassEnding.passEnd_result]

end NodeIdentity
