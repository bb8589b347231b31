import NodeIdentity.Proofs.Pass.Course
import NodeIdentity.Proofs.Status.Times

/-!
# Conduct of passes

What holds of a script whatever its calls are answered: which calls it may make, and what it can end
with.  Both go by the parts of a script, so they are shown of a pass stage by stage, without looking
at any store, and hold over every store alike.
-/

namespace NodeIdentity

namespace StoreScript

variable {α β : Type} {allowed : StoreCall → Prop} {post : β → Prop}

/-- Whatever is answered, the script makes allowed calls only. -/
def Uses (allowed : StoreCall → Prop) : StoreScript α → Prop
  | done _ => True
  | call request next => allowed request ∧ ∀ answer, (next answer).Uses allowed

/-- Whatever is answered, the script ends with a value that satisfies a condition. -/
def EndsIn (post : α → Prop) : StoreScript α → Prop
  | done value => post value
  | call _ next => ∀ answer, (next answer).EndsIn post

theorem Uses.done (allowed : StoreCall → Prop) (value : α) :
    Uses allowed (pure value : StoreScript α) := trivial

theorem Uses.bind {script : StoreScript α} {next : α → StoreScript β}
    (first : script.Uses allowed) (rest : ∀ value, (next value).Uses allowed) :
    (script >>= next).Uses allowed := by
  induction script with
  | done value => exact rest value
  | call request more ih => exact ⟨first.1, fun answer => ih answer (first.2 answer)⟩

theorem EndsIn.bind (script : StoreScript α) {next : α → StoreScript β}
    (rest : ∀ value, (next value).EndsIn post) : (script >>= next).EndsIn post := by
  induction script with
  | done value => exact rest value
  | call request more ih => exact fun answer => ih answer

theorem Uses.perform {request : StoreCall} (h : allowed request) :
    (StoreAction.perform request).run.Uses allowed := by
  refine ⟨h, fun answer => ?_⟩
  cases answer <;> trivial

/-- An action that goes on with another one makes the calls of both. -/
theorem Uses.andThen {action : StoreAction α} {next : α → StoreAction β}
    (first : action.run.Uses allowed) (rest : ∀ value, (next value).run.Uses allowed) :
    (action >>= next).run.Uses allowed := by
  refine Uses.bind first (fun result => ?_)
  cases result with
  | ok value => exact rest value
  | error e => exact trivial

end StoreScript

open StoreScript

/-! ## Passes -/

/-- The calls of a pass, whatever it finds: lists, its planned nodes, and its own record set. -/
def NodeSet.MayCall (nodeSet : NodeSet) : StoreCall → Prop
  | .listNetConfigs ns | .listDnsServices ns => ns = nodeSet.place
  | .upsertReservation ns name _ _ | .getReservation ns name =>
      ns = nodeSet.place ∧ ∃ node ∈ planReservations nodeSet.spec, node.name = name
  | .upsertRecordSet ns name _ _ | .getRecordSet ns name =>
      ns = nodeSet.place ∧ name = nodeSet.name

section Passes

variable {nodeSet : NodeSet} {plan : List PlannedNode}

theorem syncReservations_uses (child : ChildMeta)
    (planned : plan ⊆ planReservations nodeSet.spec) :
    (syncReservations nodeSet.place child plan).run.Uses nodeSet.MayCall := by
  induction plan with
  | nil => exact Uses.done _ _
  | cons node rest ih =>
      obtain ⟨hnode, hrest⟩ := List.cons_subset.1 planned
      refine Uses.andThen (Uses.perform ⟨rfl, node, hnode, rfl⟩) (fun outcome => ?_)
      exact Uses.andThen (ih hrest) (fun written => Uses.done _ _)

theorem readBackReservations_uses (planned : plan ⊆ planReservations nodeSet.spec) :
    (readBackReservations nodeSet.place plan).run.Uses nodeSet.MayCall := by
  induction plan with
  | nil => exact Uses.done _ _
  | cons node rest ih =>
      obtain ⟨hnode, hrest⟩ := List.cons_subset.1 planned
      refine Uses.andThen (Uses.perform ⟨rfl, node, hnode, rfl⟩) (fun reservation => ?_)
      exact Uses.andThen (ih hrest) (fun others => Uses.done _ _)

theorem ensureReservations_uses (nodeSet : NodeSet) :
    (ensureReservations nodeSet).run.Uses nodeSet.MayCall := by
  unfold ensureReservations
  dsimp only
  split
  · exact Uses.done _ _
  · refine Uses.andThen (Uses.perform rfl) (fun netConfigs => ?_)
    split
    · exact Uses.done _ _
    · refine Uses.andThen (syncReservations_uses _ (List.Subset.refl _)) (fun written => ?_)
      refine Uses.andThen (readBackReservations_uses (List.Subset.refl _)) (fun found => ?_)
      exact Uses.done _ _

theorem publishRecords_uses (nodeSet : NodeSet) (plan : List PlannedNode)
    (reservations : ReservationMap) (addresses : DnsAddresses) :
    (publishRecords nodeSet plan reservations addresses).run.Uses nodeSet.MayCall := by
  unfold publishRecords
  dsimp only
  refine Uses.andThen (Uses.perform ⟨rfl, rfl⟩) (fun outcome => ?_)
  refine Uses.andThen (Uses.perform ⟨rfl, rfl⟩) (fun recordSet => ?_)
  split <;> exact Uses.done _ _

theorem ensureDnsRecords_uses (nodeSet : NodeSet) (plan : List PlannedNode)
    (reservations : Readiness ReservationMap) :
    (ensureDnsRecords nodeSet plan reservations).run.Uses nodeSet.MayCall := by
  unfold ensureDnsRecords
  dsimp only
  split
  · exact Uses.done _ _
  · refine Uses.andThen ?_ (fun readiness => ?_)
    · exact Uses.andThen (Uses.perform rfl) (fun services => Uses.done _ _)
    · cases readiness with
      | notApplicable => exact Uses.done _ _
      | waiting => exact Uses.done _ _
      | ready addresses =>
          dsimp only
          split
          · exact Uses.done _ _
          · split
            · exact Uses.done _ _
            · exact publishRecords_uses nodeSet plan _ addresses

/-- A pass makes no calls but those that it may. -/
theorem runPass_uses (nodeSet : NodeSet) (updater : StatusUpdater) (now : String) :
    (runPass nodeSet updater now).Uses nodeSet.MayCall := by
  refine Uses.bind (ensureReservations_uses nodeSet) (fun result => ?_)
  cases result with
  | error e => exact Uses.done _ _
  | ok value =>
      obtain ⟨plan, reservations⟩ := value
      refine Uses.bind (ensureDnsRecords_uses nodeSet plan reservations) (fun result => ?_)
      cases result with
      | error e => exact Uses.done _ _
      | ok dns => exact Uses.done _ _

/-- Whatever is answered, a pass ends in one of the known ways. -/
theorem runPass_endsIn (nodeSet : NodeSet) (updater : StatusUpdater) (now : String) :
    (runPass nodeSet updater now).EndsIn
      (fun passEnd => ∃ ending : PassEnding, passEnd = ending.passEnd nodeSet updater now) := by
  refine EndsIn.bind _ (fun result => ?_)
  cases result with
  | error e => exact ⟨.reservationsFailed e, rfl⟩
  | ok value =>
      obtain ⟨plan, reservations⟩ := value
      refine EndsIn.bind _ (fun result => ?_)
      cases result with
      | error e => exact ⟨.recordsFailed reservations e, rfl⟩
      | ok dns => exact ⟨.finished reservations dns, rfl⟩

end Passes

/-! ## Passes at other times -/

/-- What a pass shows goes by how it ended, and not by when. -/
theorem PassEnding.passEnd_untimed {updater other : StatusUpdater}
    (same : updater.status.untimed = other.status.untimed) (nodeSet : NodeSet)
    (now later : String) (ending : PassEnding) :
    (ending.passEnd nodeSet updater now).updater.status.untimed =
      (ending.passEnd nodeSet other later).updater.status.untimed := by
  have hobserved :=
    StatusUpdater.setObservedGeneration_untimed same nodeSet.metadata.generation
  cases ending with
  | reservationsFailed e => exact failPass_untimed hobserved now later _ e
  | recordsFailed reservations e =>
      exact failPass_untimed (StatusUpdater.mark_untimed hobserved now later _ _ _) now later _ e
  | finished reservations dns =>
      exact (finishPass_untimed (StatusUpdater.mark_untimed hobserved now later _ _ _) now later
        _ dns).1

/-- Ends of passes that come to the same, and show the same but for times. -/
structure PassEnd.Like (ended other : PassEnd) : Prop where
  result : ended.result = other.result
  status : ended.updater.status.untimed = other.updater.status.untimed

/-- A pass at another time comes to the same, and leaves the same stored. -/
theorem runPass_anyTime (nodeSet : NodeSet) (updater : StatusUpdater) (now later : String)
    (store : MemoryStore) :
    ((runPass nodeSet updater now).run MemoryStore.serve store).1.Like
        ((runPass nodeSet updater later).run MemoryStore.serve store).1 ∧
      ((runPass nodeSet updater now).run MemoryStore.serve store).2 =
        ((runPass nodeSet updater later).run MemoryStore.serve store).2 := by
  obtain ⟨ending, after, made, -, hruns⟩ := runPass_course nodeSet store
  rw [(hruns updater now).run_eq, (hruns updater later).run_eq]
  refine ⟨⟨?_, ending.passEnd_untimed rfl nodeSet now later⟩, rfl⟩
  rw [ending.passEnd_result, ending.passEnd_result]

end NodeIdentity
