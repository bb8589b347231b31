import NodeIdentity.Pass
import NodeIdentity.Proofs.Store.Memory

/-!
# Loops over planned nodes

The loops that write and read reservations run until the first call that is made to fail, and which
one that is does not depend on what is stored.  Writing what is stored as it is wanted leaves traces
in the log of calls only, and what was written is stored as it is wanted.
-/

namespace NodeIdentity

open StoreScript MemoryStore

/-! ## Planned nodes -/

theorem planNode_name {template : NodeTemplate} {name : String} {node : NodeSpec}
    {planned : PlannedNode} (h : planNode template name node = some planned) :
    planned.name = name := by
  unfold planNode at h
  dsimp only at h
  split at h
  · cases h
  · cases h
    rfl

theorem planReservations_ascending (spec : NodeSetSpec) :
    (planReservations spec).Pairwise (fun a b => a.name < b.name) := by
  unfold planReservations
  refine List.Pairwise.filterMap _ ?_ spec.nodes.ascending
  intro a a' hlt b hb b' hb'
  rw [planNode_name hb, planNode_name hb']
  exact hlt

theorem planReservations_distinct (spec : NodeSetSpec) :
    (planReservations spec).Pairwise (fun a b => a.name ≠ b.name) :=
  (planReservations_ascending spec).imp String.ne_of_lt

/-- Either no call of a list is made to fail, or there is a first one that is. -/
theorem first_fault {ι : Type} (fault : ι → Option Cause) (items : List ι) :
    (∀ item ∈ items, fault item = none) ∨
      ∃ before item rest cause, items = before ++ item :: rest ∧
        (∀ other ∈ before, fault other = none) ∧ fault item = some cause := by
  cases hfind : items.findSome? fault with
  | none => exact Or.inl (List.findSome?_eq_none_iff.1 hfind)
  | some cause =>
      obtain ⟨before, item, rest, hsplit, hfault, hbefore⟩ := List.findSome?_eq_some_iff.1 hfind
      exact Or.inr ⟨before, item, rest, cause, hsplit, hbefore, hfault⟩

/-! ## Writing reservations -/

/-- The call that writes the reservation of a planned node. -/
abbrev reserveCall (ns : String) (child : ChildMeta) (node : PlannedNode) : StoreCall :=
  .upsertReservation ns node.name { networks := node.networks } child

namespace MemoryStore

/-- The store after writing the reservation of a planned node. -/
def reserve (ns : String) (child : ChildMeta) (store : MemoryStore) (node : PlannedNode) :
    MemoryStore :=
  ((store.logCalls [reserveCall ns child node]).upsertReservation node.name
    { networks := node.networks } child).2

/-- The store after writing the reservations of planned nodes. -/
def reserveAll (ns : String) (child : ChildMeta) (store : MemoryStore)
    (plan : List PlannedNode) : MemoryStore :=
  plan.foldl (reserve ns child) store

/-- The reservation that is wanted for a planned node, given what is stored. -/
def reservationOf (child : ChildMeta) (reservations : Dict IPReservation) (node : PlannedNode) :
    IPReservation :=
  wanted {} (reservations.get? node.name) node.name { networks := node.networks } child

/-- The stored reservations after writing those of planned nodes. -/
def reservedAll (child : ChildMeta) (reservations : Dict IPReservation)
    (plan : List PlannedNode) : Dict IPReservation :=
  plan.foldl
    (fun reservations node =>
      reservations.insert node.name (reservationOf child reservations node))
    reservations

theorem reserve_eq (ns : String) (child : ChildMeta) (store : MemoryStore) (node : PlannedNode) :
    ∃ written, store.reserve ns child node =
      { store with
        reservations :=
          store.reservations.insert node.name (reservationOf child store.reservations node)
        writes := store.writes ++ written
        calls := store.calls ++ [reserveCall ns child node] } :=
  ⟨_, upsertReservation_eq (store.logCalls [reserveCall ns child node]) node.name
    { networks := node.networks } child⟩

@[simp] theorem reserve_faults (ns : String) (child : ChildMeta) (store : MemoryStore)
    (node : PlannedNode) : (store.reserve ns child node).faults = store.faults := by
  obtain ⟨written, h⟩ := store.reserve_eq ns child node
  rw [h]

theorem reserve_reservations (ns : String) (child : ChildMeta) (store : MemoryStore)
    (node : PlannedNode) :
    (store.reserve ns child node).reservations =
      store.reservations.insert node.name (reservationOf child store.reservations node) := by
  obtain ⟨written, h⟩ := store.reserve_eq ns child node
  rw [h]

/-- How many of the reservations of planned nodes have to be written, one behind the other. -/
def rewrittenCount (child : ChildMeta) : Dict IPReservation → List PlannedNode → Nat
  | _, [] => 0
  | reservations, node :: rest =>
      let wanted := reservationOf child reservations node
      let others := rewrittenCount child (reservations.insert node.name wanted) rest
      if reservations.get? node.name = some wanted then others else others + 1

/-- Writing reservations changes nothing but reservations and logs. -/
theorem reserveAll_eq (ns : String) (child : ChildMeta) (store : MemoryStore)
    (plan : List PlannedNode) :
    ∃ written, store.reserveAll ns child plan =
      { store with
        reservations := reservedAll child store.reservations plan
        writes := store.writes ++ written
        calls := store.calls ++ plan.map (reserveCall ns child) } := by
  induction plan generalizing store with
  | nil => exact ⟨[], by simp [reserveAll, reservedAll]⟩
  | cons node rest ih =>
      obtain ⟨first, hfirst⟩ := store.reserve_eq ns child node
      obtain ⟨others, hothers⟩ := ih (store.reserve ns child node)
      refine ⟨first ++ others, ?_⟩
      have hstep : store.reserveAll ns child (node :: rest) =
          (store.reserve ns child node).reserveAll ns child rest := rfl
      rw [hstep, hothers, hfirst]
      simp [reservedAll]

theorem get?_reservedAll_of_ne {child : ChildMeta} {plan : List PlannedNode} {name : String}
    (other : ∀ node ∈ plan, name ≠ node.name) (reservations : Dict IPReservation) :
    (reservedAll child reservations plan).get? name = reservations.get? name := by
  induction plan generalizing reservations with
  | nil => rfl
  | cons node rest ih =>
      have hrest := ih (fun later hlater => other later (List.mem_cons_of_mem node hlater))
        (reservations.insert node.name (reservationOf child reservations node))
      rw [Dict.get?_insert, if_neg (other node List.mem_cons_self)] at hrest
      exact hrest

/-- Each planned node has the reservation that is wanted for it, given what was stored before. -/
theorem get?_reservedAll {child : ChildMeta} {plan : List PlannedNode}
    (distinct : plan.Pairwise (fun a b => a.name ≠ b.name)) {node : PlannedNode}
    (planned : node ∈ plan) (reservations : Dict IPReservation) :
    (reservedAll child reservations plan).get? node.name =
      some (reservationOf child reservations node) := by
  induction plan generalizing reservations with
  | nil => cases planned
  | cons first rest ih =>
      obtain ⟨hfirst, hrest⟩ := List.pairwise_cons.1 distinct
      have hstep : reservedAll child reservations (first :: rest) =
          reservedAll child
            (reservations.insert first.name (reservationOf child reservations first)) rest := rfl
      rw [hstep]
      rcases List.mem_cons.1 planned with rfl | hplanned
      · rw [get?_reservedAll_of_ne hfirst, Dict.get?_insert_self]
      · have hne : node.name ≠ first.name := (hfirst node hplanned).symm
        rw [ih hrest hplanned]
        simp only [reservationOf, Dict.get?_insert, if_neg hne]

theorem keptByName_reservedAll {reservations : Dict IPReservation} (kept : KeptByName reservations)
    (child : ChildMeta) (plan : List PlannedNode) :
    KeptByName (reservedAll child reservations plan) := by
  induction plan generalizing reservations with
  | nil => exact kept
  | cons node rest ih =>
      exact ih (kept.insert (kept.wanted_name {} node.name { networks := node.networks } child))

/-- Writing reservations keeps what is reported of them. -/
theorem reportedAt_reservedAll (child : ChildMeta) (reservations : Dict IPReservation)
    (plan : List PlannedNode) (name : String) :
    reportedAt (reservedAll child reservations plan) name = reportedAt reservations name := by
  induction plan generalizing reservations with
  | nil => rfl
  | cons node rest ih =>
      have hreported := wanted_status {} reservations node.name { networks := node.networks } child
      exact (ih _).trans (reportedAt_insert hreported name)

/-- The reservation of a node is stored and is as it is wanted. -/
def IsReserved (child : ChildMeta) (reservations : Dict IPReservation) (node : PlannedNode) :
    Prop :=
  ∃ current, reservations.get? node.name = some current ∧
    child.applyToResource { networks := node.networks } current = current

theorem isReserved_reservedAll (child : ChildMeta) {plan : List PlannedNode}
    (distinct : plan.Pairwise (fun a b => a.name ≠ b.name)) (reservations : Dict IPReservation) :
    ∀ node ∈ plan, IsReserved child (reservedAll child reservations plan) node := by
  intro node planned
  exact ⟨_, get?_reservedAll distinct planned reservations,
    child.applyToResource_applyToResource _ _⟩

theorem reservedAll_settled {child : ChildMeta} {reservations : Dict IPReservation}
    {plan : List PlannedNode} (settled : ∀ node ∈ plan, IsReserved child reservations node) :
    reservedAll child reservations plan = reservations := by
  induction plan with
  | nil => rfl
  | cons node rest ih =>
      obtain ⟨current, hstored, hsettled⟩ := settled node List.mem_cons_self
      have hwanted : reservationOf child reservations node = current := by
        simp [reservationOf, wanted, hstored, hsettled]
      have hstep : reservedAll child reservations (node :: rest) =
          reservedAll child
            (reservations.insert node.name (reservationOf child reservations node)) rest := rfl
      rw [hstep, hwanted, Dict.insert_of_get? hstored]
      exact ih (fun other hother => settled other (List.mem_cons_of_mem node hother))

theorem reserve_settled (ns : String) {child : ChildMeta} {store : MemoryStore}
    {node : PlannedNode} (settled : IsReserved child store.reservations node) :
    store.reserve ns child node = store.logCalls [reserveCall ns child node] := by
  obtain ⟨current, hstored, hsettled⟩ := settled
  have hlogged : (store.logCalls [reserveCall ns child node]).reservations.get? node.name =
      some current := hstored
  unfold reserve
  rw [upsertReservation_settled hlogged hsettled]

/-- Writing reservations that are as they are wanted leaves traces in the log of calls only. -/
theorem reserveAll_settled (ns : String) {child : ChildMeta} (store : MemoryStore)
    {plan : List PlannedNode} (settled : ∀ node ∈ plan, IsReserved child store.reservations node) :
    store.reserveAll ns child plan = store.logCalls (plan.map (reserveCall ns child)) := by
  induction plan generalizing store with
  | nil => exact store.logCalls_nil.symm
  | cons node rest ih =>
      have hrest := ih (store.logCalls [reserveCall ns child node])
        (fun other hother => settled other (List.mem_cons_of_mem node hother))
      have hstep : store.reserveAll ns child (node :: rest) =
          (store.reserve ns child node).reserveAll ns child rest := rfl
      rw [hstep, reserve_settled ns (settled node List.mem_cons_self), hrest, logCalls_logCalls]
      rfl

end MemoryStore

theorem runs_syncReservations {ns : String} {child : ChildMeta} {plan : List PlannedNode}
    (store : MemoryStore) (sound : ∀ node ∈ plan, store.faults (reserveCall ns child node) = none) :
    Runs serve (syncReservations ns child plan).run store
      (.ok (rewrittenCount child store.reservations plan)) (store.reserveAll ns child plan)
      ((plan.map (reserveCall ns child)).map Attempt.success) := by
  induction plan generalizing store with
  | nil => exact Runs.succeed 0 store
  | cons node rest ih =>
      have hfirst := runs_upsertReservation (sound node List.mem_cons_self)
      have hsound : ∀ other ∈ rest,
          (store.reserve ns child node).faults (reserveCall ns child other) = none := by
        intro other hother
        rw [reserve_faults]
        exact sound other (List.mem_cons_of_mem node hother)
      have hrest := ih (store.reserve ns child node) hsound
      have hwrote := desired_wrote IPReservation.type_lawful {}
        (store.reservations.get? node.name) node.name { networks := node.networks } child
      -- An upsert counts where what is wanted was not stored.
      have hcount : rewrittenCount child store.reservations (node :: rest) =
          if (desired IPReservation.type {} (store.reservations.get? node.name) node.name
              { networks := node.networks } child).2.wrote then
            rewrittenCount child (store.reserve ns child node).reservations rest + 1
          else rewrittenCount child (store.reserve ns child node).reservations rest := by
        rw [rewrittenCount, reserve_reservations]
        simp only [hwrote, ne_eq, ite_not]
        rfl
      rw [hcount]
      exact Runs.andThen hfirst (Runs.andDone hrest rfl)

/-- The loop stops at the first write that fails; what was written before stays. -/
theorem runs_syncReservations_stopped {ns : String} {child : ChildMeta}
    {before : List PlannedNode} {node : PlannedNode} (rest : List PlannedNode)
    (store : MemoryStore) {cause : Cause}
    (sound : ∀ other ∈ before, store.faults (reserveCall ns child other) = none)
    (fault : store.faults (reserveCall ns child node) = some cause) :
    Runs serve (syncReservations ns child (before ++ node :: rest)).run store
      (.error ((reserveCall ns child node).failed cause))
      ((store.reserveAll ns child before).logCalls [reserveCall ns child node])
      ((before.map (reserveCall ns child)).map Attempt.success ++
        [Attempt.failed (reserveCall ns child node) cause]) := by
  induction before generalizing store with
  | nil => exact Runs.giveUp (runs_fault fault)
  | cons first others ih =>
      have hfirst := runs_upsertReservation (sound first List.mem_cons_self)
      have hsound : ∀ other ∈ others,
          (store.reserve ns child first).faults (reserveCall ns child other) = none := by
        intro other hother
        rw [reserve_faults]
        exact sound other (List.mem_cons_of_mem first hother)
      have hfault : (store.reserve ns child first).faults (reserveCall ns child node) =
          some cause := by
        rwa [reserve_faults]
      show Runs serve _ store _ _ ([Attempt.success (reserveCall ns child first)] ++
        ((others.map (reserveCall ns child)).map Attempt.success ++
          [Attempt.failed (reserveCall ns child node) cause]))
      exact Runs.andThen hfirst (Runs.giveUp (ih (store.reserve ns child first) hsound hfault))

/-! ## Reading reservations back -/

/-- The call that reads the reservation of a planned node. -/
abbrev readCall (ns : String) (node : PlannedNode) : StoreCall :=
  .getReservation ns node.name

/-- The stored reservations of planned nodes, in the order of the plan. -/
def storedReservations (reservations : Dict IPReservation) (plan : List PlannedNode) :
    List IPReservation :=
  plan.filterMap (fun node => reservations.get? node.name)

theorem runs_readBackReservations {ns : String} {plan : List PlannedNode} (store : MemoryStore)
    (sound : ∀ node ∈ plan, store.faults (readCall ns node) = none)
    (stored : ∀ node ∈ plan, ∃ current, store.reservations.get? node.name = some current) :
    Runs serve (readBackReservations ns plan).run store
      (.ok (storedReservations store.reservations plan))
      (store.logCalls (plan.map (readCall ns)))
      ((plan.map (readCall ns)).map Attempt.success) := by
  induction plan generalizing store with
  | nil =>
      rw [List.map_nil, logCalls_nil]
      exact Runs.succeed [] store
  | cons node rest ih =>
      obtain ⟨current, hcurrent⟩ := stored node List.mem_cons_self
      have hfirst := runs_getReservation (sound node List.mem_cons_self) hcurrent
      have hrest := ih (store.logCalls [readCall ns node])
        (fun other hother => sound other (List.mem_cons_of_mem node hother))
        (fun other hother => stored other (List.mem_cons_of_mem node hother))
      rw [logCalls_logCalls] at hrest
      have hlist : storedReservations store.reservations (node :: rest) =
          current :: storedReservations store.reservations rest := by
        simp [storedReservations, hcurrent]
      rw [hlist]
      exact Runs.andThen hfirst (Runs.andDone hrest rfl)

theorem runs_readBackReservations_stopped {ns : String} {before : List PlannedNode}
    {node : PlannedNode} (rest : List PlannedNode) (store : MemoryStore) {cause : Cause}
    (sound : ∀ other ∈ before, store.faults (readCall ns other) = none)
    (stored : ∀ other ∈ before, ∃ current, store.reservations.get? other.name = some current)
    (fault : store.faults (readCall ns node) = some cause) :
    Runs serve (readBackReservations ns (before ++ node :: rest)).run store
      (.error ((readCall ns node).failed cause))
      (store.logCalls (before.map (readCall ns) ++ [readCall ns node]))
      ((before.map (readCall ns)).map Attempt.success ++
        [Attempt.failed (readCall ns node) cause]) := by
  induction before generalizing store with
  | nil => exact Runs.giveUp (runs_fault fault)
  | cons first others ih =>
      obtain ⟨current, hcurrent⟩ := stored first List.mem_cons_self
      have hfirst := runs_getReservation (sound first List.mem_cons_self) hcurrent
      have hothers := ih (store.logCalls [readCall ns first])
        (fun other hother => sound other (List.mem_cons_of_mem first hother))
        (fun other hother => stored other (List.mem_cons_of_mem first hother)) fault
      rw [logCalls_logCalls] at hothers
      show Runs serve _ store _ _ ([Attempt.success (readCall ns first)] ++
        ((others.map (readCall ns)).map Attempt.success ++
          [Attempt.failed (readCall ns node) cause]))
      exact Runs.andThen hfirst (Runs.giveUp hothers)

end NodeIdentity
