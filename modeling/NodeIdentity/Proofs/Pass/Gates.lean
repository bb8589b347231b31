import NodeIdentity.Proofs.Pass.Course
import NodeIdentity.Proofs.Pass.Readiness

/-!
# The gates between the stages

What a pass has to find before it writes host records, told by what is stored: all planned
reservations are reported ready, and so is the first name service, at an address.  Behind the gates
the addresses are collected under the names of the nodes, provided that reservations are kept under
their own names.
-/

namespace NodeIdentity

open StoreScript MemoryStore

/-! ## Reservations -/

/-- Every planned node has a reservation that is reported ready. -/
def AllReady (reservations : Dict IPReservation) (plan : List PlannedNode) : Prop :=
  ∀ node ∈ plan, ∃ reservation status, reservations.get? node.name = some reservation ∧
    reservation.status = some status ∧ isReady status.conditions = true

/-- The addresses that are reported for the reservation of a name. -/
def addressesAt (reservations : Dict IPReservation) (name : String) : List Reservation :=
  match (reservations.get? name).bind (·.status) with
  | some status => status.reservations
  | none => []

/-- The addresses that are reported for planned nodes, under the names of the nodes. -/
def addressMap (reservations : Dict IPReservation) (plan : List PlannedNode) : ReservationMap :=
  plan.foldl (fun map node => map.insert node.name (addressesAt reservations node.name)) ∅

/-- Reservations that were read back are never taken to be absent. -/
theorem hasReservations_aggregate {list : List IPReservation} (h : list ≠ []) :
    HasReservations (aggregateReservations list) := by
  cases hreadiness : aggregateReservations list with
  | ready map =>
      obtain ⟨reservation, hmember⟩ := List.exists_mem_of_ne_nil list h
      have hname : reservation.name ∈ map.keys :=
        ((aggregateReservations_aggregated list).takenTogether.names map hreadiness _).2
          (List.mem_map_of_mem hmember)
      obtain ⟨addresses, hbound⟩ := Dict.mem_keys_iff.1 hname
      exact Dict.isEmpty_eq_false_iff.2 ⟨_, addresses, hbound⟩
  | waiting => trivial
  | notApplicable =>
      exact h ((aggregateReservations_aggregated list).takenTogether.notApplicable_iff.1 hreadiness)

section Planned

variable {reservations : Dict IPReservation} {plan : List PlannedNode}

theorem storedReservations_ne_nil (planned : plan ≠ [])
    (stored : ∀ node ∈ plan, ∃ current, reservations.get? node.name = some current) :
    storedReservations reservations plan ≠ [] := by
  cases plan with
  | nil => exact absurd rfl planned
  | cons node rest =>
      obtain ⟨current, hcurrent⟩ := stored node List.mem_cons_self
      simp [storedReservations, hcurrent]

/-- All planned nodes are ready exactly where all reservations read back are. -/
theorem allReady_iff_stored
    (stored : ∀ node ∈ plan, ∃ current, reservations.get? node.name = some current) :
    AllReady reservations plan ↔
      ∀ reservation ∈ storedReservations reservations plan, reservation.IsReady := by
  constructor
  · intro ready reservation hmember
    obtain ⟨node, hnode, hget⟩ := List.mem_filterMap.1 hmember
    obtain ⟨current, status, hcurrent, hstatus, hready⟩ := ready node hnode
    cases hcurrent.symm.trans hget
    exact ⟨status, hstatus, isReady_iff.1 hready⟩
  · intro ready node hnode
    obtain ⟨current, hcurrent⟩ := stored node hnode
    obtain ⟨status, hstatus, htells⟩ :=
      ready current (List.mem_filterMap.2 ⟨node, hnode, hcurrent⟩)
    exact ⟨current, status, hcurrent, hstatus, isReady_iff.2 htells⟩

/-- The planned reservations are awaited exactly until all of them are ready. -/
theorem aggregate_eq_waiting_iff (planned : plan ≠ [])
    (stored : ∀ node ∈ plan, ∃ current, reservations.get? node.name = some current) :
    aggregateReservations (storedReservations reservations plan) = .waiting ↔
      ¬ AllReady reservations plan := by
  have haggregated := aggregateReservations_aggregated (storedReservations reservations plan)
  rw [haggregated.takenTogether.waiting_iff, allReady_iff_stored stored]
  simp [storedReservations_ne_nil planned stored]

/-- Reservations that are kept by name are bound to the names they are looked up by. -/
theorem bindAddresses_stored (kept : KeptByName reservations)
    (stored : ∀ node ∈ plan, ∃ current, reservations.get? node.name = some current)
    (map : ReservationMap) :
    bindAddresses map (storedReservations reservations plan) =
      plan.foldl
        (fun map node => map.insert node.name (addressesAt reservations node.name)) map := by
  induction plan generalizing map with
  | nil => rfl
  | cons node rest ih =>
      obtain ⟨current, hcurrent⟩ := stored node List.mem_cons_self
      have hrest := ih (fun other hother => stored other (List.mem_cons_of_mem node hother))
        (map.insert node.name (addressesAt reservations node.name))
      have hname : current.name = node.name := by
        simp [Resource.name, ObjectMeta.anyName, kept node.name current hcurrent]
      have haddresses : current.addresses = addressesAt reservations node.name := by
        cases hstatus : current.status <;>
          simp [IPReservation.addresses, addressesAt, hcurrent, hstatus]
      rw [List.foldl_cons, ← hrest]
      simp only [storedReservations, List.filterMap_cons, hcurrent, bindAddresses, List.foldl_cons,
        hname, haddresses]

/-- The addresses of ready reservations are collected under the names of the nodes. -/
theorem aggregate_eq_addressMap (kept : KeptByName reservations) (planned : plan ≠ [])
    (ready : AllReady reservations plan) :
    aggregateReservations (storedReservations reservations plan) =
      .ready (addressMap reservations plan) := by
  have hstored : ∀ node ∈ plan, ∃ current, reservations.get? node.name = some current := by
    intro node hnode
    obtain ⟨reservation, _, hreservation, -⟩ := ready node hnode
    exact ⟨reservation, hreservation⟩
  have haggregated := Aggregated.ready (storedReservations_ne_nil planned hstored)
    ((allReady_iff_stored hstored).1 ready)
  rw [haggregated.eq, bindAddresses_stored kept hstored ∅]
  rfl

end Planned

/-- The planned nodes have an entry among the addresses, and no others. -/
theorem get?_addressMap_eq (reservations : Dict IPReservation) (plan : List PlannedNode)
    (name : String) :
    (addressMap reservations plan).get? name =
      if name ∈ plan.map (·.name) then some (addressesAt reservations name) else none := by
  -- An entry is never lost: a later node of the same name enters the same addresses.
  have hfold : ∀ (plan : List PlannedNode) (map : ReservationMap),
      (plan.foldl (fun map node => map.insert node.name (addressesAt reservations node.name))
        map).get? name =
          if name ∈ plan.map (·.name) then some (addressesAt reservations name)
          else map.get? name := by
    intro plan
    induction plan with
    | nil => intro map; simp
    | cons first rest ih =>
        intro map
        rw [List.foldl_cons, ih, Dict.get?_insert]
        by_cases hname : name = first.name
        · simp [hname]
        · simp [hname]
  exact hfold plan ∅

theorem get?_addressMap (reservations : Dict IPReservation) {plan : List PlannedNode}
    {node : PlannedNode} (planned : node ∈ plan) :
    (addressMap reservations plan).get? node.name = some (addressesAt reservations node.name) := by
  rw [get?_addressMap_eq, if_pos (List.mem_map_of_mem planned)]

/-! ## Name services -/

/-- The first name service is reported ready, at an address that nodes can reach. -/
def FirstServes (services : List DNSService) : Prop :=
  ∃ service others status address more, services = service :: others ∧
    service.status = some status ∧ isReady status.conditions = true ∧
    status.dnsAddresses = some (address :: more)

theorem DnsAddresses.hasServerAddresses_iff {addresses : DnsAddresses} :
    addresses.hasServerAddresses = true ↔
      ∃ address more, addresses.serverAddresses = some (address :: more) := by
  unfold DnsAddresses.hasServerAddresses
  cases addresses.serverAddresses with
  | none => simp
  | some list => cases list <;> simp

theorem inspectDnsServices_eq_ready {services : List DNSService} {addresses : DnsAddresses} :
    inspectDnsServices services = .ready addresses ↔
      ∃ service others status, services = service :: others ∧ service.status = some status ∧
        isReady status.conditions = true ∧
        addresses = ⟨status.dnsAddresses, status.dnsClusterAddresses⟩ := by
  cases services with
  | nil => simp [inspectDnsServices]
  | cons service others =>
      cases hstatus : service.status with
      | none =>
          have hempty : isReady ({} : DNSServiceStatus).conditions = false := rfl
          simp [inspectDnsServices, hstatus, hempty]
      | some status =>
          by_cases hready : isReady status.conditions = true
          · simp only [inspectDnsServices, hstatus, Option.getD_some, hready, if_true]
            constructor
            · rintro ⟨⟩
              exact ⟨service, others, status, rfl, hstatus, hready, rfl⟩
            · rintro ⟨_, _, status', hservices, hstatus', -, rfl⟩
              cases hservices
              cases hstatus.symm.trans hstatus'
              rfl
          · simp [inspectDnsServices, hstatus, hready]

/-- The gate of the name service is passed exactly where the first one serves. -/
theorem firstServes_iff {services : List DNSService} :
    FirstServes services ↔ ∃ addresses, ServesNodes services addresses := by
  constructor
  · rintro ⟨service, others, status, address, more, hservices, hstatus, hready, haddresses⟩
    refine ⟨⟨status.dnsAddresses, status.dnsClusterAddresses⟩, ?_, ?_⟩
    · exact inspectDnsServices_eq_ready.2 ⟨service, others, status, hservices, hstatus, hready, rfl⟩
    · exact DnsAddresses.hasServerAddresses_iff.2 ⟨address, more, haddresses⟩
  · rintro ⟨addresses, hready, hreachable⟩
    obtain ⟨service, others, status, hservices, hstatus, hisReady, rfl⟩ :=
      inspectDnsServices_eq_ready.1 hready
    obtain ⟨address, more, haddresses⟩ := DnsAddresses.hasServerAddresses_iff.1 hreachable
    exact ⟨service, others, status, address, more, hservices, hstatus, hisReady, haddresses⟩

/-- Records are held back where the first name service does not serve, or reservations wait. -/
theorem Withheld.not_firstServes_or {services : List DNSService}
    {reservations : Readiness ReservationMap} {readiness : Readiness NetworkIdentity}
    (withheld : Withheld services reservations readiness) :
    ¬ FirstServes services ∨ reservations = .waiting := by
  have hnot : (∀ addresses, inspectDnsServices services = .ready addresses →
      addresses.hasServerAddresses = false) → ¬ FirstServes services := by
    intro h hserves
    obtain ⟨addresses, hready, hreachable⟩ := firstServes_iff.1 hserves
    rw [h addresses hready] at hreachable
    cases hreachable
  cases withheld with
  | noService absent =>
      left
      exact hnot (fun addresses h => nomatch absent.symm.trans h)
  | serviceAwaited awaited =>
      left
      exact hnot (fun addresses h => nomatch awaited.symm.trans h)
  | @unreachable addresses ready unreachable =>
      left
      refine hnot (fun other h => ?_)
      cases ready.symm.trans h
      exact unreachable
  | reservationsAwaited serves awaited => exact Or.inr awaited

/-- Records that are held back are not ready. -/
theorem Withheld.ne_ready {services : List DNSService} {reservations : Readiness ReservationMap}
    {readiness : Readiness NetworkIdentity} (withheld : Withheld services reservations readiness)
    (identity : NetworkIdentity) : readiness ≠ .ready identity := by
  cases withheld <;> exact fun h => nomatch h

/-! ## The first stage -/

/-- What is known behind a first stage that found reservations. -/
structure ReservationsRead (nodeSet : NodeSet) (store : MemoryStore) (plan : List PlannedNode)
    (reservations : Readiness ReservationMap) (after : MemoryStore) (made : List Attempt) :
    Prop where
  plan_eq : plan = planReservations nodeSet.spec
  configured : nodeSet.IsConfigured store
  made_eq : made = nodeSet.reservationCalls.map Attempt.success
  kept : KeptByName store.reservations → KeptByName after.reservations
  stored : ∀ node ∈ plan, ∃ current, after.reservations.get? node.name = some current
  reservations_eq :
    reservations = aggregateReservations (storedReservations after.reservations plan)

/-- A stage that gets past its gates finds reservations: those that it has written. -/
theorem NodeSet.IsConfigured.hasReservations {nodeSet : NodeSet} {store : MemoryStore}
    (configured : nodeSet.IsConfigured store) :
    HasReservations (aggregateReservations (storedReservations
      (reservedAll (nodeSet.childMeta .ipReservation) store.reservations
        (planReservations nodeSet.spec)) (planReservations nodeSet.spec))) := by
  have hstored := nodeSet.stored_reservedStore store
  rw [NodeSet.reservedStore_reservations] at hstored
  exact hasReservations_aggregate (storedReservations_ne_nil configured.planned hstored)

theorem ReservationCourse.reservationsRead {nodeSet : NodeSet} {store after : MemoryStore}
    {plan : List PlannedNode} {reservations : Readiness ReservationMap} {made : List Attempt}
    (course : ReservationCourse nodeSet store (.ok (plan, reservations)) after made)
    (reserved : HasReservations reservations) :
    ReservationsRead nodeSet store plan reservations after made := by
  cases course with
  | unplanned empty => cases reserved
  | unconfigured planned visible absent => cases reserved
  | reserved configured written readBack =>
      have hreservations :
          ((nodeSet.reservedStore store (planReservations nodeSet.spec)).logCalls
            ((planReservations nodeSet.spec).map nodeSet.readBackCall)).reservations =
          reservedAll (nodeSet.childMeta .ipReservation) store.reservations
            (planReservations nodeSet.spec) :=
        nodeSet.reservedStore_reservations store _
      constructor
      case plan_eq => rfl
      case configured => exact configured
      case made_eq => simp [NodeSet.reservationCalls, Function.comp_def]
      case kept =>
        intro kept
        rw [hreservations]
        exact keptByName_reservedAll kept _ _
      case stored => exact nodeSet.stored_reservedStore store
      case reservations_eq => rw [hreservations]

namespace ReservationsRead

variable {nodeSet : NodeSet} {store after : MemoryStore} {plan : List PlannedNode}
  {reservations : Readiness ReservationMap} {made : List Attempt}

theorem planned (read : ReservationsRead nodeSet store plan reservations after made) :
    plan ≠ [] := by
  rw [read.plan_eq]
  exact read.configured.planned

theorem waiting_iff (read : ReservationsRead nodeSet store plan reservations after made) :
    reservations = .waiting ↔ ¬ AllReady after.reservations plan := by
  rw [read.reservations_eq]
  exact aggregate_eq_waiting_iff read.planned read.stored

theorem allReady {map : ReservationMap}
    (read : ReservationsRead nodeSet store plan (.ready map) after made) :
    AllReady after.reservations plan :=
  Classical.not_not.1 (fun h => nomatch read.waiting_iff.2 h)

/-- The map that is handed on has the reported addresses, under the names of the nodes. -/
theorem map_eq {map : ReservationMap}
    (read : ReservationsRead nodeSet store plan (.ready map) after made)
    (kept : KeptByName store.reservations) : map = addressMap after.reservations plan := by
  have h := read.reservations_eq
  rw [aggregate_eq_addressMap (read.kept kept) read.planned read.allReady] at h
  cases h
  rfl

end ReservationsRead

end NodeIdentity
