import Mathlib.Data.List.Nodup
import NodeIdentity.Proofs.Data.Dict
import NodeIdentity.Proofs.Status.Conditions

/-!
# Reservations taken together

Collecting stops at the first reservation that is not ready, and what was collected is thrown
away.  So a list of reservations comes to something exactly where all of them are ready, in any
order, and only then does it matter what the addresses are bound to: of several reservations with
one name the last counts, and where no name is repeated the order is lost in the map.
-/

namespace NodeIdentity

/-! ## One reservation -/

/-- The first of the conditions that tell of readiness is true. -/
def TellsReady (conditions : List Condition) : Prop :=
  ∃ earlier condition later, conditions = earlier ++ condition :: later ∧
    (∀ other ∈ earlier, other.type ≠ Condition.readyType) ∧
    condition.type = Condition.readyType ∧ condition.status = "True"

theorem isReady_iff {conditions : List Condition} :
    isReady conditions = true ↔ TellsReady conditions := by
  unfold isReady TellsReady
  constructor
  · intro ready
    cases hfound : findCondition conditions Condition.readyType with
    | none => simp [hfound] at ready
    | some condition =>
        obtain ⟨htype, earlier, later, hsplit, hearlier⟩ := findCondition_eq_some_iff.1 hfound
        have hstatus : condition.status = "True" := by simpa [hfound] using ready
        exact ⟨earlier, condition, later, hsplit, hearlier, htype, hstatus⟩
  · rintro ⟨earlier, condition, later, hsplit, hearlier, htype, hstatus⟩
    have hfound := findCondition_eq_some_iff.2 ⟨htype, earlier, later, hsplit, hearlier⟩
    simp [hfound, hstatus]

namespace IPReservation

def IsReady (reservation : IPReservation) : Prop :=
  ∃ status, reservation.status = some status ∧ TellsReady status.conditions

def addresses (reservation : IPReservation) : List Reservation :=
  match reservation.status with
  | some status => status.reservations
  | none => []

theorem ready?_eq_some_iff {reservation : IPReservation} {addresses : List Reservation} :
    reservation.ready? = some addresses ↔
      reservation.IsReady ∧ addresses = reservation.addresses := by
  unfold ready? IsReady IPReservation.addresses
  cases hstatus : reservation.status with
  | none => simp
  | some status =>
      by_cases hready : isReady status.conditions = true
      · have htells := isReady_iff.1 hready
        simp [hready, htells, eq_comm]
      · have htells := mt isReady_iff.2 hready
        simp [hready, htells]

theorem ready?_eq_none_iff {reservation : IPReservation} :
    reservation.ready? = none ↔ ¬ reservation.IsReady := by
  rw [Option.eq_none_iff_forall_ne_some]
  constructor
  · intro hnone ready
    exact hnone _ (ready?_eq_some_iff.2 ⟨ready, rfl⟩)
  · intro hnot addresses hsome
    exact hnot (ready?_eq_some_iff.1 hsome).1

end IPReservation

/-! ## Lists of reservations -/

/-- Bind the name of each reservation to its addresses, behind what is bound. -/
def bindAddresses (map : ReservationMap) (list : List IPReservation) : ReservationMap :=
  list.foldl (fun map reservation => map.insert reservation.name reservation.addresses) map

section Lists

variable {list others : List IPReservation}

theorem collectReservations_ready (ready : ∀ reservation ∈ list, reservation.IsReady)
    (map : ReservationMap) : collectReservations map list = .ready (bindAddresses map list) := by
  induction list generalizing map with
  | nil => rfl
  | cons reservation rest ih =>
      have hfirst := IPReservation.ready?_eq_some_iff.2
        ⟨ready reservation List.mem_cons_self, rfl⟩
      have hrest := ih (fun other hother => ready other (List.mem_cons_of_mem reservation hother))
        (map.insert reservation.name reservation.addresses)
      unfold collectReservations
      rw [hfirst]
      exact hrest

theorem collectReservations_unready (unready : ∃ reservation ∈ list, ¬ reservation.IsReady)
    (map : ReservationMap) : collectReservations map list = .waiting := by
  induction list generalizing map with
  | nil => simp at unready
  | cons reservation rest ih =>
      unfold collectReservations
      by_cases hready : reservation.IsReady
      · have hfirst := IPReservation.ready?_eq_some_iff.2 ⟨hready, rfl⟩
        have hrest : ∃ other ∈ rest, ¬ other.IsReady := by
          obtain ⟨other, hmember, hnot⟩ := unready
          rcases List.mem_cons.1 hmember with rfl | hmember
          · exact absurd hready hnot
          · exact ⟨other, hmember, hnot⟩
        rw [hfirst]
        exact ih hrest _
      · rw [IPReservation.ready?_eq_none_iff.2 hready]

/-- Of several reservations with one name the last is bound. -/
theorem get?_bindAddresses (map : ReservationMap) (list : List IPReservation) (name : String) :
    (bindAddresses map list).get? name =
      ((list.filter (fun reservation => reservation.name = name)).getLast?.map
        IPReservation.addresses).or (map.get? name) := by
  unfold bindAddresses
  induction list generalizing map with
  | nil => rfl
  | cons reservation rest ih =>
      rw [List.foldl_cons, ih, Dict.get?_insert, List.filter_cons]
      by_cases hname : reservation.name = name
      · cases hlast : (rest.filter (fun reservation => reservation.name = name)).getLast? with
        | none => simp [hname, List.getLast?_cons, hlast]
        | some last => simp [hname, List.getLast?_cons, hlast]
      · simp [hname, Ne.symm hname]

theorem get?_bindAddresses_of_distinct (distinct : (list.map Resource.name).Nodup)
    {reservation : IPReservation} (member : reservation ∈ list) (map : ReservationMap) :
    (bindAddresses map list).get? reservation.name = some reservation.addresses := by
  rw [get?_bindAddresses]
  cases hlast : (list.filter (fun other => other.name = reservation.name)).getLast? with
  | none =>
      rw [List.getLast?_eq_none_iff, List.filter_eq_nil_iff] at hlast
      exact absurd (decide_eq_true rfl) (hlast reservation member)
  | some last =>
      obtain ⟨hmember, hname⟩ := List.mem_filter.1 (List.mem_of_getLast? hlast)
      have heq : last = reservation :=
        List.inj_on_of_nodup_map distinct hmember member (of_decide_eq_true hname)
      rw [heq]
      rfl

theorem mem_keys_bindAddresses (list : List IPReservation) (name : String) :
    name ∈ (bindAddresses ∅ list).keys ↔ name ∈ list.map Resource.name := by
  rw [Dict.mem_keys_iff, List.mem_map]
  constructor
  · rintro ⟨addresses, hbound⟩
    rw [get?_bindAddresses] at hbound
    cases hlast : (list.filter (fun reservation => reservation.name = name)).getLast? with
    | none =>
        rw [hlast] at hbound
        cases hbound
    | some last =>
        obtain ⟨hmember, hname⟩ := List.mem_filter.1 (List.mem_of_getLast? hlast)
        exact ⟨last, hmember, of_decide_eq_true hname⟩
  · rintro ⟨reservation, hmember, hname⟩
    have hlisted : reservation ∈ list.filter (fun reservation => reservation.name = name) :=
      List.mem_filter.2 ⟨hmember, decide_eq_true hname⟩
    rw [get?_bindAddresses, List.getLast?_eq_some_getLast (List.ne_nil_of_mem hlisted)]
    exact ⟨_, rfl⟩

theorem bindAddresses_perm (perm : others.Perm list) (distinct : (list.map Resource.name).Nodup)
    (map : ReservationMap) : bindAddresses map others = bindAddresses map list := by
  refine perm.foldl_eq' (fun first hfirst second hsecond map => ?_) map
  by_cases hname : first.name = second.name
  · have heq : first = second :=
      List.inj_on_of_nodup_map distinct (perm.subset hfirst) (perm.subset hsecond) hname
    rw [heq]
  · exact Dict.insert_comm hname map first.addresses second.addresses

end Lists

/-! ## Any order -/

/-- How far reservations are, taken together, and what of. -/
inductive Aggregated (list : List IPReservation) : Readiness ReservationMap → Prop
  | absent (empty : list = []) : Aggregated list .notApplicable
  | ready (listed : list ≠ []) (ready : ∀ reservation ∈ list, reservation.IsReady) :
      Aggregated list (.ready (bindAddresses ∅ list))
  | awaited (unready : ∃ reservation ∈ list, ¬ reservation.IsReady) : Aggregated list .waiting

theorem aggregateReservations_of_ne_nil {list : List IPReservation} (h : list ≠ []) :
    aggregateReservations list = collectReservations ∅ list := by
  unfold aggregateReservations
  rw [if_neg (mt List.isEmpty_iff.1 h)]

theorem ne_nil_of_unready {list : List IPReservation}
    (unready : ∃ reservation ∈ list, ¬ reservation.IsReady) : list ≠ [] := by
  obtain ⟨reservation, hmember, -⟩ := unready
  exact List.ne_nil_of_mem hmember

theorem Aggregated.eq {list : List IPReservation} {readiness : Readiness ReservationMap}
    (h : Aggregated list readiness) : aggregateReservations list = readiness := by
  cases h with
  | absent empty =>
      rw [empty]
      rfl
  | ready listed ready =>
      rw [aggregateReservations_of_ne_nil listed, collectReservations_ready ready]
  | awaited unready =>
      rw [aggregateReservations_of_ne_nil (ne_nil_of_unready unready),
        collectReservations_unready unready]

theorem aggregateReservations_aggregated (list : List IPReservation) :
    Aggregated list (aggregateReservations list) := by
  have hsome : ∃ readiness, Aggregated list readiness := by
    by_cases hempty : list = []
    · exact ⟨_, .absent hempty⟩
    · by_cases hready : ∀ reservation ∈ list, reservation.IsReady
      · exact ⟨_, .ready hempty hready⟩
      · exact ⟨_, .awaited (by simpa using hready)⟩
  obtain ⟨readiness, h⟩ := hsome
  rw [h.eq]
  exact h

/--
What a list of reservations comes to: nothing where it is empty, the addresses of all once every one
is ready, and else it is awaited.
-/
structure TakenTogether (list : List IPReservation) (readiness : Readiness ReservationMap) :
    Prop where
  notApplicable_iff : readiness = .notApplicable ↔ list = []
  ready_iff : (∃ map, readiness = .ready map) ↔
    list ≠ [] ∧ ∀ reservation ∈ list, reservation.IsReady
  waiting_iff : readiness = .waiting ↔ list ≠ [] ∧ ∃ reservation ∈ list, ¬ reservation.IsReady
  /-- The names of the reservations are bound, and no others. -/
  names : ∀ map, readiness = .ready map → ∀ name, name ∈ map.keys ↔ name ∈ list.map Resource.name
  /-- A name that is not repeated is bound to what its reservation reports. -/
  addresses : (list.map Resource.name).Nodup → ∀ map, readiness = .ready map →
    ∀ reservation ∈ list, ∃ status, reservation.status = some status ∧
      map.get? reservation.name = some status.reservations

theorem Aggregated.takenTogether {list : List IPReservation} {readiness : Readiness ReservationMap}
    (h : Aggregated list readiness) : TakenTogether list readiness := by
  cases h with
  | absent empty =>
      subst empty
      constructor <;> simp
  | ready listed ready =>
      constructor
      case notApplicable_iff => simp [listed]
      case ready_iff => simpa [listed] using ready
      case waiting_iff => simpa [listed] using ready
      case names =>
        rintro map ⟨⟩ name
        exact mem_keys_bindAddresses list name
      case addresses =>
        rintro distinct map ⟨⟩ reservation member
        obtain ⟨status, hstatus, -⟩ := ready reservation member
        have hbound := get?_bindAddresses_of_distinct distinct member ∅
        simp only [IPReservation.addresses, hstatus] at hbound
        exact ⟨status, hstatus, hbound⟩
  | awaited unready =>
      have hlisted := ne_nil_of_unready unready
      constructor
      case notApplicable_iff => simp [hlisted]
      case ready_iff => simpa [hlisted] using unready
      case waiting_iff => simp [hlisted, unready]
      case names => simp
      case addresses => simp

/-- Another order changes nothing but which of several reservations with one name counts. -/
theorem Aggregated.perm {list others : List IPReservation} {readiness : Readiness ReservationMap}
    (h : Aggregated list readiness) (perm : others.Perm list) :
    ∃ reordered, Aggregated others reordered ∧
      ConditionState.ofReadiness reordered = ConditionState.ofReadiness readiness ∧
      ((list.map Resource.name).Nodup → reordered = readiness) := by
  cases h with
  | absent empty =>
      subst empty
      exact ⟨_, .absent perm.eq_nil, rfl, fun _ => rfl⟩
  | ready listed ready =>
      have hlisted : others ≠ [] := fun empty => listed (empty ▸ perm).symm.eq_nil
      refine ⟨_, .ready hlisted fun reservation hmember => ?_, rfl, fun distinct => ?_⟩
      · exact ready reservation (perm.mem_iff.1 hmember)
      · rw [bindAddresses_perm perm distinct]
  | awaited unready =>
      obtain ⟨reservation, hmember, hnot⟩ := unready
      exact ⟨_, .awaited ⟨reservation, perm.mem_iff.2 hmember, hnot⟩, rfl, fun _ => rfl⟩

/--
What a list of reservations comes to is the same in every order, but for the addresses of a name
that is repeated.
-/
theorem readiness_unordered (list : List IPReservation) :
    TakenTogether list (aggregateReservations list) ∧
      ∀ others : List IPReservation, others.Perm list →
        ConditionState.ofReadiness (aggregateReservations others) =
          ConditionState.ofReadiness (aggregateReservations list) ∧
        ((list.map Resource.name).Nodup →
          aggregateReservations others = aggregateReservations list) := by
  have haggregated := aggregateReservations_aggregated list
  refine ⟨haggregated.takenTogether, fun others perm => ?_⟩
  obtain ⟨reordered, hreordered, hstate, hsame⟩ := haggregated.perm perm
  rw [hreordered.eq]
  exact ⟨hstate, hsame⟩

/-- A ready reservation of a name that is given twice. -/
def repeatedReservation (address : String) : IPReservation where
  metadata := { name := some "edpm-0" }
  spec := {}
  status := some
    { reservations := [{ network := "ctlplane", address := address }]
      conditions := [{ type := "Ready", status := "True" }] }

example :
    let first := repeatedReservation "172.20.0.10"
    let second := repeatedReservation "172.20.0.11"
    aggregateReservations [first, second] = .ready (bindAddresses ∅ [second]) ∧
      aggregateReservations [second, first] = .ready (bindAddresses ∅ [first]) := by
  decide

end NodeIdentity
