import Mathlib.Data.List.Basic
import NodeIdentity.Proofs.HostRecords.Assignments
import NodeIdentity.Proofs.Pass.Outcome

/-!
# The search domain

The search domain of a node set is the first domain on the control network, in the order of the
names of the nodes and of the addresses of each.  Nothing that stands behind it matters, nor does
anything that is not on the control network.
-/

namespace NodeIdentity

/-- The domains of the addresses under a name on the control network, empty ones included. -/
def controlDomains (reservations : ReservationMap) (name : String) : List String :=
  (reservationsOn reservations name "ctlplane").map (·.dnsDomain)

def plannedNames (spec : NodeSetSpec) : List String :=
  (planReservations spec).map (·.name)

/-! ## Adding addresses -/

namespace DnsRecordPlan

@[simp] theorem register_searchDomain (records : DnsRecordPlan) (node network : String)
    (name : Option String) :
    (records.register node network name).searchDomain = records.searchDomain := by
  cases name <;> rfl

@[simp] theorem addHost_searchDomain (records : DnsRecordPlan) (ip : String)
    (names : List String) : (records.addHost ip names).searchDomain = records.searchDomain := by
  unfold addHost
  split <;> rfl

/-- A domain of the control network is taken where there is none yet. -/
theorem noteDomain_searchDomain (records : DnsRecordPlan) (network domain : String) :
    (records.noteDomain network domain).searchDomain =
      records.searchDomain.or
        (if network = "ctlplane" ∧ domain ≠ "" then some domain else none) := by
  unfold noteDomain ctlplaneNetwork
  cases hknown : records.searchDomain with
  | some known => simp [hknown]
  | none =>
      by_cases taken : network = "ctlplane" ∧ domain ≠ ""
      · simp [taken]
      · rw [if_neg taken, if_neg, hknown]
        · rfl
        · intro h
          exact taken ⟨h.1, by simpa using h.2.2⟩

theorem add_searchDomain (records : DnsRecordPlan) (given : Assignment) :
    (records.add given).searchDomain =
      records.searchDomain.or
        (if given.network = "ctlplane" ∧ given.reservation.dnsDomain ≠ "" then
          some given.reservation.dnsDomain
        else none) := by
  unfold add addReservation Assignment.network
  dsimp only
  rw [addHost_searchDomain]
  dsimp only
  rw [noteDomain_searchDomain, register_searchDomain, register_searchDomain]

theorem foldl_add_searchDomain (given : List Assignment) (records : DnsRecordPlan) :
    (given.foldl add records).searchDomain =
      records.searchDomain.or
        (((given.filter (fun one => one.network = "ctlplane")).map
          (·.reservation.dnsDomain)).find? (· ≠ "")) := by
  induction given generalizing records with
  | nil => simp
  | cons first rest ih =>
      rw [List.foldl_cons, ih, add_searchDomain, Option.or_assoc]
      congr 1
      -- An address off the control network is skipped, and one without a domain passed over.
      by_cases controls : first.network = "ctlplane"
      · by_cases domain : first.reservation.dnsDomain = ""
        · simp [controls, domain]
        · simp [controls, domain]
      · simp [controls]

end DnsRecordPlan

/-! ## The search domain of a plan -/

theorem assignments_controlDomains (plan : List PlannedNode) (reservations : ReservationMap) :
    ((assignments plan reservations).filter (fun one => one.network = "ctlplane")).map
        (·.reservation.dnsDomain) =
      (plan.map (·.name)).flatMap (controlDomains reservations) := by
  induction plan with
  | nil => rfl
  | cons first rest ih =>
      have hfirst : ((((reservations.get? first.name).getD []).map (Assignment.mk first)).filter
          (fun one => one.network = "ctlplane")).map (·.reservation.dnsDomain) =
            controlDomains reservations first.name := by
        rw [List.filter_map, List.map_map]
        rfl
      unfold assignments at ih ⊢
      rw [List.flatMap_cons, List.filter_append, List.map_append, ih, hfirst]
      rfl

theorem buildDnsRecords_searchDomain (plan : List PlannedNode) (reservations : ReservationMap) :
    (buildDnsRecords plan reservations).searchDomain =
      ((plan.map (·.name)).flatMap (controlDomains reservations)).find? (· ≠ "") := by
  rw [buildDnsRecords_eq, DnsRecordPlan.foldl_add_searchDomain, assignments_controlDomains]
  rfl

/-! ## Planned names -/

theorem plannedNames_ascending (spec : NodeSetSpec) : (plannedNames spec).Pairwise (· < ·) :=
  List.pairwise_map.2 (planReservations_ascending spec)

/-- A node takes part if it has a network, of its own or of the template. -/
theorem mem_plannedNames_iff {spec : NodeSetSpec} {name : String} :
    name ∈ plannedNames spec ↔
      ∃ node, spec.nodes.get? name = some node ∧
        (node.networks ≠ [] ∨ spec.nodeTemplate.networks ≠ []) := by
  have heffective (node : NodeSpec) :
      effectiveNetworks node spec.nodeTemplate ≠ [] ↔
        node.networks ≠ [] ∨ spec.nodeTemplate.networks ≠ [] := by
    unfold effectiveNetworks
    cases node.networks <;> simp
  unfold plannedNames planReservations
  rw [List.mem_map]
  constructor
  · rintro ⟨planned, hmem, rfl⟩
    obtain ⟨⟨key, node⟩, hentry, hnode⟩ := List.mem_filterMap.1 hmem
    have hkey : planned.name = key := planNode_name hnode
    refine ⟨node, hkey ▸ Dict.get?_eq_some_iff.2 hentry, (heffective node).1 (fun hnone => ?_)⟩
    rw [planNode_eq_none_iff.2 hnone] at hnode
    cases hnode
  · rintro ⟨node, hget, hnetworks⟩
    cases hnode : planNode spec.nodeTemplate name node with
    | none => exact absurd (planNode_eq_none_iff.1 hnode) ((heffective node).2 hnetworks)
    | some planned =>
        exact ⟨planned, List.mem_filterMap.2 ⟨(name, node), Dict.get?_eq_some_iff.1 hget, hnode⟩,
          planNode_name hnode⟩

/-! ## What decides -/

/--
The same nodes take part up to one of them, these have the same domains on the control network, and
that one has the same up to a domain that is not empty.
-/
def AgreeUpToDomain (spec other : NodeSetSpec) (reservations others : ReservationMap) : Prop :=
  ∃ before name after later front domain back behind,
    plannedNames spec = before ++ name :: after ∧
      plannedNames other = before ++ name :: later ∧
      (∀ earlier ∈ before, controlDomains others earlier = controlDomains reservations earlier) ∧
      controlDomains reservations name = front ++ domain :: back ∧
      controlDomains others name = front ++ domain :: behind ∧ domain ≠ ""

theorem find?_decided {front back : List String} {domain : String} (h : domain ≠ "") :
    (front ++ domain :: back).find? (· ≠ "") = (front.find? (· ≠ "")).or (some domain) := by
  rw [List.find?_append, List.find?_cons_of_pos (by simpa using h)]

/-- What the search domain of a node set is, and what it depends on. -/
structure SearchDomainDecided (spec : NodeSetSpec) (reservations : ReservationMap) : Prop where
  /-- It is the first domain that is not empty, if there is one. -/
  first :
    (buildDnsRecords (planReservations spec) reservations).searchDomain =
      ((plannedNames spec).flatMap (controlDomains reservations)).find? (· ≠ "")
  /-- Nodes are taken in the ascending order of their names. -/
  ascending : (plannedNames spec).Pairwise (· < ·)
  /-- A node takes part if it has a network, of its own or of the template. -/
  planned : ∀ name, name ∈ plannedNames spec ↔
    ∃ node, spec.nodes.get? name = some node ∧
      (node.networks ≠ [] ∨ spec.nodeTemplate.networks ≠ [])
  /-- What is not on the control network, or stands behind the first domain, does not matter. -/
  stable : ∀ other others, AgreeUpToDomain spec other reservations others →
    (buildDnsRecords (planReservations other) others).searchDomain =
      (buildDnsRecords (planReservations spec) reservations).searchDomain

/-- The search domain of any node set, whatever is reserved. -/
theorem searchDomain_decided (spec : NodeSetSpec) (reservations : ReservationMap) :
    SearchDomainDecided spec reservations := by
  constructor
  case first => exact buildDnsRecords_searchDomain (planReservations spec) reservations
  case ascending => exact plannedNames_ascending spec
  case planned => exact fun _ => mem_plannedNames_iff
  case stable =>
    rintro other others ⟨before, name, after, later, front, domain, back, behind, hspec, hother,
      hbefore, hname, hname', hdomain⟩
    have hsame : before.flatMap (controlDomains others) =
        before.flatMap (controlDomains reservations) := List.flatMap_congr hbefore
    have hleft : (plannedNames spec).flatMap (controlDomains reservations) =
        (before.flatMap (controlDomains reservations) ++ front) ++
          domain :: (back ++ after.flatMap (controlDomains reservations)) := by
      rw [hspec, List.flatMap_append, List.flatMap_cons, hname]
      simp
    have hright : (plannedNames other).flatMap (controlDomains others) =
        (before.flatMap (controlDomains reservations) ++ front) ++
          domain :: (behind ++ later.flatMap (controlDomains others)) := by
      rw [hother, List.flatMap_append, List.flatMap_cons, hname', hsame]
      simp
    rw [buildDnsRecords_searchDomain, buildDnsRecords_searchDomain]
    show ((plannedNames other).flatMap _).find? _ = ((plannedNames spec).flatMap _).find? _
    rw [hleft, hright, find?_decided hdomain, find?_decided hdomain]

/-- Two nodes, of which the second one has the first domain on the control network. -/
def pairSpec : NodeSetSpec where
  nodes :=
    ((∅ : Dict NodeSpec).insert "edpm-0" { networks := [{ name := "ctlplane" }] }).insert "edpm-1"
      { networks := [{ name := "ctlplane" }] }

def pairReservations : ReservationMap :=
  ((∅ : ReservationMap).insert "edpm-0" [{ network := "ctlplane", address := "172.20.0.10" }]).insert
    "edpm-1"
    [{ network := "CtlPlane", address := "172.20.0.11", dnsDomain := "ctlplane.example.com" },
      { network := "ctlplane", address := "172.20.0.12", dnsDomain := "late.example.com" }]

/-- The same two under other host names, and a third one behind them. -/
def tripleSpec : NodeSetSpec where
  nodeTemplate := { networks := [{ name := "storage" }] }
  nodes :=
    (((∅ : Dict NodeSpec).insert "edpm-0" { hostName := some "a.example.com" }).insert "edpm-1"
      { hostName := some "b.example.com" }).insert "edpm-2" {}

def tripleReservations : ReservationMap :=
  (((∅ : ReservationMap).insert "edpm-0"
    [{ network := "storage", address := "172.21.0.10", dnsDomain := "storage.example.com" },
      { network := "ctlplane", address := "172.20.0.20" }]).insert "edpm-1"
    [{ network := "ctlplane", address := "172.20.0.21", dnsDomain := "ctlplane.example.com" }]).insert
    "edpm-2" [{ network := "ctlplane", address := "172.20.0.22", dnsDomain := "other.example.com" }]

theorem triple_sameDomain :
    AgreeUpToDomain pairSpec tripleSpec pairReservations tripleReservations ∧
      (buildDnsRecords (planReservations tripleSpec) tripleReservations).searchDomain =
        some "ctlplane.example.com" := by
  have agree : AgreeUpToDomain pairSpec tripleSpec pairReservations tripleReservations :=
    ⟨["edpm-0"], "edpm-1", [], ["edpm-2"], [], "ctlplane.example.com", ["late.example.com"], [],
      by decide +kernel, by decide +kernel, by decide +kernel, by decide +kernel,
      by decide +kernel, by decide⟩
  have decided := searchDomain_decided pairSpec pairReservations
  refine ⟨agree, ((decided.stable _ _ agree).trans decided.first).trans ?_⟩
  decide +kernel

end NodeIdentity
