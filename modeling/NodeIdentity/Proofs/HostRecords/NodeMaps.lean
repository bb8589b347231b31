import NodeIdentity.Proofs.HostRecords.HostList
import NodeIdentity.Proofs.HostRecords.Resolution

/-!
# Names and addresses by node and network

What is published for a node on a network goes by the addresses that are reserved there: the last
one is the published address, and the last one that has a name gives the published name.  Nothing
else is bound in the two maps, and no node is bound to an empty one.
-/

namespace NodeIdentity

/-- The name that an address with a name registers for a host: the declared one on the control
network, if it is fully qualified, and else the host's short name in the domain. -/
def registeredName (hostname : String) (reservation : Reservation) : String :=
  if '.' ∈ hostname.toList ∧ Text.lowercase reservation.network = "ctlplane" then hostname
  else shortName hostname ++ "." ++ reservation.dnsDomain

/-- The addresses under a name on a network that have a name of their host. -/
def namedOn (reservations : ReservationMap) (node : PlannedNode) (network : String) :
    List Reservation :=
  (reservationsOn reservations node.name network).filter (fun reservation =>
    servedNames node.hostname reservation ≠ [])

/-! ## Assignments of one node -/

theorem assignmentsAt_cons (first : PlannedNode) (rest : List PlannedNode)
    (reservations : ReservationMap) (name network : String) :
    assignmentsAt (first :: rest) reservations name network =
      (if first.name = name then
        (reservationsOn reservations name network).map (Assignment.mk first)
      else []) ++ assignmentsAt rest reservations name network := by
  unfold assignmentsAt assignments
  rw [List.flatMap_cons, List.filter_append, List.filter_map]
  congr 1
  by_cases hname : first.name = name
  · subst hname
    rw [if_pos rfl]
    unfold reservationsOn reservationsOf
    congr 1
    refine List.filter_congr (fun reservation _ => ?_)
    rw [Bool.eq_iff_iff, Function.comp_apply, Assignment.isAt_iff, decide_eq_true_eq]
    exact ⟨fun h => h.2.symm, fun h => ⟨rfl, h.symm⟩⟩
  · rw [if_neg hname, List.map_eq_nil_iff, List.filter_eq_nil_iff]
    intro reservation _
    simp [Assignment.isAt, hname]

theorem assignmentsAt_unplanned {plan : List PlannedNode} {name : String}
    (unplanned : ∀ node ∈ plan, node.name ≠ name) (reservations : ReservationMap)
    (network : String) : assignmentsAt plan reservations name network = [] := by
  induction plan with
  | nil => rfl
  | cons first rest ih =>
      obtain ⟨hfirst, hrest⟩ := List.forall_mem_cons.1 unplanned
      rw [assignmentsAt_cons, if_neg hfirst, ih hrest]
      rfl

/-- Where names are planned once, a node is given the addresses that are reserved under its name. -/
theorem assignmentsAt_planned {plan : List PlannedNode}
    (distinct : (plan.map (·.name)).Nodup) {node : PlannedNode} (planned : node ∈ plan)
    (reservations : ReservationMap) (network : String) :
    assignmentsAt plan reservations node.name network =
      (reservationsOn reservations node.name network).map (Assignment.mk node) := by
  induction plan with
  | nil => cases planned
  | cons first rest ih =>
      rw [List.map_cons, List.nodup_cons, List.mem_map] at distinct
      obtain ⟨hfirst, hrest⟩ := distinct
      rw [assignmentsAt_cons]
      rcases List.mem_cons.1 planned with rfl | hmem
      -- No node behind this one has its name, so nothing is added to what it is given.
      · have hothers : ∀ other ∈ rest, other.name ≠ node.name :=
          fun other hother hsame => hfirst ⟨other, hother, hsame⟩
        rw [if_pos rfl, assignmentsAt_unplanned hothers, List.append_nil]
      · have hne : first.name ≠ node.name := fun hsame => hfirst ⟨node, hmem, hsame.symm⟩
        rw [if_neg hne, List.nil_append, ih hrest hmem]

theorem planned_of_mem_assignmentsAt {plan : List PlannedNode} {reservations : ReservationMap}
    {name network : String} {given : Assignment}
    (added : given ∈ assignmentsAt plan reservations name network) :
    given.node ∈ plan ∧ given.node.name = name ∧
      given.reservation ∈ reservationsOn reservations name network := by
  obtain ⟨hgiven, hat⟩ := List.mem_filter.1 added
  obtain ⟨hname, hnetwork⟩ := Assignment.isAt_iff.1 hat
  obtain ⟨node, hnode, hmap⟩ := List.mem_flatMap.1 hgiven
  obtain ⟨reservation, hreservation, rfl⟩ := List.mem_map.1 hmap
  refine ⟨hnode, hname.symm, List.mem_filter.2 ⟨?_, ?_⟩⟩
  · rw [hname]
    exact hreservation
  · simpa [Assignment.network] using hnetwork.symm

/-! ## Registered names -/

theorem servedNames_getLast? (hostname : String) (reservation : Reservation) :
    (servedNames hostname reservation).getLast? =
      if servedNames hostname reservation ≠ [] then some (registeredName hostname reservation)
      else none := by
  unfold servedNames registeredName
  dsimp only
  by_cases declares : '.' ∈ hostname.toList ∧ Text.lowercase reservation.network = "ctlplane"
  · rw [if_pos declares, if_pos declares]
    simp
  · rw [if_neg declares, if_neg declares]
    split <;> simp

theorem filterMap_name? (node : PlannedNode) (list : List Reservation) :
    (list.map (Assignment.mk node)).filterMap Assignment.name? =
      (list.filter (fun reservation => servedNames node.hostname reservation ≠ [])).map
        (registeredName node.hostname) := by
  rw [List.filterMap_map, ← List.filterMap_eq_map, List.filterMap_filter]
  refine List.filterMap_congr (fun reservation _ => ?_)
  show (Assignment.mk node reservation).name? = _
  rw [Assignment.name?, Assignment.names_eq_servedNames, servedNames_getLast?]
  simp

/-! ## Bound nodes -/

/-- No node is bound to an empty map. -/
def NodeNetworkMap.Filled (map : NodeNetworkMap) : Prop :=
  ∀ name texts, map.get? name = some texts → texts.isEmpty = false

theorem NodeNetworkMap.Filled.set {map : NodeNetworkMap} (filled : NodeNetworkMap.Filled map)
    (node network text : String) :
    NodeNetworkMap.Filled (NodeNetworkMap.set map node network text) := by
  intro name texts hbound
  unfold NodeNetworkMap.set at hbound
  rw [Dict.get?_insert] at hbound
  split at hbound
  · cases hbound
    exact Dict.insert_ne_empty _ _ _
  · exact filled name texts hbound

namespace DnsRecordPlan

theorem register_filled {records : DnsRecordPlan}
    (filled : NodeNetworkMap.Filled records.hostnames) (node network : String)
    (name : Option String) :
    NodeNetworkMap.Filled (records.register node network name).hostnames := by
  cases name with
  | none => exact filled
  | some text => exact filled.set node network text

theorem foldl_add_filled (given : List Assignment) {records : DnsRecordPlan}
    (names : NodeNetworkMap.Filled records.hostnames)
    (addresses : NodeNetworkMap.Filled records.ips) :
    NodeNetworkMap.Filled (given.foldl add records).hostnames ∧
      NodeNetworkMap.Filled (given.foldl add records).ips := by
  induction given generalizing records with
  | nil => exact ⟨names, addresses⟩
  | cons first rest ih =>
      apply ih
      · rw [add_hostnames]
        exact register_filled (register_filled names _ _ _) _ _ _
      · rw [add_ips]
        exact addresses.set _ _ _

end DnsRecordPlan

section Records

variable {plan : List PlannedNode} {reservations : ReservationMap}

theorem buildDnsRecords_filled (plan : List PlannedNode) (reservations : ReservationMap) :
    NodeNetworkMap.Filled (buildDnsRecords plan reservations).hostnames ∧
      NodeNetworkMap.Filled (buildDnsRecords plan reservations).ips := by
  rw [buildDnsRecords_eq]
  have hempty : NodeNetworkMap.Filled (∅ : NodeNetworkMap) := fun _ _ hbound => nomatch hbound
  exact DnsRecordPlan.foldl_add_filled _ hempty hempty

/-- Whatever is bound for a name on a network, an address was assigned there. -/
theorem exists_assigned {name network text : String} {texts : Dict String}
    (bound : (buildDnsRecords plan reservations).hostnames.get? name = some texts ∨
      (buildDnsRecords plan reservations).ips.get? name = some texts)
    (hget : texts.get? network = some text) :
    ∃ given, given ∈ assignmentsAt plan reservations name network := by
  have hat : NodeNetworkMap.at? (buildDnsRecords plan reservations).hostnames name network =
        some text ∨
      NodeNetworkMap.at? (buildDnsRecords plan reservations).ips name network = some text := by
    refine bound.imp ?_ ?_ <;>
    · intro hbound
      rw [NodeNetworkMap.at?, hbound]
      exact hget
  apply List.exists_mem_of_ne_nil
  intro hnil
  rw [buildDnsRecords_hostnames, buildDnsRecords_ips, hnil] at hat
  rcases hat with hname | haddress
  · cases hname
  · cases haddress

end Records

/-! ## The maps of a plan -/

/-- What the names and addresses that are published for a plan are. -/
structure LastWins (plan : List PlannedNode) (reservations : ReservationMap) : Prop where
  /-- The last address of a node on a network is published. -/
  ips : ∀ node ∈ plan, ∀ network,
    NodeNetworkMap.at? (buildDnsRecords plan reservations).ips node.name network =
      (reservationsOn reservations node.name network).getLast?.map (·.address)
  /-- So is the name that the last of them that has one registers. -/
  hostnames : ∀ node ∈ plan, ∀ network,
    NodeNetworkMap.at? (buildDnsRecords plan reservations).hostnames node.name network =
      (namedOn reservations node network).getLast?.map (registeredName node.hostname)
  /-- Nothing is published under other names. -/
  unplanned : ∀ name, (∀ node ∈ plan, node.name ≠ name) →
    (buildDnsRecords plan reservations).hostnames.get? name = none ∧
      (buildDnsRecords plan reservations).ips.get? name = none
  /-- A published name is one of a host entry. -/
  served : ∀ name network text,
    NodeNetworkMap.at? (buildDnsRecords plan reservations).hostnames name network = some text →
      ∃ host ∈ (buildDnsRecords plan reservations).hosts, text ∈ host.hostnames
  /-- No node is bound to an empty map. -/
  filled : ∀ name texts,
    (buildDnsRecords plan reservations).hostnames.get? name = some texts ∨
        (buildDnsRecords plan reservations).ips.get? name = some texts →
      texts.isEmpty = false
  /-- A node is bound on networks in lowercase, of addresses that are reserved under its name. -/
  lowercased : ∀ name texts,
    (buildDnsRecords plan reservations).hostnames.get? name = some texts ∨
        (buildDnsRecords plan reservations).ips.get? name = some texts →
      ∀ network text, texts.get? network = some text →
        ∃ reservation ∈ reservationsOf reservations name,
          network = Text.lowercase reservation.network

/-- For every node and network the last address counts, and the last name. -/
theorem maps_lastWins (plan : List PlannedNode) (reservations : ReservationMap)
    (distinct : (plan.map (·.name)).Nodup) : LastWins plan reservations := by
  have hfilled := buildDnsRecords_filled plan reservations
  constructor
  case ips =>
    intro node planned network
    rw [buildDnsRecords_ips, assignmentsAt_planned distinct planned, List.getLast?_map,
      Option.map_map]
    rfl
  case hostnames =>
    intro node planned network
    rw [buildDnsRecords_hostnames, assignmentsAt_planned distinct planned, filterMap_name?,
      List.getLast?_map]
    rfl
  case unplanned =>
    intro name unplanned
    have hunbound : ∀ texts, ¬ ((buildDnsRecords plan reservations).hostnames.get? name =
          some texts ∨
        (buildDnsRecords plan reservations).ips.get? name = some texts) := by
      intro texts bound
      obtain ⟨network, text, hget⟩ := Dict.isEmpty_eq_false_iff.1
        (bound.elim (hfilled.1 name texts) (hfilled.2 name texts))
      obtain ⟨given, hgiven⟩ := exists_assigned bound hget
      obtain ⟨hplanned, hname, -⟩ := planned_of_mem_assignmentsAt hgiven
      exact unplanned given.node hplanned hname
    exact ⟨Option.eq_none_iff_forall_ne_some.2 (fun texts h => hunbound texts (Or.inl h)),
      Option.eq_none_iff_forall_ne_some.2 (fun texts h => hunbound texts (Or.inr h))⟩
  case served =>
    intro name network text published
    rw [buildDnsRecords_hostnames] at published
    obtain ⟨given, hgiven, hname⟩ := List.mem_filterMap.1 (List.mem_of_getLast? published)
    exact ⟨_, host_mem_of_name? hgiven hname, Assignment.mem_names_of_name? hname⟩
  case filled =>
    intro name texts bound
    exact bound.elim (hfilled.1 name texts) (hfilled.2 name texts)
  case lowercased =>
    intro name texts bound network text hget
    obtain ⟨given, hgiven⟩ := exists_assigned bound hget
    obtain ⟨-, -, hreservation⟩ := planned_of_mem_assignmentsAt hgiven
    obtain ⟨hlisted, hnetwork⟩ := List.mem_filter.1 hreservation
    exact ⟨given.reservation, hlisted, (of_decide_eq_true hnetwork).symm⟩

/-- A node that declares a fully qualified host name. -/
def qualifiedNode : PlannedNode where
  name := "edpm-1"
  hostname := "compute-1.example.com"
  networks := [{ name := "ctlplane" }, { name := "storage" }]

/-- Two addresses on each of two networks, of which only the first have a domain. -/
def domainFirst : ReservationMap :=
  (∅ : ReservationMap).insert "edpm-1"
    [{ network := "ctlplane", address := "172.20.0.20", dnsDomain := "ctlplane.example.com" },
      { network := "Storage", address := "172.21.0.20", dnsDomain := "storage.example.com" },
      { network := "CtlPlane", address := "172.20.0.21" },
      { network := "storage", address := "172.21.0.21" }]

theorem domainFirst_lastWins :
    ([shortNamed, qualifiedNode].map (·.name)).Nodup ∧
      NodeNetworkMap.at? (buildDnsRecords [shortNamed, qualifiedNode] domainFirst).ips "edpm-1"
        "storage" = some "172.21.0.21" ∧
      NodeNetworkMap.at? (buildDnsRecords [shortNamed, qualifiedNode] domainFirst).hostnames
        "edpm-1" "storage" = some "compute-1.storage.example.com" := by
  have distinct : ([shortNamed, qualifiedNode].map (·.name)).Nodup := by decide
  have planned : qualifiedNode ∈ [shortNamed, qualifiedNode] := by simp
  have hmaps := maps_lastWins [shortNamed, qualifiedNode] domainFirst distinct
  refine ⟨distinct, (hmaps.ips _ planned "storage").trans ?_,
    (hmaps.hostnames _ planned "storage").trans ?_⟩
  · decide +kernel
  · decide +kernel

end NodeIdentity
