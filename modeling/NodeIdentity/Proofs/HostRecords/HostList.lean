import Mathlib.Data.List.Basic
import NodeIdentity.Proofs.HostRecords.Assignments

/-!
# The host list

A name service is given one entry for every address that has a name, in the order of the plan and of
the addresses of each node.  An address has up to two names: the one that its domain gives to the
host, and on the control network the one that the host declares.
-/

namespace NodeIdentity

/--
The names of an address of a host, in order: the host's short name in the domain, unless there is no
domain or the host declares that name itself; and the declared name, on the control network and fully
qualified only.
-/
def servedNames (hostname : String) (reservation : Reservation) : List String :=
  let derived := shortName hostname ++ "." ++ reservation.dnsDomain
  (if reservation.dnsDomain ≠ "" ∧ derived ≠ hostname then [derived] else []) ++
    (if '.' ∈ hostname.toList ∧ Text.lowercase reservation.network = "ctlplane" then [hostname]
    else [])

/-- The entries for an address of a host: one if it has a name, and else none. -/
def hostEntries (hostname : String) (reservation : Reservation) : List DNSHost :=
  if servedNames hostname reservation = [] then []
  else [{ ip := reservation.address, hostnames := servedNames hostname reservation }]

/-! ## Names of one address -/

section Names

variable (hostname : String) (reservation : Reservation)

theorem derivedName?_toList (domain : String) :
    (derivedName? hostname domain).toList =
      if domain ≠ "" ∧ shortName hostname ++ "." ++ domain ≠ hostname then
        [shortName hostname ++ "." ++ domain]
      else [] := by
  unfold derivedName?
  by_cases hdomain : domain = ""
  · simp [hdomain]
  · by_cases hname : shortName hostname ++ "." ++ domain = hostname
    · simp [hdomain, hname]
    · simp [hdomain, hname]

theorem declaredName?_toList (network : String) :
    (declaredName? hostname network).toList =
      if '.' ∈ hostname.toList ∧ network = "ctlplane" then [hostname] else [] := by
  have hfqdn : isFqdn hostname = true ↔ '.' ∈ hostname.toList := List.contains_iff_mem
  unfold declaredName? ctlplaneNetwork
  by_cases h : '.' ∈ hostname.toList ∧ network = "ctlplane"
  · rw [if_pos h, if_pos ⟨h.2, hfqdn.2 h.1⟩]
    rfl
  · rw [if_neg h, if_neg (fun hboth => h ⟨hfqdn.1 hboth.2, hboth.1⟩)]
    rfl

theorem Assignment.names_eq_servedNames (given : Assignment) :
    given.names = servedNames given.node.hostname given.reservation := by
  unfold Assignment.names servedNames Assignment.network
  rw [derivedName?_toList, declaredName?_toList]

theorem Assignment.host?_toList (given : Assignment) :
    given.host?.toList = hostEntries given.node.hostname given.reservation := by
  unfold Assignment.host? hostEntries
  rw [given.names_eq_servedNames]
  by_cases hnone : servedNames given.node.hostname given.reservation = []
  · simp [hnone]
  · simp [hnone]

theorem servedNames_length_le : (servedNames hostname reservation).length ≤ 2 := by
  unfold servedNames
  dsimp only
  split <;> split <;> simp

theorem servedNames_nodup : (servedNames hostname reservation).Nodup := by
  unfold servedNames
  dsimp only
  split
  · rename_i derives
    split
    · simpa using derives.2
    · simp
  · split <;> simp

/-- The declared name is there once where it is there, whatever the domain gives. -/
theorem count_declared :
    (servedNames hostname reservation).count hostname =
      if '.' ∈ hostname.toList ∧ Text.lowercase reservation.network = "ctlplane" then 1 else 0 := by
  unfold servedNames
  dsimp only
  rw [List.count_append]
  -- A derived name that is the declared one is left out, so it is never counted.
  have hderived : List.count hostname
      (if reservation.dnsDomain ≠ "" ∧
          shortName hostname ++ "." ++ reservation.dnsDomain ≠ hostname then
        [shortName hostname ++ "." ++ reservation.dnsDomain] else []) = 0 := by
    rw [List.count_eq_zero]
    split
    · rename_i derives
      simpa using derives.2.symm
    · simp
  rw [hderived, Nat.zero_add]
  split <;> simp

theorem mem_hostEntries {host : DNSHost} :
    host ∈ hostEntries hostname reservation ↔
      servedNames hostname reservation ≠ [] ∧
        host = { ip := reservation.address, hostnames := servedNames hostname reservation } := by
  unfold hostEntries
  split
  · rename_i hnone
    simp [hnone]
  · rename_i hsome
    simp [hsome]

end Names

/-! ## The list -/

/-- What the host list of a plan is. -/
structure HostsListed (plan : List PlannedNode) (reservations : ReservationMap) : Prop where
  /-- There is one entry for every address that has a name, nodes as they are planned and addresses
  as their node lists them, and there is no other entry. -/
  entries :
    (buildDnsRecords plan reservations).hosts =
      plan.flatMap (fun node =>
        (reservationsOf reservations node.name).flatMap (hostEntries node.hostname))
  /-- What is reserved under other names than those of the plan does not matter. -/
  unplanned : ∀ others : ReservationMap,
    (∀ node ∈ plan, reservationsOf others node.name = reservationsOf reservations node.name) →
      (buildDnsRecords plan others).hosts = (buildDnsRecords plan reservations).hosts
  /-- An entry has one name or two. -/
  few : ∀ host ∈ (buildDnsRecords plan reservations).hosts,
    host.hostnames.length = 1 ∨ host.hostnames.length = 2
  /-- The names of an entry differ. -/
  distinct : ∀ host ∈ (buildDnsRecords plan reservations).hosts, host.hostnames.Nodup
  /-- The declared name is among the names of an address of its node once, if the address is on the
  control network and the name fully qualified, and else not. -/
  declaredOnce : ∀ node ∈ plan, ∀ reservation ∈ reservationsOf reservations node.name,
    (servedNames node.hostname reservation).count node.hostname =
      if '.' ∈ node.hostname.toList ∧ Text.lowercase reservation.network = "ctlplane" then 1 else 0
  /-- A fully qualified declared name resolves to every address that its node has on the control
  network. -/
  declaredServed : ∀ node ∈ plan, '.' ∈ node.hostname.toList →
    ∀ reservation ∈ reservationsOf reservations node.name,
      Text.lowercase reservation.network = "ctlplane" →
        ∃ host ∈ (buildDnsRecords plan reservations).hosts,
          host.ip = reservation.address ∧ node.hostname ∈ host.hostnames

theorem buildDnsRecords_hosts_eq_flatMap (plan : List PlannedNode) (reservations : ReservationMap) :
    (buildDnsRecords plan reservations).hosts =
      plan.flatMap (fun node =>
        (reservationsOf reservations node.name).flatMap (hostEntries node.hostname)) := by
  have hnode (node : PlannedNode) :
      ((reservationsOf reservations node.name).map (Assignment.mk node)).filterMap
          Assignment.host? =
        (reservationsOf reservations node.name).flatMap (hostEntries node.hostname) := by
    rw [List.filterMap_map, List.filterMap_eq_flatMap_toList]
    exact List.flatMap_congr (fun reservation _ => (Assignment.mk node reservation).host?_toList)
  rw [buildDnsRecords_hosts, assignments, List.filterMap_flatMap]
  exact List.flatMap_congr (fun node _ => hnode node)

theorem mem_hosts_iff {plan : List PlannedNode} {reservations : ReservationMap} {host : DNSHost} :
    host ∈ (buildDnsRecords plan reservations).hosts ↔
      ∃ node ∈ plan, ∃ reservation ∈ reservationsOf reservations node.name,
        host ∈ hostEntries node.hostname reservation := by
  rw [buildDnsRecords_hosts_eq_flatMap]
  simp only [List.mem_flatMap]

/-- The host list of any plan, whatever is reserved. -/
theorem hosts_listed (plan : List PlannedNode) (reservations : ReservationMap) :
    HostsListed plan reservations := by
  constructor
  case entries => exact buildDnsRecords_hosts_eq_flatMap plan reservations
  case unplanned =>
    intro others same
    rw [buildDnsRecords_hosts_eq_flatMap, buildDnsRecords_hosts_eq_flatMap]
    refine List.flatMap_congr (fun node hnode => ?_)
    rw [same node hnode]
  case few =>
    intro host hhost
    obtain ⟨node, -, reservation, -, hentry⟩ := mem_hosts_iff.1 hhost
    obtain ⟨hnamed, rfl⟩ := (mem_hostEntries _ _).1 hentry
    have hpos := List.length_pos_iff.2 hnamed
    have hle := servedNames_length_le node.hostname reservation
    dsimp only
    omega
  case distinct =>
    intro host hhost
    obtain ⟨node, -, reservation, -, hentry⟩ := mem_hosts_iff.1 hhost
    obtain ⟨-, rfl⟩ := (mem_hostEntries _ _).1 hentry
    exact servedNames_nodup node.hostname reservation
  case declaredOnce =>
    intro node _ reservation _
    exact count_declared node.hostname reservation
  case declaredServed =>
    intro node hnode qualified reservation hreservation controls
    have hcount := count_declared node.hostname reservation
    rw [if_pos ⟨qualified, controls⟩] at hcount
    have hmem : node.hostname ∈ servedNames node.hostname reservation :=
      List.count_pos_iff.1 (by omega)
    refine ⟨_, mem_hosts_iff.2 ⟨node, hnode, reservation, hreservation,
      (mem_hostEntries _ _).2 ⟨List.ne_nil_of_mem hmem, rfl⟩⟩, rfl, hmem⟩

end NodeIdentity
