import NodeIdentity.HostRecords
import NodeIdentity.Proofs.Data.Dict

/-!
# Host records as a projection

The records of a plan come from one list: the addresses that reservations assign to planned nodes,
in the order in which they are added.  The host entries are those of the assignments that yield a
name.  For a node and a network, the published address is that of its last assignment, and the
published name that of its last assignment that yields one; these two need not be the same.
-/

namespace NodeIdentity

/-! ## A text for every node and network -/

namespace NodeNetworkMap

/-- The text of a node on a network. -/
def at? (map : NodeNetworkMap) (node network : String) : Option String :=
  (map.get? node).bind (fun texts => texts.get? network)

theorem at?_set (map : NodeNetworkMap) (node network text other place : String) :
    NodeNetworkMap.at? (NodeNetworkMap.set map node network text) other place =
      if other = node ∧ place = network then some text
      else NodeNetworkMap.at? map other place := by
  unfold at? set
  rw [Dict.get?_insert]
  by_cases hnode : other = node
  · subst hnode
    rw [if_pos rfl, Option.bind_some, Dict.get?_insert]
    by_cases hplace : place = network
    · simp [hplace]
    · cases map.get? other with
      | none =>
          rw [if_neg hplace, if_neg (fun h => hplace h.2)]
          rfl
      | some texts => simp [hplace]
  · simp [hnode]

end NodeNetworkMap

/-! ## Assignments -/

/-- An address that a reservation gives to a planned node. -/
structure Assignment where
  node : PlannedNode
  reservation : Reservation

namespace Assignment

/-- The network under which the address is published. -/
def network (given : Assignment) : String :=
  Text.lowercase given.reservation.network

/-- The names that resolve to the address. -/
def names (given : Assignment) : List String :=
  (derivedName? given.node.hostname given.reservation.dnsDomain).toList ++
    (declaredName? given.node.hostname given.network).toList

/-- The name that is published for the node on the network. -/
def name? (given : Assignment) : Option String :=
  given.names.getLast?

/-- The host entry of the address, if a name resolves to it. -/
def host? (given : Assignment) : Option DNSHost :=
  if given.names.isEmpty then none
  else some { ip := given.reservation.address, hostnames := given.names }

/-- Whether the address is one of a node on a network. -/
def isAt (node network : String) (given : Assignment) : Bool :=
  given.node.name = node && given.network = network

theorem isAt_iff {node network : String} {given : Assignment} :
    given.isAt node network = true ↔ node = given.node.name ∧ network = given.network := by
  simp only [isAt, Bool.and_eq_true, decide_eq_true_eq]
  exact and_congr eq_comm eq_comm

theorem name?_eq (given : Assignment) :
    given.name? = (declaredName? given.node.hostname given.network).or
      (derivedName? given.node.hostname given.reservation.dnsDomain) := by
  unfold name? names
  cases declaredName? given.node.hostname given.network <;>
    cases derivedName? given.node.hostname given.reservation.dnsDomain <;> rfl

theorem names_ne_nil_of_name? {given : Assignment} {name : String} (h : given.name? = some name) :
    given.names ≠ [] := by
  intro hnil
  rw [name?, hnil] at h
  cases h

theorem host?_of_name? {given : Assignment} {name : String} (h : given.name? = some name) :
    given.host? = some { ip := given.reservation.address, hostnames := given.names } := by
  have hne := names_ne_nil_of_name? h
  simp [host?, List.isEmpty_iff, hne]

end Assignment

/-- The addresses that planned nodes are given, in the order in which they are added. -/
def assignments (plan : List PlannedNode) (reservations : ReservationMap) : List Assignment :=
  plan.flatMap (fun node => ((reservations.get? node.name).getD []).map (Assignment.mk node))

/-- The addresses that a node is given on a network, in the order in which they are added. -/
def assignmentsAt (plan : List PlannedNode) (reservations : ReservationMap)
    (node network : String) : List Assignment :=
  (assignments plan reservations).filter (Assignment.isAt node network)

/-- The addresses that are reserved under a name. -/
def reservationsOf (reservations : ReservationMap) (name : String) : List Reservation :=
  (reservations.get? name).getD []

/-- The addresses that are reserved under a name on a network. -/
def reservationsOn (reservations : ReservationMap) (name network : String) : List Reservation :=
  (reservationsOf reservations name).filter (fun reservation =>
    Text.lowercase reservation.network = network)

/-! ## Adding one address -/

namespace DnsRecordPlan

/-- Add an address of a node. -/
def add (records : DnsRecordPlan) (given : Assignment) : DnsRecordPlan :=
  addReservation given.node records given.reservation

@[simp] theorem register_hosts (records : DnsRecordPlan) (node network : String)
    (name : Option String) : (records.register node network name).hosts = records.hosts := by
  cases name <;> rfl

@[simp] theorem register_ips (records : DnsRecordPlan) (node network : String)
    (name : Option String) : (records.register node network name).ips = records.ips := by
  cases name <;> rfl

theorem register_at? (records : DnsRecordPlan) (node network : String) (name : Option String)
    (other place : String) :
    NodeNetworkMap.at? (records.register node network name).hostnames other place =
      if other = node ∧ place = network then
        name.or (NodeNetworkMap.at? records.hostnames other place)
      else NodeNetworkMap.at? records.hostnames other place := by
  cases name with
  | none => simp [register]
  | some text => simp [register, NodeNetworkMap.at?_set]

@[simp] theorem noteDomain_hosts (records : DnsRecordPlan) (network domain : String) :
    (records.noteDomain network domain).hosts = records.hosts := by
  unfold noteDomain
  split <;> rfl

@[simp] theorem noteDomain_hostnames (records : DnsRecordPlan) (network domain : String) :
    (records.noteDomain network domain).hostnames = records.hostnames := by
  unfold noteDomain
  split <;> rfl

@[simp] theorem noteDomain_ips (records : DnsRecordPlan) (network domain : String) :
    (records.noteDomain network domain).ips = records.ips := by
  unfold noteDomain
  split <;> rfl

@[simp] theorem addHost_hostnames (records : DnsRecordPlan) (ip : String) (names : List String) :
    (records.addHost ip names).hostnames = records.hostnames := by
  unfold addHost
  split <;> rfl

@[simp] theorem addHost_ips (records : DnsRecordPlan) (ip : String) (names : List String) :
    (records.addHost ip names).ips = records.ips := by
  unfold addHost
  split <;> rfl

theorem add_hosts (records : DnsRecordPlan) (given : Assignment) :
    (records.add given).hosts = records.hosts ++ given.host?.toList := by
  unfold add addReservation addHost Assignment.host? Assignment.names Assignment.network
  dsimp only
  split
  · simp
  · simp

theorem add_hostnames (records : DnsRecordPlan) (given : Assignment) :
    (records.add given).hostnames =
      ((records.register given.node.name given.network
        (derivedName? given.node.hostname given.reservation.dnsDomain)).register given.node.name
          given.network (declaredName? given.node.hostname given.network)).hostnames := by
  simp [add, addReservation, Assignment.network]

theorem add_ips (records : DnsRecordPlan) (given : Assignment) :
    (records.add given).ips =
      NodeNetworkMap.set records.ips given.node.name given.network given.reservation.address := by
  simp [add, addReservation, Assignment.network]

theorem add_hostnames_at? (records : DnsRecordPlan) (given : Assignment) (node network : String) :
    NodeNetworkMap.at? (records.add given).hostnames node network =
      if given.isAt node network then
        given.name?.or (NodeNetworkMap.at? records.hostnames node network)
      else NodeNetworkMap.at? records.hostnames node network := by
  rw [add_hostnames, register_at?, register_at?, Assignment.name?_eq, Option.or_assoc]
  by_cases hplace : node = given.node.name ∧ network = given.network
  · rw [if_pos hplace, if_pos hplace, if_pos (Assignment.isAt_iff.2 hplace)]
  · have hnot : ¬ given.isAt node network = true := fun h => hplace (Assignment.isAt_iff.1 h)
    rw [if_neg hplace, if_neg hplace, if_neg hnot]

theorem add_ips_at? (records : DnsRecordPlan) (given : Assignment) (node network : String) :
    NodeNetworkMap.at? (records.add given).ips node network =
      if given.isAt node network then some given.reservation.address
      else NodeNetworkMap.at? records.ips node network := by
  rw [add_ips, NodeNetworkMap.at?_set]
  simp only [Assignment.isAt_iff]

/-! ## Adding all of them -/

theorem foldl_addReservation (node : PlannedNode) (list : List Reservation)
    (records : DnsRecordPlan) :
    list.foldl (addReservation node) records =
      (list.map (Assignment.mk node)).foldl add records := by
  rw [List.foldl_map]
  rfl

theorem foldl_addNode (plan : List PlannedNode) (reservations : ReservationMap)
    (records : DnsRecordPlan) :
    plan.foldl (addNode reservations) records =
      (assignments plan reservations).foldl add records := by
  induction plan generalizing records with
  | nil => rfl
  | cons node rest ih =>
      have hnode : addNode reservations records node =
          (((reservations.get? node.name).getD []).map (Assignment.mk node)).foldl add
            records := by
        unfold addNode
        cases reservations.get? node.name with
        | none => rfl
        | some list => exact foldl_addReservation node list records
      rw [List.foldl_cons, ih, hnode, ← List.foldl_append]
      rfl

theorem foldl_add_hosts (given : List Assignment) (records : DnsRecordPlan) :
    (given.foldl add records).hosts = records.hosts ++ given.filterMap Assignment.host? := by
  induction given generalizing records with
  | nil => simp
  | cons first rest ih =>
      rw [List.foldl_cons, ih, add_hosts, List.filterMap_cons, List.append_assoc]
      cases first.host? <;> rfl

/-- Where each step binds a place only if it has something for it, the last such step counts. -/
theorem foldl_add_at? (view : DnsRecordPlan → NodeNetworkMap)
    (text? : Assignment → Option String) {node network : String}
    (step : ∀ records given, NodeNetworkMap.at? (view (add records given)) node network =
      if given.isAt node network then
        (text? given).or (NodeNetworkMap.at? (view records) node network)
      else NodeNetworkMap.at? (view records) node network)
    (given : List Assignment) (records : DnsRecordPlan) :
    NodeNetworkMap.at? (view (given.foldl add records)) node network =
      (((given.filter (Assignment.isAt node network)).filterMap text?).getLast?).or
        (NodeNetworkMap.at? (view records) node network) := by
  induction given generalizing records with
  | nil => rfl
  | cons first rest ih =>
      rw [List.foldl_cons, ih, step, List.filter_cons]
      by_cases hat : first.isAt node network = true
      · rw [if_pos hat, if_pos hat, List.filterMap_cons]
        cases htext : text? first with
        | none => rfl
        | some text =>
            rw [List.getLast?_cons]
            cases ((rest.filter (Assignment.isAt node network)).filterMap text?).getLast? <;> rfl
      · rw [if_neg hat, if_neg hat]

end DnsRecordPlan

/-! ## The records of a plan -/

section Records

variable (plan : List PlannedNode) (reservations : ReservationMap) (node network : String)

theorem buildDnsRecords_eq :
    buildDnsRecords plan reservations =
      (assignments plan reservations).foldl DnsRecordPlan.add {} :=
  DnsRecordPlan.foldl_addNode plan reservations {}

/-- There is one host entry for every assignment that yields a name, in their order. -/
theorem buildDnsRecords_hosts :
    (buildDnsRecords plan reservations).hosts =
      (assignments plan reservations).filterMap Assignment.host? := by
  rw [buildDnsRecords_eq, DnsRecordPlan.foldl_add_hosts]
  rfl

/-- The published name is that of the last assignment that yields one. -/
theorem buildDnsRecords_hostnames :
    NodeNetworkMap.at? (buildDnsRecords plan reservations).hostnames node network =
      ((assignmentsAt plan reservations node network).filterMap Assignment.name?).getLast? := by
  rw [buildDnsRecords_eq]
  have hfold := DnsRecordPlan.foldl_add_at? DnsRecordPlan.hostnames Assignment.name?
    (fun records given => DnsRecordPlan.add_hostnames_at? records given node network)
    (assignments plan reservations) {}
  rw [hfold]
  exact Option.or_none

/-- The published address is that of the last assignment. -/
theorem buildDnsRecords_ips :
    NodeNetworkMap.at? (buildDnsRecords plan reservations).ips node network =
      (assignmentsAt plan reservations node network).getLast?.map (·.reservation.address) := by
  rw [buildDnsRecords_eq]
  have hfold := DnsRecordPlan.foldl_add_at? DnsRecordPlan.ips
    (some ∘ fun given : Assignment => given.reservation.address)
    (fun records given => DnsRecordPlan.add_ips_at? records given node network)
    (assignments plan reservations) {}
  rw [hfold, List.filterMap_eq_map, List.getLast?_map]
  exact Option.or_none

end Records

end NodeIdentity
