import NodeIdentity.Readiness
import NodeIdentity.ReservationPlan
import NodeIdentity.Text.Lowercase

/-!
# Host records

The names that the addresses of the planned nodes get, and what of them is published: host entries
for the name service, a name and an address for every node and network, and the search domain.
-/

namespace NodeIdentity

/-- The network over which nodes are controlled. -/
def ctlplaneNetwork : String := "ctlplane"

/-- The value by which a name service selects the record sets of node sets. -/
def dnsDataSelector : String := "dnsdata"

/-- A host name up to its first dot. -/
def shortName (hostname : String) : String :=
  String.ofList (hostname.toList.takeWhile (· ≠ '.'))

/-- Whether a host name is fully qualified: it has a dot. -/
def isFqdn (hostname : String) : Bool :=
  hostname.toList.contains '.'

/-- The name that a domain gives to a host, unless it is the name that the host declares. -/
def derivedName? (hostname domain : String) : Option String :=
  if domain.isEmpty then none
  else
    let name := shortName hostname ++ "." ++ domain
    if name = hostname then none else some name

/-- The name a host declares for itself, on the control network and fully qualified only. -/
def declaredName? (hostname network : String) : Option String :=
  if network = ctlplaneNetwork ∧ isFqdn hostname then some hostname else none

/-- What the planned nodes and their addresses come to. -/
structure DnsRecordPlan where
  hosts : List DNSHost := []
  searchDomain : Option String := none
  /-- The name of every node on every network. -/
  hostnames : NodeNetworkMap := ∅
  /-- The address of every node on every network. -/
  ips : NodeNetworkMap := ∅
deriving DecidableEq, Inhabited

/-- Bind a text to a node and a network. -/
def NodeNetworkMap.set (map : NodeNetworkMap) (node network text : String) : NodeNetworkMap :=
  map.insert node (((map.get? node).getD ∅).insert network text)

namespace DnsRecordPlan

/-- Register the name of a node on a network, if there is one. -/
def register (records : DnsRecordPlan) (node network : String) (name : Option String) :
    DnsRecordPlan :=
  match name with
  | some name => { records with hostnames := NodeNetworkMap.set records.hostnames node network name }
  | none => records

/-- Take the search domain from a domain of the control network, unless there is one already. -/
def noteDomain (records : DnsRecordPlan) (network domain : String) : DnsRecordPlan :=
  if network = ctlplaneNetwork ∧ records.searchDomain.isNone ∧ !domain.isEmpty then
    { records with searchDomain := some domain }
  else records

/-- Add a host entry, if there is a name for it. -/
def addHost (records : DnsRecordPlan) (ip : String) (names : List String) : DnsRecordPlan :=
  if names.isEmpty then records
  else { records with hosts := records.hosts ++ [{ ip := ip, hostnames := names }] }

/--
Add an address of a node.  Its name on the network is the declared one where there is one, and else
the one that the domain gives; the host entry has both, the derived one first.
-/
def addReservation (node : PlannedNode) (records : DnsRecordPlan) (reservation : Reservation) :
    DnsRecordPlan :=
  let network := Text.lowercase reservation.network
  let derived := derivedName? node.hostname reservation.dnsDomain
  let declared := declaredName? node.hostname network
  let named := ((records.register node.name network derived).register node.name network
    declared).noteDomain network reservation.dnsDomain
  { named with
    ips := NodeNetworkMap.set named.ips node.name network reservation.address }.addHost
      reservation.address (derived.toList ++ declared.toList)

/-- Add the addresses of a node, if it has any entry. -/
def addNode (reservations : ReservationMap) (records : DnsRecordPlan) (node : PlannedNode) :
    DnsRecordPlan :=
  match reservations.get? node.name with
  | some list => list.foldl (addReservation node) records
  | none => records

end DnsRecordPlan

/-- The records of the planned nodes, in the order of the plan and of their reservations. -/
def buildDnsRecords (plan : List PlannedNode) (reservations : ReservationMap) : DnsRecordPlan :=
  plan.foldl (DnsRecordPlan.addNode reservations) {}

/-- What is published of a node set once its records are served. -/
structure PublishedIdentity where
  dnsClusterAddresses : List String := []
  ctlplaneSearchDomain : Option String := none
  allHostnames : NodeNetworkMap := ∅
  allIPs : NodeNetworkMap := ∅
deriving DecidableEq, Inhabited

/-- The identity that served records give a node set. -/
structure NetworkIdentity where
  addresses : DnsAddresses
  searchDomain : Option String
  hostnames : NodeNetworkMap
  ips : NodeNetworkMap
deriving DecidableEq

/-- What is published of an identity. -/
def NetworkIdentity.published (identity : NetworkIdentity) : PublishedIdentity where
  dnsClusterAddresses := identity.addresses.clusterAddresses.getD []
  ctlplaneSearchDomain := identity.searchDomain
  allHostnames := identity.hostnames
  allIPs := identity.ips

end NodeIdentity
