import NodeIdentity.Resource.Condition
import NodeIdentity.Resource.Kind

/-!
# Node sets

A node set declares a group of nodes and the networks they attach to; its status tells how far their
network identity has come, and publishes it.
-/

namespace NodeIdentity

/-- A request to attach a node to a network. -/
structure NetworkAttachment where
  name : String
  subnetName : Option String := none
  fixedIP : Option String := none
deriving DecidableEq, Repr, Inhabited

/-- How network attachments are written and read. -/
def NetworkAttachment.format : Format NetworkAttachment :=
  Format.described
    (.record "NetworkAttachment" ((Fields.start NetworkAttachment.mk)
      |>.and (.mandatory "name"
        "Name of the network (e.g., \"ctlplane\", \"internalapi\")." .text NetworkAttachment.name)
      |>.and (.optional "subnetName"
        "Subnet of the network to allocate from. The IPAM controller picks a
default subnet when unset." .text NetworkAttachment.subnetName true)
      |>.and (.optional "fixedIP"
        "Fixed address to reserve instead of allocating one." .text
        NetworkAttachment.fixedIP true)))
    "A request to attach a node to a named network."

/-- What all nodes of a set have in common. -/
structure NodeTemplate where
  /-- The networks of nodes that declare none. -/
  networks : List NetworkAttachment := []
deriving DecidableEq, Repr, Inhabited

/-- How node templates are written and read. -/
def NodeTemplate.format : Format NodeTemplate :=
  Format.described
    (.record "NodeTemplate" ((Fields.start NodeTemplate.mk)
      |>.and (.defaulted "networks" "Networks applied to nodes that do not declare their own."
        (.list NetworkAttachment.format) [] NodeTemplate.networks)))
    "Defaults shared by every node in a `NodeSet`."

/-- A node of a set. -/
structure NodeSpec where
  /-- The host name, short or fully qualified; the node's name if unset. -/
  hostName : Option String := none
  /-- The networks of the node; those of the template if empty. -/
  networks : List NetworkAttachment := []
deriving DecidableEq, Repr, Inhabited

/-- How nodes are written and read. -/
def NodeSpec.format : Format NodeSpec :=
  Format.described
    (.record "NodeSpec" ((Fields.start NodeSpec.mk)
      |>.and (.optional "hostName"
        "Hostname of the node, either short (`edpm-0`) or fully qualified
(`edpm-0.ctlplane.example.com`). Defaults to the node name." .text NodeSpec.hostName true)
      |>.and (.defaulted "networks"
        "Networks for this node. When empty the template networks apply."
        (.list NetworkAttachment.format) [] NodeSpec.networks)))
    "A single node of a `NodeSet`."

/-- What a node set asks for. -/
structure NodeSetSpec where
  nodeTemplate : NodeTemplate := {}
  /-- The nodes by name. -/
  nodes : Dict NodeSpec := ∅
deriving DecidableEq, Inhabited

/-- How the request of a node set is written and read. -/
def NodeSetSpec.format : Format NodeSetSpec :=
  Format.described
    (.record "NodeSetSpec" ((Fields.start NodeSetSpec.mk)
      |>.and (.defaulted "nodeTemplate" "Defaults applied to every node." NodeTemplate.format {}
        NodeSetSpec.nodeTemplate)
      |>.and (.defaulted "nodes"
        "Nodes keyed by node name. The node name also names the node's
`IPReservation`; nodes are always processed in lexical order of their names."
        (.dict NodeSpec.format) ∅ NodeSetSpec.nodes)))
    "`NodeSet` declares a group of nodes and the networks they attach to.

For every node with at least one network the controller maintains an
`IPReservation` named after the node. Once all reservations and the DNS
service are ready, it publishes the node addresses as a `DNSRecordSet`.

# Example

```yaml
apiVersion: nodenet.firestoned.io/v1beta1
kind: NodeSet
metadata:
  name: edpm-compute
  namespace: openstack
spec:
  nodeTemplate:
    networks:
      - name: ctlplane
        subnetName: subnet1
      - name: internalapi
        subnetName: subnet1
  nodes:
    edpm-compute-0:
      hostName: edpm-compute-0
    edpm-compute-1:
      hostName: edpm-compute-1.ctlplane.example.com
      networks:
        - name: ctlplane
          fixedIP: 192.168.122.101
```"

/-- A text for every node and network. -/
abbrev NodeNetworkMap : Type :=
  Dict (Dict String)

/-- What is reported of a node set. -/
structure NodeSetStatus where
  conditions : List Condition := []
  observedGeneration : Option Int64 := none
  dnsClusterAddresses : List String := []
  ctlplaneSearchDomain : Option String := none
  allHostnames : NodeNetworkMap := ∅
  allIPs : NodeNetworkMap := ∅
deriving DecidableEq, Inhabited

/-- How the status of a node set is written and read. -/
def NodeSetStatus.format : Format NodeSetStatus :=
  Format.described
    (.record "NodeSetStatus" ((Fields.start NodeSetStatus.mk)
      |>.and (.defaulted "conditions" "Ready, IPReservationReady and DNSDataReady conditions."
        (.list Condition.format) [] NodeSetStatus.conditions)
      |>.and (.optional "observedGeneration" none .int64 NodeSetStatus.observedGeneration false)
      |>.and (.defaulted "dnsClusterAddresses"
        "Cluster-internal addresses of the DNS service, for node resolver configuration."
        (.list .text) [] NodeSetStatus.dnsClusterAddresses)
      |>.and (.optional "ctlplaneSearchDomain"
        "Search domain derived from the first control-plane reservation." .text
        NodeSetStatus.ctlplaneSearchDomain false)
      |>.and (.defaulted "allHostnames" "Published hostname per node and network."
        (.dict (.dict .text)) ∅ NodeSetStatus.allHostnames)
      |>.and (.defaulted "allIPs" "Reserved address per node and network."
        (.dict (.dict .text)) ∅ NodeSetStatus.allIPs)))
    "`NodeSet` status"

/-- A group of nodes whose network identity is to be brought about. -/
abbrev NodeSet : Type :=
  Resource NodeSetSpec NodeSetStatus

/-- The type of node sets. -/
def NodeSet.type : ResourceType NodeSetSpec NodeSetStatus where
  kind := .nodeSet
  purpose := "NodeSet declares a group of nodes and the networks they attach to. The controller " ++
    "reserves addresses for every node and publishes DNS host records once the reservations and " ++
    "the DNS service are ready."
  spec := NodeSetSpec.format
  status := some NodeSetStatus.format

end NodeIdentity
