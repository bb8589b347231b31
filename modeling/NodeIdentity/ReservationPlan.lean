import NodeIdentity.Resource.NodeSet

/-!
# Reservation plan

Which nodes of a node set take part, under which host name and on which networks, in ascending order
of their names.
-/

namespace NodeIdentity

/-- A node that takes part, its host name, and its networks, of which there is at least one. -/
structure PlannedNode where
  name : String
  hostname : String
  networks : List NetworkAttachment
deriving DecidableEq, Repr, Inhabited

/-- The networks of a node: its own, or those of the template if it declares none. -/
def effectiveNetworks (node : NodeSpec) (template : NodeTemplate) : List NetworkAttachment :=
  if node.networks.isEmpty then template.networks else node.networks

/-- The host name of a node: its own unless that is empty, else its name. -/
def NodeSpec.hostnameOf (node : NodeSpec) (name : String) : String :=
  match node.hostName with
  | some hostname => if hostname.isEmpty then name else hostname
  | none => name

/-- The plan of one node, which takes part if it has a network. -/
def planNode (template : NodeTemplate) (name : String) (node : NodeSpec) : Option PlannedNode :=
  let networks := effectiveNetworks node template
  if networks.isEmpty then none
  else some { name := name, hostname := node.hostnameOf name, networks := networks }

/-- The nodes that take part, in ascending order of their names. -/
def planReservations (spec : NodeSetSpec) : List PlannedNode :=
  spec.nodes.toList.filterMap (fun entry => planNode spec.nodeTemplate entry.1 entry.2)

end NodeIdentity
