import NodeIdentity.Resource.NodeSet

/-!
# Children

The labels and the owner that mark an object as a child of a node set, and how they are put on
metadata that others write too.
-/

namespace NodeIdentity

/-- The part a child plays. -/
inductive Component
  | ipReservation
  | dnsRecords
deriving DecidableEq, Repr

/-- The label value of a part. -/
def Component.label : Component → String
  | .ipReservation => "ip-reservation"
  | .dnsRecords => "dns-records"

/-- The labels of the children of a node set that play a part. -/
def childLabels (nodeSet component : String) : Dict String :=
  Dict.ofList
    [("app.kubernetes.io/component", component),
      ("app.kubernetes.io/managed-by", "nodenet"),
      ("app.kubernetes.io/part-of", "nodenet"),
      ("nodenet.firestoned.io/nodeset", nodeSet)]

/-- What marks an object as a child: labels, and a reference to its owner. -/
structure ChildMeta where
  labels : Dict String
  owner : OwnerReference
deriving DecidableEq

/-- The reference by which an object of a kind controls its children. -/
def controllerReference (kind : Kind) (metadata : ObjectMeta) : OwnerReference where
  apiVersion := apiVersion
  kind := kind.name
  name := metadata.ownName
  uid := metadata.uid.getD ""
  controller := some true
  blockOwnerDeletion := some true

/-- The reference by which a resource controls its children. -/
def ResourceType.ownerOf {σ τ : Type} (type : ResourceType σ τ) (resource : Resource σ τ) :
    OwnerReference :=
  controllerReference type.kind resource.metadata

/-- The mark of the children of a node set that play a part. -/
def NodeSet.childMeta (nodeSet : NodeSet) (component : Component) : ChildMeta where
  labels := childLabels nodeSet.name component.label
  owner := NodeSet.type.ownerOf nodeSet

/-- Put an owner in the place of the first reference with its identity, or at the end. -/
def replaceOwner (owner : OwnerReference) : List OwnerReference → List OwnerReference
  | [] => [owner]
  | other :: rest =>
      if other.uid = owner.uid then owner :: rest else other :: replaceOwner owner rest

/-- Make an owner the controller: other controllers go, other owners stay. -/
def claimOwner (owner : OwnerReference) (owners : List OwnerReference) : List OwnerReference :=
  replaceOwner owner
    (owners.filter (fun other => other.uid = owner.uid || !other.isController))

/-- Mark metadata as a child's.  Labels of other names and owners that do not control stay. -/
def ChildMeta.applyTo (child : ChildMeta) (metadata : ObjectMeta) : ObjectMeta :=
  { metadata with
    labels := some ((metadata.labels.getD ∅).merge child.labels)
    ownerReferences := some (claimOwner child.owner (metadata.ownerReferences.getD [])) }

/-- A resource marked as a child, and asking for what the child is to ask for. -/
def ChildMeta.applyToResource {σ τ : Type} (child : ChildMeta) (spec : σ)
    (resource : Resource σ τ) : Resource σ τ :=
  { resource with metadata := child.applyTo resource.metadata, spec := spec }

/-- Whether two values differ in the documents that are written for them. -/
def Format.needsWrite {α : Type} (format : Format α) (current desired : α) : Bool :=
  format.encode current ≠ format.encode desired

/-- Whether two resources differ in the documents that are written for them. -/
def ResourceType.needsWrite {σ τ : Type} (type : ResourceType σ τ)
    (current desired : Resource σ τ) : Bool :=
  type.format.needsWrite current desired

end NodeIdentity
