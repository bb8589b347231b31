import NodeIdentity.Format.Record

/-!
# Object metadata

The name, place, labels and owners that every stored object carries.
-/

namespace NodeIdentity

/-- The group and version under which the resources are served. -/
def apiGroup : String := "nodenet.firestoned.io"

/-- The version under which the resources are served. -/
def apiVersionName : String := "v1beta1"

/-- The group and version as objects carry it. -/
def apiVersion : String := apiGroup ++ "/" ++ apiVersionName

/-- A reference from an object to one that owns it. -/
structure OwnerReference where
  apiVersion : String
  kind : String
  name : String
  uid : String
  /-- Whether the owner is the one that controls the object. -/
  controller : Option Bool
  /-- Whether the owner waits with its own deletion for the object's. -/
  blockOwnerDeletion : Option Bool
deriving DecidableEq, Repr, Inhabited

namespace OwnerReference

/-- Whether the owner claims to control the object. -/
def isController (owner : OwnerReference) : Bool :=
  owner.controller == some true

/-- The fields of an owner reference. -/
def fields : Fields OwnerReference OwnerReference :=
  (Fields.start OwnerReference.mk)
    |>.and (.lenient "apiVersion" .text "" OwnerReference.apiVersion)
    |>.and (.lenient "kind" .text "" OwnerReference.kind)
    |>.and (.lenient "name" .text "" OwnerReference.name)
    |>.and (.lenient "uid" .text "" OwnerReference.uid)
    |>.and (.optional "controller" none .truth OwnerReference.controller true)
    |>.and (.optional "blockOwnerDeletion" none .truth OwnerReference.blockOwnerDeletion true)

/-- How owner references are written and read. -/
def format : Format OwnerReference :=
  .plainRecord "OwnerReference" fields

end OwnerReference

/-- The metadata of an object.  A member that is set and empty differs from one that is not set. -/
structure ObjectMeta where
  name : Option String := none
  /-- The stem of a name that the server is to complete. -/
  generateName : Option String := none
  /-- The namespace. -/
  ns : Option String := none
  uid : Option String := none
  generation : Option Int64 := none
  resourceVersion : Option String := none
  labels : Option (Dict String) := none
  annotations : Option (Dict String) := none
  finalizers : Option (List String) := none
  ownerReferences : Option (List OwnerReference) := none
deriving DecidableEq, Inhabited

namespace ObjectMeta

/-- The name an object goes by: its own, else the stem of the name it is to get. -/
def anyName (metadata : ObjectMeta) : String :=
  match metadata.name with
  | some name => name
  | none => metadata.generateName.getD ""

/-- The name an object is stored under, empty where it has none. -/
def ownName (metadata : ObjectMeta) : String :=
  metadata.name.getD ""

/-- The namespace of an object, empty where it has none. -/
def place (metadata : ObjectMeta) : String :=
  metadata.ns.getD ""

/-- The fields of the metadata. -/
def fields : Fields ObjectMeta ObjectMeta :=
  (Fields.start ObjectMeta.mk)
    |>.and (.optional "name" none .text ObjectMeta.name true)
    |>.and (.optional "generateName" none .text ObjectMeta.generateName true)
    |>.and (.optional "namespace" none .text ObjectMeta.ns true)
    |>.and (.optional "uid" none .text ObjectMeta.uid true)
    |>.and (.optional "generation" none .int64 ObjectMeta.generation true)
    |>.and (.optional "resourceVersion" none .text ObjectMeta.resourceVersion true)
    |>.and (.optional "labels" none (.dict .text) ObjectMeta.labels true)
    |>.and (.optional "annotations" none (.dict .text) ObjectMeta.annotations true)
    |>.and (.optional "finalizers" none (.list .text) ObjectMeta.finalizers true)
    |>.and (.optional "ownerReferences" none (.list OwnerReference.format)
      ObjectMeta.ownerReferences true)

/-- How metadata is written and read. -/
def format : Format ObjectMeta :=
  .plainRecord "ObjectMeta" fields

end ObjectMeta

end NodeIdentity
