import NodeIdentity.Resource.Metadata

/-!
# Resources

The kinds of resources, and what all resources have in common: metadata, what is asked for, and what
has been reported about it.
-/

namespace NodeIdentity

/-- The kinds of resources. -/
inductive Kind
  | nodeSet
  | ipReservation
  | netConfig
  | dnsService
  | dnsRecordSet
deriving DecidableEq, Repr

namespace Kind

/-- All kinds. -/
def all : List Kind :=
  [.nodeSet, .ipReservation, .netConfig, .dnsService, .dnsRecordSet]

/-- The name of a kind, as objects carry it. -/
def name : Kind → String
  | .nodeSet => "NodeSet"
  | .ipReservation => "IPReservation"
  | .netConfig => "NetConfig"
  | .dnsService => "DNSService"
  | .dnsRecordSet => "DNSRecordSet"

/-- The kind in lower case. -/
def singular (kind : Kind) : String :=
  kind.name.toLower

/-- The name of the collection of a kind. -/
def plural (kind : Kind) : String :=
  kind.singular ++ "s"

/-- Other names by which users may ask for a kind. -/
def shortNames : Kind → List String
  | .nodeSet => ["nodeset"]
  | .ipReservation => ["ipres"]
  | .netConfig => ["netcfg"]
  | .dnsService | .dnsRecordSet => []

/-- The kind with a name. -/
def ofName? (name : String) : Option Kind :=
  all.find? (fun kind => kind.name = name)

/-- The kind whose collection has a name. -/
def ofPlural? (plural : String) : Option Kind :=
  all.find? (fun kind => kind.plural = plural)

end Kind

/-- A resource that asks for a `σ` and of which a `τ` is reported. -/
structure Resource (σ τ : Type) where
  metadata : ObjectMeta
  spec : σ
  status : Option τ
deriving DecidableEq

/-- The status of a resource of which nothing is ever reported. -/
inductive NoStatus
deriving DecidableEq

/-- How resources of a kind are written and read. -/
structure ResourceType (σ τ : Type) where
  kind : Kind
  /-- What resources of the kind are, in words. -/
  purpose : String
  spec : Format σ
  /-- The format of the status, for kinds of which something is reported. -/
  status : Option (Format τ)

namespace Resource

variable {σ τ : Type}

/-- The name a resource goes by. -/
def name (resource : Resource σ τ) : String :=
  resource.metadata.anyName

/-- The namespace of a resource. -/
def place (resource : Resource σ τ) : String :=
  resource.metadata.place

/-- A resource of which only the name and what it asks for are known. -/
def named (name : String) (spec : σ) : Resource σ τ where
  metadata := { name := some name }
  spec := spec
  status := none

end Resource

namespace ResourceType

variable {σ τ : Type}

/-- The fields of a resource.  A kind without status has no such field. -/
def fields (type : ResourceType σ τ) : Fields (Resource σ τ) (Resource σ τ) :=
  match type.status with
  | some status =>
      (Fields.start Resource.mk)
        |>.and (.mandatory "metadata" none ObjectMeta.format Resource.metadata)
        |>.and (.mandatory "spec" none type.spec Resource.spec)
        |>.and (.optional "status" none status Resource.status false)
  | none =>
      (Fields.start (fun metadata spec => Resource.mk metadata spec none))
        |>.and (.mandatory "metadata" none ObjectMeta.format Resource.metadata)
        |>.and (.mandatory "spec" none type.spec Resource.spec)

/-- The members that tell which type a document is of. -/
def header (type : ResourceType σ τ) : List (String × Json) :=
  [("apiVersion", .str apiVersion), ("kind", .str type.kind.name)]

/-- How resources of the type are written, with their type in front, and read, whatever it says. -/
def format (type : ResourceType σ τ) : Format (Resource σ τ) where
  schema := .record type.fields.members {}
  encode resource := .obj (type.header ++ type.fields.write resource)
  decode := (Format.record type.kind.name type.fields).decode
  scan := (Format.record type.kind.name type.fields).scan

end ResourceType

end NodeIdentity
