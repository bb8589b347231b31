import NodeIdentity.Resource.Dns
import NodeIdentity.Resource.IPReservation
import NodeIdentity.Resource.NetConfig
import NodeIdentity.Resource.NodeSet

/-!
# Resource definitions

The document by which a cluster is told of a kind of resources: its names, and the schema that an
object of the kind must have.
-/

namespace NodeIdentity

namespace Kind

/-- The name of the definition of a kind. -/
def definitionName (kind : Kind) : String :=
  kind.plural ++ "." ++ apiGroup

/-- The names by which objects of a kind are asked for. -/
def names (kind : Kind) : Json :=
  .object
    [("categories", .arr []),
      ("kind", .str kind.name),
      ("plural", .str kind.plural),
      ("shortNames", .arr (kind.shortNames.map .str)),
      ("singular", .str kind.singular)]

end Kind

namespace ResourceType

variable {σ τ : Type}

/-- The shapes of the parts of a resource that are its own: what it asks for, and its status. -/
def parts (type : ResourceType σ τ) : List (String × Json) :=
  ("spec", type.spec.schema.toJson) ::
    (type.status.map (fun status => ("status", status.schema.orNull.toJson))).toList

/-- The schema of a resource. -/
def schemaDocument (type : ResourceType σ τ) : Json :=
  .object
    [("description", .str type.purpose),
      ("properties", .object type.parts),
      ("required", .arr [.str "spec"]),
      ("title", .str type.kind.name),
      ("type", .str "object")]

/-- The version under which resources of a type are served and stored. -/
def versionDocument (type : ResourceType σ τ) : Json :=
  .object
    [("additionalPrinterColumns", .arr []),
      ("name", .str apiVersionName),
      ("schema", .object [("openAPIV3Schema", type.schemaDocument)]),
      ("served", .bool true),
      ("storage", .bool true),
      ("subresources",
        .object (if type.status.isSome then [("status", .obj [])] else []))]

/-- The definition of a type of resources. -/
def definition (type : ResourceType σ τ) : Json :=
  .object
    [("apiVersion", .str "apiextensions.k8s.io/v1"),
      ("kind", .str "CustomResourceDefinition"),
      ("metadata", .object [("name", .str type.kind.definitionName)]),
      ("spec",
        .object
          [("group", .str apiGroup),
            ("names", type.kind.names),
            ("scope", .str "Namespaced"),
            ("versions", .arr [type.versionDocument])])]

end ResourceType

/-- The definition of a kind. -/
def Kind.definition : Kind → Json
  | .nodeSet => NodeSet.type.definition
  | .ipReservation => IPReservation.type.definition
  | .netConfig => NetConfig.type.definition
  | .dnsService => DNSService.type.definition
  | .dnsRecordSet => DNSRecordSet.type.definition

end NodeIdentity
