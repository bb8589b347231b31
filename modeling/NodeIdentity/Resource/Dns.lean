import NodeIdentity.Resource.Condition
import NodeIdentity.Resource.Kind

/-!
# Name service

The name service of a namespace, of which only the status is read, and the sets of host records that
it serves.
-/

namespace NodeIdentity

/-- What a name service asks for. -/
structure DNSServiceSpec where
  replicas : Option Int32 := none
deriving DecidableEq, Inhabited

/-- How the request of a name service is written and read. -/
def DNSServiceSpec.format : Format DNSServiceSpec :=
  Format.described
    (.record "DNSServiceSpec" ((Fields.start DNSServiceSpec.mk)
      |>.and (.optional "replicas" "Number of resolver replicas." .int32
        DNSServiceSpec.replicas true)))
    "`DNSService` is the resolver serving the namespace. Only its status is read."

/-- What is reported of a name service. -/
structure DNSServiceStatus where
  dnsAddresses : Option (List String) := none
  dnsClusterAddresses : Option (List String) := none
  conditions : List Condition := []
deriving DecidableEq, Repr, Inhabited

/-- How the status of a name service is written and read. -/
def DNSServiceStatus.format : Format DNSServiceStatus :=
  Format.described
    (.record "DNSServiceStatus" ((Fields.start DNSServiceStatus.mk)
      |>.and (.optional "dnsAddresses" "Addresses the resolver is reachable on from the nodes."
        (.list .text) DNSServiceStatus.dnsAddresses true)
      |>.and (.optional "dnsClusterAddresses"
        "Cluster-internal service addresses of the resolver."
        (.list .text) DNSServiceStatus.dnsClusterAddresses true)
      |>.and (.defaulted "conditions" none (.list Condition.format) []
        DNSServiceStatus.conditions)))
    "`DNSService` status"

/-- The name service of a namespace. -/
abbrev DNSService : Type :=
  Resource DNSServiceSpec DNSServiceStatus

/-- The type of name services. -/
def DNSService.type : ResourceType DNSServiceSpec DNSServiceStatus where
  kind := .dnsService
  purpose := "DNSService is the DNS resolver of a namespace. It serves every DNSRecordSet " ++
    "labelled with its selector value."
  spec := DNSServiceSpec.format
  status := some DNSServiceStatus.format

/-- An address and the names that resolve to it. -/
structure DNSHost where
  ip : String
  hostnames : List String
deriving DecidableEq, Repr, Inhabited

/-- How host entries are written and read. -/
def DNSHost.format : Format DNSHost :=
  Format.described
    (.record "DNSHost" ((Fields.start DNSHost.mk)
      |>.and (.mandatory "ip" none .text DNSHost.ip)
      |>.and (.mandatory "hostnames" none (.list .text) DNSHost.hostnames)))
    "A host entry: one address and the names that resolve to it."

/-- The host records that a record set asks to be served. -/
structure DNSRecordSetSpec where
  hosts : List DNSHost := []
  /-- The value by which a name service selects the record sets it serves. -/
  dnsDataLabelSelectorValue : String := ""
deriving DecidableEq, Repr, Inhabited

/-- How the request of a record set is written and read. -/
def DNSRecordSetSpec.format : Format DNSRecordSetSpec :=
  Format.described
    (.record "DNSRecordSetSpec" ((Fields.start DNSRecordSetSpec.mk)
      |>.and (.defaulted "hosts" none (.list DNSHost.format) [] DNSRecordSetSpec.hosts)
      |>.and (.defaulted "dnsDataLabelSelectorValue"
        "Selector value the DNS service uses to pick up this record set." .text ""
        DNSRecordSetSpec.dnsDataLabelSelectorValue)))
    "`DNSRecordSet` carries the host records of one `NodeSet`."

/-- What is reported of a record set. -/
structure DNSRecordSetStatus where
  conditions : List Condition := []
deriving DecidableEq, Repr, Inhabited

/-- How the status of a record set is written and read. -/
def DNSRecordSetStatus.format : Format DNSRecordSetStatus :=
  Format.described
    (.record "DNSRecordSetStatus" ((Fields.start DNSRecordSetStatus.mk)
      |>.and (.defaulted "conditions" none (.list Condition.format) []
        DNSRecordSetStatus.conditions)))
    "`DNSRecordSet` status"

/-- The host records of one node set. -/
abbrev DNSRecordSet : Type :=
  Resource DNSRecordSetSpec DNSRecordSetStatus

/-- The type of record sets. -/
def DNSRecordSet.type : ResourceType DNSRecordSetSpec DNSRecordSetStatus where
  kind := .dnsRecordSet
  purpose := "DNSRecordSet holds host records served by the DNSService whose selector matches " ++
    "dnsDataLabelSelectorValue."
  spec := DNSRecordSetSpec.format
  status := some DNSRecordSetStatus.format

end NodeIdentity
