import NodeIdentity.Resource.Kind

/-!
# Network configurations

The networks and subnets that addresses are given from.  Only the presence of a configuration
matters to the reconciliation.
-/

namespace NodeIdentity

/-- A range of addresses that may be given out. -/
structure AllocationRange where
  start : String
  «end» : String
deriving DecidableEq, Repr, Inhabited

/-- How ranges of addresses are written and read. -/
def AllocationRange.format : Format AllocationRange :=
  Format.described
    (.record "AllocationRange" ((Fields.start AllocationRange.mk)
      |>.and (.mandatory "start" none .text AllocationRange.start)
      |>.and (.mandatory "end" none .text AllocationRange.end)))
    "A range of addresses the IPAM controller may hand out."

/-- A subnet of a network. -/
structure Subnet where
  name : String
  cidr : String
  gateway : Option String := none
  vlan : Option Int32 := none
  allocationRanges : List AllocationRange := []
deriving DecidableEq, Inhabited

/-- How subnets are written and read. -/
def Subnet.format : Format Subnet :=
  Format.described
    (.record "Subnet" ((Fields.start Subnet.mk)
      |>.and (.mandatory "name" none .text Subnet.name)
      |>.and (.mandatory "cidr" "Subnet in CIDR notation (e.g., \"192.168.122.0/24\")." .text
        Subnet.cidr)
      |>.and (.optional "gateway" none .text Subnet.gateway true)
      |>.and (.optional "vlan" none .int32 Subnet.vlan true)
      |>.and (.defaulted "allocationRanges" none (.list AllocationRange.format) []
        Subnet.allocationRanges)))
    "A subnet of a configured network."

/-- A network that nodes can attach to. -/
structure NetworkDefinition where
  name : String
  dnsDomain : String := ""
  mtu : Option Int32 := none
  subnets : List Subnet := []
deriving DecidableEq, Inhabited

/-- How networks are written and read. -/
def NetworkDefinition.format : Format NetworkDefinition :=
  Format.described
    (.record "NetworkDefinition" ((Fields.start NetworkDefinition.mk)
      |>.and (.mandatory "name" "Network name referenced by `NetworkAttachment.name`." .text
        NetworkDefinition.name)
      |>.and (.defaulted "dnsDomain" "DNS domain of addresses allocated on this network." .text ""
        NetworkDefinition.dnsDomain)
      |>.and (.optional "mtu" none .int32 NetworkDefinition.mtu true)
      |>.and (.defaulted "subnets" none (.list Subnet.format) [] NetworkDefinition.subnets)))
    "A network nodes can attach to."

/-- What a network configuration lists. -/
structure NetConfigSpec where
  networks : List NetworkDefinition := []
deriving DecidableEq, Inhabited

/-- How network configurations are written and read. -/
def NetConfigSpec.format : Format NetConfigSpec :=
  Format.described
    (.record "NetConfigSpec" ((Fields.start NetConfigSpec.mk)
      |>.and (.defaulted "networks" none (.list NetworkDefinition.format) []
        NetConfigSpec.networks)))
    "`NetConfig` describes the networks of a namespace for the IPAM controller.

Without a `NetConfig` in the namespace IP reservation is not used and no
`IPReservation` is written.

# Example

```yaml
apiVersion: nodenet.firestoned.io/v1beta1
kind: NetConfig
metadata:
  name: netconfig
  namespace: openstack
spec:
  networks:
    - name: ctlplane
      dnsDomain: ctlplane.example.com
      subnets:
        - name: subnet1
          cidr: 192.168.122.0/24
          gateway: 192.168.122.1
          allocationRanges:
            - start: 192.168.122.100
              end: 192.168.122.250
```"

/-- The networks of a namespace. -/
abbrev NetConfig : Type :=
  Resource NetConfigSpec NoStatus

/-- The type of network configurations. -/
def NetConfig.type : ResourceType NetConfigSpec NoStatus where
  kind := .netConfig
  purpose :=
    "NetConfig describes the networks and subnets the IPAM controller allocates node addresses from."
  spec := NetConfigSpec.format
  status := none

end NodeIdentity
