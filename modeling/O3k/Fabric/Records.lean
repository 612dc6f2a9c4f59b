import O3k.Network.Compatibility
import O3k.Relational.Sorting

/-!
# The fabric of an address realm: the records

Canonical placement and host identities, the plan of one host for one realm,
and the node plan that carries it.  Generations, MTUs and ports are natural
numbers; the code compares them, and subtracts only where it has checked.
-/

namespace O3k
namespace Fabric

open Relational Network

structure Ipv4Prefix where
  network : Ipv4Addr
  prefixLen : Nat
  deriving DecidableEq

namespace Ipv4Prefix

/-- `u32::MAX << (32 - prefix_len)`; the amount of a shift wraps. -/
def mask (prefixLen : Nat) : BitVec 32 :=
  if prefixLen = 0 then 0 else BitVec.allOnes 32 <<< ((288 - prefixLen % 256) % 32)

def new (address : Ipv4Addr) (prefixLen : Nat) : Option Ipv4Prefix :=
  if 32 < prefixLen then
    none
  else if address &&& mask prefixLen = address then
    some ⟨address, prefixLen⟩
  else
    none

def contains (self : Ipv4Prefix) (address : Ipv4Addr) : Bool :=
  address &&& mask self.prefixLen = self.network

end Ipv4Prefix

structure AddressRealm where
  id : Uuid
  projectId : String
  addresses : Ipv4Prefix
  deriving DecidableEq

/-- Accepted placement of one endpoint. -/
structure EndpointLocation where
  endpointId : Uuid
  projectId : String
  realmId : Uuid
  fixedIp : Ipv4Addr
  mac : String
  selectedHost : String
  endpointGeneration : Nat
  placementGeneration : Nat
  deriving DecidableEq

structure RealmEndpointDirectory where
  realmId : Uuid
  addresses : Ipv4Prefix
  directoryGeneration : Nat
  proxyMac : String
  entries : List EndpointLocation
  deriving DecidableEq

def RealmEndpointDirectory.location (self : RealmEndpointDirectory) (endpointId : Uuid) :
    Option EndpointLocation :=
  self.entries.find? (·.endpointId = endpointId)

structure FabricHostIdentity where
  hostId : String
  publicKey : String
  underlayEndpoint : String
  fabricTransportIp : Ipv4Addr
  providerVersion : String
  fabricGeneration : Nat
  underlayMtu : Nat
  fabricMtu : Nat
  deriving DecidableEq

structure FabricEndpointRoute where
  realmId : Uuid
  destination : Ipv4Prefix
  endpointId : Uuid
  targetHost : String
  targetFabricTransportIp : Ipv4Addr
  endpointGeneration : Nat
  placementGeneration : Nat
  realmBindingGeneration : Nat
  fabricGeneration : Nat
  deriving DecidableEq

structure FabricPeer where
  hostId : String
  publicKey : String
  underlayEndpoint : String
  fabricTransportIp : Ipv4Addr
  fabricGeneration : Nat
  deriving DecidableEq

structure PortRange where
  start : Nat
  stop : Nat
  deriving DecidableEq

structure PolicyIntent where
  id : Uuid
  endpointId : Uuid
  direction : PolicyDirection
  protocol : NetworkProtocol
  ports : Option PortRange
  source : Option Ipv4Prefix
  destination : Option Ipv4Prefix
  action : PolicyAction
  deriving DecidableEq

inductive PolicyStatefulMode
  | stateful
  | stateless
  deriving DecidableEq

structure PolicyDefaultIntent where
  policyId : Uuid
  endpointId : Uuid
  unmatchedAction : PolicyAction
  statefulMode : PolicyStatefulMode
  generation : Nat
  deriving DecidableEq

structure PublicAddressBindingIntent where
  id : Uuid
  projectId : String
  publicAddress : Ipv4Addr
  endpointId : Uuid
  generation : Nat
  deriving DecidableEq

structure FabricDhcpIntent where
  enabled : Bool
  gateway : Ipv4Addr
  deriving DecidableEq

/-- The plan of one host for one realm. -/
structure NamespacedRoutedFabricPlan where
  localHost : String
  localFabricTransportIp : Ipv4Addr
  localFabricGeneration : Nat
  localUnderlayMtu : Nat
  localFabricMtu : Nat
  realmId : Uuid
  realmPrefix : Ipv4Prefix
  encapsulation : RealmEncapsulationBinding
  directoryGeneration : Nat
  directory : RealmEndpointDirectory
  proxyMac : String
  tenantMtu : Nat
  policyGeneration : Nat
  policies : List PolicyIntent
  policyDefaults : List PolicyDefaultIntent
  publicBindings : List PublicAddressBindingIntent
  dhcp : Option FabricDhcpIntent
  routes : List FabricEndpointRoute
  peers : List FabricPeer
  deriving DecidableEq

/-- A plan for one node.  `Intent` and `Gateway` stand for the intents and the
gateway plan that it may carry beside the fabric plan. -/
structure NodeNetworkPlan (Intent Gateway : Type) where
  schemaVersion : Nat
  planId : Uuid
  nodeId : String
  operationId : Uuid
  deadlineUnixMs : Nat
  resourceGenerations : Table (Prod.fst : Uuid × Nat → Uuid)
  intents : List Intent
  fabric : Option NamespacedRoutedFabricPlan
  gateway : Option Gateway
  fingerprintSha256 : String

/-- `std::net::SocketAddr`. -/
inductive SocketAddr
  | v4 (ip : Ipv4Addr) (port : Nat)
  | v6 (ip : BitVec 128) (port : Nat)
  deriving DecidableEq

namespace SocketAddr

def isIpv4 : SocketAddr → Bool
  | v4 _ _ => true
  | v6 _ _ => false

def port : SocketAddr → Nat
  | v4 _ port => port
  | v6 _ port => port

/-- `endpoint.ip().is_unspecified()`. -/
def isUnspecified : SocketAddr → Bool
  | v4 ip _ => ip = 0
  | v6 ip _ => ip = 0

end SocketAddr

/-- `Ipv4Addr::is_unspecified`, `is_loopback` and `is_multicast`. -/
def isUnspecified (ip : Ipv4Addr) : Bool := ip = 0

def isLoopback (ip : Ipv4Addr) : Bool := ip.toNat / 2 ^ 24 = 127

def isMulticast (ip : Ipv4Addr) : Bool := ip.toNat / 2 ^ 28 = 14

/-- What a plan is fingerprinted by: everything but the deadline and the
fingerprint, with the intents in the order of their JSON. -/
structure FingerprintInput (Intent Gateway : Type) where
  planId : Uuid
  nodeId : String
  operationId : Uuid
  schemaVersion : Nat
  resourceGenerations : Table (Prod.fst : Uuid × Nat → Uuid)
  intents : List Intent
  gateway : Option Gateway
  fabric : Option NamespacedRoutedFabricPlan

/-- What the planner takes from its libraries: the parser of socket addresses,
`Uuid::as_bytes`, `Uuid::new_v5`, the JSON of an intent, and SHA-256 of the
JSON of a plan. -/
structure FabricLibrary (Intent Gateway : Type) where
  parseSocketAddr : String → Option SocketAddr
  parseSocketAddr_empty : parseSocketAddr "" = none
  uuidBytes : Uuid → List UInt8
  newV5 : Uuid → String → Uuid
  intentJson : Intent → String
  sha256 : FingerprintInput Intent Gateway → String

theorem noSocketAddr_empty : (fun _ : String => (none : Option SocketAddr)) "" = none := rfl

end Fabric
end O3k
