import O3k.Network.Address
import O3k.Operations.Records

/-!
# Records of the network service

The canonical rows are the authority: networks, address realms with their pools,
endpoints with their policies, encapsulation bindings of realms, and gateways
with their attachments to realms.  The legacy rows are networks, subnets, ports
and intents of earlier versions.

The states that `validate_canonical_state` lets through are the only states that
a canonical row can have.
-/

namespace O3k
namespace Network

/-- The states of the `CHECK` constraints. -/
inductive CanonicalState
  | requested
  | active
  | deleting
  | deleted
  | error
  deriving DecidableEq

def CanonicalState.asStr : CanonicalState → String
  | requested => "requested"
  | active => "active"
  | deleting => "deleting"
  | deleted => "deleted"
  | error => "error"

def validateCanonicalState (state : String) : Except StoreError CanonicalState :=
  match [CanonicalState.requested, .active, .deleting, .deleted, .error].find?
      (fun s => s.asStr = state) with
  | some s => .ok s
  | none => .error (.corrupt ("invalid canonical network state `" ++ state ++ "`"))

def checkedGeneration (generation : Nat) : Except StoreError Unit :=
  if 0 < generation ∧ generation ≤ integerMax then
    .ok ()
  else
    .error (.corrupt "invalid canonical generation")

structure CanonicalNetworkRecord where
  id : Uuid
  projectId : String
  name : String
  adminStateUp : Bool
  generation : Nat
  state : CanonicalState
  deriving DecidableEq

structure CanonicalAddressRealmRecord where
  id : Uuid
  networkId : Uuid
  projectId : String
  prefixText : String
  overlappingPrefixes : Bool
  generation : Nat
  state : CanonicalState
  deriving DecidableEq

structure CanonicalAddressPoolRecord where
  id : Uuid
  realmId : Uuid
  projectId : String
  prefixText : String
  gateway : Option Ipv4Addr
  firstUsable : Ipv4Addr
  lastUsable : Ipv4Addr
  generation : Nat
  state : CanonicalState
  deriving DecidableEq

structure CanonicalEndpointRecord where
  id : Uuid
  realmId : Uuid
  projectId : String
  fixedIp : Ipv4Addr
  mac : String
  generation : Nat
  state : CanonicalState
  deriving DecidableEq

structure CanonicalNetworkPolicyRecord where
  id : Uuid
  projectId : String
  endpointId : Uuid
  direction : String
  protocol : String
  portMin : Option Nat
  portMax : Option Nat
  source : Option String
  destination : Option String
  action : String
  generation : Nat
  state : CanonicalState
  deriving DecidableEq

/-- The `CHECK` constraints of `canonical_network_policies`. -/
def CanonicalNetworkPolicyRecord.satisfiesChecks (p : CanonicalNetworkPolicyRecord) : Bool :=
  p.direction ∈ ["Ingress", "Egress"] &&
    p.protocol ∈ ["Any", "Tcp", "Udp", "Icmp"] &&
    p.action ∈ ["Allow", "Deny"] &&
    0 < p.generation &&
    p.state ≠ .requested &&
    match p.portMin, p.portMax with
    | none, none => true
    | some low, some high => low ≤ 65535 && high ≤ 65535 && low ≤ high
    | _, _ => false

structure CanonicalPolicyAttachmentRecord where
  id : Uuid
  policyId : Uuid
  endpointId : Uuid
  projectId : String
  state : CanonicalState
  generation : Nat
  deriving DecidableEq

structure CanonicalRealmBindingRecord where
  fabricDomainId : String
  realmId : Uuid
  providerKind : String
  providerSegmentId : Nat
  bindingGeneration : Nat
  state : CanonicalState
  deriving DecidableEq

/-- The primary key `(fabric_domain_id, realm_id)`. -/
def CanonicalRealmBindingRecord.key (b : CanonicalRealmBindingRecord) : String ×ₗ Uuid :=
  toLex (b.fabricDomainId, b.realmId)

/-- `Uuid::nil`. -/
def nilUuid : Uuid := "00000000-0000-0000-0000-000000000000"

inductive FabricProviderKind
  | vxlan
  | geneve
  deriving DecidableEq

structure RealmEncapsulationBinding where
  fabricDomainId : Uuid
  realmId : Uuid
  providerKind : FabricProviderKind
  providerSegmentId : Nat
  bindingGeneration : Nat
  deriving DecidableEq

inductive RealmBindingError
  | invalidIdentity
  | invalidSegment
  | invalidGeneration
  deriving DecidableEq

def RealmEncapsulationBinding.validate (self : RealmEncapsulationBinding) :
    Except RealmBindingError Unit :=
  if self.fabricDomainId = nilUuid ∨ self.realmId = nilUuid then
    .error .invalidIdentity
  else if self.providerSegmentId = 0 ∨ 0x000fffff < self.providerSegmentId then
    .error .invalidSegment
  else if self.bindingGeneration = 0 then
    .error .invalidGeneration
  else
    .ok ()

structure CanonicalL3GatewayRecord where
  id : Uuid
  projectId : String
  name : String
  externalRealmId : Option Uuid
  enableSnat : Bool
  generation : Nat
  state : CanonicalState
  deriving DecidableEq

structure CanonicalL3GatewayAttachmentRecord where
  id : Uuid
  gatewayId : Uuid
  realmId : Uuid
  projectId : String
  generation : Nat
  state : CanonicalState
  deriving DecidableEq

/-- `state IN ('active', 'deleting')`. -/
def CanonicalL3GatewayAttachmentRecord.isLive (a : CanonicalL3GatewayAttachmentRecord) : Bool :=
  a.state = .active || a.state = .deleting

structure NetworkRecord where
  id : Uuid
  name : String
  projectId : String
  status : String
  deriving DecidableEq

structure SubnetRecord where
  id : Uuid
  networkId : Uuid
  name : String
  projectId : String
  cidr : String
  gatewayIp : Ipv4Addr
  allocationStart : Ipv4Addr
  allocationEnd : Ipv4Addr
  ipVersion : Nat
  enableDhcp : Bool
  deriving DecidableEq

structure PortRecord where
  id : Uuid
  networkId : Uuid
  subnetId : Option Uuid
  projectId : String
  name : String
  macAddress : String
  fixedIp : Ipv4Addr
  status : String
  bindingHost : Option String
  bindingState : Option String
  bindingGeneration : Nat
  deriving DecidableEq

/-- What is read out of the JSON text of an intent: the member `id`, the member
`realm.id` when it is an identifier, and the policies as
`legacy_policy_records` reads them. -/
structure IntentPayload where
  id : Option String
  realmId : Option Uuid
  policies : Except StoreError (List CanonicalNetworkPolicyRecord)

/-- A row of `network_intents`, whose payload is no JSON text when reading it
gives an error. -/
structure NetworkIntentRecord where
  id : Uuid
  projectId : String
  generation : Nat
  payload : Except String IntentPayload
  status : String

/-!
# The tables of the network service

One record holds every table that a call of the network repository reads or
writes, those of a realm deletion included.
-/

open Relational Operations

structure NetworkTables where
  networks : Table CanonicalNetworkRecord.id
  realms : Table CanonicalAddressRealmRecord.id
  pools : Table CanonicalAddressPoolRecord.id
  endpoints : Table CanonicalEndpointRecord.id
  policies : Table CanonicalNetworkPolicyRecord.id
  policyAttachments : Table CanonicalPolicyAttachmentRecord.id
  bindings : Table CanonicalRealmBindingRecord.key
  gateways : Table CanonicalL3GatewayRecord.id
  attachments : Table CanonicalL3GatewayAttachmentRecord.id
  legacyNetworks : Table NetworkRecord.id
  subnets : Table SubnetRecord.id
  ports : Table PortRecord.id
  intents : Table NetworkIntentRecord.id
  resources : Table ResourceRecord.id
  operations : Table OperationRecord.id
  metadata : Table CanonicalMetadata.operationId
  reservations : Table ReservationRow.key

namespace NetworkTables

def empty : NetworkTables := ⟨∅, ∅, ∅, ∅, ∅, ∅, ∅, ∅, ∅, ∅, ∅, ∅, ∅, ∅, ∅, ∅, ∅⟩

@[simps] def setNetworks
    (s : NetworkTables) (networks : Table CanonicalNetworkRecord.id) : NetworkTables :=
  { s with networks := networks }

@[simps] def setRealms
    (s : NetworkTables) (realms : Table CanonicalAddressRealmRecord.id) : NetworkTables :=
  { s with realms := realms }

@[simps] def setPools
    (s : NetworkTables) (pools : Table CanonicalAddressPoolRecord.id) : NetworkTables :=
  { s with pools := pools }

@[simps] def setEndpoints
    (s : NetworkTables) (endpoints : Table CanonicalEndpointRecord.id) : NetworkTables :=
  { s with endpoints := endpoints }

@[simps] def setPolicies
    (s : NetworkTables) (policies : Table CanonicalNetworkPolicyRecord.id) : NetworkTables :=
  { s with policies := policies }

@[simps] def setPolicyAttachments
    (s : NetworkTables) (policyAttachments : Table CanonicalPolicyAttachmentRecord.id) :
    NetworkTables :=
  { s with policyAttachments := policyAttachments }

@[simps] def setBindings
    (s : NetworkTables) (bindings : Table CanonicalRealmBindingRecord.key) : NetworkTables :=
  { s with bindings := bindings }

@[simps] def setGateways
    (s : NetworkTables) (gateways : Table CanonicalL3GatewayRecord.id) : NetworkTables :=
  { s with gateways := gateways }

@[simps] def setAttachments
    (s : NetworkTables) (attachments : Table CanonicalL3GatewayAttachmentRecord.id) :
    NetworkTables :=
  { s with attachments := attachments }

@[simps] def setLegacyNetworks
    (s : NetworkTables) (legacyNetworks : Table NetworkRecord.id) : NetworkTables :=
  { s with legacyNetworks := legacyNetworks }

@[simps] def setSubnets (s : NetworkTables) (subnets : Table SubnetRecord.id) : NetworkTables :=
  { s with subnets := subnets }

@[simps] def setPorts (s : NetworkTables) (ports : Table PortRecord.id) : NetworkTables :=
  { s with ports := ports }

/-- What the operation journal sees of the service-owned tables. -/
def journal (s : NetworkTables) : OperationTables where
  resources := s.resources
  operations := s.operations
  metadata := s.metadata
  reservations := s.reservations
  canonicalNetworks := s.networks.view (fun n => ⟨n.id, n.projectId⟩) (fun _ => rfl)
  canonicalAddressRealms := s.realms.view (fun r => ⟨r.id, r.projectId⟩) (fun _ => rfl)
  placementAllocations := []

@[simps] def withJournal (s : NetworkTables) (t : OperationTables) : NetworkTables :=
  { s with
    resources := t.resources
    operations := t.operations
    metadata := t.metadata
    reservations := t.reservations }

/-- A row refers to the realm: a foreign key, or a condition of a `DELETE`. -/
def realmInUse (s : NetworkTables) (id : Uuid) : Bool :=
  s.pools.rows.any (fun p => p.realmId = id) ||
    s.endpoints.rows.any (fun e => e.realmId = id) ||
    s.bindings.rows.any (fun b => b.realmId = id) ||
    s.attachments.rows.any (fun a => a.realmId = id) ||
    s.gateways.rows.any (fun g => g.externalRealmId = some id)

/-- A row refers to the endpoint by a foreign key without a cascade. -/
def endpointInUse (s : NetworkTables) (id : Uuid) : Bool :=
  s.policies.rows.any (fun p => p.endpointId = id) ||
    s.policyAttachments.rows.any (fun a => a.endpointId = id)

end NetworkTables

end Network
end O3k
