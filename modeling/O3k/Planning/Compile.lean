import O3k.Planning.Attachment
import O3k.Planning.Encoding

/-!
# Compiling a plan

`compile_node_network_plan` turns the canonical intent of a network into the
intents of a node, sorted by their JSON, and hashes them.  The attachment
projection, the routes of a gateway, the fabric and the gateway unit are added
to plans that exist already, which are then sorted and hashed again.
-/

namespace O3k
namespace Planning

open Relational Relational.Transaction Execution Gateways Json
open Network hiding PolicyIntent
open Fabric hiding NetworkPlanError AddressRealm

structure AddressRealm where
  id : Uuid
  networkId : Uuid
  projectId : String
  addresses : Ipv4Prefix
  overlappingPrefixes : Bool
  deriving DecidableEq

structure AddressPool where
  id : Uuid
  realmId : Uuid
  projectId : String
  addresses : Ipv4Prefix
  gateway : Option Ipv4Addr
  firstUsable : Ipv4Addr
  lastUsable : Ipv4Addr
  deriving DecidableEq

structure EndpointIntent where
  id : Uuid
  projectId : String
  realmId : Uuid
  mac : String
  fixedIp : Ipv4Addr
  generation : Nat
  deriving DecidableEq

inductive NetworkIntentState
  | requested
  | active
  | deleting
  | error
  deriving DecidableEq

structure NetworkIntent where
  id : Uuid
  projectId : String
  realm : AddressRealm
  addressPools : List AddressPool
  endpoints : List EndpointIntent
  routes : List RouteIntent
  gateways : List GatewayIntent
  egress : List EgressIntent
  publicAddresses : List PublicAddressBindingIntent
  policies : List PolicyIntent
  generation : Nat
  state : NetworkIntentState
  deriving DecidableEq

/-- Refuse with `error` unless the condition holds. -/
def ensure (p : Prop) [Decidable p] (error : NetworkPlanError) : Except NetworkPlanError Unit :=
  if p then .ok () else .error error

/-- `require_capability`, where something needs the capability. -/
def requireIf (needed : Prop) [Decidable needed] (capabilities : List NetworkCapability)
    (capability : NetworkCapability) :
    Except NetworkPlanError Unit :=
  ensure (needed → capability ∈ capabilities) (.unsupportedCapability capability)

def requireCapability (capabilities : List NetworkCapability) (capability : NetworkCapability) :
    Except NetworkPlanError Unit :=
  ensure (capability ∈ capabilities) (.unsupportedCapability capability)

def validMac (value : String) : Bool :=
  let parts := splitChars ':' value.toList
  value.utf8ByteSize = 17 && parts.length = 6 &&
    parts.all (fun part => part.length = 2 && part.all isHexDigit)

/-- `broadcast_address(prefix).is_some_and(|broadcast| address == broadcast)`. -/
def isBroadcast (addresses : Ipv4Prefix) (address : Ipv4Addr) : Prop :=
  broadcastAddress addresses = some address

instance (addresses : Ipv4Prefix) (address : Ipv4Addr) :
    Decidable (isBroadcast addresses address) :=
  inferInstanceAs (Decidable (_ = _))

section Checks

variable (intent : NetworkIntent)

/-- The first gateway that a pool configures, or the first host of the realm. -/
def gatewayAddress : Option Ipv4Addr :=
  (intent.addressPools.findSome? (·.gateway)).or (firstHost intent.realm.addresses)

/-- An existing realm overlaps, and only isolated realms may. -/
def overlapIsAllowed (capabilities : List NetworkCapability) (realms : List AddressRealm) : Prop :=
  (∃ realm ∈ realms,
      realm.id ≠ intent.realm.id ∧ overlaps realm.addresses intent.realm.addresses = true) →
    intent.realm.overlappingPrefixes = true ∧
      NetworkCapability.overlappingAddressRealms ∈ capabilities ∧
      NetworkCapability.encapsulationModes ∈ capabilities

def poolIsValid (gateway : Ipv4Addr) (pool : AddressPool) : Prop :=
  pool.projectId = intent.projectId ∧ pool.realmId = intent.realm.id ∧
    intent.realm.addresses.prefixLen ≤ pool.addresses.prefixLen ∧
    intent.realm.addresses.contains pool.addresses.network = true ∧
    pool.addresses.contains pool.firstUsable = true ∧
    pool.addresses.contains pool.lastUsable = true ∧
    pool.firstUsable ≠ pool.addresses.network ∧ pool.lastUsable ≠ pool.addresses.network ∧
    ¬ isBroadcast pool.addresses pool.firstUsable ∧
    ¬ isBroadcast pool.addresses pool.lastUsable ∧
    pool.firstUsable ≤ pool.lastUsable ∧
    pool.gateway.all (fun own =>
      pool.addresses.contains own = true ∧ own ≠ pool.addresses.network ∧
        ¬ isBroadcast pool.addresses own ∧
        ¬ (pool.firstUsable ≤ own ∧ own ≤ pool.lastUsable)) = true ∧
    ¬ (pool.firstUsable ≤ gateway ∧ gateway ≤ pool.lastUsable)

/-- The endpoint belongs to the project, at an address of the realm. -/
def isInRealm (endpoint : EndpointIntent) : Prop :=
  endpoint.projectId = intent.projectId ∧
    intent.realm.addresses.contains endpoint.fixedIp = true ∧
    endpoint.fixedIp ≠ intent.realm.addresses.network ∧
    ¬ isBroadcast intent.realm.addresses endpoint.fixedIp

def bindingsAreOwned (generations : Table (Prod.fst : Uuid × Nat → Uuid)) : Prop :=
  (∀ binding ∈ intent.publicAddresses,
      binding.projectId = intent.projectId ∧
        (generations.get? binding.endpointId).isSome = true) ∧
    (intent.publicAddresses.map (·.publicAddress)).Nodup

def policyIsShaped (policy : PolicyIntent) : Prop :=
  (∀ ports ∈ policy.ports,
      ports.start ≤ ports.stop ∧ policy.protocol ≠ .any ∧ policy.protocol ≠ .icmp) ∧
    (policy.direction = .ingress → policy.destination = none) ∧
    (policy.direction = .egress → policy.source = none)

def policiesAreShaped (generations : Table (Prod.fst : Uuid × Nat → Uuid)) : Prop :=
  ∀ policy ∈ intent.policies,
    (generations.get? policy.endpointId).isSome = true ∧ policyIsShaped policy

def gatewaysAreInRealm : Prop :=
  ∀ gateway ∈ intent.gateways,
    gateway.external = false → intent.realm.addresses.contains gateway.gateway = true

instance (capabilities : List NetworkCapability) (realms : List AddressRealm) :
    Decidable (overlapIsAllowed intent capabilities realms) :=
  inferInstanceAs (Decidable (_ → _))

instance (gateway : Ipv4Addr) (pool : AddressPool) : Decidable (poolIsValid intent gateway pool) :=
  inferInstanceAs (Decidable (_ ∧ _))

instance (endpoint : EndpointIntent) : Decidable (isInRealm intent endpoint) :=
  inferInstanceAs (Decidable (_ ∧ _))

instance (generations : Table (Prod.fst : Uuid × Nat → Uuid)) :
    Decidable (bindingsAreOwned intent generations) :=
  inferInstanceAs (Decidable (_ ∧ _))

instance (policy : PolicyIntent) : Decidable (policyIsShaped policy) :=
  inferInstanceAs (Decidable (_ ∧ _))

instance (generations : Table (Prod.fst : Uuid × Nat → Uuid)) :
    Decidable (policiesAreShaped intent generations) :=
  inferInstanceAs (Decidable (∀ policy ∈ intent.policies, _))

instance : Decidable (gatewaysAreInRealm intent) :=
  inferInstanceAs (Decidable (∀ gateway ∈ intent.gateways, _))

end Checks

def endpointIntents (endpoint : EndpointIntent) : List NetworkPlanIntent :=
  [.endpointAttachment endpoint.id endpoint.mac.toLower endpoint.fixedIp endpoint.generation,
    .addressAssignment endpoint.id endpoint.fixedIp endpoint.generation]

/-- The loop over the endpoints.  `generations`, `addresses` and `macs` are what
it has seen. -/
def compileEndpoints (intent : NetworkIntent) (gateway : Ipv4Addr) :
    List EndpointIntent → (generations : Table (Prod.fst : Uuid × Nat → Uuid)) →
      (addresses : List Ipv4Addr) →
      (macs : List String) →
      Except NetworkPlanError (Table (Prod.fst : Uuid × Nat → Uuid) × List NetworkPlanIntent)
  | [], generations, _, _ => .ok (generations, [])
  | endpoint :: rest, generations, addresses, macs => do
    ensure (isInRealm intent endpoint) .addressOutsideRealm
    ensure (validMac endpoint.mac.toLower = true) .conflictingEndpoint
    ensure (generations.get? endpoint.id = none ∧ endpoint.fixedIp ∉ addresses ∧
      endpoint.mac.toLower ∉ macs ∧ endpoint.fixedIp ≠ gateway) .conflictingEndpoint
    let (recorded, intents) ← compileEndpoints intent gateway rest
      (generations.put (endpoint.id, endpoint.generation)) (endpoint.fixedIp :: addresses)
      (endpoint.mac.toLower :: macs)
    return (recorded, endpointIntents endpoint ++ intents)

def collectIntents
    (intent : NetworkIntent) (gateway : Ipv4Addr) (attachments : List NetworkPlanIntent) :
    List NetworkPlanIntent :=
  .addressRealm intent.realm.id intent.realm.addresses gateway :: attachments ++
    intent.routes.map .route ++ intent.gateways.map .gateway ++ intent.egress.map .egress ++
    intent.publicAddresses.map .publicAddressBinding ++ intent.policies.map .policy

section Compile

variable (digest : Bytes → String)

/-- The plan, with the hash of the six members. -/
def unsignedPlan (planId : Uuid) (nodeId : String) (operationId : Uuid) (deadlineUnixMs : Nat)
    (generations : Table (Prod.fst : Uuid × Nat → Uuid)) (intents : List NetworkPlanIntent) :
    Plan where
  schemaVersion := nodeNetworkPlanSchemaVersion
  planId := planId
  nodeId := nodeId
  operationId := operationId
  deadlineUnixMs := deadlineUnixMs
  resourceGenerations := generations
  intents := intents
  fabric := none
  gateway := none
  fingerprintSha256 :=
    digest (render (.array
      (headValues planId nodeId operationId nodeNetworkPlanSchemaVersion generations intents)))

def compileNodeNetworkPlan
    (intent : NetworkIntent) (nodeId : String) (operationId : Uuid) (deadlineUnixMs : Nat)
    (capabilities : List NetworkCapability) (realms : List AddressRealm) :
    Except NetworkPlanError Plan := do
  ensure (nodeId ≠ "" ∧ intent.realm.projectId = intent.projectId) .ownershipViolation
  ensure (overlapIsAllowed intent capabilities realms) .overlappingRealm
  requireCapability capabilities .ipv4
  requireCapability capabilities .endpointAttachment
  requireIf (intent.routes ≠ []) capabilities .routing
  requireIf (intent.gateways ≠ []) capabilities .routing
  requireIf (∃ egress ∈ intent.egress, egress.enabled = true) capabilities .routing
  requireIf
    ((∃ egress ∈ intent.egress, egress.enabled = true) ∧
      ∃ egress ∈ intent.egress, egress.nat = true) capabilities .nat
  requireIf (intent.publicAddresses ≠ []) capabilities .publicAddressRealization
  requireIf (intent.policies ≠ []) capabilities .statefulPolicy
  let gateway ← (gatewayAddress intent).elim (.error .invalidAddressPool) .ok
  ensure (∀ pool ∈ intent.addressPools, poolIsValid intent gateway pool) .invalidAddressPool
  let (generations, attachments) ← compileEndpoints intent gateway intent.endpoints ∅ [] []
  ensure (bindingsAreOwned intent generations) .ownershipViolation
  ensure (policiesAreShaped intent generations) .invalidPolicy
  ensure (gatewaysAreInRealm intent) .addressOutsideRealm
  return unsignedPlan digest intent.id nodeId operationId deadlineUnixMs generations
    (sortBy intentKey (collectIntents intent gateway attachments))

end Compile

structure AttachmentPlanInput where
  endpointId : Uuid
  realmId : Uuid
  projectId : String
  mac : String
  fixedIp : Ipv4Addr
  subnetCidr : String
  nodeId : String
  operationId : Uuid
  deadlineUnixMs : Nat
  publicAddress : Option Ipv4Addr
  externalRealmId : Option Uuid
  policies : List PolicyIntent

/-- The intent of a network with one endpoint. -/
def AttachmentPlanInput.intent (input : AttachmentPlanInput) (addresses : Ipv4Prefix) :
    NetworkIntent where
  id := input.endpointId
  projectId := input.projectId
  realm := ⟨input.realmId, input.endpointId, input.projectId, addresses, false⟩
  addressPools := []
  endpoints :=
    [⟨input.endpointId, input.projectId, input.realmId, input.mac, input.fixedIp, 1⟩]
  routes := []
  gateways := []
  egress := input.externalRealmId.toList.map (fun external => ⟨external, true, true⟩)
  publicAddresses :=
    input.publicAddress.toList.map
      (fun address => ⟨input.endpointId, input.projectId, address, input.endpointId, 1⟩)
  policies := input.policies
  generation := 1
  state := .requested

def AttachmentPlanInput.capabilities
    (input : AttachmentPlanInput) (defaults : List PolicyDefaultIntent) :
    List NetworkCapability :=
  [.ipv4, .endpointAttachment] ++
    (if input.publicAddress.isSome then [.publicAddressRealization] else []) ++
    (if input.externalRealmId.isSome then [.routing, .nat] else []) ++
    (if input.policies ≠ [] ∨ defaults ≠ [] then [.statefulPolicy] else [])

/-- One endpoint without policies, public address or external realm. -/
def webInput : AttachmentPlanInput where
  endpointId := "web"
  realmId := "front"
  projectId := "project"
  mac := "02:00:00:00:00:0A"
  fixedIp := 0x0a000002
  subnetCidr := "10.0.0.0/24"
  nodeId := "node"
  operationId := "operation"
  deadlineUnixMs := 0
  publicAddress := none
  externalRealmId := none
  policies := []

example :
    (compileNodeNetworkPlan (fun _ => "") (webInput.intent ⟨0x0a000000, 24⟩) "node" "operation" 0
      (webInput.capabilities []) []).isOk = true := by
  decide +kernel

def defaultIsGood (endpointId : Uuid) (default : PolicyDefaultIntent) : Prop :=
  default.endpointId = endpointId ∧ default.policyId ≠ nilUuid ∧ default.generation ≠ 0 ∧
    default.statefulMode = .stateful

instance (endpointId : Uuid) (default : PolicyDefaultIntent) :
    Decidable (defaultIsGood endpointId default) :=
  inferInstanceAs (Decidable (_ ∧ _))

section Edits

variable (lib : PlanLibrary)

/-- The plan with more intents, sorted and hashed again. -/
def withIntents (plan : Plan) (intents : List NetworkPlanIntent) : Plan :=
  rebind lib { plan with intents := sortBy lib.intentJson (plan.intents ++ intents) }

def compileAttachmentPlanWithDefaults (digest : Bytes → String) (input : AttachmentPlanInput)
    (policyDefaults : List PolicyDefaultIntent) :
    Except NetworkPlanError Plan := do
  let addresses ← (parsePrefix? input.subnetCidr).elim (.error .invalidPrefix) .ok
  let plan ← compileNodeNetworkPlan digest (input.intent addresses) input.nodeId
    input.operationId input.deadlineUnixMs (input.capabilities policyDefaults) []
  ensure (∀ default ∈ policyDefaults, defaultIsGood input.endpointId default) .invalidPolicy
  let generations := (policyDefaults.map (fun d => (d.policyId, d.generation))).foldl Table.put
    plan.resourceGenerations
  return withIntents lib { plan with resourceGenerations := generations }
    (policyDefaults.map .policyDefault)

/-- `add_l3_gateway_routing`; its one error is that of the JSON. -/
def addL3GatewayRouting (plan : Plan) (routes : List GatewayIntent) (egress : List EgressIntent) :
    Plan :=
  if routes = [] ∧ egress = [] then
    plan
  else
    withIntents lib plan (routes.map .gateway ++ egress.map .egress)

/-- `NodeNetworkPlan::with_gateway`. -/
def withGateway (plan : Plan) (gateway : L3GatewayExecutionPlan) : Except NetworkPlanError Plan := do
  ensure (gatewayIsValid gateway = true) .invalidGatewayPlan
  return rebind lib { plan with gateway := some gateway }

def compileL3GatewayNetworkPlan
    (gateway : L3GatewayExecutionPlan) (nodeId : String) (operationId : Uuid)
    (deadlineUnixMs : Nat) :
    Except NetworkPlanError Plan := do
  ensure (isBlank nodeId = false) .invalidGatewayPlan
  return rebind lib
    { schemaVersion := nodeNetworkPlanSchemaVersion
      planId := gateway.gatewayId
      nodeId := nodeId
      operationId := operationId
      deadlineUnixMs := deadlineUnixMs
      resourceGenerations := (∅ : Table _).put (gateway.gatewayId, gateway.gatewayGeneration)
      intents := []
      fabric := none
      gateway := some gateway
      fingerprintSha256 := "" }

end Edits

end Planning
end O3k
