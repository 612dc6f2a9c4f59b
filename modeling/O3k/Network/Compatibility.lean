import O3k.Network.Service

/-!
# The network service: compatible networks, subnets, ports and policies

The calls behind the compatible API keep a legacy row beside the canonical
one.  A subnet is a realm with a pool; a port is an endpoint.
-/

namespace O3k
namespace Network

open Relational Semantics Operations Service

variable (projectId : String)

/-- `quota` is the answer to the reservation. -/
def createNetworkForProjectWithId (id : Uuid) (name : String) (quota : Except StoreError Unit) :
    Service Unit := do
  ensure (¬ isBlank name) .invalidRequest
  let networks ← call (.listCanonicalNetworks projectId)
  ensure (∀ n ∈ networks, n.name ≠ name) .conflict
  let network : NetworkRecord :=
    { id := id
      name := name
      projectId := projectId
      status := "ACTIVE" }
  let canonical : CanonicalNetworkRecord :=
    { id := network.id
      projectId := network.projectId
      name := network.name
      adminStateUp := true
      generation := 1
      state := .active }
  mapped quota
  mapped (← call (.insertCanonicalNetwork canonical))
  match ← call (.insertNetwork network) with
  | .ok () => pure ()
  | .error error =>
    let _ ← call (.deleteCanonicalNetwork projectId network.id)
    throw (mapStoreError error)

def updateNetwork (id : Uuid) (name : Option String) (adminStateUp : Option Bool) :
    Service Unit := do
  ensure (∀ value ∈ name, ¬ isBlank value) .invalidRequest
  let current ← okOr .notFound (← call (.getCanonicalNetwork projectId id))
  let _ ← mapped
    (← call (.updateCanonicalNetwork projectId id current.generation
      (name.getD current.name) (adminStateUp.getD current.adminStateUp)))

/-- What becomes of the legacy row is not looked at. -/
def deleteNetworkForProject (id : Uuid) : Service Unit := do
  mapped (← call (.deleteCanonicalNetwork projectId id))
  let _ ← call (.deleteNetwork projectId id)

structure SubnetRequest where
  projectId : String
  id : Uuid
  networkId : Uuid
  name : String
  cidr : String
  gatewayIp : Option Ipv4Addr
  allocationStart : Option Ipv4Addr
  allocationEnd : Option Ipv4Addr

def SubnetRequest.record (request : SubnetRequest) : Service SubnetRecord := do
  let net ← parseNet request.cidr
  let gateway := request.gatewayIp.getD net.firstHost
  ensure (net.contains gateway = true ∧ gateway ≠ net.network ∧ gateway ≠ net.broadcast)
    .invalidRequest
  let first := request.allocationStart.getD (net.firstHost + 1)
  let last := request.allocationEnd.getD net.lastHost
  ensure (net.contains first = true ∧ net.contains last = true ∧ first ≤ last
    ∧ ¬ (first ≤ gateway ∧ gateway ≤ last)) .invalidRequest
  return {
    id := request.id
    networkId := request.networkId
    name := request.name
    projectId := request.projectId
    cidr := net.canonical
    gatewayIp := gateway
    allocationStart := first
    allocationEnd := last
    ipVersion := 4
    enableDhcp := true }

def SubnetRecord.freshPool (subnet : SubnetRecord) (freshId : Uuid) : CanonicalAddressPoolRecord :=
  { subnet.canonicalPool with id := freshId }

def createSubnetForProjectWithId
    (request : SubnetRequest) (quota : Except StoreError Unit) (freshId : Uuid) :
    Service Unit := do
  let subnet ← request.record
  let _ ← getCanonicalNetworkForProject request.projectId request.networkId
  mapped quota
  let realms ← call (.listCanonicalRealms request.projectId request.networkId)
  ensure (∀ r ∈ realms, r.state ≠ .active) .conflict
  mapped
    (← call (.insertSubnetBundle subnet.canonicalRealm (subnet.freshPool freshId) subnet))

def projectCanonicalSubnet (realm : CanonicalAddressRealmRecord) : Service SubnetRecord := do
  let pools ← call (.listCanonicalPools projectId realm.id)
  let pool ← okOr .invalidRequest pools.head?
  let stored ← call (.getSubnet projectId realm.id)
  let gateway ← okOr .invalidRequest pool.gateway
  return {
    id := realm.id
    networkId := realm.networkId
    name := (stored.map SubnetRecord.name).getD ""
    projectId := realm.projectId
    cidr := realm.prefixText
    gatewayIp := gateway
    allocationStart := pool.firstUsable
    allocationEnd := pool.lastUsable
    ipVersion := 4
    enableDhcp := (stored.map SubnetRecord.enableDhcp).getD true }

def updateSubnetForProject
    (id : Uuid) (name : Option String) (gatewayIp : Option Ipv4Addr) (enableDhcp : Option Bool) :
    Service Unit := do
  let realm ← okOr .notFound (← call (.getCanonicalRealm projectId id))
  let pools ← call (.listCanonicalPools projectId id)
  let pool ← okOr .invalidRequest pools.head?
  let current ← projectCanonicalSubnet projectId realm
  let gateway := gatewayIp.getD current.gatewayIp
  let net ← parseNet realm.prefixText
  ensure (net.contains gateway = true ∧ gateway ≠ net.network ∧ gateway ≠ net.broadcast)
    .invalidRequest
  ensure (¬ (pool.firstUsable ≤ gateway ∧ gateway ≤ pool.lastUsable)) .conflict
  let updated :=
    { current with
      name := name.getD current.name
      gatewayIp := gateway
      enableDhcp := enableDhcp.getD current.enableDhcp }
  if gateway ≠ pool.gateway.getD gateway then
    mapped (← call (.updateSubnetBundle updated pool.id pool.generation))
  else
    mapped (← call (.updateSubnet updated))
  -- the answer is read back
  let realm ← okOr .notFound (← call (.getCanonicalRealm projectId id))
  let _ ← projectCanonicalSubnet projectId realm

def deleteSubnetForProject (id : Uuid) : Service Unit := do
  let stored ← call (.getSubnet projectId id)
  let realm ← call (.getCanonicalRealm projectId id)
  ensure (stored.isSome ∨ realm.isSome) .notFound
  mapped (← call (.deleteSubnetBundle projectId id))

structure PortRequest where
  projectId : String
  id : Uuid
  networkId : Uuid
  name : String
  requestedFixedIp : Option (Uuid × Option Ipv4Addr)
  stableId : Bool

namespace PortRequest

variable (request : PortRequest)

def explicitIp : Option Ipv4Addr := request.requestedFixedIp.bind Prod.snd

def selectRealm (realms : List CanonicalAddressRealmRecord) : Service CanonicalAddressRealmRecord :=
  match request.requestedFixedIp with
  | some (subnetId, _) =>
    okOr .notFound (realms.find? (fun r => r.id = subnetId ∧ r.state = .active))
  | none =>
    match realms with
    | [] => throw .notFound
    | [realm] => if realm.state = .active then pure realm else throw .conflict
    | _ => throw .invalidRequest

/-- The row of a port at a candidate address. -/
def port (realm : CanonicalAddressRealmRecord) (portId : Uuid) (address : Ipv4Addr)
    (lib : NetworkLibrary) : PortRecord where
  id := portId
  networkId := request.networkId
  subnetId := some realm.id
  projectId := request.projectId
  name := request.name
  macAddress := lib.portMac portId
  fixedIp := address
  status := "ACTIVE"
  bindingHost := none
  bindingState := none
  bindingGeneration := 0

end PortRequest

/-- What the port service draws for a candidate address: a fresh id and the
answer to the quota reservation. -/
structure PortDraws where
  freshId : Nat → Uuid
  quota : Nat → Except StoreError Unit

section Ports

variable (lib : NetworkLibrary) (request : PortRequest) (draws : PortDraws)

/-- The candidates of the loop, from `candidate` on; the last address of all
is tried once here, while the code would come back to it for ever. -/
def tryAddresses
    (realm : CanonicalAddressRealmRecord) (pool : CanonicalAddressPoolRecord) (gateway : Ipv4Addr)
    (occupied : List Ipv4Addr) (candidate : Nat) :
    (remaining : Nat) → Service Unit
  | 0 => if request.explicitIp.isSome then throw .invalidRequest else throw .poolExhausted
  | remaining + 1 => do
    let address := BitVec.ofNat 32 candidate
    if address = gateway ∨ address < pool.firstUsable ∨ pool.lastUsable < address then
      if request.explicitIp.isSome then
        throw .invalidRequest
      else
        tryAddresses realm pool gateway occupied (candidate + 1) remaining
    else if request.explicitIp.isNone ∧ address ∈ occupied then
      tryAddresses realm pool gateway occupied (candidate + 1) remaining
    else
      let portId := if request.stableId then request.id else draws.freshId candidate
      let port := request.port realm portId address lib
      mapped (draws.quota candidate)
      match ← call (.insertCanonicalEndpointAndPort (port.canonicalEndpoint realm.id) port) with
      | .ok () => pure ()
      | .error .resourceAlreadyExists =>
        if request.explicitIp.isSome then
          throw .conflict
        else if request.stableId then
          -- a replay of the identity, or a lost race for the address
          let stored ← call (.getCanonicalEndpoint request.projectId request.id)
          if stored.isSome then
            throw .conflict
          else
            tryAddresses realm pool gateway occupied (candidate + 1) remaining
        else
          tryAddresses realm pool gateway occupied (candidate + 1) remaining
      | .error error => throw (mapStoreError error)

/-- `create_port_for_project_internal`. -/
def createPortForProject : Service Unit := do
  let _ ← getCanonicalNetworkForProject request.projectId request.networkId
  let realms ← call (.listCanonicalRealms request.projectId request.networkId)
  let realm ← request.selectRealm realms
  let pools ← call (.listCanonicalPools request.projectId realm.id)
  let pool ← okOr .notFound pools.head?
  let endpoints ← call (.listCanonicalEndpoints request.projectId realm.id)
  let first := (request.explicitIp.getD pool.firstUsable).toNat
  let last := (request.explicitIp.getD pool.lastUsable).toNat
  let gateway ← okOr .invalidRequest pool.gateway
  tryAddresses lib request draws realm pool gateway
    (endpoints.map CanonicalEndpointRecord.fixedIp) first (last + 1 - first)

end Ports

/-- The states that `PortBindingState` has a text for. -/
def bindingStates : List String := ["binding", "bound", "down", "error"]

/-- `get_port_for_project`, for the name and the binding of the port. -/
def getPortForProject (id : Uuid) : Service (Option PortRecord) := do
  let endpoint ← okOr .notFound (← call (.getCanonicalEndpoint projectId id))
  let _ ← okOr .notFound (← call (.getCanonicalRealm projectId endpoint.realmId))
  let stored ← call (.getPort projectId endpoint.id)
  -- `project_neutron_port_status`
  ensure (∀ state ∈ stored.bind PortRecord.bindingState, state ∈ bindingStates)
    .corruptBindingState
  return stored

/-- `current.name.starts_with(SERVER_OWNED_ENDPOINT_PREFIX)`. -/
def isServerOwnedName (name : String) : Bool := "o3k-server:".toList.isPrefixOf name.toList

def updatePortNameForProject (id : Uuid) (name : String) : Service Unit := do
  let current ← getPortForProject projectId id
  ensure (isServerOwnedName ((current.map PortRecord.name).getD "") = false) .conflict
  let _ ← mapped (← call (.updatePortName projectId id name))
  let _ ← getPortForProject projectId id

def deletePortForProject (id : Uuid) : Service Unit := do
  let attachments ← call (.listEndpointPolicyAttachments projectId id)
  forEach
    (fun attachment => do
      mapped (← call (.deletePolicyAttachment projectId attachment.id)))
    attachments
  mapped (← call (.deleteCanonicalEndpointAndPort projectId id))

/-- A completed observation is kept; everything else becomes `binding`. -/
def nextBindingState (bindingState : Option String) : String :=
  if bindingState = some "bound" then "bound" else "binding"

def portForBinding (portId : Uuid) (host : String) : Service PortRecord := do
  ensure (¬ isBlank host) .invalidRequest
  let port ← okOr .notFound (← call (.getPort projectId portId))
  ensure (∀ current ∈ port.bindingHost, current = host) .conflict
  return port

def recordBindingIntent (portId : Uuid) (host : String) : Service Unit := do
  let port ← portForBinding projectId portId host
  let _ ← mapped
    (← call (.updatePortBinding projectId portId (some host)
      (some (nextBindingState port.bindingState))))

def recordFabricBindingIntent (portId : Uuid) (host : String) : Service Unit := do
  let port ← portForBinding projectId portId host
  if port.bindingHost.isNone then
    let realm ← soleActiveRealm (← call (.listCanonicalRealms projectId port.networkId))
    let _ ← mapped
      (← call (.advanceCanonicalRealmGeneration projectId realm.id realm.generation))
  let _ ← mapped
    (← call (.updatePortBinding projectId portId (some host)
      (some (nextBindingState port.bindingState))))

def projectBindingObservation (portId : Uuid) (host state : String) : Service Unit := do
  ensure (state ∈ bindingStates) .invalidRequest
  let port ← okOr .notFound (← call (.getPort projectId portId))
  ensure (port.bindingHost = some host) .conflict
  let _ ← mapped (← call (.updatePortBinding projectId portId (some host) (some state)))

def projectCreateOutcome (portId : Uuid) (state : String) : Service Unit := do
  ensure (state ∈ ["bound", "error"]) .invalidRequest
  let port ← okOr .notFound (← call (.getPort projectId portId))
  ensure (port.bindingState ≠ some "down") .conflict
  let host ← okOr .conflict port.bindingHost
  let _ ← mapped (← call (.updatePortBinding projectId portId (some host) (some state)))

def unbindPort (portId : Uuid) : Service Unit := do
  let _ ← okOr .notFound (← call (.getPort projectId portId))
  let _ ← mapped (← call (.updatePortBinding projectId portId none (some "down")))

inductive PolicyDirection
  | ingress
  | egress
  deriving DecidableEq

inductive NetworkProtocol
  | any
  | tcp
  | udp
  | icmp
  deriving DecidableEq

inductive PolicyAction
  | allow
  | deny
  deriving DecidableEq

structure PolicyIntent where
  id : Uuid
  endpointId : Uuid
  direction : PolicyDirection
  protocol : NetworkProtocol
  ports : Option (Nat × Nat)
  source : Option Ipv4Net
  destination : Option Ipv4Net
  action : PolicyAction

/-- The text that `{:?}` gives. -/
def PolicyDirection.debug : PolicyDirection → String
  | ingress => "Ingress"
  | egress => "Egress"

def NetworkProtocol.debug : NetworkProtocol → String
  | any => "Any"
  | tcp => "Tcp"
  | udp => "Udp"
  | icmp => "Icmp"

def PolicyAction.debug : PolicyAction → String
  | allow => "Allow"
  | deny => "Deny"

def validatePolicyShape (policy : PolicyIntent) : Service Unit :=
  ensure (policy.id ≠ nilUuid ∧ (∀ ports ∈ policy.ports, ports.1 ≤ ports.2)
    ∧ ¬ (policy.ports.isSome ∧ (policy.protocol = .any ∨ policy.protocol = .icmp))
    ∧ ¬ (policy.direction = .ingress ∧ policy.destination.isSome)
    ∧ ¬ (policy.direction = .egress ∧ policy.source.isSome)) .invalidRequest

def canonicalPolicyRecord (policy : PolicyIntent) :
    CanonicalNetworkPolicyRecord where
  id := policy.id
  projectId := projectId
  endpointId := policy.endpointId
  direction := policy.direction.debug
  protocol := policy.protocol.debug
  portMin := policy.ports.map Prod.fst
  portMax := policy.ports.map Prod.snd
  source := policy.source.map Ipv4Net.canonical
  destination := policy.destination.map Ipv4Net.canonical
  action := policy.action.debug
  generation := 1
  state := .active

def upsertPolicyForProject (networkId : Uuid) (policy : PolicyIntent) : Service Unit := do
  ensure (policy.endpointId ≠ nilUuid) .invalidRequest
  validatePolicyShape policy
  let endpoint ← okOr .notFound (← call (.getCanonicalEndpoint projectId policy.endpointId))
  let realm ← okOr .invalidRequest (← call (.getCanonicalRealm projectId endpoint.realmId))
  ensure (realm.networkId = networkId ∧ realm.state = .active) .conflict
  mapped (← call (.upsertCanonicalPolicy (canonicalPolicyRecord projectId policy)))

/-- `derived` is what the attached reusable policies add to the listing, or
why they make it fail. -/
def deletePolicyForProject (networkId policyId : Uuid) (derived : Except NetworkError (List Uuid)) :
    Service Unit := do
  let _ ← okOr .notFound (← call (.getCanonicalNetwork projectId networkId))
  let policies ← call (.listCanonicalPolicies projectId networkId)
  let derived ← ExceptT.mk (pure derived)
  ensure (policyId ∈ policies.map CanonicalNetworkPolicyRecord.id ++ derived) .notFound
  mapped (← call (.deleteCanonicalPolicy projectId policyId))

end Network
end O3k
