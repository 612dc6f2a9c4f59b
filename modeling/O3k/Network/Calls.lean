import O3k.Network.GatewayRepository
import O3k.Operations.Acceptance

/-!
# The backfill of the canonical tables

`backfill_canonical_network_state` runs in one transaction whenever a service is
opened.  It reads the four legacy tables in the order of their ids and inserts
the canonical row of each of their rows unless one with its id is there, which
is then compared.
-/

namespace O3k
namespace Network

open Relational Relational.Transaction Operations

variable (intent : NetworkIntentRecord)

/-- `format!("invalid network intent JSON: {error}")`. -/
def NetworkIntentRecord.readPayload : Except StoreError IntentPayload :=
  intent.payload.mapError (fun error => .corrupt ("invalid network intent JSON: " ++ error))

def backfillIntent : NetworkTx Unit := do
  let state ← fromExcept (validateCanonicalState intent.status)
  fromExcept (checkedGeneration intent.generation)
  let row : CanonicalNetworkRecord :=
    { id := intent.id
      projectId := intent.projectId
      name := ""
      adminStateUp := true
      generation := intent.generation
      state := state }
  modify (fun s => s.setNetworks (s.networks.insertIfAbsent row))
  let s ← get
  let network ← orFail (s.networks.get? intent.id) (.database .rowNotFound)
  require (network.projectId = intent.projectId) .ownershipConflict
  require (network.generation = intent.generation ∧ network.state = state)
    (.corrupt "canonical network contradicts network intent")
  let payload ← fromExcept intent.readPayload
  require (∀ id ∈ payload.id, id = intent.id)
    (.corrupt "network intent payload identity contradicts its row")

def backfillNetwork (legacy : NetworkRecord) : NetworkTx Unit := do
  let row : CanonicalNetworkRecord :=
    { id := legacy.id
      projectId := legacy.projectId
      name := legacy.name
      adminStateUp := true
      generation := 1
      state := .active }
  modify (fun s => s.setNetworks (s.networks.insertIfAbsent row))
  let s ← get
  let network ← orFail (s.networks.get? legacy.id) (.database .rowNotFound)
  require (network.projectId = legacy.projectId ∧ (network.name = legacy.name ∨ network.name = ""))
    .ownershipConflict
  if network.name = "" then
    set (s.setNetworks (s.networks.put { network with name := legacy.name }))

def SubnetRecord.canonicalRealm (subnet : SubnetRecord) : CanonicalAddressRealmRecord where
  id := subnet.id
  networkId := subnet.networkId
  projectId := subnet.projectId
  prefixText := subnet.cidr
  overlappingPrefixes := false
  generation := 1
  state := .active

def SubnetRecord.canonicalPool (subnet : SubnetRecord) : CanonicalAddressPoolRecord where
  id := subnet.id
  realmId := subnet.id
  projectId := subnet.projectId
  prefixText := subnet.cidr
  gateway := some subnet.gatewayIp
  firstUsable := subnet.allocationStart
  lastUsable := subnet.allocationEnd
  generation := 1
  state := .active

def backfillSubnet (subnet : SubnetRecord) : NetworkTx Unit := do
  fromExcept ((validateIpv4Cidr subnet.cidr).mapError (fun e => .corrupt e.text))
  let s ← get
  let network ← orFail (s.networks.get? subnet.networkId) .networkNotFound
  require (network.projectId = subnet.projectId) .ownershipConflict
  modify (fun s => s.setRealms (s.realms.insertIfAbsent subnet.canonicalRealm))
  let s ← get
  let realm ← orFail (s.realms.get? subnet.id) (.database .rowNotFound)
  require (realm.networkId = subnet.networkId ∧ realm.projectId = subnet.projectId
      ∧ realm.prefixText = subnet.cidr)
    (.corrupt "canonical realm contradicts legacy subnet state")
  set (s.setPools (s.pools.insertIfAbsent subnet.canonicalPool))

def backfillIntentRealm : NetworkTx Unit := do
  let payload ← fromExcept intent.readPayload
  let s ← get
  require (∀ id ∈ payload.realmId, (s.realms.get? id).isSome)
    (.corrupt "network intent realm has no durable canonical owner")

def PortRecord.canonicalEndpoint (port : PortRecord) (realmId : Uuid) :
    CanonicalEndpointRecord where
  id := port.id
  realmId := realmId
  projectId := port.projectId
  fixedIp := port.fixedIp
  mac := port.macAddress
  generation := 1
  state := .active

def backfillPort (port : PortRecord) : NetworkTx Unit := do
  let realmId ← orFail port.subnetId (.corrupt "legacy endpoint has no explicit subnet owner")
  let s ← get
  let realm ← orFail (s.realms.get? realmId) .resourceNotFound
  require (realm.projectId = port.projectId) .ownershipConflict
  if (s.endpoints.get? port.id).isNone then
    insertEndpointRow (port.canonicalEndpoint realmId)

/-- The check of a stored policy comes before its id is looked for. -/
def backfillPolicy (projectId : String) (policy : CanonicalNetworkPolicyRecord) :
    NetworkTx Unit := do
  let s ← get
  require ((s.endpoints.get? policy.endpointId).map CanonicalEndpointRecord.projectId
      = some projectId)
    .ownershipConflict
  require (policy.satisfiesChecks = true) (.database .checkViolation)
  set (s.setPolicies (s.policies.insertIfAbsent policy))

def backfillIntentPolicies : NetworkTx Unit := do
  let payload ← fromExcept intent.readPayload
  let policies ← fromExcept payload.policies
  forEach (backfillPolicy intent.projectId) policies

def backfillCanonicalNetworkStateBody : NetworkTx Unit := do
  let s ← get
  forEach backfillIntent s.intents.rows
  forEach backfillNetwork s.legacyNetworks.rows
  forEach backfillSubnet s.subnets.rows
  forEach backfillIntentRealm s.intents.rows
  forEach backfillPort s.ports.rows
  forEach backfillIntentPolicies s.intents.rows

/-!
# Calls of the network repository

One constructor for every repository call that the network service makes.  A
call is atomic, but `delete_canonical_endpoint` makes two statements that never
see each other's failure.  A read alone does not fail.
-/

inductive RepositoryCall
  | listCanonicalNetworks (projectId : String)
  | getCanonicalNetwork (projectId : String) (id : Uuid)
  | listCanonicalRealms (projectId : String) (networkId : Uuid)
  | getCanonicalRealm (projectId : String) (id : Uuid)
  | listCanonicalPools (projectId : String) (realmId : Uuid)
  | listCanonicalEndpoints (projectId : String) (realmId : Uuid)
  | getCanonicalEndpoint (projectId : String) (id : Uuid)
  | listCanonicalPolicies (projectId : String) (networkId : Uuid)
  | listEndpointPolicyAttachments (projectId : String) (endpointId : Uuid)
  | listCanonicalRealmBindings (realmId : Uuid)
  | getCanonicalL3Gateway (projectId : String) (id : Uuid)
  | listCanonicalL3GatewayAttachments (projectId : String) (gatewayId : Uuid)
  | listCanonicalRealmL3GatewayAttachments (projectId : String) (realmId : Uuid)
  | getCanonicalRealmBinding (fabricDomainId : String) (realmId : Uuid)
  | getSubnet (projectId : String) (id : Uuid)
  | getPort (projectId : String) (id : Uuid)
  | getResource (id : Uuid)
  | getOperation (id : Uuid)
  | getCanonicalOperation (id : Uuid)
  | listNonTerminalLifecycleOperations
  | insertCanonicalNetwork (network : CanonicalNetworkRecord)
  | updateCanonicalNetwork
      (projectId : String) (id : Uuid) (expectedGeneration : Nat) (name : String)
      (adminStateUp : Bool)
  | deleteCanonicalNetwork (projectId : String) (id : Uuid)
  | insertNetwork (network : NetworkRecord)
  | deleteNetwork (projectId : String) (id : Uuid)
  | insertCanonicalRealm (realm : CanonicalAddressRealmRecord)
  | beginCanonicalRealmDeletion (projectId : String) (realmId : Uuid) (expectedGeneration : Nat)
  | advanceCanonicalRealmGeneration (projectId : String) (realmId : Uuid) (expectedGeneration : Nat)
  | finalizeCanonicalRealmDeletion (projectId : String) (realmId : Uuid) (expectedGeneration : Nat)
  | deleteCanonicalRealm (projectId : String) (realmId : Uuid)
  | insertCanonicalRealmBinding (binding : CanonicalRealmBindingRecord)
  | deleteCanonicalRealmBinding
      (binding : CanonicalRealmBindingRecord) (expectedRealmGeneration : Nat)
  | insertCanonicalPool (pool : CanonicalAddressPoolRecord)
  | deleteCanonicalPool (projectId : String) (poolId : Uuid)
  | insertSubnetBundle (realm : CanonicalAddressRealmRecord) (pool : CanonicalAddressPoolRecord)
      (subnet : SubnetRecord)
  | updateSubnet (subnet : SubnetRecord)
  | updateSubnetBundle (subnet : SubnetRecord) (poolId : Uuid) (expectedPoolGeneration : Nat)
  | deleteSubnetBundle (projectId : String) (id : Uuid)
  | insertCanonicalEndpoint (endpoint : CanonicalEndpointRecord)
  | insertCanonicalEndpointAndPort (endpoint : CanonicalEndpointRecord) (port : PortRecord)
  | deleteCanonicalEndpoint (projectId : String) (endpointId : Uuid)
  | deleteCanonicalEndpointAndPort (projectId : String) (endpointId : Uuid)
  | updatePortName (projectId : String) (id : Uuid) (name : String)
  | updatePortBinding (projectId : String) (id : Uuid) (bindingHost bindingState : Option String)
  | upsertCanonicalPolicy (policy : CanonicalNetworkPolicyRecord)
  | deleteCanonicalPolicy (projectId : String) (policyId : Uuid)
  | deletePolicyAttachment (projectId : String) (id : Uuid)
  | insertCanonicalL3Gateway (gateway : CanonicalL3GatewayRecord)
  | updateCanonicalL3Gateway
      (projectId : String) (id : Uuid) (expected : Nat) (name : String) (external : Option Uuid)
      (snat : Bool)
  | beginCanonicalL3GatewayDeletion (projectId : String) (id : Uuid) (expected : Nat)
  | finalizeCanonicalL3GatewayDeletion (projectId : String) (id : Uuid) (expected : Nat)
  | insertCanonicalL3GatewayAttachment (attachment : CanonicalL3GatewayAttachmentRecord)
  | beginCanonicalL3GatewayAttachmentDeletion (projectId : String) (id : Uuid) (expected : Nat)
  | finalizeCanonicalL3GatewayAttachmentDeletion (projectId : String) (id : Uuid) (expected : Nat)
  | insertResource (resource : ResourceRecord)
  | updateResource (projection : ResourceProjection)
  | createOrReplayCanonicalScopedOperation
      (operation : OperationRecord) (canonical : CanonicalOperationRecord)
      (request : IdempotencyReservationRequest)
  | updateOperation (id : Uuid) (state : OperationState)
      (providerOperationId errorCategory errorMessage : Option String) (now : String)
  | updateCanonicalOperationLifecycle (id : Uuid) (update : LifecycleUpdate)
  | backfillCanonicalNetworkState

namespace RepositoryCall

@[reducible] def Reply : RepositoryCall → Type
  | listCanonicalNetworks _ => List CanonicalNetworkRecord
  | getCanonicalNetwork _ _ => Option CanonicalNetworkRecord
  | listCanonicalRealms _ _ => List CanonicalAddressRealmRecord
  | getCanonicalRealm _ _ => Option CanonicalAddressRealmRecord
  | listCanonicalPools _ _ => List CanonicalAddressPoolRecord
  | listCanonicalEndpoints _ _ => List CanonicalEndpointRecord
  | getCanonicalEndpoint _ _ => Option CanonicalEndpointRecord
  | listCanonicalPolicies _ _ => List CanonicalNetworkPolicyRecord
  | listEndpointPolicyAttachments _ _ => List CanonicalPolicyAttachmentRecord
  | listCanonicalRealmBindings _ => List CanonicalRealmBindingRecord
  | getCanonicalL3Gateway _ _ => Option CanonicalL3GatewayRecord
  | listCanonicalL3GatewayAttachments _ _ => List CanonicalL3GatewayAttachmentRecord
  | listCanonicalRealmL3GatewayAttachments _ _ => List CanonicalL3GatewayAttachmentRecord
  | getCanonicalRealmBinding _ _ => Option CanonicalRealmBindingRecord
  | getSubnet _ _ => Option SubnetRecord
  | getPort _ _ => Option PortRecord
  | getResource _ => Option ResourceRecord
  | getOperation _ => Except StoreError OperationRecord
  | getCanonicalOperation _ => Except StoreError CanonicalOperationRecord
  | listNonTerminalLifecycleOperations => List OperationRecord
  | updateCanonicalNetwork _ _ _ _ _ => Except StoreError CanonicalNetworkRecord
  | beginCanonicalRealmDeletion _ _ _ => Except StoreError CanonicalAddressRealmRecord
  | advanceCanonicalRealmGeneration _ _ _ => Except StoreError CanonicalAddressRealmRecord
  | updatePortName _ _ _ => Except StoreError PortRecord
  | updatePortBinding _ _ _ _ => Except StoreError PortRecord
  | updateCanonicalL3Gateway _ _ _ _ _ _ => Except StoreError CanonicalL3GatewayRecord
  | beginCanonicalL3GatewayDeletion _ _ _ => Except StoreError CanonicalL3GatewayRecord
  | beginCanonicalL3GatewayAttachmentDeletion _ _ _ =>
    Except StoreError CanonicalL3GatewayAttachmentRecord
  | createOrReplayCanonicalScopedOperation _ _ _ => Except StoreError IdempotencyReservation
  | _ => Except StoreError Unit

end RepositoryCall

/-- A call of the operation journal, on the tables that it sees. -/
def onJournal {α : Type} (f : OperationTables → α × OperationTables) (s : NetworkTables) :
    α × NetworkTables :=
  ((f s.journal).1, s.withJournal (f s.journal).2)

variable (lib : TextLibrary)

/-- `NetworkRepository`, as the SQLite store implements it. -/
def exec : (c : RepositoryCall) → NetworkTables → c.Reply × NetworkTables
  | .listCanonicalNetworks projectId, s => (s.listCanonicalNetworks projectId, s)
  | .getCanonicalNetwork projectId id, s => (s.getCanonicalNetwork projectId id, s)
  | .listCanonicalRealms projectId networkId, s => (s.listCanonicalRealms projectId networkId, s)
  | .getCanonicalRealm projectId id, s => (s.getCanonicalRealm projectId id, s)
  | .listCanonicalPools projectId realmId, s => (s.listCanonicalPools projectId realmId, s)
  | .listCanonicalEndpoints projectId realmId, s => (s.listCanonicalEndpoints projectId realmId, s)
  | .getCanonicalEndpoint projectId id, s => (s.getCanonicalEndpoint projectId id, s)
  | .listCanonicalPolicies projectId networkId, s =>
    (s.listCanonicalPolicies projectId networkId, s)
  | .listEndpointPolicyAttachments projectId endpointId, s =>
    (s.listEndpointPolicyAttachments projectId endpointId, s)
  | .listCanonicalRealmBindings realmId, s => (s.listCanonicalRealmBindings realmId, s)
  | .getCanonicalL3Gateway projectId id, s => (s.getCanonicalL3Gateway projectId id, s)
  | .listCanonicalL3GatewayAttachments projectId gatewayId, s =>
    (s.listCanonicalL3GatewayAttachments projectId gatewayId, s)
  | .listCanonicalRealmL3GatewayAttachments projectId realmId, s =>
    (s.listCanonicalRealmL3GatewayAttachments projectId realmId, s)
  | .getCanonicalRealmBinding fabricDomainId realmId, s =>
    (s.bindings.get? (toLex (fabricDomainId, realmId)), s)
  | .getSubnet projectId id, s => (s.getSubnet projectId id, s)
  | .getPort projectId id, s => (s.getPort projectId id, s)
  | .getResource id, s => (s.resources.get? id, s)
  | .getOperation id, s =>
    (match s.operations.get? id with
      | some operation => .ok operation
      | none => .error .operationNotFound, s)
  | .getCanonicalOperation id, s => (s.journal.getCanonicalOperation lib id, s)
  | .listNonTerminalLifecycleOperations, s => (s.journal.listNonTerminalLifecycleOperations, s)
  | .insertCanonicalNetwork network, s => atomically (insertCanonicalNetworkBody network) s
  | .updateCanonicalNetwork projectId id expected name adminStateUp, s =>
    atomically (updateCanonicalNetworkBody projectId id expected name adminStateUp) s
  | .deleteCanonicalNetwork projectId id, s =>
    atomically (deleteCanonicalNetworkBody projectId id) s
  | .insertNetwork network, s => atomically (insertNetworkBody network) s
  | .deleteNetwork projectId id, s => atomically (deleteNetworkBody projectId id) s
  | .insertCanonicalRealm realm, s => atomically (insertCanonicalRealmBody realm) s
  | .beginCanonicalRealmDeletion projectId realmId expected, s =>
    atomically (beginCanonicalRealmDeletionBody projectId realmId expected) s
  | .advanceCanonicalRealmGeneration projectId realmId expected, s =>
    atomically (advanceCanonicalRealmGenerationBody projectId realmId expected) s
  | .finalizeCanonicalRealmDeletion projectId realmId expected, s =>
    atomically (finalizeCanonicalRealmDeletionBody projectId realmId expected) s
  | .deleteCanonicalRealm projectId realmId, s =>
    atomically (deleteCanonicalRealmBody projectId realmId) s
  | .insertCanonicalRealmBinding binding, s =>
    atomically (insertCanonicalRealmBindingBody binding) s
  | .deleteCanonicalRealmBinding binding expected, s =>
    atomically (deleteCanonicalRealmBindingBody binding expected) s
  | .insertCanonicalPool pool, s => atomically (insertCanonicalPoolBody pool) s
  | .deleteCanonicalPool projectId poolId, s =>
    atomically (deleteCanonicalPoolBody projectId poolId) s
  | .insertSubnetBundle realm pool subnet, s =>
    atomically (insertSubnetBundleBody realm pool subnet) s
  | .updateSubnet subnet, s => atomically (updateSubnetBody subnet) s
  | .updateSubnetBundle subnet poolId expected, s =>
    atomically (updateSubnetBundleBody subnet poolId expected) s
  | .deleteSubnetBundle projectId id, s => atomically (deleteSubnetBundleBody projectId id) s
  | .insertCanonicalEndpoint endpoint, s => atomically (insertCanonicalEndpointBody endpoint) s
  | .insertCanonicalEndpointAndPort endpoint port, s =>
    atomically (insertCanonicalEndpointAndPortBody endpoint port) s
  | .deleteCanonicalEndpoint projectId endpointId, s =>
    deleteCanonicalEndpoint projectId endpointId s
  | .deleteCanonicalEndpointAndPort projectId endpointId, s =>
    atomically (deleteCanonicalEndpointAndPortBody projectId endpointId) s
  | .updatePortName projectId id name, s => atomically (updatePortNameBody projectId id name) s
  | .updatePortBinding projectId id bindingHost bindingState, s =>
    atomically (updatePortBindingBody projectId id bindingHost bindingState) s
  | .upsertCanonicalPolicy policy, s => atomically (upsertCanonicalPolicyBody policy) s
  | .deleteCanonicalPolicy projectId policyId, s =>
    atomically (deleteCanonicalPolicyBody projectId policyId) s
  | .deletePolicyAttachment projectId id, s =>
    atomically (deletePolicyAttachmentBody projectId id) s
  | .insertCanonicalL3Gateway gateway, s => atomically (insertCanonicalL3GatewayBody gateway) s
  | .updateCanonicalL3Gateway projectId id expected name external snat, s =>
    atomically (updateCanonicalL3GatewayBody projectId id expected name external snat) s
  | .beginCanonicalL3GatewayDeletion projectId id expected, s =>
    atomically (beginCanonicalL3GatewayDeletionBody projectId id expected) s
  | .finalizeCanonicalL3GatewayDeletion projectId id expected, s =>
    atomically (finalizeCanonicalL3GatewayDeletionBody projectId id expected) s
  | .insertCanonicalL3GatewayAttachment attachment, s =>
    atomically (insertCanonicalL3GatewayAttachmentBody attachment) s
  | .beginCanonicalL3GatewayAttachmentDeletion projectId id expected, s =>
    atomically (beginCanonicalL3GatewayAttachmentDeletionBody projectId id expected) s
  | .finalizeCanonicalL3GatewayAttachmentDeletion projectId id expected, s =>
    atomically (finalizeCanonicalL3GatewayAttachmentDeletionBody projectId id expected) s
  | .insertResource resource, s => onJournal (atomically (insertResource resource)) s
  | .updateResource projection, s => onJournal (atomically (projectResource projection)) s
  | .createOrReplayCanonicalScopedOperation operation canonical request, s =>
    onJournal ((AcceptanceCall.scopedOperation operation canonical request).exec lib) s
  | .updateOperation id state providerOperationId errorCategory errorMessage now, s =>
    onJournal ((OperationWrite.updateOperation id state providerOperationId errorCategory
      errorMessage now).exec lib.isRfc3339) s
  | .updateCanonicalOperationLifecycle id update, s =>
    onJournal ((OperationWrite.updateCanonicalOperationLifecycle id update).exec lib.isRfc3339) s
  | .backfillCanonicalNetworkState, s => atomically backfillCanonicalNetworkStateBody s

end Network
end O3k
