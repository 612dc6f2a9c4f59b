import O3k.Network.Records
import O3k.Relational.Transaction

/-!
# The network repository: networks, realms, pools and subnets

The calls of the SQLite repository that write these tables, as transaction
bodies, and the reads they share.  The references between the tables are the
foreign keys of the schema: an insert names a row that is there, and a delete
leaves no reference behind.
-/

namespace O3k
namespace Network

open Relational Relational.Transaction Operations

abbrev NetworkTx (α : Type) := Transaction NetworkTables StoreError α

namespace NetworkTables

variable (s : NetworkTables) (projectId : String)

def getCanonicalNetwork (id : Uuid) : Option CanonicalNetworkRecord :=
  (s.networks.get? id).filter (fun n => n.projectId = projectId)

def listCanonicalNetworks : List CanonicalNetworkRecord :=
  s.networks.rows.filter (fun n => n.projectId = projectId)

/-- `get_network`, of the legacy table. -/
def getNetwork (id : Uuid) : Option NetworkRecord :=
  (s.legacyNetworks.get? id).filter (fun n => n.projectId = projectId)

def getCanonicalRealm (id : Uuid) : Option CanonicalAddressRealmRecord :=
  (s.realms.get? id).filter (fun r => r.projectId = projectId)

def listCanonicalRealms (networkId : Uuid) : List CanonicalAddressRealmRecord :=
  s.realms.rows.filter (fun r => r.projectId = projectId ∧ r.networkId = networkId)

def listCanonicalPools (realmId : Uuid) : List CanonicalAddressPoolRecord :=
  s.pools.rows.filter (fun p => p.projectId = projectId ∧ p.realmId = realmId)

def getSubnet (id : Uuid) : Option SubnetRecord :=
  (s.subnets.get? id).filter (fun r => r.projectId = projectId)

end NetworkTables

open NetworkTables

def insertCanonicalNetworkBody (network : CanonicalNetworkRecord) : NetworkTx Unit := do
  fromExcept (checkedGeneration network.generation)
  let s ← get
  let networks ← orFail (s.networks.insert? network) .resourceAlreadyExists
  set (s.setNetworks networks)

variable (projectId : String)

/-- `UPDATE network_networks SET name = ? WHERE id = ? AND project_id = ?`. -/
def renameLegacyNetwork (id : Uuid) (name : String) : NetworkTx Unit := do
  let s ← get
  match s.getNetwork projectId id with
  | none => return
  | some legacy =>
    require (∀ n ∈ s.legacyNetworks.rows, n.projectId = projectId → n.name = name → n.id = id)
      (.database .uniqueViolation)
    set (s.setLegacyNetworks (s.legacyNetworks.put { legacy with name := name }))

def updateCanonicalNetworkBody
    (id : Uuid) (expectedGeneration : Nat) (name : String) (adminStateUp : Bool) :
    NetworkTx CanonicalNetworkRecord := do
  require (¬ isBlank name) .resourceNotFound
  let s ← get
  require (∀ n ∈ s.networks.rows, n.projectId = projectId → n.name = name → n.id = id)
    .resourceAlreadyExists
  fromExcept (checkedGeneration expectedGeneration)
  let current ← orFail (s.getCanonicalNetwork projectId id) .resourceNotFound
  require (current.generation = expectedGeneration ∧ current.state = .active) .staleGeneration
  let row :=
    { current with
      name := name
      adminStateUp := adminStateUp
      generation := current.generation + 1 }
  set (s.setNetworks (s.networks.put row))
  renameLegacyNetwork projectId id name
  return row

def deleteCanonicalNetworkBody (id : Uuid) : NetworkTx Unit := do
  let s ← get
  let _ ← orFail (s.getCanonicalNetwork projectId id) .networkNotFound
  require (∀ r ∈ s.realms.rows, r.networkId ≠ id) .networkInUse
  set (s.setNetworks (s.networks.deleteWhere (fun n => n.id = id)))

/-- `insert_network`, of the legacy table. -/
def insertNetworkBody (network : NetworkRecord) : NetworkTx Unit := do
  let s ← get
  require
    (∀ n ∈ s.legacyNetworks.rows, ¬ (n.projectId = network.projectId ∧ n.name = network.name))
    .resourceAlreadyExists
  let legacyNetworks ← orFail (s.legacyNetworks.insert? network) .resourceAlreadyExists
  set (s.setLegacyNetworks legacyNetworks)

/-- `delete_network`, of the legacy table. -/
def deleteNetworkBody (id : Uuid) : NetworkTx Unit := do
  let s ← get
  let _ ← orFail (s.getNetwork projectId id) .networkNotFound
  require ((∀ r ∈ s.subnets.rows, r.networkId ≠ id) ∧ ∀ p ∈ s.ports.rows, p.networkId ≠ id)
    .networkInUse
  set (s.setLegacyNetworks (s.legacyNetworks.deleteWhere (fun n => n.id = id)))

def insertCanonicalRealmBody (realm : CanonicalAddressRealmRecord) : NetworkTx Unit := do
  fromExcept (checkedGeneration realm.generation)
  let s ← get
  let network ← orFail (s.networks.get? realm.networkId) .networkNotFound
  require (network.projectId = realm.projectId) .ownershipConflict
  let realms ← orFail (s.realms.insert? realm) .resourceAlreadyExists
  set (s.setRealms realms)

/-- Neither an endpoint nor an attachment refers to the realm. -/
def NetworkTables.hasNoDependents (s : NetworkTables) (realmId : Uuid) : Bool :=
  s.endpoints.rows.all (fun e => e.realmId ≠ realmId) &&
    s.attachments.rows.all (fun a => a.realmId ≠ realmId)

def beginCanonicalRealmDeletionBody (realmId : Uuid) (expectedGeneration : Nat) :
    NetworkTx CanonicalAddressRealmRecord := do
  fromExcept (checkedGeneration expectedGeneration)
  let s ← get
  let realm ← orFail (s.getCanonicalRealm projectId realmId) .resourceNotFound
  if realm.generation = expectedGeneration ∧ realm.state = .active
      ∧ s.hasNoDependents realmId = true then
    let row := { realm with state := .deleting, generation := realm.generation + 1 }
    set (s.setRealms (s.realms.put row))
    return row
  else if realm.state = .deleting then
    return realm
  else
    throw .networkInUse

def advanceCanonicalRealmGenerationBody (realmId : Uuid) (expectedGeneration : Nat) :
    NetworkTx CanonicalAddressRealmRecord := do
  fromExcept (checkedGeneration expectedGeneration)
  let s ← get
  let realm ← orFail (s.getCanonicalRealm projectId realmId) .staleGeneration
  require (realm.generation = expectedGeneration ∧ realm.state = .active) .staleGeneration
  let row := { realm with generation := realm.generation + 1 }
  set (s.setRealms (s.realms.put row))
  return row

def deleteRealmRow (realmId : Uuid) : NetworkTx Unit := do
  let s ← get
  require (s.realmInUse realmId = false) (.database .foreignKeyViolation)
  set (s.setRealms (s.realms.deleteWhere (fun r => r.id = realmId)))

/-- No row that the realm's cleanup has to remove is left. -/
def NetworkTables.isCleanedUp (s : NetworkTables) (realmId : Uuid) : Bool :=
  s.pools.rows.all (fun p => p.realmId ≠ realmId) &&
    s.endpoints.rows.all (fun e => e.realmId ≠ realmId) &&
    s.bindings.rows.all (fun b => b.realmId ≠ realmId) &&
    s.attachments.rows.all (fun a => a.realmId ≠ realmId)

def finalizeCanonicalRealmDeletionBody (realmId : Uuid) (expectedGeneration : Nat) :
    NetworkTx Unit := do
  fromExcept (checkedGeneration expectedGeneration)
  let s ← get
  let realm ← orFail (s.getCanonicalRealm projectId realmId) .resourceNotFound
  require (realm.generation = expectedGeneration ∧ realm.state = .deleting
      ∧ s.isCleanedUp realmId = true)
    .networkInUse
  deleteRealmRow realmId

def deleteCanonicalRealmBody (realmId : Uuid) : NetworkTx Unit := do
  let s ← get
  let _ ← orFail (s.getCanonicalRealm projectId realmId) .resourceNotFound
  require ((∀ p ∈ s.pools.rows, p.realmId ≠ realmId) ∧ ∀ e ∈ s.endpoints.rows, e.realmId ≠ realmId)
    .networkInUse
  deleteRealmRow realmId

def insertCanonicalRealmBindingBody (binding : CanonicalRealmBindingRecord) : NetworkTx Unit := do
  let s ← get
  let _ ← orFail (s.realms.get? binding.realmId) .resourceNotFound
  fromExcept (checkedGeneration binding.bindingGeneration)
  fromExcept (checkedGeneration binding.providerSegmentId)
  require (∀ b ∈ s.bindings.rows,
      ¬ (b.fabricDomainId = binding.fabricDomainId
        ∧ b.providerSegmentId = binding.providerSegmentId))
    .resourceAlreadyExists
  let bindings ← orFail (s.bindings.insert? binding) .resourceAlreadyExists
  set (s.setBindings bindings)

def NetworkTables.listCanonicalRealmBindings (s : NetworkTables) (realmId : Uuid) :
    List CanonicalRealmBindingRecord :=
  s.bindings.rows.filter (fun b => b.realmId = realmId)

/-- The state column is not compared. -/
def CanonicalRealmBindingRecord.matchesRow (binding row : CanonicalRealmBindingRecord) : Bool :=
  row.key = binding.key && row.providerKind = binding.providerKind &&
    row.providerSegmentId = binding.providerSegmentId &&
    row.bindingGeneration = binding.bindingGeneration

def deleteCanonicalRealmBindingBody
    (binding : CanonicalRealmBindingRecord) (expectedRealmGeneration : Nat) :
    NetworkTx Unit := do
  fromExcept (checkedGeneration binding.providerSegmentId)
  fromExcept (checkedGeneration binding.bindingGeneration)
  fromExcept (checkedGeneration expectedRealmGeneration)
  let s ← get
  require (s.bindings.rows.any binding.matchesRow = true
      ∧ binding.bindingGeneration < expectedRealmGeneration)
    .staleGeneration
  set (s.setBindings (s.bindings.deleteWhere binding.matchesRow))

def insertCanonicalPoolBody (pool : CanonicalAddressPoolRecord) : NetworkTx Unit := do
  fromExcept (checkedGeneration pool.generation)
  let s ← get
  let realm ← orFail (s.realms.get? pool.realmId) .resourceNotFound
  require (realm.projectId = pool.projectId) .ownershipConflict
  let pools ← orFail (s.pools.insert? pool) .resourceAlreadyExists
  set (s.setPools pools)

def deleteCanonicalPoolBody (poolId : Uuid) : NetworkTx Unit := do
  let s ← get
  require (s.pools.rows.any (fun p => p.id = poolId && p.projectId = projectId) = true)
    .resourceNotFound
  set (s.setPools (s.pools.deleteWhere (fun p => p.id = poolId && p.projectId = projectId)))

def insertSubnetBundleBody (realm : CanonicalAddressRealmRecord) (pool : CanonicalAddressPoolRecord)
    (subnet : SubnetRecord) :
    NetworkTx Unit := do
  let s ← get
  let owner := (s.networks.get? realm.networkId).filter (fun n => n.state = .active)
  require (owner.map CanonicalNetworkRecord.projectId = some realm.projectId
      ∧ realm.projectId = pool.projectId ∧ realm.projectId = subnet.projectId
      ∧ realm.id = subnet.id)
    .ownershipConflict
  require (∀ r ∈ s.realms.rows,
      ¬ (r.networkId = realm.networkId ∧ r.projectId = realm.projectId ∧ r.state = .active))
    .networkInUse
  fromExcept (checkedGeneration realm.generation)
  let realms ← orFail (s.realms.insert? realm) .resourceAlreadyExists
  fromExcept (checkedGeneration pool.generation)
  let pools ← orFail (s.pools.insert? pool) .resourceAlreadyExists
  require ((realms.get? pool.realmId).isSome) (.database .foreignKeyViolation)
  require (∀ r ∈ s.subnets.rows, ¬ (r.networkId = subnet.networkId ∧ r.cidr = subnet.cidr))
    .resourceAlreadyExists
  let subnets ← orFail (s.subnets.insert? subnet) .resourceAlreadyExists
  require ((s.legacyNetworks.get? subnet.networkId).isSome) (.database .foreignKeyViolation)
  set (((s.setRealms realms).setPools pools).setSubnets subnets)

/-- The columns that an `UPDATE network_subnets` writes. -/
def SubnetRecord.edited (row subnet : SubnetRecord) : SubnetRecord :=
  { row with
    name := subnet.name
    gatewayIp := subnet.gatewayIp
    allocationStart := subnet.allocationStart
    allocationEnd := subnet.allocationEnd
    ipVersion := subnet.ipVersion
    enableDhcp := subnet.enableDhcp }

def updateSubnetRow (subnet : SubnetRecord) (onMissing : StoreError) : NetworkTx Unit := do
  let s ← get
  let row ← orFail (s.getSubnet subnet.projectId subnet.id) onMissing
  set (s.setSubnets (s.subnets.put (row.edited subnet)))

def updateSubnetBody (subnet : SubnetRecord) : NetworkTx Unit :=
  updateSubnetRow subnet .networkNotFound

def updateSubnetBundleBody (subnet : SubnetRecord) (poolId : Uuid) (expectedPoolGeneration : Nat) :
    NetworkTx Unit := do
  fromExcept (checkedGeneration expectedPoolGeneration)
  let s ← get
  let pool ← orFail
    ((s.pools.get? poolId).filter
      (fun p => p.projectId = subnet.projectId && p.generation = expectedPoolGeneration
        && p.state = .active))
    .staleGeneration
  let row := { pool with gateway := some subnet.gatewayIp, generation := pool.generation + 1 }
  set (s.setPools (s.pools.put row))
  updateSubnetRow subnet .resourceNotFound

/-- `DELETE FROM network_subnets WHERE id = ? AND project_id = ?`. -/
def deleteSubnetRow (id : Uuid) : NetworkTx Unit := do
  let s ← get
  match s.getSubnet projectId id with
  | none => return
  | some _ =>
    require (∀ p ∈ s.ports.rows, p.subnetId ≠ some id) (.database .foreignKeyViolation)
    set (s.setSubnets (s.subnets.deleteWhere (fun r => r.id = id)))

def deleteSubnetBundleBody (id : Uuid) : NetworkTx Unit := do
  let s ← get
  require (∀ e ∈ s.endpoints.rows, ¬ (e.realmId = id ∧ e.projectId = projectId)) .networkInUse
  match s.getCanonicalRealm projectId id with
  | none => deleteSubnetRow projectId id
  | some _ =>
    let pools := s.pools.deleteWhere (fun p => p.realmId = id && p.projectId = projectId)
    require ((∀ p ∈ pools.rows, p.realmId ≠ id) ∧ (∀ e ∈ s.endpoints.rows, e.realmId ≠ id)
        ∧ ∀ b ∈ s.bindings.rows, b.realmId ≠ id)
      .networkInUse
    set (s.setPools pools)
    deleteRealmRow id
    deleteSubnetRow projectId id

/-!
# The network repository: endpoints, ports and policies

A compatible port is an endpoint with a legacy row, written in one transaction
that looks at the state of the realm; the insert of an endpoint alone looks at
the owner of the realm only.
-/

namespace NetworkTables

variable (s : NetworkTables) (projectId : String)

def getCanonicalEndpoint (id : Uuid) : Option CanonicalEndpointRecord :=
  (s.endpoints.get? id).filter (fun e => e.projectId = projectId)

def listCanonicalEndpoints (realmId : Uuid) : List CanonicalEndpointRecord :=
  s.endpoints.rows.filter (fun e => e.projectId = projectId ∧ e.realmId = realmId)

def getPort (id : Uuid) : Option PortRecord :=
  (s.ports.get? id).filter (fun p => p.projectId = projectId)

/-- The policies of the endpoints in the realms of the network. -/
def listCanonicalPolicies (networkId : Uuid) : List CanonicalNetworkPolicyRecord :=
  s.policies.rows.filter (fun p =>
    p.projectId = projectId &&
      match s.endpoints.get? p.endpointId with
      | none => false
      | some e => (s.getCanonicalRealm projectId e.realmId).any (fun r => r.networkId = networkId))

def listEndpointPolicyAttachments (endpointId : Uuid) : List CanonicalPolicyAttachmentRecord :=
  s.policyAttachments.rows.filter (fun a => a.endpointId = endpointId ∧ a.projectId = projectId)

end NetworkTables

open NetworkTables

/-- The unique columns of `canonical_endpoints` beside the primary key. -/
def NetworkTables.endpointIsNew (s : NetworkTables) (endpoint : CanonicalEndpointRecord) : Bool :=
  s.endpoints.rows.all (fun e =>
    e.mac ≠ endpoint.mac && ¬ (e.realmId = endpoint.realmId ∧ e.fixedIp = endpoint.fixedIp))

variable (endpoint : CanonicalEndpointRecord)

/-- `INSERT INTO canonical_endpoints`, of a realm that is known to exist. -/
def insertEndpointRow : NetworkTx Unit := do
  let s ← get
  require (s.endpointIsNew endpoint = true) .resourceAlreadyExists
  let endpoints ← orFail (s.endpoints.insert? endpoint) .resourceAlreadyExists
  set (s.setEndpoints endpoints)

def insertCanonicalEndpointBody : NetworkTx Unit := do
  fromExcept (checkedGeneration endpoint.generation)
  let s ← get
  let realm ← orFail (s.realms.get? endpoint.realmId) .resourceNotFound
  require (realm.projectId = endpoint.projectId) .ownershipConflict
  insertEndpointRow endpoint

/-- `INSERT INTO network_ports`; a new port has the default binding generation. -/
def insertPortRow (port : PortRecord) : NetworkTx Unit := do
  let s ← get
  require
    (∀ p ∈ s.ports.rows,
      p.macAddress ≠ port.macAddress ∧ ¬ (p.subnetId = port.subnetId ∧ p.fixedIp = port.fixedIp))
    .resourceAlreadyExists
  let ports ← orFail (s.ports.insert? { port with bindingGeneration := 0 }) .resourceAlreadyExists
  require ((s.legacyNetworks.get? port.networkId).isSome
      ∧ ∀ subnetId ∈ port.subnetId, (s.subnets.get? subnetId).isSome)
    (.database .foreignKeyViolation)
  set (s.setPorts ports)

def insertCanonicalEndpointAndPortBody (port : PortRecord) : NetworkTx Unit := do
  fromExcept (checkedGeneration endpoint.generation)
  let subnetId ← orFail port.subnetId .resourceNotFound
  require (endpoint.id = port.id ∧ endpoint.realmId = subnetId
      ∧ endpoint.projectId = port.projectId)
    .ownershipConflict
  let s ← get
  let realm ← orFail ((s.realms.get? endpoint.realmId).filter (fun r => r.state = .active))
    .resourceNotFound
  require (realm.projectId = endpoint.projectId ∧ realm.networkId = port.networkId)
    .ownershipConflict
  insertEndpointRow endpoint
  insertPortRow port

/-- `DELETE FROM canonical_network_policies WHERE endpoint_id = ? AND project_id = ?`. -/
def NetworkTables.withoutPoliciesOf (s : NetworkTables) (projectId : String) (endpointId : Uuid) :
    NetworkTables :=
  s.setPolicies
    (s.policies.deleteWhere (fun p => p.endpointId = endpointId && p.projectId = projectId))

/-- `DELETE FROM canonical_endpoints WHERE id = ? AND project_id = ?`. -/
def deleteEndpointRow (endpointId : Uuid) : NetworkTx Unit := do
  let s ← get
  let _ ← orFail (s.getCanonicalEndpoint projectId endpointId) .resourceNotFound
  require (s.endpointInUse endpointId = false) (.database .foreignKeyViolation)
  set (s.setEndpoints (s.endpoints.deleteWhere (fun e => e.id = endpointId)))

/-- `delete_canonical_endpoint`: the policies are deleted by a statement of its
own, whatever becomes of the endpoint. -/
def deleteCanonicalEndpoint (endpointId : Uuid) (s : NetworkTables) :
    Except StoreError Unit × NetworkTables :=
  atomically (deleteEndpointRow projectId endpointId) (s.withoutPoliciesOf projectId endpointId)

def deleteCanonicalEndpointAndPortBody (endpointId : Uuid) : NetworkTx Unit := do
  modify (fun s => s.withoutPoliciesOf projectId endpointId)
  deleteEndpointRow projectId endpointId
  modify (fun s =>
    s.setPorts (s.ports.deleteWhere (fun p => p.id = endpointId && p.projectId = projectId)))

def updatePortNameBody (id : Uuid) (name : String) : NetworkTx PortRecord := do
  let s ← get
  let port ← orFail (s.getPort projectId id) .networkNotFound
  let row := { port with name := name }
  set (s.setPorts (s.ports.put row))
  return row

def updatePortBindingBody (id : Uuid) (bindingHost bindingState : Option String) :
    NetworkTx PortRecord := do
  let s ← get
  let port ← orFail (s.getPort projectId id) .networkNotFound
  let row :=
    { port with
      bindingHost := bindingHost
      bindingState := bindingState
      bindingGeneration :=
        if port.bindingHost ≠ bindingHost then port.bindingGeneration + 1
        else port.bindingGeneration }
  set (s.setPorts (s.ports.put row))
  return row

def upsertCanonicalPolicyBody (policy : CanonicalNetworkPolicyRecord) : NetworkTx Unit := do
  let s ← get
  let endpoint ← orFail (s.endpoints.get? policy.endpointId) .resourceNotFound
  require (endpoint.projectId = policy.projectId) .ownershipConflict
  fromExcept (checkedGeneration policy.generation)
  require (policy.satisfiesChecks = true) (.database .checkViolation)
  set (s.setPolicies (s.policies.put policy))

def deleteCanonicalPolicyBody (policyId : Uuid) : NetworkTx Unit := do
  let s ← get
  require (s.policies.rows.any (fun p => p.id = policyId && p.projectId = projectId) = true)
    .resourceNotFound
  set (s.setPolicies (s.policies.deleteWhere (fun p => p.id = policyId && p.projectId = projectId)))

/-- `delete_policy_attachment`: the attachment is reserved for deletion and
removed in one go. -/
def deletePolicyAttachmentBody (id : Uuid) : NetworkTx Unit := do
  let s ← get
  let attachment ← orFail
    ((s.policyAttachments.get? id).filter (fun a => a.projectId = projectId)) .resourceNotFound
  require (attachment.state = .active) (.corrupt "policy attachment is not active")
  set (s.setPolicyAttachments (s.policyAttachments.deleteWhere (fun a => a.id = id)))

end Network
end O3k
