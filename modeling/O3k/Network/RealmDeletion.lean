import O3k.Network.Compatibility

/-!
# The network service: deleting a realm, and opening the service

A realm is deleted under an operation whose id is derived from the project and
the realm, so that every retry joins the same operation.  What an interrupted
deletion leaves behind is taken up when the service is opened.
-/

namespace O3k
namespace Network

open Relational Semantics Operations Service

/-- `IdempotencyReservationRequest::from_semantics`; `body` is the canonical
JSON text. -/
def requestFromSemantics
    (lib : NetworkLibrary) (ownerScope action key resourceType : String) (target : Option String)
    (body : String) (operationId : Uuid) :
    Except StoreError IdempotencyReservationRequest := do
  if ownerScope.isEmpty ∨ action.isEmpty ∨ key.isEmpty
      ∨ IdempotencyReservationRequest.maxKeyLength < key.utf8ByteSize then
    .error (.corrupt "invalid idempotency identity")
  else
    let actionId ←
      orCorrupt lib.toTextLibrary "invalid idempotency action"
        (ActionId.parse lib.toTextLibrary action)
    match splitOnce ':' resourceType with
    | none => .error (.corrupt "invalid idempotency resource type")
    | some (nameSpace, name) =>
      let resourceType ←
        orCorrupt lib.toTextLibrary "invalid idempotency resource type"
          (ResourceType.new lib.toTextLibrary nameSpace name)
      if actionId.nameSpace ≠ resourceType.nameSpace then
        .error (.corrupt "idempotency action and resource namespaces differ")
      else
        .ok
          { ownerScope := ownerScope
            action := action
            resourceType := resourceType.toText
            key := key
            fingerprint := lib.sha256
              (action ++ "\n" ++ resourceType.toText ++ "\n" ++ target.getD "" ++ "\n" ++ body)
            operationId := operationId }

def realmDeleteId (lib : NetworkLibrary) (projectId : String) (realmId : Uuid) : Uuid :=
  lib.urlId ("o3k:network:realm-delete:" ++ projectId ++ ":" ++ realmId)

structure RealmDeletion where
  operation : OperationRecord
  canonical : CanonicalOperationRecord
  request : IdempotencyReservationRequest

/-- `realm_delete_operation`; `createdAt` is the reading of the clock. -/
def realmDeleteOperation
    (lib : NetworkLibrary) (projectId : String) (realmId : Uuid) (createdAt : String) :
    Except NetworkError RealmDeletion := do
  let action ←
    (ActionId.new lib.toTextLibrary "network" "DeleteRealm").mapError
      (fun _ => NetworkError.invalidRequest)
  let resourceType ←
    (ResourceType.new lib.toTextLibrary "network" "address_realm").mapError
      (fun _ => NetworkError.invalidRequest)
  let operationId := realmDeleteId lib projectId realmId
  let canonical : CanonicalOperationRecord :=
    { id := operationId
      service := "network"
      action := action.asStr
      actor := "o3k:network-service"
      ownerScope := projectId
      resourceType := resourceType.toText
      resourceId := some realmId
      state := .pending
      attempt := 0
      createdAt := createdAt
      startedAt := none
      finishedAt := none
      error := none
      requestId := none }
  let operation : OperationRecord :=
    { id := operationId
      resourceId := realmId
      kind := "lifecycle:realm-delete"
      state := .pending
      providerOperationId := none
      errorCategory := none
      errorMessage := none }
  let request ←
    (requestFromSemantics lib projectId action.asStr ("canonical:realm-delete:" ++ realmId)
      resourceType.toText (some realmId) ("\x7b\"realm_id\":\"" ++ realmId ++ "\"\x7d")
      operationId).mapError mapStoreError
  return ⟨operation, canonical, request⟩

/-- `CanonicalOperationLifecycleUpdate::new`. -/
def newLifecycleUpdate (lib : NetworkLibrary) (update : LifecycleUpdate) :
    Service LifecycleUpdate := do
  mapped (validateCanonicalLifecycleUpdate lib.isRfc3339 update)
  return update

/-- `attempt.saturating_add(1)`, of a `u32`. -/
def nextAttempt (attempt : Nat) : Nat := min (attempt + 1) (2 ^ 32 - 1)

/-- `i64::try_from(generation)`. -/
def generationAsInt (generation : Nat) : Service Int := do
  ensure (generation ≤ integerMax) .invalidRequest
  return generation

/-- The projection of a realm's state into the generic index. -/
def projectRealm
    (realmId : Uuid) (expectedGeneration : Int) (state : String) (observedGeneration : Int) :
    Service (Except StoreError Unit) :=
  call (.updateResource
    { resourceId := realmId
      expectedGeneration := expectedGeneration
      desiredState := state
      observedState := state
      observedGeneration := observedGeneration
      providerId := none })

def writeLifecycle (lib : NetworkLibrary) (operationId : Uuid) (update : LifecycleUpdate) :
    Service Unit := do
  let update ← newLifecycleUpdate lib update
  mapped (← call (.updateCanonicalOperationLifecycle operationId update))

inductive RealmCleanupProgress
  | deleting (operationId : Uuid) (generation : Nat)
  | awaitingObservation (operationId : Uuid) (generation : Nat)
  | removed (operationId : Uuid)
  deriving DecidableEq

/-- The readings of the clock: one for the operation, one for its rejection. -/
structure DeletionClock where
  createdAt : String
  rejectedAt : String

variable (lib : NetworkLibrary) (projectId : String)

/-- `begin_canonical_realm_deletion`, whose rejection is written to the
operation. -/
def reserveRealm
    (realm : CanonicalAddressRealmRecord) (operationId : Uuid) (clock : DeletionClock) :
    Service CanonicalAddressRealmRecord := do
  match ← call (.beginCanonicalRealmDeletion projectId realm.id realm.generation) with
  | .ok deleting => return deleting
  | .error error =>
    let state : OperationState := if error = .networkInUse then .retryable else .failed
    let _ ← call (.updateOperation operationId state none (some "rejected")
      (some (lib.displayStore error)) clock.rejectedAt)
    throw (mapStoreError error)

/-- A realm of a compatible subnet has no row in the generic index. -/
def projectDeletingRealm (realm deleting : CanonicalAddressRealmRecord) : Service Unit := do
  let resource ← call (.getResource realm.id)
  if resource.isSome then
    let expected ← generationAsInt realm.generation
    let observed ← generationAsInt deleting.generation
    mapped (← projectRealm realm.id expected "deleting" observed)

def beginCanonicalRealmDeletionForProject (realmId : Uuid) (clock : DeletionClock) :
    Service RealmCleanupProgress := do
  let realm ← okOr .notFound (← call (.getCanonicalRealm projectId realmId))
  let attachments ← call (.listCanonicalRealmL3GatewayAttachments projectId realmId)
  ensure (∀ a ∈ attachments, a.isLive = false) .conflict
  let deletion ← ExceptT.mk (pure (realmDeleteOperation lib projectId realmId clock.createdAt))
  let accepted ← mapped
    (← call (.createOrReplayCanonicalScopedOperation deletion.operation deletion.canonical
      deletion.request))
  match accepted with
  | .conflict => throw .conflict
  | .created operationId | .existingEquivalent operationId =>
    if realm.state = .deleting then
      return .awaitingObservation operationId realm.generation
    else if realm.state ≠ .active then
      let _ ← call (.updateOperation operationId .failed none (some "invalid_state")
        (some "Realm is not deletable in its current lifecycle state") clock.rejectedAt)
      throw .conflict
    else
      let deleting ← reserveRealm lib projectId realm operationId clock
      projectDeletingRealm realm deleting
      writeLifecycle lib operationId
        { state := .running
          attempt := 1
          startedAt := some deletion.canonical.createdAt
          finishedAt := none
          publicError := none }
      return .deleting operationId deleting.generation

inductive RealmCleanupObservation
  | absent (binding : CanonicalRealmBindingRecord)
  | present (binding : CanonicalRealmBindingRecord)
  | unknown (binding : CanonicalRealmBindingRecord) (reason : String)
  deriving DecidableEq

def RealmCleanupObservation.binding : RealmCleanupObservation → CanonicalRealmBindingRecord
  | absent binding => binding
  | present binding => binding
  | unknown binding _ => binding

/-- The first binding that is not known to be gone, with the state and the
error that the operation gets from it. -/
def firstUnfinished (realmId : Uuid) (observations : List RealmCleanupObservation) :
    List CanonicalRealmBindingRecord →
    Except NetworkError (Option (OperationState × String))
  | [] => .ok none
  | binding :: bindings =>
    match observations.filter (fun o => binding = o.binding && binding.realmId = realmId) with
    | [.unknown _ reason] => .ok (some (.unknownOutcome, reason))
    | [.present _] => .ok (some (.retryable, "owned provider Realm state is still present"))
    | [.absent _] => firstUnfinished realmId observations bindings
    | _ => .error .conflict

/-- The last write of a deletion. -/
def finishRealmDeletion (operationId : Uuid) (canonical : CanonicalOperationRecord) :
    Service Unit :=
  writeLifecycle lib operationId
    { state := .succeeded
      attempt := nextAttempt canonical.attempt
      startedAt := canonical.startedAt
      finishedAt := some (canonical.startedAt.getD canonical.createdAt)
      publicError := none }

/-- The bindings, the pools and the realm itself. -/
def removeRealm
    (realm : CanonicalAddressRealmRecord) (bindings : List CanonicalRealmBindingRecord) :
    Service Unit := do
  forEach
    (fun binding => do
      mapped (← call (.deleteCanonicalRealmBinding binding realm.generation)))
    bindings
  let pools ← call (.listCanonicalPools projectId realm.id)
  forEach
    (fun pool => do
      mapped (← call (.deleteCanonicalPool projectId pool.id)))
    pools
  mapped (← call (.finalizeCanonicalRealmDeletion projectId realm.id realm.generation))

def observeCanonicalRealmCleanupForProject
    (realmId : Uuid) (observations : List RealmCleanupObservation) (clock : DeletionClock) :
    Service RealmCleanupProgress := do
  let realm ← okOr .notFound (← call (.getCanonicalRealm projectId realmId))
  ensure (realm.state = .deleting) .conflict
  let deletion ← ExceptT.mk (pure (realmDeleteOperation lib projectId realmId clock.createdAt))
  let operation := deletion.operation
  let stored ← mapped (← call (.getOperation operation.id))
  let canonical ← mapped (← call (.getCanonicalOperation operation.id))
  ensure (stored.resourceId = realmId ∧ canonical.ownerScope = projectId
    ∧ canonical.resourceId = some realmId) .invalidRequest
  let bindings ← call (.listCanonicalRealmBindings realmId)
  ensure (observations.length = bindings.length) .conflict
  match ← ExceptT.mk (pure (firstUnfinished realmId observations bindings)) with
  | some (state, error) =>
    writeLifecycle lib operation.id
      { state := state
        attempt := nextAttempt canonical.attempt
        startedAt := canonical.startedAt
        finishedAt := none
        publicError := some error }
    return .awaitingObservation operation.id realm.generation
  | none =>
    removeRealm projectId realm bindings
    let generation ← generationAsInt realm.generation
    let _ ← projectRealm realmId generation "deleted" generation
    finishRealmDeletion lib operation.id canonical
    return .removed operation.id

/-- `delete_canonical_realm_for_project`: a realm with bindings is left to the
observation of its provider. -/
def deleteCanonicalRealmForProject (realmId : Uuid) (clock : DeletionClock) : Service Unit := do
  let _ ← beginCanonicalRealmDeletionForProject lib projectId realmId clock
  let bindings ← call (.listCanonicalRealmBindings realmId)
  ensure (bindings = []) .conflict
  match ← observeCanonicalRealmCleanupForProject lib projectId realmId [] clock with
  | .removed _ => pure ()
  | _ => throw .conflict

/-- The recovery of an operation whose realm is still active. -/
def resumeRealmDeletion (operation : OperationRecord) (canonical : CanonicalOperationRecord)
    (realm : CanonicalAddressRealmRecord) :
    Service Unit := do
  match ← call (.beginCanonicalRealmDeletion canonical.ownerScope realm.id realm.generation) with
  | .error .networkInUse =>
    writeLifecycle lib operation.id
      { state := .retryable
        attempt := nextAttempt canonical.attempt
        startedAt := canonical.startedAt
        finishedAt := none
        publicError := some "realm still has canonical dependents" }
  | .error error => throw (mapStoreError error)
  | .ok deleting =>
    let expected ← generationAsInt realm.generation
    let observed ← generationAsInt deleting.generation
    mapped (← projectRealm realm.id expected "deleting" observed)
    writeLifecycle lib operation.id
      { state := .running
        attempt := nextAttempt canonical.attempt
        startedAt := some (canonical.startedAt.getD canonical.createdAt)
        finishedAt := none
        publicError := none }

def recoverRealmDeletion (operation : OperationRecord) : Service Unit := do
  if operation.kind = "lifecycle:realm-delete" then
    let canonical ← mapped (← call (.getCanonicalOperation operation.id))
    let realmId ← okOr .invalidRequest canonical.resourceId
    match ← call (.getCanonicalRealm canonical.ownerScope realmId) with
    | none => finishRealmDeletion lib operation.id canonical
    | some realm =>
      if realm.state = .active then
        resumeRealmDeletion lib operation canonical realm

def recoverRealmDeletionOperations : Service Unit := do
  let operations ← call .listNonTerminalLifecycleOperations
  forEach (recoverRealmDeletion lib) operations

/-- `NetworkService::open`, where no `metadata.json` of an earlier version is
left to import. -/
def openService : Service Unit := do
  mapped (← call .backfillCanonicalNetworkState)
  recoverRealmDeletionOperations lib

end Network
end O3k

/-!
# The network service as a whole

Every call of the service that changes the network tables, as one type of
requests.
-/

namespace O3k
namespace Network

open Relational Semantics Operations Service

inductive ServiceCall
  | openService
  | createCanonicalNetwork (projectId name : String) (freshId : Uuid)
  | deleteCanonicalNetwork (projectId : String) (id : Uuid) (release : Except StoreError Unit)
  | createCanonicalRealm
      (projectId : String) (networkId : Uuid) (prefixText : String) (overlappingPrefixes : Bool)
      (freshId : Uuid)
  | advanceFabricRealmGeneration (projectId : String) (networkId : Uuid)
  | ensureVxlanRealmBinding (fabricDomainId : Uuid) (realm : CanonicalAddressRealmRecord)
  | createCanonicalPool
      (projectId : String) (realmId : Uuid) (prefixText : String) (gateway : Option Ipv4Addr)
      (firstUsable lastUsable : Ipv4Addr) (freshId : Uuid)
  | deleteCanonicalPool (projectId : String) (poolId : Uuid)
  | createCanonicalEndpoint
      (projectId : String) (realmId : Uuid) (fixedIp : Ipv4Addr) (mac : String) (freshId : Uuid)
  | deleteEndpoint (projectId : String) (endpointId : Uuid)
  | createL3Gateway
      (id : Uuid) (projectId name : String) (externalRealmId : Option Uuid) (enableSnat : Bool)
  | attachL3GatewayRealm (id : Uuid) (projectId : String) (gatewayId realmId : Uuid)
  | updateL3Gateway
      (projectId : String) (gatewayId : Uuid) (expectedGeneration : Nat) (name : String)
      (externalRealmId : Option Uuid) (enableSnat : Bool)
  | deleteL3Gateway (projectId : String) (gatewayId : Uuid) (expectedGeneration : Nat)
  | finalizeL3GatewayDeletion (projectId : String) (gatewayId : Uuid) (expectedGeneration : Nat)
  | detachL3GatewayRealm (projectId : String) (attachmentId : Uuid) (expectedGeneration : Nat)
  | finalizeL3GatewayRealmDetachment
      (projectId : String) (attachmentId : Uuid) (expectedGeneration : Nat)
  | createNetwork (projectId : String) (id : Uuid) (name : String) (quota : Except StoreError Unit)
  | updateNetwork
      (projectId : String) (id : Uuid) (name : Option String) (adminStateUp : Option Bool)
  | deleteNetwork (projectId : String) (id : Uuid)
  | createSubnet (request : SubnetRequest) (quota : Except StoreError Unit) (freshId : Uuid)
  | updateSubnet
      (projectId : String) (id : Uuid) (name : Option String) (gatewayIp : Option Ipv4Addr)
      (enableDhcp : Option Bool)
  | deleteSubnet (projectId : String) (id : Uuid)
  | createPort (request : PortRequest) (draws : PortDraws)
  | updatePortName (projectId : String) (id : Uuid) (name : String)
  | deletePort (projectId : String) (id : Uuid)
  | recordBindingIntent (projectId : String) (portId : Uuid) (host : String)
  | recordFabricBindingIntent (projectId : String) (portId : Uuid) (host : String)
  | projectBindingObservation (projectId : String) (portId : Uuid) (host state : String)
  | projectCreateOutcome (projectId : String) (portId : Uuid) (state : String)
  | unbindPort (projectId : String) (portId : Uuid)
  | upsertPolicy (projectId : String) (networkId : Uuid) (policy : PolicyIntent)
  | deletePolicy
      (projectId : String) (networkId policyId : Uuid) (derived : Except NetworkError (List Uuid))
  | beginRealmDeletion (projectId : String) (realmId : Uuid) (clock : DeletionClock)
  | observeRealmCleanup
      (projectId : String) (realmId : Uuid) (observations : List RealmCleanupObservation)
      (clock : DeletionClock)
  | deleteCanonicalRealm (projectId : String) (realmId : Uuid) (clock : DeletionClock)

/-- The program of a request; of the answer only success and the error stay. -/
def ServiceCall.service (lib : NetworkLibrary) : ServiceCall → Service Unit
  | openService => Network.openService lib
  | createCanonicalNetwork projectId name freshId =>
    createCanonicalNetworkForProject projectId name freshId
  | deleteCanonicalNetwork projectId id release =>
    deleteCanonicalNetworkForProject projectId id release
  | createCanonicalRealm projectId networkId prefixText overlappingPrefixes freshId =>
    createCanonicalRealmForProject projectId networkId prefixText overlappingPrefixes freshId
  | advanceFabricRealmGeneration projectId networkId =>
    Network.advanceFabricRealmGeneration projectId networkId
  | ensureVxlanRealmBinding fabricDomainId realm => do
    let _ ← Network.ensureVxlanRealmBinding lib fabricDomainId realm
  | createCanonicalPool projectId realmId prefixText gateway firstUsable lastUsable freshId =>
    createCanonicalPoolForProject projectId realmId prefixText gateway firstUsable lastUsable
      freshId
  | deleteCanonicalPool projectId poolId => Network.deleteCanonicalPool projectId poolId
  | createCanonicalEndpoint projectId realmId fixedIp mac freshId =>
    createCanonicalEndpointForProject projectId realmId fixedIp mac freshId
  | deleteEndpoint projectId endpointId => Network.deleteEndpoint projectId endpointId
  | createL3Gateway id projectId name externalRealmId enableSnat =>
    createL3GatewayForProjectWithId id projectId name externalRealmId enableSnat
  | attachL3GatewayRealm id projectId gatewayId realmId =>
    attachL3GatewayRealmWithId id projectId gatewayId realmId
  | updateL3Gateway projectId gatewayId expected name externalRealmId enableSnat =>
    updateL3GatewayForProject projectId gatewayId expected name externalRealmId enableSnat
  | deleteL3Gateway projectId gatewayId expected =>
    deleteL3GatewayForProject projectId gatewayId expected
  | finalizeL3GatewayDeletion projectId gatewayId expected =>
    finalizeL3GatewayDeletionForProject projectId gatewayId expected
  | detachL3GatewayRealm projectId attachmentId expected =>
    Network.detachL3GatewayRealm projectId attachmentId expected
  | finalizeL3GatewayRealmDetachment projectId attachmentId expected =>
    finalizeL3GatewayRealmDetachmentForProject projectId attachmentId expected
  | createNetwork projectId id name quota => createNetworkForProjectWithId projectId id name quota
  | updateNetwork projectId id name adminStateUp =>
    Network.updateNetwork projectId id name adminStateUp
  | deleteNetwork projectId id => deleteNetworkForProject projectId id
  | createSubnet request quota freshId => createSubnetForProjectWithId request quota freshId
  | updateSubnet projectId id name gatewayIp enableDhcp =>
    updateSubnetForProject projectId id name gatewayIp enableDhcp
  | deleteSubnet projectId id => deleteSubnetForProject projectId id
  | createPort request draws => createPortForProject lib request draws
  | updatePortName projectId id name => updatePortNameForProject projectId id name
  | deletePort projectId id => deletePortForProject projectId id
  | recordBindingIntent projectId portId host => Network.recordBindingIntent projectId portId host
  | recordFabricBindingIntent projectId portId host =>
    Network.recordFabricBindingIntent projectId portId host
  | projectBindingObservation projectId portId host state =>
    Network.projectBindingObservation projectId portId host state
  | projectCreateOutcome projectId portId state =>
    Network.projectCreateOutcome projectId portId state
  | unbindPort projectId portId => Network.unbindPort projectId portId
  | upsertPolicy projectId networkId policy => upsertPolicyForProject projectId networkId policy
  | deletePolicy projectId networkId policyId derived =>
    deletePolicyForProject projectId networkId policyId derived
  | beginRealmDeletion projectId realmId clock => do
    let _ ← beginCanonicalRealmDeletionForProject lib projectId realmId clock
  | observeRealmCleanup projectId realmId observations clock => do
    let _ ← observeCanonicalRealmCleanupForProject lib projectId realmId observations clock
  | deleteCanonicalRealm projectId realmId clock =>
    deleteCanonicalRealmForProject lib projectId realmId clock

def ServiceCall.program (lib : NetworkLibrary) (c : ServiceCall) :
    Program RepositoryCall RepositoryCall.Reply (Except NetworkError Unit) :=
  (c.service lib).run

namespace Service

/-- Whatever the replies are, the service makes repository calls in `K` only. -/
def Calls {α : Type} (K : RepositoryCall → Prop) (p : Service α) : Prop := Program.Calls K p.run

section Rules

variable {α β : Type} {K : RepositoryCall → Prop}

theorem calls_pure (a : α) : Calls K (pure a : Service α) := trivial

theorem calls_call {c : RepositoryCall} (h : K c) : Calls K (call c) :=
  ⟨h, fun _ => trivial⟩

theorem calls_mapped (x : Except StoreError α) : Calls K (mapped x) := trivial

theorem calls_okOr (e : NetworkError) (x : Option α) : Calls K (okOr e x) := trivial

theorem calls_ensure (p : Prop) [Decidable p] (e : NetworkError) : Calls K (ensure p e) := trivial

theorem calls_bind {p : Service α} {f : α → Service β} (hp : Calls K p) (hf : ∀ a, Calls K (f a)) :
    Calls K (p >>= f) := by
  refine Program.Calls.bind (p := p.run) hp ?_
  intro x
  cases x with
  | error e => trivial
  | ok a => exact hf a

end Rules

end Service

end Network
end O3k
