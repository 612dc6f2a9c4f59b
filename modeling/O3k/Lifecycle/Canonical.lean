import O3k.Lifecycle.Service

/-!
# Canonical lifecycle requests

`action_for_auth_canonical` and `delete_server_for_auth_canonical`: a request
is accepted under its idempotency key before it is known to apply, and what it
has accepted is then driven, by passes over an action and one pass over a
deletion.
-/

namespace O3k
namespace Lifecycle

open Relational Relational.Transaction Operations Semantics
open Journal (ServerState InstanceState serverStateToStorage)

/-- The library with the digest of fingerprints, `format!("{:x}", Sha256::digest(…))`. -/
structure CanonicalLibrary extends LifecycleLibrary where
  digest : String → String

/-- `CanonicalMutationContext`, of a project scope; `semanticRequest` is the
canonical text of the request. -/
structure CanonicalMutationContext where
  action : ActionId
  actor : String
  ownerScope : String
  requestId : Option String
  idempotencyKey : String
  semanticRequest : String
  createdAt : String
  deriving DecidableEq

/-- A canonical request: who asks, whether the policy allows it, and the clock
of the service. -/
structure CanonicalCall where
  principal : String
  effectiveScope : String
  allowed : Bool
  id : Uuid
  context : CanonicalMutationContext
  now : String

/-- `MutationReceipt<ServerId>`. -/
structure MutationReceipt where
  resource : Uuid
  operationId : Uuid
  operationState : OperationState
  replayed : Bool
  deriving DecidableEq

section Acceptance

variable (lib : CanonicalLibrary)

/-- `IdempotencyReservationRequest::from_semantics`. -/
def fromSemantics (ownerScope action key resourceType target body : String) (operationId : Uuid) :
    Except StoreError IdempotencyReservationRequest := do
  if ownerScope = "" ∨ action = "" ∨ key = "" ∨
      IdempotencyReservationRequest.maxKeyLength < key.utf8ByteSize then
    .error (.corrupt "invalid idempotency identity")
  else
    let actionId ← orCorrupt lib.text "invalid idempotency action" (ActionId.parse lib.text action)
    match splitOnce ':' resourceType with
    | none => .error (.corrupt "invalid idempotency resource type")
    | some (nameSpace, name) =>
      let resourceType ← orCorrupt lib.text "invalid idempotency resource type"
        (ResourceType.new lib.text nameSpace name)
      if actionId.nameSpace ≠ resourceType.nameSpace then
        .error (.corrupt "idempotency action and resource namespaces differ")
      else
        .ok
          { ownerScope := ownerScope
            action := action
            resourceType := resourceType.toText
            key := key
            fingerprint := lib.digest
              (action ++ "\n" ++ resourceType.toText ++ "\n" ++ target ++ "\n" ++ body)
            operationId := operationId }

/-- `CanonicalMutationContext::records`. -/
def CanonicalMutationContext.records
    (context : CanonicalMutationContext) (operation : OperationRecord) (resourceType : ResourceType)
    (target : String) :
    Except ReconcileError (CanonicalOperationRecord × IdempotencyReservationRequest) := do
  if context.action.nameSpace ≠ resourceType.nameSpace then
    .error .invalidIntent
  else
    let resourceId ← (newResourceId operation.resourceId).mapError (fun _ => .invalidIntent)
    let canonical : CanonicalOperationRecord :=
      { id := operation.id
        service := context.action.nameSpace
        action := context.action.asStr
        actor := context.actor
        ownerScope := context.ownerScope
        resourceType := resourceType.toText
        resourceId := some resourceId
        state := operation.state
        attempt := 0
        createdAt := context.createdAt
        startedAt := none
        finishedAt := none
        error := none
        requestId := context.requestId }
    let reservation ← (fromSemantics lib context.ownerScope context.action.asStr
      context.idempotencyKey resourceType.toText target context.semanticRequest
      operation.id).mapError .store
    .ok (canonical, reservation)

/-- What `begin_canonical_lifecycle` asks the store for. -/
def canonicalLifecycleRecords (resourceId operationId : Uuid) (action : LifecycleAction)
    (context : CanonicalMutationContext) :
    Except ReconcileError (CanonicalOperationRecord × IdempotencyReservationRequest) := do
  let resourceType ← (ResourceType.new lib.text "compute" "server").mapError (fun _ => .invalidIntent)
  context.records lib (lifecycleOperation operationId resourceId action) resourceType resourceId

open LifecycleM in
def beginCanonicalLifecycle (resourceId operationId : Uuid) (action : LifecycleAction)
    (context : CanonicalMutationContext) :
    LifecycleM CanonicalAcceptanceOutcome := do
  let records ← given (canonicalLifecycleRecords lib resourceId operationId action context)
  let resource ← orStore (← call (.getResource resourceId))
  orStore (← call (.createOrReplay resource (lifecycleOperation operationId resourceId action)
    records.1 records.2))

end Acceptance

open ComputeM

section Requests

variable (lib : CanonicalLibrary) (maxAttempts : Nat)

def recordRequiredAudit : ComputeM Unit := do
  given (← call .recordRequiredAudit)

variable (request : CanonicalCall)

/-- A request that the policy denies is audited and then answered as if the
server did not exist. -/
def requireAllowed : ComputeM Unit :=
  if request.allowed then
    pure ()
  else do
    recordRequiredAudit
    throw .notFound

/-- The receipt of a request that has been accepted before. -/
def replayReceipt (existing resourceId : Uuid) : ComputeM MutationReceipt := do
  let operation ← orStore (← call (.getOperation existing))
  pure ⟨resourceId, existing, operation.state, true⟩

/-- The receipt of a request that has been accepted now, after its audit. -/
def freshReceipt (id operationId : Uuid) (state : OperationState) : ComputeM MutationReceipt := do
  recordRequiredAudit
  pure ⟨id, operationId, state, false⟩

def InstanceAction.name : InstanceAction → String
  | .start => "StartServer"
  | .stop => "StopServer"
  | .reboot => "RebootServer"

/-- `ActionId::new_unchecked("compute", …)`. -/
def InstanceAction.expected (action : InstanceAction) : ActionId := ⟨"compute", action.name⟩

def InstanceAction.applicable : InstanceAction → ServerState → Bool
  | .start, .stopped => true
  | .stop, .active => true
  | .reboot, .active => true
  | .reboot, .stopped => true
  | _, _ => false

def canonicalActionId
    (resource : ResourceRecord) (id : Uuid) (expected : ActionId) (idempotencyKey : String) :
    Uuid :=
  lib.newV5 s!"o3k:canonical-action:{resource.projectId}:{id}:{expected.asStr}:{idempotencyKey}"

/-- The update of an action that does not apply. -/
def notApplicable (now : String) : LifecycleUpdate where
  state := .failed
  attempt := 1
  startedAt := none
  finishedAt := some now
  publicError := some "action not applicable to current resource state"

/-- An accepted action: its applicability is decided on the row that was read
before it was accepted. -/
def performAccepted
    (action : InstanceAction) (resource : ResourceRecord) (operationId : Uuid) (passes : Nat) :
    ComputeM MutationReceipt := do
  let current ← okOr .conflict (serverStateFromStorage resource.observedState).toOption
  if action.applicable current then do
    let state ←
      reconcileLifecycleUntilTerminal lib.toLifecycleLibrary maxAttempts operationId passes none
    freshReceipt request.id operationId state
  else do
    orStore (← call (.updateCanonicalLifecycle operationId (notApplicable request.now)))
    throw .conflict

def continueAction
    (action : InstanceAction) (resource : ResourceRecord) (operationId : Uuid) (passes : Nat) :
    CanonicalAcceptanceOutcome → ComputeM MutationReceipt
  | .conflict => throw .conflict
  | .existingEquivalent existing resourceId => replayReceipt existing resourceId
  | .created _ _ => performAccepted lib maxAttempts request action resource operationId passes

/-- `map_err` on the acceptance of an action. -/
def actionAcceptanceError : ReconcileError → ComputeError
  | .store .resourceAlreadyExists => .conflict
  | other => .reconcile other

def acceptAction (action : InstanceAction) (passes : Nat) (resource : ResourceRecord) :
    ComputeM MutationReceipt :=
  if resource.projectId ≠ request.effectiveScope ∨ resource.providerId.isNone then
    throw .notFound
  else do
    let operationId :=
      canonicalActionId lib resource request.id action.expected request.context.idempotencyKey
    let accepted ← ExceptT.lift
      (beginCanonicalLifecycle lib request.id operationId action.lifecycle request.context).run
    let outcome ← given (accepted.mapError actionAcceptanceError)
    continueAction lib maxAttempts request action resource operationId passes outcome

def actionForAuthCanonical (action : InstanceAction) (passes : Nat) : ComputeM MutationReceipt :=
  if request.context.action ≠ action.expected ∨ request.context.actor ≠ request.principal ∨
      request.context.ownerScope ≠ request.effectiveScope then
    throw .invalidRequest
  else do
    requireAllowed request
    let resource ← orMissing .resourceNotFound .notFound (← call (.getResource request.id))
    acceptAction lib maxAttempts request action passes resource

def canonicalDeleteId (resource : ResourceRecord) (id : Uuid) (idempotencyKey : String) : Uuid :=
  lib.newV5 s!"o3k:canonical-delete:{resource.projectId}:{id}:{idempotencyKey}"

def continueDelete (operationId : Uuid) (passes : Nat) :
    CanonicalAcceptanceOutcome → ComputeM MutationReceipt
  | .conflict => throw .conflict
  | .existingEquivalent existing resourceId => replayReceipt existing resourceId
  | .created _ _ => do
    let state ← deleteServerWithAcceptedOperation lib.toLifecycleLibrary maxAttempts
      request.effectiveScope request.id (some operationId) passes
    freshReceipt request.id operationId state

def acceptDelete (passes : Nat) (resource : ResourceRecord) : ComputeM MutationReceipt :=
  if resource.projectId ≠ request.effectiveScope then
    throw .notFound
  else do
    let operationId := canonicalDeleteId lib resource request.id request.context.idempotencyKey
    let accepted ← ExceptT.lift
      (beginCanonicalLifecycle lib request.id operationId .delete request.context).run
    let outcome ← given (accepted.mapError .reconcile)
    continueDelete lib maxAttempts request operationId passes outcome

def deleteServerForAuthCanonical (passes : Nat) : ComputeM MutationReceipt :=
  if request.context.action.asStr ≠ "compute:DeleteServer" then
    throw .invalidRequest
  else if request.context.actor ≠ request.principal ∨
      request.context.ownerScope ≠ request.effectiveScope then
    throw .unauthorized
  else do
    requireAllowed request
    let resource ← orMissing .resourceNotFound .notFound (← call (.getResource request.id))
    acceptDelete lib maxAttempts request passes resource

end Requests

end Lifecycle
end O3k
