import O3k.Lifecycle.Records
import O3k.Semantics.Crowd

/-!
# Reconciling a lifecycle operation

`reconcile_lifecycle_once` and what it calls, as programs: a call is one
statement or transaction of the store, or one request to the provider.  What
the provider answers is up to it; the commands that it has been sent, and those
that it has executed, are kept as history.
-/

namespace O3k
namespace Lifecycle

open Relational Relational.Transaction Operations Semantics
open Journal (ServerState InstanceState serverStateToStorage)

structure Dispatch where
  operationId : Uuid
  action : LifecycleAction
  providerInstanceId : String
  idempotencyKey : String
  deriving DecidableEq

structure LifecycleWorld where
  tables : OperationTables
  /-- `operation_retry_state`. -/
  retries : Uuid → Nat
  dispatches : List Dispatch
  executed : List Dispatch

inductive CleanupStep
  | releasePlacementAllocation
  | detachServerKeypair
  | unbindPortsFromIntent
  | releaseServerEndpointsFromIntent
  | projectTerminalBindingOutcome
  | releaseReservation
  deriving DecidableEq

inductive ComputeError
  | notFound
  | conflict
  | invalidRequest
  | unauthorized
  | store (error : StoreError)
  | reconcile (error : ReconcileError)
  | scheduler (detail : String)
  | metering (detail : String)
  | endpointRelease (detail : String)
  | unavailable
  deriving DecidableEq

inductive LifecycleCall
  | getOperation (id : Uuid)
  | getResource (id : Uuid)
  | listNonTerminal
  | insertOperation (row : OperationRecord)
  | createOrReplay (seen : ResourceRecord) (operation : OperationRecord)
      (canonical : CanonicalOperationRecord) (request : IdempotencyReservationRequest)
  | updateOperation (id : Uuid) (state : OperationState)
      (providerOperationId errorCategory errorMessage : Option String)
  | updateCanonicalLifecycle (id : Uuid) (update : LifecycleUpdate)
  | terminalize (terminalization : LifecycleTerminalization)
  | incrementRetry (id : Uuid)
  | dispatch (d : Dispatch)
  | getInstance (providerId : String)
  /-- `get_instance` before the provider is asked for its operation. -/
  | probeInstance (providerId : String)
  /-- `get_instance` while the outcome of the operation is unknown. -/
  | observeInstance (operationId : Uuid) (providerId : String)
  | getProviderOperation (id : Uuid)
  | projectMetering (resourceId : Uuid) (observedState : String)
  | acquireWorkLease (operationId : Uuid)
  | releaseWorkLease (operationId : Uuid)
  | cleanup (step : CleanupStep)
  | showServer (id : Uuid)
  | recordRequiredAudit

abbrev LifecycleReply : LifecycleCall → Type
  | .getOperation _ => Except StoreError OperationRecord
  | .getResource _ => Except StoreError ResourceRecord
  | .listNonTerminal => Except StoreError (List OperationRecord)
  | .insertOperation _ => Except StoreError Unit
  | .createOrReplay _ _ _ _ => Except StoreError CanonicalAcceptanceOutcome
  | .updateOperation _ _ _ _ _ => Except StoreError Unit
  | .updateCanonicalLifecycle _ _ => Except StoreError Unit
  | .terminalize _ => Except StoreError Unit
  | .incrementRetry _ => Except StoreError Nat
  | .dispatch _ => Except ProviderError ProviderOperation
  | .getInstance _ => Except ProviderError InstanceState
  | .probeInstance _ => Except ProviderError InstanceState
  | .observeInstance _ _ => Except ProviderError InstanceState
  | .getProviderOperation _ => Except ProviderError ProviderOperation
  | .projectMetering _ _ => Except String Unit
  | .acquireWorkLease _ => Bool
  | .releaseWorkLease _ => Unit
  | .cleanup _ => Except ComputeError Unit
  | .showServer _ => Except ComputeError Unit
  | .recordRequiredAudit => Except ComputeError Unit

/-- What the environment decides about a call.  A statement that is reported as
failed may have been committed all the same. -/
structure LifecycleAnswer where
  failure : Option (SqlError × Bool)
  operation : Except ProviderError ProviderOperation
  observed : Except ProviderError InstanceState
  /-- The provider executes the command before it answers. -/
  executes : Bool
  metering : Except String Unit
  leased : Bool
  served : Except ComputeError Unit
  /-- The clock of the store. -/
  now : String

namespace LifecycleAnswer

variable (x : LifecycleAnswer)

def read {α : Type} (result : Except StoreError α) : Except StoreError α :=
  match x.failure with
  | some (e, _) => .error (.database e)
  | none => result

/-- The outcome of a transaction, from the world `w`. -/
def settle {α : Type} (w : LifecycleWorld) (result : Except StoreError α × OperationTables) :
    Except StoreError α × LifecycleWorld :=
  match x.failure with
  | none => (result.1, { w with tables := result.2 })
  | some (e, true) => (.error (.database e), { w with tables := result.2 })
  | some (e, false) => (.error (.database e), w)

end LifecycleAnswer

section Code

variable (lib : LifecycleLibrary)

/-- `increment_operation_retry`; the count is a `u8` for its reader. -/
def incrementRetry (id : Uuid) (w : LifecycleWorld) : Except StoreError Nat × LifecycleWorld :=
  let attempts := w.retries id + 1
  (if attempts < 256 then .ok attempts else .error (.corrupt "operation retry count exceeds limit"),
    { w with
      retries := Function.update w.retries id attempts
      tables := w.tables.modifyMetadata id (fun row => { row with attempt := attempts }) })

def LifecycleWorld.dispatched (w : LifecycleWorld) (d : Dispatch) (executes : Bool) :
    LifecycleWorld :=
  { w with
    dispatches := d :: w.dispatches
    executed := if executes then d :: w.executed else w.executed }

/-- The write of a call, with the clock of the store. -/
def execWrite (x : LifecycleAnswer) (w : LifecycleWorld) (write : OperationWrite) :
    Except StoreError Unit × LifecycleWorld :=
  x.settle w (write.exec lib.text.isRfc3339 w.tables)

def execLifecycle : (c : LifecycleCall) → LifecycleAnswer → LifecycleWorld →
    LifecycleReply c × LifecycleWorld
  | .getOperation id, x, w =>
    (x.read ((w.tables.operations.get? id).elim (.error .operationNotFound) .ok), w)
  | .getResource id, x, w =>
    (x.read ((w.tables.resources.get? id).elim (.error .resourceNotFound) .ok), w)
  | .listNonTerminal, x, w =>
    (x.read (.ok (w.tables.operations.rows.filter
      (fun row => "lifecycle:".toList.isPrefixOf row.kind.toList && !row.state.isTerminal))), w)
  | .insertOperation row, x, w =>
    x.settle w (atomically (insertOperation row .resourceAlreadyExists) w.tables)
  | .createOrReplay seen operation canonical request, x, w =>
    match validateCanonicalResourceAcceptance lib.text seen operation canonical request with
    | .error e => (.error e, w)
    | .ok () =>
      x.settle w (atomically
        (createOrReplayCanonicalLifecycleOperationBody lib.text operation canonical request)
        w.tables)
  | .updateOperation id state providerOperationId errorCategory errorMessage, x, w =>
    execWrite lib x w
      (.updateOperation id state providerOperationId errorCategory errorMessage x.now)
  | .updateCanonicalLifecycle id update, x, w =>
    execWrite lib x w (.updateCanonicalOperationLifecycle id update)
  | .terminalize terminalization, x, w =>
    execWrite lib x w (.terminalizeLifecycle terminalization x.now)
  | .incrementRetry id, x, w =>
    match x.failure with
    | none => incrementRetry id w
    | some (e, true) => (.error (.database e), (incrementRetry id w).2)
    | some (e, false) => (.error (.database e), w)
  | .dispatch d, x, w => (x.operation, w.dispatched d x.executes)
  | .getInstance _, x, w => (x.observed, w)
  | .probeInstance _, x, w => (x.observed, w)
  | .observeInstance _ _, x, w => (x.observed, w)
  | .getProviderOperation _, x, w => (x.operation, w)
  | .projectMetering _ _, x, w => (x.metering, w)
  | .acquireWorkLease _, x, w => (x.leased, w)
  | .releaseWorkLease _, _, w => ((), w)
  | .cleanup _, x, w => (x.served, w)
  | .showServer _, x, w => (x.served, w)
  | .recordRequiredAudit, x, w => (x.served, w)

abbrev LifecycleM (α : Type) : Type :=
  ExceptT ReconcileError (Program LifecycleCall LifecycleReply) α

namespace LifecycleM

def call (c : LifecycleCall) : LifecycleM (LifecycleReply c) := ExceptT.lift (Program.perform c)

/-- `?` on a result of the store. -/
def orStore {α : Type} : Except StoreError α → LifecycleM α
  | .ok a => pure a
  | .error e => throw (.store e)

/-- `?` on a result of the provider. -/
def orProvider {α : Type} : Except ProviderError α → LifecycleM α
  | .ok a => pure a
  | .error e => throw (.provider e)

/-- `ok_or(ReconcileError::InvalidIntent)?`. -/
def orInvalid {α : Type} : Option α → LifecycleM α
  | some a => pure a
  | none => throw .invalidIntent

def orMetering : Except String Unit → LifecycleM Unit
  | .ok () => pure ()
  | .error e => throw (.metering e)

/-- `?`. -/
def given {α : Type} (x : Except ReconcileError α) : LifecycleM α := ExceptT.mk (pure x)

/-- `Ok(_) | Err(StoreError::ResourceAlreadyExists) => {}`. -/
def tolerateExisting : Except StoreError Unit → LifecycleM Unit
  | .ok () => pure ()
  | .error e => if e = .resourceAlreadyExists then pure () else throw (.store e)

end LifecycleM

open LifecycleM

def updateOperation (id : Uuid) (state : OperationState)
    (providerOperationId errorCategory errorMessage : Option String) :
    LifecycleM OperationState := do
  orStore (← call (.updateOperation id state providerOperationId errorCategory errorMessage))
  pure state

def finishedState (action : LifecycleAction) (providerId : String) : LifecycleM String :=
  if action = .delete then
    pure (serverStateToStorage .deleted)
  else do
    let state ← orProvider (← call (.getInstance providerId))
    pure (serverStateToStorage state.serverState)

def finishLifecycle (operationId : Uuid) (resource : ResourceRecord) (action : LifecycleAction)
    (providerOperationId providerId : String) :
    LifecycleM OperationState := do
  let observedState ← finishedState action providerId
  orMetering (← call (.projectMetering resource.id observedState))
  orStore (← call (.terminalize
    { operationId := operationId
      terminalState := .succeeded
      providerOperationId := some providerOperationId
      errorCategory := none
      errorMessage := none
      resource :=
        { resourceId := resource.id
          expectedGeneration := resource.generation
          desiredState := resource.desiredState
          observedState := observedState
          observedGeneration := resource.generation
          providerId := some providerId } }))
  pure .succeeded

section Attempts

variable (maxAttempts : Nat) (operationId : Uuid)

def retryOrFail (error : ProviderError) : LifecycleM OperationState := do
  let attempts ← orStore (← call (.incrementRetry operationId))
  if maxAttempts ≤ attempts then
    updateOperation operationId .unknownOutcome none (some "retry_exhausted") (some error.text)
  else
    updateOperation operationId .retryable none (some "retryable") none

variable (operation : OperationRecord)

/-- What the provider says about a command that it has accepted or executed. -/
def handleProviderOperation (resource : ResourceRecord) (action : LifecycleAction)
    (providerId : String) (answer : ProviderOperation) :
    LifecycleM OperationState :=
  match answer.state with
  | .succeeded => finishLifecycle operation.id resource action answer.providerOperationId providerId
  | .accepted | .running =>
    if action = .delete ∧
        answer.o3kOperationId = deleteRedriveOperationId lib operation.id then
      updateOperation operation.id .unknownOutcome (some answer.providerOperationId)
        (some "unknown_outcome") none
    else
      updateOperation operation.id .running (some answer.providerOperationId) none none
  | .unknownOutcome =>
    updateOperation operation.id .unknownOutcome (some answer.providerOperationId)
      (some "unknown_outcome") none
  | .retryable => retryOrFail maxAttempts operation.id .retryable
  | .failed =>
    updateOperation operation.id .failed (some answer.providerOperationId) (some "terminal")
      (some "provider operation failed")

/-- The provider has refused the command for good. -/
def failLifecycle (error : ProviderError) : LifecycleM OperationState :=
  updateOperation operationId .failed none
    (some (providerErrorCategoryName error.category)) (some error.text)

def handleLifecycleResult (resource : ResourceRecord) (action : LifecycleAction)
    (providerId : String) (result : Except ProviderError ProviderOperation) :
    LifecycleM OperationState :=
  match result with
  | .ok answer => do
    given (validateLifecycleProviderOperationOwner lib operation.id action answer)
    handleProviderOperation lib maxAttempts operation resource action providerId answer
  | .error (.unknownOutcome operationId) =>
    updateOperation operation.id .unknownOutcome (some operationId) (some "unknown_outcome") none
  | .error .retryable => retryOrFail maxAttempts operation.id .retryable
  | .error .staleState => retryOrFail maxAttempts operation.id .staleState
  | .error e =>
    if e = .notFound ∧ action = .delete then
      finishLifecycle operation.id resource action
        (operation.providerOperationId.getD operation.id) providerId
    else
      failLifecycle operation.id e

/-- The command that redrives the deletion. -/
def redriveDispatch (providerId : String) : Dispatch where
  operationId := deleteRedriveOperationId lib operationId
  action := .delete
  providerInstanceId := providerId
  idempotencyKey := s!"o3k-operation-{operationId}-redrive"

def redriveDelete (resource : ResourceRecord) (providerId : String) :
    LifecycleM OperationState := do
  tolerateExisting (← call (.insertOperation
    (lifecycleOperation (deleteRedriveOperationId lib operation.id) operation.resourceId .delete)))
  let result ← call (.dispatch (redriveDispatch lib operation.id providerId))
  handleLifecycleResult lib maxAttempts operation resource .delete providerId result

/-- An operation of unknown outcome whose instance may have converged. -/
def observeConverged (resource : ResourceRecord) (action : LifecycleAction)
    (providerOperationId providerId : String) (presence : Except ProviderError InstanceState) :
    LifecycleM OperationState :=
  match presence with
  | .ok state =>
    if action.convergedAt state then
      finishLifecycle operation.id resource action providerOperationId providerId
    else
      pure .unknownOutcome
  | .error _ => pure .unknownOutcome

def observeProviderOperation (resource : ResourceRecord) (action : LifecycleAction)
    (providerOperationId providerId : String) (presence : Except ProviderError InstanceState)
    (answer : ProviderOperation) :
    LifecycleM OperationState :=
  match answer.state with
  | .succeeded => finishLifecycle operation.id resource action providerOperationId providerId
  | .unknownOutcome =>
    if action ≠ .delete then do
      let state ← orProvider (← call (.observeInstance operation.id providerId))
      observeConverged operation resource action providerOperationId providerId (.ok state)
    else if presence.isOk then
      redriveDelete lib maxAttempts operation resource providerId
    else
      pure .unknownOutcome
  | .retryable => retryOrFail maxAttempts operation.id .retryable
  | .accepted | .running =>
    if action = .delete ∧ presence.isOk then
      redriveDelete lib maxAttempts operation resource providerId
    else
      updateOperation operation.id .running (some providerOperationId) none none
  | .failed =>
    updateOperation operation.id .failed (some providerOperationId) (some "terminal")
      (some "provider operation failed")

def observeLifecycle
    (resource : ResourceRecord) (action : LifecycleAction) (providerOperationId : String) :
    LifecycleM OperationState := do
  let providerId ← orInvalid resource.providerId
  let presence ← call (.probeInstance providerId)
  if action = .delete ∧ presence = .error .notFound then
    finishLifecycle operation.id resource action providerOperationId providerId
  else do
    let id ← orInvalid (lib.parseUuid providerOperationId)
    let answer ← orProvider (← call (.getProviderOperation id))
    given (validateLifecycleProviderOperationOwner lib operation.id action answer)
    observeProviderOperation lib maxAttempts operation resource action providerOperationId
      providerId presence answer

def observeDeletePresence (resource : ResourceRecord) (providerId : String)
    (presence : Except ProviderError InstanceState) :
    LifecycleM OperationState :=
  match presence with
  | .error .notFound => finishLifecycle operation.id resource .delete operation.id providerId
  | .ok _ => redriveDelete lib maxAttempts operation resource providerId
  | .error _ => pure .unknownOutcome

def observeLifecyclePresence (resource : ResourceRecord) (action : LifecycleAction) :
    LifecycleM OperationState := do
  let providerId ← orInvalid resource.providerId
  let presence ← call (.observeInstance operation.id providerId)
  if action = .delete then
    observeDeletePresence lib maxAttempts operation resource providerId presence
  else
    observeConverged operation resource action operation.id providerId presence

/-- The command of an operation. -/
def lifecycleDispatch (action : LifecycleAction) (providerId : String) :
    Dispatch where
  operationId := operationId
  action := action
  providerInstanceId := providerId
  idempotencyKey := s!"o3k-operation-{operationId}"

def dispatchLifecycle (resource : ResourceRecord) (action : LifecycleAction) :
    LifecycleM OperationState := do
  let providerId ← orInvalid resource.providerId
  let _ ← updateOperation operation.id .running operation.providerOperationId none none
  let result ← call (.dispatch (lifecycleDispatch operation.id action providerId))
  handleLifecycleResult lib maxAttempts operation resource action providerId result

def advanceLifecycle (resource : ResourceRecord) (action : LifecycleAction) :
    LifecycleM OperationState :=
  if operation.state = .unknownOutcome then
    match operation.providerOperationId with
    | none => observeLifecyclePresence lib maxAttempts operation resource action
    | some providerOperationId =>
      observeLifecycle lib maxAttempts operation resource action providerOperationId
  else
    dispatchLifecycle lib maxAttempts operation resource action

def reconcileOperation : LifecycleM OperationState :=
  if operation.state.isTerminal then
    pure operation.state
  else do
    let action ← orInvalid (LifecycleAction.parse operation.kind)
    let resource ← orStore (← call (.getResource operation.resourceId))
    advanceLifecycle lib maxAttempts operation resource action

def reconcileLifecycleOnce : LifecycleM OperationState := do
  let operation ← orStore (← call (.getOperation operationId))
  reconcileOperation lib maxAttempts operation

end Attempts

end Code

end Lifecycle
end O3k
