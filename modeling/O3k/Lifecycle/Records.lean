import O3k.Compute.Intents
import O3k.Journal.Records

/-!
# Lifecycle operations and the provider

The actions of a lifecycle, their kinds in the table of operations, the
identities that are derived for them, and what the provider of instances
answers.
-/

namespace O3k
namespace Lifecycle

open Relational Operations
open Journal (ServerState InstanceState serverStateToStorage)

inductive LifecycleAction
  | start
  | stop
  | reboot
  | delete
  deriving DecidableEq

namespace LifecycleAction

def kind : LifecycleAction → String
  | start => "lifecycle:start"
  | stop => "lifecycle:stop"
  | reboot => "lifecycle:reboot"
  | delete => "lifecycle:delete"

def parse (kind : String) : Option LifecycleAction :=
  if kind = "lifecycle:start" then some start
  else if kind = "lifecycle:stop" then some stop
  else if kind = "lifecycle:reboot" then some reboot
  else if kind = "lifecycle:delete" then some delete
  else none

@[simp] theorem parse_kind (action : LifecycleAction) : parse action.kind = some action := by
  cases action <;> decide

end LifecycleAction

inductive InstanceAction
  | start
  | stop
  | reboot
  deriving DecidableEq

def InstanceAction.lifecycle : InstanceAction → LifecycleAction
  | start => .start
  | stop => .stop
  | reboot => .reboot

/-- `o3k_provider::OperationState`. -/
inductive ProviderOperationState
  | accepted
  | running
  | succeeded
  | retryable
  | unknownOutcome
  | failed
  deriving DecidableEq

/-- `o3k_provider::Operation`, as far as a lifecycle reads it. -/
structure ProviderOperation where
  providerOperationId : Uuid
  o3kOperationId : Uuid
  state : ProviderOperationState
  deriving DecidableEq

inductive ProviderError
  | invalidRequest
  | notFound
  | conflict
  | capacity
  | retryable
  | unknownOutcome (operationId : Uuid)
  | terminal
  | staleState
  | storage
  | unsupportedBlockDevice (connector : String)
  deriving DecidableEq

inductive ErrorCategory
  | invalidRequest
  | notFound
  | conflict
  | capacity
  | retryable
  | unknownOutcome
  | terminal
  deriving DecidableEq

namespace ProviderError

def category : ProviderError → ErrorCategory
  | invalidRequest => .invalidRequest
  | notFound => .notFound
  | conflict => .conflict
  | capacity => .capacity
  | retryable => .retryable
  | unknownOutcome _ => .unknownOutcome
  | terminal | staleState | storage => .terminal
  | unsupportedBlockDevice _ => .invalidRequest

/-- `to_string`. -/
def text : ProviderError → String
  | invalidRequest => "provider rejected the request"
  | notFound => "provider resource was not found"
  | conflict => "provider operation conflicts with existing state"
  | capacity => "provider capacity is unavailable"
  | retryable => "provider returned a retryable failure"
  | unknownOutcome operationId => s!"provider outcome is unknown; observe operation {operationId}"
  | terminal => "provider returned a terminal failure"
  | staleState => "provider state is unavailable"
  | storage => "provider fake storage is unavailable"
  | unsupportedBlockDevice _ =>
    "provider does not support block-device attachment for this connector"

end ProviderError

def providerErrorCategoryName : ErrorCategory → String
  | .invalidRequest => "invalid_request"
  | .notFound => "not_found"
  | .conflict => "conflict"
  | .capacity => "capacity"
  | .retryable => "retryable"
  | .unknownOutcome => "unknown_outcome"
  | .terminal => "terminal"

/-- `o3k_reconciler::ReconcileError`, as far as a lifecycle returns it. -/
inductive ReconcileError
  | store (error : StoreError)
  | provider (error : ProviderError)
  | invalidIntent
  | metering (detail : String)
  deriving DecidableEq

def serverStateFromStorage (value : String) : Except StoreError ServerState :=
  match value.map Char.toUpper with
  | "REQUESTED" => .ok .requested
  | "BUILD" | "CREATING" => .ok .building
  | "ACTIVE" | "RUNNING" => .ok .active
  | "STOPPING" => .ok .stopping
  | "SHUTOFF" | "STOPPED" => .ok .stopped
  | "STARTING" => .ok .starting
  | "REBOOTING" => .ok .rebooting
  | "DELETING" => .ok .deleting
  | "DELETED" => .ok .deleted
  | "ERROR" => .ok .error
  | _ => .error (.corrupt s!"unknown server state `{value}`")

/-- The instance is in the state that the action leads to. -/
def LifecycleAction.convergedAt : LifecycleAction → InstanceState → Bool
  | .start, state => state = .running
  | .reboot, state => state = .running
  | .stop, state => state = .stopped
  | .delete, _ => false

/-- The libraries: the codec of create intents with `Uuid::new_v5`, the
functions on texts, and `Uuid::parse_str`. -/
structure LifecycleLibrary extends Compute.IntentCodec where
  text : TextLibrary
  parseUuid : String → Option Uuid

section Identities

variable (lib : LifecycleLibrary)

def deleteRedriveOperationId (operationId : Uuid) : Uuid :=
  lib.newV5 s!"o3k:lifecycle-delete-redrive:{operationId}"

/-- The identity of an action: it names the state that the action leads to. -/
def actionOperationId (projectId : String) (id : Uuid) (target : ServerState) (generation : Int) :
    Uuid :=
  lib.newV5 s!"o3k:action:{projectId}:{id}:{serverStateToStorage target}:{generation}"

def deleteOperationId (projectId : String) (id : Uuid) (generation : Int) : Uuid :=
  lib.newV5 s!"o3k:delete:{projectId}:{id}:{generation}"

def validateLifecycleProviderOperationOwner
    (operationId : Uuid) (action : LifecycleAction) (operation : ProviderOperation) :
    Except ReconcileError Unit :=
  if operation.o3kOperationId = operationId then
    .ok ()
  else if action = .delete ∧
      operation.o3kOperationId = deleteRedriveOperationId lib operationId then
    .ok ()
  else
    .error .invalidIntent

end Identities

/-- A lifecycle row as it is inserted. -/
def lifecycleOperation (operationId resourceId : Uuid) (action : LifecycleAction) :
    OperationRecord :=
  { id := operationId
    resourceId := resourceId
    kind := action.kind
    state := .pending
    providerOperationId := none
    errorCategory := none
    errorMessage := none }

end Lifecycle
end O3k
