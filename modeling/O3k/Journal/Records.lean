import O3k.Operations.AgentCommands
import O3k.Operations.Lifecycle

/-!
# What an agent reports

The messages of an authenticated compute agent, the evidence that the journal
remembers of them, and the pure decisions on both: the class of a failure, the
text that is kept of it, and the two fences.
-/

namespace O3k
namespace Journal

open Relational Operations

inductive ServerState
  | requested
  | building
  | active
  | stopping
  | stopped
  | starting
  | rebooting
  | deleting
  | deleted
  | error
  deriving DecidableEq

def serverStateToStorage : ServerState → String
  | .requested => "REQUESTED"
  | .building => "BUILD"
  | .active => "ACTIVE"
  | .stopping => "STOPPING"
  | .stopped => "SHUTOFF"
  | .starting => "STARTING"
  | .rebooting => "REBOOTING"
  | .deleting => "DELETING"
  | .deleted => "DELETED"
  | .error => "ERROR"

inductive InstanceState
  | creating
  | running
  | stopped
  | deleting
  | deleted
  | error
  deriving DecidableEq

/-- `ServerState::from`. -/
def InstanceState.serverState : InstanceState → ServerState
  | .creating => .building
  | .running => .active
  | .stopped => .stopped
  | .deleting => .deleting
  | .deleted => .deleted
  | .error => .error

inductive AgentOperationState
  | accepted
  | running
  | succeeded
  | failed
  | unknownOutcome
  deriving DecidableEq

namespace AgentOperationState

def command : AgentOperationState → AgentCommandState
  | accepted => .accepted
  | running => .running
  | succeeded => .succeeded
  | failed => .failed
  | unknownOutcome => .unknownOutcome

def durable : AgentOperationState → OperationState
  | accepted => .running
  | running => .running
  | succeeded => .succeeded
  | failed => .failed
  | unknownOutcome => .unknownOutcome

end AgentOperationState

inductive AgentErrorCategory
  | invalidRequest
  | unauthenticated
  | unauthorized
  | conflict
  | capacity
  | notFound
  | retryable
  | unknownOutcome
  | terminal
  deriving DecidableEq

structure AgentCommandAccepted where
  commandId : String
  operationId : Uuid
  state : AgentOperationState
  operationSequence : Nat
  agentId : String
  agentEpoch : String
  deriving DecidableEq

structure AgentOperationUpdate where
  operationId : Uuid
  resourceId : Uuid
  state : AgentOperationState
  errorCategory : Option AgentErrorCategory
  redactedMessage : Option String
  operationSequence : Nat
  providerResourceId : Option String
  agentId : String
  agentEpoch : String
  deriving DecidableEq

/-- `AgentObservation`, as far as the journal reads it. -/
structure AgentObservation where
  agentId : String
  agentEpoch : String
  resourceId : Uuid
  providerResourceId : Option String
  state : InstanceState
  operationId : Uuid
  operationState : AgentOperationState
  observationSequence : Nat
  deriving DecidableEq

inductive ReconcileError
  | store (error : StoreError)
  | invalidIntent
  | staleAgentEvidence
  | metering (detail : String)
  deriving DecidableEq

inductive JournalEventKind
  | providerStarted
  | unknownObserved
  | succeeded
  | failed
  deriving DecidableEq

structure JournalEvent where
  operationId : Uuid
  resourceId : Uuid
  kind : JournalEventKind
  deriving DecidableEq

def agentErrorCategory : Option AgentErrorCategory → Except ReconcileError String
  | none => .error .invalidIntent
  | some .invalidRequest => .ok "invalid_request"
  | some .unauthenticated => .ok "unauthenticated"
  | some .unauthorized => .ok "unauthorized"
  | some .conflict => .ok "conflict"
  | some .capacity => .ok "capacity"
  | some .notFound => .ok "not_found"
  | some .retryable => .ok "retryable"
  | some .unknownOutcome => .ok "unknown_outcome"
  | some .terminal => .ok "terminal"

theorem agentErrorCategory_some (category : AgentErrorCategory) :
    ∃ name, agentErrorCategory (some category) = .ok name := by
  cases category <;> exact ⟨_, rfl⟩

def maxAgentFailureMessageLen : Nat := 240

/-- `char::is_control`. -/
def isControl (c : Char) : Bool := c.toNat < 0x20 || (0x7F ≤ c.toNat && c.toNat < 0xA0)

def boundedAgentFailureMessage (raw : String) : String :=
  let trimmed := trim (raw.map (fun c => if isControl c then ' ' else c))
  if trimmed.isEmpty then
    "agent operation failed"
  else
    let bounded := String.ofList (trimmed.toList.take maxAgentFailureMessageLen)
    if trimmed.length > maxAgentFailureMessageLen then bounded ++ "..." else bounded

def validAgentReference (value : String) : Bool :=
  !value.isEmpty && value.utf8ByteSize ≤ 128 &&
    value.toList.all
      (fun c => c.isAlphanum || c = '.' || c = '_' || c = '-' || c = ':')

inductive EvidenceDisposition
  | new
  | duplicate
  | stale
  deriving DecidableEq

structure AgentEvidenceFence where
  agentId : String
  agentEpoch : String
  sequence : Nat
  state : AgentOperationState
  providerResourceId : String
  deriving DecidableEq

structure ObservationEvidenceFence where
  agentId : String
  agentEpoch : String
  sequence : Nat
  deriving DecidableEq

/-- The epochs that are current, by agent. -/
abbrev AgentNodeRegistry := String → Option String

/-- The evidence comes from nobody, from nowhere, or has no number. -/
def anonymous (agentId agentEpoch : String) (sequence : Nat) : Bool :=
  isBlank agentId || isBlank agentEpoch || sequence = 0 ||
    !validAgentReference agentId || !validAgentReference agentEpoch

variable (registry : Option AgentNodeRegistry)

/-- `lease_current_epoch`, where there is a registry. -/
def epochIsCurrent (agentId agentEpoch : String) : Bool :=
  registry.all (fun epochs => epochs agentId = some agentEpoch)

/-- `fence_agent_evidence`: the disposition of the next piece of evidence after
what is remembered. -/
def fenceAgentEvidence (remembered : Option AgentEvidenceFence) (next : AgentEvidenceFence) :
    Except ReconcileError EvidenceDisposition :=
  if anonymous next.agentId next.agentEpoch next.sequence then
    .error .invalidIntent
  else if ¬ epochIsCurrent registry next.agentId next.agentEpoch then
    .error .staleAgentEvidence
  else
    match remembered with
    | none => .ok .new
    | some previous =>
      if previous.agentId ≠ next.agentId then
        .error .invalidIntent
      else if previous.agentEpoch ≠ next.agentEpoch then
        if registry.isNone then .error .invalidIntent else .ok .new
      else if next.sequence < previous.sequence then
        .ok .stale
      else if next.sequence = previous.sequence then
        if previous.state = next.state ∧
            previous.providerResourceId = next.providerResourceId then
          .ok .duplicate
        else
          .error .invalidIntent
      else
        .ok .new

def fenceAgentObservation
    (remembered : Option ObservationEvidenceFence) (next : ObservationEvidenceFence) :
    Except ReconcileError EvidenceDisposition :=
  if anonymous next.agentId next.agentEpoch next.sequence then
    .error .invalidIntent
  else if ¬ epochIsCurrent registry next.agentId next.agentEpoch then
    .error .staleAgentEvidence
  else
    match remembered with
    | none => .ok .new
    | some previous =>
      if previous.agentId ≠ next.agentId then
        .error .invalidIntent
      else if previous.agentEpoch ≠ next.agentEpoch then
        if registry.isNone then .error .invalidIntent else .ok .new
      else if next.sequence < previous.sequence then
        .ok .stale
      else
        .ok .duplicate

end Journal
end O3k
