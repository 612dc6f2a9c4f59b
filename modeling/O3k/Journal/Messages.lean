import O3k.Journal.Calls

/-!
# What the journal does with a message

`apply_agent_acceptance`, `apply_agent_update` and `apply_agent_observation` as
programs over the calls of the journal.
-/

namespace O3k
namespace Journal

open Relational Semantics Operations

abbrev JournalM (α : Type) := ExceptT ReconcileError (Program JournalCall JournalCall.Reply) α

namespace JournalM

def call (c : JournalCall) : JournalM c.Reply := ExceptT.lift (Program.perform c)

/-- `?` on the result of a call to the store. -/
def stored {α : Type} (x : Except StoreError α) : JournalM α :=
  ExceptT.mk (pure (x.mapError .store))

/-- `?` on a result of the journal itself. -/
def given {α : Type} (x : Except ReconcileError α) : JournalM α := ExceptT.mk (pure x)

/-- `.map_err(|_| ReconcileError::InvalidIntent)?`. -/
def intended {α : Type} (x : Except StoreError α) : JournalM α :=
  ExceptT.mk (pure (x.mapError (fun _ => .invalidIntent)))

/-- Return with `InvalidIntent` unless the condition holds. -/
def ensure (p : Prop) [Decidable p] : JournalM Unit :=
  ExceptT.mk (pure (if p then .ok () else .error .invalidIntent))

end JournalM

open JournalM

/-- `LifecycleAction::Delete.kind()`. -/
def deleteKind : String := "lifecycle:delete"

/-- The observation of a resource in a state; there may be no observer, which
is as one that succeeds. -/
def projectMetering (resource : ResourceRecord) (observedState : String) : JournalM Unit := do
  given (← call (.observeResourceState resource.kind resource.projectId resource.id observedState))

def projectMeteringBestEffort (resource : ResourceRecord) (observedState : String) :
    JournalM Unit := do
  let _ ← call
    (.observeResourceState resource.kind resource.projectId resource.id observedState)
  return ()

def computeInstanceStateConsuming (observedState : String) : Option Bool :=
  let state := (trim observedState).toUpper
  if state ∈ ["ACTIVE", "STARTING", "STOPPING", "REBOOTING"] then
    some true
  else if state ∈ ["REQUESTED", "BUILD", "SHUTOFF", "DELETING", "DELETED", "ERROR"] then
    some false
  else
    none

def repairMeteringFromDurableState (resourceId : Uuid) : JournalM Unit := do
  match ← call (.getResource resourceId) with
  | .error _ => return ()
  | .ok resource =>
    if computeInstanceStateConsuming resource.observedState = some true then
      projectMeteringBestEffort resource resource.observedState
    else
      return ()

/-- The reference of the resource at the compute agent, attached where it is
missing. -/
def ensureReference (resourceId : Uuid) : Option String → JournalM Unit
  | none => return ()
  | some providerResourceId => do
    match ← call (.getProviderReference resourceId "compute-agent") with
    | .ok existing =>
      if existing.providerResourceId = providerResourceId then
        return ()
      else
        throw (.store .providerReferenceAlreadyExists)
    | .error .providerReferenceNotFound =>
      stored (← call (.attachProviderReference ⟨resourceId, "compute-agent", providerResourceId⟩))
    | .error error => throw (.store error)

def applyAgentAcceptance (accepted : AgentCommandAccepted) : JournalM OperationState := do
  let operation ← stored (← call (.getOperation accepted.operationId))
  let command ← intended (← call (.getAgentCommand accepted.commandId))
  ensure (command.operationId = accepted.operationId ∧ command.agentId = accepted.agentId)
  ensure (accepted.state = .accepted ∨ accepted.state = .running)
  ensure (¬ (operation.state = .unknownOutcome ∨ command.state = .unknownOutcome))
  let disposition ← given (← call (.fenceAgentEvidence accepted.operationId
    ⟨accepted.agentId, accepted.agentEpoch, accepted.operationSequence, accepted.state, ""⟩))
  if disposition = .stale ∨ operation.state.isTerminal then
    return operation.state
  else do
    let _ ← stored (← call (.updateAgentCommand
      ⟨command.commandId, .accepted, accepted.operationSequence, accepted.operationSequence,
        command.providerOperationId, command.providerResourceId⟩))
    stored (← call (.updateOperation accepted.operationId .running
      operation.providerOperationId operation.errorCategory operation.errorMessage))
    if disposition = .new then
      call (.event ⟨accepted.operationId, operation.resourceId, .providerStarted⟩)
    return .running

/-- The stored reference under the name, if any, is the incoming one. -/
def checkReference (resourceId : Uuid) (incoming providerName : String) : JournalM Unit := do
  match ← call (.getProviderReference resourceId providerName) with
  | .ok reference => ensure (reference.providerResourceId = incoming)
  | .error .providerReferenceNotFound => return ()
  | .error error => throw (.store error)

def validateAgentProviderIdentity (command : AgentCommandRecord) (update : AgentOperationUpdate) :
    JournalM Unit :=
  match update.providerResourceId with
  | none => return ()
  | some incoming => do
    ensure (¬ identityConflicts command.providerResourceId (some incoming))
    let resource ← stored (← call (.getResource update.resourceId))
    ensure (¬ identityConflicts resource.providerId (some incoming))
    checkReference update.resourceId incoming "compute-agent"
    checkReference update.resourceId incoming "agent"

variable (update : AgentOperationUpdate)

/-- The category of a failure; any other state has none. -/
def failureCategory : Except ReconcileError (Option String) :=
  if update.state.durable = .failed then
    (agentErrorCategory update.errorCategory).map some
  else
    .ok none

def failureMessage : Option String :=
  if update.state.durable = .failed then
    some (boundedAgentFailureMessage (update.redactedMessage.getD ""))
  else
    none

variable (operation : OperationRecord)

def failedCreateResource (update : AgentOperationUpdate) : JournalM (Option ResourceRecord) :=
  if update.state.durable = .failed ∧ operation.kind = "create" then do
    let resource ← stored (← call (.getResource update.resourceId))
    projectMetering resource (serverStateToStorage .error)
    return some resource
  else
    return none

/-- A delete that has succeeded: the operation and the resource in one
transaction. -/
def finishDelete (update : AgentOperationUpdate) : JournalM Unit := do
  let resource ← stored (← call (.getResource update.resourceId))
  let providerId := update.providerResourceId.or resource.providerId
  ensureReference update.resourceId providerId
  stored (← call (.terminalizeLifecycle
    { operationId := update.operationId
      terminalState := .succeeded
      providerOperationId := operation.providerOperationId
      errorCategory := none
      errorMessage := none
      resource :=
        { resourceId := update.resourceId
          expectedGeneration := resource.generation
          desiredState := resource.desiredState
          observedState := serverStateToStorage .deleted
          observedGeneration := resource.generation
          providerId := providerId } }))

/-- `ERROR` on the resource of a create that has failed. -/
def projectFailedCreate : Option ResourceRecord → JournalM Unit
  | none => return ()
  | some resource => do
    stored (← call (.updateResource
      { resourceId := update.resourceId
        expectedGeneration := resource.generation
        desiredState := resource.desiredState
        observedState := serverStateToStorage .error
        observedGeneration := resource.generation
        providerId := resource.providerId }))

def projectProviderIdentity : JournalM Unit :=
  if update.state.durable = .succeeded then do
    let resource ← stored (← call (.getResource update.resourceId))
    let providerId := update.providerResourceId.or resource.providerId
    ensureReference update.resourceId providerId
    stored (← call (.updateResource
      { resourceId := update.resourceId
        expectedGeneration := resource.generation
        desiredState := resource.desiredState
        observedState := resource.observedState
        observedGeneration := resource.generation
        providerId := providerId }))
  else
    return ()

/-- Anything else: the operation, and after it the resource. -/
def finishUpdate (update : AgentOperationUpdate) (errorCategory : Option String)
    (failedCreate : Option ResourceRecord) :
    JournalM Unit := do
  stored (← call (.updateOperation update.operationId update.state.durable
    operation.providerOperationId errorCategory (failureMessage update)))
  projectFailedCreate update failedCreate
  projectProviderIdentity update

def updateEventKind : OperationState → JournalEventKind
  | .succeeded => .succeeded
  | .failed => .failed
  | .unknownOutcome => .unknownObserved
  | _ => .providerStarted

/-- The rest of an update, once its command row is written and its operation
is open. -/
def projectOutcome (update : AgentOperationUpdate) (errorCategory : Option String) :
    JournalM Unit := do
  let failedCreate ← failedCreateResource operation update
  if update.state.durable = .succeeded ∧ operation.kind = deleteKind then
    finishDelete operation update
  else
    finishUpdate operation update errorCategory failedCreate

def applyAgentUpdate : JournalM OperationState := do
  let operation ← stored (← call (.getOperation update.operationId))
  ensure (operation.resourceId = update.resourceId)
  let command ← intended (← call (.getAgentCommandByOperation update.operationId))
  ensure (command.agentId = update.agentId ∧ command.resourceId = update.resourceId)
  ensure (¬ (operation.state = .unknownOutcome ∧ update.state.durable = .running ∨
    command.state = .unknownOutcome ∧ update.state.command.isInFlight))
  let errorCategory ← given (failureCategory update)
  ensure (¬ (operation.state.isTerminal ∧ operation.state ≠ update.state.durable))
  validateAgentProviderIdentity command update
  let disposition ← given (← call (.fenceAgentEvidence update.operationId
    ⟨update.agentId, update.agentEpoch, update.operationSequence, update.state,
      update.providerResourceId.getD ""⟩))
  if disposition = .stale then
    return operation.state
  else do
    let _ ← stored (← call (.updateAgentCommand
      ⟨command.commandId, update.state.command, command.acceptedSequence,
        update.operationSequence, command.providerOperationId, update.providerResourceId⟩))
    if operation.state.isTerminal then
      return operation.state
    else do
      projectOutcome operation update errorCategory
      if disposition = .new then
        call (.event ⟨update.operationId, update.resourceId, updateEventKind update.state.durable⟩)
      return update.state.durable

def promoteOperation (observation : AgentObservation) : JournalM Unit :=
  if operation.state.isTerminal then
    return ()
  else do
    stored (← call (.updateOperation observation.operationId .succeeded
      operation.providerOperationId none none))

def projectObservation (observation : AgentObservation) : JournalM Unit := do
  let resource ← stored (← call (.getResource observation.resourceId))
  let providerId := observation.providerResourceId.or resource.providerId
  ensureReference observation.resourceId providerId
  let updated ← stored (← call (.updateResourceFromObservation
    { projection :=
        { resourceId := observation.resourceId
          expectedGeneration := resource.generation
          desiredState := resource.desiredState
          observedState := serverStateToStorage observation.state.serverState
          observedGeneration := resource.generation
          providerId := providerId }
      agentEpoch := observation.agentEpoch
      observationSequence := observation.observationSequence }))
  projectMeteringBestEffort updated updated.observedState
  promoteOperation operation observation
  if updated.generation ≠ resource.generation then
    call (.event ⟨observation.operationId, observation.resourceId, .unknownObserved⟩)

def applyAgentObservation (observation : AgentObservation) : JournalM Unit := do
  let operation ← stored (← call (.getOperation observation.operationId))
  ensure (operation.resourceId = observation.resourceId)
  let command ← intended (← call (.getAgentCommandByOperation observation.operationId))
  ensure (command.agentId = observation.agentId ∧ command.resourceId = observation.resourceId)
  ensure (observation.operationState = .succeeded)
  let disposition ← given (← call (.fenceAgentObservation observation.operationId
    ⟨observation.agentId, observation.agentEpoch, observation.observationSequence⟩))
  if disposition = .new then
    projectObservation operation observation
  else
    repairMeteringFromDurableState observation.resourceId

inductive AgentMessage
  | acceptance (accepted : AgentCommandAccepted)
  | update (update : AgentOperationUpdate)
  | observation (observation : AgentObservation)
  deriving DecidableEq

/-- What the journal returns for a message, which an observation does not. -/
def applyMessage : AgentMessage → JournalM (Option OperationState)
  | .acceptance accepted => some <$> applyAgentAcceptance accepted
  | .update update => some <$> applyAgentUpdate update
  | .observation observation => do
    applyAgentObservation observation
    return none

/-- A reply, with the message that it is for. -/
abbrev Delivery := AgentMessage × Except ReconcileError (Option OperationState)

def delivery (message : AgentMessage) : Program JournalCall JournalCall.Reply Delivery := do
  let reply ← (applyMessage message).run
  return (message, reply)

/-- What happens beside the journal: an agent registers, or the memory of the
process is lost. -/
inductive JournalEnvironment
  | register (agentId agentEpoch : String)
  | restart
  deriving DecidableEq

def JournalEnvironment.act : JournalEnvironment → JournalWorld → JournalWorld
  | .register agentId agentEpoch, w => w.registered agentId agentEpoch
  | .restart, w => w.restarted

abbrev JournalMachine := Attempted JournalWorld JournalCall JournalCall.Reply Delivery

abbrev JournalStep := AttemptEvent AgentMessage JournalAnswer JournalEnvironment

def journalStep (m : JournalMachine) (e : JournalStep) : JournalMachine :=
  m.step exec delivery JournalEnvironment.act e

end Journal
end O3k
