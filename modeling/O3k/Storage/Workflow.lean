import O3k.Semantics.Attempts
import O3k.Storage.Store

/-!
# The attach and detach workflow

`StorageAttachmentWorkflow` as programs over the calls that it makes to its
fence, to the store, and to the storage and the compute host.  The fence holds
an exclusive lock from `begin` to `end`, so one attempt runs at a time.

What the fence and the hosts answer is left to the environment: an observation
reports what it likes, and a mutation that fails may have taken effect.  A
statement that fails ends the attempt as a crash before or after it does.
-/

namespace O3k
namespace Storage

open Relational Semantics Operations

inductive WorkflowCall
  | beginAttempt (controllerEpoch : Nat)
  | assertCurrent (controllerEpoch : Nat)
  | endAttempt (controllerEpoch : Nat)
  | getAgentCommandByIdempotencyKey (key : String)
  | getAgentCommand (commandId : String)
  | getVolumeAttachmentV1 (id : Uuid)
  | getVolume (id : Uuid)
  | insertOperation (operation : OperationRecord)
  | insertAgentCommand (command : AgentCommandRecord)
  | updateVolumeAttachmentV1 (expectedGeneration : Nat) (record : VolumeAttachmentRecordV1)
  | updateVolume (expectedGeneration : Nat) (record : VolumeRecord)
  | updateAgentCommand (update : AgentUpdate)
  | updateOperation (id : Uuid) (state : OperationState)
      (errorCategory errorMessage : Option String)
  | prepareAttachment (request : StorageAttachmentRequest)
  | inspectAttachment (request : StorageAttachmentRequest)
  | terminateAttachment (request : StorageAttachmentRequest)
  | computeAttach (attachment : VolumeAttachment) (prepared : PreparedAttachment)
  | computeInspect (attachment : VolumeAttachment)
  | computeDetach (attachment : VolumeAttachment)
  deriving DecidableEq

namespace WorkflowCall

abbrev Reply : WorkflowCall → Type
  | beginAttempt _ | assertCurrent _ | endAttempt _ => Except StorageWorkflowError Unit
  | getAgentCommandByIdempotencyKey _ => Except StoreError AgentCommandRecord
  | getAgentCommand _ => Except StoreError AgentCommandRecord
  | getVolumeAttachmentV1 _ => Except StoreError (Option VolumeAttachmentRecordV1)
  | getVolume _ => Except StoreError (Option VolumeRecord)
  | insertOperation _ => Except StoreError Unit
  | insertAgentCommand _ => Except StoreError AgentCommandRecord
  | updateVolumeAttachmentV1 _ _ => Except StoreError VolumeAttachmentRecordV1
  | updateVolume _ _ => Except StoreError VolumeRecord
  | updateAgentCommand _ => Except StoreError AgentCommandRecord
  | updateOperation _ _ _ _ => Except StoreError Unit
  | prepareAttachment _ => Except StorageProviderError PreparedAttachment
  | inspectAttachment _ => Except StorageProviderError StorageAttachmentObservation
  | terminateAttachment _ => Except StorageProviderError StorageAttachmentObservation
  | computeAttach _ _ => Except ComputeAttachmentError Unit
  | computeInspect _ => Except ComputeAttachmentError Bool
  | computeDetach _ => Except ComputeAttachmentError Unit

end WorkflowCall

/-- What the environment answers to a call: whether the fence is current, the
error of a host, what an observation reports, whether a mutation takes effect,
the device path, and the time of a statement. -/
structure Answer where
  current : Bool
  storageError : Option StorageProviderError
  computeError : Option ComputeAttachmentError
  attached : Bool
  takesEffect : Bool
  devicePath : String
  now : String

/-- The reply of a host. -/
def answered {ε α : Type} (error : Option ε) (value : α) : Except ε α :=
  match error with
  | some e => .error e
  | none => .ok value

namespace StorageWorld

variable (w : StorageWorld)

@[simps] def setMapped (id : Uuid) (value : Bool) : StorageWorld :=
  { w with mapped := Function.update w.mapped id value }

@[simps] def setDevice (id : Uuid) (value : Bool) : StorageWorld :=
  { w with devices := Function.update w.devices id value }

end StorageWorld

/-- The storage host keeps a mapping for a prepared attachment, as one that
maps block devices does, or it prepares without keeping anything. -/
abbrev KeepsMappings := Bool

def exec (keepsMappings : KeepsMappings) :
    (c : WorkflowCall) → Answer → StorageWorld → c.Reply × StorageWorld
  | .beginAttempt _, x, w => (if x.current then .ok () else .error .staleControllerFence, w)
  | .assertCurrent _, x, w => (if x.current then .ok () else .error .staleControllerFence, w)
  | .endAttempt _, x, w => (if x.current then .ok () else .error .staleControllerFence, w)
  | .getAgentCommandByIdempotencyKey key, _, w => (w.getAgentCommandByIdempotencyKey key, w)
  | .getAgentCommand commandId, _, w => (w.getAgentCommand commandId, w)
  | .getVolumeAttachmentV1 id, _, w => (w.getVolumeAttachmentV1 id, w)
  | .getVolume id, _, w => (w.getVolume id, w)
  | .insertOperation operation, _, w => w.insertOperation operation
  | .insertAgentCommand command, _, w => w.insertAgentCommand command
  | .updateVolumeAttachmentV1 expectedGeneration record, _, w =>
    w.updateVolumeAttachmentV1 expectedGeneration record
  | .updateVolume expectedGeneration record, _, w => w.updateVolume expectedGeneration record
  | .updateAgentCommand update, _, w => w.updateAgentCommand update
  | .updateOperation id state errorCategory errorMessage, x, w =>
    w.updateOperation id state none errorCategory errorMessage x.now
  | .prepareAttachment request, x, w =>
    (answered x.storageError ⟨x.devicePath, request.attachmentId, request.volumeId⟩,
      if x.takesEffect && keepsMappings then w.setMapped request.attachmentId true else w)
  | .inspectAttachment request, x, w =>
    (answered x.storageError
      ⟨request.attachmentId, request.volumeId, request.hostId, x.attached⟩, w)
  | .terminateAttachment request, x, w =>
    (answered x.storageError
      ⟨request.attachmentId, request.volumeId, request.hostId, x.attached⟩,
      if x.takesEffect then w.setMapped request.attachmentId false else w)
  | .computeAttach attachment _, x, w =>
    (answered x.computeError (),
      if x.takesEffect then w.setDevice attachment.id true else w)
  | .computeInspect _, x, w => (answered x.computeError x.attached, w)
  | .computeDetach attachment, x, w =>
    (answered x.computeError (),
      if x.takesEffect then w.setDevice attachment.id false else w)

abbrev Workflow (α : Type) :=
  ExceptT StorageWorkflowError (Program WorkflowCall WorkflowCall.Reply) α

namespace Workflow

def call (c : WorkflowCall) : Workflow c.Reply := ExceptT.lift (Program.perform c)

/-- `?` on the result of a call to the store. -/
def stored {α : Type} (x : Except StoreError α) : Workflow α :=
  ExceptT.mk (pure (x.mapError .store))

/-- `?` on a result of the workflow itself. -/
def given {α : Type} (x : Except StorageWorkflowError α) : Workflow α := ExceptT.mk (pure x)

/-- `.ok_or(StoreError::ResourceNotFound)?`. -/
def found {α : Type} (x : Option α) : Workflow α :=
  match x with
  | some a => pure a
  | none => throw (.store .resourceNotFound)

/-- Return with `error` unless the condition holds. -/
def ensure (p : Prop) [Decidable p] (error : StorageWorkflowError) : Workflow Unit :=
  ExceptT.mk (pure (if p then .ok () else .error error))

def assertCurrent (controllerEpoch : Nat) : Workflow Unit := do
  given (← call (.assertCurrent controllerEpoch))

/-- The row of the attachment in another state. -/
def updateAttachment (record next : VolumeAttachmentRecordV1) :
    Workflow VolumeAttachmentRecordV1 := do
  stored (← call (.updateVolumeAttachmentV1 record.attachment.generation next))

/-- The command in another state, with a later sequence number. -/
def updateCommand
    (command : AgentCommandRecord) (state : AgentCommandState) (acceptedSequence lowest : Nat) :
    Workflow AgentCommandRecord := do
  stored (← call (.updateAgentCommand
    { commandId := command.commandId
      state := state
      acceptedSequence := acceptedSequence
      lastSequence := max (min (command.lastSequence + 1) u64Max) lowest
      providerOperationId := none
      providerResourceId := none }))

end Workflow

open Workflow

section Programs

variable (lib : StorageLibrary) (command : AgentCommandRecord)

def workflowResult (record : VolumeAttachmentRecordV1) : StorageWorkflowResult :=
  { commandId := command.commandId
    operationId := command.operationId
    commandState := command.state
    attachmentState := record.attachment.state }

/-- The record in another state under a condition, in memory. -/
def movedIf
    (p : Prop) [Decidable p] (record : VolumeAttachmentRecordV1) (state : VolumeAttachmentState) :
    Workflow VolumeAttachmentRecordV1 :=
  if p then given (transitionAttachment record state) else pure record

/-- The record in another state unless it has it already, in the store. -/
def storedUnless
    (p : Prop) [Decidable p] (record : VolumeAttachmentRecordV1) (state : VolumeAttachmentState) :
    Workflow VolumeAttachmentRecordV1 :=
  if p then
    pure record
  else do
    updateAttachment record (← given (transitionAttachment record state))

/-- The record as deleted, which is not asked of `transition_attachment`. -/
def storedDeleted (record : VolumeAttachmentRecordV1) : Workflow VolumeAttachmentRecordV1 :=
  if record.attachment.state = .deleted then
    pure record
  else do
    ensure (record.attachment.generation < u64Max) .staleGeneration
    updateAttachment record (record.moved .deleted)

/-- The row is written when the record has moved on. -/
def storeIfMoved (record next : VolumeAttachmentRecordV1) : Workflow VolumeAttachmentRecordV1 :=
  if next.attachment.generation ≠ record.attachment.generation then
    updateAttachment record next
  else
    pure next

def markUnknown (record : VolumeAttachmentRecordV1) : Workflow Unit := do
  let unknown ←
    movedIf (record.attachment.state = .preparing ∨ record.attachment.state = .attaching)
      record .unknown
  let _ ← storeIfMoved record unknown
  let _ ← updateCommand command .unknownOutcome (max command.acceptedSequence 1) 2
  stored (← call (.updateOperation command.operationId .unknownOutcome
    (some "unknown_outcome") (some "storage attachment requires observation")))

def markFailed (record : VolumeAttachmentRecordV1) : Workflow Unit := do
  let failed : VolumeAttachmentRecordV1 :=
    ⟨{ record.attachment with
        state := .error
        generation := min (record.attachment.generation + 1) u64Max }, record.createdAt⟩
  let _ ← updateAttachment record failed
  let _ ← updateCommand command .failed (max command.acceptedSequence 1) 2
  stored (← call (.updateOperation command.operationId .failed
    (some "provider_failure") (some "storage attachment failed")))

/-- An outcome that has to be observed before anything is done again. -/
def leaveUnknown {α : Type} (record : VolumeAttachmentRecordV1)
    (controllerEpoch : Nat) (error : StorageWorkflowError) :
    Workflow α := do
  assertCurrent controllerEpoch
  markUnknown command record
  throw error

def leaveFailed {α : Type} (record : VolumeAttachmentRecordV1)
    (controllerEpoch : Nat) (error : StorageWorkflowError) :
    Workflow α := do
  assertCurrent controllerEpoch
  markFailed command record
  throw error

def projectVolumeState (record : VolumeAttachmentRecordV1) (target : VolumeState) :
    Workflow Unit := do
  let volume ← found (← stored (← call (.getVolume record.attachment.volumeId)))
  if volume.volume.state = target then
    pure ()
  else
    ensure (volume.volume.generation < u64Max) .staleGeneration
    let projected : VolumeRecord :=
      ⟨{ volume.volume with
          state := target
          generation := volume.volume.generation + 1 }, volume.createdAt⟩
    let _ ← stored (← call (.updateVolume volume.volume.generation projected))

/-- The end of `finish_success` and of `finish_detached`. -/
def completeCommand (record : VolumeAttachmentRecordV1) : Workflow StorageWorkflowResult := do
  let command ← updateCommand command .succeeded (max command.acceptedSequence 1) 2
  stored (← call (.updateOperation command.operationId .succeeded none none))
  return workflowResult command record

def finishSuccess (record : VolumeAttachmentRecordV1) (controllerEpoch : Nat) :
    Workflow StorageWorkflowResult := do
  assertCurrent controllerEpoch
  let record ← storedUnless (record.attachment.state = .attached) record .attached
  projectVolumeState record .inUse
  completeCommand command record

def finishDetached (record : VolumeAttachmentRecordV1) (controllerEpoch : Nat) :
    Workflow StorageWorkflowResult := do
  assertCurrent controllerEpoch
  let record ←
    storedUnless (record.attachment.state = .detached ∨ record.attachment.state = .deleted)
      record .detached
  projectVolumeState record .available
  let record ← storedDeleted record
  completeCommand command record

variable (envelope : StorageCommandEnvelope)

/-- `execute_attach_from_command_with_intent`; the intent is not looked at. -/
def executeAttach (command : AgentCommandRecord)
    (record : VolumeAttachmentRecordV1) (volumeGeneration controllerEpoch : Nat) :
    Workflow StorageWorkflowResult := do
  assertCurrent controllerEpoch
  let command ← updateCommand command .running 1 1
  let request := attachmentRequest record.attachment volumeGeneration envelope
  match ← call (.prepareAttachment request) with
  | .error error =>
    if error.isUnknownOutcome then
      leaveUnknown command record controllerEpoch .unknownOutcome
    else
      leaveFailed command record controllerEpoch (.provider error)
  | .ok prepared =>
    assertCurrent controllerEpoch
    let record ← updateAttachment record (← given (transitionAttachment record .attaching))
    match ← call (.computeAttach record.attachment prepared) with
    | .ok () => finishSuccess command record controllerEpoch
    | .error .unknownOutcome => leaveUnknown command record controllerEpoch .computeUnknownOutcome
    | .error .failed => leaveFailed command record controllerEpoch .computeFailed

def executeDetach (record : VolumeAttachmentRecordV1)
    (envelope : StorageCommandEnvelope) (controllerEpoch : Nat) :
    Workflow StorageWorkflowResult := do
  assertCurrent controllerEpoch
  let command ← updateCommand command .running 1 1
  match ← call (.computeDetach record.attachment) with
  | .error .unknownOutcome => leaveUnknown command record controllerEpoch .computeUnknownOutcome
  | .error .failed => leaveFailed command record controllerEpoch .computeFailed
  | .ok () =>
    assertCurrent controllerEpoch
    let volume ← found (← stored (← call (.getVolume record.attachment.volumeId)))
    let request := attachmentRequest record.attachment volume.volume.generation envelope
    match ← call (.terminateAttachment request) with
    | .error error =>
      if error.isUnknownOutcome then
        leaveUnknown command record controllerEpoch .unknownOutcome
      else
        leaveFailed command record controllerEpoch (.provider error)
    | .ok observation =>
      if observation.attached then
        leaveUnknown command record controllerEpoch .unknownOutcome
      else
        finishDetached command record controllerEpoch

/-- `replay_existing`: an equivalent request returns what is stored. -/
def replayExisting (expectedFingerprint : String) : Workflow StorageWorkflowResult := do
  ensure (command.payloadFingerprintSha256 = expectedFingerprint) .idempotencyConflict
  let record ← found (← stored (← call (.getVolumeAttachmentV1 command.resourceId)))
  return workflowResult command record

variable (intent : StorageAttachmentIntent)

def newEnvelope (generation : Nat) (action : StorageAction) : StorageCommandEnvelope :=
  { protocolVersion := 1
    commandId := lib.deterministicStorageId "command" intent.idempotencyKey
    operationId := lib.deterministicStorageId "operation" intent.idempotencyKey
    idempotencyKey := intent.idempotencyKey
    resourceId := intent.attachmentId
    resourceGeneration := generation
    projectId := intent.projectId
    controllerEpoch := intent.controllerEpoch
    targetAgentId := intent.targetAgentId
    targetAgentEpoch := intent.targetAgentEpoch
    deadline := intent.deadline
    traceId := intent.traceId
    action := action
    canonicalPayloadFingerprint := lib.fingerprint intent }

def newOperation (kind : String) : OperationRecord :=
  { id := lib.deterministicStorageId "operation" intent.idempotencyKey
    resourceId := intent.attachmentId
    kind := kind
    state := .pending
    providerOperationId := none
    errorCategory := none
    errorMessage := none }

def newCommand (envelope : StorageCommandEnvelope) : AgentCommandRecord :=
  { commandId := lib.deterministicStorageId "command" intent.idempotencyKey
    idempotencyKey := intent.idempotencyKey
    operationId := lib.deterministicStorageId "operation" intent.idempotencyKey
    resourceId := intent.attachmentId
    agentId := intent.targetAgentId
    agentEpoch := toString intent.targetAgentEpoch
    payloadFingerprintSha256 := lib.fingerprint intent
    payload := lib.encodeEnvelope envelope
    state := .pending
    acceptedSequence := 0
    lastSequence := 0
    providerOperationId := none
    providerResourceId := none }

def StorageAttachmentIntent.names (a : VolumeAttachment) : Prop :=
  a.projectId = intent.projectId ∧ a.volumeId = intent.volumeId ∧
    a.serverId = intent.serverId ∧ a.accessMode = intent.accessMode ∧
    a.deleteOnTermination = intent.deleteOnTermination

instance (intent : StorageAttachmentIntent) (a : VolumeAttachment) : Decidable (intent.names a) :=
  inferInstanceAs (Decidable (_ ∧ _))

/-- The operation and the command of a new request. -/
def recordRequest (record : VolumeAttachmentRecordV1) (kind : String) (action : StorageAction) :
    Workflow (StorageCommandEnvelope × AgentCommandRecord) := do
  let envelope := newEnvelope lib intent record.attachment.generation action
  ensure (envelope.validate = .ok ()) .invalidIntent
  stored (← call (.insertOperation (newOperation lib intent kind)))
  let command ← stored (← call (.insertAgentCommand (newCommand lib intent envelope)))
  return (envelope, command)

/-- `attach_inner` for a key that no command has. -/
def attachNew : Workflow StorageWorkflowResult := do
  let record ← found (← stored (← call (.getVolumeAttachmentV1 intent.attachmentId)))
  let volume ← found (← stored (← call (.getVolume record.attachment.volumeId)))
  ensure (intent.names record.attachment ∧ volume.volume.projectId = intent.projectId ∧
    volume.volume.state = .available ∧ record.attachment.state = .reserved) .invalidIntent
  let (_, command) ← recordRequest lib intent record "storage:attach" .prepareAttachment
  let record ← updateAttachment record (← given (transitionAttachment record .preparing))
  match lib.decodeEnvelope command.payload with
  | none => throw .invalidIntent
  | some envelope =>
    executeAttach envelope command record volume.volume.generation intent.controllerEpoch

/-- `detach_inner` for a key that no command has. -/
def detachNew : Workflow StorageWorkflowResult := do
  let record ← found (← stored (← call (.getVolumeAttachmentV1 intent.attachmentId)))
  ensure (intent.names record.attachment ∧ record.attachment.state = .attached) .invalidIntent
  let (envelope, command) ←
    recordRequest lib intent record "storage:detach" .terminateAttachment
  let record ← updateAttachment record (← given (transitionAttachment record .detaching))
  executeDetach command record envelope intent.controllerEpoch

/-- The start of `attach_inner` and of `detach_inner`. -/
def requestInner (new : Workflow StorageWorkflowResult) : Workflow StorageWorkflowResult := do
  ensure intent.isValid .invalidIntent
  assertCurrent intent.controllerEpoch
  match ← call (.getAgentCommandByIdempotencyKey intent.idempotencyKey) with
  | .ok existing => replayExisting existing (lib.fingerprint intent)
  | .error .operationNotFound => new
  | .error error => throw (.store error)

def reconcileAttach
    (command : AgentCommandRecord) (record : VolumeAttachmentRecordV1) (controllerEpoch : Nat) :
    Workflow StorageWorkflowResult := do
  let volume ← found (← stored (← call (.getVolume record.attachment.volumeId)))
  let request := attachmentRequest record.attachment volume.volume.generation envelope
  let storageObservation ← call (.inspectAttachment request)
  let computeObservation ← call (.computeInspect record.attachment)
  match storageObservation, computeObservation with
  | .error error, computeObservation =>
    if error.isUnknownOutcome then
      leaveUnknown command record controllerEpoch .unknownOutcome
    else if computeObservation = .error .unknownOutcome then
      leaveUnknown command record controllerEpoch .computeUnknownOutcome
    else
      throw (.provider error)
  | .ok _, .error .unknownOutcome =>
    leaveUnknown command record controllerEpoch .computeUnknownOutcome
  | .ok _, .error .failed => throw .computeFailed
  | .ok _, .ok true => finishSuccess command record controllerEpoch
  | .ok observation, .ok false =>
    if observation.attached then
      throw .unknownOutcome
    else do
      let preparing ← movedIf (record.attachment.state = .unknown) record .preparing
      let record ← storeIfMoved record preparing
      let command ← updateCommand command .retryable (max command.acceptedSequence 1) 3
      match lib.decodeEnvelope command.payload with
      | none => throw .invalidIntent
      | some envelope =>
        executeAttach envelope command record volume.volume.generation controllerEpoch

/-- The record of an unknown outcome is moved in memory only. -/
def reconcileDetach
    (command : AgentCommandRecord) (record : VolumeAttachmentRecordV1) (controllerEpoch : Nat) :
    Workflow StorageWorkflowResult := do
  let volume ← found (← stored (← call (.getVolume record.attachment.volumeId)))
  let request := attachmentRequest record.attachment volume.volume.generation envelope
  let storage ← call (.inspectAttachment request)
  let compute ← call (.computeInspect record.attachment)
  match storage, compute with
  | .error error, compute =>
    if error.isUnknownOutcome then
      leaveUnknown command record controllerEpoch .unknownOutcome
    else if compute = .error .unknownOutcome then
      leaveUnknown command record controllerEpoch .computeUnknownOutcome
    else
      throw (.provider error)
  | .ok _, .error .unknownOutcome =>
    leaveUnknown command record controllerEpoch .computeUnknownOutcome
  | .ok _, .error .failed => throw .computeFailed
  | .ok observation, .ok attached =>
    if attached = false ∧ observation.attached = false then
      finishDetached command record controllerEpoch
    else do
      let detaching ← movedIf (record.attachment.state = .unknown) record .detaching
      executeDetach command detaching envelope controllerEpoch

def reconcileInner (commandId : String) (controllerEpoch : Nat) :
    Workflow StorageWorkflowResult := do
  ensure (controllerEpoch ≠ 0) .staleControllerFence
  assertCurrent controllerEpoch
  let command ← stored (← call (.getAgentCommand commandId))
  match lib.decodeEnvelope command.payload with
  | none => throw .invalidIntent
  | some envelope =>
    ensure (envelope.validate = .ok ()) .invalidIntent
    ensure (command.agentEpoch = toString envelope.targetAgentEpoch) .staleAgentFence
    match lib.parseUuid envelope.resourceId with
    | none => throw .invalidIntent
    | some resourceId =>
      let record ← found (← stored (← call (.getVolumeAttachmentV1 resourceId)))
      if command.state.isTerminal then
        return workflowResult command record
      else if envelope.action = .terminateAttachment then
        reconcileDetach envelope command record controllerEpoch
      else
        reconcileAttach lib envelope command record controllerEpoch

/-- An inner method between the `begin` and the `end` of its attempt. -/
def fenced (controllerEpoch : Nat) (inner : Workflow StorageWorkflowResult) :
    Workflow StorageWorkflowResult := do
  given (← call (.beginAttempt controllerEpoch))
  let result ← ExceptT.lift inner.run
  let ended ← call (.endAttempt controllerEpoch)
  match result, ended with
  | .error error, _ => throw error
  | .ok _, .error error => throw error
  | .ok value, .ok () => return value

inductive WorkflowRequest
  | attach (intent : StorageAttachmentIntent)
  | detach (intent : StorageAttachmentIntent)
  | reconcile (commandId : String) (controllerEpoch : Nat)

def workflow : WorkflowRequest → Workflow StorageWorkflowResult
  | .attach intent => fenced intent.controllerEpoch (requestInner lib intent (attachNew lib intent))
  | .detach intent => fenced intent.controllerEpoch (requestInner lib intent (detachNew lib intent))
  | .reconcile commandId controllerEpoch =>
    fenced controllerEpoch (reconcileInner lib commandId controllerEpoch)

end Programs

/-- What happens beside the workflow: an attachment is reserved, with the
resource that its operations refer to. -/
inductive Reservation
  | reserve (record : VolumeAttachmentRecordV1) (resource : ResourceRecord)

/-- The two inserts in front of a request to attach. -/
def reserve : Reservation → StorageWorld → StorageWorld
  | .reserve record resource, w =>
    match w.insertVolumeAttachmentV1 record,
        Transaction.atomically (insertResource resource) w.operations with
    | (.ok (), w'), (.ok (), operations) => { w' with operations := operations }
    | _, _ => w

abbrev WorkflowMachine :=
  Attempted StorageWorld WorkflowCall WorkflowCall.Reply
    (Except StorageWorkflowError StorageWorkflowResult)

abbrev WorkflowEvent := AttemptEvent WorkflowRequest Answer Reservation

/-- What happens next. -/
def workflowStep (lib : StorageLibrary) (keepsMappings : KeepsMappings) (m : WorkflowMachine) :
    WorkflowEvent → WorkflowMachine :=
  m.step (exec keepsMappings) (fun request => (workflow lib request).run) reserve

end Storage
end O3k
