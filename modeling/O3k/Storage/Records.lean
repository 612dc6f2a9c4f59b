import O3k.Operations.AgentCommands
import O3k.Operations.Records

/-!
# Volumes, their attachments and the commands on them

The canonical records of the storage domain with their validation and the
transitions of an attachment, the envelope of a storage command, and the
intent of a request to attach or to detach.
-/

namespace O3k
namespace Storage

open Operations

/-- `u64::MAX`. -/
def u64Max : Nat := 18446744073709551615

inductive StorageValidationError
  | invalidCommandEnvelope
  | invalidObservation
  | invalidProject
  | invalidVolume
  | invalidBackendId
  | invalidScope
  | invalidProviderReference
  | invalidCapacity
  | invalidGeneration
  deriving DecidableEq

/-- `Display for StorageValidationError`. -/
def StorageValidationError.display : StorageValidationError → String
  | .invalidCommandEnvelope => "invalid storage command envelope"
  | .invalidObservation => "invalid storage observation"
  | .invalidProject => "project identity is invalid"
  | .invalidVolume => "volume fields are invalid"
  | .invalidBackendId => "backend identity is invalid"
  | .invalidScope => "storage scope is invalid"
  | .invalidProviderReference => "provider reference is invalid"
  | .invalidCapacity => "capacity or allocation unit is invalid"
  | .invalidGeneration => "resource generation must be positive"

inductive StorageExecutionScope
  | host (id : String)
  | backend (id : String)
  deriving DecidableEq

def StorageExecutionScope.validate : StorageExecutionScope → Except StorageValidationError Unit
  | .host id => if id = "" ∨ 128 < id.utf8ByteSize then .error .invalidScope else .ok ()
  | .backend id => if id = "" ∨ 128 < id.utf8ByteSize then .error .invalidScope else .ok ()

inductive VolumeState
  | requested
  | creating
  | available
  | attaching
  | inUse
  | detaching
  | deleting
  | deleted
  | unknown
  | error
  deriving DecidableEq

inductive VolumeAttachmentState
  | reserved
  | preparing
  | attaching
  | attached
  | detaching
  | detached
  | unknown
  | error
  | deleted
  deriving DecidableEq

inductive AttachmentAccessMode
  | readOnly
  | readWrite
  deriving DecidableEq

structure ProviderReference where
  provider : String
  resourceId : String
  deriving DecidableEq

def ProviderReference.validate (r : ProviderReference) : Except StorageValidationError Unit :=
  if r.provider = "" ∨ 128 < r.provider.utf8ByteSize ∨
      r.resourceId = "" ∨ 512 < r.resourceId.utf8ByteSize then
    .error .invalidProviderReference
  else
    .ok ()

structure Volume where
  id : Uuid
  projectId : String
  name : String
  description : String
  metadata : List (String × String)
  availabilityZone : Option String
  sizeBytes : Nat
  volumeType : String
  backendId : String
  executionScope : StorageExecutionScope
  state : VolumeState
  generation : Nat
  operationId : Option Uuid
  providerReference : Option ProviderReference
  deriving DecidableEq

def Volume.validate (v : Volume) : Except StorageValidationError Unit := do
  if v.projectId = "" ∨ 256 < v.projectId.utf8ByteSize then
    throw .invalidProject
  if v.sizeBytes = 0 ∨ v.volumeType = "" ∨ 128 < v.volumeType.utf8ByteSize ∨
      255 < v.name.utf8ByteSize ∨ 4096 < v.description.utf8ByteSize ∨
      128 < v.metadata.length ∨
      (∃ zone ∈ v.availabilityZone, zone = "" ∨ 255 < zone.utf8ByteSize) then
    throw .invalidVolume
  if v.backendId = "" ∨ 128 < v.backendId.utf8ByteSize then
    throw .invalidBackendId
  v.executionScope.validate
  if v.generation = 0 then
    throw .invalidGeneration
  match v.providerReference with
  | some reference => reference.validate
  | none => pure ()

structure VolumeAttachment where
  id : Uuid
  projectId : String
  volumeId : Uuid
  serverId : Uuid
  executionScope : StorageExecutionScope
  accessMode : AttachmentAccessMode
  deleteOnTermination : Bool
  state : VolumeAttachmentState
  generation : Nat
  operationId : Option Uuid
  deriving DecidableEq

def VolumeAttachment.validate (a : VolumeAttachment) : Except StorageValidationError Unit := do
  if a.projectId = "" ∨ 256 < a.projectId.utf8ByteSize then
    throw .invalidProject
  a.executionScope.validate
  if a.generation = 0 then
    throw .invalidGeneration

/-- The pairs that `VolumeAttachment::transition` lets pass. -/
def VolumeAttachmentState.permits : VolumeAttachmentState → VolumeAttachmentState → Bool
  | .reserved, .preparing | .reserved, .deleted => true
  | .preparing, .attaching | .preparing, .unknown | .preparing, .error
  | .preparing, .detaching => true
  | .attaching, .attached | .attaching, .unknown | .attaching, .error
  | .attaching, .detaching => true
  | .attached, .detaching | .attached, .error => true
  | .detaching, .detached | .detaching, .unknown | .detaching, .error
  | .detaching, .deleted => true
  | .detached, .deleted => true
  | .unknown, .preparing | .unknown, .attaching | .unknown, .attached
  | .unknown, .detaching | .unknown, .detached | .unknown, .deleted | .unknown, .error => true
  | .error, .detaching | .error, .deleted => true
  | _, _ => false

structure InvalidAttachment where
  source : VolumeAttachmentState
  target : VolumeAttachmentState
  deriving DecidableEq

def VolumeAttachment.transition (a target : VolumeAttachment) :
    Except InvalidAttachment VolumeAttachment :=
  if a.state.permits target.state then .ok target else .error ⟨a.state, target.state⟩

structure VolumeRecord where
  volume : Volume
  createdAt : String
  deriving DecidableEq

def VolumeRecord.id (r : VolumeRecord) : Uuid := r.volume.id

structure VolumeAttachmentRecordV1 where
  attachment : VolumeAttachment
  createdAt : String
  deriving DecidableEq

def VolumeAttachmentRecordV1.id (r : VolumeAttachmentRecordV1) : Uuid := r.attachment.id

inductive StorageAction
  | createVolume
  | inspectVolume
  | deleteVolume
  | prepareAttachment
  | terminateAttachment
  | createSnapshot
  | deleteSnapshot
  | reconcile
  deriving DecidableEq

structure StorageCommandEnvelope where
  protocolVersion : Nat
  commandId : Uuid
  operationId : Uuid
  idempotencyKey : String
  resourceId : String
  resourceGeneration : Nat
  projectId : String
  controllerEpoch : Nat
  targetAgentId : String
  targetAgentEpoch : Nat
  deadline : String
  traceId : String
  action : StorageAction
  canonicalPayloadFingerprint : String
  deriving DecidableEq

/-- `is_ascii_hexdigit() && !is_ascii_uppercase()`. -/
def isLowerHexDigit (c : Char) : Bool := ('0' ≤ c && c ≤ '9') || ('a' ≤ c && c ≤ 'f')

def StorageCommandEnvelope.validate (e : StorageCommandEnvelope) :
    Except StorageValidationError Unit :=
  if e.protocolVersion = 0 ∨ e.idempotencyKey = "" ∨ e.resourceId = "" ∨
      e.resourceGeneration = 0 ∨ e.projectId = "" ∨ e.controllerEpoch = 0 ∨
      e.targetAgentId = "" ∨ e.targetAgentEpoch = 0 ∨ e.deadline = "" ∨ e.traceId = "" ∨
      e.canonicalPayloadFingerprint = "" then
    .error .invalidCommandEnvelope
  else if 256 < e.idempotencyKey.utf8ByteSize ∨ 256 < e.resourceId.utf8ByteSize ∨
      256 < e.projectId.utf8ByteSize ∨ 128 < e.targetAgentId.utf8ByteSize ∨
      128 < e.deadline.utf8ByteSize ∨ 256 < e.traceId.utf8ByteSize ∨
      e.canonicalPayloadFingerprint.utf8ByteSize ≠ 64 ∨
      ¬ e.canonicalPayloadFingerprint.toList.all isLowerHexDigit then
    .error .invalidCommandEnvelope
  else
    .ok ()

structure StorageAttachmentIntent where
  attachmentId : Uuid
  volumeId : Uuid
  serverId : Uuid
  projectId : String
  accessMode : AttachmentAccessMode
  deleteOnTermination : Bool
  controllerEpoch : Nat
  targetAgentId : String
  targetAgentEpoch : Nat
  idempotencyKey : String
  traceId : String
  deadline : String
  deriving DecidableEq

/-- `StorageAttachmentIntent::validate`. -/
def StorageAttachmentIntent.isValid (i : StorageAttachmentIntent) : Bool :=
  ¬ (i.projectId = "" ∨ 256 < i.projectId.utf8ByteSize ∨ i.controllerEpoch = 0 ∨
    i.targetAgentId = "" ∨ 128 < i.targetAgentId.utf8ByteSize ∨ i.targetAgentEpoch = 0 ∨
    i.idempotencyKey = "" ∨ 256 < i.idempotencyKey.utf8ByteSize ∨
    i.traceId = "" ∨ 256 < i.traceId.utf8ByteSize ∨
    i.deadline = "" ∨ 128 < i.deadline.utf8ByteSize)

/-- What the workflow takes from its libraries: `serde_json` on envelopes, the
hexadecimal SHA-256 of the JSON of an intent, the name-based identifiers, and
the parser of an identifier, whose text determines it. -/
structure StorageLibrary where
  fingerprint : StorageAttachmentIntent → String
  encodeEnvelope : StorageCommandEnvelope → List UInt8
  decodeEnvelope : List UInt8 → Option StorageCommandEnvelope
  decode_encode : ∀ e, decodeEnvelope (encodeEnvelope e) = some e
  deterministicStorageId : String → String → Uuid
  parseUuid : String → Option Uuid
  parse_id : ∀ id : Uuid, parseUuid id = some id

inductive StorageProviderError
  | invalidRequest
  | invalidConfiguration
  | notFound
  | foreignResource
  | capacity
  | unavailable
  | unknownOutcome
  | commandFailed
  | conflict
  deriving DecidableEq

def StorageProviderError.isUnknownOutcome : StorageProviderError → Bool
  | .unknownOutcome => true
  | .unavailable => true
  | _ => false

inductive ComputeAttachmentError
  | unknownOutcome
  | failed
  deriving DecidableEq

inductive StorageWorkflowError
  | store (error : StoreError)
  | invalidIntent
  | idempotencyConflict
  | staleControllerFence
  | staleAgentFence
  | staleGeneration
  | unknownOutcome
  | provider (error : StorageProviderError)
  | computeUnknownOutcome
  | computeFailed
  deriving DecidableEq

structure StorageWorkflowResult where
  commandId : String
  operationId : Uuid
  commandState : AgentCommandState
  attachmentState : VolumeAttachmentState
  deriving DecidableEq

structure StorageAttachmentRequest where
  attachmentId : Uuid
  volumeId : Uuid
  projectId : String
  volumeGeneration : Nat
  hostId : String
  accessMode : AttachmentAccessMode
  deriving DecidableEq

structure PreparedAttachment where
  devicePath : String
  attachmentId : Uuid
  volumeId : Uuid
  deriving DecidableEq

/-- As far as the workflow looks at it. -/
structure StorageAttachmentObservation where
  attachmentId : Uuid
  volumeId : Uuid
  hostId : String
  attached : Bool
  deriving DecidableEq

variable (record : VolumeAttachmentRecordV1)

def transitionAttachment (state : VolumeAttachmentState) :
    Except StorageWorkflowError VolumeAttachmentRecordV1 :=
  if u64Max ≤ record.attachment.generation then
    .error .staleGeneration
  else
    match record.attachment.transition
        { record.attachment with
          state := state
          generation := record.attachment.generation + 1 } with
    | .error _ => .error .invalidIntent
    | .ok transitioned => .ok ⟨transitioned, record.createdAt⟩

/-- A record in another state, one generation later. -/
def VolumeAttachmentRecordV1.moved (state : VolumeAttachmentState) : VolumeAttachmentRecordV1 :=
  ⟨{ record.attachment with
      state := state
      generation := record.attachment.generation + 1 }, record.createdAt⟩

@[simp] theorem id_moved (state : VolumeAttachmentState) : (record.moved state).id = record.id := by
  rfl

theorem transitionAttachment_eq_ok {record next : VolumeAttachmentRecordV1}
    {state : VolumeAttachmentState} :
    transitionAttachment record state = .ok next ↔
    record.attachment.generation < u64Max ∧ record.attachment.state.permits state ∧
      next = record.moved state := by
  unfold transitionAttachment VolumeAttachment.transition VolumeAttachmentRecordV1.moved
  by_cases hfull : u64Max ≤ record.attachment.generation
  · simp [hfull]
  · by_cases hpermits : record.attachment.state.permits state
    · simp [hfull, hpermits, Nat.lt_of_not_le hfull, eq_comm]
    · simp [hfull, hpermits]

def attachmentRequest
    (attachment : VolumeAttachment) (volumeGeneration : Nat) (envelope : StorageCommandEnvelope) :
    StorageAttachmentRequest :=
  { attachmentId := attachment.id
    volumeId := attachment.volumeId
    projectId := attachment.projectId
    volumeGeneration := volumeGeneration
    hostId := envelope.targetAgentId
    accessMode := attachment.accessMode }

end Storage
end O3k
