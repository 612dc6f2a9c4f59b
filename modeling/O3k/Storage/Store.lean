import O3k.Operations.Acceptance
import O3k.Storage.Records

/-!
# The rows of the storage workflow, and the two hosts

The tables of volumes, attachments, commands and operations with the
statements of the workflow on them, and what the storage host and the compute
host hold for an attachment.  At most one attachment of a volume is live: the
index on `volume_id` covers the rows whose state is not `deleted`.
-/

namespace O3k
namespace Storage

open Relational Operations

structure StorageWorld where
  volumes : Table VolumeRecord.id
  attachments : Table VolumeAttachmentRecordV1.id
  commands : AgentCommands
  operations : OperationTables
  /-- The storage host has a device mapped for the attachment. -/
  mapped : Uuid → Bool
  /-- The compute host has the device of the attachment. -/
  devices : Uuid → Bool

namespace StorageWorld

variable (w : StorageWorld)

@[simps] def putVolume (row : VolumeRecord) : StorageWorld :=
  { w with volumes := w.volumes.put row }

@[simps] def putAttachment (row : VolumeAttachmentRecordV1) : StorageWorld :=
  { w with attachments := w.attachments.put row }

def getVolume (id : Uuid) : Except StoreError (Option VolumeRecord) :=
  match w.volumes.get? id with
  | none => .ok none
  | some row =>
    match row.volume.validate with
    | .error e => .error (.corrupt e.display)
    | .ok () => .ok (some row)

def getVolumeAttachmentV1 (id : Uuid) : Except StoreError (Option VolumeAttachmentRecordV1) :=
  match w.attachments.get? id with
  | none => .ok none
  | some row =>
    match row.attachment.validate with
    | .error e => .error (.corrupt e.display)
    | .ok () => .ok (some row)

def getAgentCommand (commandId : String) : Except StoreError AgentCommandRecord :=
  match w.commands.get? commandId with
  | none => .error .operationNotFound
  | some row => .ok row

def getAgentCommandByIdempotencyKey (key : String) : Except StoreError AgentCommandRecord :=
  match w.commands.rows.find? (fun row => row.idempotencyKey = key) with
  | none => .error .operationNotFound
  | some row => .ok row

def liveVolumeTaken (record : VolumeAttachmentRecordV1) : Bool :=
  record.attachment.state ≠ .deleted &&
    w.attachments.rows.any (fun row =>
      row.attachment.volumeId = record.attachment.volumeId &&
        row.attachment.state ≠ .deleted && row.id ≠ record.id)

def insertVolumeAttachmentV1 (record : VolumeAttachmentRecordV1) :
    Except StoreError Unit × StorageWorld :=
  match record.attachment.validate with
  | .error e => (.error (.corrupt e.display), w)
  | .ok () =>
    if integerMax < record.attachment.generation then
      (.error (.corrupt "attachment generation overflow"), w)
    else if (w.attachments.get? record.id).isSome ∨ w.liveVolumeTaken record then
      (.error .resourceAlreadyExists, w)
    else
      (.ok (), w.putAttachment record)

/-- `update_volume_attachment_v1`: the row is read back before anyone else
writes it. -/
def updateVolumeAttachmentV1 (expectedGeneration : Nat) (record : VolumeAttachmentRecordV1) :
    Except StoreError VolumeAttachmentRecordV1 × StorageWorld :=
  match record.attachment.validate with
  | .error e => (.error (.corrupt e.display), w)
  | .ok () =>
    if integerMax < record.attachment.generation then
      (.error (.corrupt "attachment generation overflow"), w)
    else if integerMax < expectedGeneration then
      (.error .staleGeneration, w)
    else
      match w.attachments.get? record.id with
      | none => (.error .staleGeneration, w)
      | some row =>
        if row.attachment.projectId = record.attachment.projectId ∧
            row.attachment.generation = expectedGeneration then
          if w.liveVolumeTaken record then
            (.error (.database .uniqueViolation), w)
          else
            (.ok ⟨record.attachment, row.createdAt⟩,
              w.putAttachment ⟨record.attachment, row.createdAt⟩)
        else
          (.error .staleGeneration, w)

def updateVolume (expectedGeneration : Nat) (record : VolumeRecord) :
    Except StoreError VolumeRecord × StorageWorld :=
  match record.volume.validate with
  | .error e => (.error (.corrupt e.display), w)
  | .ok () =>
    if integerMax < expectedGeneration then
      (.error .staleGeneration, w)
    else if integerMax < record.volume.generation then
      (.error (.corrupt "volume generation overflow"), w)
    else
      match w.volumes.get? record.id with
      | none => (.error .staleGeneration, w)
      | some row =>
        if row.volume.generation = expectedGeneration then
          (.ok ⟨record.volume, row.createdAt⟩, w.putVolume ⟨record.volume, row.createdAt⟩)
        else
          (.error .staleGeneration, w)

def insertOperation (operation : OperationRecord) : Except StoreError Unit × StorageWorld :=
  let (reply, operations) :=
    Transaction.atomically (Operations.insertOperation operation .resourceAlreadyExists)
      w.operations
  (reply, { w with operations := operations })

/-- The stored command is the one that is inserted again. -/
def sameAgentCommand (existing command : AgentCommandRecord) : Bool :=
  existing.commandId = command.commandId && existing.operationId = command.operationId &&
    existing.resourceId = command.resourceId && existing.agentId = command.agentId &&
    existing.agentEpoch = command.agentEpoch &&
    existing.payloadFingerprintSha256 = command.payloadFingerprintSha256 &&
    existing.payload = command.payload

def insertAgentCommand (command : AgentCommandRecord) :
    Except StoreError AgentCommandRecord × StorageWorld :=
  match sqliteSequence command.acceptedSequence, sqliteSequence command.lastSequence with
  | .error e, _ => (.error e, w)
  | _, .error e => (.error e, w)
  | .ok _, .ok _ =>
    if (w.commands.get? command.commandId).isSome ∨
        w.commands.rows.any (fun row => row.idempotencyKey = command.idempotencyKey) then
      match w.getAgentCommandByIdempotencyKey command.idempotencyKey with
      | .error e => (.error e, w)
      | .ok existing =>
        if sameAgentCommand existing command then
          (.ok existing, w)
        else
          (.error (.corrupt "agent command idempotency identity conflicts with durable state"), w)
    else if (w.operations.operations.get? command.operationId).isNone ∨
        (w.operations.resources.get? command.resourceId).isNone then
      (.error (.database .foreignKeyViolation), w)
    else
      (.ok command, { w with commands := w.commands.put command })

def updateAgentCommand (u : AgentUpdate) : Except StoreError AgentCommandRecord × StorageWorld :=
  let (reply, commands) := updateAgentCommandOnce u w.commands
  (reply, { w with commands := commands })

/-- `update_operation`; the row it reads back is not looked at. -/
def updateOperation (id : Uuid) (state : OperationState)
    (providerOperationId errorCategory errorMessage : Option String) (now : String) :
    Except StoreError Unit × StorageWorld :=
  let (reply, operations) :=
    Transaction.atomically
      (updateOperationBody id state providerOperationId errorCategory errorMessage now)
      w.operations
  (reply, { w with operations := operations })

end StorageWorld

end Storage
end O3k
