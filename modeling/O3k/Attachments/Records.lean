import O3k.Operations.Records
import O3k.Semantics.Attempts

/-!
# Volume attachments

The durable record of a volume attachment with its phases, what the external
volume service answers about an attachment, and what the compute boundary
answers about a block device.
-/

namespace O3k
namespace Attachments

open Relational Operations Semantics

inductive AttachmentError
  | invalidRequest (detail : String)
  | notFound (detail : String)
  | conflict (detail : String)
  | unauthorized
  | unavailable
  | protocol (detail : String)
  | unknownOutcome (detail : String)
  deriving DecidableEq

namespace AttachmentError

/-- The outcome on the side of the service is not known. -/
def isUnknownOutcome : AttachmentError → Bool
  | .unknownOutcome _ | .unavailable | .protocol _ => true
  | _ => false

def toText : AttachmentError → String
  | .invalidRequest detail => s!"attachment service rejected the request: {detail}"
  | .notFound detail => s!"attachment resource was not found: {detail}"
  | .conflict detail => s!"attachment operation conflicts: {detail}"
  | .unauthorized => "attachment service authentication failed"
  | .unavailable => "attachment service is unavailable"
  | .protocol detail => s!"attachment response was malformed: {detail}"
  | .unknownOutcome detail => s!"attachment outcome is unknown: {detail}"

end AttachmentError

inductive ProviderError
  | invalidRequest
  | notFound
  | conflict
  | capacity
  | retryable
  | unknownOutcome (operationId : Uuid)
  | terminal
  | staleState
  | storage
  | unsupportedBlockDevice (detail : String)
  deriving DecidableEq

namespace ProviderError

def isUnknownOutcome : ProviderError → Bool
  | .unknownOutcome _ | .retryable | .staleState => true
  | _ => false

def toText : ProviderError → String
  | .invalidRequest => "provider rejected the request"
  | .notFound => "provider resource was not found"
  | .conflict => "provider operation conflicts with existing state"
  | .capacity => "provider capacity is unavailable"
  | .retryable => "provider returned a retryable failure"
  | .unknownOutcome operationId => s!"provider outcome is unknown; observe operation {operationId}"
  | .terminal => "provider returned a terminal failure"
  | .staleState => "provider state is unavailable"
  | .storage => "provider fake storage is unavailable"
  | .unsupportedBlockDevice _ =>
    "provider does not support block-device attachment for this connector"

end ProviderError

/-- What the orchestrator returns of `ComputeError`. -/
inductive ComputeError
  | notFound
  | conflict
  | invalidRequest
  | unavailable
  | store (error : StoreError)
  | provider (error : ProviderError)
  deriving DecidableEq

def mapAttachmentError : AttachmentError → ComputeError
  | .notFound _ => .notFound
  | .conflict _ => .conflict
  | .invalidRequest _ => .invalidRequest
  | .unauthorized | .unavailable | .unknownOutcome _ | .protocol _ => .unavailable

def mapProviderError : ProviderError → ComputeError
  | .notFound => .notFound
  | .conflict => .conflict
  | .invalidRequest | .unsupportedBlockDevice _ => .invalidRequest
  | .unknownOutcome _ | .staleState => .unavailable
  | other => .provider other

structure AttachmentTarget where
  driverVolumeType : String
  targetIqn : Option String
  targetPortal : Option String
  targetLun : Option Nat
  localPath : Option String
  authMethod : Option String
  authUsername : Option String
  authPassword : Option String
  deriving DecidableEq

/-- `ConnectionInfo`, as far as it is used. -/
structure ConnectionInfo where
  digest : String
  target : Option AttachmentTarget
  deriving DecidableEq

def ConnectionInfo.hasUsableTarget (info : ConnectionInfo) : Bool :=
  match info.target with
  | some target =>
    if target.driverVolumeType = "iscsi" then
      target.targetIqn.isSome && target.targetPortal.isSome
    else if target.driverVolumeType = "local" then
      target.localPath.isSome
    else false
  | none => false

structure AttachmentObservation where
  id : String
  status : String
  volumeId : String
  connectionInfo : Option ConnectionInfo
  deriving DecidableEq

/-- `attachment.connection_info.map(|info| info.has_usable_target()).unwrap_or(false)`. -/
def AttachmentObservation.hasUsableTarget (attachment : AttachmentObservation) : Bool :=
  attachment.connectionInfo.any ConnectionInfo.hasUsableTarget

structure ComputeConnector where
  host : String
  ip : String
  platform : String
  osType : String
  multipath : Bool
  initiator : Option String
  deriving DecidableEq

/-- `eq_ignore_ascii_case`. -/
def sameIgnoringCase (a b : String) : Bool := a.toList.map Char.toLower = b.toList.map Char.toLower

/-- The authentication fields are all there, for CHAP, or all absent. -/
def validateAuth (target : AttachmentTarget) : Except ComputeError Unit :=
  match target.authMethod, target.authUsername, target.authPassword with
  | some method, some _, some _ =>
    if sameIgnoringCase method "CHAP" then .ok () else .error .invalidRequest
  | none, none, none => .ok ()
  | _, _, _ => .error .invalidRequest

def validateTarget (target : AttachmentTarget) : Except ComputeError Unit :=
  if target.driverVolumeType = "iscsi" then
    if target.targetIqn.isNone || target.targetPortal.isNone then .error .invalidRequest
    else validateAuth target
  else if target.driverVolumeType = "local" then
    if target.localPath.isNone then .error .invalidRequest
    else validateAuth target
  else .error .unavailable

/-- `ConnectorInfo`, as far as it is used. -/
structure ConnectorInfo where
  host : String
  ip : String
  initiator : Option String
  deriving DecidableEq

structure BlockDeviceAttachment where
  volumeId : String
  attachmentId : String
  driverVolumeType : String
  targetIqn : Option String
  targetPortal : Option String
  targetLun : Option Nat
  localPath : Option String
  devicePath : Option String
  multipath : Bool
  initiator : Option String
  authMethod : Option String
  authUsername : Option String
  authPassword : Option String
  deriving DecidableEq

/-- `BlockDeviceObservation`, as far as it is used. -/
structure BlockDeviceObservation where
  devicePath : Option String
  attached : Bool
  deriving DecidableEq

/-- The values of the column `status`. -/
inductive AttachmentStatus
  | validated
  | cinderAttachmentCreated
  | connectorObtained
  | connectionPrepared
  | computeAttachRequested
  | computeAttached
  | cinderAttachmentCompleted
  | attached
  | detachRequested
  | computeDetachRequested
  | computeDetached
  | cinderAttachmentTerminated
  | detached
  | error
  | unknown
  deriving DecidableEq

def terminalStatuses : List AttachmentStatus := [.attached, .detached, .error]

def isDetachPhase : AttachmentStatus → Bool
  | .detachRequested | .computeDetachRequested | .computeDetached
  | .cinderAttachmentTerminated => true
  | _ => false

/-- `VolumeAttachmentRecord`, the columns that the orchestrator reads or
advances. -/
structure VolumeAttachmentRecord where
  id : Uuid
  serverId : Uuid
  volumeId : Uuid
  device : String
  createdAt : String
  status : AttachmentStatus
  cinderAttachmentId : Option String
  connectorHost : Option String
  connectorIp : Option String
  connectorInitiator : Option String
  driverVolumeType : Option String
  targetIqn : Option String
  targetPortal : Option String
  targetLun : Option Nat
  connectionInfoDigest : Option String
  error : Option String
  deriving DecidableEq

/-- What `update_volume_attachment_outcome` may set besides the status. -/
structure AttachmentOutcome where
  cinderAttachmentId : Option String := none
  connectorHost : Option String := none
  connectorIp : Option String := none
  connectorInitiator : Option String := none
  driverVolumeType : Option String := none
  targetIqn : Option String := none
  targetPortal : Option String := none
  targetLun : Option Nat := none
  connectionInfoDigest : Option String := none
  device : Option String := none
  deriving DecidableEq

namespace VolumeAttachmentRecord

variable (record : VolumeAttachmentRecord)

/-- `UPDATE volume_attachments SET status = ?, error = ?`. -/
def withPhase (status : AttachmentStatus) (error : Option String) : VolumeAttachmentRecord :=
  { record with status, error }

/-- `UPDATE volume_attachments SET status = ?, column = COALESCE(?, column), ..`. -/
def withOutcome (status : AttachmentStatus) (outcome : AttachmentOutcome) :
    VolumeAttachmentRecord :=
  { record with
    status
    cinderAttachmentId := outcome.cinderAttachmentId.or record.cinderAttachmentId
    connectorHost := outcome.connectorHost.or record.connectorHost
    connectorIp := outcome.connectorIp.or record.connectorIp
    connectorInitiator := outcome.connectorInitiator.or record.connectorInitiator
    driverVolumeType := outcome.driverVolumeType.or record.driverVolumeType
    targetIqn := outcome.targetIqn.or record.targetIqn
    targetPortal := outcome.targetPortal.or record.targetPortal
    targetLun := outcome.targetLun.or record.targetLun
    connectionInfoDigest := outcome.connectionInfoDigest.or record.connectionInfoDigest
    device := outcome.device.getD record.device }

/-- `block_device_from_record`. -/
def blockDevice : BlockDeviceAttachment where
  volumeId := record.volumeId
  attachmentId := record.cinderAttachmentId.getD record.id
  driverVolumeType := record.driverVolumeType.getD ""
  targetIqn := record.targetIqn
  targetPortal := record.targetPortal
  targetLun := record.targetLun
  localPath := none
  devicePath := none
  multipath := false
  initiator := record.connectorInitiator
  authMethod := none
  authUsername := none
  authPassword := none

/-- The connector that is sent to the service. -/
def connector : ComputeConnector where
  host := record.connectorHost.getD ""
  ip := record.connectorIp.getD ""
  platform := "x86_64"
  osType := "linux"
  multipath := false
  initiator := record.connectorInitiator

end VolumeAttachmentRecord

/-- `value as u32`. -/
def asU32 (value : Nat) : Nat := value % 2 ^ 32

def deviceAttachment
    (record : VolumeAttachmentRecord) (cinderAttachmentId : String) (target : AttachmentTarget) :
    BlockDeviceAttachment where
  volumeId := record.volumeId
  attachmentId := cinderAttachmentId
  driverVolumeType := target.driverVolumeType
  targetIqn := target.targetIqn
  targetPortal := target.targetPortal
  targetLun := target.targetLun.map asU32
  localPath := target.localPath
  devicePath := none
  multipath := false
  initiator := record.connectorInitiator
  authMethod := target.authMethod
  authUsername := target.authUsername
  authPassword := target.authPassword

/-!
# The calls of the attachment orchestrator

What the store does with a statement is modelled; whether it fails, and what the
volume service and the compute boundary answer, is up to the environment.
-/

inductive AttachmentCall
  | enterFlight (id : Uuid)
  | leaveFlight (id : Uuid)
  | getResource (id : Uuid)
  | getVolumeAttachmentById (id : Uuid)
  | updatePhase (id : Uuid) (status : AttachmentStatus) (error : Option String)
  | updateOutcome (id : Uuid) (status : AttachmentStatus) (outcome : AttachmentOutcome)
  | createAttachment (projectId volumeId : String) (serverId : Option String)
  | updateAttachmentConnector (projectId attachmentId : String) (connector : ComputeConnector)
  | completeAttachment (projectId attachmentId : String)
  | terminateAttachment (projectId attachmentId : String)
  | showAttachment (projectId attachmentId : String)
  | listAttachments (projectId : String)
  | collectConnector (serverId : Uuid)
  | attachBlockDevice (serverId : Uuid) (device : BlockDeviceAttachment)
  | detachBlockDevice (serverId : Uuid) (device : BlockDeviceAttachment)
  | observeBlockDevice (serverId : Uuid) (volumeId : String)
  deriving DecidableEq

abbrev AttachmentReply : AttachmentCall → Type
  | .enterFlight _ | .leaveFlight _ => Unit
  | .getResource _ => Except StoreError ResourceRecord
  | .getVolumeAttachmentById _ => Except StoreError (Option VolumeAttachmentRecord)
  | .updatePhase .. | .updateOutcome .. => Except StoreError VolumeAttachmentRecord
  | .createAttachment .. | .updateAttachmentConnector .. | .showAttachment .. =>
    Except AttachmentError AttachmentObservation
  | .completeAttachment .. | .terminateAttachment .. => Except AttachmentError Unit
  | .listAttachments _ => Except AttachmentError (List AttachmentObservation)
  | .collectConnector _ => Except ProviderError ConnectorInfo
  | .attachBlockDevice .. | .detachBlockDevice .. => Except ProviderError BlockDeviceObservation
  | .observeBlockDevice .. => Except ProviderError (Option BlockDeviceObservation)

/-- The durable tables and the set of the attachments in flight. -/
structure AttachmentStore where
  attachments : Table VolumeAttachmentRecord.id
  resources : Table ResourceRecord.id
  inFlight : Uuid → Bool

/-- How a statement fails: it is refused, or it is carried out and its result
does not arrive. -/
inductive Fault
  | refused (error : StoreError)
  | lost (error : StoreError)
  deriving DecidableEq

def Fault.error : Fault → StoreError
  | .refused error | .lost error => error

/-- What the environment answers to a call; each call looks at its own field. -/
structure Answer where
  fault : Option Fault := none
  attachment : Except AttachmentError AttachmentObservation := .error .unavailable
  ended : Except AttachmentError Unit := .error .unavailable
  listed : Except AttachmentError (List AttachmentObservation) := .error .unavailable
  connector : Except ProviderError ConnectorInfo := .error .storage
  device : Except ProviderError BlockDeviceObservation := .error .storage
  observed : Except ProviderError (Option BlockDeviceObservation) := .error .storage

/-- The result of a query, if it arrives. -/
def received {α : Type} (fault : Option Fault) (result : Except StoreError α) :
    Except StoreError α :=
  match fault with
  | some f => .error f.error
  | none => result

namespace AttachmentStore

/-- `UPDATE volume_attachments .. WHERE id = ?`. -/
def updateById
    (w : AttachmentStore) (id : Uuid) (f : VolumeAttachmentRecord → VolumeAttachmentRecord)
    (hid : ∀ r, (f r).id = r.id) :
    AttachmentStore :=
  { w with
    attachments :=
      w.attachments.update (fun r => if r.id = id then f r else r) (by
        intro r
        split
        · exact hid r
        · rfl) }

/-- An `UPDATE` and the read of the row that follows it. -/
def advance (w : AttachmentStore) (fault : Option Fault) (id : Uuid)
    (f : VolumeAttachmentRecord → VolumeAttachmentRecord) (hid : ∀ r, (f r).id = r.id) :
    Except StoreError VolumeAttachmentRecord × AttachmentStore :=
  match fault with
  | some (.refused error) => (.error error, w)
  | some (.lost error) => (.error error, w.updateById id f hid)
  | none =>
    (((w.updateById id f hid).attachments.get? id).elim (.error .resourceNotFound) .ok,
      w.updateById id f hid)

end AttachmentStore

/-- What a call replies and makes of the store. -/
def exec :
    (c : AttachmentCall) → Answer → AttachmentStore → AttachmentReply c × AttachmentStore
  | .enterFlight id, _, w => ((), { w with inFlight := Function.update w.inFlight id true })
  | .leaveFlight id, _, w => ((), { w with inFlight := Function.update w.inFlight id false })
  | .getResource id, x, w =>
    (received x.fault ((w.resources.get? id).elim (.error .resourceNotFound) .ok), w)
  | .getVolumeAttachmentById id, x, w => (received x.fault (.ok (w.attachments.get? id)), w)
  | .updatePhase id status error, x, w =>
    w.advance x.fault id (·.withPhase status error) (fun _ => rfl)
  | .updateOutcome id status outcome, x, w =>
    w.advance x.fault id (·.withOutcome status outcome) (fun _ => rfl)
  | .createAttachment .., x, w => (x.attachment, w)
  | .updateAttachmentConnector .., x, w => (x.attachment, w)
  | .completeAttachment .., x, w => (x.ended, w)
  | .terminateAttachment .., x, w => (x.ended, w)
  | .showAttachment .., x, w => (x.attachment, w)
  | .listAttachments _, x, w => (x.listed, w)
  | .collectConnector _, x, w => (x.connector, w)
  | .attachBlockDevice .., x, w => (x.device, w)
  | .detachBlockDevice .., x, w => (x.device, w)
  | .observeBlockDevice .., x, w => (x.observed, w)

abbrev AttachmentProgram := Program AttachmentCall AttachmentReply

abbrev Orchestrated (α : Type) := ExceptT ComputeError AttachmentProgram α

def ask (c : AttachmentCall) : Orchestrated (AttachmentReply c) := ExceptT.lift (Program.perform c)

/-- `?` on a reply of the store. -/
def given {α : Type} : Except StoreError α → Orchestrated α
  | .ok a => pure a
  | .error error => throw (.store error)

/-- `?` on a result. -/
def require {α : Type} (result : Except ComputeError α) : Orchestrated α := ExceptT.mk (pure result)

/-- `.ok_or(ComputeError::NotFound)?` -/
def orNotFound {α : Type} : Option α → Orchestrated α
  | some a => pure a
  | none => throw .notFound

/-- A method whose result is looked at, or dropped, by its caller. -/
def attempt {α : Type} (p : Orchestrated α) : Orchestrated (Except ComputeError α) :=
  ExceptT.lift p.run

/-- `get_volume_attachment_by_id(id).await?` -/
def getById (id : Uuid) : Orchestrated (Option VolumeAttachmentRecord) := do
  given (← ask (.getVolumeAttachmentById id))

def setPhase (id : Uuid) (status : AttachmentStatus) (error : Option String) :
    Orchestrated Unit := do
  let _ ← given (← ask (.updatePhase id status error))

def setOutcome (id : Uuid) (status : AttachmentStatus) (outcome : AttachmentOutcome) :
    Orchestrated Unit := do
  let _ ← given (← ask (.updateOutcome id status outcome))

def projectForServer (serverId : Uuid) : Orchestrated String := do
  let resource ← given (← ask (.getResource serverId))
  pure resource.projectId

/-- The attachment is in flight until the method returns, on any path. -/
def withFlight {α : Type} (id : Uuid) (p : Orchestrated α) : Orchestrated α := do
  ask (.enterFlight id)
  let result ← attempt p
  ask (.leaveFlight id)
  require result

end Attachments
end O3k
