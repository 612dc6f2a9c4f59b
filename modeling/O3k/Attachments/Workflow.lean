import O3k.Attachments.Records
import O3k.Relational.Sorting
import O3k.Semantics.Lanes

/-!
# Attaching and detaching a volume

`continueAttach` and `continueDetach` advance a record from its persisted phase
to the end of its flow.  `cinder` says whether the orchestrator has a client of
the external volume service.
-/

namespace O3k
namespace Attachments

open Relational Operations Semantics

variable (cinder : Bool)

variable (projectId : String)

/-- Terminates the attachment, if one was created, and ends in `error`. -/
def compensateAfterCreate (id : Uuid) (cinderAttachmentId : Option String) (reason : String) :
    Orchestrated Unit :=
  match cinderAttachmentId, cinder with
  | some cinderAttachmentId, true => do
    match ← ask (.terminateAttachment projectId cinderAttachmentId) with
    | .ok _ => setPhase id .error (some reason)
    | .error error => setPhase id .unknown (some (reason ++ "; " ++ error.toText))
  | _, _ => setPhase id .error (some reason)

/-- Detaches the device, whatever becomes of that, and goes on as after the
creation. -/
def compensateAfterAttach (id : Uuid) (cinderAttachmentId : Option String) (serverId : Uuid)
    (device : BlockDeviceAttachment) (reason : String) :
    Orchestrated Unit := do
  let _ ← ask (.detachBlockDevice serverId device)
  compensateAfterCreate cinder projectId id cinderAttachmentId reason

def afterFailedObservation (error : AttachmentError) : AttachmentStatus :=
  if error.isUnknownOutcome then .unknown else .error

/-- `observe_before_compensate` where no attachment is known: the attachments of
the volume are observed. -/
def observeVolume (id : Uuid) (volumeId : String) (reason : String) : Orchestrated Unit :=
  match cinder with
  | false => pure ()
  | true => do
    match ← ask (.listAttachments projectId) with
    | .ok attachments =>
      if attachments.any (fun a => a.volumeId = volumeId && a.hasUsableTarget) then
        setPhase id .unknown (some reason)
      else
        setPhase id .error (some reason)
    | .error error =>
      setPhase id (afterFailedObservation error) (some (reason ++ "; " ++ error.toText))

/-- `observe_before_compensate` where the attachment is known. -/
def observeAttachment (id : Uuid) (cinderAttachmentId : String) (reason : String) :
    Orchestrated Unit :=
  match cinder with
  | false => pure ()
  | true => do
    match ← ask (.showAttachment projectId cinderAttachmentId) with
    | .ok attachment =>
      if attachment.hasUsableTarget then
        -- The update took effect: it is left to the reconciler.
        setPhase id .unknown (some reason)
      else
        compensateAfterCreate cinder projectId id (some cinderAttachmentId) reason
    | .error error =>
      setPhase id (afterFailedObservation error) (some (reason ++ "; " ++ error.toText))

def observeBeforeCompensate
    (id : Uuid) (volumeId : String) (cinderAttachmentId : Option String) (reason : String) :
    Orchestrated Unit :=
  match cinderAttachmentId with
  | none => observeVolume cinder projectId id volumeId reason
  | some cinderAttachmentId => observeAttachment cinder projectId id cinderAttachmentId reason

/-- `self.cinder.clone().ok_or(ComputeError::Unavailable)?` -/
def requireCinder : Orchestrated Unit := require (if cinder then .ok () else .error .unavailable)

/-- After an unknown outcome the record is left to the reconciler; after any
other failure it is compensated. -/
def unknownOr
    (unknownOutcome : Bool) (id : Uuid) (reason : String) (compensate : Orchestrated Unit) :
    Orchestrated Unit :=
  if unknownOutcome then setPhase id .unknown (some reason) else compensate

/-- The phase `cinder_attachment_created`. -/
def obtainCinderAttachment (record : VolumeAttachmentRecord) : Orchestrated String :=
  match record.cinderAttachmentId with
  | some id => pure id
  | none => do
    setPhase record.id .cinderAttachmentCreated none
    match ← ask (.createAttachment projectId record.volumeId (some record.serverId)) with
    | .ok attachment => do
      setOutcome record.id .cinderAttachmentCreated
        { cinderAttachmentId := some attachment.id }
      pure attachment.id
    | .error error => do
      unknownOr error.isUnknownOutcome record.id error.toText
        (observeBeforeCompensate cinder projectId record.id record.volumeId none error.toText)
      throw (mapAttachmentError error)

/-- The phase `connector_obtained`. -/
def obtainConnector (cinderAttachmentId : String) (record : VolumeAttachmentRecord) :
    Orchestrated Unit :=
  match record.connectorHost with
  | some _ => pure ()
  | none => do
    setPhase record.id .connectorObtained none
    match ← ask (.collectConnector record.serverId) with
    | .ok connector =>
      setOutcome record.id .connectorObtained
        { connectorHost := some connector.host
          connectorIp := some connector.ip
          connectorInitiator := connector.initiator }
    | .error error => do
      compensateAfterCreate cinder projectId record.id (some cinderAttachmentId) error.toText
      throw (mapProviderError error)

/-- The target of the connection information, or a compensation with a text for
what is wrong with it. -/
def targetOr (info : Option ConnectionInfo) (missing malformed : String)
    (compensate : String → Orchestrated Unit) :
    Orchestrated (ConnectionInfo × AttachmentTarget) :=
  match info with
  | none => do
    compensate missing
    throw .invalidRequest
  | some info =>
    match info.target with
    | none => do
      compensate malformed
      throw .invalidRequest
    | some target => do
      require (validateTarget target)
      pure (info, target)

variable (record : VolumeAttachmentRecord)

def connectionTarget (updated : AttachmentObservation) :
    Orchestrated (ConnectionInfo × AttachmentTarget) :=
  targetOr updated.connectionInfo
    "connection information is missing or null"
    "connection information is malformed"
    (fun reason => do
      let projectId ← projectForServer record.serverId
      observeBeforeCompensate cinder projectId record.id record.volumeId (some updated.id) reason)

def preparedTarget (cinderAttachmentId : String) (record : VolumeAttachmentRecord) :
    Orchestrated (ConnectionInfo × AttachmentTarget) := do
  requireCinder cinder
  match ← ask (.showAttachment projectId cinderAttachmentId) with
  | .error _ => throw .unavailable
  | .ok attachment =>
    targetOr attachment.connectionInfo
      "connection information is missing on observe"
      "connection information is malformed on observe"
      (observeBeforeCompensate cinder projectId record.id record.volumeId (some cinderAttachmentId))

/-- The phase `connection_prepared`. -/
def prepareConnection
    (volumeId : String) (cinderAttachmentId : String) (record : VolumeAttachmentRecord) :
    Orchestrated (ConnectionInfo × AttachmentTarget) :=
  match record.connectionInfoDigest with
  | some _ => preparedTarget cinder projectId cinderAttachmentId record
  | none => do
    setPhase record.id .connectionPrepared none
    match ← ask (.updateAttachmentConnector projectId cinderAttachmentId record.connector) with
    | .ok updated => connectionTarget cinder record updated
    | .error error => do
      unknownOr error.isUnknownOutcome record.id error.toText
        (observeBeforeCompensate cinder projectId record.id volumeId
          (some cinderAttachmentId) error.toText)
      throw (mapAttachmentError error)

def connectionOutcome (info : ConnectionInfo) (target : AttachmentTarget) : AttachmentOutcome where
  driverVolumeType := some target.driverVolumeType
  targetIqn := target.targetIqn
  targetPortal := target.targetPortal
  targetLun := target.targetLun.map asU32
  connectionInfoDigest := some info.digest

/-- The device is there. -/
def recordAttached (id : Uuid) (observation : BlockDeviceObservation) : Orchestrated Unit := do
  setPhase id .computeAttached none
  match observation.devicePath with
  | some path => setOutcome id .computeAttached { device := some path }
  | none => pure ()

/-- The phases `compute_attach_requested` and `compute_attached`. -/
def attachDevice (serverId : Uuid) (volumeId : String) (cinderAttachmentId : String)
    (target : AttachmentTarget) (record : VolumeAttachmentRecord) :
    Orchestrated Unit := do
  setPhase record.id .computeAttachRequested none
  let device := { deviceAttachment record cinderAttachmentId target with volumeId }
  match ← ask (.attachBlockDevice serverId device) with
  | .error error => do
    unknownOr error.isUnknownOutcome record.id error.toText
      (compensateAfterAttach cinder projectId record.id (some cinderAttachmentId) serverId
        device error.toText)
    throw (mapProviderError error)
  | .ok observation =>
    if observation.attached then recordAttached record.id observation
    else do
      compensateAfterAttach cinder projectId record.id (some cinderAttachmentId) serverId
        device "compute device was not attached"
      throw .conflict

/-- `matches!(observed, Ok(Some(o)) if o.attached)`. -/
def isAttached : Except ProviderError (Option BlockDeviceObservation) → Bool
  | .ok (some observation) => observation.attached
  | _ => false

/-- The device is attached, unless it is observed to be. -/
def ensureDevice (serverId : Uuid) (volumeId : String) (cinderAttachmentId : String)
    (target : AttachmentTarget) (record : VolumeAttachmentRecord) :
    Orchestrated Unit := do
  let observed ← ask (.observeBlockDevice serverId volumeId)
  if isAttached observed then setPhase record.id .computeAttached none
  else attachDevice cinder projectId serverId volumeId cinderAttachmentId target record

/-- The phases `cinder_attachment_completed` and `attached`. -/
def completeAttach
    (serverId : Uuid) (cinderAttachmentId : String) (record : VolumeAttachmentRecord) :
    Orchestrated Unit :=
  if record.status = .attached then pure ()
  else do
    setPhase record.id .cinderAttachmentCompleted none
    match ← ask (.completeAttachment projectId cinderAttachmentId) with
    | .ok _ => setPhase record.id .attached none
    | .error error => do
      unknownOr error.isUnknownOutcome record.id error.toText
        (compensateAfterAttach cinder projectId record.id (some cinderAttachmentId) serverId
          record.blockDevice error.toText)
      throw (mapAttachmentError error)

/-- The body of `continue_attach`. -/
def attachSteps (record : VolumeAttachmentRecord) : Orchestrated VolumeAttachmentRecord := do
  requireCinder cinder
  let cinderAttachmentId ← obtainCinderAttachment cinder projectId record
  obtainConnector cinder projectId cinderAttachmentId record
  let prepared := (← getById record.id).getD record
  let (info, target) ←
    prepareConnection cinder projectId record.volumeId cinderAttachmentId prepared
  let connecting ← orNotFound (← getById prepared.id)
  setOutcome connecting.id .connectionPrepared (connectionOutcome info target)
  let connected ← orNotFound (← getById connecting.id)
  ensureDevice cinder projectId record.serverId record.volumeId cinderAttachmentId target connected
  let attached ← orNotFound (← getById connected.id)
  completeAttach cinder projectId record.serverId cinderAttachmentId attached
  orNotFound (← getById attached.id)

def continueAttach (record : VolumeAttachmentRecord) : Orchestrated VolumeAttachmentRecord :=
  withFlight record.id (attachSteps cinder projectId record)

/-- The detach flow is entered from any other phase. -/
def enterDetach : Orchestrated Unit :=
  if isDetachPhase record.status then pure ()
  else setPhase record.id .detachRequested none

/-- The phases `compute_detach_requested` and `compute_detached`. -/
def detachDevice : Orchestrated Unit :=
  if record.status = .detachRequested ∨ record.status = .computeDetachRequested then do
    setPhase record.id .computeDetachRequested none
    match ← ask (.detachBlockDevice record.serverId record.blockDevice) with
    | .ok _ => setPhase record.id .computeDetached none
    | .error error => do
      if error.isUnknownOutcome then
        setPhase record.id .unknown (some ("detach; " ++ error.toText))
      else
        setPhase record.id .computeDetachRequested (some error.toText)
      throw (mapProviderError error)
  else pure ()

/-- The phase `cinder_attachment_terminated`; the record may become `detached`
unless the outcome is unknown. -/
def terminateCinder (record : VolumeAttachmentRecord) : Orchestrated Bool :=
  if record.status = .computeDetached ∨ record.status = .cinderAttachmentTerminated then
    match record.cinderAttachmentId with
    | none => pure true
    | some cinderAttachmentId => do
      setPhase record.id .cinderAttachmentTerminated none
      match ← ask (.terminateAttachment projectId cinderAttachmentId) with
      | .ok _ => pure true
      | .error error =>
        if error.isUnknownOutcome then do
          setPhase record.id .unknown (some ("detach; " ++ error.toText))
          pure false
        else pure true
  else pure true

/-- The body of `continue_detach`. -/
def detachSteps (record : VolumeAttachmentRecord) : Orchestrated Unit := do
  requireCinder cinder
  enterDetach record
  let detaching := (← getById record.id).getD record
  detachDevice detaching
  let detached := (← getById detaching.id).getD detaching
  if ← terminateCinder projectId detached then
    setPhase detached.id .detached none

def continueDetach (record : VolumeAttachmentRecord) : Orchestrated Unit :=
  withFlight record.id (detachSteps cinder projectId record)

end Attachments
end O3k

/-!
# The attachment reconciler

One pass takes the records that are not terminal one by one; the first whose
reconciliation ends with an error ends the pass.
-/

namespace O3k
namespace Attachments

open Relational Operations Semantics

section Record

variable (cinder : Bool)

/-- `continue_attach(&project, fresh.as_ref().unwrap_or(record)).await?` -/
def resumeAttach (projectId : String) (record : VolumeAttachmentRecord) : Orchestrated Unit := do
  let fresh := (← getById record.id).getD record
  let _ ← continueAttach cinder projectId fresh

/-- The branch of `reconcile_unknown` for a record without an attachment: the
attachments of the volume are observed. -/
def reconcileUncreated (projectId : String) (record : VolumeAttachmentRecord) :
    Orchestrated Unit := do
  match ← ask (.listAttachments projectId) with
  | .ok attachments =>
    match attachments.find? (fun a => a.volumeId = record.volumeId) with
    | some observed => do
      setOutcome record.id .cinderAttachmentCreated
        { cinderAttachmentId := some observed.id }
      resumeAttach cinder projectId record
    | none => setPhase record.id .error (some "no cinder attachment was observed for the volume")
  | .error error => setPhase record.id (afterFailedObservation error) (some error.toText)

def resumedPhase (attachment : AttachmentObservation) : AttachmentStatus :=
  if attachment.hasUsableTarget then .connectionPrepared else .cinderAttachmentCreated

/-- `"attaching" | "reserved"` -/
def isOpenState (status : String) : Bool := status = "attaching" || status = "reserved"

/-- The branch of `reconcile_unknown` for a record with an attachment. -/
def reconcileCreated
    (projectId : String) (cinderAttachmentId : String) (record : VolumeAttachmentRecord) :
    Orchestrated Unit := do
  match ← ask (.showAttachment projectId cinderAttachmentId) with
  | .ok attachment =>
    if attachment.status = "attached" then
      setPhase record.id .attached none
    else if isOpenState attachment.status then do
      setPhase record.id (resumedPhase attachment) none
      resumeAttach cinder projectId record
    else
      setPhase record.id .error (some ("cinder attachment is in state " ++ attachment.status))
  | .error (.notFound _) => do
    let _ ← ask (.detachBlockDevice record.serverId record.blockDevice)
    setPhase record.id .error (some "cinder attachment no longer exists")
  | .error error => setPhase record.id (afterFailedObservation error) (some error.toText)

variable (record : VolumeAttachmentRecord)

def VolumeAttachmentRecord.isDetachUnknown : Bool := record.error.any (·.startsWith "detach")

def reconcileUnknown : Orchestrated Unit :=
  if record.isDetachUnknown then do
    let projectId ← projectForServer record.serverId
    let _ ← attempt (continueDetach cinder projectId record)
  else
    match cinder with
    | false => setPhase record.id .error (some "cinder client is not configured")
    | true => do
      let projectId ← projectForServer record.serverId
      match record.cinderAttachmentId with
      | none => reconcileUncreated cinder projectId record
      | some cinderAttachmentId => reconcileCreated cinder projectId cinderAttachmentId record

/-- The branch of `reconcile_in_progress` for a record in its attach flow. -/
def reconcileAttaching (projectId : String) (record : VolumeAttachmentRecord) :
    Orchestrated Unit := do
  let observed ← ask (.observeBlockDevice record.serverId record.volumeId)
  if isAttached observed then do
    setPhase record.id .computeAttached none
    resumeAttach cinder projectId record
  else do
    let fresh := (← getById record.id).getD record
    let _ ← attempt (continueAttach cinder projectId fresh)

def reconcileInProgress : Orchestrated Unit := do
  let projectId ← projectForServer record.serverId
  let fresh := (← getById record.id).getD record
  if isDetachPhase fresh.status then do
    let _ ← attempt (continueDetach cinder projectId fresh)
  else
    reconcileAttaching cinder projectId fresh

def reconcileRecord : Orchestrated Unit :=
  if record.status = .unknown then reconcileUnknown cinder record
  else reconcileInProgress cinder record

end Record

/-- `list_volume_attachments_by_status(TERMINAL_STATUSES)`. -/
def AttachmentStore.listed (w : AttachmentStore) : List VolumeAttachmentRecord :=
  sortBy VolumeAttachmentRecord.createdAt
    (w.attachments.rows.filter (fun r => r.status ∉ terminalStatuses))

/-- A call of the pass: a call for one record carries the record. -/
inductive PassCall
  | listByStatus
  | isInFlight (id : Uuid)
  | about (id : Uuid) (c : AttachmentCall)

abbrev PassReply : PassCall → Type
  | .listByStatus => Except StoreError (List VolumeAttachmentRecord)
  | .isInFlight _ => Bool
  | .about _ c => AttachmentReply c

/-- A store, and the calls that were made for each record. -/
structure PassWorld where
  store : AttachmentStore
  asked : Uuid → List AttachmentCall

/-- What the environment answers in a pass: to the listing, and to each call
that is made for a record. -/
structure PassAnswers where
  listing : Option Fault
  answers : Uuid → Nat → Answer

def passExec (env : PassAnswers) : (c : PassCall) → PassWorld → PassReply c × PassWorld
  | .listByStatus, w => (received env.listing (.ok w.store.listed), w)
  | .isInFlight id, w => (w.store.inFlight id, w)
  | .about id c, w =>
    let answered := exec c (env.answers id (w.asked id).length) w.store
    (answered.1, ⟨answered.2, Function.update w.asked id (w.asked id ++ [c])⟩)

abbrev PassProgram := Program PassCall PassReply

def forRecord {α : Type} (id : Uuid) (p : Orchestrated α) : ExceptT ComputeError PassProgram α :=
  ExceptT.mk (Program.via (PassCall.about id) (fun _ reply => reply) p.run)

/-- One round of the loop. -/
def reconcileStep (cinder : Bool) (record : VolumeAttachmentRecord) :
    ExceptT ComputeError PassProgram Unit := do
  let inFlight ← ExceptT.lift (Program.perform (PassCall.isInFlight record.id))
  if inFlight then pure ()
  else forRecord record.id (reconcileRecord cinder record)

def reconcile (cinder : Bool) : ExceptT ComputeError PassProgram Unit := do
  match ← ExceptT.lift (Program.perform PassCall.listByStatus) with
  | Except.ok records => Program.sweep (reconcileStep cinder) records
  | Except.error error => throw (.store error)

def pass (cinder : Bool) (env : PassAnswers) (w : PassWorld) :
    Except ComputeError Unit × PassWorld :=
  Program.alone (passExec env) (reconcile cinder).run w

end Attachments
end O3k
