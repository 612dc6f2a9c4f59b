import O3k.Journal.Records
import O3k.Semantics.Attempts

/-!
# The calls of the journal

What the journal calls: its store, the metering observer, and its own memory,
which holds the fences and the list of events and is lost with the process.

A statement that fails may have taken effect; the environment answers which.
-/

namespace O3k
namespace Journal

open Relational Relational.Transaction Semantics Operations

structure ProviderReference where
  resourceId : Uuid
  providerName : String
  providerResourceId : String
  deriving DecidableEq

/-- The primary key `(resource_id, provider_name)`. -/
def ProviderReference.key (r : ProviderReference) : String ×ₗ String :=
  toLex (r.resourceId, r.providerName)

/-- A row of `observation_watermarks`. -/
structure ObservationWatermark where
  resourceId : Uuid
  agentEpoch : String
  observationSequence : Nat
  deriving DecidableEq

structure ObservationUpdate where
  projection : ResourceProjection
  agentEpoch : String
  observationSequence : Nat
  deriving DecidableEq

def ObservationWatermark.covers (watermark : ObservationWatermark) (update : ObservationUpdate) :
    Bool :=
  watermark.agentEpoch = update.agentEpoch &&
    update.observationSequence ≤ watermark.observationSequence

/-- The rows that the journal works on, its memory, and the agents' registry.
`newestCommand` is the order that `created_at` gives to the command rows of an
operation. -/
structure JournalWorld where
  tables : OperationTables
  commands : AgentCommands
  newestCommand : Uuid → Option String
  references : Table ProviderReference.key
  watermarks : Table ObservationWatermark.resourceId
  registry : Option AgentNodeRegistry
  agentEvidence : Uuid → Option AgentEvidenceFence
  observationEvidence : Uuid → Option ObservationEvidenceFence
  events : List JournalEvent

namespace JournalWorld

variable (w : JournalWorld)

@[simps] def withTables (tables : OperationTables) : JournalWorld :=
  { w with tables := tables }

@[simps] def withCommands (commands : AgentCommands) : JournalWorld :=
  { w with commands := commands }

@[simps] def withReferences (references : Table ProviderReference.key) : JournalWorld :=
  { w with references := references }

/-- A body on the operation tables, in one transaction. -/
def onTables {α : Type} (body : Body α) : Except StoreError α × JournalWorld :=
  let (reply, tables) := atomically body w.tables
  (reply, w.withTables tables)

def getOperation (id : Uuid) : Except StoreError OperationRecord :=
  (w.tables.operations.get? id).elim (.error .operationNotFound) .ok

def getResource (id : Uuid) : Except StoreError ResourceRecord :=
  (w.tables.resources.get? id).elim (.error .resourceNotFound) .ok

def getAgentCommand (commandId : String) : Except StoreError AgentCommandRecord :=
  (w.commands.get? commandId).elim (.error .operationNotFound) .ok

/-- The newest command row of the operation. -/
def commandOf (operationId : Uuid) : Option AgentCommandRecord :=
  ((w.newestCommand operationId).bind w.commands.get?).filter
    (fun c => c.operationId = operationId)

def getAgentCommandByOperation (operationId : Uuid) : Except StoreError AgentCommandRecord :=
  (w.commandOf operationId).elim (.error .operationNotFound) .ok

def referenceOf (resourceId : Uuid) (providerName : String) : Option ProviderReference :=
  w.references.get? (toLex (resourceId, providerName))

def getProviderReference (resourceId : Uuid) (providerName : String) :
    Except StoreError ProviderReference :=
  (w.referenceOf resourceId providerName).elim (.error .providerReferenceNotFound) .ok

/-- `UNIQUE (provider_name, provider_resource_id)` beside the primary key. -/
def referenceTaken (reference : ProviderReference) : Bool :=
  (w.referenceOf reference.resourceId reference.providerName).isSome ||
    w.references.rows.any
      (fun r => r.providerName = reference.providerName ∧
        r.providerResourceId = reference.providerResourceId)

def attachProviderReference (reference : ProviderReference) : Except StoreError Unit × JournalWorld :=
  if w.referenceTaken reference then
    (.error .providerReferenceAlreadyExists, w)
  else if (w.tables.resources.get? reference.resourceId).isNone then
    (.error (.database .foreignKeyViolation), w)
  else
    (.ok (), w.withReferences (w.references.put reference))

def updateAgentCommand (update : AgentUpdate) : Except StoreError AgentCommandRecord × JournalWorld :=
  let (reply, commands) := updateAgentCommandOnce update w.commands
  (reply, w.withCommands commands)

/-- `observation_update_in_transaction`; the row is read back. -/
def updateResourceFromObservation (update : ObservationUpdate) :
    Except StoreError ResourceRecord × JournalWorld :=
  match w.tables.resources.get? update.projection.resourceId with
  | none => (.error .resourceNotFound, w)
  | some current =>
    if current.generation ≠ update.projection.expectedGeneration then
      (.error .staleGeneration, w)
    else if (w.watermarks.get? update.projection.resourceId).any
        (fun watermark => watermark.covers update) then
      (.ok current, w)
    else
      match projectResource update.projection w.tables with
      | .error error => (.error error, w)
      | .ok ((), tables) =>
        if integerMax < update.observationSequence then
          (.error (.corrupt "observation sequence exceeds SQLite range"), w)
        else
          ((w.withTables tables).getResource update.projection.resourceId,
            { w.withTables tables with
              watermarks := w.watermarks.put
                ⟨update.projection.resourceId, update.agentEpoch, update.observationSequence⟩ })

/-- `update_resource`; the row is read back. -/
def updateResource (projection : ResourceProjection) : Except StoreError Unit × JournalWorld :=
  w.onTables (projectResource projection)

def rememberEvidence (operationId : Uuid) (next : AgentEvidenceFence) :
    Except ReconcileError EvidenceDisposition →
      Except ReconcileError EvidenceDisposition × JournalWorld
  | .ok .new =>
    (.ok .new, { w with agentEvidence := Function.update w.agentEvidence operationId (some next) })
  | reply => (reply, w)

def rememberObservation (operationId : Uuid) (next : ObservationEvidenceFence) :
    Except ReconcileError EvidenceDisposition →
      Except ReconcileError EvidenceDisposition × JournalWorld
  | .ok .new =>
    (.ok .new,
      { w with
        observationEvidence := Function.update w.observationEvidence operationId (some next) })
  | reply => (reply, w)

/-- What the process forgets when it restarts; its agents have to register
again. -/
def restarted : JournalWorld :=
  { w with
    registry := w.registry.map (fun _ _ => none)
    agentEvidence := fun _ => none
    observationEvidence := fun _ => none
    events := [] }

/-- A registration replaces the epoch of its agent. -/
def registered (agentId agentEpoch : String) : JournalWorld :=
  { w with
    registry := w.registry.map (fun epochs => Function.update epochs agentId (some agentEpoch)) }

end JournalWorld

inductive JournalCall
  | getOperation (id : Uuid)
  | getAgentCommand (commandId : String)
  | getAgentCommandByOperation (operationId : Uuid)
  | getResource (id : Uuid)
  | getProviderReference (resourceId : Uuid) (providerName : String)
  | attachProviderReference (reference : ProviderReference)
  | updateAgentCommand (update : AgentUpdate)
  | updateOperation (id : Uuid) (state : OperationState)
      (providerOperationId errorCategory errorMessage : Option String)
  | updateResource (projection : ResourceProjection)
  | updateResourceFromObservation (update : ObservationUpdate)
  | terminalizeLifecycle (terminalization : LifecycleTerminalization)
  | observeResourceState (kind projectId resourceId observedState : String)
  | fenceAgentEvidence (operationId : Uuid) (next : AgentEvidenceFence)
  | fenceAgentObservation (operationId : Uuid) (next : ObservationEvidenceFence)
  | event (event : JournalEvent)
  deriving DecidableEq

namespace JournalCall

abbrev Reply : JournalCall → Type
  | getOperation _ => Except StoreError OperationRecord
  | getAgentCommand _ => Except StoreError AgentCommandRecord
  | getAgentCommandByOperation _ => Except StoreError AgentCommandRecord
  | getResource _ => Except StoreError ResourceRecord
  | getProviderReference _ _ => Except StoreError ProviderReference
  | attachProviderReference _ => Except StoreError Unit
  | updateAgentCommand _ => Except StoreError AgentCommandRecord
  | updateOperation _ _ _ _ _ => Except StoreError Unit
  | updateResource _ => Except StoreError Unit
  | updateResourceFromObservation _ => Except StoreError ResourceRecord
  | terminalizeLifecycle _ => Except StoreError Unit
  | observeResourceState _ _ _ _ => Except ReconcileError Unit
  | fenceAgentEvidence _ _ => Except ReconcileError EvidenceDisposition
  | fenceAgentObservation _ _ => Except ReconcileError EvidenceDisposition
  | event _ => Unit

end JournalCall

/-- What the environment answers: the error of the store, whether a statement
that fails has taken effect, the error of the metering observer, and the time
of a statement. -/
structure JournalAnswer where
  storeError : Option StoreError
  takesEffect : Bool
  meteringError : Option String
  now : String
  deriving DecidableEq

namespace JournalAnswer

/-- A query that fails or is answered from the store. -/
def query {α : Type} (x : JournalAnswer) (w : JournalWorld) (reply : Except StoreError α) :
    Except StoreError α × JournalWorld :=
  match x.storeError with
  | none => (reply, w)
  | some error => (.error error, w)

/-- A statement that fails, before or after it takes effect, or is replied to. -/
def statement {α : Type}
    (x : JournalAnswer) (w : JournalWorld) (result : Except StoreError α × JournalWorld) :
    Except StoreError α × JournalWorld :=
  match x.storeError with
  | none => result
  | some error => (.error error, if x.takesEffect then result.2 else w)

end JournalAnswer

def flawless (now : String) : JournalAnswer := ⟨none, true, none, now⟩

def exec : (c : JournalCall) → JournalAnswer → JournalWorld → c.Reply × JournalWorld
  | .getOperation id, x, w => x.query w (w.getOperation id)
  | .getAgentCommand commandId, x, w => x.query w (w.getAgentCommand commandId)
  | .getAgentCommandByOperation operationId, x, w =>
    x.query w (w.getAgentCommandByOperation operationId)
  | .getResource id, x, w => x.query w (w.getResource id)
  | .getProviderReference resourceId providerName, x, w =>
    x.query w (w.getProviderReference resourceId providerName)
  | .attachProviderReference reference, x, w => x.statement w (w.attachProviderReference reference)
  | .updateAgentCommand update, x, w => x.statement w (w.updateAgentCommand update)
  | .updateOperation id state providerOperationId errorCategory errorMessage, x, w =>
    x.statement w
      (w.onTables
        (updateOperationBody id state providerOperationId errorCategory errorMessage x.now))
  | .updateResource projection, x, w => x.statement w (w.updateResource projection)
  | .updateResourceFromObservation update, x, w =>
    x.statement w (w.updateResourceFromObservation update)
  | .terminalizeLifecycle terminalization, x, w =>
    x.statement w (w.onTables (do
      fromExcept terminalization.validate
      terminalizeLifecycleBody terminalization x.now))
  | .observeResourceState _ _ _ _, x, w =>
    (x.meteringError.elim (.ok ()) (fun detail => .error (.metering detail)), w)
  | .fenceAgentEvidence operationId next, _, w =>
    w.rememberEvidence operationId next
      (Journal.fenceAgentEvidence w.registry (w.agentEvidence operationId) next)
  | .fenceAgentObservation operationId next, _, w =>
    w.rememberObservation operationId next
      (Journal.fenceAgentObservation w.registry (w.observationEvidence operationId) next)
  | .event event, _, w => ((), { w with events := w.events ++ [event] })

end Journal
end O3k
