import O3k.Compute.Intents
import O3k.Semantics.Window

/-!
# Cleanup of the ports of deleted servers

A controller process serialises its cleanups and its port-attaching creates by
a mutex of its own, `orphan_repair_lock`; all processes share the store and the
network service.  A cleanup lists the servers, computes the ports they refer
to, and unbinds or releases ports that are not among them.

An attempt is a process and a number.  An attempt that finds the mutex taken
ends here; one that waits for the mutex is one that makes its call later.
-/

namespace O3k
namespace Compute

open Semantics Operations Relational

/-- The process that makes the attempt and its number there. -/
abbrev Attempt : Type := Nat × Nat

structure EndpointWorld where
  tables : OperationTables
  /-- The holder of the `orphan_repair_lock` of each process. -/
  repairLocks : Nat → Option Attempt

structure PortBindingInfo where
  serverOwned : Bool
  bindingState : Option String
  deriving DecidableEq

/-- `LeaseAcquireOutcome`, or that the attempt failed. -/
inductive LeaseReply
  | acquired
  | busy
  | failed
  deriving DecidableEq

inductive EndpointCall
  | lockRepair (who : Attempt)
  | unlockRepair (who : Attempt)
  | acquireLease
  | releaseLease
  | listInstances
  | getOperation (id : Uuid)
  | getResource (id : Uuid)
  | portBinding (projectId portId : String)
  | unbindPort (projectId portId : String) (operationId : Uuid)
  | releaseServerOwnedEndpoint (projectId portId : String)
  | projectCreateOutcome (projectId portId : String) (succeeded : Bool)
  | getPort (portId : String)
  | persistIntent (write : IntentWrite)
  | reconcileOnce (operationId : Uuid)
  | updateResource (projection : ResourceProjection)

abbrev EndpointReply : EndpointCall → Type
  | .lockRepair _ => Bool
  | .unlockRepair _ => Unit
  | .acquireLease => LeaseReply
  | .releaseLease => Unit
  | .listInstances => Except StoreError (List ResourceRecord)
  | .getOperation _ => Except StoreError OperationRecord
  | .getResource _ => Except StoreError ResourceRecord
  | .portBinding _ _ => Except String (Option PortBindingInfo)
  | .unbindPort _ _ _ => Except String Unit
  | .releaseServerOwnedEndpoint _ _ => Except String Unit
  | .projectCreateOutcome _ _ _ => Except String Unit
  | .getPort _ => Except String Unit
  | .persistIntent _ => Except StoreError Unit
  | .reconcileOnce _ => Except String OperationState
  | .updateResource _ => Except StoreError Unit

/-- What the environment decides of a call: whether the store or the other
service fails, who has the lease, what the network knows of a port, and where
the reconciler gets with a create. -/
structure EndpointAnswer where
  store : Option StoreError
  network : Option String
  lease : LeaseReply
  binding : Option PortBindingInfo
  outcome : OperationState

def EndpointAnswer.plain : EndpointAnswer := ⟨none, none, .acquired, none, .succeeded⟩

def EndpointAnswer.read {α : Type} (x : EndpointAnswer) (a : Except StoreError α) :
    Except StoreError α :=
  match x.store with
  | some e => .error e
  | none => a

def EndpointAnswer.serve {α : Type} (x : EndpointAnswer) (a : α) : Except String α :=
  match x.network with
  | some e => .error e
  | none => .ok a

def releaseRepair (who : Attempt) (s : EndpointWorld) : EndpointWorld :=
  if s.repairLocks who.1 = some who then
    { s with repairLocks := Function.update s.repairLocks who.1 none }
  else
    s

def execEndpoint : (c : EndpointCall) → EndpointAnswer → EndpointWorld →
    EndpointReply c × EndpointWorld
  | .lockRepair who, _, s =>
    if s.repairLocks who.1 = none then
      (true, { s with repairLocks := Function.update s.repairLocks who.1 (some who) })
    else
      (false, s)
  | .unlockRepair who, _, s => ((), releaseRepair who s)
  | .acquireLease, x, s => (x.lease, s)
  | .releaseLease, _, s => ((), s)
  | .listInstances, x, s => (x.read (.ok (computeInstances s.tables)), s)
  | .getOperation id, x, s =>
    (x.read ((s.tables.operations.get? id).elim (.error .operationNotFound) .ok), s)
  | .getResource id, x, s =>
    (x.read ((s.tables.resources.get? id).elim (.error .resourceNotFound) .ok), s)
  | .portBinding _ _, x, s => (x.serve x.binding, s)
  | .unbindPort _ _ _, x, s => (x.serve (), s)
  | .releaseServerOwnedEndpoint _ _, x, s => (x.serve (), s)
  | .projectCreateOutcome _ _ _, x, s => (x.serve (), s)
  | .getPort _, x, s => (x.serve (), s)
  | .persistIntent write, x, s =>
    match x.store with
    | some e => (.error e, s)
    | none => ((write.exec s.tables).1, { s with tables := (write.exec s.tables).2 })
  | .reconcileOnce _, x, s => (x.serve x.outcome, s)
  | .updateResource projection, x, s =>
    match x.store with
    | some e => (.error e, s)
    | none =>
      ((Transaction.atomically (projectResource projection) s.tables).1,
        { s with tables := (Transaction.atomically (projectResource projection) s.tables).2 })

/-- `ComputeError`, as far as these functions return it. -/
inductive ComputeError
  | store (error : StoreError)
  | endpointRelease (message : String)
  | network (message : String)
  | reconcile (message : String)
  | conflict
  deriving DecidableEq

abbrev EndpointM (α : Type) : Type := ExceptT ComputeError (Program EndpointCall EndpointReply) α

namespace EndpointM

def call (c : EndpointCall) : EndpointM (EndpointReply c) := ExceptT.lift (Program.perform c)

/-- Hold the mutex of the process for a body.  It goes with the guard, also
when the body fails. -/
def withRepairLock (who : Attempt) (body : EndpointM Unit) : EndpointM Unit :=
  ExceptT.mk (do
    let locked : Bool ← Program.perform (EndpointCall.lockRepair who)
    if locked then
      let result ← body.run
      let _ ← Program.perform (EndpointCall.unlockRepair who)
      pure result
    else
      pure (.ok ()))

/-- `map_err(ComputeError::EndpointRelease)?`. -/
def orRelease (message : String → String) : Except String Unit → EndpointM Unit
  | .ok () => pure ()
  | .error e => throw (.endpointRelease (message e))

end EndpointM

open EndpointM

section Code

variable (codec : IntentCodec)

/-- `referenced_port_ids`. -/
def referencedPorts : EndpointM (List String) := do
  let listed ← call .listInstances
  match listed with
  | .error e => throw (.store e)
  | .ok rows => pure (referencedPortIds codec rows)

/-- The end of the loop body for one port: the release, and whether the pass
has spent its one unbind. -/
def releaseOrphan (projectId portId : String) (goOn : EndpointM Bool) (unbindsDispatched : Bool) :
    EndpointM Bool := do
  let _ ← call (.releaseServerOwnedEndpoint projectId portId)
  if unbindsDispatched then pure false else goOn

/-- The ports of one deleted server.  The result says whether the pass goes on
with the next server. -/
def repairPorts (resource : ResourceRecord) (stillAttached : List String) :
    List String → EndpointM Bool
  | [] => pure true
  | portId :: rest =>
    if portId ∈ stillAttached then
      repairPorts resource stillAttached rest
    else do
      let attachedNow ← referencedPorts codec
      if portId ∈ attachedNow then
        repairPorts resource stillAttached rest
      else do
        let binding ← call (.portBinding resource.projectId portId)
        match binding with
        | .ok (some info) =>
          if info.serverOwned then
            if info.bindingState = some "bound" ∨ info.bindingState = some "binding" then do
              let unbound ← call (.unbindPort resource.projectId portId
                (codec.newV5 s!"o3k:orphan-unbind:{resource.id}:{portId}"))
              match unbound with
              | .error _ => pure false
              | .ok () =>
                releaseOrphan resource.projectId portId
                  (repairPorts resource stillAttached rest) true
            else
              releaseOrphan resource.projectId portId
                (repairPorts resource stillAttached rest) false
          else
            repairPorts resource stillAttached rest
        | _ => repairPorts resource stillAttached rest

def repairServers (stillAttached : List String) : List ResourceRecord → EndpointM Unit
  | [] => pure ()
  | resource :: rest =>
    if resource.observedState ≠ stateDeleted then
      repairServers stillAttached rest
    else
      match codec.parse resource.desiredState with
      | none => repairServers stillAttached rest
      | some request => do
        let goOn ← repairPorts codec resource stillAttached request.networkIds
        if goOn then repairServers stillAttached rest else pure ()

def repairOrphanedServerEndpointsLocked : EndpointM Unit := do
  let listed ← call .listInstances
  match listed with
  | .error e => throw (.store e)
  | .ok resources => do
    let stillAttached ← referencedPorts codec
    repairServers codec stillAttached resources

/-- A repair pass under the mutex, in a process that coordinates with others
through the lease or one that does not. -/
def orphanRepairPass (coordinated : Bool) : EndpointM Unit :=
  if coordinated then do
    let lease ← call .acquireLease
    match lease with
    | .acquired => do
      let result ← ExceptT.lift (repairOrphanedServerEndpointsLocked codec).run
      let _ ← call .releaseLease
      ExceptT.mk (pure result)
    | _ => pure ()
  else
    repairOrphanedServerEndpointsLocked codec

variable (who : Attempt)

def runOrphanRepairPass (coordinated : Bool) : EndpointM Unit :=
  withRepairLock who (orphanRepairPass codec coordinated)

def unbindPorts (attached : List String) (projectId : String) (operationId : Uuid) :
    List String → EndpointM Unit
  | [] => pure ()
  | portId :: rest =>
    if portId ∈ attached then
      unbindPorts attached projectId operationId rest
    else do
      let unbound ← call (.unbindPort projectId portId operationId)
      orRelease (fun e => s!"server port {portId} Fabric unbind failed: {e}") unbound
      unbindPorts attached projectId operationId rest

def unbindPortsFromIntent (request : CreateInstanceRequest) (operationId : Uuid) : EndpointM Unit :=
  withRepairLock who (do
    let listed ← call .listInstances
    match listed with
    | .error e =>
      throw (.endpointRelease
        s!"live-server attachment set unavailable before port unbind: {codec.displayStore e}")
    | .ok rows =>
      unbindPorts (referencedPortIds codec rows) request.projectId operationId
        request.networkIds)

def releasePorts (attached : List String) (projectId : String) :
    List String → EndpointM Unit
  | [] => pure ()
  | portId :: rest =>
    if portId ∈ attached then
      releasePorts attached projectId rest
    else do
      let released ← call (.releaseServerOwnedEndpoint projectId portId)
      orRelease id released
      releasePorts attached projectId rest

def releaseServerEndpointsFromIntent (request : CreateInstanceRequest) : EndpointM Unit :=
  withRepairLock who (do
    let attached ← referencedPorts codec
    releasePorts attached request.projectId request.networkIds)

/-- The delete arm of the loop. -/
def projectDelete (attached : List String) (projectId : String) (operationId : Uuid) :
    List String → EndpointM Unit
  | [] => pure ()
  | portId :: rest =>
    if portId ∈ attached then
      projectDelete attached projectId operationId rest
    else do
      let unbound ← call (.unbindPort projectId portId operationId)
      match unbound with
      | .ok () => do
        let released ← call (.releaseServerOwnedEndpoint projectId portId)
        orRelease (fun e => s!"server endpoint {portId} could not be released: {e}") released
        projectDelete attached projectId operationId rest
      | .error e => throw (.endpointRelease s!"server port {portId} Fabric unbind failed: {e}")

/-- The create arm of the loop. -/
def projectCreate (projectId : String) (succeeded : Bool) :
    List String → EndpointM Unit
  | [] => pure ()
  | portId :: rest => do
    let _ ← call (.projectCreateOutcome projectId portId succeeded)
    projectCreate projectId succeeded rest

/-- The loop, once the operation and the intent have been read. -/
def projectOutcome
    (operation : OperationRecord) (state : OperationState) (request : CreateInstanceRequest) :
    EndpointM Unit :=
  if operation.kind = "lifecycle:delete" ∧ state = .succeeded then
    withRepairLock who (do
      let attached ← referencedPorts codec
      projectDelete attached request.projectId operation.id request.networkIds)
  else if operation.kind = "create" then
    projectCreate request.projectId (state = .succeeded) request.networkIds
  else
    pure ()

def projectTerminalBindingOutcome (operationId : Uuid) (state : OperationState) :
    EndpointM Unit := do
  let operation ← call (.getOperation operationId)
  match operation with
  | .error _ => pure ()
  | .ok operation => do
    let resource ← call (.getResource operation.resourceId)
    match resource with
    | .error _ => pure ()
    | .ok resource =>
      match codec.parse resource.desiredState with
      | none => pure ()
      | some request => projectOutcome codec who operation state request

def validatePorts : List String → EndpointM Unit
  | [] => pure ()
  | portId :: rest => do
    let found ← call (.getPort portId)
    match found with
    | .error e => throw (.network e)
    | .ok () => validatePorts rest

def validateAndPersist (ports : List String) (write : IntentWrite) : EndpointM Unit := do
  validatePorts ports
  let persisted ← call (.persistIntent write)
  match persisted with
  | .error e => throw (.store e)
  | .ok () => pure ()

/-- The write of both functions that project a failed create. -/
def projectFailedCreateError (resourceId : Uuid) : EndpointM Unit := do
  let found ← call (.getResource resourceId)
  match found with
  | .error e => throw (.store e)
  | .ok resource =>
    if resource.observedState = stateError then
      pure ()
    else do
      let updated ← call (.updateResource
        { resourceId := resource.id
          expectedGeneration := resource.generation
          desiredState := resource.desiredState
          observedState := stateError
          observedGeneration := resource.generation
          providerId := resource.providerId })
      match updated with
      | .error e => throw (.store e)
      | .ok () => pure ()

/-- The create, once its intent is durable.  What the reconciler writes is
written by others here, and the projection of the outcome to the network is an
attempt of its own. -/
def settleCreate (serverId operationId : Uuid) : EndpointM Unit := do
  let reconciled ← call (.reconcileOnce operationId)
  match reconciled with
  | .error e => throw (.reconcile e)
  | .ok state =>
    if state = .failed then do
      projectFailedCreateError serverId
      throw .conflict
    else
      pure ()

/-- From the validation of the ports to the end of the create: the adapters
hold the mutex for all of it. -/
def attachingCreate (ports : List String) (write : IntentWrite) : EndpointM Unit :=
  withRepairLock who (do
    validateAndPersist ports write
    settleCreate write.serverId write.operationId)

end Code

/-- What a process does with the ports of servers. -/
inductive EndpointTask
  | repairPass (coordinated : Bool)
  | unbindReplay (request : CreateInstanceRequest) (operationId : Uuid)
  | releaseReplay (request : CreateInstanceRequest)
  | terminalProjection (operationId : Uuid) (state : OperationState)
  | create (ports : List String) (write : IntentWrite)
  /-- The convergence of a failed create, which a read starts without the mutex. -/
  | failedCreate (resourceId : Uuid)

def endpointProgram (codec : IntentCodec) (who : Attempt) :
    EndpointTask → Program EndpointCall EndpointReply (Except ComputeError Unit)
  | .repairPass coordinated => (runOrphanRepairPass codec who coordinated).run
  | .unbindReplay request operationId => (unbindPortsFromIntent codec who request operationId).run
  | .releaseReplay request => (releaseServerEndpointsFromIntent codec who request).run
  | .terminalProjection operationId state =>
    (projectTerminalBindingOutcome codec who operationId state).run
  | .create ports write => (attachingCreate who ports write).run
  | .failedCreate resourceId => (projectFailedCreateError resourceId).run

structure RecordState where
  id : Uuid
  state : String

def recordEndpoint (e : RecordState) (s : EndpointWorld) : EndpointWorld :=
  { s with tables := recordState e.id e.state s.tables }

abbrev Endpoints : Type :=
  Crowd EndpointWorld Attempt EndpointCall EndpointReply (Except ComputeError Unit)

abbrev EndpointEvent : Type := CrowdEvent Attempt EndpointTask EndpointAnswer RecordState

def endpointStep (codec : IntentCodec) (w : Endpoints) (e : EndpointEvent) : Endpoints :=
  w.step execEndpoint (endpointProgram codec) releaseRepair recordEndpoint e

end Compute
end O3k
