import O3k.Lifecycle.Calls

/-!
# Actions, deletions and the convergence sweep

The callers of `reconcile_lifecycle_once`: the sweep over the operations that
are not terminal, and the requests of the compute service that begin a
lifecycle and drive it.
-/

namespace O3k
namespace Lifecycle

open Relational Operations Semantics
open Journal (ServerState InstanceState serverStateToStorage)

section Code

variable (lib : LifecycleLibrary) (maxAttempts : Nat)

/-- The states that nothing else will ever advance. -/
def shouldRedrive (operation : OperationRecord) : Bool :=
  operation.state = .pending || operation.state = .unknownOutcome ||
    operation.state = .retryable ||
    (operation.state = .running && operation.providerOperationId.isNone)

/-- One operation of the sweep, under its lease if there is a coordinator.  An
error is logged. -/
def sweepOperation (coordinated : Bool) (operation : OperationRecord) :
    Program LifecycleCall LifecycleReply Unit :=
  if coordinated then do
    let leased : Bool ← Program.perform (LifecycleCall.acquireWorkLease operation.id)
    if leased then do
      let _ ← (reconcileLifecycleOnce lib maxAttempts operation.id).run
      Program.perform (LifecycleCall.releaseWorkLease operation.id)
    else
      pure ()
  else do
    let _ ← (reconcileLifecycleOnce lib maxAttempts operation.id).run
    pure ()

def sweepOperations (coordinated : Bool) :
    List OperationRecord → Program LifecycleCall LifecycleReply Unit
  | [] => pure ()
  | operation :: rest =>
    if shouldRedrive operation then do
      sweepOperation lib maxAttempts coordinated operation
      sweepOperations coordinated rest
    else
      sweepOperations coordinated rest

def driveAllLifecycleConvergence (coordinated : Bool) :
    Program LifecycleCall LifecycleReply (Except ComputeError Unit) := do
  let listed : Except StoreError (List OperationRecord) ←
    Program.perform LifecycleCall.listNonTerminal
  match listed with
  | .error e => pure (.error (.store e))
  | .ok operations => do
    sweepOperations lib maxAttempts coordinated operations
    pure (.ok ())

end Code

section Survival

def SweepCall : LifecycleCall → Prop
  | .listNonTerminal => True
  | .acquireWorkLease _ => True
  | .releaseWorkLease _ => True
  | _ => False

variable {lib : LifecycleLibrary} {maxAttempts : Nat}
variable {R : LifecycleWorld → LifecycleWorld → Prop} {I : LifecycleWorld → Prop}
variable {G A : LifecycleCall → LifecycleAnswer → LifecycleWorld → Prop}

/-- The attempt survives, whatever it returns. -/
abbrev Endures (lib : LifecycleLibrary) (R : LifecycleWorld → LifecycleWorld → Prop)
    (I : LifecycleWorld → Prop) (G A : LifecycleCall → LifecycleAnswer → LifecycleWorld → Prop)
    {α : Type} (p : Program LifecycleCall LifecycleReply α) (w : LifecycleWorld) :
    Prop :=
  p.Survives (execLifecycle lib) R I G A (fun _ _ => True) w

theorem endures_sweepCall {c : LifecycleCall}
    (hcall : SweepCall c) (hA : ∀ c, SweepCall c → ∀ x w, A c x w) (w : LifecycleWorld) :
    Endures lib R I G A (Program.perform c) w := by
  intro w' x _ hI _
  refine ⟨hA c hcall x w', ?_, trivial⟩
  cases c with
  | listNonTerminal | acquireWorkLease | releaseWorkLease => exact hI
  | _ => exact hcall.elim

variable
  (hA : ∀ c, SweepCall c → ∀ x w, A c x w)
  (hreconcile : ∀ id w, Endures lib R I G A (reconcileLifecycleOnce lib maxAttempts id).run w)

include hA hreconcile

theorem endures_sweepOperation
    (coordinated : Bool) (operation : OperationRecord) (w : LifecycleWorld) :
    Endures lib R I G A (sweepOperation lib maxAttempts coordinated operation) w := by
  unfold sweepOperation
  split
  · refine Program.Survives.bind
      (endures_sweepCall (c := .acquireWorkLease operation.id) trivial hA w) ?_
    intro leased w' _
    split
    · refine Program.Survives.bind (hreconcile operation.id w') ?_
      exact fun _ w'' _ =>
        endures_sweepCall (c := .releaseWorkLease operation.id) trivial hA w''
    · trivial
  · exact Program.Survives.bind (hreconcile operation.id w) (fun _ _ _ => trivial)

theorem endures_sweepOperations
    (coordinated : Bool) (operations : List OperationRecord) (w : LifecycleWorld) :
    Endures lib R I G A (sweepOperations lib maxAttempts coordinated operations) w := by
  induction operations generalizing w with
  | nil => trivial
  | cons operation rest ih =>
    unfold sweepOperations
    split
    · exact Program.Survives.bind
        (endures_sweepOperation hA hreconcile coordinated operation w) (fun _ w' _ => ih w')
    · exact ih w

/-- **A sweep** survives where each reconciliation does. -/
theorem endures_driveAllLifecycleConvergence (coordinated : Bool) (w : LifecycleWorld) :
    Endures lib R I G A (driveAllLifecycleConvergence lib maxAttempts coordinated) w := by
  refine Program.Survives.bind (endures_sweepCall (c := .listNonTerminal) trivial hA w) ?_
  intro listed w' _
  cases listed with
  | error e => trivial
  | ok operations =>
    exact Program.Survives.bind
      (endures_sweepOperations hA hreconcile coordinated operations w') (fun _ _ _ => trivial)

end Survival

abbrev ComputeM (α : Type) : Type := ExceptT ComputeError (Program LifecycleCall LifecycleReply) α

namespace ComputeM

def call (c : LifecycleCall) : ComputeM (LifecycleReply c) := ExceptT.lift (Program.perform c)

/-- `?`. -/
def given {α : Type} (x : Except ComputeError α) : ComputeM α := ExceptT.mk (pure x)

/-- `?` on a result of the store. -/
def orStore {α : Type} : Except StoreError α → ComputeM α
  | .ok a => pure a
  | .error e => throw (.store e)

/-- `?` on a result of the store, whose missing row is answered otherwise. -/
def orMissing {α : Type} (missing : StoreError) (error : ComputeError) :
    Except StoreError α → ComputeM α
  | .ok a => pure a
  | .error e => throw (if e = missing then error else .store e)

/-- `ok_or(…)?`. -/
def okOr {α : Type} (error : ComputeError) : Option α → ComputeM α
  | some a => pure a
  | none => throw error

def orMetering : Except String Unit → ComputeM Unit
  | .ok () => pure ()
  | .error e => throw (.metering e)

def ignored (c : LifecycleCall) : ComputeM Unit := do
  let _ ← call c
  pure ()

end ComputeM

open ComputeM

section Requests

variable (lib : LifecycleLibrary) (maxAttempts : Nat)

def passEnds : Except ReconcileError OperationState → Option (Except ComputeError OperationState)
  | .ok .succeeded => some (.ok .succeeded)
  | .ok .failed => some (.ok .failed)
  | .error .invalidIntent => some (.error (.reconcile .invalidIntent))
  | _ => none

def passError (last : Option ReconcileError) :
    Except ReconcileError OperationState → Option ReconcileError
  | .error e => some e
  | .ok _ => last

def deadlineReached : Option ReconcileError → Except ComputeError OperationState
  | some e => .error (.reconcile e)
  | none => .ok .running

/-- `reconcile_lifecycle_until_terminal`; the clock allows `passes` more passes
after the first. -/
def reconcileLifecycleUntilTerminal (operationId : Uuid) :
    Nat → Option ReconcileError → ComputeM OperationState
  | 0, last => do
    let result ← ExceptT.lift (reconcileLifecycleOnce lib maxAttempts operationId).run
    given ((passEnds result).getD (deadlineReached (passError last result)))
  | passes + 1, last => do
    let result ← ExceptT.lift (reconcileLifecycleOnce lib maxAttempts operationId).run
    match passEnds result with
    | some ended => given ended
    | none => reconcileLifecycleUntilTerminal operationId passes (passError last result)

/-- `begin_lifecycle`, whose row may exist already. -/
def beginLifecycle (operationId resourceId : Uuid) (action : LifecycleAction) : ComputeM Unit := do
  let inserted ← call (.insertOperation (lifecycleOperation operationId resourceId action))
  match inserted with
  | .ok () => pure ()
  | .error .resourceAlreadyExists => pure ()
  | .error e => throw (.reconcile (.store e))

/-- The state that an action leads to, where it applies. -/
def actionTarget : InstanceAction → ServerState → Option ServerState
  | .start, .stopped => some .active
  | .stop, .active => some .stopped
  | .reboot, .active => some .active
  | .reboot, .stopped => some .active
  | _, _ => none

/-- How a call of `action` has ended that has begun an operation.  What it
returns is `result`; the rest is history. -/
structure ActionReceipt where
  action : InstanceAction
  operationId : Uuid
  state : OperationState
  result : Except ComputeError Unit

def answerAction (id : Uuid) (state : OperationState) : ComputeM (Except ComputeError Unit) :=
  if state ≠ .succeeded then
    pure (.error .conflict)
  else
    call (.showServer id)

def performAction (id : Uuid) (action : InstanceAction) (operationId : Uuid) (passes : Nat) :
    ComputeM ActionReceipt := do
  beginLifecycle operationId id action.lifecycle
  let state ← reconcileLifecycleUntilTerminal lib maxAttempts operationId passes none
  let result ← answerAction id state
  pure ⟨action, operationId, state, result⟩

variable (projectId : String)

/-- `action` on a server that has been read. -/
def actionOn (id : Uuid) (action : InstanceAction) (passes : Nat) (resource : ResourceRecord) :
    ComputeM ActionReceipt :=
  if resource.projectId ≠ projectId then
    throw .notFound
  else if resource.providerId.isNone then
    throw .conflict
  else do
    let current ← okOr .conflict (serverStateFromStorage resource.observedState).toOption
    let target ← okOr .conflict (actionTarget action current)
    performAction lib maxAttempts id action
      (actionOperationId lib projectId id target resource.generation) passes

def action (id : Uuid) (action : InstanceAction) (passes : Nat) : ComputeM ActionReceipt := do
  let resource ← orMissing .resourceNotFound .notFound (← call (.getResource id))
  actionOn lib maxAttempts projectId id action passes resource

/-- The state changes of a deletion whose server is deleted already. -/
def finishDeleted (resource : ResourceRecord) (accepted : Option Uuid) :
    ComputeM OperationState := do
  let _ ← okOr .conflict (lib.parse resource.desiredState)
  given (← call (.cleanup .releasePlacementAllocation))
  given (← call (.cleanup .detachServerKeypair))
  given (← call (.cleanup .unbindPortsFromIntent))
  given (← call (.cleanup .releaseServerEndpointsFromIntent))
  ignored (.cleanup .releaseReservation)
  match accepted with
  | none => pure .succeeded
  | some operationId => do
    orStore (← call (.updateOperation operationId .succeeded none none none))
    pure .succeeded

def cleanUpDeleted : ComputeM Unit := do
  given (← call (.cleanup .releasePlacementAllocation))
  given (← call (.cleanup .detachServerKeypair))
  given (← call (.cleanup .projectTerminalBindingOutcome))
  ignored (.cleanup .releaseReservation)

/-- The create provably never took effect. -/
def createAbsent (create : OperationRecord) : Bool :=
  create.state = .failed &&
    (create.providerOperationId.isNone || create.errorCategory = some "not_found")

/-- The identity of a deletion, whose row is inserted unless it has been
accepted. -/
def beginDeletion (id : Uuid) (resource : ResourceRecord) (accepted : Option Uuid) :
    ComputeM Uuid :=
  match accepted with
  | some operationId => pure operationId
  | none => do
    let operationId := deleteOperationId lib projectId id resource.generation
    beginLifecycle operationId id .delete
    pure operationId

/-- A server that never reached a provider. -/
def deleteLocally (id : Uuid) (resource : ResourceRecord) (accepted : Option Uuid) :
    ComputeM OperationState := do
  let intent ← okOr .conflict (lib.parse resource.desiredState)
  let create ← orMissing .operationNotFound .conflict (← call (.getOperation intent.operationId))
  if ¬ createAbsent create then
    throw .conflict
  else do
    let operationId ← beginDeletion lib projectId id resource accepted
    orMetering (← call (.projectMetering resource.id (serverStateToStorage .deleted)))
    orStore (← call (.terminalize
      { operationId := operationId
        terminalState := .succeeded
        providerOperationId := none
        errorCategory := none
        errorMessage := none
        resource :=
          { resourceId := id
            expectedGeneration := resource.generation
            desiredState := resource.desiredState
            observedState := serverStateToStorage .deleted
            observedGeneration := resource.generation
            providerId := none } }))
    cleanUpDeleted
    ignored (.dispatch ⟨operationId, .delete, id, s!"o3k:delete-reap:{id}"⟩)
    pure .succeeded

/-- One pass for an accepted deletion, a wait for one that is not. -/
def driveDeletion (operationId : Uuid) (passes : Nat) :
    Option Uuid → ComputeM OperationState
  | some _ => do
    let result ← ExceptT.lift (reconcileLifecycleOnce lib maxAttempts operationId).run
    given (result.mapError .reconcile)
  | none => reconcileLifecycleUntilTerminal lib maxAttempts operationId passes none

def deleteAtProvider
    (id : Uuid) (resource : ResourceRecord) (accepted : Option Uuid) (passes : Nat) :
    ComputeM OperationState := do
  let operationId ← beginDeletion lib projectId id resource accepted
  let state ← driveDeletion lib maxAttempts operationId passes accepted
  if state ≠ .succeeded then
    pure state
  else do
    let _ ← okOr .conflict (lib.parse resource.desiredState)
    cleanUpDeleted
    pure .succeeded

/-- `delete_server_with_accepted_operation` on a server that has been read. -/
def deleteOn (id : Uuid) (accepted : Option Uuid) (passes : Nat) (resource : ResourceRecord) :
    ComputeM OperationState :=
  if resource.projectId ≠ projectId then
    throw .notFound
  else do
    let observed ← orStore (serverStateFromStorage resource.observedState)
    if observed = .deleted then
      finishDeleted lib resource accepted
    else if resource.providerId.isNone then
      deleteLocally lib projectId id resource accepted
    else
      deleteAtProvider lib maxAttempts projectId id resource accepted passes

def deleteServerWithAcceptedOperation (id : Uuid) (accepted : Option Uuid) (passes : Nat) :
    ComputeM OperationState := do
  let resource ← orMissing .resourceNotFound .notFound (← call (.getResource id))
  deleteOn lib maxAttempts projectId id accepted passes resource

def deleteServer (id : Uuid) (passes : Nat) : ComputeM Unit := do
  let state ← deleteServerWithAcceptedOperation lib maxAttempts projectId id none passes
  if state ≠ .succeeded then
    throw .conflict
  else
    pure ()

end Requests

end Lifecycle
end O3k
