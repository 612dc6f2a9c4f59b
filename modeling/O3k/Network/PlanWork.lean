import O3k.Coordination.WorkLease
import O3k.Store.Values

/-!
# Network plan work

A row of `network_plan_work` is one command for one agent.  Three writers run
in a `BEGIN IMMEDIATE` transaction that first checks the caller's lease;
`update_network_plan_work` reads the row, checks the transition and then issues
a single `UPDATE` that names the revision its caller expects, so other calls
can run between its two statements.
-/

namespace O3k
namespace Network

open Relational Relational.Transaction Coordination

inductive NetworkPlanWorkState
  | pending
  | accepted
  | running
  | retryable
  | unknownOutcome
  | succeeded
  | failed
  deriving DecidableEq

namespace NetworkPlanWorkState

def terminal : NetworkPlanWorkState → Bool
  | succeeded => true
  | failed => true
  | _ => false

def canTransitionTo (self next : NetworkPlanWorkState) : Bool :=
  if self = next then
    true
  else
    match self with
    | pending => next ∈ [accepted, running, retryable, unknownOutcome, succeeded, failed]
    | accepted => next ∈ [running, retryable, unknownOutcome, succeeded, failed]
    | running => next ∈ [retryable, unknownOutcome, succeeded, failed]
    | retryable => next ∈ [running, unknownOutcome, succeeded, failed]
    | unknownOutcome => next ∈ [running, retryable, succeeded, failed]
    | succeeded => false
    | failed => false

theorem eq_of_canTransitionTo_of_terminal {self next : NetworkPlanWorkState}
    (hterminal : self.terminal = true) (h : self.canTransitionTo next = true) :
    next = self := by
  unfold canTransitionTo at h
  split at h
  · rename_i hsame
    exact hsame.symm
  · cases self <;> simp_all [terminal]

theorem canTransitionTo_failed {self : NetworkPlanWorkState} (hopen : self.terminal = false) :
    self.canTransitionTo failed = true := by
  cases self <;> simp_all [terminal, canTransitionTo]

end NetworkPlanWorkState

structure NetworkPlanWorkRecord where
  commandId : String
  operationId : Uuid
  idempotencyKey : String
  targetHostId : String
  targetAgentId : String
  targetAgentEpoch : String
  controller : ControllerIdentity
  fencingToken : Nat
  deadlineUnixMs : Nat
  fingerprintSha256 : String
  snapshot : List UInt8
  state : NetworkPlanWorkState
  revision : Nat
  outcome : Option (List UInt8)
  deriving DecidableEq

namespace NetworkPlanWorkRecord

def validate (work : NetworkPlanWorkRecord) : Except StoreError Unit :=
  if work.commandId.isEmpty ∨ work.idempotencyKey.isEmpty ∨ work.targetHostId.isEmpty ∨
      work.targetAgentId.isEmpty ∨ work.targetAgentEpoch.isEmpty ∨
      work.controller.controllerId.isEmpty ∨ work.controller.controllerEpoch.isEmpty ∨
      work.fingerprintSha256.isEmpty ∨ work.snapshot.isEmpty ∨ work.deadlineUnixMs = 0 then
    .error (.corrupt "network plan work has an empty identity or invalid deadline/snapshot")
  else if work.revision ≠ 0 ∨ work.state ≠ .pending ∨ work.outcome ≠ none then
    .error
      (.corrupt "new network plan work must begin pending at revision zero without outcome")
  else
    .ok ()

/-- The comparison of `insert_network_plan_work_under_lease` with a stored row. -/
def sameDesired (existing work : NetworkPlanWorkRecord) : Bool :=
  existing.operationId = work.operationId && existing.idempotencyKey = work.idempotencyKey &&
    existing.targetHostId = work.targetHostId && existing.targetAgentId = work.targetAgentId &&
    existing.targetAgentEpoch = work.targetAgentEpoch &&
    existing.fingerprintSha256 = work.fingerprintSha256

/-- `SET state = ?, outcome = ?, revision = revision + 1`. -/
def advance
    (work : NetworkPlanWorkRecord) (state : NetworkPlanWorkState) (outcome : Option (List UInt8)) :
    NetworkPlanWorkRecord :=
  { work with state := state, outcome := outcome, revision := work.revision + 1 }

end NetworkPlanWorkRecord

abbrev PlanWork := Table NetworkPlanWorkRecord.commandId

abbrev PlanBody (α : Type) := Transaction PlanWork StoreError α

/-- The lease a caller presents: a key, its session and its fencing token. -/
structure PresentedLease where
  realmWorkKey : String
  session : ControllerIdentity
  fencingToken : Nat
  deriving DecidableEq

/-- The stored lease of the key is the presented one and has not expired. -/
def HoldsLease (leases : LeaseTables) (now : Time) (presented : PresentedLease) : Prop :=
  ∃ lease, leases.workLeases.get? presented.realmWorkKey = some lease ∧
    lease.owner = presented.session ∧ lease.fencingToken = presented.fencingToken ∧
      now < lease.leaseUntil

def checkLease (leases : LeaseTables) (now : Time) (presented : PresentedLease) :
    Except StoreError Unit :=
  match leases.workLeases.get? presented.realmWorkKey with
  | none => .error .fenced
  | some lease =>
    if lease.owner = presented.session ∧ lease.fencingToken = presented.fencingToken ∧
        now < lease.leaseUntil then
      .ok ()
    else
      .error .fenced

theorem holdsLease_of_checkLease {leases : LeaseTables} {now : Time} {presented : PresentedLease}
    (h : checkLease leases now presented = .ok ()) :
    HoldsLease leases now presented := by
  unfold checkLease at h
  split at h
  · cases h
  · rename_i lease hget
    split at h
    · rename_i hheld
      exact ⟨lease, hget, hheld⟩
    · cases h

def planI64 (value : Nat) (field : String) : Except StoreError Nat :=
  if value ≤ integerMax then
    .ok value
  else
    .error (.corrupt (field ++ " overflow"))

/-- The `INSERT`; `command_id` and `idempotency_key` are unique. -/
def insertWork (work : NetworkPlanWorkRecord) (conflict : String) : PlanBody Unit := do
  let _ ← fromExcept (planI64 work.fencingToken "fencing token")
  let _ ← fromExcept (planI64 work.deadlineUnixMs "deadline")
  let _ ← fromExcept (planI64 work.revision "revision")
  let t ← get
  require (¬ t.rows.any (fun row => row.idempotencyKey = work.idempotencyKey))
    (.corrupt conflict)
  let t' ← orFail (t.insert? work) (.corrupt conflict)
  set t'

/-- The `UPDATE … WHERE command_id = ? AND revision = ?`, with the error when no
row is affected. -/
def advanceWork (commandId : String) (expectedRevision : Nat) (state : NetworkPlanWorkState)
    (outcome : Option (List UInt8)) (unaffected : StoreError) :
    PlanBody Unit := do
  let _ ← fromExcept (planI64 expectedRevision "revision")
  let t ← get
  match (t.get? commandId).filter (fun row => row.revision = expectedRevision) with
  | none => throw unaffected
  | some row => set (t.put (row.advance state outcome))

section UnderLease

-- what the transaction sees of the leases, and the instant at which it runs
variable (leases : LeaseTables) (now : Time)

def insertUnderLeaseBody (presented : PresentedLease) (work : NetworkPlanWorkRecord) :
    PlanBody Unit := do
  fromExcept (checkLease leases now presented)
  let t ← get
  match t.get? work.commandId with
  | some existing =>
    require (existing.sameDesired work)
      (.corrupt "network plan command identity conflicts with existing desired work")
  | none =>
    require (work.controller = presented.session) .fenced
    insertWork work "network plan work identity conflicts"

def updateUnderLeaseBody (presented : PresentedLease) (commandId : String) (expectedRevision : Nat)
    (state : NetworkPlanWorkState) (outcome : Option (List UInt8)) :
    PlanBody Unit := do
  fromExcept (checkLease leases now presented)
  let t ← get
  let current ← orFail (t.get? commandId) .operationNotFound
  require (current.revision = expectedRevision ∧ current.state.canTransitionTo state)
    (.corrupt "network plan work revision/state conflict")
  advanceWork commandId expectedRevision state outcome .fenced

/-- `supersessionOutcome` is `serde_json::to_vec` of the classification and the
successor's id. -/
def supersedeUnderLeaseBody
    (supersessionOutcome : String → Option (List UInt8)) (presented : PresentedLease)
    (oldCommandId : String) (expectedOldRevision : Nat) (successor : NetworkPlanWorkRecord) :
    PlanBody Unit := do
  fromExcept (checkLease leases now presented)
  require (successor.controller = presented.session) .fenced
  let t ← get
  let old ← orFail (t.get? oldCommandId) .operationNotFound
  require
    (old.revision = expectedOldRevision ∧ ¬ old.state.terminal ∧ old.state.canTransitionTo .failed)
    (.corrupt "historical work cannot be superseded from current state")
  let outcome ← orFail (supersessionOutcome successor.commandId)
    (.corrupt "supersession outcome serialization failed")
  insertWork successor "successor network work identity conflicts"
  advanceWork oldCommandId expectedOldRevision .failed (some outcome) .fenced

end UnderLease

/-- The arguments of `update_network_plan_work`. -/
structure PlanUpdate where
  commandId : String
  expectedRevision : Nat
  state : NetworkPlanWorkState
  outcome : Option (List UInt8)
  deriving DecidableEq

/-- What it checks before its `UPDATE`, on the row it reads. -/
def checkUpdate (u : PlanUpdate) (t : PlanWork) : Except StoreError Unit := do
  let _ ← planI64 u.expectedRevision "revision"
  match t.get? u.commandId with
  | none => throw .operationNotFound
  | some current =>
    if current.state.canTransitionTo u.state then
      return ()
    else
      throw (.corrupt "invalid network plan work transition")

/-- Its `UPDATE`. -/
def updateBody (u : PlanUpdate) : PlanBody Unit :=
  advanceWork u.commandId u.expectedRevision u.state u.outcome
    (.corrupt "network plan work fencing conflict")

/-- The store, the calls of `update_network_plan_work` that are between their
two statements, and, as a ghost, which revision of which row each client has
read. -/
structure PlanWorld where
  leases : LeaseWorld
  work : PlanWork
  inFlight : List PlanUpdate
  revisionsRead : List (String × String × Nat)

namespace PlanWorld

/-- No call is running and nobody has read anything. -/
def fresh (leases : LeaseWorld) (work : PlanWork) : PlanWorld := ⟨leases, work, [], []⟩

end PlanWorld

inductive PlanStep
  /-- Time passes, or a lease is taken, renewed, taken over or given up. -/
  | lease (s : LeaseStep)
  | insertUnderLease (presented : PresentedLease) (work : NetworkPlanWorkRecord)
  | updateUnderLease (presented : PresentedLease) (u : PlanUpdate)
  | supersedeUnderLease (presented : PresentedLease) (oldCommandId : String)
      (expectedOldRevision : Nat) (successor : NetworkPlanWorkRecord)
  /-- `get_network_plan_work`, also the one at the end of every writer. -/
  | read (client commandId : String)
  | beginUpdate (client : String) (u : PlanUpdate)
  | finishUpdate (u : PlanUpdate)
  deriving DecidableEq

def PlanStep.presented? : PlanStep → Option PresentedLease
  | .insertUnderLease presented _ => some presented
  | .updateUnderLease presented _ => some presented
  | .supersedeUnderLease presented _ _ _ => some presented
  | _ => none

section Step

variable (clock : LeaseClock) (supersessionOutcome : String → Option (List UInt8))

namespace PlanWorld

/-- A writer's transaction on the rows, with the checks made before it. -/
def runBody (w : PlanWorld) (validated : Except StoreError Unit) (body : PlanBody Unit) :
    Except StoreError Unit × PlanWorld :=
  match validated with
  | .error e => (.error e, w)
  | .ok () =>
    let outcome := atomically body w.work
    (outcome.1, { w with work := outcome.2 })

def exec (w : PlanWorld) : PlanStep → Except StoreError Unit × PlanWorld
  | .lease s => (.ok (), { w with leases := w.leases.step clock s })
  | .insertUnderLease presented work =>
    w.runBody work.validate
      (insertUnderLeaseBody w.leases.tables w.leases.now presented work)
  | .updateUnderLease presented u =>
    w.runBody (.ok ())
      (updateUnderLeaseBody w.leases.tables w.leases.now presented u.commandId
        u.expectedRevision u.state u.outcome)
  | .supersedeUnderLease presented oldCommandId expectedOldRevision successor =>
    w.runBody successor.validate
      (supersedeUnderLeaseBody w.leases.tables w.leases.now supersessionOutcome presented
        oldCommandId expectedOldRevision successor)
  | .read client commandId =>
    match w.work.get? commandId with
    | none => (.error .operationNotFound, w)
    | some row =>
      (.ok (), { w with revisionsRead := (client, commandId, row.revision) :: w.revisionsRead })
  | .beginUpdate _ u =>
    match checkUpdate u w.work with
    | .error e => (.error e, w)
    | .ok () => (.ok (), { w with inFlight := u :: w.inFlight })
  | .finishUpdate u =>
    if u ∈ w.inFlight then
      { w with inFlight := w.inFlight.erase u }.runBody (.ok ()) (updateBody u)
    else
      (.ok (), w)

def step (w : PlanWorld) (s : PlanStep) : PlanWorld := (w.exec clock supersessionOutcome s).2

end PlanWorld

end Step

end Network
end O3k
