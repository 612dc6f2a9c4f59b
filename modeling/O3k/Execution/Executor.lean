import O3k.Execution.Records
import O3k.Semantics.Crowd

/-!
# The executor of network plans

The methods of `NetworkPlanExecutor` as programs.  A section under the lock of
the journal is one call; so is a call of the provider.  The journal is written
through a temporary file that is renamed, so that a section that is cut has
either written or not; a write may also be reported as failed after the rename.
-/

namespace O3k
namespace Execution

open Relational Network Fabric Semantics

/-- What the executors of one root share. History are the attempt that executes
a command, from its own admission of it on, and the commands for which the
provider has been called. -/
structure ExecutorRoot (Intent : Type) where
  agent : NetworkAgentIdentity
  lease : NetworkControllerLease
  /-- `accepted-network-plans.json`. -/
  plans : List (AcceptedPlan Intent)
  executing : Uuid → Option Nat
  mutations : List Uuid

inductive ExecutorCall (Intent : Type)
  | controllerLease
  /-- `who` goes on to execute the command; nobody does after `admit` alone. -/
  | admission (who : Option Nat) (command : NetworkPlanCommand Intent) (now : Nat)
      (authority : NetworkControllerLease)
  | setStatus (who : Nat) (id : Uuid) (status : NetworkPlanStatus)
  | mutate (command : NetworkPlanCommand Intent)
  | observeRemoved (command : NetworkPlanCommand Intent)
  | pending
  | reconcile (id : Uuid)

abbrev ExecutorReply {Intent : Type} : ExecutorCall Intent → Type
  | .controllerLease => NetworkControllerLease
  | .admission _ _ _ _ => Except NetworkExecutionError PlanAdmission
  | .setStatus _ _ _ => Except NetworkExecutionError Unit
  | .mutate _ => Except String Unit
  | .observeRemoved _ => Except String Bool
  | .pending => Except NetworkExecutionError (List Uuid)
  | .reconcile _ => Except NetworkExecutionError NetworkPlanStatus

inductive WriteOutcome
  | written
  | failed
  | failedAfterRename
  deriving DecidableEq

/-- What the environment decides: whether the journal can be read and written,
and what the provider says. -/
structure ExecutorAnswer where
  unreadable : Option NetworkExecutionError
  write : WriteOutcome
  mutation : Except String Unit
  observation : Except String Bool

/-- The journal works and the provider has done what it was asked. -/
def ExecutorAnswer.plain : ExecutorAnswer := ⟨none, .written, .ok (), .ok true⟩

namespace ExecutorRoot

variable {Intent : Type} (s : ExecutorRoot Intent)

/-- `store`, and what it is worth to the caller. -/
def writePlans {α : Type} (write : WriteOutcome) (plans : List (AcceptedPlan Intent)) (a : α) :
    Except NetworkExecutionError α × ExecutorRoot Intent :=
  match write with
  | .written => (.ok a, { s with plans := plans })
  | .failed => (.error .io, s)
  | .failedAfterRename => (.error .io, { s with plans := plans })

/-- The attempt, if there is one, executes the command from now on. -/
def begin (who : Option Nat) (id : Uuid) : ExecutorRoot Intent :=
  { s with executing := Function.update s.executing id who }

/-- The attempt no longer executes the command. -/
def finish (who : Nat) (id : Uuid) : ExecutorRoot Intent :=
  if s.executing id = some who then
    { s with executing := Function.update s.executing id none }
  else
    s

def drop (who : Nat) : ExecutorRoot Intent :=
  { s with executing := fun id => if s.executing id = some who then none else s.executing id }

/-- What is left to do when a status has been set or could not be set. -/
def afterStatus (who : Nat) (id : Uuid) (status : NetworkPlanStatus) :
    Except NetworkExecutionError Unit × ExecutorRoot Intent →
      Except NetworkExecutionError Unit × ExecutorRoot Intent
  | (.ok (), s) => (.ok (), if status = .applying then s else s.finish who id)
  | (.error e, s) => (.error e, s.finish who id)

end ExecutorRoot

section Code

variable {Intent : Type} (lib : FabricLibrary Intent L3GatewayExecutionPlan)

/-- The section of `admit_with_authority`, after its validation. -/
def execAdmit (who : Option Nat) (command : NetworkPlanCommand Intent) (now : Nat)
    (authority : NetworkControllerLease) (x : ExecutorAnswer) (s : ExecutorRoot Intent) :
    Except NetworkExecutionError PlanAdmission × ExecutorRoot Intent :=
  match validateCommand lib s.agent command authority with
  | .error e => (.error e, s)
  | .ok () =>
    match x.unreadable with
    | some e => (.error e, s)
    | none =>
      match admitToJournal command now s.plans with
      | .error e => (.error e, s)
      | .ok (.inl admission) => (.ok admission, s)
      | .ok (.inr row) =>
        match s.writePlans x.write (s.plans ++ [row]) PlanAdmission.accepted with
        | (.ok admission, s) => (.ok admission, s.begin who command.commandId)
        | (.error e, s) => (.error e, s)

/-- The section of `set_status`. -/
def execSetStatus
    (id : Uuid) (status : NetworkPlanStatus) (x : ExecutorAnswer) (s : ExecutorRoot Intent) :
    Except NetworkExecutionError Unit × ExecutorRoot Intent :=
  match x.unreadable with
  | some e => (.error e, s)
  | none =>
    match setPlanStatus id status s.plans with
    | none => (.error .unknownCommand, s)
    | some plans => s.writePlans x.write plans ()

def observedStatus : Except String Bool → NetworkPlanStatus
  | .ok true => .succeeded
  | _ => .unknown

/-- The section of `reconcile`, with the observation that is made in it. -/
def execReconcile (id : Uuid) (x : ExecutorAnswer) (s : ExecutorRoot Intent) :
    Except NetworkExecutionError NetworkPlanStatus × ExecutorRoot Intent :=
  match x.unreadable with
  | some e => (.error e, s)
  | none =>
    match findPlan id s.plans with
    | none => (.error .unknownCommand, s)
    | some record =>
      if record.status = .succeeded then
        (.ok record.status, s)
      else
        match setPlanStatus id (observedStatus x.observation) s.plans with
        | none => (.error .unknownCommand, s)
        | some plans => s.writePlans x.write plans (observedStatus x.observation)

def execExecutor : (c : ExecutorCall Intent) → ExecutorAnswer → ExecutorRoot Intent →
    ExecutorReply c × ExecutorRoot Intent
  | .controllerLease, _, s => (s.lease, s)
  | .admission who command now authority, x, s => execAdmit lib who command now authority x s
  | .setStatus who id status, x, s =>
    ExecutorRoot.afterStatus who id status (execSetStatus id status x s)
  | .mutate command, x, s => (x.mutation, { s with mutations := command.commandId :: s.mutations })
  | .observeRemoved _, x, s => (x.observation, s)
  | .pending, x, s =>
    (match x.unreadable with
      | some e => .error e
      | none => .ok ((s.plans.filter (fun p => p.status ≠ .succeeded)).map (·.commandId)), s)
  | .reconcile id, x, s => execReconcile id x s

abbrev ExecutorM (Intent α : Type) : Type :=
  ExceptT NetworkExecutionError (Program (ExecutorCall Intent) ExecutorReply) α

namespace ExecutorM

def call (c : ExecutorCall Intent) : ExecutorM Intent (ExecutorReply c) :=
  ExceptT.lift (Program.perform c)

/-- `?`. -/
def given {α : Type} (x : Except NetworkExecutionError α) : ExecutorM Intent α :=
  ExceptT.mk (pure x)

end ExecutorM

open ExecutorM

def admitWithAuthority (who : Option Nat) (command : NetworkPlanCommand Intent) (now : Nat)
    (authority : NetworkControllerLease) :
    ExecutorM Intent PlanAdmission := do
  given (← call (.admission who command now authority))

/-- `admit`. -/
def admitPlan (who : Option Nat) (command : NetworkPlanCommand Intent) (now : Nat) :
    ExecutorM Intent PlanAdmission := do
  let authority ← call .controllerLease
  admitWithAuthority who command now authority

/-- What the result of the provider is worth: a removal has to be observed. -/
def confirmMutation (command : NetworkPlanCommand Intent) :
    Except String Unit → ExecutorM Intent (Except String Unit)
  | .error e => pure (.error e)
  | .ok () =>
    match command.action with
    | .apply => pure (.ok ())
    | .remove => do
      let removed ← call (.observeRemoved command)
      match removed with
      | .ok true => pure (.ok ())
      | .ok false => pure (.error "provider removal returned success but owned state remains")
      | .error e => pure (.error e)

def executeAdmitted (who : Nat) (command : NetworkPlanCommand Intent) : ExecutorM Intent Unit := do
  given (← call (.setStatus who command.commandId .applying))
  let mutation ← call (.mutate command)
  let result ← confirmMutation command mutation
  match result with
  | .ok () => given (← call (.setStatus who command.commandId .succeeded))
  | .error e => do
    given (← call (.setStatus who command.commandId .unknown))
    throw (.mutationOutcomeUnknown e)

/-- The execution of a command that has just been admitted. -/
def executeIfAccepted
    (who : Nat) (command : NetworkPlanCommand Intent) (admission : PlanAdmission) :
    ExecutorM Intent PlanAdmission :=
  if admission ≠ .accepted then
    pure admission
  else do
    executeAdmitted who command
    pure .accepted

def execute (who : Nat) (command : NetworkPlanCommand Intent) (now : Nat) :
    ExecutorM Intent PlanAdmission := do
  let admission ← admitPlan (some who) command now
  executeIfAccepted who command admission

def reconcile (id : Uuid) : ExecutorM Intent NetworkPlanStatus := do
  given (← call (.reconcile id))

def reconcileEach : List Uuid → ExecutorM Intent (List (Uuid × NetworkPlanStatus))
  | [] => pure []
  | id :: rest => do
    let status ← reconcile id
    let others ← reconcileEach rest
    pure ((id, status) :: others)

def reconcilePending : ExecutorM Intent (List (Uuid × NetworkPlanStatus)) := do
  let pending ← given (← call .pending)
  reconcileEach pending

end Code

/-- What is asked of the executor.  `dispatch` is `admit_with_authority` and,
for an accepted command, `execute_admitted`. -/
inductive ExecutorTask (Intent : Type)
  | admission (command : NetworkPlanCommand Intent) (now : Nat)
  | admitWithAuthority
      (command : NetworkPlanCommand Intent) (now : Nat) (authority : NetworkControllerLease)
  | execute (command : NetworkPlanCommand Intent) (now : Nat)
  | dispatch (command : NetworkPlanCommand Intent) (now : Nat) (authority : NetworkControllerLease)
  | reconcile (id : Uuid)
  | reconcilePending

inductive ExecutorResult
  | admission (admission : PlanAdmission)
  | status (status : NetworkPlanStatus)
  | statuses (statuses : List (Uuid × NetworkPlanStatus))
  deriving DecidableEq

section Machine

variable {Intent : Type} (lib : FabricLibrary Intent L3GatewayExecutionPlan)

def executorM (who : Nat) : ExecutorTask Intent → ExecutorM Intent ExecutorResult
  | .admission command now => .admission <$> admitPlan none command now
  | .admitWithAuthority command now authority =>
    .admission <$> admitWithAuthority none command now authority
  | .execute command now => .admission <$> execute who command now
  | .dispatch command now authority => do
    let admission ← admitWithAuthority (some who) command now authority
    .admission <$> executeIfAccepted who command admission
  | .reconcile id => .status <$> reconcile id
  | .reconcilePending => .statuses <$> reconcilePending

def executorProgram (who : Nat) (task : ExecutorTask Intent) :
    Program (ExecutorCall Intent) ExecutorReply (Except NetworkExecutionError ExecutorResult) :=
  (executorM who task).run

/-- The executor is opened again, or gets another lease. -/
structure Reopening where
  agent : NetworkAgentIdentity
  lease : NetworkControllerLease

def Reopening.act (e : Reopening) (s : ExecutorRoot Intent) : ExecutorRoot Intent :=
  { s with agent := e.agent, lease := e.lease }

abbrev Executors (Intent : Type) : Type :=
  Crowd (ExecutorRoot Intent) Nat (ExecutorCall Intent) ExecutorReply
    (Except NetworkExecutionError ExecutorResult)

abbrev ExecutorEvent (Intent : Type) : Type :=
  CrowdEvent Nat (ExecutorTask Intent) ExecutorAnswer Reopening

def executorStep (w : Executors Intent) (e : ExecutorEvent Intent) : Executors Intent :=
  w.step (execExecutor lib) executorProgram (fun who s => s.drop who) Reopening.act e

end Machine

end Execution
end O3k
