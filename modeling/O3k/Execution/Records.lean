import O3k.Fabric.Planner

/-!
# Commands for network plans

What the control plane sends to a node, what the node's journal keeps of it,
and the admission of a command to the journal.
-/

namespace O3k
namespace Execution

open Relational Network Fabric

structure NetworkAgentIdentity where
  agentId : String
  agentEpoch : String
  deriving DecidableEq

structure NetworkControllerLease where
  controllerId : String
  controllerEpoch : String
  fencingToken : Nat
  deriving DecidableEq

inductive NetworkPlanAction
  | apply
  | remove
  deriving DecidableEq

structure L3GatewayExecutionAttachment where
  attachmentId : Uuid
  attachmentGeneration : Nat
  realmId : Uuid
  realmGeneration : Nat
  realmPrefix : Ipv4Prefix
  gatewayAddress : Ipv4Addr
  deriving DecidableEq

structure L3GatewayExecutionPlan where
  gatewayId : Uuid
  projectId : String
  gatewayGeneration : Nat
  attachments : List L3GatewayExecutionAttachment
  externalRealmId : Option Uuid
  externalRealmPrefix : Option Ipv4Prefix
  externalRealmGeneration : Option Nat
  enableSnat : Bool
  deriving DecidableEq

structure NetworkPlanCommand (Intent : Type) where
  commandId : Uuid
  operationId : Uuid
  idempotencyKey : String
  action : NetworkPlanAction
  target : NetworkAgentIdentity
  controller : NetworkControllerLease
  deadlineUnixMs : Nat
  plan : NodeNetworkPlan Intent L3GatewayExecutionPlan

inductive NetworkPlanStatus
  | accepted
  | applying
  | succeeded
  | unknown
  deriving DecidableEq

structure AcceptedPlan (Intent : Type) where
  commandId : Uuid
  operationId : Uuid
  idempotencyKey : String
  action : NetworkPlanAction
  plan : NodeNetworkPlan Intent L3GatewayExecutionPlan
  target : NetworkAgentIdentity
  controller : NetworkControllerLease
  status : NetworkPlanStatus

/-- What a command is known by beside its id. -/
def AcceptedPlan.purpose {Intent : Type} (p : AcceptedPlan Intent) :
    Uuid × Uuid × NetworkPlanAction :=
  (p.operationId, p.plan.planId, p.action)

inductive PlanAdmission
  | accepted
  | replayed
  | replayedUnknown
  | requiresObservation
  deriving DecidableEq

inductive NetworkExecutionError
  | io
  | corruptJournal
  | invalidCommand
  | staleAgentEpoch
  | staleControllerLease
  | deadlineExpired
  | conflictingReplay
  | mutationOutcomeUnknown (reason : String)
  | unknownCommand
  deriving DecidableEq

/-- The command is refused: the journal has not failed, and no mutation has an
unknown outcome. -/
def NetworkExecutionError.isRejection : NetworkExecutionError → Bool
  | .io => false
  | .mutationOutcomeUnknown _ => false
  | _ => true

/-- `Ipv4Prefix::overlaps`. -/
def overlaps (a b : Ipv4Prefix) : Bool := a.contains b.network || b.contains a.network

/-- The loop over the attachments of a gateway, with what it has seen. -/
def attachmentsAreValid :
    List L3GatewayExecutionAttachment → List Uuid → List Uuid → List Ipv4Prefix → Bool
  | [], _, _, _ => true
  | a :: rest, ids, realms, prefixes =>
    a.attachmentId ≠ nilUuid && a.realmId ≠ nilUuid && a.attachmentGeneration ≠ 0 &&
      a.realmGeneration ≠ 0 && a.attachmentId ∉ ids && a.realmId ∉ realms &&
      a.realmPrefix.contains a.gatewayAddress && a.gatewayAddress ≠ a.realmPrefix.network &&
      !prefixes.any (fun p => overlaps p a.realmPrefix) &&
      attachmentsAreValid rest (a.attachmentId :: ids) (a.realmId :: realms)
        (a.realmPrefix :: prefixes)

/-- `gateway::validate_plan`.  Uuids are compared as their texts are. -/
def gatewayIsValid (plan : L3GatewayExecutionPlan) : Bool :=
  plan.gatewayId ≠ nilUuid && plan.gatewayGeneration ≠ 0 &&
    (plan.attachments.map (·.attachmentId)).IsChain (· < ·) &&
    attachmentsAreValid plan.attachments [] [] [] &&
    plan.externalRealmId.all
      (fun external => external ≠ nilUuid && external ∉ plan.attachments.map (·.realmId)) &&
    plan.externalRealmId.isSome = plan.externalRealmPrefix.isSome &&
    (plan.externalRealmId.isNone || plan.externalRealmGeneration.getD 0 ≠ 0)

def isHexDigit (c : Char) : Bool :=
  ('0' ≤ c && c ≤ '9') || ('a' ≤ c && c ≤ 'f') || ('A' ≤ c && c ≤ 'F')

section Validation

variable {Intent : Type} (lib : FabricLibrary Intent L3GatewayExecutionPlan)

/-- The plan is for the host of its fabric or, without one, for the target. -/
def NetworkPlanCommand.isForNode (command : NetworkPlanCommand Intent) : Bool :=
  match command.plan.fabric with
  | some fabric => fabric.localHost = command.plan.nodeId
  | none => command.plan.nodeId = command.target.agentId

/-- `NetworkPlanExecutor::validate`. -/
def validateCommand (agent : NetworkAgentIdentity) (command : NetworkPlanCommand Intent)
    (authority : NetworkControllerLease) :
    Except NetworkExecutionError Unit :=
  if isBlank command.idempotencyKey ∨ isBlank command.target.agentId ∨
      isBlank command.target.agentEpoch ∨ isBlank command.controller.controllerId ∨
      isBlank command.controller.controllerEpoch ∨ command.controller.fencingToken = 0 ∨
      isBlank command.plan.nodeId ∨ ¬ command.isForNode ∨
      command.plan.fingerprintSha256.utf8ByteSize ≠ 64 ∨
      ¬ command.plan.fingerprintSha256.toList.all isHexDigit then
    .error .invalidCommand
  else if command.plan.fingerprintSha256 ≠ canonicalPlanFingerprint lib command.plan then
    .error .invalidCommand
  else if command.plan.validateFabric.toOption.isNone then
    .error .invalidCommand
  else if ¬ command.plan.gateway.all gatewayIsValid then
    .error .invalidCommand
  else if command.target ≠ agent then
    .error .staleAgentEpoch
  else if command.controller ≠ authority then
    .error .staleControllerLease
  else
    .ok ()

end Validation

section Journal

variable {Intent : Type} (command : NetworkPlanCommand Intent)

def NetworkPlanCommand.row : AcceptedPlan Intent :=
  { commandId := command.commandId
    operationId := command.operationId
    idempotencyKey := command.idempotencyKey
    action := command.action
    plan := command.plan
    target := command.target
    controller := command.controller
    status := .accepted }

def findPlan (id : Uuid) (plans : List (AcceptedPlan Intent)) : Option (AcceptedPlan Intent) :=
  plans.find? (fun p => p.commandId = id)

/-- What a command that is known already is answered. -/
def replay (existing : AcceptedPlan Intent) : Except NetworkExecutionError PlanAdmission :=
  if existing.plan.fingerprintSha256 = command.plan.fingerprintSha256 ∧
      existing.operationId = command.operationId ∧
      existing.idempotencyKey = command.idempotencyKey ∧
      existing.action = command.action ∧
      existing.plan.planId = command.plan.planId ∧
      existing.target = command.target then
    match existing.status with
    | .accepted => .ok .requiresObservation
    | .applying => .ok .requiresObservation
    | .succeeded => .ok .replayed
    | .unknown => .ok .replayedUnknown
  else
    .error .conflictingReplay

/-- `admit_with_authority` on the journal: the admission of a known command, or
the row of a new one. -/
def admitToJournal (now : Nat) (plans : List (AcceptedPlan Intent)) :
    Except NetworkExecutionError (PlanAdmission ⊕ AcceptedPlan Intent) :=
  match findPlan command.commandId plans with
  | some existing => (replay command existing).map .inl
  | none =>
    if plans.any (fun p => p.purpose = (command.operationId, command.plan.planId, command.action))
    then
      .error .conflictingReplay
    else if command.plan.operationId ≠ command.operationId ∨
        command.plan.deadlineUnixMs ≠ command.deadlineUnixMs then
      .error .invalidCommand
    else if command.deadlineUnixMs < now then
      .error .deadlineExpired
    else
      .ok (.inr command.row)

/-- The first row of the command gets the status. -/
def setPlanStatus (id : Uuid) (status : NetworkPlanStatus) :
    List (AcceptedPlan Intent) → Option (List (AcceptedPlan Intent))
  | [] => none
  | p :: rest =>
    if p.commandId = id then
      some ({ p with status := status } :: rest)
    else
      (setPlanStatus id status rest).map (p :: ·)

end Journal

end Execution
end O3k
