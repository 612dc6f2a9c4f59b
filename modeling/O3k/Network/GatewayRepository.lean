import O3k.Network.Repository

/-!
# The network repository: gateways and their attachments

A gateway is deleted in two steps, as a realm is.  The insert of an attachment
looks at the state of the realm; of the gateway it only needs the row, which
the foreign key asks for.
-/

namespace O3k
namespace Network

open Relational Relational.Transaction Operations

namespace NetworkTables

variable (s : NetworkTables) (projectId : String)

def getCanonicalL3Gateway (id : Uuid) : Option CanonicalL3GatewayRecord :=
  (s.gateways.get? id).filter (fun g => g.projectId = projectId)

def getCanonicalL3GatewayAttachment (id : Uuid) : Option CanonicalL3GatewayAttachmentRecord :=
  (s.attachments.get? id).filter (fun a => a.projectId = projectId)

def listCanonicalL3GatewayAttachments (gatewayId : Uuid) :
    List CanonicalL3GatewayAttachmentRecord :=
  s.attachments.rows.filter (fun a => a.projectId = projectId ∧ a.gatewayId = gatewayId)

def listCanonicalRealmL3GatewayAttachments (realmId : Uuid) :
    List CanonicalL3GatewayAttachmentRecord :=
  s.attachments.rows.filter (fun a => a.projectId = projectId ∧ a.realmId = realmId)

/-- The foreign key `(external_realm_id, project_id)`. -/
def externalRealmExists (externalRealmId : Option Uuid) : Bool :=
  externalRealmId.all (fun id => (s.getCanonicalRealm projectId id).isSome)

/-- `EXISTS (SELECT 1 … WHERE gateway_id = ? AND state IN ('active', 'deleting'))`. -/
def hasLiveAttachment (gatewayId : Uuid) : Bool :=
  s.attachments.rows.any (fun a => a.gatewayId = gatewayId && a.isLive)

end NetworkTables

open NetworkTables

def insertCanonicalL3GatewayBody (gateway : CanonicalL3GatewayRecord) : NetworkTx Unit := do
  fromExcept (checkedGeneration gateway.generation)
  let s ← get
  let gateways ← orFail (s.gateways.insert? gateway) .resourceAlreadyExists
  require (s.externalRealmExists gateway.projectId gateway.externalRealmId = true)
    (.database .foreignKeyViolation)
  set (s.setGateways gateways)

variable (projectId : String)

def updateCanonicalL3GatewayBody
    (id : Uuid) (expected : Nat) (name : String) (external : Option Uuid) (snat : Bool) :
    NetworkTx CanonicalL3GatewayRecord := do
  let s ← get
  let gateway ← orFail (s.getCanonicalL3Gateway projectId id) .resourceNotFound
  require (gateway.generation = expected ∧ gateway.state = .active) .staleGeneration
  require (s.externalRealmExists projectId external = true) (.database .foreignKeyViolation)
  let row :=
    { gateway with
      name := name
      externalRealmId := external
      enableSnat := snat
      generation := gateway.generation + 1 }
  set (s.setGateways (s.gateways.put row))
  return row

/-- `classify_l3_gateway_deletion_failure` tells why no row was changed. -/
def classifyL3GatewayDeletionFailure
    (s : NetworkTables) (projectId : String) (id : Uuid) (expected : Nat)
    (requiredState : CanonicalState) :
    StoreError :=
  match s.gateways.get? id with
  | none => .ownershipConflict
  | some gateway =>
    if gateway.projectId ≠ projectId then
      .ownershipConflict
    else if gateway.generation ≠ expected then
      .staleGeneration
    else if gateway.state ≠ requiredState then
      .ownershipConflict
    else
      .networkInUse

/-- The row that a step of the deletion changes, when its conditions hold. -/
def NetworkTables.deletableGateway
    (s : NetworkTables) (projectId : String) (id : Uuid) (expected : Nat)
    (requiredState : CanonicalState) :
    Option CanonicalL3GatewayRecord :=
  (s.getCanonicalL3Gateway projectId id).filter (fun g =>
    g.generation = expected && g.state = requiredState && !s.hasLiveAttachment id)

def beginCanonicalL3GatewayDeletionBody (id : Uuid) (expected : Nat) :
    NetworkTx CanonicalL3GatewayRecord := do
  let s ← get
  let gateway ← orFail (s.deletableGateway projectId id expected .active)
    (classifyL3GatewayDeletionFailure s projectId id expected .active)
  let row := { gateway with state := .deleting, generation := gateway.generation + 1 }
  set (s.setGateways (s.gateways.put row))
  return row

def finalizeCanonicalL3GatewayDeletionBody (id : Uuid) (expected : Nat) : NetworkTx Unit := do
  let s ← get
  let _ ← orFail (s.deletableGateway projectId id expected .deleting)
    (classifyL3GatewayDeletionFailure s projectId id expected .deleting)
  require (∀ a ∈ s.attachments.rows, a.gatewayId ≠ id) (.database .foreignKeyViolation)
  set (s.setGateways (s.gateways.deleteWhere (fun g => g.id = id)))

def insertCanonicalL3GatewayAttachmentBody (attachment : CanonicalL3GatewayAttachmentRecord) :
    NetworkTx Unit := do
  fromExcept (checkedGeneration attachment.generation)
  let s ← get
  let realm ← orFail (s.getCanonicalRealm attachment.projectId attachment.realmId)
    .resourceNotFound
  require (realm.state = .active) .networkInUse
  require
    (∀ a ∈ s.attachments.rows,
      ¬ (a.gatewayId = attachment.gatewayId ∧ a.realmId = attachment.realmId
        ∧ a.projectId = attachment.projectId))
    .resourceAlreadyExists
  let attachments ← orFail (s.attachments.insert? attachment) .resourceAlreadyExists
  require ((s.getCanonicalL3Gateway attachment.projectId attachment.gatewayId).isSome)
    (.database .foreignKeyViolation)
  set (s.setAttachments attachments)

def beginCanonicalL3GatewayAttachmentDeletionBody (id : Uuid) (expected : Nat) :
    NetworkTx CanonicalL3GatewayAttachmentRecord := do
  let s ← get
  let attachment ← orFail (s.getCanonicalL3GatewayAttachment projectId id) .staleGeneration
  require (attachment.generation = expected ∧ attachment.state = .active) .staleGeneration
  let row := { attachment with state := .deleting, generation := attachment.generation + 1 }
  set (s.setAttachments (s.attachments.put row))
  return row

def finalizeCanonicalL3GatewayAttachmentDeletionBody (id : Uuid) (expected : Nat) :
    NetworkTx Unit := do
  let s ← get
  let attachment ← orFail (s.getCanonicalL3GatewayAttachment projectId id) .staleGeneration
  require (attachment.generation = expected ∧ attachment.state = .deleting) .staleGeneration
  set (s.setAttachments (s.attachments.deleteWhere (fun a => a.id = id)))

end Network
end O3k
