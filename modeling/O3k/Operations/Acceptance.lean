import O3k.Operations.Lifecycle

/-!
# Accepting an operation once

The four `create_or_replay_canonical_…` methods.  Each looks up the
idempotency key in one `BEGIN IMMEDIATE` transaction and answers from the
stored reservation when there is one; otherwise it writes the operation, its
metadata and the reservation, and one of them the resource as well.  What is
checked before the transaction is `precheck`.
-/

namespace O3k
namespace Operations

open Relational Relational.Transaction

structure IdempotencyReservationRequest where
  ownerScope : String
  action : String
  resourceType : String
  key : String
  fingerprint : String
  operationId : Uuid
  deriving DecidableEq

def IdempotencyReservationRequest.maxKeyLength : Nat := 128

def IdempotencyReservationRequest.row (request : IdempotencyReservationRequest) : ReservationRow :=
  ⟨request.ownerScope, request.action, request.key, request.fingerprint, request.operationId⟩

inductive IdempotencyReservation
  | conflict
  | created (operationId : Uuid)
  | existingEquivalent (operationId : Uuid)
  deriving DecidableEq

inductive CanonicalAcceptanceOutcome
  | conflict
  | created (operationId resourceId : Uuid)
  | existingEquivalent (operationId resourceId : Uuid)
  deriving DecidableEq

def CanonicalAcceptanceOutcome.reservation :
    CanonicalAcceptanceOutcome → IdempotencyReservation
  | conflict => .conflict
  | created operationId _ => .created operationId
  | existingEquivalent operationId _ => .existingEquivalent operationId

def CanonicalOperationRecord.metadata (c : CanonicalOperationRecord) : CanonicalMetadata where
  operationId := c.id
  service := c.service
  action := c.action
  actor := c.actor
  ownerScope := c.ownerScope
  resourceType := c.resourceType
  resourceId := c.resourceId
  attempt := c.attempt
  createdAt := c.createdAt
  startedAt := c.startedAt
  finishedAt := c.finishedAt
  error := c.error
  requestId := c.requestId

/-- A metadata row read back with the state of its operation; `attempt` is a
`u32` there. -/
def CanonicalMetadata.canonical (row : CanonicalMetadata) (state : OperationState) :
    Except StoreError CanonicalOperationRecord :=
  if 2 ^ 32 ≤ row.attempt then
    .error (.corrupt "invalid operation attempt")
  else
    .ok
      { id := row.operationId
        service := row.service
        action := row.action
        actor := row.actor
        ownerScope := row.ownerScope
        resourceType := row.resourceType
        resourceId := row.resourceId
        state := state
        attempt := row.attempt
        createdAt := row.createdAt
        startedAt := row.startedAt
        finishedAt := row.finishedAt
        error := row.error
        requestId := row.requestId }

section Validation

variable (lib : TextLibrary)

def validateCanonicalIdempotentOperationIdentity
    (operation : OperationRecord) (canonical : CanonicalOperationRecord)
    (request : IdempotencyReservationRequest) :
    Except StoreError Unit :=
  if operation.id ≠ canonical.id ∨ operation.id ≠ request.operationId then
    .error (.corrupt "durable, canonical, and idempotency operation identities differ")
  else if operation.state ≠ canonical.state then
    .error (.corrupt "durable and canonical operation states differ")
  else do
    let kernel ← KernelOperation.tryFrom lib canonical
    if isBlank kernel.service ∨ isBlank kernel.actor ∨ isBlank kernel.createdAt then
      .error (.corrupt "canonical operation identity is incomplete")
    else if kernel.action.nameSpace ≠ kernel.resourceType.nameSpace then
      .error (.corrupt "operation action and resource namespaces differ")
    else if kernel.action.asStr ≠ request.action then
      .error (.corrupt "canonical operation and idempotency actions differ")
    else if kernel.resourceType.toText ≠ request.resourceType then
      .error (.corrupt "canonical operation and idempotency resource types differ")
    else if kernel.ownerScope ≠ request.ownerScope then
      .error (.corrupt "canonical operation and idempotency owner scopes differ")
    else
      match kernel.resourceId with
      | none => .error (.corrupt "durable operation requires a resource id")
      | some id =>
        if id ≠ operation.resourceId then
          .error (.corrupt "durable and canonical resource identities differ")
        else
          .ok ()

def canonicalResourceTypeForRecord (resource : ResourceRecord) : Except StoreError ResourceType :=
  let new (nameSpace name : String) :=
    orCorrupt lib "invalid canonical resource type" (ResourceType.new lib nameSpace name)
  match splitOnce ':' resource.kind with
  | some (nameSpace, name) => new nameSpace name
  | none =>
    if resource.kind ∈ ["compute_instance", "compute_server", "server"] then
      new "compute" "server"
    else if resource.kind ∈ ["volume", "volume_volume"] then
      new "volume" "volume"
    else if resource.kind ∈ ["address_realm", "network_address_realm"] then
      new "network" "address_realm"
    else
      .error (.corrupt "unknown durable resource kind")

def validateCanonicalResourceAcceptance
    (resource : ResourceRecord) (operation : OperationRecord) (canonical : CanonicalOperationRecord)
    (request : IdempotencyReservationRequest) :
    Except StoreError Unit := do
  validateCanonicalIdempotentOperationIdentity lib operation canonical request
  if operation.resourceId ≠ resource.id ∨ resource.projectId ≠ canonical.ownerScope then
    .error (.corrupt "canonical acceptance resource identity or ownership differs")
  else
    let expected ← canonicalResourceTypeForRecord lib resource
    if expected.toText ≠ canonical.resourceType then
      .error (.corrupt "canonical acceptance resource type differs from durable resource kind")
    else
      .ok ()

end Validation

/-- `INSERT INTO operations`: the trigger looks for the resource before the
primary key is checked. -/
def insertOperation (operation : OperationRecord) (onDuplicate : StoreError) : Body Unit := do
  let t ← get
  require (t.hasResource operation.resourceId)
    (.database (.raisedAbort "operation resource not found"))
  let operations ← orFail (t.operations.insert? operation) onDuplicate
  set { t with operations := operations }

/-- `INSERT INTO canonical_operation_metadata`. -/
def insertMetadata (row : CanonicalMetadata) : Body Unit := do
  let t ← get
  let metadata ← orFail (t.metadata.insert? row) (.database .uniqueViolation)
  require ((t.operations.get? row.operationId).isSome) (.database .foreignKeyViolation)
  set { t with metadata := metadata }

/-- `INSERT INTO idempotency_reservations`. -/
def insertReservation (row : ReservationRow) : Body Unit := do
  let t ← get
  require (1 ≤ row.idempotencyKey.utf8ByteSize ∧ row.idempotencyKey.utf8ByteSize ≤ 128)
    (.database .checkViolation)
  require (∀ r ∈ t.reservations.rows, r.operationId ≠ row.operationId)
    (.database .uniqueViolation)
  let reservations ← orFail (t.reservations.insert? row) (.database .uniqueViolation)
  set { t with reservations := reservations }

/-- `INSERT INTO resources`. -/
def insertResource (row : ResourceRecord) : Body Unit := do
  let t ← get
  require row.satisfiesChecks (.database .checkViolation)
  let resources ← orFail (t.resources.insert? row) .resourceAlreadyExists
  set { t with resources := resources }

/-- `insert_sqlite_canonical_acceptance`; the idempotent entry point makes the
same three inserts with an error of its own for a stored operation. -/
def insertCanonicalAcceptance (operation : OperationRecord) (canonical : CanonicalOperationRecord)
    (request : IdempotencyReservationRequest) (onDuplicate : StoreError) :
    Body Unit := do
  insertOperation operation onDuplicate
  insertMetadata canonical.metadata
  insertReservation request.row

section Methods

variable (lib : TextLibrary)

def createOrReplayCanonicalIdempotentOperationBody
    (operation : OperationRecord) (canonical : CanonicalOperationRecord)
    (request : IdempotencyReservationRequest) :
    Body IdempotencyReservation := do
  let t ← get
  match t.reservations.get? request.row.key with
  | some reservation =>
    if reservation.fingerprint ≠ request.fingerprint then
      return .conflict
    else
      let existing := reservation.operationId
      let durable ← orFail (t.operations.get? existing)
        (.corrupt "idempotency reservation references missing operation")
      let metadata ← orFail (t.metadata.get? existing)
        (.corrupt "idempotency reservation references operation without canonical metadata")
      let existingCanonical ← fromExcept (metadata.canonical durable.state)
      fromExcept (validateCanonicalIdempotentOperationIdentity lib durable existingCanonical
        { request with operationId := existing })
      let winner ← orFail (t.resources.get? durable.resourceId)
        (.corrupt "canonical operation references missing resource")
      require (winner.projectId = existingCanonical.ownerScope)
        (.corrupt "canonical operation resource and owner scopes differ")
      return .existingEquivalent existing
  | none =>
    let resource ← orFail (t.resources.get? operation.resourceId) .resourceNotFound
    require (resource.projectId = canonical.ownerScope)
      (.corrupt "operation resource does not match canonical owner")
    insertCanonicalAcceptance operation canonical request
      (.corrupt "cannot attach a new idempotency reservation to a pre-existing operation")
    return .created operation.id

/-- The replay of the resource and the lifecycle entry points. -/
def replayAcceptance (reservation : ReservationRow) (request : IdempotencyReservationRequest) :
    Body CanonicalAcceptanceOutcome := do
  let t ← get
  if reservation.fingerprint ≠ request.fingerprint then
    return .conflict
  else
    let operationId := reservation.operationId
    let durable ← orFail (t.operations.get? operationId) (.database .rowNotFound)
    let metadata ← orFail (t.metadata.get? operationId) (.database .rowNotFound)
    let canonical ← fromExcept (metadata.canonical durable.state)
    let resource ← orFail (t.resources.get? durable.resourceId) (.database .rowNotFound)
    fromExcept (validateCanonicalResourceAcceptance lib resource durable canonical
      { request with operationId := operationId })
    return .existingEquivalent operationId resource.id

def createOrReplayCanonicalResourceOperationBody
    (resource : ResourceRecord) (operation : OperationRecord) (canonical : CanonicalOperationRecord)
    (request : IdempotencyReservationRequest) (expectedPlacementAllocationId : Option String) :
    Body CanonicalAcceptanceOutcome := do
  let t ← get
  match t.reservations.get? request.row.key with
  | some reservation => replayAcceptance lib reservation request
  | none =>
    require (∀ id ∈ expectedPlacementAllocationId, id ∈ t.placementAllocations)
      .placementAllocationNotFound
    insertResource resource
    insertCanonicalAcceptance operation canonical request (.database .uniqueViolation)
    return .created operation.id resource.id

def createOrReplayCanonicalLifecycleOperationBody
    (operation : OperationRecord) (canonical : CanonicalOperationRecord)
    (request : IdempotencyReservationRequest) :
    Body CanonicalAcceptanceOutcome := do
  let t ← get
  match t.reservations.get? request.row.key with
  | some reservation => replayAcceptance lib reservation request
  | none =>
    let persisted ← orFail (t.resources.get? operation.resourceId) (.database .rowNotFound)
    fromExcept (validateCanonicalResourceAcceptance lib persisted operation canonical request)
    insertCanonicalAcceptance operation canonical request (.database .uniqueViolation)
    return .created operation.id operation.resourceId

/-- The owner of a service-owned resource, by the type of the resource. -/
def scopedOwner (t : OperationTables) (resourceType : String) (id : Uuid) :
    Except StoreError (Option String) :=
  if resourceType = "network:network" then
    .ok ((t.canonicalNetworks.get? id).map ScopedResource.projectId)
  else if resourceType = "network:address_realm" then
    .ok ((t.canonicalAddressRealms.get? id).map ScopedResource.projectId)
  else
    .error (.corrupt "unsupported canonical scoped resource type")

def createOrReplayCanonicalScopedOperationBody
    (operation : OperationRecord) (canonical : CanonicalOperationRecord)
    (request : IdempotencyReservationRequest) :
    Body IdempotencyReservation := do
  let t ← get
  match t.reservations.get? request.row.key with
  | some reservation =>
    if reservation.fingerprint ≠ request.fingerprint then
      return .conflict
    else
      let existing := reservation.operationId
      let durable ← orFail (t.operations.get? existing) (.database .rowNotFound)
      let metadata ← orFail (t.metadata.get? existing) (.database .rowNotFound)
      require (durable.resourceId = operation.resourceId
          ∧ metadata.ownerScope = request.ownerScope
          ∧ metadata.action = request.action
          ∧ metadata.resourceId = some operation.resourceId)
        (.corrupt "canonical scoped operation replay identity differs")
      return .existingEquivalent existing
  | none =>
    let owner ← fromExcept (scopedOwner t canonical.resourceType operation.resourceId)
    require (owner = some canonical.ownerScope) .resourceNotFound
    insertCanonicalAcceptance operation canonical request (.database .uniqueViolation)
    return .created operation.id

/-- A call of one of the four methods.  `seen` is what `get_resource` has
returned to the lifecycle method before its transaction begins. -/
inductive AcceptanceCall
  | idempotentOperation (operation : OperationRecord) (canonical : CanonicalOperationRecord)
      (request : IdempotencyReservationRequest)
  | resourceOperation (resource : ResourceRecord) (operation : OperationRecord)
      (canonical : CanonicalOperationRecord) (request : IdempotencyReservationRequest)
      (expectedPlacementAllocationId : Option String)
  | lifecycleOperation (seen : Option ResourceRecord) (operation : OperationRecord)
      (canonical : CanonicalOperationRecord) (request : IdempotencyReservationRequest)
  | scopedOperation (operation : OperationRecord) (canonical : CanonicalOperationRecord)
      (request : IdempotencyReservationRequest)
  deriving DecidableEq

namespace AcceptanceCall

def operation : AcceptanceCall → OperationRecord
  | idempotentOperation operation _ _ => operation
  | resourceOperation _ operation _ _ _ => operation
  | lifecycleOperation _ operation _ _ => operation
  | scopedOperation operation _ _ => operation

def canonical : AcceptanceCall → CanonicalOperationRecord
  | idempotentOperation _ canonical _ => canonical
  | resourceOperation _ _ canonical _ _ => canonical
  | lifecycleOperation _ _ canonical _ => canonical
  | scopedOperation _ canonical _ => canonical

def request : AcceptanceCall → IdempotencyReservationRequest
  | idempotentOperation _ _ request => request
  | resourceOperation _ _ _ request _ => request
  | lifecycleOperation _ _ _ request => request
  | scopedOperation _ _ request => request

/-- What is checked before the transaction. -/
def precheck : AcceptanceCall → Except StoreError Unit
  | idempotentOperation operation canonical request =>
    if request.key.isEmpty
        ∨ IdempotencyReservationRequest.maxKeyLength < request.key.utf8ByteSize then
      .error (.corrupt "invalid idempotency key byte length")
    else
      validateCanonicalIdempotentOperationIdentity lib operation canonical request
  | resourceOperation resource operation canonical request _ =>
    validateCanonicalResourceAcceptance lib resource operation canonical request
  | lifecycleOperation none _ _ _ => .error .resourceNotFound
  | lifecycleOperation (some resource) operation canonical request =>
    validateCanonicalResourceAcceptance lib resource operation canonical request
  | scopedOperation operation canonical request =>
    if operation.id ≠ request.operationId then
      .error (.corrupt "operation and idempotency identities differ")
    else
      validateCanonicalIdempotentOperationIdentity lib operation canonical request

def body : AcceptanceCall → Body IdempotencyReservation
  | idempotentOperation operation canonical request =>
    createOrReplayCanonicalIdempotentOperationBody lib operation canonical request
  | resourceOperation resource operation canonical request allocation =>
    CanonicalAcceptanceOutcome.reservation <$>
      createOrReplayCanonicalResourceOperationBody lib resource operation canonical request
        allocation
  | lifecycleOperation _ operation canonical request =>
    CanonicalAcceptanceOutcome.reservation <$>
      createOrReplayCanonicalLifecycleOperationBody lib operation canonical request
  | scopedOperation operation canonical request =>
    createOrReplayCanonicalScopedOperationBody operation canonical request

def exec (c : AcceptanceCall) (t : OperationTables) :
    Except StoreError IdempotencyReservation × OperationTables :=
  match c.precheck lib with
  | .error e => (.error e, t)
  | .ok () => atomically (c.body lib) t

end AcceptanceCall

end Methods

/-!
# Reading a canonical operation back

`get_canonical_operation` joins the metadata with the operation and checks the
result against the row that the operation is about.
-/

section Validation

variable (lib : TextLibrary)

def CanonicalOperationRecord.isComplete (canonical : CanonicalOperationRecord) : Bool :=
  !isBlank canonical.actor && !isBlank canonical.createdAt && lib.isRfc3339 canonical.createdAt &&
    canonical.startedAt.all lib.isRfc3339 && canonical.finishedAt.all lib.isRfc3339

def CanonicalOperationRecord.parsedTypes (canonical : CanonicalOperationRecord) :
    Except StoreError (ActionId × ResourceType) := do
  let action ← orCorrupt lib "invalid operation action" (ActionId.parse lib canonical.action)
  match splitOnce ':' canonical.resourceType with
  | none => .error (.corrupt "invalid operation resource type")
  | some (nameSpace, name) =>
    let resourceType ←
      orCorrupt lib "invalid operation resource type" (ResourceType.new lib nameSpace name)
    .ok (action, resourceType)

def validateCanonicalOperationRead
    (operation : OperationRecord) (canonical : CanonicalOperationRecord)
    (resource : ResourceRecord) :
    Except StoreError Unit :=
  if operation.id ≠ canonical.id ∨ operation.resourceId ≠ resource.id
      ∨ canonical.resourceId ≠ some resource.id then
    .error (.corrupt "canonical operation/resource identities differ")
  else if canonical.ownerScope ≠ resource.projectId then
    .error (.corrupt "canonical operation owner differs from resource owner")
  else if canonical.isComplete lib = false then
    .error (.corrupt "canonical operation identity is incomplete")
  else do
    let (action, resourceType) ← canonical.parsedTypes lib
    let expected ← canonicalResourceTypeForRecord lib resource
    if action.nameSpace ≠ resourceType.nameSpace ∨ resourceType ≠ expected then
      .error (.corrupt "canonical operation action/resource namespace or resource type differ")
    else if operation.state ≠ canonical.state then
      .error (.corrupt "durable and canonical operation states differ")
    else
      .ok ()

def validateCanonicalScopedOperationRead
    (operation : OperationRecord) (canonical : CanonicalOperationRecord) :
    Except StoreError Unit :=
  if operation.id ≠ canonical.id ∨ canonical.resourceId ≠ some operation.resourceId then
    .error (.corrupt "canonical scoped operation identities differ")
  else if isBlank canonical.ownerScope = true ∨ canonical.isComplete lib = false then
    .error (.corrupt "canonical operation identity is incomplete")
  else do
    let (action, resourceType) ← canonical.parsedTypes lib
    if action.nameSpace ≠ resourceType.nameSpace ∨ operation.state ≠ canonical.state
        ∨ resourceType.nameSpace ≠ "network"
        ∨ resourceType.name ∉ ["network", "address_realm"] then
      .error (.corrupt "canonical scoped operation action/resource/state differs")
    else
      .ok ()

end Validation

namespace OperationTables

/-- The owner of the row in the service table, and that it is no row of the
other one. -/
def validateOwner
    (t : OperationTables) (operation : OperationRecord) (canonical : CanonicalOperationRecord) :
    Except StoreError Unit :=
  let network := t.canonicalNetworks.get? operation.resourceId
  let realm := t.canonicalAddressRealms.get? operation.resourceId
  if canonical.resourceType = "network:network" then
    match network with
    | some row =>
      if row.projectId ≠ canonical.ownerScope then
        .error (.corrupt "canonical network operation owner differs from network owner")
      else
        .ok ()
    | none =>
      if realm.isSome then
        .error (.corrupt "canonical network operation references an address realm")
      else
        .ok ()
  else if canonical.resourceType = "network:address_realm" then
    match realm with
    | some row =>
      if row.projectId ≠ canonical.ownerScope then
        .error (.corrupt "canonical address realm operation owner differs from realm owner")
      else
        .ok ()
    | none =>
      if network.isSome then
        .error (.corrupt "canonical address realm operation references a network")
      else
        .ok ()
  else
    .ok ()

def getCanonicalOperation (lib : TextLibrary) (t : OperationTables) (id : Uuid) :
    Except StoreError CanonicalOperationRecord :=
  match t.metadata.get? id, t.operations.get? id with
  | some metadata, some operation => do
    let canonical ← metadata.canonical operation.state
    t.validateOwner operation canonical
    match t.resources.get? operation.resourceId with
    | some resource => validateCanonicalOperationRead lib operation canonical resource
    | none => validateCanonicalScopedOperationRead lib operation canonical
    return canonical
  | _, _ => .error .operationNotFound

/-- `kind LIKE 'lifecycle:%'` does not tell the case of ASCII letters. -/
def isLifecycleKind (kind : String) : Bool :=
  "lifecycle:".toList.isPrefixOf (kind.toList.map Char.toLower)

def listNonTerminalLifecycleOperations (t : OperationTables) : List OperationRecord :=
  t.operations.rows.filter (fun o => isLifecycleKind o.kind && !o.state.isTerminal)

end OperationTables

end Operations
end O3k
