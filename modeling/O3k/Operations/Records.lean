import Mathlib.Data.Prod.Lex
import Mathlib.Data.String.Basic
import O3k.Relational.Table
import O3k.Kernel.Error

/-!
# Resources, operations and their canonical metadata

The records of the operation journal and the tables they live in.  The
canonical metadata of an operation is a separate row under the same id;
an idempotency reservation binds a key of an owner and an action to one
operation.
-/

namespace O3k
namespace Operations

open Relational

inductive OperationState
  | pending
  | running
  | succeeded
  | retryable
  | unknownOutcome
  | failed
  deriving DecidableEq

/-- `Succeeded | Failed`. -/
def OperationState.isTerminal : OperationState → Bool
  | .succeeded => true
  | .failed => true
  | _ => false

structure ResourceRecord where
  id : Uuid
  kind : String
  projectId : String
  generation : Int
  observedGeneration : Int
  desiredState : String
  observedState : String
  providerId : Option String
  deriving DecidableEq

/-- The `CHECK` constraints of the table. -/
def ResourceRecord.satisfiesChecks (r : ResourceRecord) : Bool :=
  0 < r.generation && 0 ≤ r.observedGeneration

structure OperationRecord where
  id : Uuid
  resourceId : Uuid
  kind : String
  state : OperationState
  providerOperationId : Option String
  errorCategory : Option String
  errorMessage : Option String
  deriving DecidableEq

/-- A row of `canonical_operation_metadata`. -/
structure CanonicalMetadata where
  operationId : Uuid
  service : String
  action : String
  actor : String
  ownerScope : String
  resourceType : String
  resourceId : Option String
  attempt : Nat
  createdAt : String
  startedAt : Option String
  finishedAt : Option String
  error : Option String
  requestId : Option String
  deriving DecidableEq

/-- A row of `idempotency_reservations`. -/
structure ReservationRow where
  ownerScope : String
  action : String
  idempotencyKey : String
  fingerprint : String
  operationId : Uuid
  deriving DecidableEq

/-- The primary key `(owner_scope, action, idempotency_key)`. -/
def ReservationRow.key (row : ReservationRow) : String ×ₗ String ×ₗ String :=
  toLex (row.ownerScope, toLex (row.action, row.idempotencyKey))

/-- A service-owned canonical resource, as far as an operation may refer to it. -/
structure ScopedResource where
  id : Uuid
  projectId : String
  deriving DecidableEq

structure OperationTables where
  resources : Table ResourceRecord.id
  operations : Table OperationRecord.id
  metadata : Table CanonicalMetadata.operationId
  reservations : Table ReservationRow.key
  canonicalNetworks : Table ScopedResource.id
  canonicalAddressRealms : Table ScopedResource.id
  placementAllocations : List String

namespace OperationTables

def empty : OperationTables := ⟨∅, ∅, ∅, ∅, ∅, ∅, []⟩

@[simps] def putResource (t : OperationTables) (row : ResourceRecord) : OperationTables :=
  { t with resources := t.resources.put row }

@[simps] def putOperation (t : OperationTables) (row : OperationRecord) : OperationTables :=
  { t with operations := t.operations.put row }

@[simps] def putMetadata (t : OperationTables) (row : CanonicalMetadata) : OperationTables :=
  { t with metadata := t.metadata.put row }

@[simps] def putReservation (t : OperationTables) (row : ReservationRow) : OperationTables :=
  { t with reservations := t.reservations.put row }

/-- The row that an operation refers to exists, in one of the three tables
that the trigger on `operations` looks at. -/
def hasResource (t : OperationTables) (id : Uuid) : Bool :=
  (t.resources.get? id).isSome ||
    (t.canonicalNetworks.get? id).isSome ||
    (t.canonicalAddressRealms.get? id).isSome

/-- `UPDATE canonical_operation_metadata … WHERE operation_id = ?`. -/
def modifyMetadata
    (t : OperationTables) (operationId : Uuid) (f : CanonicalMetadata → CanonicalMetadata) :
    OperationTables :=
  match t.metadata.get? operationId with
  | none => t
  | some row => t.putMetadata (f row)

@[simp] theorem operations_modifyMetadata
    (t : OperationTables) (operationId : Uuid) (f : CanonicalMetadata → CanonicalMetadata) :
    (t.modifyMetadata operationId f).operations = t.operations := by
  unfold modifyMetadata
  split <;> rfl

@[simp] theorem resources_modifyMetadata
    (t : OperationTables) (operationId : Uuid) (f : CanonicalMetadata → CanonicalMetadata) :
    (t.modifyMetadata operationId f).resources = t.resources := by
  unfold modifyMetadata
  split <;> rfl

end OperationTables

/-!
# Canonical operation records

The metadata of an operation read together with its state.  A record becomes a
kernel operation when all of its identifiers and timestamps can be read.
-/

variable (lib : TextLibrary)

/-- `CanonicalOperationRecord`: the metadata of an operation with its state. -/
structure CanonicalOperationRecord where
  id : Uuid
  service : String
  action : String
  actor : String
  ownerScope : String
  resourceType : String
  resourceId : Option String
  state : OperationState
  attempt : Nat
  createdAt : String
  startedAt : Option String
  finishedAt : Option String
  error : Option String
  requestId : Option String
  deriving DecidableEq

/-- `o3k_kernel::Operation`, of a project scope. -/
structure KernelOperation where
  id : Uuid
  service : String
  action : ActionId
  actor : String
  ownerScope : String
  resourceType : ResourceType
  resourceId : Option String
  state : OperationState
  attempt : Nat
  createdAt : String
  startedAt : Option String
  finishedAt : Option String
  error : Option String
  requestId : Option String
  deriving DecidableEq

/-- `map_err(|e| StoreError::Corrupt(format!("{what}: {e}")))`. -/
def orCorrupt {α : Type} (what : String) (x : Except KernelError α) : Except StoreError α :=
  x.mapError (fun e => .corrupt (what ++ ": " ++ e.display lib))

/-- `Operation::try_from`. -/
def KernelOperation.tryFrom (value : CanonicalOperationRecord) :
    Except StoreError KernelOperation := do
  if isBlank value.createdAt ∨ ¬ lib.isRfc3339 value.createdAt
      ∨ ¬ value.startedAt.all lib.isRfc3339 ∨ ¬ value.finishedAt.all lib.isRfc3339 then
    .error (.corrupt "invalid canonical operation timestamp")
  else
    let action ← orCorrupt lib "invalid operation action" (ActionId.parse lib value.action)
    let scope ← orCorrupt lib "invalid operation scope" (newScopeId value.ownerScope)
    match splitOnce ':' value.resourceType with
    | none => .error (.corrupt "invalid operation resource type")
    | some (nameSpace, name) =>
      let resourceType ←
        orCorrupt lib "invalid operation resource type" (ResourceType.new lib nameSpace name)
      let resourceId ←
        match value.resourceId with
        | none => .ok none
        | some id => some <$> orCorrupt lib "invalid operation resource id" (newResourceId id)
      .ok
        { id := value.id
          service := value.service
          action := action
          actor := value.actor
          ownerScope := scope
          resourceType := resourceType
          resourceId := resourceId
          state := value.state
          attempt := value.attempt
          createdAt := value.createdAt
          startedAt := value.startedAt
          finishedAt := value.finishedAt
          error := value.error
          requestId := value.requestId }

end Operations
end O3k
