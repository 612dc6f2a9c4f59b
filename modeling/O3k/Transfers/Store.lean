import O3k.Transfers.Records

/-!
# The calls of the artifact transfer store

Insertion, update, rebinding to a new agent epoch, the sweep after operations
have ended, and the two readers.  `now` is `CURRENT_TIMESTAMP`.  The update
runs in a transaction that is rolled back when nothing is to be changed; the
other writers are one statement each.
-/

namespace O3k
namespace Transfers

open Relational Operations

/-- The transfers, and the journal their operations and resources live in. -/
structure TransferTables where
  journal : OperationTables
  transfers : Table ArtifactTransferRow.transferId

namespace TransferTables

def empty : TransferTables := ⟨OperationTables.empty, ∅⟩

@[simps] def putTransfer (t : TransferTables) (row : ArtifactTransferRow) : TransferTables :=
  { t with transfers := t.transfers.put row }

end TransferTables

def sqliteSequence (value : Nat) : Except StoreError Int :=
  if value ≤ integerMax then
    .ok value
  else
    .error (.corrupt "agent command sequence exceeds SQLite range")

/-- The row an `INSERT` binds. -/
def insertedRow (now : String) (transfer : ArtifactTransferRecord) :
    Except StoreError ArtifactTransferRow := do
  let sizeBytes ← sqliteSequence transfer.sizeBytes
  let chunkSizeBytes ← sqliteSequence transfer.chunkSizeBytes
  let chunkCount ← sqliteSequence transfer.chunkCount
  let contiguousBytes ← sqliteSequence transfer.contiguousBytes
  let nextChunkIndex ← sqliteSequence transfer.nextChunkIndex
  pure
    { transferId := transfer.transferId
      commandId := transfer.commandId
      operationId := transfer.operationId
      resourceId := transfer.resourceId
      agentId := transfer.agentId
      agentEpoch := transfer.agentEpoch
      artifactId := transfer.artifactId
      artifactKind := transfer.artifactKind
      sha256 := transfer.sha256
      sizeBytes := sizeBytes
      expiresAtUnixMs := some transfer.expiresAtUnixMs
      format := transfer.format
      chunkSizeBytes := chunkSizeBytes
      chunkCount := chunkCount
      state := transfer.state.asStr
      contiguousBytes := contiguousBytes
      nextChunkIndex := nextChunkIndex
      retryCount := transfer.retryCount
      createdAt := now
      updatedAt := now }

/-- `INSERT INTO artifact_transfers`. -/
def insertBody (row : ArtifactTransferRow) : Transaction TransferTables StoreError Unit := do
  let t ← get
  .require (row.satisfiesChecks = true) (.database .checkViolation)
  .require ((t.transfers.get? row.transferId).isNone = true) (.database .uniqueViolation)
  .require
    ((t.journal.operations.get? row.operationId).isSome = true ∧
      (t.journal.resources.get? row.resourceId).isSome = true)
    (.database .foreignKeyViolation)
  set (t.putTransfer row)

def sameIdentity (left right : ArtifactTransferRecord) : Bool :=
  left.transferId = right.transferId &&
    left.commandId = right.commandId &&
    left.operationId = right.operationId &&
    left.resourceId = right.resourceId &&
    left.agentId = right.agentId &&
    left.agentEpoch = right.agentEpoch &&
    left.artifactId = right.artifactId &&
    left.artifactKind = right.artifactKind &&
    left.sha256 = right.sha256 &&
    left.sizeBytes = right.sizeBytes &&
    left.expiresAtUnixMs = right.expiresAtUnixMs &&
    left.format = right.format &&
    left.chunkSizeBytes = right.chunkSizeBytes &&
    left.chunkCount = right.chunkCount

structure ArtifactTransferUpdate where
  state : ArtifactTransferState
  contiguousBytes : Nat
  nextChunkIndex : Nat
  retryCount : Nat
  deriving DecidableEq

namespace ArtifactTransferUpdate

/-- The update that a record is already at. -/
def ofRecord (r : ArtifactTransferRecord) : ArtifactTransferUpdate :=
  ⟨r.state, r.contiguousBytes, r.nextChunkIndex, r.retryCount⟩

def validateAgainst (self : ArtifactTransferUpdate) (current : ArtifactTransferRecord) :
    Except StoreError Unit :=
  if maxArtifactTransferRetries < self.retryCount ∨
      current.sizeBytes < self.contiguousBytes ∨
      current.chunkCount < self.nextChunkIndex then
    .error (.invalidArtifactTransfer "transfer update exceeds durable bounds")
  else if current.state.isTerminal then
    if self.state ≠ current.state ∨
        self.contiguousBytes ≠ current.contiguousBytes ∨
        self.nextChunkIndex ≠ current.nextChunkIndex ∨
        self.retryCount ≠ current.retryCount then
      .error (.artifactTransferConflict "terminal artifact transfer cannot change")
    else
      .ok ()
  else if self.contiguousBytes < current.contiguousBytes ∨
      self.nextChunkIndex < current.nextChunkIndex ∨
      self.retryCount < current.retryCount then
    .error (.artifactTransferConflict "artifact transfer progress cannot regress")
  else if self.state = .offered ∧ current.state ≠ .offered then
    .error (.artifactTransferConflict "artifact transfer state cannot regress")
  else if self.state = .offered ∧ (self.contiguousBytes ≠ 0 ∨ self.nextChunkIndex ≠ 0) then
    .error (.invalidArtifactTransfer "offered transfer cannot have received progress")
  else if self.state = .receiving ∧ current.state.isTerminal then
    .error (.artifactTransferConflict "artifact transfer state cannot regress")
  else if self.state = .committed ∧
      (self.contiguousBytes ≠ current.sizeBytes ∨ self.nextChunkIndex ≠ current.chunkCount) then
    .error (.invalidArtifactTransfer "commit requires complete transfer progress")
  else
    .ok ()

end ArtifactTransferUpdate

namespace TransferTables

variable (t : TransferTables)

/-- `get_artifact_transfer`. -/
def get (transferId : String) : Except StoreError ArtifactTransferRecord :=
  match t.transfers.get? transferId with
  | none => .error .artifactTransferNotFound
  | some row => fromRow row

/-- `list_recoverable_artifact_transfers`, up to the order of the rows. -/
def listRecoverable : Except StoreError (List ArtifactTransferRecord) :=
  (t.transfers.rows.filter fun row => row.state = "offered" || row.state = "receiving").mapM
    fromRow

/-- `insert_artifact_transfer`. -/
def insert (now : String) (transfer : ArtifactTransferRecord) :
    Except StoreError ArtifactTransferRecord × TransferTables :=
  match transfer.validate with
  | .error e => (.error e, t)
  | .ok () =>
    match insertedRow now transfer with
    | .error e => (.error e, t)
    | .ok row =>
      match Transaction.atomically (insertBody row) t with
      | (.ok (), t') => (t'.get transfer.transferId, t')
      | (.error (.database .uniqueViolation), t') =>
        match t'.get transfer.transferId with
        | .error e => (.error e, t')
        | .ok existing =>
          if sameIdentity existing transfer then
            (.ok existing, t')
          else
            (.error (.artifactTransferConflict
              "transfer identity conflicts with durable state"), t')
      | (.error e, t') => (.error e, t')

end TransferTables

/-- The columns an `UPDATE` of a transfer sets. -/
def updatedRow (now : String) (update : ArtifactTransferUpdate) (row : ArtifactTransferRow) :
    Except StoreError ArtifactTransferRow := do
  let contiguousBytes ← sqliteSequence update.contiguousBytes
  let nextChunkIndex ← sqliteSequence update.nextChunkIndex
  pure
    { row with
      state := update.state.asStr
      contiguousBytes := contiguousBytes
      nextChunkIndex := nextChunkIndex
      retryCount := update.retryCount
      updatedAt := now }

/-- The transaction of `update`: the record it is already at, or nothing. -/
def updateBody (now transferId expectedAgentEpoch : String) (update : ArtifactTransferUpdate) :
    Transaction TransferTables StoreError (Option ArtifactTransferRecord) := do
  let t ← get
  let row ← .orFail (t.transfers.get? transferId) .artifactTransferNotFound
  let current ← .fromExcept (fromRow row)
  .require (current.agentEpoch = expectedAgentEpoch) .artifactTransferEpochConflict
  .fromExcept (update.validateAgainst current)
  if update = .ofRecord current then
    pure (some current)
  else
    let changed ← .fromExcept (updatedRow now update row)
    .require (changed.satisfiesChecks = true) (.database .checkViolation)
    -- the row was read under the write lock, so the `WHERE` clause selects it
    .require (row.agentEpoch = expectedAgentEpoch) .artifactTransferEpochConflict
    set (t.putTransfer changed)
    pure none

namespace TransferTables

variable (t : TransferTables)

/-- `update_artifact_transfer`. -/
def update (now transferId expectedAgentEpoch : String) (update : ArtifactTransferUpdate) :
    Except StoreError ArtifactTransferRecord × TransferTables :=
  match Transaction.atomically (updateBody now transferId expectedAgentEpoch update) t with
  | (.ok (some current), t') => (.ok current, t')
  | (.ok none, t') => (t'.get transferId, t')
  | (.error e, t') => (.error e, t')

/-- The `WHERE` clause of the rebinding. -/
def rebindable (transferId expectedAgentEpoch : String) (row : ArtifactTransferRow) : Bool :=
  row.transferId = transferId && row.agentEpoch = expectedAgentEpoch &&
    (row.state = "offered" || row.state = "receiving")

/-- `rebind_artifact_transfer_epoch`. -/
def rebind (now transferId expectedAgentEpoch newAgentEpoch : String) :
    Except StoreError ArtifactTransferRecord × TransferTables :=
  match boundedText "expected_agent_epoch" expectedAgentEpoch 256 with
  | .error e => (.error e, t)
  | .ok () =>
    match boundedText "new_agent_epoch" newAgentEpoch 256 with
    | .error e => (.error e, t)
    | .ok () =>
      if expectedAgentEpoch = newAgentEpoch then
        (t.get transferId, t)
      else
        match (t.transfers.get? transferId).filter
            (rebindable transferId expectedAgentEpoch) with
        | some row =>
          let changed : ArtifactTransferRow :=
            { row with
              agentEpoch := newAgentEpoch
              updatedAt := now }
          if changed.satisfiesChecks then
            ((t.putTransfer changed).get transferId, t.putTransfer changed)
          else
            (.error (.database .checkViolation), t)
        | none =>
          match t.get transferId with
          | .error e => (.error e, t)
          | .ok current =>
            if current.agentEpoch ≠ expectedAgentEpoch then
              (.error .artifactTransferEpochConflict, t)
            else
              (.error (.artifactTransferConflict "terminal artifact transfer cannot be rebound"), t)

def operationEnded (operationId : Uuid) : Bool :=
  (t.journal.operations.get? operationId).any fun operation => operation.state.isTerminal

/-- The `WHERE` clause of the sweep. -/
def expires (row : ArtifactTransferRow) : Bool :=
  !(["committed", "rejected", "expired"].contains row.state) && t.operationEnded row.operationId

def expire (now : String) (row : ArtifactTransferRow) : ArtifactTransferRow :=
  if t.expires row then
    { row with
      state := "expired"
      updatedAt := now }
  else
    row

theorem expire_transferId (now : String) (row : ArtifactTransferRow) :
    (t.expire now row).transferId = row.transferId := by
  unfold expire
  split_ifs <;> rfl

/-- `expire_transfers_of_terminal_operations`; returns the number of rows. -/
def expireTransfersOfTerminalOperations (now : String) : Nat × TransferTables :=
  ((t.transfers.rows.filter t.expires).length,
    { t with transfers := t.transfers.update (t.expire now) (t.expire_transferId now) })

end TransferTables

end Transfers
end O3k
