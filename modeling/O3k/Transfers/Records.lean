import O3k.Operations.Records
import O3k.Relational.Transaction

/-!
# Artifact transfers

A transfer is validated when it is inserted and again each time its row is
read.  `encode` is the row of a record; `fromRow` reads exactly the rows of
valid records.
-/

namespace O3k
namespace Transfers

open Relational Operations

def maxArtifactTransferBytes : Nat := 64 * 1024 * 1024

def maxArtifactTransferChunkBytes : Nat := 256 * 1024

def maxArtifactTransferRetries : Nat := 16

inductive ArtifactTransferState
  | offered
  | receiving
  | committed
  | rejected
  | expired
  deriving DecidableEq

namespace ArtifactTransferState

def asStr : ArtifactTransferState → String
  | offered => "offered"
  | receiving => "receiving"
  | committed => "committed"
  | rejected => "rejected"
  | expired => "expired"

def parse (value : String) : Except StoreError ArtifactTransferState :=
  if value = "offered" then .ok offered
  else if value = "receiving" then .ok receiving
  else if value = "committed" then .ok committed
  else if value = "rejected" then .ok rejected
  else if value = "expired" then .ok expired
  else .error (.corrupt ("unknown artifact transfer state `" ++ value ++ "`"))

def isTerminal : ArtifactTransferState → Bool
  | committed | rejected | expired => true
  | offered | receiving => false

theorem parse_eq_ok {value : String} {state : ArtifactTransferState} :
    parse value = .ok state ↔ value = state.asStr := by
  constructor
  · unfold parse
    split_ifs with h₁ h₂ h₃ h₄ h₅ <;> rintro ⟨⟩ <;> assumption
  · rintro rfl
    cases state <;> decide

end ArtifactTransferState

/-- `char::is_control`. -/
def isControl (c : Char) : Bool := c.toNat < 0x20 || (0x7F ≤ c.toNat && c.toNat ≤ 0x9F)

/-- `char::is_ascii_hexdigit`. -/
def isAsciiHexdigit (c : Char) : Bool := c.isDigit || ('a' ≤ c && c ≤ 'f') || ('A' ≤ c && c ≤ 'F')

/-- What `bounded_text` accepts. -/
def textWithin (value : String) (max : Nat) : Bool :=
  !value.isEmpty && value.utf8ByteSize ≤ max && !value.toList.any isControl

def boundedText (name value : String) (max : Nat) : Except StoreError Unit :=
  if textWithin value max then
    .ok ()
  else
    .error (.invalidArtifactTransfer
      (name ++ " is empty, too long, or contains control characters"))

theorem boundedText_eq_ok {name value : String} {max : Nat} :
    boundedText name value max = .ok () ↔ textWithin value max := by
  unfold boundedText
  split_ifs with h <;> simp [h]

structure ArtifactTransferRecord where
  transferId : String
  commandId : String
  operationId : Uuid
  resourceId : Uuid
  agentId : String
  agentEpoch : String
  artifactId : String
  artifactKind : String
  sha256 : String
  sizeBytes : Nat
  expiresAtUnixMs : Int
  format : String
  chunkSizeBytes : Nat
  chunkCount : Nat
  state : ArtifactTransferState
  contiguousBytes : Nat
  nextChunkIndex : Nat
  retryCount : Nat
  createdAt : String
  updatedAt : String
  deriving DecidableEq

namespace ArtifactTransferRecord

/-- Every byte was received. -/
def Complete (r : ArtifactTransferRecord) : Prop :=
  r.contiguousBytes = r.sizeBytes ∧ r.nextChunkIndex = r.chunkCount

instance (r : ArtifactTransferRecord) : Decidable r.Complete :=
  inferInstanceAs (Decidable (_ ∧ _))

/-- `u64::div_ceil`. -/
def minimumChunks (r : ArtifactTransferRecord) : Nat :=
  (r.sizeBytes + r.chunkSizeBytes - 1) / r.chunkSizeBytes

def validate (r : ArtifactTransferRecord) : Except StoreError Unit := do
  boundedText "transfer_id" r.transferId 128
  boundedText "command_id" r.commandId 128
  boundedText "agent_id" r.agentId 128
  boundedText "agent_epoch" r.agentEpoch 256
  boundedText "artifact_id" r.artifactId 256
  boundedText "artifact_kind" r.artifactKind 64
  boundedText "format" r.format 32
  if r.expiresAtUnixMs ≤ 0 then
    .error (.invalidArtifactTransfer "artifact expiry must be positive")
  else if r.sha256.utf8ByteSize ≠ 64 ∨ r.sha256.toList.all isAsciiHexdigit = false then
    .error (.invalidArtifactTransfer "sha256 must be 64 hexadecimal characters")
  else if r.sizeBytes = 0 ∨ maxArtifactTransferBytes < r.sizeBytes then
    .error (.invalidArtifactTransfer "artifact size exceeds the transfer bound")
  else if r.chunkSizeBytes = 0 ∨ maxArtifactTransferChunkBytes < r.chunkSizeBytes then
    .error (.invalidArtifactTransfer "chunk size exceeds the transfer bound")
  else if r.chunkCount ≠ r.minimumChunks then
    .error (.invalidArtifactTransfer "chunk count is inconsistent with artifact size")
  else if r.sizeBytes < r.contiguousBytes ∨ r.chunkCount < r.nextChunkIndex then
    .error (.invalidArtifactTransfer "transfer progress exceeds offer metadata")
  else if maxArtifactTransferRetries < r.retryCount then
    .error (.invalidArtifactTransfer "transfer retry count exceeds the bound")
  else if r.state = .committed ∧ ¬ r.Complete then
    .error (.invalidArtifactTransfer "committed transfer does not contain complete progress")
  else
    .ok ()

/-- What an offer fixes once and for all, the epoch of the agent apart. -/
structure ValidOffer (r : ArtifactTransferRecord) : Prop where
  transferId : textWithin r.transferId 128
  commandId : textWithin r.commandId 128
  agentId : textWithin r.agentId 128
  artifactId : textWithin r.artifactId 256
  artifactKind : textWithin r.artifactKind 64
  format : textWithin r.format 32
  expiry : 0 < r.expiresAtUnixMs
  sha256 : r.sha256.utf8ByteSize = 64
  sha256Digits : r.sha256.toList.all isAsciiHexdigit
  size : 0 < r.sizeBytes ∧ r.sizeBytes ≤ maxArtifactTransferBytes
  chunkSize : 0 < r.chunkSizeBytes ∧ r.chunkSizeBytes ≤ maxArtifactTransferChunkBytes
  chunkCount : r.chunkCount = r.minimumChunks

structure ValidProgress (r : ArtifactTransferRecord) : Prop where
  bytes : r.contiguousBytes ≤ r.sizeBytes
  chunks : r.nextChunkIndex ≤ r.chunkCount
  retries : r.retryCount ≤ maxArtifactTransferRetries
  committed : r.state = .committed → r.Complete

structure Valid (r : ArtifactTransferRecord) : Prop where
  offer : r.ValidOffer
  epoch : textWithin r.agentEpoch 256
  progress : r.ValidProgress

theorem validate_eq_ok {r : ArtifactTransferRecord} : r.validate = .ok () ↔ r.Valid := by
  unfold validate
  simp only [Transaction.except_check_bind_eq_ok, boundedText_eq_ok]
  constructor
  · rintro ⟨htransfer, hcommand, hagent, hepoch, hartifact, hkind, hformat, hrest⟩
    split_ifs at hrest with hexpiry hsha hsize hchunk hcount hprogress hretry hcommitted
    simp only [ne_eq, not_or, Decidable.not_not, Bool.not_eq_false] at hsha hcount
    refine ⟨⟨htransfer, hcommand, hagent, hartifact, hkind, hformat, by omega, hsha.1, hsha.2,
      by omega, by omega, hcount⟩, hepoch, by omega, by omega, by omega, ?_⟩
    intro hstate
    by_contra hincomplete
    exact hcommitted ⟨hstate, hincomplete⟩
  · rintro ⟨hoffer, hepoch, hprogress⟩
    refine ⟨hoffer.transferId, hoffer.commandId, hoffer.agentId, hepoch, hoffer.artifactId,
      hoffer.artifactKind, hoffer.format, ?_⟩
    have hexpiry := hoffer.expiry
    have hsize := hoffer.size
    have hchunk := hoffer.chunkSize
    have hbytes := hprogress.bytes
    have hchunks := hprogress.chunks
    have hretries := hprogress.retries
    rw [if_neg (by omega), if_neg (by simp [hoffer.sha256, hoffer.sha256Digits]),
      if_neg (by omega), if_neg (by omega), if_neg (by simp [hoffer.chunkCount]),
      if_neg (by omega), if_neg (by omega),
      if_neg (fun h => h.2 (hprogress.committed h.1))]

end ArtifactTransferRecord

/-- A row of `artifact_transfers`. -/
structure ArtifactTransferRow where
  transferId : String
  commandId : String
  operationId : Uuid
  resourceId : Uuid
  agentId : String
  agentEpoch : String
  artifactId : String
  artifactKind : String
  sha256 : String
  sizeBytes : Int
  expiresAtUnixMs : Option Int
  format : String
  chunkSizeBytes : Int
  chunkCount : Int
  state : String
  contiguousBytes : Int
  nextChunkIndex : Int
  retryCount : Int
  createdAt : String
  updatedAt : String
  deriving DecidableEq

/-- `length(value) BETWEEN 1 AND max`. -/
def lengthWithin (value : String) (max : Nat) : Bool := 1 ≤ value.length && value.length ≤ max

/-- The `CHECK` constraints of the table. -/
def ArtifactTransferRow.satisfiesChecks (row : ArtifactTransferRow) : Bool :=
  lengthWithin row.transferId 128 && lengthWithin row.commandId 128 &&
    lengthWithin row.agentId 128 && lengthWithin row.agentEpoch 256 &&
    lengthWithin row.artifactId 256 && lengthWithin row.artifactKind 64 &&
    row.sha256.length = 64 &&
    (1 ≤ row.sizeBytes && row.sizeBytes ≤ 67108864) &&
    row.expiresAtUnixMs.all (fun expiry => 0 < expiry) &&
    lengthWithin row.format 32 &&
    (1 ≤ row.chunkSizeBytes && row.chunkSizeBytes ≤ 262144) &&
    (1 ≤ row.chunkCount && row.chunkCount ≤ 67108864) &&
    ["offered", "receiving", "committed", "rejected", "expired"].contains row.state &&
    (0 ≤ row.contiguousBytes && row.contiguousBytes ≤ 67108864) &&
    (0 ≤ row.nextChunkIndex && row.nextChunkIndex ≤ 67108864) &&
    (0 ≤ row.retryCount && row.retryCount ≤ 16) &&
    row.contiguousBytes ≤ row.sizeBytes &&
    row.nextChunkIndex ≤ row.chunkCount &&
    row.chunkCount = (row.sizeBytes + row.chunkSizeBytes - 1) / row.chunkSizeBytes

/-- `u64::try_from` of a column. -/
def unsigned (value : Int) (detail : String) : Except StoreError Nat :=
  if 0 ≤ value then .ok value.toNat else .error (.corrupt detail)

theorem unsigned_eq_ok {value : Int} {detail : String} {n : Nat} :
    unsigned value detail = .ok n ↔ value = n := by
  unfold unsigned
  split_ifs with h
  · simp only [Except.ok.injEq]
    omega
  · simp only [false_iff]
    omega

def ArtifactTransferRecord.encode (r : ArtifactTransferRecord) : ArtifactTransferRow :=
  { transferId := r.transferId
    commandId := r.commandId
    operationId := r.operationId
    resourceId := r.resourceId
    agentId := r.agentId
    agentEpoch := r.agentEpoch
    artifactId := r.artifactId
    artifactKind := r.artifactKind
    sha256 := r.sha256
    sizeBytes := r.sizeBytes
    expiresAtUnixMs := some r.expiresAtUnixMs
    format := r.format
    chunkSizeBytes := r.chunkSizeBytes
    chunkCount := r.chunkCount
    state := r.state.asStr
    contiguousBytes := r.contiguousBytes
    nextChunkIndex := r.nextChunkIndex
    retryCount := r.retryCount
    createdAt := r.createdAt
    updatedAt := r.updatedAt }

/-- `u8::try_from` of the retry count. -/
def retryCountOf (value : Int) : Except StoreError Nat :=
  if 0 ≤ value ∧ value ≤ 255 then
    .ok value.toNat
  else
    .error (.corrupt "invalid artifact retry count")

theorem retryCountOf_eq_ok {value : Int} {n : Nat} :
    retryCountOf value = .ok n ↔ value = n ∧ n ≤ 255 := by
  unfold retryCountOf
  split_ifs with h
  · simp only [Except.ok.injEq]
    omega
  · simp only [false_iff]
    omega

def expiryOf : Option Int → Except StoreError Int
  | some expiry => .ok expiry
  | none => .error (.corrupt "artifact transfer expiry is missing")

theorem expiryOf_eq_ok {value : Option Int} {expiry : Int} :
    expiryOf value = .ok expiry ↔ value = some expiry := by
  cases value <;> simp [expiryOf]

def fromRow (row : ArtifactTransferRow) : Except StoreError ArtifactTransferRecord := do
  let sizeBytes ← unsigned row.sizeBytes "negative artifact size"
  let expiresAtUnixMs ← expiryOf row.expiresAtUnixMs
  let chunkSizeBytes ← unsigned row.chunkSizeBytes "negative artifact chunk size"
  let chunkCount ← unsigned row.chunkCount "negative artifact chunk count"
  let state ← ArtifactTransferState.parse row.state
  let contiguousBytes ← unsigned row.contiguousBytes "negative artifact progress"
  let nextChunkIndex ← unsigned row.nextChunkIndex "negative artifact chunk index"
  let retryCount ← retryCountOf row.retryCount
  let record : ArtifactTransferRecord :=
    { transferId := row.transferId
      commandId := row.commandId
      operationId := row.operationId
      resourceId := row.resourceId
      agentId := row.agentId
      agentEpoch := row.agentEpoch
      artifactId := row.artifactId
      artifactKind := row.artifactKind
      sha256 := row.sha256
      sizeBytes := sizeBytes
      expiresAtUnixMs := expiresAtUnixMs
      format := row.format
      chunkSizeBytes := chunkSizeBytes
      chunkCount := chunkCount
      state := state
      contiguousBytes := contiguousBytes
      nextChunkIndex := nextChunkIndex
      retryCount := retryCount
      createdAt := row.createdAt
      updatedAt := row.updatedAt }
  record.validate
  pure record

/-- **The reader accepts exactly the rows of valid records.** -/
theorem fromRow_eq_ok {row : ArtifactTransferRow} {r : ArtifactTransferRecord} :
    fromRow row = .ok r ↔ row = r.encode ∧ r.Valid := by
  unfold fromRow
  simp only [Transaction.except_bind_eq_ok, unsigned_eq_ok, expiryOf_eq_ok,
    ArtifactTransferState.parse_eq_ok, retryCountOf_eq_ok]
  constructor
  · rintro ⟨size, hsize, expiry, hexpiry, chunkSize, hchunkSize, count, hcount, state, hstate,
      bytes, hbytes, next, hnext, retry, ⟨hretry, _⟩, _, hvalid, hr⟩
    cases hr
    refine ⟨?_, ArtifactTransferRecord.validate_eq_ok.mp hvalid⟩
    cases row
    simp only at hsize hexpiry hchunkSize hcount hstate hbytes hnext hretry
    subst hsize hexpiry hchunkSize hcount hstate hbytes hnext hretry
    rfl
  · rintro ⟨rfl, hvalid⟩
    have hretries := hvalid.progress.retries
    unfold maxArtifactTransferRetries at hretries
    exact ⟨r.sizeBytes, rfl, r.expiresAtUnixMs, rfl, r.chunkSizeBytes, rfl, r.chunkCount, rfl,
      r.state, rfl, r.contiguousBytes, rfl, r.nextChunkIndex, rfl, r.retryCount,
      ⟨rfl, by omega⟩, (), ArtifactTransferRecord.validate_eq_ok.mpr hvalid, rfl⟩

end Transfers
end O3k
