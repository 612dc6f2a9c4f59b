import Mathlib.Algebra.GroupWithZero.Nat
import O3k.Store.Values

/-!
# The restore journal, version 2

A journal is a list of signed records, each with the request that was signed and
the response of the signer.  The request names the phase that the restore moves
to and what it is bound to.  The checks here look at a request alone, or at a
request and the one before it.
-/

namespace O3k
namespace Restore

abbrev Bytes := List UInt8

def journalFormat : String := "o3k-restore-journal-v2"

def requestFormat : String := "o3k-restore-signing-request-v2"

def responseFormat : String := "o3k-restore-signing-response-v2"

def branchInactive : String := "inactive"

def profileName : String := "o3k-small-edge-v1"

def backendName : String := "postgresql"

def deploymentName : String := "virtualized"

def signingPurpose : String := "restore_journal"

def maxJournalBytes : Nat := 64 * 1024 * 1024

def maxRecords : Nat := 1024

/-- `u64::saturating_add(1)`. -/
def saturatingSucc (n : Nat) : Nat := min (n + 1) (2 ^ 64 - 1)

/-- `Uuid::is_nil`. -/
def isNil (id : Uuid) : Bool := id = "00000000-0000-0000-0000-000000000000"

inductive InactivePhase
  | preflighted
  | targetReservedInactive
  | stagingInactive
  | databaseRestoredInactive
  | filesRestoredInactive
  | inactiveVerified
  | aborted
  | failedRecoverable
  | quarantined
  | discarded
  deriving DecidableEq

namespace InactivePhase

def permitsNext : InactivePhase → InactivePhase → Bool
  | preflighted, targetReservedInactive => true
  | preflighted, aborted => true
  | targetReservedInactive, stagingInactive => true
  | targetReservedInactive, aborted => true
  | targetReservedInactive, quarantined => true
  | stagingInactive, databaseRestoredInactive => true
  | stagingInactive, failedRecoverable => true
  | stagingInactive, quarantined => true
  | databaseRestoredInactive, filesRestoredInactive => true
  | databaseRestoredInactive, failedRecoverable => true
  | databaseRestoredInactive, quarantined => true
  | filesRestoredInactive, inactiveVerified => true
  | filesRestoredInactive, failedRecoverable => true
  | filesRestoredInactive, quarantined => true
  | failedRecoverable, discarded => true
  | failedRecoverable, quarantined => true
  | quarantined, discarded => true
  | _, _ => false

end InactivePhase

structure VerificationBinding where
  restoredTargetDatabaseIdentity : String
  artifactSha256 : String
  releaseIdentity : String
  migrationBaselineSha256 : String
  d10CatalogDefinitionSha256 : String
  repositoryInventorySha256 : String
  targetInstallationId : String
  verification : String
  deriving DecidableEq

structure SigningRequest where
  format : String
  branch : String
  requestId : Uuid
  requestNonce : String
  operationId : Uuid
  artifactSha256 : String
  siteId : String
  sourceInstallationId : String
  targetInstallationId : String
  targetDevice : Nat
  targetInode : Nat
  targetDatabaseIdentity : String
  profile : String
  backend : String
  backendVersion : String
  deployment : String
  releaseIdentity : String
  installationPolicySha256 : String
  sequence : Nat
  previousSignedRecordSha256 : String
  intendedTransition : InactivePhase
  verification : Option VerificationBinding
  deriving DecidableEq

structure SigningResponse where
  format : String
  requestSha256 : String
  keyId : String
  signature : String
  deriving DecidableEq

structure SignedRecord where
  format : String
  request : SigningRequest
  response : SigningResponse
  deriving DecidableEq

structure Journal where
  format : String
  branch : String
  records : List SignedRecord
  deriving DecidableEq

/-- What the installed trust bundle says about the signer and its scope. -/
structure JournalAuthority (Key : Type) where
  keyId : String
  purpose : String
  siteId : String
  installationId : String
  profile : String
  backend : String
  backendVersion : String
  deployment : String
  releaseIdentity : String
  policySha256 : String
  notBefore : Int
  notAfter : Int
  revoked : Bool
  verifyingKey : Key

inductive JournalError
  | invalidFormat
  | invalidBinding
  | invalidSequence
  | invalidTransition
  | invalidDigest
  | invalidNonce
  | signatureInvalid
  | wrongSigner
  | scopeMismatch
  | expired
  | replayOrFork
  | mixedBranch
  | legacyJournal
  | unsafeStorage
  | reservationBusy
  | confirmationInvalid
  deriving DecidableEq

structure AuthenticatedJournal where
  operationId : Uuid
  artifactSha256 : String
  siteId : String
  sourceInstallationId : String
  targetInstallationId : String
  targetDevice : Nat
  targetInode : Nat
  targetDatabaseIdentity : String
  profile : String
  backend : String
  deployment : String
  releaseIdentity : String
  installationPolicySha256 : String
  phase : InactivePhase
  sequence : Nat
  signedRecordSha256 : String
  journalSha256 : String
  deriving DecidableEq

/-- `u8::is_ascii_hexdigit`. -/
def isHexDigit (c : Char) : Bool :=
  ('0' ≤ c && c ≤ '9') || ('a' ≤ c && c ≤ 'f') || ('A' ≤ c && c ≤ 'F')

/-- `u8::is_ascii_uppercase`. -/
def isUppercase (c : Char) : Bool := 'A' ≤ c && c ≤ 'Z'

/-- A text of hexadecimal digits has as many bytes as characters. -/
def validSha256 (value : String) : Bool :=
  value.length = 64 && value.toList.all (fun c => isHexDigit c && !isUppercase c)

def isHex (value : String) : Bool := value.toList.all isHexDigit

def validateIntrinsic (request : SigningRequest) : Except JournalError Unit := do
  if request.format ≠ requestFormat || request.branch ≠ branchInactive then
    throw .mixedBranch
  if isNil request.requestId ||
      isNil request.operationId ||
      request.siteId = "" ||
      request.sourceInstallationId = "" ||
      request.targetInstallationId = "" ||
      request.targetDatabaseIdentity = "" ||
      request.targetDevice = 0 ||
      request.targetInode = 0 ||
      request.profile ≠ profileName ||
      request.backend ≠ backendName ||
      request.backendVersion ≠ "16" ||
      request.deployment ≠ deploymentName ||
      request.releaseIdentity = "" ||
      request.installationPolicySha256 = "" then
    throw .invalidBinding
  if !([request.artifactSha256, request.installationPolicySha256].all validSha256) then
    throw .invalidDigest
  if request.requestNonce.length ≠ 64 || !isHex request.requestNonce then
    throw .invalidNonce
  if request.sequence = 0 then
    throw .invalidSequence
  if request.previousSignedRecordSha256 ≠ "" &&
      !validSha256 request.previousSignedRecordSha256 then
    throw .invalidDigest

def verificationMatches (request : SigningRequest) : Bool :=
  match request.intendedTransition, request.verification with
  | .inactiveVerified, some v =>
    v.verification = "passed" &&
      v.restoredTargetDatabaseIdentity = request.targetDatabaseIdentity &&
      v.artifactSha256 = request.artifactSha256 &&
      v.releaseIdentity = request.releaseIdentity &&
      v.targetInstallationId = request.targetInstallationId &&
      [v.migrationBaselineSha256, v.d10CatalogDefinitionSha256,
        v.repositoryInventorySha256].all validSha256
  | .inactiveVerified, none => false
  | _, none => true
  | _, some _ => false

def bindingsMatch (a b : SigningRequest) : Bool :=
  a.branch = b.branch &&
    a.operationId = b.operationId &&
    a.artifactSha256 = b.artifactSha256 &&
    a.siteId = b.siteId &&
    a.sourceInstallationId = b.sourceInstallationId &&
    a.targetInstallationId = b.targetInstallationId &&
    a.targetDevice = b.targetDevice &&
    a.targetInode = b.targetInode &&
    a.targetDatabaseIdentity = b.targetDatabaseIdentity &&
    a.profile = b.profile &&
    a.backend = b.backend &&
    a.backendVersion = b.backendVersion &&
    a.deployment = b.deployment &&
    a.releaseIdentity = b.releaseIdentity &&
    a.installationPolicySha256 = b.installationPolicySha256

def validateRequest
    (request : SigningRequest) (prior : Option SigningRequest) (expectedPreviousHash : String) :
    Except JournalError Unit := do
  validateIntrinsic request
  if !verificationMatches request then
    throw .invalidBinding
  match prior with
  | none =>
    if request.sequence = 1 &&
        request.previousSignedRecordSha256 = "" &&
        request.intendedTransition = .preflighted &&
        request.verification = none then
      pure ()
    else
      throw .invalidSequence
  | some previous =>
    if request.sequence = saturatingSucc previous.sequence &&
        validSha256 expectedPreviousHash &&
        request.previousSignedRecordSha256 = expectedPreviousHash &&
        previous.intendedTransition.permitsNext request.intendedTransition &&
        bindingsMatch previous request then
      pure ()
    else
      throw .invalidTransition

theorem bindingsMatch_refl (a : SigningRequest) : bindingsMatch a a = true := by
  simp [bindingsMatch]

theorem bindingsMatch_symm {a b : SigningRequest} (h : bindingsMatch a b = true) :
    bindingsMatch b a = true := by
  simp only [bindingsMatch, Bool.and_eq_true, decide_eq_true_eq] at h ⊢
  simp [h]

theorem bindingsMatch_trans {a b c : SigningRequest}
    (hab : bindingsMatch a b = true) (hbc : bindingsMatch b c = true) :
    bindingsMatch a c = true := by
  simp only [bindingsMatch, Bool.and_eq_true, decide_eq_true_eq] at hab hbc ⊢
  simp [hab, hbc]

theorem validateRequest_first {request : SigningRequest} {hash : String}
    (h : validateRequest request none hash = .ok ()) :
    request.sequence = 1 ∧ request.previousSignedRecordSha256 = "" ∧
      request.intendedTransition = .preflighted := by
  unfold validateRequest at h
  cases hvalid : validateIntrinsic request <;> cases hmatches : verificationMatches request <;>
    simp [hvalid, hmatches, bind, Except.bind, pure, Except.pure, throw, throwThe,
      MonadExceptOf.throw] at h
  exact ⟨h.1, h.2.1, h.2.2.1⟩

theorem validateRequest_next {request previous : SigningRequest} {hash : String}
    (h : validateRequest request (some previous) hash = .ok ()) :
    request.previousSignedRecordSha256 = hash ∧
      previous.intendedTransition.permitsNext request.intendedTransition = true ∧
      bindingsMatch previous request = true := by
  unfold validateRequest at h
  cases hvalid : validateIntrinsic request <;> cases hmatches : verificationMatches request <;>
    simp [hvalid, hmatches, bind, Except.bind, pure, Except.pure, throw, throwThe,
      MonadExceptOf.throw] at h
  exact ⟨h.2.2.1, h.2.2.2.1, h.2.2.2.2⟩

end Restore
end O3k
