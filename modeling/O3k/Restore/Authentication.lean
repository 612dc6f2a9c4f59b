import O3k.Restore.Records
import Mathlib.Data.List.Nodup
import Mathlib.Data.List.Infix

/-!
# Authentication of a journal

The journal arrives as bytes.  What is not decided here (JSON, canonical JSON,
SHA-256, Ed25519) is a `Platform`.
-/

namespace O3k
namespace Restore

/-- The libraries that the journal is read and verified with. -/
structure Platform (Key Signature : Type) where
  /-- `serde_json::from_slice`. -/
  decodeJournal : Bytes → Option Journal
  /-- `serde_jcs::to_vec`, at the three types that it is used at. -/
  encodeJournal : Journal → Option Bytes
  encodeRecord : SignedRecord → Option Bytes
  encodeRequest : SigningRequest → Option Bytes
  /-- `hex::encode(Sha256::digest(bytes))`. -/
  digest : Bytes → String
  /-- `hex::decode` and `Signature::from_slice`. -/
  decodeSignature : String → Option Signature
  /-- `VerifyingKey::verify`. -/
  verify : Key → Bytes → Signature → Bool

/-- `str::as_bytes`. -/
def utf8 (s : String) : Bytes := s.toByteArray.data.toList

def v1Format : Bytes := utf8 "o3k-restore-journal-v1"

section Code

variable {Key Signature : Type} (P : Platform Key Signature)

def canonicalRequest (request : SigningRequest) : Except JournalError Bytes := do
  validateIntrinsic request
  if !verificationMatches request then
    throw .invalidBinding
  match P.encodeRequest request with
  | none => throw .invalidFormat
  | some bytes => pure bytes

def verifyRecord (record : SignedRecord) (authority : JournalAuthority Key) (now : Int) :
    Except JournalError Unit := do
  if authority.purpose ≠ signingPurpose || authority.revoked then
    throw .wrongSigner
  if now < authority.notBefore || authority.notAfter < now then
    throw .expired
  let r := record.request
  if authority.keyId ≠ record.response.keyId then
    throw .wrongSigner
  if authority.siteId ≠ r.siteId ||
      authority.installationId ≠ r.targetInstallationId ||
      authority.profile ≠ r.profile ||
      authority.backend ≠ r.backend ||
      authority.backendVersion ≠ r.backendVersion ||
      authority.deployment ≠ r.deployment ||
      authority.releaseIdentity ≠ r.releaseIdentity ||
      authority.policySha256 ≠ r.installationPolicySha256 then
    throw .scopeMismatch
  if record.format ≠ journalFormat || record.response.format ≠ responseFormat then
    throw .invalidFormat
  let bytes ← canonicalRequest P r
  if record.response.requestSha256 ≠ P.digest bytes then
    throw .signatureInvalid
  match P.decodeSignature record.response.signature with
  | none => throw .signatureInvalid
  | some signature =>
    if P.verify authority.verifyingKey bytes signature then
      pure ()
    else
      throw .signatureInvalid

/-- The loop of `authenticate_chain` over the records that are left: `index` of
them are done, `previous` is the last one, `previousHash` its hash, and the two
sets hold the request ids and the nonces seen. -/
def authenticateRecords
    (authority : JournalAuthority Key) (now : Int) (index : Nat) (previous : Option SigningRequest)
    (previousHash : String) (requestIds : List Uuid) (nonces : List String) :
    List SignedRecord → Except JournalError (Option SigningRequest × String)
  | [] => .ok (previous, previousHash)
  | record :: rest =>
    let request := record.request
    if record.format ≠ journalFormat ||
        request.sequence ≠ index + 1 ||
        request.previousSignedRecordSha256 ≠ previousHash then
      .error .invalidSequence
    else
      match validateRequest request previous previousHash with
      | .error e => .error e
      | .ok () =>
        if request.requestId ∈ requestIds ∨ request.requestNonce ∈ nonces then
          .error .replayOrFork
        else
          match verifyRecord P record authority now with
          | .error e => .error e
          | .ok () =>
            match P.encodeRecord record with
            | none => .error .invalidFormat
            | some bytes =>
              authenticateRecords authority now (index + 1) (some request)
                (P.digest bytes) (request.requestId :: requestIds)
                (request.requestNonce :: nonces) rest

/-- What is reported of an accepted journal. -/
def authenticatedJournal (last : SigningRequest) (signedRecordSha256 journalSha256 : String) :
    AuthenticatedJournal :=
  { operationId := last.operationId
    artifactSha256 := last.artifactSha256
    siteId := last.siteId
    sourceInstallationId := last.sourceInstallationId
    targetInstallationId := last.targetInstallationId
    targetDevice := last.targetDevice
    targetInode := last.targetInode
    targetDatabaseIdentity := last.targetDatabaseIdentity
    profile := last.profile
    backend := last.backend
    deployment := last.deployment
    releaseIdentity := last.releaseIdentity
    installationPolicySha256 := last.installationPolicySha256
    phase := last.intendedTransition
    sequence := last.sequence
    signedRecordSha256 := signedRecordSha256
    journalSha256 := journalSha256 }

def authenticateChain (bytes : Bytes) (authority : JournalAuthority Key) (now : Int) :
    Except JournalError AuthenticatedJournal :=
  if maxJournalBytes < bytes.length then
    .error .invalidFormat
  else if v1Format <:+: bytes then
    .error .legacyJournal
  else
    match P.decodeJournal bytes with
    | none => .error .invalidFormat
    | some journal =>
      if journal.format ≠ journalFormat ||
          journal.branch ≠ branchInactive ||
          journal.records = [] ||
          maxRecords < journal.records.length then
        .error .mixedBranch
      else if P.encodeJournal journal ≠ some bytes then
        .error .invalidFormat
      else
        match authenticateRecords P authority now 0 none "" [] [] journal.records with
        | .error e => .error e
        | .ok (none, _) => .error .invalidFormat
        | .ok (some last, previousHash) =>
          .ok (authenticatedJournal last previousHash (P.digest bytes))

end Code

section Authentic

variable {Key Signature : Type} (P : Platform Key Signature)

def hexDigitValue (c : Char) : Nat :=
  if '0' ≤ c ∧ c ≤ '9' then c.toNat - '0'.toNat
  else if 'a' ≤ c ∧ c ≤ 'f' then c.toNat - 'a'.toNat + 10
  else c.toNat - 'A'.toNat + 10

def nonceValue (nonce : String) : List Nat := nonce.toList.map hexDigitValue

/-- `b` comes right after `a`: it is linked to the hash of `a`, its phase is one
that `a` permits, and it passes `validateRequest` there. -/
structure ComesAfter (a b : SignedRecord) : Prop where
  permitted : a.request.intendedTransition.permitsNext b.request.intendedTransition = true
  linked :
    ∃ bytes, P.encodeRecord a = some bytes ∧
      b.request.previousSignedRecordSha256 = P.digest bytes ∧
      validateRequest b.request (some a.request) (P.digest bytes) = .ok ()

/-- A chain of records, the freshness of nonces apart. -/
structure Chained (authority : JournalAuthority Key) (now : Int)
    (records : List SignedRecord) : Prop where
  numbered : ∀ i record, records[i]? = some record → record.request.sequence = i + 1
  starts :
    ∀ record, records.head? = some record →
      record.request.intendedTransition = .preflighted ∧
        record.request.previousSignedRecordSha256 = "" ∧
        validateRequest record.request none "" = .ok ()
  follows : records.IsChain (ComesAfter P)
  bound : ∀ a ∈ records, ∀ b ∈ records, bindingsMatch a.request b.request = true
  verified : ∀ record ∈ records, verifyRecord P record authority now = .ok ()
  requestIds : (records.map (·.request.requestId)).Nodup

/-- The bytes are the canonical encoding of an inactive journal of the second
version, with a chain of records whose nonces are all different when they are
read by `read`. -/
def EncodesChain
    {Nonce : Type} (read : String → Nonce) (authority : JournalAuthority Key) (now : Int)
    (bytes : Bytes) (journal : Journal) : Prop :=
  P.encodeJournal journal = some bytes ∧
    bytes.length ≤ maxJournalBytes ∧
    journal.format = journalFormat ∧
    journal.branch = branchInactive ∧
    1 ≤ journal.records.length ∧
    journal.records.length ≤ maxRecords ∧
    Chained P authority now journal.records ∧
    (journal.records.map (fun record => read record.request.requestNonce)).Nodup

/-- The bytes are an authentic journal: the nonces are different as values. -/
def Authentic (authority : JournalAuthority Key) (now : Int) (bytes : Bytes) : Prop :=
  ∃ journal, EncodesChain P nonceValue authority now bytes journal

def SpelledAlike (journal : Journal) : Prop :=
  ∀ a ∈ journal.records, ∀ b ∈ journal.records,
    nonceValue a.request.requestNonce = nonceValue b.request.requestNonce →
      a.request.requestNonce = b.request.requestNonce

end Authentic

end Restore
end O3k
