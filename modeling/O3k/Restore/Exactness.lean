import O3k.Json.Canonical
import O3k.Restore.AppendOnly

/-!
# Canonical JSON of a journal

The members of each object are sorted by name, as canonical JSON has them.  A
platform that renders so, and reads back what it renders, is lawful.
-/

namespace O3k
namespace Restore

open Json

theorem utf8_injective {s s' : String} (h : utf8 s = utf8 s') : s = s' := by
  have hdata : s.toByteArray.data = s'.toByteArray.data := Array.toList_inj.mp h
  exact String.toByteArray_inj.mp (ByteArray.ext hdata)

section Values

def textValue (s : String) : Value := .text (utf8 s)

def member (name : String) (v : Value) : Json.Bytes × Value := (utf8 name, v)

def phaseName : InactivePhase → String
  | .preflighted => "PREFLIGHTED"
  | .targetReservedInactive => "TARGET_RESERVED_INACTIVE"
  | .stagingInactive => "STAGING_INACTIVE"
  | .databaseRestoredInactive => "DATABASE_RESTORED_INACTIVE"
  | .filesRestoredInactive => "FILES_RESTORED_INACTIVE"
  | .inactiveVerified => "INACTIVE_VERIFIED"
  | .aborted => "ABORTED"
  | .failedRecoverable => "FAILED_RECOVERABLE"
  | .quarantined => "QUARANTINED"
  | .discarded => "DISCARDED"

def verificationValue : Option VerificationBinding → Value
  | none => .null
  | some v =>
    .object [
      member "artifact_sha256" (textValue v.artifactSha256),
      member "d10_catalog_definition_sha256" (textValue v.d10CatalogDefinitionSha256),
      member "migration_baseline_sha256" (textValue v.migrationBaselineSha256),
      member "release_identity" (textValue v.releaseIdentity),
      member "repository_inventory_sha256" (textValue v.repositoryInventorySha256),
      member "restored_target_database_identity" (textValue v.restoredTargetDatabaseIdentity),
      member "target_installation_id" (textValue v.targetInstallationId),
      member "verification" (textValue v.verification)]

def requestValue (r : SigningRequest) : Value :=
  .object [
    member "artifact_sha256" (textValue r.artifactSha256),
    member "backend" (textValue r.backend),
    member "backend_version" (textValue r.backendVersion),
    member "branch" (textValue r.branch),
    member "deployment" (textValue r.deployment),
    member "format" (textValue r.format),
    member "installation_policy_sha256" (textValue r.installationPolicySha256),
    member "intended_transition" (textValue (phaseName r.intendedTransition)),
    member "operation_id" (textValue r.operationId),
    member "previous_signed_record_sha256" (textValue r.previousSignedRecordSha256),
    member "profile" (textValue r.profile),
    member "release_identity" (textValue r.releaseIdentity),
    member "request_id" (textValue r.requestId),
    member "request_nonce" (textValue r.requestNonce),
    member "sequence" (.number r.sequence),
    member "site_id" (textValue r.siteId),
    member "source_installation_id" (textValue r.sourceInstallationId),
    member "target_database_identity" (textValue r.targetDatabaseIdentity),
    member "target_device" (.number r.targetDevice),
    member "target_inode" (.number r.targetInode),
    member "target_installation_id" (textValue r.targetInstallationId),
    member "verification" (verificationValue r.verification)]

def responseValue (r : SigningResponse) : Value :=
  .object [
    member "format" (textValue r.format),
    member "key_id" (textValue r.keyId),
    member "request_sha256" (textValue r.requestSha256),
    member "signature" (textValue r.signature)]

def recordValue (r : SignedRecord) : Value :=
  .object [
    member "format" (textValue r.format),
    member "request" (requestValue r.request),
    member "response" (responseValue r.response)]

def journalValue (j : Journal) : Value :=
  .object [
    member "branch" (textValue j.branch),
    member "format" (textValue j.format),
    member "records" (.array (j.records.map recordValue))]

theorem textValue_injective {s s' : String} (h : textValue s = textValue s') : s = s' :=
  utf8_injective (Value.text.inj h)

@[simp] theorem textValue_inj {s s' : String} : textValue s = textValue s' ↔ s = s' :=
  ⟨textValue_injective, fun h => by rw [h]⟩

@[simp] theorem member_inj {name : String} {v w : Value} :
    member name v = member name w ↔ v = w := by
  simp [member]

theorem phaseName_injective {p q : InactivePhase} (h : phaseName p = phaseName q) : p = q := by
  cases p <;> cases q <;> first | rfl | exact absurd h (by decide)

theorem verificationValue_injective {v w : Option VerificationBinding}
    (h : verificationValue v = verificationValue w) :
    v = w := by
  cases v with
  | none =>
    cases w with
    | none => rfl
    | some w => cases h
  | some v =>
    cases w with
    | none => cases h
    | some w =>
      cases v
      cases w
      simp only [verificationValue, Value.object.injEq, List.cons.injEq, member_inj,
        textValue_inj, and_true] at h
      simp [h]

theorem requestValue_injective {r r' : SigningRequest} (h : requestValue r = requestValue r') :
    r = r' := by
  cases r
  cases r'
  simp only [requestValue, Value.object.injEq, List.cons.injEq, member_inj, textValue_inj,
    Value.number.injEq, and_true] at h
  obtain ⟨h1, h2, h3, h4, h5, h6, h7, hphase, h9, h10, h11, h12, h13, h14, h15, h16, h17, h18,
    h19, h20, h21, hverification⟩ := h
  have hphase := phaseName_injective hphase
  have hverification := verificationValue_injective hverification
  simp [h1, h2, h3, h4, h5, h6, h7, hphase, h9, h10, h11, h12, h13, h14, h15, h16, h17, h18, h19,
    h20, h21, hverification]

theorem recordValue_injective {r r' : SignedRecord} (h : recordValue r = recordValue r') :
    r = r' := by
  obtain ⟨format, request, response⟩ := r
  obtain ⟨format', request', response'⟩ := r'
  obtain ⟨_, _, _, _⟩ := response
  obtain ⟨_, _, _, _⟩ := response'
  simp only [recordValue, responseValue, Value.object.injEq, List.cons.injEq, member_inj,
    textValue_inj, and_true] at h
  obtain ⟨hformat, hrequest, hresponse⟩ := h
  simp [hformat, requestValue_injective hrequest, hresponse]

theorem journalValue_injective {j j' : Journal} (h : journalValue j = journalValue j') :
    j = j' := by
  obtain ⟨format, branch, records⟩ := j
  obtain ⟨format', branch', records'⟩ := j'
  simp only [journalValue, Value.object.injEq, List.cons.injEq, member_inj, textValue_inj,
    Value.array.injEq, and_true] at h
  obtain ⟨hbranch, hformat, hrecords⟩ := h
  have hinjective : Function.Injective recordValue := fun _ _ => recordValue_injective
  simp [hbranch, hformat, List.map_injective_iff.mpr hinjective hrecords]

end Values

section Platforms

variable {Key Signature : Type}

open Classical in
/-- Read the journal whose canonical rendering the bytes are. -/
noncomputable def readBack (bytes : Bytes) : Option Journal :=
  if h : ∃ journal, render (journalValue journal) = bytes then some h.choose else none

theorem readBack_render (journal : Journal) :
    readBack (render (journalValue journal)) = some journal := by
  have h : ∃ journal', render (journalValue journal') = render (journalValue journal) :=
    ⟨journal, rfl⟩
  rw [readBack, dif_pos h]
  exact congrArg some (journalValue_injective (render_injective h.choose_spec))

/-- Canonical JSON with the given hash and signatures. -/
noncomputable def jcsPlatform
    (digest : Bytes → String) (decodeSignature : String → Option Signature)
    (verify : Key → Bytes → Signature → Bool) :
    Platform Key Signature :=
  { decodeJournal := readBack
    encodeJournal := fun journal => some (render (journalValue journal))
    encodeRecord := fun record => some (render (recordValue record))
    encodeRequest := fun request => some (render (requestValue request))
    digest := digest
    decodeSignature := decodeSignature
    verify := verify }

/-- A journal before its records. -/
def journalOpening (format branch : String) : Bytes :=
  123 :: (quote (utf8 "branch") ++ 58 :: (quote (utf8 branch) ++ 44 ::
    (quote (utf8 "format") ++ 58 :: (quote (utf8 format) ++ 44 ::
      (quote (utf8 "records") ++ [58, 91])))))

theorem render_journalValue (format branch : String) (records : List SignedRecord) :
    render (journalValue ⟨format, branch, records⟩) =
      journalOpening format branch ++
        comma.intercalate (records.map (fun r => render (recordValue r))) ++ closing := by
  have hcomma : comma = [44] := by decide
  have hclosing : closing = [93] ++ [125] := by decide
  simp [journalValue, render, renderMembers, renderItems_true, member, textValue, separator,
    journalOpening, hcomma, hclosing, List.append_assoc, Function.comp_def]

/-- Rendering canonical JSON and reading it back is lawful. -/
theorem jcsPlatform_lawful (digest : Bytes → String) (decodeSignature : String → Option Signature)
    (verify : Key → Bytes → Signature → Bool) :
    (jcsPlatform digest decodeSignature verify).Lawful := by
  refine ⟨?_, ?_⟩
  · rintro journal bytes hencode
    cases hencode
    exact readBack_render journal
  · intro format branch
    refine ⟨journalOpening format branch, ?_⟩
    intro records bytes
    have hitems :
        ∀ items : List Bytes,
          List.Forall₂ (fun r b => render (recordValue r) = b) records items ↔
            items = records.map (fun r => render (recordValue r)) := by
      intro items
      rw [← List.forall₂_map_left_iff (f := fun r => render (recordValue r)), List.forall₂_eq_eq_eq]
      exact eq_comm
    simp only [jcsPlatform, Option.some.injEq, hitems, exists_eq_left, render_journalValue]
    exact eq_comm

end Platforms

/-!
# Authentication is exact where text decides, and publication appends

The sample platform renders canonical JSON; it knows the SHA-256 digests and the
Ed25519 signatures of the two requests that the samples sign.
-/

open Semantics Json

variable {Key Signature : Type}

/-- Authentication accepts exactly the authentic journals where text decides,
what is accepted is accepted in all its beginnings, and the stored journal only
ever grows by one record. -/
theorem exact_and_append_only (P : Platform Key Signature) (hP : P.Lawful) :
    (∀ authority now bytes,
      ((∃ out, authenticateChain P bytes authority now = .ok out) ↔ Authentic P authority now bytes)
        ↔
      TextDecides P authority now bytes) ∧
    (∀ authority now bytes out journal k,
      authenticateChain P bytes authority now = .ok out →
        P.decodeJournal bytes = some journal →
          1 ≤ k → k ≤ journal.records.length →
            ∃ bytes' out',
              P.encodeJournal { journal with records := journal.records.take k } = some bytes' ∧
                authenticateChain P bytes' authority now = .ok out') ∧
    (∀ (d : Directory) (events : List (PublishEvent Key)),
      EachStep (publishStep P) (fun w e => Appended P w.store (publishStep P w e).store)
        (Crowd.idle d) events) := by
  refine ⟨?_, ?_, ?_⟩
  · exact fun authority now bytes => exact_iff_textDecides hP bytes
  · exact fun authority now bytes out journal k hok hdecode hk hle =>
      authenticateChain_take hP hok hdecode hk hle
  · exact publication_appends

section Samples

def sampleRequest (source : String) : SigningRequest :=
  { format := requestFormat
    branch := branchInactive
    requestId := "11111111-1111-4111-8111-111111111111"
    requestNonce := "0000000000000000000000000000000000000000000000000000000000000001"
    operationId := "22222222-2222-4222-8222-222222222222"
    artifactSha256 := "aaaaaaaaaaaaaaaaaaaaaaaaaaaaaaaaaaaaaaaaaaaaaaaaaaaaaaaaaaaaaaaa"
    siteId := "site"
    sourceInstallationId := source
    targetInstallationId := "edge"
    targetDevice := 1
    targetInode := 2
    targetDatabaseIdentity := "db"
    profile := profileName
    backend := backendName
    backendVersion := "16"
    deployment := deploymentName
    releaseIdentity := "r1"
    installationPolicySha256 :=
      "bbbbbbbbbbbbbbbbbbbbbbbbbbbbbbbbbbbbbbbbbbbbbbbbbbbbbbbbbbbbbbbb"
    sequence := 1
    previousSignedRecordSha256 := ""
    intendedTransition := .preflighted
    verification := none }

def plainSource : String := "old"

/-- An installation that is named like the format of the first version. -/
def oddSource : String := "o3k-restore-journal-v1"

def plainDigest : String := "69f56a3a736f76a415a23fa058067813eb3bd06ad84467184dafb118ca4003e4"

def oddDigest : String := "adfcecbef36af8d65bf53e1c2e49c629e47d8b3a6e1dde62946d59e393af16ad"

def plainSignature : String :=
  "bc9dfa19956e349fc31b86e470e29b6b8e6de583d50688c57ce1d2c69aad818d6b1c49f138fa8ead5b1ab37422bc272e0cfffcc9373434326eee4b9a301b8900"

def oddSignature : String :=
  "1563f3480db3d5ec0a3db6e96c2a25dab3c7fd40227b951a1a843cec2813ef69213b1fcf7b53056812af1f14b6d381dc4b48a317cc633c69e62eac9546c65a0e"

def sampleKey : String := "03a107bff3ce10be1d70dd18e74bc09967e4d6309ba50d5f1ddc8664125531b8"

def requestBytes (source : String) : Bytes := render (requestValue (sampleRequest source))

/-- The digests of the two requests; other bytes are their own. -/
def sampleDigest (bytes : Bytes) : String :=
  if bytes = requestBytes plainSource then plainDigest
  else if bytes = requestBytes oddSource then oddDigest
  else String.ofList (bytes.map (fun b => Char.ofNat (b.toNat + 256)))

def sampleVerify (key : String) (bytes : Bytes) (signature : String) : Bool :=
  key = sampleKey &&
    ((bytes = requestBytes plainSource && signature = plainSignature) ||
      (bytes = requestBytes oddSource && signature = oddSignature))

noncomputable def samplePlatform : Platform String String :=
  jcsPlatform sampleDigest some sampleVerify

variable (source digest signature : String)

def sampleRecord : SignedRecord :=
  { format := journalFormat
    request := sampleRequest source
    response := ⟨responseFormat, digest, "k1", signature⟩ }

def sampleJournal : Journal :=
  ⟨journalFormat, branchInactive, [sampleRecord source digest signature]⟩

def plainJournal : Journal := sampleJournal plainSource plainDigest plainSignature

def oddJournal : Journal := sampleJournal oddSource oddDigest oddSignature

def sampleAuthority : JournalAuthority String :=
  { keyId := "k1"
    purpose := signingPurpose
    siteId := "site"
    installationId := "edge"
    profile := profileName
    backend := backendName
    backendVersion := "16"
    deployment := deploymentName
    releaseIdentity := "r1"
    policySha256 := "bbbbbbbbbbbbbbbbbbbbbbbbbbbbbbbbbbbbbbbbbbbbbbbbbbbbbbbbbbbbbbbb"
    notBefore := 0
    notAfter := 100
    revoked := false
    verifyingKey := sampleKey }

theorem requestBytes_ne : requestBytes oddSource ≠ requestBytes plainSource := by
  decide +kernel

theorem verifyRecord_sampleRecord {source digest signature : String}
    (hvalid : validateIntrinsic (sampleRequest source) = .ok ())
    (hdigest : sampleDigest (requestBytes source) = digest)
    (hverify : sampleVerify sampleKey (requestBytes source) signature = true) :
    verifyRecord samplePlatform (sampleRecord source digest signature) sampleAuthority 0 =
      .ok () := by
  have hcanonical :
      canonicalRequest samplePlatform (sampleRequest source) = .ok (requestBytes source) := by
    have hmatches : verificationMatches (sampleRequest source) = true := rfl
    simp [canonicalRequest, hvalid, hmatches, samplePlatform, jcsPlatform, requestBytes, bind,
      Except.bind, pure, Except.pure]
  simp only [verifyRecord, sampleRecord, hcanonical]
  simp [sampleAuthority, sampleRequest, samplePlatform, jcsPlatform, hdigest, hverify, bind,
    Except.bind, pure, Except.pure]

theorem encodesChain_sampleJournal {source digest signature : String}
    (hvalid : validateIntrinsic (sampleRequest source) = .ok ())
    (hdigest : sampleDigest (requestBytes source) = digest)
    (hverify : sampleVerify sampleKey (requestBytes source) signature = true)
    (hstart : validateRequest (sampleRequest source) none "" = .ok ())
    (hsize :
      (render (journalValue (sampleJournal source digest signature))).length ≤ maxJournalBytes) :
    EncodesChain samplePlatform id sampleAuthority 0
      (render (journalValue (sampleJournal source digest signature)))
      (sampleJournal source digest signature) := by
  have hverified := verifyRecord_sampleRecord hvalid hdigest hverify
  refine ⟨rfl, hsize, rfl, rfl, by simp [sampleJournal], by simp [sampleJournal, maxRecords], ?_,
    by simp [sampleJournal]⟩
  refine ⟨?_, ?_, ?_, ?_, ?_, ?_⟩
  · intro i record hrecord
    cases i with
    | zero =>
      cases hrecord
      rfl
    | succ i => cases hrecord
  · intro record hrecord
    cases hrecord
    exact ⟨rfl, rfl, hstart⟩
  · exact List.isChain_singleton _
  · intro a ha b hb
    rw [List.mem_singleton.mp ha, List.mem_singleton.mp hb]
    exact bindingsMatch_refl _
  · intro record hrecord
    rw [List.mem_singleton.mp hrecord]
    exact hverified
  · simp [sampleJournal]

theorem encodesChain_plainJournal :
    EncodesChain samplePlatform id sampleAuthority 0 (render (journalValue plainJournal))
      plainJournal :=
  encodesChain_sampleJournal (by decide +kernel) (if_pos rfl) (by simp [sampleVerify])
    (by decide +kernel) (by decide +kernel)

theorem encodesChain_oddJournal :
    EncodesChain samplePlatform id sampleAuthority 0 (render (journalValue oddJournal))
      oddJournal :=
  encodesChain_sampleJournal (by decide +kernel)
    (by rw [sampleDigest, if_neg requestBytes_ne, if_pos rfl]) (by simp [sampleVerify])
    (by decide +kernel) (by decide +kernel)

theorem spelledAlike_sampleJournal : SpelledAlike (sampleJournal source digest signature) := by
  intro a ha b hb _
  rw [List.mem_singleton.mp ha, List.mem_singleton.mp hb]

end Samples

/-- The plain journal is accepted. -/
theorem plain_journal_accepted :
    ∃ out,
      authenticateChain samplePlatform (render (journalValue plainJournal)) sampleAuthority 0 =
        .ok out := by
  have hchain := encodesChain_plainJournal
  have halike : SpelledAlike plainJournal := spelledAlike_sampleJournal _ _ _
  have hlegacy : ¬ v1Format <:+: render (journalValue plainJournal) := by
    decide +kernel
  have hP : samplePlatform.Lawful := jcsPlatform_lawful _ _ _
  refine ((exact_and_append_only samplePlatform hP).1 sampleAuthority 0 _).mpr ?_ |>.mpr
    ⟨plainJournal, encodesChain_nonceValue_iff.mpr ⟨hchain, halike⟩⟩
  intro journal hjournal
  rw [hjournal.unique hP hchain]
  exact ⟨fun _ => halike, fun _ => hlegacy⟩

/-- The journal of the installation that is named like the format of the first
version is authentic and is not accepted. -/
theorem odd_journal_refused :
    samplePlatform.Lawful ∧
      ¬ ∀ bytes, bytes.length ≤ maxJournalBytes →
        ((∃ out, authenticateChain samplePlatform bytes sampleAuthority 0 = .ok out) ↔
          Authentic samplePlatform sampleAuthority 0 bytes) := by
  have hP : samplePlatform.Lawful := jcsPlatform_lawful _ _ _
  refine ⟨hP, ?_⟩
  intro hexact
  have hchain := encodesChain_oddJournal
  have halike : SpelledAlike oddJournal := spelledAlike_sampleJournal _ _ _
  have hlegacy : v1Format <:+: render (journalValue oddJournal) := by
    decide +kernel
  have haccepted := (hexact _ hchain.2.1).mpr
    ⟨oddJournal, encodesChain_nonceValue_iff.mpr ⟨hchain, halike⟩⟩
  exact ((authenticateChain_isOk_iff hP).mp haccepted).1 hlegacy

end Restore
end O3k
