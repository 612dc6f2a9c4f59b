import O3k.Restore.Authentication
import Mathlib.Data.List.Chain

/-!
# Which journals are accepted

The loop of `authenticate_chain` accepts a list of records exactly when each of
them joins the records before it and no request id and no nonce text occurs
twice; and records join one another exactly when they are chained.  What is
accepted is authentic, up to two ways of looking at text: the scan for the first
version's format reads all bytes, and nonces are compared as they are spelled.
-/

namespace O3k
namespace Restore

variable {Key Signature : Type} {P : Platform Key Signature}
variable {authority : JournalAuthority Key} {now : Int}

section Joining

variable (P authority now) in
/-- The record joins `index` records, the last of which is `prior` with `hash`. -/
structure Joins (index : Nat) (prior : Option SigningRequest) (hash : String)
    (record : SignedRecord) : Prop where
  format : record.format = journalFormat
  sequence : record.request.sequence = index + 1
  linked : record.request.previousSignedRecordSha256 = hash
  valid : validateRequest record.request prior hash = .ok ()
  verified : verifyRecord P record authority now = .ok ()

variable (P authority now) in
/-- The records join one after the other. -/
def Joined : Nat → Option SigningRequest → String → List SignedRecord → Prop
  | _, _, _, [] => True
  | index, prior, hash, record :: rest =>
    Joins P authority now index prior hash record ∧
      ∃ bytes, P.encodeRecord record = some bytes ∧
        Joined (index + 1) (some record.request) (P.digest bytes) rest

variable {index : Nat} {previous : Option SigningRequest} {hash : String} {ids : List Uuid}
variable {nonces : List String}

/-- **One record** of the loop. -/
theorem authenticateRecords_cons_eq_ok {record : SignedRecord} {rest : List SignedRecord}
    {out : Option SigningRequest × String} :
    authenticateRecords P authority now index previous hash ids nonces (record :: rest) = .ok out ↔
    Joins P authority now index previous hash record ∧ record.request.requestId ∉ ids ∧
      record.request.requestNonce ∉ nonces ∧
      ∃ bytes, P.encodeRecord record = some bytes ∧
        authenticateRecords P authority now (index + 1) (some record.request) (P.digest bytes)
          (record.request.requestId :: ids) (record.request.requestNonce :: nonces) rest =
            .ok out := by
  constructor
  · intro h
    simp only [authenticateRecords] at h
    split at h
    · cases h
    · rename_i hshape
      simp only [Bool.or_eq_true, decide_eq_true_eq, not_or, not_not] at hshape
      split at h
      · cases h
      · rename_i hvalid
        split at h
        · cases h
        · rename_i hfresh
          split at h
          · cases h
          · rename_i hverified
            split at h
            · cases h
            · rename_i bytes hbytes
              rw [not_or] at hfresh
              exact ⟨⟨hshape.1.1, hshape.1.2, hshape.2, hvalid, hverified⟩, hfresh.1, hfresh.2,
                bytes, hbytes, h⟩
  · rintro ⟨hjoins, hid, hnonce, bytes, hbytes, hrest⟩
    simp [authenticateRecords, hjoins.format, hjoins.sequence, hjoins.linked, hjoins.valid,
      hjoins.verified, hid, hnonce, hbytes, hrest]

/-- **The loop** accepts what joins, with ids and nonces that are fresh. -/
theorem authenticateRecords_isOk_iff {records : List SignedRecord} :
    (∃ out, authenticateRecords P authority now index previous hash ids nonces records = .ok out) ↔
    Joined P authority now index previous hash records ∧ (records.map (·.request.requestId)).Nodup ∧
      (∀ record ∈ records, record.request.requestId ∉ ids) ∧
      (records.map (·.request.requestNonce)).Nodup ∧
      (∀ record ∈ records, record.request.requestNonce ∉ nonces) := by
  induction records generalizing index previous hash ids nonces with
  | nil => simp [authenticateRecords, Joined]
  | cons record rest ih =>
    simp only [authenticateRecords_cons_eq_ok, Joined, List.map_cons, List.nodup_cons,
      List.mem_map, List.forall_mem_cons]
    constructor
    · rintro ⟨out, hjoins, hid, hnonce, bytes, hbytes, hrest⟩
      obtain ⟨hjoined, hids, hidsFresh, hnonces, hnoncesFresh⟩ := ih.mp ⟨out, hrest⟩
      simp only [List.mem_cons, not_or] at hidsFresh hnoncesFresh
      refine ⟨⟨hjoins, bytes, hbytes, hjoined⟩, ⟨?_, hids⟩,
        ⟨hid, fun r hr => (hidsFresh r hr).2⟩, ⟨?_, hnonces⟩,
        ⟨hnonce, fun r hr => (hnoncesFresh r hr).2⟩⟩
      · rintro ⟨r, hr, heq⟩
        exact (hidsFresh r hr).1 heq
      · rintro ⟨r, hr, heq⟩
        exact (hnoncesFresh r hr).1 heq
    · rintro ⟨⟨hjoins, bytes, hbytes, hjoined⟩, ⟨hidNew, hids⟩, ⟨hid, hidsFresh⟩,
        ⟨hnonceNew, hnonces⟩, hnonce, hnoncesFresh⟩
      have hidsFresh' :
          ∀ r ∈ rest, r.request.requestId ∉ record.request.requestId :: ids := by
        intro r hr hmem
        rcases List.mem_cons.mp hmem with heq | hmem
        · exact hidNew ⟨r, hr, heq⟩
        · exact hidsFresh r hr hmem
      have hnoncesFresh' :
          ∀ r ∈ rest, r.request.requestNonce ∉ record.request.requestNonce :: nonces := by
        intro r hr hmem
        rcases List.mem_cons.mp hmem with heq | hmem
        · exact hnonceNew ⟨r, hr, heq⟩
        · exact hnoncesFresh r hr hmem
      obtain ⟨out, hout⟩ := ih.mpr ⟨hjoined, hids, hidsFresh', hnonces, hnoncesFresh'⟩
      exact ⟨out, hjoins, hid, hnonce, bytes, hbytes, hout⟩

theorem authenticateRecords_last {records : List SignedRecord}
    {out : Option SigningRequest × String}
    (h : authenticateRecords P authority now index previous hash ids nonces records = .ok out)
    (hne : records ≠ []) :
    ∃ last, out.1 = some last ∧ last.sequence = index + records.length := by
  induction records generalizing index previous hash ids nonces with
  | nil => exact absurd rfl hne
  | cons record rest ih =>
    obtain ⟨hjoins, _, _, bytes, _, hrest⟩ := authenticateRecords_cons_eq_ok.mp h
    cases rest with
    | nil =>
      simp only [authenticateRecords] at hrest
      cases hrest
      exact ⟨record.request, rfl, hjoins.sequence⟩
    | cons next rest =>
      obtain ⟨last, hlast, hsequence⟩ := ih hrest (by simp)
      refine ⟨last, hlast, ?_⟩
      simp only [List.length_cons] at hsequence ⊢
      omega

theorem Joined.of_append {prior : Option SigningRequest} {records rest : List SignedRecord}
    (h : Joined P authority now index prior hash (records ++ rest)) :
    Joined P authority now index prior hash records := by
  induction records generalizing index prior hash with
  | nil => trivial
  | cons record records ih =>
    obtain ⟨hjoins, bytes, hbytes, hrest⟩ := h
    exact ⟨hjoins, bytes, hbytes, ih hrest⟩

end Joining

section Chains

theorem verifyRecord_format {record : SignedRecord}
    (h : verifyRecord P record authority now = .ok ()) :
    record.format = journalFormat := by
  by_contra hformat
  unfold verifyRecord at h
  simp only [bind, Except.bind, pure, Except.pure, throw, throwThe, MonadExceptOf.throw] at h
  split at h
  · cases h
  · split at h
    · cases h
    · split at h
      · cases h
      · split at h
        · cases h
        · split at h
          · cases h
          · rename_i hshape
            exact hshape (by simp [hformat])

theorem Joined.bindingsMatch {index : Nat} {prior : SigningRequest} {hash : String}
    {records : List SignedRecord} (h : Joined P authority now index (some prior) hash records) :
    ∀ record ∈ records, bindingsMatch prior record.request = true := by
  induction records generalizing index prior hash with
  | nil => simp
  | cons record rest ih =>
    obtain ⟨hjoins, bytes, _, hrest⟩ := h
    have hfirst := (validateRequest_next hjoins.valid).2.2
    intro r hr
    rcases List.mem_cons.mp hr with rfl | hr
    · exact hfirst
    · exact bindingsMatch_trans hfirst (ih hrest r hr)

/-- **After a record**, records join exactly when they are chained to it. -/
theorem joined_after_iff {index : Nat} {prior : SignedRecord} {priorBytes : Bytes}
    (hprior : P.encodeRecord prior = some priorBytes) {records : List SignedRecord} :
    Joined P authority now index (some prior.request) (P.digest priorBytes) records ↔
    (prior :: records).IsChain (ComesAfter P) ∧
      (∀ i record, records[i]? = some record → record.request.sequence = index + i + 1) ∧
      (∀ record ∈ records, verifyRecord P record authority now = .ok ()) ∧
      (∀ record ∈ records, ∃ bytes, P.encodeRecord record = some bytes) := by
  induction records generalizing index prior priorBytes with
  | nil => simp [Joined]
  | cons record rest ih =>
    constructor
    · rintro ⟨hjoins, bytes, hbytes, hrest⟩
      obtain ⟨hchain, hnumbered, hverified, hencoded⟩ := (ih hbytes).mp hrest
      refine ⟨?_, ?_, ?_, ?_⟩
      · refine List.isChain_cons_cons.mpr ⟨⟨?_, priorBytes, hprior, ?_, ?_⟩, hchain⟩
        · exact (validateRequest_next hjoins.valid).2.1
        · exact hjoins.linked
        · exact hjoins.valid
      · intro i r hr
        cases i with
        | zero =>
          cases hr
          exact hjoins.sequence
        | succ i =>
          have hsequence := hnumbered i r hr
          omega
      · exact List.forall_mem_cons.mpr ⟨hjoins.verified, hverified⟩
      · exact List.forall_mem_cons.mpr ⟨⟨bytes, hbytes⟩, hencoded⟩
    · rintro ⟨hchain, hnumbered, hverified, hencoded⟩
      obtain ⟨hafter, hchain⟩ := List.isChain_cons_cons.mp hchain
      obtain ⟨hrecord, hverified⟩ := List.forall_mem_cons.mp hverified
      obtain ⟨⟨bytes, hbytes⟩, hencoded⟩ := List.forall_mem_cons.mp hencoded
      obtain ⟨priorBytes', hprior', hlink, hvalid⟩ := hafter.linked
      cases hprior.symm.trans hprior'
      refine ⟨⟨verifyRecord_format hrecord, hnumbered 0 record rfl, hlink, hvalid, hrecord⟩,
        bytes, hbytes, (ih hbytes).mpr ⟨hchain, ?_, hverified, hencoded⟩⟩
      intro i r hr
      have hsequence := hnumbered (i + 1) r hr
      omega

/-- **From the start**, records whose ids are different join exactly when they
are chained. -/
theorem joined_iff_chained {records : List SignedRecord}
    (hencoded : ∀ record ∈ records, ∃ bytes, P.encodeRecord record = some bytes) :
    Joined P authority now 0 none "" records ∧ (records.map (·.request.requestId)).Nodup ↔
    Chained P authority now records := by
  cases records with
  | nil =>
    refine ⟨fun _ => ⟨by simp, by simp, by simp, by simp, by simp, by simp⟩, fun _ => ⟨trivial, ?_⟩⟩
    simp
  | cons first rest =>
    constructor
    · rintro ⟨⟨hjoins, bytes, hbytes, hrest⟩, hids⟩
      obtain ⟨hchain, hnumbered, hverified, _⟩ := (joined_after_iff hbytes).mp hrest
      have hstart := validateRequest_first hjoins.valid
      have hbound : ∀ record ∈ first :: rest, bindingsMatch first.request record.request = true :=
        List.forall_mem_cons.mpr ⟨bindingsMatch_refl _, hrest.bindingsMatch⟩
      refine ⟨?_, ?_, hchain, ?_, ?_, hids⟩
      · intro i record hrecord
        cases i with
        | zero =>
          cases hrecord
          exact hjoins.sequence
        | succ i =>
          have hsequence := hnumbered i record hrecord
          omega
      · intro record hrecord
        cases hrecord
        exact ⟨hstart.2.2, hstart.2.1, hjoins.valid⟩
      · intro a ha b hb
        exact bindingsMatch_trans (bindingsMatch_symm (hbound a ha)) (hbound b hb)
      · exact List.forall_mem_cons.mpr ⟨hjoins.verified, hverified⟩
    · intro h
      obtain ⟨⟨bytes, hbytes⟩, hencoded⟩ := List.forall_mem_cons.mp hencoded
      obtain ⟨hfirst, hverified⟩ := List.forall_mem_cons.mp h.verified
      obtain ⟨_, hlink, hvalid⟩ := h.starts first rfl
      refine ⟨⟨⟨verifyRecord_format hfirst, h.numbered 0 first rfl, hlink, hvalid, hfirst⟩,
        bytes, hbytes, (joined_after_iff hbytes).mpr ⟨h.follows, ?_, hverified, hencoded⟩⟩,
        h.requestIds⟩
      intro i record hrecord
      have hsequence := h.numbered (i + 1) record hrecord
      omega

end Chains

end Restore
end O3k
