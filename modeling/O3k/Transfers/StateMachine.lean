import O3k.Transfers.Store
import O3k.Semantics.Run

/-!
# The state machine of artifact transfers

The writers, as changes of records: a transfer is offered, advanced by the
holder of its epoch, rebound to a new epoch, or expired.  Each change turns a
valid record into a valid one, so the reader never refuses a stored row.
-/

namespace O3k
namespace Transfers

open Relational Operations

namespace ArtifactTransferRecord

/-- The record an insertion at `now` stores. -/
def offeredAt (now : String) (r : ArtifactTransferRecord) : ArtifactTransferRecord :=
  { r with
    createdAt := now
    updatedAt := now }

def advanced (now : String) (update : ArtifactTransferUpdate) (r : ArtifactTransferRecord) :
    ArtifactTransferRecord :=
  { r with
    state := update.state
    contiguousBytes := update.contiguousBytes
    nextChunkIndex := update.nextChunkIndex
    retryCount := update.retryCount
    updatedAt := now }

def rebound (now epoch : String) (r : ArtifactTransferRecord) : ArtifactTransferRecord :=
  { r with
    agentEpoch := epoch
    updatedAt := now }

def expired (now : String) (r : ArtifactTransferRecord) : ArtifactTransferRecord :=
  { r with
    state := .expired
    updatedAt := now }

variable {r : ArtifactTransferRecord}

theorem ValidOffer.congr {r' : ArtifactTransferRecord}
    (h : r.ValidOffer) (hsame : sameIdentity { r' with agentEpoch := r.agentEpoch } r) :
    r'.ValidOffer := by
  simp only [sameIdentity, Bool.and_eq_true, decide_eq_true_eq] at hsame
  obtain ⟨⟨⟨⟨⟨⟨⟨⟨⟨⟨⟨⟨⟨h₁, h₂⟩, h₃⟩, h₄⟩, h₅⟩, _⟩, h₇⟩, h₈⟩, h₉⟩, h₁₀⟩, h₁₁⟩, h₁₂⟩, h₁₃⟩, h₁₄⟩ := hsame
  refine ⟨h₁ ▸ h.transferId, h₂ ▸ h.commandId, h₅ ▸ h.agentId, h₇ ▸ h.artifactId,
    h₈ ▸ h.artifactKind, h₁₂ ▸ h.format, h₁₁ ▸ h.expiry, h₉ ▸ h.sha256, h₉ ▸ h.sha256Digits,
    h₁₀ ▸ h.size, h₁₃ ▸ h.chunkSize, ?_⟩
  rw [h₁₄, h.chunkCount, minimumChunks, minimumChunks, h₁₀, h₁₃]

theorem Valid.offeredAt (h : r.Valid) (now : String) : (r.offeredAt now).Valid :=
  ⟨h.offer.congr (by simp [sameIdentity, ArtifactTransferRecord.offeredAt]), h.epoch,
    h.progress.bytes, h.progress.chunks, h.progress.retries, h.progress.committed⟩

theorem Valid.rebound
    (h : r.Valid) (now : String) {epoch : String} (hepoch : textWithin epoch 256) :
    (r.rebound now epoch).Valid :=
  ⟨h.offer.congr (by simp [sameIdentity, ArtifactTransferRecord.rebound]), hepoch,
    h.progress.bytes, h.progress.chunks, h.progress.retries, h.progress.committed⟩

theorem Valid.expired (h : r.Valid) (now : String) : (r.expired now).Valid :=
  ⟨h.offer.congr (by simp [sameIdentity, ArtifactTransferRecord.expired]), h.epoch,
    h.progress.bytes, h.progress.chunks, h.progress.retries, fun hstate => by cases hstate⟩

end ArtifactTransferRecord

namespace ArtifactTransferUpdate

variable {u : ArtifactTransferUpdate} {current : ArtifactTransferRecord}

/-- An accepted update that changes something. -/
structure Accepted (u : ArtifactTransferUpdate) (current : ArtifactTransferRecord) : Prop where
  live : current.state.isTerminal = false
  retries : current.retryCount ≤ u.retryCount ∧ u.retryCount ≤ maxArtifactTransferRetries
  bytes : current.contiguousBytes ≤ u.contiguousBytes ∧ u.contiguousBytes ≤ current.sizeBytes
  chunks : current.nextChunkIndex ≤ u.nextChunkIndex ∧ u.nextChunkIndex ≤ current.chunkCount
  committed :
    u.state = .committed →
      u.contiguousBytes = current.sizeBytes ∧ u.nextChunkIndex = current.chunkCount
  offered : u.state = .offered → u.contiguousBytes = 0 ∧ u.nextChunkIndex = 0
  order : u.state = .offered → current.state = .offered
  changes : u ≠ .ofRecord current

theorem accepted_of_validateAgainst
    (h : u.validateAgainst current = .ok ()) (hchange : u ≠ .ofRecord current) :
    u.Accepted current := by
  unfold validateAgainst at h
  split_ifs at h with hbounds hterminal hsame hregress hoffered hprogress hreceiving hcommitted
  · refine absurd ?_ hchange
    simp only [ne_eq, not_or, Decidable.not_not] at hsame
    obtain ⟨hstate, hbytes, hnext, hretry⟩ := hsame
    cases u
    simp_all [ofRecord]
  · refine ⟨by simpa using hterminal, by omega, by omega, by omega, ?_, ?_, ?_, hchange⟩
    · intro hstate
      have hcomplete : ¬ (u.contiguousBytes ≠ current.sizeBytes ∨
          u.nextChunkIndex ≠ current.chunkCount) := fun h => hcommitted ⟨hstate, h⟩
      omega
    · intro hstate
      have hzero : ¬ (u.contiguousBytes ≠ 0 ∨ u.nextChunkIndex ≠ 0) :=
        fun h => hprogress ⟨hstate, h⟩
      omega
    · intro hstate
      by_contra hlater
      exact hoffered ⟨hstate, hlater⟩

theorem validateAgainst_ofRecord (hvalid : current.Valid)
    (hoffered :
      current.state = .offered → current.contiguousBytes = 0 ∧ current.nextChunkIndex = 0) :
    (ofRecord current).validateAgainst current = .ok () := by
  have hbytes := hvalid.progress.bytes
  have hchunks := hvalid.progress.chunks
  have hretries := hvalid.progress.retries
  unfold validateAgainst ofRecord
  rw [if_neg (by simp only; omega)]
  split_ifs with hterminal h₁ h₂ h₃ h₄ h₅ h₆
  · simp at h₁
  · rfl
  · simp at h₂
  · exact absurd h₃.1 h₃.2
  · have hzero := hoffered h₄.1
    simp only at h₄
    omega
  · exact absurd h₅.2 hterminal
  · have hcomplete := hvalid.progress.committed h₆.1
    unfold ArtifactTransferRecord.Complete at hcomplete
    simp only at h₆
    omega
  · rfl

end ArtifactTransferUpdate

variable {r : ArtifactTransferRecord}

theorem ArtifactTransferRecord.Valid.advanced
    (h : r.Valid) (now : String) {u : ArtifactTransferUpdate} (hu : u.Accepted r) :
    (r.advanced now u).Valid :=
  ⟨h.offer.congr (by simp [sameIdentity, ArtifactTransferRecord.advanced]), h.epoch,
    hu.bytes.2, hu.chunks.2, hu.retries.2, hu.committed⟩

theorem sqliteSequence_eq_ok {value : Nat} {column : Int} :
    sqliteSequence value = .ok column ↔ value ≤ integerMax ∧ (value : Int) = column := by
  unfold sqliteSequence
  split_ifs with h <;> simp [h]

theorem insertedRow_eq_ok {now : String} {row : ArtifactTransferRow}
    (h : insertedRow now r = .ok row) :
    row = (r.offeredAt now).encode := by
  unfold insertedRow at h
  simp only [Transaction.except_bind_eq_ok, sqliteSequence_eq_ok] at h
  obtain ⟨_, ⟨_, rfl⟩, _, ⟨_, rfl⟩, _, ⟨_, rfl⟩, _, ⟨_, rfl⟩, _, ⟨_, rfl⟩, hrow⟩ := h
  cases hrow
  rfl

theorem updatedRow_eq_ok {now : String} {u : ArtifactTransferUpdate} {row : ArtifactTransferRow}
    (h : updatedRow now u r.encode = .ok row) :
    row = (r.advanced now u).encode := by
  unfold updatedRow at h
  simp only [Transaction.except_bind_eq_ok, sqliteSequence_eq_ok] at h
  obtain ⟨_, ⟨_, rfl⟩, _, ⟨_, rfl⟩, hrow⟩ := h
  cases hrow
  rfl

theorem fromRow_encode {r : ArtifactTransferRecord} (h : r.Valid) : fromRow r.encode = .ok r :=
  fromRow_eq_ok.mpr ⟨rfl, h⟩

namespace TransferTables

/-- The transfer stored under an identifier. -/
def Stored (t : TransferTables) (id : String) (r : ArtifactTransferRecord) : Prop :=
  t.transfers.get? id = some r.encode ∧ r.Valid

/-- Every stored row is the row of a valid record. -/
def Readable (t : TransferTables) : Prop :=
  ∀ row ∈ t.transfers.rows, ∃ r : ArtifactTransferRecord, row = r.encode ∧ r.Valid

theorem get_eq_ok {t : TransferTables} {id : String} {r : ArtifactTransferRecord} :
    t.get id = .ok r ↔ t.Stored id r := by
  unfold get Stored
  cases t.transfers.get? id with
  | none => simp
  | some row => simp [fromRow_eq_ok]

variable {t : TransferTables} {id : String}

theorem Stored.unique {r r' : ArtifactTransferRecord} (h : t.Stored id r) (h' : t.Stored id r') :
    r = r' :=
  Except.ok.inj ((get_eq_ok.mpr h).symm.trans (get_eq_ok.mpr h'))

variable {r : ArtifactTransferRecord}

theorem Stored.transferId (h : t.Stored id r) : r.transferId = id := t.transfers.key_of_get? h.1

theorem Readable.stored
    (h : t.Readable) {row : ArtifactTransferRow} (hrow : t.transfers.get? id = some row) :
    ∃ r, row = r.encode ∧ t.Stored id r := by
  obtain ⟨r, rfl, hvalid⟩ := h row (t.transfers.mem_of_get? hrow)
  exact ⟨r, rfl, hrow, hvalid⟩

theorem Readable.get (h : t.Readable) (id : String) :
    (∃ r, t.get id = .ok r) ∨ t.get id = .error .artifactTransferNotFound := by
  cases hrow : t.transfers.get? id with
  | none =>
    right
    rw [TransferTables.get, hrow]
  | some row =>
    obtain ⟨r, _, hstored⟩ := h.stored hrow
    exact Or.inl ⟨r, get_eq_ok.mpr hstored⟩

theorem Readable.listRecoverable (h : t.Readable) : ∃ records, t.listRecoverable = .ok records := by
  refine Transaction.except_mapM_of_forall ?_
  intro row hrow
  obtain ⟨r, rfl, hvalid⟩ := h row (List.mem_of_mem_filter hrow)
  exact ⟨r, fromRow_encode hvalid⟩

theorem Readable.putTransfer (h : t.Readable) (hvalid : r.Valid) :
    (t.putTransfer r.encode).Readable := by
  intro row hrow
  rcases (t.transfers.mem_put).mp hrow with rfl | ⟨hrow, _⟩
  · exact ⟨r, rfl, hvalid⟩
  · exact h row hrow

theorem stored_putTransfer_self (t : TransferTables) (hvalid : r.Valid) :
    (t.putTransfer r.encode).Stored r.transferId r := by
  refine ⟨?_, hvalid⟩
  show (t.transfers.put r.encode).get? r.transferId = _
  rw [t.transfers.get?_put]
  exact if_pos rfl

theorem stored_putTransfer_of_ne {r old : ArtifactTransferRecord}
    (hne : r.transferId ≠ id) (h : t.Stored id old) :
    (t.putTransfer r.encode).Stored id old := by
  refine ⟨?_, h.2⟩
  show (t.transfers.put r.encode).get? id = _
  rw [t.transfers.get?_put, if_neg (show r.encode.transferId ≠ id from hne)]
  exact h.1

theorem insert_cases (t : TransferTables) (now : String) (r : ArtifactTransferRecord) :
    (t.insert now r).2 = t ∨
      (t.transfers.get? r.transferId = none ∧ r.Valid ∧
        t.insert now r = (.ok (r.offeredAt now), t.putTransfer (r.offeredAt now).encode)) := by
  unfold insert
  cases hvalidate : r.validate with
  | error e => exact Or.inl rfl
  | ok =>
    have hvalid := ArtifactTransferRecord.validate_eq_ok.mp hvalidate
    cases hrow : insertedRow now r with
    | error e => exact Or.inl rfl
    | ok row =>
      cases insertedRow_eq_ok hrow
      cases hbody : insertBody (r.offeredAt now).encode t with
      | error e =>
        simp only [Transaction.atomically_of_error hbody]
        left
        split
        · rename_i heq
          cases congrArg Prod.fst heq
        · rename_i heq
          cases heq
          split
          · rfl
          · split_ifs <;> rfl
        · rename_i heq
          cases heq
          rfl
      | ok p =>
        obtain ⟨_, t'⟩ := p
        simp only [Transaction.atomically_of_ok hbody]
        simp only [insertBody, Transaction.get_bind_apply, Transaction.require_bind_eq_ok,
          Transaction.set_apply] at hbody
        obtain ⟨_, habsent, _, hset⟩ := hbody
        cases hset
        right
        have hstored :
            (t.putTransfer (r.offeredAt now).encode).Stored r.transferId
              (r.offeredAt now) :=
          stored_putTransfer_self t (hvalid.offeredAt now)
        exact ⟨Option.isNone_iff_eq_none.mp habsent, hvalid,
          by rw [get_eq_ok.mpr hstored]⟩

theorem insert_of_stored {now : String} {r old : ArtifactTransferRecord}
    (h : t.Stored r.transferId old) :
    (t.insert now r).2 = t := by
  rcases t.insert_cases now r with hsame | ⟨habsent, _⟩
  · exact hsame
  · cases habsent.symm.trans h.1

/-- An update advances the transfer for the holder of its epoch, or changes
nothing; then it succeeds only where the transfer is already. -/
theorem update_cases (t : TransferTables) (now id epoch : String) (u : ArtifactTransferUpdate) :
    ((t.update now id epoch u).2 = t ∧
        ∀ r, (t.update now id epoch u).1 = .ok r →
          t.Stored id r ∧ r.agentEpoch = epoch ∧ u = .ofRecord r ∧ u.validateAgainst r = .ok ()) ∨
      ∃ current,
        t.Stored id current ∧ current.agentEpoch = epoch ∧ u.Accepted current ∧
          t.update now id epoch u =
          (.ok (current.advanced now u), t.putTransfer (current.advanced now u).encode) := by
  unfold update
  cases hbody : updateBody now id epoch u t with
  | error e =>
    left
    rw [Transaction.atomically_of_error hbody]
    exact ⟨rfl, fun r hr => by cases hr⟩
  | ok p =>
    obtain ⟨answer, t'⟩ := p
    rw [Transaction.atomically_of_ok hbody]
    simp only [updateBody, Transaction.get_bind_apply, Transaction.orFail_bind_eq_ok,
      Transaction.fromExcept_bind_eq_ok, Transaction.require_bind_eq_ok] at hbody
    obtain ⟨row, hrow, current, hread, hepoch, _, hvalidate, hrest⟩ := hbody
    obtain ⟨rfl, hvalid⟩ := fromRow_eq_ok.mp hread
    have hstored : t.Stored id current := ⟨hrow, hvalid⟩
    split_ifs at hrest with hsame
    · cases hrest
      refine Or.inl ⟨rfl, fun r hr => ?_⟩
      cases hr
      exact ⟨hstored, hepoch, hsame, hvalidate⟩
    · simp only [Transaction.fromExcept_bind_eq_ok, Transaction.require_bind_eq_ok,
        Transaction.set_bind_apply] at hrest
      obtain ⟨changed, hchanged, _, _, hset⟩ := hrest
      cases hset
      cases updatedRow_eq_ok hchanged
      have haccepted := ArtifactTransferUpdate.accepted_of_validateAgainst hvalidate hsame
      have hid : (current.advanced now u).transferId = id := hstored.transferId
      have hnew := stored_putTransfer_self t (hvalid.advanced now haccepted)
      rw [hid] at hnew
      refine Or.inr ⟨current, hstored, hepoch, haccepted, ?_⟩
      simp only [get_eq_ok.mpr hnew]

theorem rebindable_encode {epoch : String} (h : rebindable id epoch r.encode = true) :
    r.transferId = id ∧ r.agentEpoch = epoch ∧ r.state.isTerminal = false := by
  simp only [rebindable, Bool.and_eq_true, Bool.or_eq_true, decide_eq_true_eq] at h
  obtain ⟨⟨hid, hepoch⟩, hstate⟩ := h
  refine ⟨hid, hepoch, ?_⟩
  have hcase : r.state.asStr = "offered" ∨ r.state.asStr = "receiving" := hstate
  cases hr : r.state <;> rw [hr] at hcase <;> first | rfl | exact absurd hcase (by decide)

/-- A rebinding gives a live transfer of the presented epoch a new epoch, or
changes nothing; then it fails, unless the new epoch is the presented one. -/
theorem Readable.rebind_cases (h : t.Readable) (now id expected new : String) :
    ((t.rebind now id expected new).2 = t ∧
        (expected ≠ new → ∃ e, (t.rebind now id expected new).1 = .error e)) ∨
      ∃ current,
        t.Stored id current ∧ current.agentEpoch = expected ∧ current.state.isTerminal = false ∧
          textWithin new 256 ∧
          t.rebind now id expected new =
          (.ok (current.rebound now new), t.putTransfer (current.rebound now new).encode) := by
  unfold rebind
  cases hexpected : boundedText "expected_agent_epoch" expected 256 with
  | error e => exact Or.inl ⟨rfl, fun _ => ⟨e, rfl⟩⟩
  | ok =>
    cases hnew : boundedText "new_agent_epoch" new 256 with
    | error e => exact Or.inl ⟨rfl, fun _ => ⟨e, rfl⟩⟩
    | ok =>
      have htext := boundedText_eq_ok.mp hnew
      dsimp only
      split_ifs with hsame
      · exact Or.inl ⟨rfl, fun hne => absurd hsame hne⟩
      · cases hrow : (t.transfers.get? id).filter (rebindable id expected) with
        | none =>
          left
          cases t.get id with
          | error e => exact ⟨rfl, fun _ => ⟨e, rfl⟩⟩
          | ok current =>
            dsimp only
            split_ifs <;> exact ⟨rfl, fun _ => ⟨_, rfl⟩⟩
        | some row =>
          dsimp only
          split_ifs with hchecks
          · obtain ⟨hget, hrebindable⟩ := Option.filter_eq_some_iff.mp hrow
            obtain ⟨current, rfl, hstored⟩ := h.stored hget
            obtain ⟨hid, hepoch, hlive⟩ := rebindable_encode hrebindable
            have hafter := stored_putTransfer_self t (hstored.2.rebound now htext)
            rw [show (current.rebound now new).transferId = id from hid] at hafter
            exact Or.inr ⟨current, hstored, hepoch, hlive, htext,
              Prod.ext (get_eq_ok.mpr hafter) rfl⟩
          · exact Or.inl ⟨rfl, fun _ => ⟨_, rfl⟩⟩

theorem expires_encode (h : t.expires r.encode = true) : r.state.isTerminal = false := by
  have hstate : ["committed", "rejected", "expired"].contains r.state.asStr = false := by
    simpa [expires, ArtifactTransferRecord.encode] using (Bool.and_eq_true_iff.mp h).1
  cases hr : r.state <;> rw [hr] at hstate <;> first | rfl | exact absurd hstate (by decide)

/-- The sweep leaves a transfer alone or expires it, when it was live. -/
theorem expire_encode (t : TransferTables) (now : String) (r : ArtifactTransferRecord) :
    t.expire now r.encode = r.encode ∨
      (r.state.isTerminal = false ∧ t.expire now r.encode = (r.expired now).encode) := by
  unfold expire
  split_ifs with h
  · exact Or.inr ⟨expires_encode h, rfl⟩
  · exact Or.inl rfl

theorem Stored.expireTransfersOfTerminalOperations (h : t.Stored id r) (now : String) :
    (t.expireTransfersOfTerminalOperations now).2.Stored id r ∨
      (r.state.isTerminal = false ∧
        (t.expireTransfersOfTerminalOperations now).2.Stored id (r.expired now)) := by
  have hget :
      (t.expireTransfersOfTerminalOperations now).2.transfers.get? id
        =
      some (t.expire now r.encode) := by
    show (t.transfers.update (t.expire now) (t.expire_transferId now)).get? id = _
    rw [t.transfers.get?_update, h.1, Option.map_some]
  rcases t.expire_encode now r with hsame | ⟨hlive, hexpired⟩
  · exact Or.inl ⟨hsame ▸ hget, h.2⟩
  · exact Or.inr ⟨hlive, hexpired ▸ hget, h.2.expired now⟩

theorem Readable.expireTransfersOfTerminalOperations (h : t.Readable) (now : String) :
    (t.expireTransfersOfTerminalOperations now).2.Readable := by
  intro row hrow
  have hmap : row ∈ t.transfers.rows.map (t.expire now) := hrow
  obtain ⟨old, hold, rfl⟩ := List.mem_map.mp hmap
  obtain ⟨r, rfl, hvalid⟩ := h old hold
  rcases t.expire_encode now r with hsame | ⟨_, hexpired⟩
  · exact ⟨r, hsame, hvalid⟩
  · exact ⟨r.expired now, hexpired, hvalid.expired now⟩

end TransferTables

end Transfers
end O3k
