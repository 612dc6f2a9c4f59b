import O3k.Transfers.Evolution

/-!
# Repeated calls, and transfers over whole runs

A call that succeeded may be sent again: at once it gets the same reply, and
however late it comes it changes nothing.
-/

namespace O3k
namespace Transfers

open Relational Operations Semantics

namespace TransferTables

variable {r : ArtifactTransferRecord} {t : TransferTables}

theorem update_of_same {id : String} (hr : t.Stored id r)
    (haccepted : (ArtifactTransferUpdate.ofRecord r).validateAgainst r = .ok ()) (now : String) :
    t.update now id r.agentEpoch (.ofRecord r) = (.ok r, t) := by
  have hbody : updateBody now id r.agentEpoch (.ofRecord r) t = .ok (some r, t) := by
    unfold updateBody
    rw [Transaction.get_bind_apply, hr.1, Transaction.orFail_some_bind, fromRow_encode hr.2,
      Transaction.fromExcept_ok_bind, Transaction.require_bind_of_pos _ _ rfl, haccepted,
      Transaction.fromExcept_ok_bind, if_pos rfl]
    rfl
  unfold update
  rw [Transaction.atomically_of_ok hbody]

variable {t t' : TransferTables}

theorem update_ok {now id epoch : String} {u : ArtifactTransferUpdate}
    (h : t.update now id epoch u = (.ok r, t')) :
    t'.Stored id r ∧ r.agentEpoch = epoch ∧ u = .ofRecord r ∧ u.validateAgainst r = .ok () := by
  rcases t.update_cases now id epoch u with ⟨hsame, hreply⟩ | ⟨old, hr, rfl, haccepted, hnew⟩
  · rw [h] at hsame hreply
    cases hsame
    exact hreply r rfl
  · cases h.symm.trans hnew
    have hvalid := hr.2.advanced now haccepted
    have hafter := stored_putTransfer_self t hvalid
    rw [show (old.advanced now u).transferId = id from hr.transferId] at hafter
    exact ⟨hafter, rfl, rfl,
      ArtifactTransferUpdate.validateAgainst_ofRecord hvalid haccepted.offered⟩

/-- A successful update repeated: the same reply, and nothing changes. -/
theorem update_again {now id epoch : String} {u : ArtifactTransferUpdate}
    (h : t.update now id epoch u = (.ok r, t')) (later : String) :
    t'.update later id epoch u = (.ok r, t') := by
  obtain ⟨hr, rfl, rfl, haccepted⟩ := update_ok h
  exact update_of_same hr haccepted later

theorem chunkCount_le_sizeBytes (h : r.Valid) : r.chunkCount ≤ r.sizeBytes := by
  have hchunk := h.offer.chunkSize.1
  rw [h.offer.chunkCount, ArtifactTransferRecord.minimumChunks, ← Nat.lt_succ_iff,
    Nat.div_lt_iff_lt_mul hchunk]
  calc r.sizeBytes + r.chunkSizeBytes - 1
      < r.sizeBytes * 1 + r.chunkSizeBytes := by omega
    _ ≤ r.sizeBytes * r.chunkSizeBytes + r.chunkSizeBytes := by gcongr; exact hchunk
    _ = r.sizeBytes.succ * r.chunkSizeBytes := (Nat.succ_mul _ _).symm

theorem insertedRow_of_valid (h : r.Valid) (now : String) :
    insertedRow now r = .ok (r.offeredAt now).encode := by
  have hsequence : ∀ value : Nat, value ≤ maxArtifactTransferBytes →
      sqliteSequence value = .ok (value : Int) := by
    intro value hvalue
    refine sqliteSequence_eq_ok.mpr ⟨hvalue.trans ?_, rfl⟩
    decide
  have hsize := h.offer.size.2
  have hchunk : r.chunkSizeBytes ≤ maxArtifactTransferBytes :=
    h.offer.chunkSize.2.trans (by decide)
  have hcount := (chunkCount_le_sizeBytes h).trans hsize
  have hbytes := h.progress.bytes.trans hsize
  have hnext := h.progress.chunks.trans hcount
  unfold insertedRow
  rw [hsequence _ hsize, hsequence _ hchunk, hsequence _ hcount, hsequence _ hbytes,
    hsequence _ hnext]
  rfl

theorem insertBody_uniqueViolation {row : ArtifactTransferRow}
    (h : insertBody row t = .error (.database .uniqueViolation)) :
    row.satisfiesChecks = true := by
  by_contra hchecks
  rw [insertBody, Transaction.get_bind_apply, Transaction.require_bind_of_neg _ _ hchecks] at h
  cases h

/-- Inserting what is stored already: the same offer is answered with the
stored record, any other one refused. -/
theorem insert_of_existing {r old : ArtifactTransferRecord}
    (hvalid : r.Valid) (hold : t.Stored r.transferId old) (now : String)
    (hchecks : (r.offeredAt now).encode.satisfiesChecks = true) :
    t.insert now r =
      (if sameIdentity old r then
        .ok old
      else
        .error (.artifactTransferConflict "transfer identity conflicts with durable state"),
       t) := by
  have hbody :
      insertBody (r.offeredAt now).encode t = .error (.database .uniqueViolation) := by
    unfold insertBody
    rw [Transaction.get_bind_apply, Transaction.require_bind_of_pos _ _ hchecks,
      Transaction.require_bind_of_neg]
    show ¬ (t.transfers.get? r.transferId).isNone = true
    rw [hold.1]
    exact Bool.false_ne_true
  unfold insert
  rw [ArtifactTransferRecord.validate_eq_ok.mpr hvalid, insertedRow_of_valid hvalid now]
  simp only [Transaction.atomically_of_error hbody, get_eq_ok.mpr hold]
  split_ifs <;> rfl

theorem insert_ok {now : String} {r s : ArtifactTransferRecord} (h : t.insert now r = (.ok s, t')) :
    r.Valid ∧ (r.offeredAt now).encode.satisfiesChecks = true ∧ t'.Stored r.transferId s ∧
      sameIdentity s r = true := by
  unfold insert at h
  cases hvalidate : r.validate with
  | error e =>
    rw [hvalidate] at h
    cases congrArg Prod.fst h
  | ok =>
    have hvalid := ArtifactTransferRecord.validate_eq_ok.mp hvalidate
    rw [hvalidate, insertedRow_of_valid hvalid now] at h
    refine ⟨hvalid, ?_⟩
    cases hbody : insertBody (r.offeredAt now).encode t with
    | ok p =>
      obtain ⟨_, t₁⟩ := p
      simp only [Transaction.atomically_of_ok hbody, Prod.mk.injEq] at h
      obtain ⟨hget, rfl⟩ := h
      simp only [insertBody, Transaction.get_bind_apply, Transaction.require_bind_eq_ok,
        Transaction.set_apply] at hbody
      obtain ⟨hchecks, _, _, hset⟩ := hbody
      cases hset
      have hnew := stored_putTransfer_self t (hvalid.offeredAt now)
      obtain rfl := (get_eq_ok.mp hget).unique hnew
      exact ⟨hchecks, hnew, by simp [sameIdentity, ArtifactTransferRecord.offeredAt]⟩
    | error e =>
      simp only [Transaction.atomically_of_error hbody] at h
      split at h
      · rename_i heq
        cases congrArg Prod.fst heq
      · rename_i heq
        cases heq
        have hchecks := insertBody_uniqueViolation hbody
        cases hget : t.get r.transferId with
        | error e =>
          rw [hget] at h
          cases congrArg Prod.fst h
        | ok existing =>
          rw [hget] at h
          dsimp only at h
          split_ifs at h with hsame
          · cases h
            exact ⟨hchecks, get_eq_ok.mp hget, hsame⟩
          · cases congrArg Prod.fst h
      · cases congrArg Prod.fst h

theorem insert_again {now : String} {r s : ArtifactTransferRecord}
    (h : t.insert now r = (.ok s, t')) (later : String) :
    t'.insert later r = (.ok s, t') := by
  obtain ⟨hvalid, hchecks, hstored, hsame⟩ := insert_ok h
  rw [insert_of_existing hvalid hstored later hchecks, if_pos hsame]

end TransferTables

/-- The record is where the update would bring it, or further. -/
structure ArtifactTransferUpdate.ReachedBy
    (u : ArtifactTransferUpdate) (r : ArtifactTransferRecord) :
    Prop where
  bytes : u.contiguousBytes ≤ r.contiguousBytes
  chunks : u.nextChunkIndex ≤ r.nextChunkIndex
  retries : u.retryCount ≤ r.retryCount
  order : u.state.rank ≤ r.state.rank

namespace ArtifactTransferUpdate

theorem reachedBy_ofRecord (r : ArtifactTransferRecord) : (ofRecord r).ReachedBy r :=
  ⟨le_rfl, le_rfl, le_rfl, le_rfl⟩

theorem ReachedBy.evolves {u : ArtifactTransferUpdate} {r r' : ArtifactTransferRecord}
    (h : u.ReachedBy r) (hr : r.Evolves r') :
    u.ReachedBy r' :=
  ⟨h.bytes.trans hr.bytes, h.chunks.trans hr.chunks, h.retries.trans hr.retries,
    h.order.trans hr.order⟩

/-- An update cannot bring a record to where it has been. -/
theorem ReachedBy.not_accepted {u : ArtifactTransferUpdate} {r : ArtifactTransferRecord}
    (h : u.ReachedBy r) :
    ¬ u.Accepted r := by
  intro haccepted
  refine haccepted.changes ?_
  have hstate : u.state = r.state := by
    have hlive := haccepted.live
    have horder := h.order
    cases hu : u.state with
    | offered => exact (haccepted.order hu).symm
    | receiving =>
      rw [hu] at horder
      cases hr : r.state with
      | offered => exact absurd (hr ▸ horder) (by decide)
      | receiving => rfl
      | committed | rejected | expired => exact absurd (hr ▸ hlive) (by decide)
    | committed | rejected | expired =>
      have hrank := ArtifactTransferState.rank_of_live hlive
      rw [hu] at horder
      exact absurd horder (by simpa [ArtifactTransferState.rank] using hrank)
  have hbytes := le_antisymm h.bytes haccepted.bytes.1
  have hchunks := le_antisymm h.chunks haccepted.chunks.1
  have hretries := le_antisymm h.retries haccepted.retries.1
  cases u
  simp only at hstate hbytes hchunks hretries
  rw [hstate, hbytes, hchunks, hretries]
  rfl

end ArtifactTransferUpdate

namespace TransferTables

variable {t : TransferTables} {id : String} {r : ArtifactTransferRecord}

theorem step_of_reached (hr : t.Stored id r) {u : ArtifactTransferUpdate} (hreached : u.ReachedBy r)
    (now epoch : String) :
    t.step (.update now id epoch u) = t := by
  rcases t.update_cases now id epoch u with ⟨hsame, _⟩ | ⟨current, hcurrent, _, haccepted, _⟩
  · exact hsame
  · exact absurd (hcurrent.unique hr ▸ haccepted) hreached.not_accepted

/-- The transfer is still there after the call. -/
def Keeps (id : String) (t : TransferTables) (call : TransferCall) : Prop :=
  ((t.step call).transfers.get? id).isSome = true

theorem stored_of_keeps
    (h : t.Readable) {old : ArtifactTransferRecord} (hold : t.Stored id old) {call : TransferCall}
    (hkeeps : t.Keeps id call) :
    ∃ new, (t.step call).Stored id new ∧ Change id call old new := by
  rcases stored_step h hold call with hnew | ⟨_, _, habsent⟩
  · exact hnew
  · exact absurd hkeeps (by simp [Keeps, habsent])

theorem reached_updates_change_nothing
    (h : t.Readable) (hr : t.Stored id r) {u : ArtifactTransferUpdate} (hreached : u.ReachedBy r)
    (calls : List TransferCall) (hkeeps : EachStep step (Keeps id) t calls) :
    EachStep step (fun t call => ∀ now epoch, call = .update now id epoch u → t.step call = t)
      t calls := by
  refine eachStep_of_guarded
    (I := fun t => t.Readable ∧ ∃ r, t.Stored id r ∧ u.ReachedBy r)
    ?_ ?_ t calls ⟨h, r, hr, hreached⟩ hkeeps
  · rintro t call ⟨h, r, hr, hreached⟩ hkeeps
    obtain ⟨new, hnew, hchange⟩ := stored_of_keeps h hr hkeeps
    exact ⟨h.step call, new, hnew, hreached.evolves hchange.evolves⟩
  · rintro t _ ⟨_, r, hr, hreached⟩ _ now epoch rfl
    exact step_of_reached hr hreached now epoch

theorem old_epoch_changes_nothing
    (h : t.Readable) {epoch : String} (hr : t.Stored id r) (hstale : epoch ≠ r.agentEpoch)
    (calls : List TransferCall)
    (hguard :
      EachStep step
        (fun t call => t.Keeps id call ∧ ∀ now current, call ≠ .rebind now id current epoch)
        t calls) :
    EachStep step (fun t call => call.presents = some (id, epoch) → t.step call = t) t calls := by
  refine eachStep_of_guarded
    (I := fun t => t.Readable ∧ ∃ r, t.Stored id r ∧ epoch ≠ r.agentEpoch)
    ?_ ?_ t calls ⟨h, r, hr, hstale⟩ hguard
  · rintro t call ⟨h, r, hr, hstale⟩ ⟨hkeeps, hback⟩
    obtain ⟨new, hnew, hchange⟩ := stored_of_keeps h hr hkeeps
    refine ⟨h.step call, new, hnew, ?_⟩
    rintro rfl
    obtain ⟨now, hcall⟩ := hchange.epoch hstale
    exact hback now _ hcall
  · rintro t call ⟨h, r, hr, hstale⟩ _ hpresents
    exact step_of_stale_epoch h hr hpresents hstale

/-- What holds in every state. -/
structure Sound (t : TransferTables) : Prop where
  valid :
    ∀ row ∈ t.transfers.rows, ∃ r, fromRow row = .ok r ∧ r.validate = .ok ()
  get : ∀ id, (∃ r, t.get id = .ok r) ∨ t.get id = .error .artifactTransferNotFound
  listRecoverable : ∃ records, t.listRecoverable = .ok records
  committed : ∀ id r, t.get id = .ok r → r.state = .committed → r.Complete

/-- What every call obeys. -/
structure Lawful (t : TransferTables) (call : TransferCall) : Prop where
  evolves :
    ∀ id old, t.get id = .ok old →
      (∃ new, (t.step call).get id = .ok new ∧ old.Evolves new) ∨
        ((∃ journal, call = .journal journal) ∧
          (t.step call).get id = .error .artifactTransferNotFound)
  progress :
    ∀ id old new, t.get id = .ok old → (t.step call).get id = .ok new →
      ¬ old.SameProgress new →
        ∃ now u, call = .update now id old.agentEpoch u
  epoch :
    ∀ id old new, t.get id = .ok old → (t.step call).get id = .ok new →
      new.agentEpoch ≠ old.agentEpoch →
        ∃ now, call = .rebind now id old.agentEpoch new.agentEpoch
  fenced :
    ∀ id epoch r, t.get id = .ok r → call.presents = some (id, epoch) → epoch ≠ r.agentEpoch →
      t.step call = t
  insertPresent :
    ∀ now transfer r, call = .insert now transfer → t.get transfer.transferId = .ok r →
      t.step call = t
  insertAgain :
    ∀ now later transfer r, call = .insert now transfer →
      (t.outcome call).1 = some (.ok r) →
        (t.step call).outcome (.insert later transfer) = (some (.ok r), t.step call)
  updateAgain :
    ∀ now later id epoch u r, call = .update now id epoch u →
      (t.outcome call).1 = some (.ok r) →
        (t.step call).outcome (.update later id epoch u) = (some (.ok r), t.step call)

/-- What a call settles for the calls after it, as long as its transfer is there. -/
structure Settles (t : TransferTables) (call : TransferCall) (after : List TransferCall) :
    Prop where
  updated :
    ∀ now id epoch u r, call = .update now id epoch u → (t.outcome call).1 = some (.ok r) →
      EachStep step (Keeps id) (t.step call) after →
        EachStep step
          (fun t call => ∀ now epoch, call = .update now id epoch u → t.step call = t)
          (t.step call) after
  rebound :
    ∀ now id old new r, call = .rebind now id old new → old ≠ new →
      (t.outcome call).1 = some (.ok r) →
      EachStep step
          (fun t call => t.Keeps id call ∧ ∀ now current, call ≠ .rebind now id current old)
          (t.step call) after →
        EachStep step
          (fun t call => call.presents = some (id, old) → t.step call = t)
          (t.step call) after

theorem Readable.sound {t : TransferTables} (h : t.Readable) : t.Sound := by
  refine ⟨?_, h.get, h.listRecoverable, ?_⟩
  · intro row hrow
    obtain ⟨r, rfl, hvalid⟩ := h row hrow
    exact ⟨r, fromRow_encode hvalid, ArtifactTransferRecord.validate_eq_ok.mpr hvalid⟩
  · intro id r hget hstate
    exact (get_eq_ok.mp hget).2.progress.committed hstate

theorem Readable.lawful (h : t.Readable) (call : TransferCall) : t.Lawful call := by
  have hchange : ∀ {id old new}, t.get id = .ok old → (t.step call).get id = .ok new →
      Change id call old new := by
    intro id old new hold hnew
    rcases stored_step h (get_eq_ok.mp hold) call with ⟨new', hnew', hchange⟩ | ⟨_, _, habsent⟩
    · exact (get_eq_ok.mp hnew).unique hnew' ▸ hchange
    · cases habsent.symm.trans (get_eq_ok.mp hnew).1
  refine ⟨?_, ?_, ?_, ?_, ?_, ?_, ?_⟩
  · intro id old hold
    rcases stored_step h (get_eq_ok.mp hold) call with
      ⟨new, hnew, hchange⟩ | ⟨journal, hcall, habsent⟩
    · exact Or.inl ⟨new, get_eq_ok.mpr hnew, hchange.evolves⟩
    · exact Or.inr ⟨⟨journal, hcall⟩, by rw [TransferTables.get, habsent]⟩
  · exact fun id old new hold hnew => (hchange hold hnew).progress
  · exact fun id old new hold hnew => (hchange hold hnew).epoch
  · exact fun id epoch r hr hpresents hstale =>
      step_of_stale_epoch h (get_eq_ok.mp hr) hpresents hstale
  · rintro now transfer r rfl hr
    exact insert_of_stored (get_eq_ok.mp hr)
  · rintro now later transfer r rfl hreply
    have hagain :=
      insert_again
        (Prod.ext (Option.some.inj hreply) rfl : t.insert now transfer = (.ok r, _)) later
    show Prod.map some _ ((t.insert now transfer).2.insert later transfer) = _
    rw [hagain]
    rfl
  · rintro now later id epoch u r rfl hreply
    have hagain :=
      update_again
        (Prod.ext (Option.some.inj hreply) rfl : t.update now id epoch u = (.ok r, _)) later
    show Prod.map some _ ((t.update now id epoch u).2.update later id epoch u) = _
    rw [hagain]
    rfl

theorem Readable.settles (h : t.Readable) (call : TransferCall) (after : List TransferCall) :
    t.Settles call after := by
  constructor
  · rintro now id epoch u r rfl hreply hkeeps
    obtain ⟨hr, _, rfl, _⟩ :=
      update_ok (Prod.ext (Option.some.inj hreply) rfl : t.update now id epoch u = (.ok r, _))
    exact reached_updates_change_nothing (h.step (.update now id epoch (.ofRecord r))) hr
      (ArtifactTransferUpdate.reachedBy_ofRecord r) after hkeeps
  · rintro now id old new r rfl hne hreply hguard
    obtain ⟨hr, hepoch⟩ :=
      rebind_ok h (Prod.ext (Option.some.inj hreply) rfl : t.rebind now id old new = (.ok r, _))
        hne
    exact old_epoch_changes_nothing (h.step (.rebind now id old new)) hr (hepoch ▸ hne) after hguard

theorem empty_readable : empty.Readable :=
  fun _ hrow => absurd hrow List.not_mem_nil

/-- **The state machine of artifact transfers.** In every run of calls by agents
with any epochs, over a journal that changes in any way, every stored row reads
back as a valid record, every call obeys the laws, and what a call has settled
stays settled. -/
theorem transfers_obey_state_machine (calls : List TransferCall) :
    Always step Sound empty calls ∧ EachStep step Lawful empty calls ∧
      ∀ before call after, calls = before ++ call :: after →
        (run step empty before).Settles call after := by
  have hreadable : Always step Readable empty calls :=
    always_of_invariant (fun _ call h => h.step call) empty calls empty_readable
  refine ⟨hreadable.imp fun _ h => h.sound, ?_, ?_⟩
  · exact eachStep_of_invariant (fun _ call h => h.step call) (fun _ call h => h.lawful call)
      empty calls empty_readable
  · intro before call after heq
    have hbefore := (always_iff_split empty calls).mp hreadable before (call :: after) heq
    exact Readable.settles hbefore call after

end TransferTables

end Transfers
end O3k
