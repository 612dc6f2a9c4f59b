import O3k.Transfers.StateMachine

/-!
# Transfers over whole runs

A run interleaves the calls of any agents with any changes of the journal.
`Change` lists what one call can do to one stored transfer; the laws of a step
are read off it, and the laws of a run follow by induction.
-/

namespace O3k
namespace Transfers

open Relational Operations Semantics

inductive TransferCall
  | insert (now : String) (transfer : ArtifactTransferRecord)
  | update (now transferId expectedAgentEpoch : String) (update : ArtifactTransferUpdate)
  | rebind (now transferId expectedAgentEpoch newAgentEpoch : String)
  | expire (now : String)
  -- the journal is written by others, in any way
  | journal (journal : OperationTables)

def TransferCall.presents : TransferCall → Option (String × String)
  | update _ id epoch _ => some (id, epoch)
  | rebind _ id epoch _ => some (id, epoch)
  | _ => none

/-- The foreign keys of a row. -/
def references (journal : OperationTables) (row : ArtifactTransferRow) : Bool :=
  (journal.operations.get? row.operationId).isSome &&
    (journal.resources.get? row.resourceId).isSome

namespace TransferTables

/-- The journal has changed; `ON DELETE CASCADE` removes the transfers of what
is no longer there. -/
def withJournal (t : TransferTables) (journal : OperationTables) : TransferTables :=
  ⟨journal, t.transfers.deleteWhere fun row => !references journal row⟩

/-- The reply to a call and the store after it. -/
def outcome (t : TransferTables) :
    TransferCall → Option (Except StoreError ArtifactTransferRecord) × TransferTables
  | .insert now transfer => ((t.insert now transfer).map some id)
  | .update now transferId epoch u => (t.update now transferId epoch u).map some id
  | .rebind now transferId expected new => (t.rebind now transferId expected new).map some id
  | .expire now => (none, (t.expireTransfersOfTerminalOperations now).2)
  | .journal journal => (none, t.withJournal journal)

def step (t : TransferTables) (call : TransferCall) : TransferTables := (t.outcome call).2

/-- What a call can do to the transfer stored under `id`. -/
inductive Change (id : String) :
    TransferCall → ArtifactTransferRecord → ArtifactTransferRecord → Prop
  | same (call : TransferCall) (r : ArtifactTransferRecord) :
      Change id call r r
  | advanced {r : ArtifactTransferRecord} {u : ArtifactTransferUpdate} (now : String)
      (haccepted : u.Accepted r) :
      Change id (.update now id r.agentEpoch u) r (r.advanced now u)
  | rebound {r : ArtifactTransferRecord} (now epoch : String) (hlive : r.state.isTerminal = false) :
      Change id (.rebind now id r.agentEpoch epoch) r (r.rebound now epoch)
  | expired {r : ArtifactTransferRecord} (now : String) (hlive : r.state.isTerminal = false) :
      Change id (.expire now) r (r.expired now)

variable {t : TransferTables}

theorem Stored.put {id : String} {old r : ArtifactTransferRecord}
    (h : t.Stored id old) (new : ArtifactTransferRecord) (hr : t.Stored r.transferId r)
    (hid : new.transferId = r.transferId) (hvalid : new.Valid) :
    (r.transferId ≠ id ∧ (t.putTransfer new.encode).Stored id old) ∨
      (r = old ∧ r.transferId = id ∧ (t.putTransfer new.encode).Stored id new) := by
  by_cases heq : r.transferId = id
  · have hnew := stored_putTransfer_self t hvalid
    rw [hid, heq] at hnew
    exact Or.inr ⟨(heq ▸ hr).unique h, heq, hnew⟩
  · exact Or.inl ⟨heq, stored_putTransfer_of_ne (hid ▸ heq) h⟩

/-- A stored transfer stays stored, changed by one of the changes; only the
journal can take it away. -/
theorem stored_step
    (h : t.Readable) {id : String} {old : ArtifactTransferRecord} (hold : t.Stored id old)
    (call : TransferCall) :
    (∃ new, (t.step call).Stored id new ∧ Change id call old new) ∨
      (∃ journal, call = .journal journal ∧ (t.step call).transfers.get? id = none) := by
  cases call with
  | insert now transfer =>
    left
    refine ⟨old, ?_, .same _ _⟩
    show (t.insert now transfer).2.Stored id old
    rcases t.insert_cases now transfer with hsame | ⟨habsent, _, hinsert⟩
    · rwa [hsame]
    · rw [hinsert]
      refine stored_putTransfer_of_ne ?_ hold
      rintro rfl
      cases habsent.symm.trans hold.1
  | update now id' epoch u =>
    left
    have hstep : t.step (.update now id' epoch u) = (t.update now id' epoch u).2 := rfl
    rw [hstep]
    rcases t.update_cases now id' epoch u with ⟨hsame, _⟩ | ⟨r, hr, rfl, haccepted, hupdate⟩
    · exact ⟨old, by rwa [hsame], .same _ _⟩
    · rw [hupdate]
      obtain rfl := hr.transferId
      rcases hold.put (r.advanced now u) hr rfl (hr.2.advanced now haccepted) with
        ⟨_, hkept⟩ | ⟨rfl, rfl, hnew⟩
      · exact ⟨old, hkept, .same _ _⟩
      · exact ⟨_, hnew, .advanced now haccepted⟩
  | rebind now id' expected epoch =>
    left
    have hstep : t.step (.rebind now id' expected epoch) = (t.rebind now id' expected epoch).2 :=
      rfl
    rw [hstep]
    rcases h.rebind_cases now id' expected epoch with
      ⟨hsame, _⟩ | ⟨r, hr, rfl, hlive, htext, hrebind⟩
    · exact ⟨old, by rwa [hsame], .same _ _⟩
    · rw [hrebind]
      obtain rfl := hr.transferId
      rcases hold.put (r.rebound now epoch) hr rfl (hr.2.rebound now htext) with
        ⟨_, hkept⟩ | ⟨rfl, rfl, hnew⟩
      · exact ⟨old, hkept, .same _ _⟩
      · exact ⟨_, hnew, .rebound now epoch hlive⟩
  | expire now =>
    left
    rcases hold.expireTransfersOfTerminalOperations now with hsame | ⟨hlive, hexpired⟩
    · exact ⟨old, hsame, .same _ _⟩
    · exact ⟨_, hexpired, .expired now hlive⟩
  | journal journal =>
    have hget :
        (t.step (.journal journal)).transfers.get? id
          =
        (t.transfers.get? id).filter (fun row => !!references journal row) :=
      t.transfers.get?_deleteWhere _ _
    rw [hold.1, Option.filter_some] at hget
    split_ifs at hget
    · exact Or.inl ⟨old, ⟨hget, hold.2⟩, .same _ _⟩
    · exact Or.inr ⟨journal, rfl, hget⟩

theorem Readable.step (h : t.Readable) (call : TransferCall) : (t.step call).Readable := by
  cases call with
  | insert now transfer =>
    show (t.insert now transfer).2.Readable
    rcases t.insert_cases now transfer with hsame | ⟨_, hvalid, hinsert⟩
    · rwa [hsame]
    · rw [hinsert]
      exact h.putTransfer (hvalid.offeredAt now)
  | update now id epoch u =>
    show (t.update now id epoch u).2.Readable
    rcases t.update_cases now id epoch u with
      ⟨hsame, _⟩ | ⟨r, hr, _, haccepted, hupdate⟩
    · rwa [hsame]
    · rw [hupdate]
      exact h.putTransfer (hr.2.advanced now haccepted)
  | rebind now id expected epoch =>
    show (t.rebind now id expected epoch).2.Readable
    rcases h.rebind_cases now id expected epoch with
      ⟨hsame, _⟩ | ⟨r, hr, _, _, htext, hrebind⟩
    · rwa [hsame]
    · rw [hrebind]
      exact h.putTransfer (hr.2.rebound now htext)
  | expire now => exact h.expireTransfersOfTerminalOperations now
  | journal journal =>
    intro row hrow
    exact h row (t.transfers.mem_deleteWhere.mp hrow).1

end TransferTables

/-- How far a state is on the way from an offer to an end. -/
def ArtifactTransferState.rank : ArtifactTransferState → Nat
  | offered => 0
  | receiving => 1
  | committed | rejected | expired => 2

theorem ArtifactTransferState.rank_le (state : ArtifactTransferState) : state.rank ≤ 2 := by
  cases state <;> decide

theorem ArtifactTransferState.rank_of_live {state : ArtifactTransferState}
    (h : state.isTerminal = false) :
    state.rank < 2 := by
  cases state <;> first | decide | exact absurd h (by decide)

theorem ArtifactTransferState.rank_of_ne_offered {state : ArtifactTransferState}
    (h : state ≠ .offered) :
    1 ≤ state.rank := by
  cases state <;> first | decide | exact absurd rfl h

namespace ArtifactTransferRecord

def SameProgress (r r' : ArtifactTransferRecord) : Prop :=
  r'.contiguousBytes = r.contiguousBytes ∧
    r'.nextChunkIndex = r.nextChunkIndex ∧
    r'.retryCount = r.retryCount

/-- How the record of one transfer develops: progress and state go forward, an
ended transfer is never touched, and what was offered stays. -/
structure Evolves (r r' : ArtifactTransferRecord) : Prop where
  bytes : r.contiguousBytes ≤ r'.contiguousBytes
  chunks : r.nextChunkIndex ≤ r'.nextChunkIndex
  retries : r.retryCount ≤ r'.retryCount
  order : r.state.rank ≤ r'.state.rank
  ended : r.state.isTerminal = true → r' = r
  offer : sameIdentity { r' with agentEpoch := r.agentEpoch } r = true

end ArtifactTransferRecord

namespace TransferTables

section Change

variable {id : String} {call : TransferCall} {old new : ArtifactTransferRecord}

theorem Change.evolves (h : Change id call old new) : old.Evolves new := by
  cases h with
  | same => exact ⟨le_rfl, le_rfl, le_rfl, le_rfl, fun _ => rfl, by simp [sameIdentity]⟩
  | @advanced r u now haccepted =>
    refine ⟨haccepted.bytes.1, haccepted.chunks.1, haccepted.retries.1, ?_, ?_,
      by simp [sameIdentity, ArtifactTransferRecord.advanced]⟩
    · show old.state.rank ≤ u.state.rank
      by_cases hstate : u.state = .offered
      · rw [hstate, haccepted.order hstate]
      · have hlive := ArtifactTransferState.rank_of_live haccepted.live
        have hlater := ArtifactTransferState.rank_of_ne_offered hstate
        omega
    · exact fun hended => by cases haccepted.live.symm.trans hended
  | rebound now epoch hlive =>
    exact ⟨le_rfl, le_rfl, le_rfl, le_rfl, fun hended => (by cases hlive.symm.trans hended),
      by simp [sameIdentity, ArtifactTransferRecord.rebound]⟩
  | expired now hlive =>
    exact ⟨le_rfl, le_rfl, le_rfl, old.state.rank_le,
      fun hended => (by cases hlive.symm.trans hended),
      by simp [sameIdentity, ArtifactTransferRecord.expired]⟩

theorem Change.progress (h : Change id call old new) (hprogress : ¬ old.SameProgress new) :
    ∃ now u, call = .update now id old.agentEpoch u := by
  cases h with
  | same => exact absurd ⟨rfl, rfl, rfl⟩ hprogress
  | advanced now _ => exact ⟨now, _, rfl⟩
  | rebound => exact absurd ⟨rfl, rfl, rfl⟩ hprogress
  | expired => exact absurd ⟨rfl, rfl, rfl⟩ hprogress

theorem Change.epoch (h : Change id call old new) (hepoch : new.agentEpoch ≠ old.agentEpoch) :
    ∃ now, call = .rebind now id old.agentEpoch new.agentEpoch := by
  cases h with
  | same => exact absurd rfl hepoch
  | advanced => exact absurd rfl hepoch
  | rebound now => exact ⟨now, rfl⟩
  | expired => exact absurd rfl hepoch

end Change

theorem step_of_stale_epoch {t : TransferTables}
    (h : t.Readable) {id epoch : String} {r : ArtifactTransferRecord} (hr : t.Stored id r)
    {call : TransferCall} (hpresents : call.presents = some (id, epoch))
    (hstale : epoch ≠ r.agentEpoch) :
    t.step call = t := by
  cases call with
  | update now id' epoch' u =>
    cases hpresents
    rcases t.update_cases now id epoch u with ⟨hsame, _⟩ | ⟨r', hr', hepoch, _⟩
    · exact hsame
    · exact absurd (hr'.unique hr ▸ hepoch.symm) hstale
  | rebind now id' expected new =>
    cases hpresents
    rcases h.rebind_cases now id epoch new with ⟨hsame, _⟩ | ⟨r', hr', hepoch, _⟩
    · exact hsame
    · exact absurd (hr'.unique hr ▸ hepoch.symm) hstale
  | insert => cases hpresents
  | expire => cases hpresents
  | journal => cases hpresents

theorem rebind_ok {t t' : TransferTables}
    (h : t.Readable) {now id expected new : String} {r : ArtifactTransferRecord}
    (hrebind : t.rebind now id expected new = (.ok r, t')) (hne : expected ≠ new) :
    t'.Stored id r ∧ r.agentEpoch = new := by
  rcases h.rebind_cases now id expected new with ⟨_, herror⟩ | ⟨current, hr, _, _, htext, hnew⟩
  · obtain ⟨e, herror⟩ := herror hne
    rw [hrebind] at herror
    cases herror
  · cases hrebind.symm.trans hnew
    have hafter := stored_putTransfer_self t (hr.2.rebound now htext)
    exact ⟨hr.transferId ▸ hafter, rfl⟩

end TransferTables

end Transfers
end O3k
