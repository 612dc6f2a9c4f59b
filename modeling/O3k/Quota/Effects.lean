import O3k.Quota.Store

/-!
# What the quota calls do

One lemma for each call: what it reads, what it may answer, and which rows it
leaves behind.
-/

namespace O3k
namespace Quota

open Relational Relational.Transaction

section Checks

theorem checkedAdd_eq_ok {a b c : Nat} {e : StoreError} (h : checkedAdd a b e = .ok c) :
    c = a + b := by
  unfold checkedAdd at h
  split at h
  · cases h
    rfl
  · cases h

theorem evaluateLimit_eq_ok {req : ResourceAmount} {max inUse reserved : Nat}
    (h : evaluateLimit req max inUse reserved = .ok ()) :
    inUse + reserved + req.amount ≤ max := by
  obtain ⟨used, hused, h⟩ := except_bind_eq_ok.mp h
  obtain ⟨total, htotal, h⟩ := except_bind_eq_ok.mp h
  rw [← checkedAdd_eq_ok hused, ← checkedAdd_eq_ok htotal]
  split at h
  · assumption
  · cases h

theorem validateAmounts_eq_ok {seen : List LimitKey} {amounts : List ResourceAmount}
    (h : validateAmounts seen amounts = .ok ()) :
    (amounts.map ResourceAmount.key).Nodup ∧ ∀ a ∈ amounts, a.key ∉ seen := by
  induction amounts generalizing seen with
  | nil => simp
  | cons req rest ih =>
    unfold validateAmounts at h
    split at h
    · cases h
    · split at h
      · cases h
      · split at h
        · cases h
        · rename_i hseen
          obtain ⟨hnodup, hfresh⟩ := ih h
          refine ⟨List.nodup_cons.mpr ⟨?_, hnodup⟩, List.forall_mem_cons.mpr ⟨hseen, ?_⟩⟩
          · intro hmem
            obtain ⟨a, ha, hkey⟩ := List.mem_map.mp hmem
            exact hfresh a ha (hkey ▸ List.mem_cons_self)
          · exact fun a ha hin => hfresh a ha (List.mem_cons_of_mem _ hin)

theorem insertPgAmounts_eq_ok {seen : List LimitKey} {amounts : List ResourceAmount}
    (h : insertPgAmounts seen amounts = .ok ()) :
    (amounts.map ResourceAmount.key).Nodup ∧ ∀ a ∈ amounts, a.key ∉ seen := by
  induction amounts generalizing seen with
  | nil => simp
  | cons req rest ih =>
    unfold insertPgAmounts at h
    split at h
    · cases h
    · split at h
      · cases h
      · rename_i hseen
        obtain ⟨hnodup, hfresh⟩ := ih h
        refine ⟨List.nodup_cons.mpr ⟨?_, hnodup⟩, List.forall_mem_cons.mpr ⟨hseen, ?_⟩⟩
        · intro hmem
          obtain ⟨a, ha, hkey⟩ := List.mem_map.mp hmem
          exact hfresh a ha (hkey ▸ List.mem_cons_self)
        · exact fun a ha hin => hfresh a ha (List.mem_cons_of_mem _ hin)

end Checks

namespace QuotaStore

variable {s s' : QuotaStore} {scope : OwnershipScope} {key : LimitKey} {r : Reservation}

theorem queryReservationByOp_mem {operationId : String}
    (h : s.queryReservationByOp operationId = some r) :
    r ∈ s.reservations.rows ∧ r.operationId = operationId :=
  ⟨List.mem_of_find?_eq_some h, of_decide_eq_true (List.find?_some h :)⟩

theorem queryReservationByOp_none {operationId : String}
    (h : s.queryReservationByOp operationId = none) (hr : r ∈ s.reservations.rows) :
    r.operationId ≠ operationId := by
  intro heq
  exact List.find?_eq_none.mp h r hr (decide_eq_true heq)

theorem queryReservedUsage_eq_ok {excludeOp : Option String} {reserved : Nat}
    (h : s.queryReservedUsage scope key excludeOp = .ok reserved)
    (hexclude : ∀ r ∈ s.reservations.rows, r.scope = scope → excludeOp ≠ some r.operationId) :
    s.reservations.sumBy (pendingAmount scope key) ≤ reserved := by
  unfold queryReservedUsage at h
  dsimp only at h
  split at h
  · cases h
    refine s.reservations.sumBy_le_sumBy fun r hr => ?_
    by_cases hscope : r.scope = scope
    · rw [if_neg (hexclude r hr hscope)]
    · simp [pendingAmount, hscope]
  · cases h

/-- Room for a request beside all that is consumed and pending. -/
def HasRoom (s : QuotaStore) (scope : OwnershipScope) (req : ResourceAmount) : Prop :=
  (s.queryLimit scope req.key).Allows
    (s.resources.consumed scope req.key +
      s.reservations.sumBy (pendingAmount scope req.key) + req.amount)

theorem checkHeadroom_eq_ok {req : ResourceAmount} (h : s.checkHeadroom scope req = .ok ()) :
    s.HasRoom scope req := by
  unfold checkHeadroom at h
  unfold HasRoom
  cases hlimit : s.queryLimit scope req.key with
  | unlimited => trivial
  | maximum max =>
    rw [hlimit] at h
    obtain ⟨inUse, hinUse, h⟩ := except_bind_eq_ok.mp h
    obtain ⟨reserved, hreserved, h⟩ := except_bind_eq_ok.mp h
    have hconsumed := ResourceTables.consumed_le_of_queryInUseUsage hinUse
    have hpending := queryReservedUsage_eq_ok hreserved (by simp)
    have htotal := evaluateLimit_eq_ok h
    show _ ≤ max
    omega

theorem insertReservation?_eq_some (h : s.insertReservation? r = some s') :
    s.reservations.get? r.id = none ∧ s.queryReservationByOp r.operationId = none ∧
      s' = { s with reservations := s.reservations.put r } := by
  unfold insertReservation? at h
  split at h
  · cases h
  · rename_i hop
    obtain ⟨reservations, hinsert, hs'⟩ := Option.map_eq_some_iff.mp h
    obtain ⟨habsent, hput⟩ := (Table.insert?_eq_some_iff _ _).mp hinsert
    refine ⟨habsent, ?_, ?_⟩
    · exact Option.not_isSome_iff_eq_none.mp hop
    · rw [← hs', hput]

theorem limitRowKey_inj {scope scope' : OwnershipScope} {key key' : LimitKey}
    (h : limitRowKey scope key = limitRowKey scope' key') :
    scope = scope' ∧ key = key' := by
  obtain ⟨id, kind⟩ := scope
  obtain ⟨id', kind'⟩ := scope'
  obtain ⟨ns, resource⟩ := key
  obtain ⟨ns', resource'⟩ := key'
  simp only [limitRowKey, toLex_inj, Prod.mk.injEq] at h
  obtain ⟨rfl, hkind, rfl, rfl⟩ := h
  have hsame : kind = kind' := by
    cases kind <;> cases kind' <;> first | rfl | exact absurd hkind (by decide)
  exact ⟨hsame ▸ rfl, rfl⟩

theorem setLimit_snd
    (s : QuotaStore) (scope : OwnershipScope) (key : LimitKey) (limit : LimitValue) :
    (s.setLimit scope key limit).2 = s ∨
      (s.setLimit scope key limit).2 = s.upsertLimit scope key limit := by
  unfold setLimit
  split
  · exact .inl rfl
  · cases limit with
    | unlimited => exact .inr rfl
    | maximum max =>
      dsimp only
      split
      · exact .inl rfl
      · exact .inr rfl

theorem notAbove_upsertLimit
    (s : QuotaStore) {scope : OwnershipScope} {key : LimitKey} {limit : LimitValue}
    (hraise : (s.queryLimit scope key).NotAbove limit) (scope' : OwnershipScope) (key' : LimitKey) :
    (s.queryLimit scope' key').NotAbove
      ((s.upsertLimit scope key limit).queryLimit scope' key') := by
  have hrow :
      (s.upsertLimit scope key limit).limits.get? (limitRowKey scope' key')
        =
      if limitRowKey scope key = limitRowKey scope' key' then
        some
          ⟨scope, key, limit,
            ((s.limits.get? (limitRowKey scope key)).map QuotaLimitRow.generation).getD 0 + 1⟩
      else
        s.limits.get? (limitRowKey scope' key') :=
    s.limits.get?_put _ _
  unfold queryLimit at hraise ⊢
  rw [hrow]
  split
  · rename_i hkey
    obtain ⟨rfl, rfl⟩ := limitRowKey_inj hkey
    exact hraise
  · exact LimitValue.NotAbove.refl _

end QuotaStore

/-- An answer of SQLite: an error, the reservation of a retried operation, or a
new reservation with room in every dimension. -/
theorem reserveQuota_cases (request : ReserveRequest) (s : QuotaStore) :
    (∃ e, reserveQuota request s = (.error e, s)) ∨
    (∃ existing,
      s.queryReservationByOp request.operationId = some existing ∧ existing.scope = request.scope ∧
        reserveQuota request s = (.ok existing, s)) ∨
    (∃ s',
      s.insertReservation? request.reservation = some s' ∧
        (request.amounts.map ResourceAmount.key).Nodup ∧
        (∀ req ∈ request.amounts, s.HasRoom request.scope req) ∧
        reserveQuota request s = (.ok request.reservation, s')) := by
  unfold reserveQuota
  cases hbody : reserveQuotaInner request s with
  | error e => exact .inl ⟨e, atomically_of_error hbody⟩
  | ok result =>
    obtain ⟨_, hvalid, hrest⟩ := fromExcept_bind_eq_ok.mp hbody
    rw [get_bind_apply] at hrest
    cases hexisting : s.queryReservationByOp request.operationId with
    | some existing =>
      rw [hexisting] at hrest
      obtain ⟨answer, hreplay, hresult⟩ := fromExcept_eq_ok.mp hrest
      unfold replayReservation at hreplay
      split at hreplay
      · cases hreplay
      · split at hreplay
        · rename_i hmatch
          cases hreplay
          refine .inr (.inl ⟨existing, rfl, ?_, ?_⟩)
          · obtain ⟨hid, hkind, _⟩ := hmatch
            cases hscope : existing.scope
            cases hscope' : request.scope
            simp_all
          · rw [atomically_of_ok hbody, hresult]
        · cases hreplay
    | none =>
      rw [hexisting] at hrest
      obtain ⟨_, _, hchecks, hrest⟩ := bind_eq_ok.mp hrest
      obtain ⟨hsame, hroom⟩ := forEach_fromExcept hchecks
      cases hsame
      obtain ⟨s', hinsert, hrest⟩ := orFail_bind_eq_ok.mp hrest
      rw [set_bind_apply] at hrest
      cases hrest
      refine .inr (.inr ⟨s', hinsert, (validateAmounts_eq_ok hvalid).1, ?_, ?_⟩)
      · exact fun req hreq => QuotaStore.checkHeadroom_eq_ok (hroom req hreq)
      · rw [atomically_of_ok hbody]

theorem statement_finished {tx : PgReserve} {s s' : QuotaStore}
    {reply : Except StoreError Reservation} (h : tx.statement s = .finished reply s') :
    ((∃ e, reply = .error e) ∧ s' = s) ∨
    (∃ existing,
      tx.phase = .lookup ∧ s.queryReservationByOp tx.request.operationId = some existing ∧
        existing.state ≠ .released ∧
        amountsMatch existing.amounts tx.request.amounts = true ∧
        reply = .ok { existing with scope := tx.request.scope } ∧
        s' = s) ∨
    (tx.phase = .evaluate [] ∧
      s.insertReservation? tx.request.reservation = some s' ∧
      (tx.request.amounts.map ResourceAmount.key).Nodup ∧
      reply = .ok tx.request.reservation) := by
  obtain ⟨request, phase⟩ := tx
  unfold PgReserve.statement at h
  cases phase with
  | lookup =>
    dsimp only at h
    cases hexisting : s.queryReservationByOp request.operationId with
    | none =>
      rw [hexisting] at h
      cases h
    | some existing =>
      rw [hexisting] at h
      obtain ⟨hreply, hs'⟩ := PgOutcome.finished.inj h
      unfold replayPgReservation at hreply
      split at hreply
      · exact .inl ⟨⟨_, hreply.symm⟩, hs'.symm⟩
      · rename_i hstate
        split at hreply
        · rename_i hmatch
          exact .inr (.inl ⟨existing, rfl, rfl, hstate, hmatch, hreply.symm, hs'.symm⟩)
        · exact .inl ⟨⟨_, hreply.symm⟩, hs'.symm⟩
  | evaluate rest =>
    cases rest with
    | nil =>
      have hends :
          PgOutcome.finished
              (atomically (insertPgReservation request) s).1
              (atomically (insertPgReservation request) s).2 = .finished reply s' :=
        h
      cases hbody : insertPgReservation request s with
      | error e =>
        rw [atomically_of_error hbody] at hends
        obtain ⟨hreply, hs'⟩ := PgOutcome.finished.inj hends
        exact .inl ⟨⟨e, hreply.symm⟩, hs'.symm⟩
      | ok result =>
        have hinsertion := hbody
        unfold insertPgReservation at hinsertion
        rw [get_bind_apply] at hinsertion
        obtain ⟨s₁, hinsert, hinsertion⟩ := orFail_bind_eq_ok.mp hinsertion
        obtain ⟨_, hamounts, hinsertion⟩ := fromExcept_bind_eq_ok.mp hinsertion
        rw [set_bind_apply] at hinsertion
        cases hinsertion
        rw [atomically_of_ok hbody] at hends
        obtain ⟨hreply, hs'⟩ := PgOutcome.finished.inj hends
        cases hs'
        exact .inr (.inr ⟨rfl, hinsert, (insertPgAmounts_eq_ok hamounts).1, hreply.symm⟩)
    | cons req rest =>
      cases hlimit : s.queryLimit request.scope req.key <;>
        · dsimp only at h
          rw [hlimit] at h
          cases h
  | inUse req rest max =>
    dsimp only at h
    cases hread : s.resources.queryInUseUsage request.scope req.key with
    | ok inUse =>
      rw [hread] at h
      cases h
    | error e =>
      rw [hread] at h
      obtain ⟨hreply, hs'⟩ := PgOutcome.finished.inj h
      exact .inl ⟨⟨e, hreply.symm⟩, hs'.symm⟩
  | reserved req rest max inUse =>
    dsimp only at h
    cases hread :
        s.queryReservedUsage request.scope req.key (some request.operationId) with
    | error e =>
      rw [hread] at h
      obtain ⟨hreply, hs'⟩ := PgOutcome.finished.inj h
      exact .inl ⟨⟨e, hreply.symm⟩, hs'.symm⟩
    | ok reserved =>
      rw [hread] at h
      cases hlimit : evaluateLimit req max inUse reserved with
      | ok _ =>
        simp only [hlimit] at h
        cases h
      | error e =>
        simp only [hlimit] at h
        obtain ⟨hreply, hs'⟩ := PgOutcome.finished.inj h
        exact .inl ⟨⟨e, hreply.symm⟩, hs'.symm⟩

/-- What one statement of an open reserve transaction reads on the way from one
phase to the next. -/
inductive Reads (s : QuotaStore) (request : ReserveRequest) :
    PgReservePhase → PgReservePhase → Prop
  | absent (h : s.queryReservationByOp request.operationId = none) :
      Reads s request .lookup (.evaluate request.amounts)
  | unlimited {req : ResourceAmount} {rest : List ResourceAmount}
      (h : s.queryLimit request.scope req.key = .unlimited) :
      Reads s request (.evaluate (req :: rest)) (.evaluate rest)
  | limit {req : ResourceAmount} {rest : List ResourceAmount} {max : Nat}
      (h : s.queryLimit request.scope req.key = .maximum max) :
      Reads s request (.evaluate (req :: rest)) (.inUse req rest max)
  | inUse {req : ResourceAmount} {rest : List ResourceAmount} {max inUse : Nat}
      (h : s.resources.queryInUseUsage request.scope req.key = .ok inUse) :
      Reads s request (.inUse req rest max) (.reserved req rest max inUse)
  | reserved {req : ResourceAmount} {rest : List ResourceAmount} {max inUse reserved : Nat}
      (h : s.queryReservedUsage request.scope req.key (some request.operationId) = .ok reserved)
      (hroom : inUse + reserved + req.amount ≤ max) :
      Reads s request (.reserved req rest max inUse) (.evaluate rest)

theorem statement_next {tx tx' : PgReserve} {s : QuotaStore} (h : tx.statement s = .next tx') :
    tx'.request = tx.request ∧ Reads s tx.request tx.phase tx'.phase := by
  obtain ⟨request, phase⟩ := tx
  unfold PgReserve.statement at h
  cases phase with
  | lookup =>
    dsimp only at h
    cases hexisting : s.queryReservationByOp request.operationId with
    | none =>
      rw [hexisting] at h
      cases h
      exact ⟨rfl, .absent hexisting⟩
    | some existing =>
      rw [hexisting] at h
      cases h
  | evaluate rest =>
    cases rest with
    | nil => cases h
    | cons req rest =>
      dsimp only at h
      cases hlimit : s.queryLimit request.scope req.key with
      | unlimited =>
        rw [hlimit] at h
        cases h
        exact ⟨rfl, .unlimited hlimit⟩
      | maximum max =>
        rw [hlimit] at h
        cases h
        exact ⟨rfl, .limit hlimit⟩
  | inUse req rest max =>
    dsimp only at h
    cases hread : s.resources.queryInUseUsage request.scope req.key with
    | ok inUse =>
      rw [hread] at h
      cases h
      exact ⟨rfl, .inUse hread⟩
    | error e =>
      rw [hread] at h
      cases h
  | reserved req rest max inUse =>
    dsimp only at h
    cases hread :
        s.queryReservedUsage request.scope req.key (some request.operationId) with
    | error e =>
      rw [hread] at h
      cases h
    | ok reserved =>
      rw [hread] at h
      cases hlimit : evaluateLimit req max inUse reserved with
      | ok _ =>
        simp only [hlimit] at h
        cases h
        exact ⟨rfl, .reserved hread (evaluateLimit_eq_ok hlimit)⟩
      | error e =>
        simp only [hlimit] at h
        cases h

end Quota
end O3k
