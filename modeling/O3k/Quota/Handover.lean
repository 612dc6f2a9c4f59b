import O3k.Quota.Admission

/-!
# The hand-over from reserved to consumed

The invariant of the admission machine, and the steps of the clients.  Creating
a row moves its amount from the outstanding reservations to what is consumed,
committing moves nothing, releasing gives the amount back.  What matters of
these steps, for the bound and for a reserve that is reading meanwhile, is
collected in `Quiet`.
-/

namespace O3k
namespace Quota

open Relational Semantics

namespace AdmissionState

/-- Room for an amount in a scope. -/
def HasHeadroom (st : AdmissionState) (scope : OwnershipScope) (a : ResourceAmount) : Prop :=
  (st.store.queryLimit scope a.key).Allows (st.load scope a.key + a.amount)

/-- The pending reservations whose row a reading reserve has not seen. -/
def unseen (st : AdmissionState) (seen : List String) (scope : OwnershipScope) (key : LimitKey) :
    Nat :=
  st.store.reservations.sumBy (outstandingAmount seen scope key)

/-- What an open reserve knows of its scope: every dimension it has evaluated
has room, and the usage it has read leaves out at most what it will find
reserved. -/
def PhaseSound (st : AdmissionState) (request : ReserveRequest) (seen : List String) :
    PgReservePhase → Prop
  | .lookup => True
  | .evaluate rest =>
    ∃ evaluated,
      request.amounts = evaluated ++ rest ∧
      ∀ a ∈ evaluated, st.HasHeadroom request.scope a
  | .inUse req rest max =>
    (∃ evaluated,
      request.amounts = evaluated ++ req :: rest ∧
      ∀ a ∈ evaluated, st.HasHeadroom request.scope a) ∧
    (LimitValue.maximum max).NotAbove (st.store.queryLimit request.scope req.key)
  | .reserved req rest max inUse =>
    (∃ evaluated,
      request.amounts = evaluated ++ req :: rest ∧
      ∀ a ∈ evaluated, st.HasHeadroom request.scope a) ∧
    (LimitValue.maximum max).NotAbove (st.store.queryLimit request.scope req.key) ∧
    st.load request.scope req.key ≤ inUse + st.unseen seen request.scope req.key

structure ReserveSound (st : AdmissionState) (scope : OwnershipScope) (r : Reserving) : Prop where
  scope_eq : r.tx.request.scope = scope
  seen_backed : ∀ id ∈ r.seen, id ∈ st.backed
  absent :
    r.tx.phase ≠ .lookup →
    ∀ row ∈ st.store.reservations.rows,
      row.scope = scope →
      row.operationId ≠ r.tx.request.operationId
  phase : st.PhaseSound r.tx.request r.seen r.tx.phase

structure Sound (backend : Backend) (st : AdmissionState) : Prop where
  within : st.WithinLastLimit
  granted :
    ∀ g ∈ st.grants, ∃ r,
      st.store.reservations.get? g.id = some r ∧
      r.scope = g.scope ∧
      ∀ key, amountOf r.amounts key = amountOf g.amounts key
  committed :
    ∀ r ∈ st.store.reservations.rows,
      r.state = .committed →
      r.id ∈ st.backed
  reserving : ∀ scope r, st.reserving scope = some r → st.ReserveSound scope r
  idle : backend = .sqlite → ∀ scope, st.reserving scope = none

/-- What the clients' steps have in common: no load grows, no limit falls, no
reservation appears or loses its scope and amounts, and a usage that was read
stays as good as it was. -/
structure Quiet (st st' : AdmissionState) : Prop where
  load : ∀ scope key, st'.load scope key ≤ st.load scope key
  limit :
    ∀ scope key,
      (st.store.queryLimit scope key).NotAbove (st'.store.queryLimit scope key)
  backed : ∀ id ∈ st.backed, id ∈ st'.backed
  rows :
    ∀ r' ∈ st'.store.reservations.rows,
      (∃ r ∈ st.store.reservations.rows, r.scope = r'.scope ∧ r.operationId = r'.operationId) ∧
      (r'.state = .committed → r'.id ∈ st'.backed)
  kept :
    ∀ id r, st.store.reservations.get? id = some r →
      ∃ r', st'.store.reservations.get? id = some r' ∧
        r'.scope = r.scope ∧ r'.amounts = r.amounts
  read :
    ∀ scope r req rest max inUse,
      st.reserving scope = some r →
      r.tx.phase = .reserved req rest max inUse →
      st'.load scope req.key + st.unseen r.seen scope req.key
        ≤
      st.load scope req.key + st'.unseen r.seen scope req.key
  grants : st'.grants = st.grants
  lastLimit : st'.lastLimit = st.lastLimit
  reserving : st'.reserving = st.reserving

variable {st st' : AdmissionState} {scope : OwnershipScope} {r : Reserving}

theorem HasHeadroom.mono {a : ResourceAmount}
    (h : st.HasHeadroom scope a) (hload : st'.load scope a.key ≤ st.load scope a.key)
    (hlimit : (st.store.queryLimit scope a.key).NotAbove (st'.store.queryLimit scope a.key)) :
    st'.HasHeadroom scope a :=
  (LimitValue.Allows.mono h (Nat.add_le_add_right hload _)).raise hlimit

theorem ReserveSound.mono
    (h : st.ReserveSound scope r) (hload : ∀ key, st'.load scope key ≤ st.load scope key)
    (hlimit : ∀ key, (st.store.queryLimit scope key).NotAbove (st'.store.queryLimit scope key))
    (hbacked : ∀ id ∈ st.backed, id ∈ st'.backed)
    (hrows :
      ∀ row' ∈ st'.store.reservations.rows, row'.scope = scope →
        ∃ row ∈ st.store.reservations.rows, row.scope = scope ∧ row.operationId = row'.operationId)
    (hread :
      ∀ req rest max inUse, r.tx.phase = .reserved req rest max inUse →
        st'.load scope req.key + st.unseen r.seen scope req.key ≤
        st.load scope req.key + st'.unseen r.seen scope req.key) :
    st'.ReserveSound scope r := by
  obtain ⟨hscope, hseen, habsent, hphase⟩ := h
  refine ⟨hscope, fun id hid => hbacked id (hseen id hid), ?_, ?_⟩
  · intro hlookup row' hrow' hrow'scope
    obtain ⟨row, hrow, hrowscope, hop⟩ := hrows row' hrow' hrow'scope
    rw [← hop]
    exact habsent hlookup row hrow hrowscope
  · obtain ⟨⟨request, phase⟩, seen⟩ := r
    dsimp only at hscope hphase hread ⊢
    subst hscope
    have hroom :
        ∀ evaluated : List ResourceAmount,
          (∀ a ∈ evaluated, st.HasHeadroom request.scope a) →
          ∀ a ∈ evaluated, st'.HasHeadroom request.scope a :=
      fun evaluated hall a ha => (hall a ha).mono (hload a.key) (hlimit a.key)
    cases phase with
    | lookup => trivial
    | evaluate rest =>
      obtain ⟨evaluated, hamounts, hall⟩ := hphase
      exact ⟨evaluated, hamounts, hroom evaluated hall⟩
    | inUse req rest max =>
      obtain ⟨⟨evaluated, hamounts, hall⟩, hmax⟩ := hphase
      exact ⟨⟨evaluated, hamounts, hroom evaluated hall⟩, hmax.trans (hlimit req.key)⟩
    | reserved req rest max inUse =>
      obtain ⟨⟨evaluated, hamounts, hall⟩, hmax, husage⟩ := hphase
      refine
        ⟨⟨evaluated, hamounts, hroom evaluated hall⟩, hmax.trans (hlimit req.key), ?_⟩
      have hkeeps := hread req rest max inUse rfl
      omega

variable {backend : Backend}

/-- **Step lemma**: a quiet step keeps the invariant. -/
theorem Sound.of_quiet (h : st.Sound backend) (hquiet : st.Quiet st') :
    st'.Sound backend where
  within := by
    intro scope key limit hlast
    rw [hquiet.lastLimit] at hlast
    exact (h.within scope key limit hlast).mono (hquiet.load scope key)
  granted := by
    intro g hg
    rw [hquiet.grants] at hg
    obtain ⟨r, hget, hscope, hamounts⟩ := h.granted g hg
    obtain ⟨r', hget', hscope', hamounts'⟩ := hquiet.kept g.id r hget
    exact ⟨r', hget', hscope'.trans hscope, fun key => hamounts' ▸ hamounts key⟩
  committed := fun r' hr' => (hquiet.rows r' hr').2
  reserving := by
    intro scope r hr
    rw [hquiet.reserving] at hr
    refine
      (h.reserving scope r hr).mono (hquiet.load scope) (hquiet.limit scope)
        hquiet.backed ?_ ?_
    · intro row' hrow' hscope
      obtain ⟨row, hrow, hrowscope, hop⟩ := (hquiet.rows row' hrow').1
      exact ⟨row, hrow, hrowscope.trans hscope, hop⟩
    · exact fun req rest max inUse => hquiet.read scope r req rest max inUse hr
  idle := fun hbackend scope => hquiet.reserving ▸ h.idle hbackend scope

variable {reservationId : String}

/-- The row behind a reservation takes its amount over. -/
theorem quiet_createResource {resources : ResourceTables}
    (h : st.Sound backend) (hrules : ClientRules st (.createResource reservationId resources)) :
    st.Quiet (step backend st (.createResource reservationId resources)) := by
  obtain ⟨grant, hgrant, rfl, hunbacked, hunreleased, hconsumed⟩ := hrules
  obtain ⟨row, hget, hscope, hamounts⟩ := h.granted grant hgrant
  have hrow := st.store.reservations.mem_of_get? hget
  have hid : row.id = grant.id := st.store.reservations.key_of_get? hget
  have hpending : row.state = .pending := by
    cases hstate : row.state with
    | pending => rfl
    | committed => exact absurd (hid ▸ h.committed row hrow hstate) hunbacked
    | released => exact absurd hstate (hunreleased row hget)
  have hmoves :
      ∀ scope key,
        st.store.reservations.sumBy (outstandingAmount (grant.id :: st.backed) scope key)
            + pendingAmount scope key row = st.outstanding scope key := by
    intro scope key
    have hsum :=
      st.store.reservations.sumBy_add_of_agree
        (f := outstandingAmount (grant.id :: st.backed) scope key)
        (g := outstandingAmount st.backed scope key)
        hrow
        (by
          intro x _ hne
          have hother : x.id ≠ grant.id := fun heq => hne (heq.trans hid.symm)
          simp [outstandingAmount, hother])
    simpa [outstandingAmount, hid, hunbacked, AdmissionState.outstanding] using hsum
  have hload :
      ∀ scope key,
        (step backend st (.createResource grant.id resources)).load scope key
          ≤
        st.load scope key := by
    intro scope key
    have hmove := hmoves scope key
    have hgrow := hconsumed scope key
    have hheld :
        pendingAmount scope key row
          =
        if scope = grant.scope then amountOf grant.amounts key else 0 := by
      simp [pendingAmount, hpending, hscope, hamounts, eq_comm]
    show resources.consumed scope key +
        st.store.reservations.sumBy (outstandingAmount (grant.id :: st.backed) scope key)
      ≤
      st.consumed scope key + st.outstanding scope key
    omega
  refine
    { load := hload
      limit := fun scope key => LimitValue.NotAbove.refl _
      backed := fun id hbacked => List.mem_cons_of_mem _ hbacked
      rows := ?_
      kept := fun id r hr => ⟨r, hr, rfl, rfl⟩
      read := ?_
      grants := rfl
      lastLimit := rfl
      reserving := rfl }
  · intro r' hr'
    exact
      ⟨⟨r', hr', rfl, rfl⟩,
        fun hcommitted => List.mem_cons_of_mem _ (h.committed r' hr' hcommitted)⟩
  · intro scope r req _ _ _ _ _
    exact Nat.add_le_add_right (hload scope req.key) _

theorem Quiet.refl (h : st.Sound backend) :
    st.Quiet st where
  load := fun _ _ => Nat.le_refl _
  limit := fun _ _ => LimitValue.NotAbove.refl _
  backed := fun _ hbacked => hbacked
  rows := fun r hr => ⟨⟨r, hr, rfl, rfl⟩, h.committed r hr⟩
  kept := fun _ r hr => ⟨r, hr, rfl, rfl⟩
  read := fun _ _ _ _ _ _ _ _ => Nat.le_refl _
  grants := rfl
  lastLimit := rfl
  reserving := rfl

def setState (st : AdmissionState) (row : Reservation) (state : ReservationState) :
    AdmissionState :=
  { st with store := st.store.setState row state }

variable {row : Reservation}

theorem sumBy_setState (hget : st.store.reservations.get? row.id = some row)
    (state : ReservationState) (f : Reservation → Nat) :
    (st.setState row state).store.reservations.sumBy f + f row =
    st.store.reservations.sumBy f + f { row with state := state } := by
  have hput := st.store.reservations.sumBy_put_add f { row with state := state }
  rw [hget, Option.elim_some] at hput
  exact hput

theorem quiet_setState {state : ReservationState}
    (h : st.Sound backend) (hget : st.store.reservations.get? row.id = some row)
    (hstate : state ≠ .pending) (hcommitted : state = .committed → row.id ∈ st.backed)
    (hread :
      ∀ scope r req rest max inUse, st.reserving scope = some r →
        r.tx.phase = .reserved req rest max inUse →
        outstandingAmount r.seen scope req.key row ≤
        outstandingAmount st.backed scope req.key row) :
    st.Quiet (st.setState row state) := by
  have hzero :
      ∀ backed scope key,
        outstandingAmount backed scope key { row with state := state } = 0 := by
    intro backed scope key
    simp [outstandingAmount, pendingAmount, hstate]
  have hsum :
      ∀ backed scope key,
        (st.setState row state).unseen backed scope key +
            outstandingAmount backed scope key row = st.unseen backed scope key := by
    intro backed scope key
    have hexchange := sumBy_setState hget state (outstandingAmount backed scope key)
    rwa [hzero, Nat.add_zero] at hexchange
  have hload :
      ∀ scope key,
        (st.setState row state).load scope key + outstandingAmount st.backed scope key row
          =
        st.load scope key := by
    intro scope key
    exact (Nat.add_assoc _ _ _).trans (congrArg _ (hsum st.backed scope key))
  refine
    { load := fun scope key => Nat.le.intro (hload scope key)
      limit := fun _ _ => LimitValue.NotAbove.refl _
      backed := fun _ hbacked => hbacked
      rows := ?_
      kept := ?_
      read := ?_
      grants := rfl
      lastLimit := rfl
      reserving := rfl }
  · intro r' hr'
    rcases (st.store.reservations.mem_put).mp hr' with rfl | ⟨hr', _⟩
    · exact ⟨⟨row, st.store.reservations.mem_of_get? hget, rfl, rfl⟩, hcommitted⟩
    · exact ⟨⟨r', hr', rfl, rfl⟩, h.committed r' hr'⟩
  · intro id r hr
    by_cases hid : row.id = id
    · subst hid
      rw [hget] at hr
      cases hr
      exact
        ⟨_, st.store.reservations.get?_put_self { row with state := state }, rfl, rfl⟩
    · exact
        ⟨r,
          (st.store.reservations.get?_put_of_ne (r := ({ row with state := state } : Reservation))
            hid).trans hr,
          rfl, rfl⟩
  · intro scope r req rest max inUse hr hphase
    have hleft := hload scope req.key
    have hright := hsum r.seen scope req.key
    have hmissed := hread scope r req rest max inUse hr hphase
    omega

/-- A commit moves nothing: the row is counted already. -/
theorem quiet_commitReservation
    (h : st.Sound backend) (hrules : ClientRules st (.commitReservation reservationId))
    (hreads : backend = .postgres → ReadsOneInstant st (.commitReservation reservationId)) :
    st.Quiet (step backend st (.commitReservation reservationId)) := by
  show st.Quiet { st with store := (st.store.commitReservation reservationId).2 }
  unfold QuotaStore.commitReservation
  cases hget : st.store.reservations.get? reservationId with
  | none => exact Quiet.refl h
  | some row =>
    obtain rfl : row.id = reservationId := st.store.reservations.key_of_get? hget
    by_cases hpending : row.state = .pending
    · simp only [hpending, if_true]
      refine quiet_setState h hget (by decide) (fun _ => hrules) ?_
      intro scope r req rest max inUse hr hphase
      have hbackend : backend = .postgres := by
        cases backend with
        | sqlite => exact absurd (h.idle rfl scope) (by simp [hr])
        | postgres => rfl
      -- the reserve that reads has seen the row, or the reservation is none of its business
      have hmissed : outstandingAmount r.seen scope req.key row = 0 := by
        unfold outstandingAmount pendingAmount
        by_cases hscope : row.scope = scope
        · subst hscope
          by_cases hamount : amountOf row.amounts req.key = 0
          · simp [hamount]
          · rw [if_pos (hreads hbackend row r req rest max inUse hget hpending hr hphase hamount)]
        · simp [hscope]
      rw [hmissed]
      exact Nat.zero_le _
    · simp only [hpending, if_false]
      exact Quiet.refl h

/-- A release gives back what a reservation without a row was holding. -/
theorem quiet_release (h : st.Sound backend) (hget : st.store.reservations.get? row.id = some row)
    (hunbacked : row.id ∉ st.backed) :
    st.Quiet
      { st with
        store := if row.state ≠ .released then st.store.setState row .released else st.store } := by
  by_cases hreleased : row.state = .released
  · simp only [hreleased, ne_eq, not_true_eq_false, if_false]
    exact Quiet.refl h
  · simp only [ne_eq, hreleased, not_false_eq_true, if_true]
    refine quiet_setState h hget (by decide) (fun hcommitted => by cases hcommitted) ?_
    intro scope r req _ _ _ hr _
    have hunseen : row.id ∉ r.seen := fun hseen =>
      hunbacked ((h.reserving scope r hr).seen_backed row.id hseen)
    simp [outstandingAmount, hunseen, hunbacked]

theorem quiet_releaseReservation
    (h : st.Sound backend) (hrules : ClientRules st (.releaseReservation reservationId)) :
    st.Quiet (step backend st (.releaseReservation reservationId)) := by
  show st.Quiet { st with store := (st.store.releaseReservation reservationId).2 }
  unfold QuotaStore.releaseReservation
  cases hget : st.store.reservations.get? reservationId with
  | none => exact Quiet.refl h
  | some row =>
    obtain rfl : row.id = reservationId := st.store.reservations.key_of_get? hget
    exact quiet_release h hget hrules

theorem quiet_releaseReservationForOperation {operationId : String}
    (h : st.Sound backend) (hrules : ClientRules st (.releaseReservationForOperation operationId)) :
    st.Quiet (step backend st (.releaseReservationForOperation operationId)) := by
  show st.Quiet
    { st with store := (st.store.releaseReservationForOperation operationId).2 }
  unfold QuotaStore.releaseReservationForOperation
  cases hop : st.store.queryReservationByOp operationId with
  | none => exact Quiet.refl h
  | some row =>
    have hrow := (QuotaStore.queryReservationByOp_mem hop).1
    exact quiet_release h (st.store.reservations.get?_key_of_mem hrow) (hrules row hop)

theorem quiet_setLimit {key : LimitKey} {limit : LimitValue}
    (h : st.Sound backend) (hrules : ClientRules st (.setLimit scope key limit)) :
    st.Quiet (step backend st (.setLimit scope key limit)) := by
  have hcases := st.store.setLimit_snd scope key limit
  show st.Quiet { st with store := (st.store.setLimit scope key limit).2 }
  rcases hcases with hsame | hupsert
  · rw [hsame]
    exact Quiet.refl h
  · rw [hupsert]
    exact
      { Quiet.refl h with
        limit := fun scope' key' => st.store.notAbove_upsertLimit hrules scope' key' }

end AdmissionState

end Quota
end O3k
