import O3k.Quota.Reservations

/-!
# Reservations are scoped

The outcome of a reserve depends on the reservations of its own scope and on
whether another scope has its operation, which is refused.  PostgreSQL looks the
operation up without its scope, and answers a caller whose amounts are the same
with the reservation of the other scope.
-/

namespace O3k
namespace Quota

open Relational Relational.Transaction Semantics AdmissionState

/-- How many statements are left, at most. -/
def PgReserve.remaining (tx : PgReserve) : Nat :=
  match tx.phase with
  | .lookup => 3 * tx.request.amounts.length + 2
  | .evaluate rest => 3 * rest.length + 1
  | .inUse _ rest _ => 3 * rest.length + 3
  | .reserved _ rest _ _ => 3 * rest.length + 2

theorem remaining_of_statement {tx tx' : PgReserve} {s : QuotaStore}
    (h : tx.statement s = .next tx') :
    tx'.remaining < tx.remaining := by
  obtain ⟨_, hreads⟩ := statement_next h
  obtain ⟨request, phase⟩ := tx
  obtain ⟨request', phase'⟩ := tx'
  cases hreads <;> simp only [PgReserve.remaining, List.length_cons] <;> omega

def PgReserve.alone (tx : PgReserve) (s : QuotaStore) :
    Except StoreError Reservation × QuotaStore :=
  match h : tx.statement s with
  | .next tx' => tx'.alone s
  | .finished reply s' => (reply, s')
termination_by tx.remaining
decreasing_by exact remaining_of_statement h

theorem alone_of_next {tx tx' : PgReserve} {s : QuotaStore} (h : tx.statement s = .next tx') :
    tx.alone s = tx'.alone s := by
  rw [PgReserve.alone]
  split <;> simp_all

theorem alone_of_finished {tx : PgReserve} {s s' : QuotaStore}
    {reply : Except StoreError Reservation} (h : tx.statement s = .finished reply s') :
    tx.alone s = (reply, s') := by
  rw [PgReserve.alone]
  split <;> simp_all

/-- `reserve_quota` of PostgreSQL. -/
def reserveQuotaPg (request : ReserveRequest) (s : QuotaStore) :
    Except StoreError Reservation × QuotaStore :=
  match beginReserve request with
  | .error e => (.error e, s)
  | .ok tx => tx.alone s

theorem exists_alone_finished (tx : PgReserve) (s : QuotaStore) :
    ∃ last : PgReserve, last.request = tx.request ∧
      last.statement s = .finished (tx.alone s).1 (tx.alone s).2 := by
  fun_induction PgReserve.alone tx s with
  | case1 tx tx' h ih =>
    obtain ⟨last, hrequest, hlast⟩ := ih
    exact ⟨last, hrequest.trans (statement_next h).1, hlast⟩
  | case2 tx reply s' h => exact ⟨tx, rfl, h⟩

/-- Two stores that differ in the reservations of other scopes only. -/
structure SameFor (scope : OwnershipScope) (s s' : QuotaStore) : Prop where
  limits : s.limits = s'.limits
  resources : s.resources = s'.resources
  reservations : ∀ r : Reservation, r.scope = scope →
    (r ∈ s.reservations.rows ↔ r ∈ s'.reservations.rows)

/-- `operation_id` is unique. -/
def UniqueOperations (s : QuotaStore) : Prop :=
  ∀ r ∈ s.reservations.rows, ∀ x ∈ s.reservations.rows, x.operationId = r.operationId → x = r

variable (request : ReserveRequest)

/-- The operation has a reservation of another scope. -/
def TakenElsewhere (s : QuotaStore) : Prop :=
  ∃ r ∈ s.queryReservationByOp request.operationId, r.scope ≠ request.scope

/-- What a caller may meet: unique operations, and no reservation under the id
made up for the new one. -/
structure Proper (s : QuotaStore) : Prop where
  unique : UniqueOperations s
  fresh : s.reservations.get? request.reservationId = none

/-- A reserve is **scoped** in a store: an operation of another scope is
refused, what is answered is a reservation of the scope, and those of other
scopes neither change nor matter. -/
structure Scoped
    (reserve : ReserveRequest → QuotaStore → Except StoreError Reservation × QuotaStore)
    (s : QuotaStore) : Prop where
  refused : TakenElsewhere request s → ∃ e, reserve request s = (.error e, s)
  own : ∀ r, (reserve request s).1 = .ok r →
    r.scope = request.scope ∧ r ∈ (reserve request s).2.reservations.rows
  kept : ∀ r, r.scope ≠ request.scope →
    (r ∈ (reserve request s).2.reservations.rows ↔ r ∈ s.reservations.rows)
  blind : ∀ s', Proper request s' → SameFor request.scope s s' →
    ¬ TakenElsewhere request s → ¬ TakenElsewhere request s' →
      (reserve request s').1 = (reserve request s).1

variable {request} {s s' : QuotaStore}

theorem UniqueOperations.query {r : Reservation} (h : UniqueOperations s)
    (hr : r ∈ s.reservations.rows) :
    s.queryReservationByOp r.operationId = some r := by
  cases hop : s.queryReservationByOp r.operationId with
  | none => exact absurd rfl (QuotaStore.queryReservationByOp_none hop hr)
  | some x =>
    obtain ⟨hx, hsame⟩ := QuotaStore.queryReservationByOp_mem hop
    rw [h r hr x hx hsame]

theorem SameFor.query
    (h : SameFor request.scope s s') (hunique : UniqueOperations s) (hunique' : UniqueOperations s')
    (hfree : ¬ TakenElsewhere request s) (hfree' : ¬ TakenElsewhere request s') :
    s'.queryReservationByOp request.operationId = s.queryReservationByOp request.operationId := by
  refine Option.ext fun r => ⟨fun hr => ?_, fun hr => ?_⟩
  · obtain ⟨hrow, hop⟩ := QuotaStore.queryReservationByOp_mem hr
    have hscope : r.scope = request.scope := by_contra fun hne => hfree' ⟨r, hr, hne⟩
    exact hop ▸ hunique.query ((h.reservations r hscope).mpr hrow)
  · obtain ⟨hrow, hop⟩ := QuotaStore.queryReservationByOp_mem hr
    have hscope : r.scope = request.scope := by_contra fun hne => hfree ⟨r, hr, hne⟩
    exact hop ▸ hunique'.query ((h.reservations r hscope).mp hrow)

theorem SameFor.reservedUsage {scope : OwnershipScope}
    (h : SameFor scope s s') (key : LimitKey) (excludeOp : Option String) :
    s'.queryReservedUsage scope key excludeOp = s.queryReservedUsage scope key excludeOp := by
  have hown : ∀ s : QuotaStore, ∀ f : Reservation → Nat, (∀ r, r.scope ≠ scope → f r = 0) →
      (s.reservations.deleteWhere fun r => decide (r.scope ≠ scope)).sumBy f
        = s.reservations.sumBy f :=
    fun s f hf => s.reservations.sumBy_deleteWhere_of_zero fun r _ hr => hf r (of_decide_eq_true hr)
  have hsame :
      (s.reservations.deleteWhere fun r => decide (r.scope ≠ scope))
        = s'.reservations.deleteWhere fun r => decide (r.scope ≠ scope) := by
    refine Table.ext_mem fun r => ?_
    rw [Table.mem_deleteWhere, Table.mem_deleteWhere]
    by_cases hscope : r.scope = scope
    · rw [h.reservations r hscope]
    · simp [hscope]
  unfold QuotaStore.queryReservedUsage
  have hzero : ∀ r : Reservation, r.scope ≠ scope →
      (if excludeOp = some r.operationId then 0 else pendingAmount scope key r) = 0 := by
    intro r hr
    simp [pendingAmount, hr]
  rw [← hown s _ hzero, ← hown s' _ hzero, hsame]

theorem insert_isSome (hproper : Proper request s) (hproper' : Proper request s')
    (hquery : s'.queryReservationByOp request.operationId
      = s.queryReservationByOp request.operationId) :
    (s'.insertReservation? request.reservation).isSome
      = (s.insertReservation? request.reservation).isSome := by
  have hinsert : ∀ s, Proper request s →
      (s.insertReservation? request.reservation).isSome
        = (s.queryReservationByOp request.operationId).isNone := by
    intro s hproper
    have hfresh : s.reservations.get? request.reservation.id = none := hproper.fresh
    unfold QuotaStore.insertReservation?
    rw [show request.reservation.operationId = request.operationId from rfl,
      Table.insert?_of_absent _ hfresh]
    cases s.queryReservationByOp request.operationId <;> rfl
  rw [hinsert s hproper, hinsert s' hproper', hquery]

/-- What a statement tells its client. -/
def PgOutcome.seen : PgOutcome → PgReserve ⊕ Except StoreError Reservation
  | .next tx => .inl tx
  | .finished reply _ => .inr reply

theorem insertPgReservation_reply (s : QuotaStore) :
    (atomically (insertPgReservation request) s).1 =
    if (s.insertReservation? request.reservation).isSome then
      (insertPgAmounts [] request.amounts).map fun _ => request.reservation
    else
      .error (.database .uniqueViolation) := by
  rw [atomically_fst, insertPgReservation, get_bind_apply]
  cases s.insertReservation? request.reservation with
  | none => rfl
  | some s' => cases insertPgAmounts [] request.amounts <;> rfl

theorem SameFor.statement {tx : PgReserve} (h : SameFor tx.request.scope s s')
    (hproper : Proper tx.request s) (hproper' : Proper tx.request s')
    (hquery : s'.queryReservationByOp tx.request.operationId
      = s.queryReservationByOp tx.request.operationId) :
    (tx.statement s').seen = (tx.statement s).seen := by
  obtain ⟨request, phase⟩ := tx
  cases phase with
  | lookup =>
    simp only [PgReserve.statement, hquery]
    cases s.queryReservationByOp request.operationId <;> rfl
  | evaluate rest =>
    cases rest with
    | nil =>
      refine congrArg Sum.inr ?_
      show (atomically (insertPgReservation request) s').1
        = (atomically (insertPgReservation request) s).1
      rw [insertPgReservation_reply, insertPgReservation_reply,
        insert_isSome hproper hproper' hquery]
    | cons req rest =>
      simp only [PgReserve.statement, QuotaStore.queryLimit, h.limits]
  | inUse req rest max =>
    simp only [PgReserve.statement, h.resources]
    cases s'.resources.queryInUseUsage request.scope req.key <;> rfl
  | reserved req rest max inUse =>
    simp only [PgReserve.statement, h.reservedUsage]
    cases s.queryReservedUsage request.scope req.key (some request.operationId) with
    | error e => rfl
    | ok reserved => simp only; cases evaluateLimit req max inUse reserved <;> rfl

theorem SameFor.alone {tx : PgReserve} (h : SameFor tx.request.scope s s')
    (hproper : Proper tx.request s) (hproper' : Proper tx.request s')
    (hquery : s'.queryReservationByOp tx.request.operationId
      = s.queryReservationByOp tx.request.operationId) :
    (tx.alone s').1 = (tx.alone s).1 := by
  fun_induction PgReserve.alone tx s with
  | case1 tx tx' hnext ih =>
    have hseen := h.statement hproper hproper' hquery
    rw [hnext] at hseen
    cases hstatement : tx.statement s' with
    | finished reply t => rw [hstatement] at hseen; cases hseen
    | next tx₁ =>
      rw [hstatement] at hseen
      obtain rfl : tx₁ = tx' := Sum.inl.inj hseen
      rw [← (statement_next hnext).1] at h hproper hproper' hquery
      rw [alone_of_next hstatement]
      exact ih h hproper hproper' hquery
  | case2 tx reply t hfinished =>
    have hseen := h.statement hproper hproper' hquery
    rw [hfinished] at hseen
    cases hstatement : tx.statement s' with
    | next tx₁ => rw [hstatement] at hseen; cases hseen
    | finished reply' t' =>
      rw [hstatement] at hseen
      rw [alone_of_finished hstatement]
      exact Sum.inr.inj hseen

theorem SameFor.checkHeadroom {scope : OwnershipScope}
    (h : SameFor scope s s') (req : ResourceAmount) :
    s'.checkHeadroom scope req = s.checkHeadroom scope req := by
  simp only [QuotaStore.checkHeadroom, QuotaStore.queryLimit, h.limits, h.resources,
    h.reservedUsage]

theorem SameFor.reserveQuota
    (h : SameFor request.scope s s') (hproper : Proper request s) (hproper' : Proper request s')
    (hquery : s'.queryReservationByOp request.operationId
      = s.queryReservationByOp request.operationId) :
    (reserveQuota request s').1 = (reserveQuota request s).1 := by
  have hinsert := insert_isSome hproper hproper' hquery
  rw [Quota.reserveQuota, atomically_fst, atomically_fst, reserveQuotaInner]
  cases hvalid : validateAmounts [] request.amounts with
  | error e => rfl
  | ok _ =>
    simp only [fromExcept_ok_bind, get_bind_apply, hquery]
    cases s.queryReservationByOp request.operationId with
    | some existing => simp only; cases replayReservation existing request <;> rfl
    | none =>
      have hloop : ∀ t : QuotaStore,
          forEach (fun req => fromExcept (s.checkHeadroom request.scope req)) request.amounts t
            = (request.amounts.forM (s.checkHeadroom request.scope)).map fun _ => ((), t) :=
        forEach_fromExcept_eq _ _
      simp only [h.checkHeadroom]
      cases hchecks : request.amounts.forM (s.checkHeadroom request.scope) with
      | error e =>
        rw [bind_of_error ((hloop s).trans (by rw [hchecks]; rfl)),
          bind_of_error ((hloop s').trans (by rw [hchecks]; rfl))]
      | ok _ =>
        rw [bind_of_ok ((hloop s).trans (by rw [hchecks]; rfl)),
          bind_of_ok ((hloop s').trans (by rw [hchecks]; rfl))]
        cases hs : s.insertReservation? request.reservation <;>
          cases hs' : s'.insertReservation? request.reservation
        · rfl
        · simp [hs, hs'] at hinsert
        · simp [hs, hs'] at hinsert
        · rfl

theorem Scoped.of_cases
    {reserve : ReserveRequest → QuotaStore → Except StoreError Reservation × QuotaStore}
    (hproper : Proper request s)
    (hcases :
      (∃ e, reserve request s = (.error e, s)) ∨
      (∃ existing, s.queryReservationByOp request.operationId = some existing ∧
        existing.scope = request.scope ∧ reserve request s = (.ok existing, s)) ∨
      ∃ s', s.insertReservation? request.reservation = some s' ∧
        reserve request s = (.ok request.reservation, s'))
    (hblind : ∀ s', Proper request s' → SameFor request.scope s s' →
      s'.queryReservationByOp request.operationId = s.queryReservationByOp request.operationId →
        (reserve request s').1 = (reserve request s).1) :
    Scoped request reserve s := by
  have hblind : ∀ s', Proper request s' → SameFor request.scope s s' →
      ¬ TakenElsewhere request s → ¬ TakenElsewhere request s' →
        (reserve request s').1 = (reserve request s).1 :=
    fun s' hproper' h hfree hfree' =>
      hblind s' hproper' h (h.query hproper.unique hproper'.unique hfree hfree')
  rcases hcases with ⟨e, h⟩ | ⟨existing, hexisting, hscope, h⟩ | ⟨s', hinsert, h⟩
  · refine ⟨fun _ => ⟨e, h⟩, fun r hr => ?_, fun r _ => by rw [h], hblind⟩
    rw [h] at hr
    cases hr
  · refine ⟨?_, fun r hr => ?_, fun r _ => by rw [h], hblind⟩
    · rintro ⟨r, hr, hother⟩
      exact absurd (Option.some.inj (hexisting.symm.trans hr) ▸ hscope) hother
    · rw [h] at hr ⊢
      cases hr
      exact ⟨hscope, (QuotaStore.queryReservationByOp_mem hexisting).1⟩
  · obtain ⟨habsent, hnone, hput⟩ := QuotaStore.insertReservation?_eq_some hinsert
    refine ⟨?_, fun r hr => ?_, fun r hother => ?_, hblind⟩
    · rintro ⟨r, hr, _⟩
      cases hnone.symm.trans hr
    · rw [h] at hr ⊢
      cases hr
      exact ⟨rfl, hput ▸ (Table.mem_put _).mpr (Or.inl rfl)⟩
    · rw [h, hput]
      refine (Table.mem_put _).trans ⟨?_, fun hr => Or.inr ⟨hr, ?_⟩⟩
      · rintro (rfl | ⟨hr, _⟩)
        · exact absurd rfl hother
        · exact hr
      · exact s.reservations.get?_eq_none_iff.mp habsent r hr

theorem scoped_sqlite (hproper : Proper request s) : Scoped request reserveQuota s := by
  refine Scoped.of_cases hproper ?_ fun s' hproper' h hquery =>
    h.reserveQuota hproper hproper' hquery
  rcases reserveQuota_cases request s with h | h | ⟨s', hinsert, _, _, h⟩
  · exact Or.inl h
  · exact Or.inr (Or.inl h)
  · exact Or.inr (Or.inr ⟨s', hinsert, h⟩)

/-- Known keys, and a reservation of another scope that PostgreSQL gives back. -/
def SatisfiedElsewhere (request : ReserveRequest) (s : QuotaStore) : Prop :=
  (∃ tx, beginReserve request = .ok tx) ∧
    ∃ existing ∈ s.queryReservationByOp request.operationId,
      existing.scope ≠ request.scope ∧ existing.state ≠ .released ∧
        amountsMatch existing.amounts request.amounts = true

theorem beginReserve_eq_ok {tx : PgReserve} (h : beginReserve request = .ok tx) :
    tx = ⟨request, .lookup⟩ := by
  unfold beginReserve at h
  split at h
  · cases h
  · exact (Except.ok.inj h).symm

theorem scoped_postgres_iff (hproper : Proper request s) :
    Scoped request reserveQuotaPg s ↔ ¬ SatisfiedElsewhere request s := by
  cases hbegin : beginReserve request with
  | error e =>
    have hreserve : ∀ s, reserveQuotaPg request s = (.error e, s) := by
      intro s
      rw [reserveQuotaPg, hbegin]
    refine iff_of_true ?_ (fun h => ?_)
    · refine Scoped.of_cases hproper (Or.inl ⟨e, hreserve s⟩) fun s' _ _ _ => ?_
      rw [hreserve, hreserve]
    · obtain ⟨⟨_, h⟩, _⟩ := h
      cases hbegin.symm.trans h
  | ok tx =>
    have hreserve : ∀ s, reserveQuotaPg request s = tx.alone s := by
      intro s
      rw [reserveQuotaPg, hbegin]
    obtain rfl := beginReserve_eq_ok hbegin
    constructor
    · rintro hscoped ⟨_, existing, hexisting, hother, hstate, hmatch⟩
      obtain ⟨e, he⟩ := hscoped.refused ⟨existing, hexisting, hother⟩
      have hstatement : PgReserve.statement ⟨request, .lookup⟩ s
          = .finished (.ok { existing with scope := request.scope }) s := by
        simp only [PgReserve.statement, Option.mem_def.mp hexisting]
        rw [replayPgReservation, if_neg hstate, if_pos hmatch]
      rw [hreserve, alone_of_finished hstatement] at he
      cases congrArg Prod.fst he
    · intro hgood
      refine Scoped.of_cases hproper ?_ fun s' hproper' h hquery => ?_
      · obtain ⟨last, hrequest, hlast⟩ := exists_alone_finished ⟨request, .lookup⟩ s
        rw [hreserve]
        rcases statement_finished hlast with
          ⟨⟨e, he⟩, hs⟩ | ⟨existing, _, hexisting, hstate, hmatch, hreply, hs⟩ |
            ⟨_, hinsert, _, hreply⟩
        · exact Or.inl ⟨e, Prod.ext he hs⟩
        · rw [hrequest] at hexisting hmatch hreply
          have hscope : existing.scope = request.scope := by_contra fun hother =>
            hgood ⟨⟨_, hbegin⟩, existing, hexisting, hother, hstate, hmatch⟩
          refine Or.inr (Or.inl ⟨existing, hexisting, hscope, Prod.ext ?_ hs⟩)
          rw [hreply, ← hscope]
        · rw [hrequest] at hinsert hreply
          exact Or.inr (Or.inr ⟨_, hinsert, Prod.ext hreply rfl⟩)
      · rw [hreserve, hreserve]
        exact SameFor.alone h hproper hproper' hquery

theorem uniqueOperations_put {r : Reservation} (hunique : UniqueOperations s)
    (hr : ∀ x ∈ s.reservations.rows, x.operationId = r.operationId → x.id = r.id)
    (hs' : s'.reservations = s.reservations.put r) :
    UniqueOperations s' := by
  intro a ha b hb hop
  rw [hs', Table.mem_put] at ha hb
  rcases ha with rfl | ⟨ha, hane⟩ <;> rcases hb with rfl | ⟨hb, hbne⟩
  · rfl
  · exact absurd (hr b hb hop) hbne
  · exact absurd (hr a ha hop.symm) hane
  · exact hunique a ha b hb hop

theorem uniqueOperations_step {label : Label} (hunique : UniqueOperations s)
    (hstep : ReservationsStep label s s') :
    UniqueOperations s' := by
  have hmoved : ∀ (r : Reservation) (state : ReservationState),
      s.reservations.get? r.id = some r → UniqueOperations (s.setState r state) := by
    intro r state hget
    refine uniqueOperations_put hunique (fun x hx hop => ?_) rfl
    rw [hunique r (s.reservations.mem_of_get? hget) x hx hop]
  cases hstep with
  | same h =>
    unfold UniqueOperations
    rwa [h]
  | added r _ h =>
    obtain ⟨_, hnone, rfl⟩ := QuotaStore.insertReservation?_eq_some h
    refine uniqueOperations_put hunique (fun x hx hop => ?_) rfl
    exact absurd hop (QuotaStore.queryReservationByOp_none hnone hx)
  | committed r hget _ h => exact h ▸ hmoved r .committed hget
  | released r hget _ h => exact h ▸ hmoved r .released hget

theorem uniqueOperations_run {backend : Backend} {store : QuotaStore} {labels : List Label}
    (hempty : store.reservations = ∅) :
    UniqueOperations (run (step backend) (initial store) labels).store := by
  induction labels using List.reverseRecOn with
  | nil =>
    intro r hr
    have hnone : r ∈ store.reservations.rows := hr
    rw [hempty] at hnone
    exact absurd hnone List.not_mem_nil
  | append_singleton labels label ih =>
    rw [run_snoc]
    exact uniqueOperations_step ih (step_reservations backend _ label)

/-- **Reserves are scoped** on SQLite; on PostgreSQL they are wherever no open
reservation of another scope, with the same amounts, has the operation. -/
theorem reserve_scoped_iff (backend : Backend) (store : QuotaStore)
    (hempty : store.reservations = ∅) (labels : List Label) (request : ReserveRequest)
    (hfresh :
      (run (step backend) (initial store) labels).store.reservations.get? request.reservationId
        = none) :
    let s := (run (step backend) (initial store) labels).store
    Scoped request reserveQuota s ∧
      (Scoped request reserveQuotaPg s ↔ ¬ SatisfiedElsewhere request s) :=
  have hproper : Proper request (run (step backend) (initial store) labels).store :=
    ⟨uniqueOperations_run hempty, hfresh⟩
  ⟨scoped_sqlite hproper, scoped_postgres_iff hproper⟩

theorem reserve_scoped_iff_onePort :
    Scoped (portRequest "a" "1") reserveQuota onePortStore ∧
      (Scoped (portRequest "a" "1") reserveQuotaPg onePortStore
        ↔ ¬ SatisfiedElsewhere (portRequest "a" "1") onePortStore) :=
  reserve_scoped_iff .postgres onePortStore rfl [] (portRequest "a" "1") rfl

/-- PostgreSQL grants a project the reservation of another one. -/
theorem reserve_satisfied_elsewhere :
    let s := (run (step .postgres) (initial onePortStore)
      ([.reserve (portRequest "a" "1")] ++ List.replicate 5 (.proceed ⟨"p", .project⟩))).store
    let request := { portRequest "a" "2" with scope := ⟨"q", .project⟩ }
    (reserveQuotaPg request s).1
        = .ok { (portRequest "a" "1").reservation with scope := ⟨"q", .project⟩ } ∧
      ¬ Scoped request reserveQuotaPg s := by
  intro s request
  have hreply : reserveQuotaPg request s
      = (.ok { (portRequest "a" "1").reservation with scope := ⟨"q", .project⟩ }, s) :=
    alone_of_finished rfl
  refine ⟨congrArg Prod.fst hreply, fun h => ?_⟩
  obtain ⟨e, he⟩ := h.refused ⟨(portRequest "a" "1").reservation, rfl, by decide⟩
  cases congrArg Prod.fst (hreply.symm.trans he)

end Quota
end O3k
