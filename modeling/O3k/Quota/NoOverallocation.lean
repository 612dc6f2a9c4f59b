import O3k.Quota.Handover

/-!
# Quota admission does not over-allocate

A reserve on SQLite finds room for itself in one transaction.  A reserve on
PostgreSQL reads the usage first and the reserved amounts later; what it finds
covers the load as long as no reservation changes sides between the two reads.
-/

namespace O3k
namespace Quota

open Relational Semantics

namespace AdmissionState

variable
  {st : AdmissionState}
  {backend : Backend}
  {request : ReserveRequest}
  {store : QuotaStore}

section Inserted

variable (hinsert : st.store.insertReservation? request.reservation = some store)

include hinsert

theorem unseen_answered (seen : List String) (scope : OwnershipScope) (key : LimitKey) :
    (st.answered (.ok request.reservation) store).unseen seen scope key =
    outstandingAmount seen scope key request.reservation + st.unseen seen scope key := by
  obtain ⟨habsent, _, rfl⟩ := QuotaStore.insertReservation?_eq_some hinsert
  exact st.store.reservations.sumBy_put_of_absent _ habsent

theorem load_answered (scope : OwnershipScope) (key : LimitKey) :
    (st.answered (.ok request.reservation) store).load scope key =
    st.load scope key + outstandingAmount st.backed scope key request.reservation := by
  have hsum := unseen_answered hinsert st.backed scope key
  have hresources : store.resources = st.store.resources := by
    obtain ⟨_, _, rfl⟩ := QuotaStore.insertReservation?_eq_some hinsert
    rfl
  have hconsumed :
      (st.answered (.ok request.reservation) store).consumed scope key = st.consumed scope key :=
    congrArg (fun t : ResourceTables => t.consumed scope key) hresources
  show (st.answered (.ok request.reservation) store).consumed scope key +
      (st.answered (.ok request.reservation) store).unseen st.backed scope key
    =
    st.consumed scope key + st.unseen st.backed scope key + _
  rw [hconsumed, hsum]
  omega

theorem within_answered
    (hwithin : st.WithinLastLimit) (hnodup : (request.amounts.map ResourceAmount.key).Nodup)
    (hroom : ∀ a ∈ request.amounts, st.HasHeadroom request.scope a) :
    (st.answered (.ok request.reservation) store).WithinLastLimit := by
  have habsent := (QuotaStore.insertReservation?_eq_some hinsert).1
  intro scope key limit hlast
  rw [load_answered hinsert]
  have hnew :
      outstandingAmount st.backed scope key request.reservation
        ≤
      if scope = request.scope then amountOf request.amounts key else 0 := by
    unfold outstandingAmount pendingAmount
    split
    · exact Nat.zero_le _
    · simp [ReserveRequest.reservation, eq_comm]
  by_cases hkey : scope = request.scope ∧ key ∈ request.amounts.map ResourceAmount.key
  · obtain ⟨rfl, hmem⟩ := hkey
    obtain ⟨a, ha, rfl⟩ := List.mem_map.mp hmem
    have hlimit : some (st.store.queryLimit request.scope a.key) = some limit :=
      (if_pos ⟨habsent, rfl, hmem⟩).symm.trans hlast
    have hheadroom := hroom a ha
    unfold HasHeadroom at hheadroom
    rw [Option.some.inj hlimit] at hheadroom
    rw [if_pos rfl, amountOf_of_mem hnodup ha] at hnew
    exact hheadroom.mono (Nat.add_le_add_left hnew _)
  · have hlast' : st.lastLimit scope key = some limit :=
      (if_neg fun hadmitted => hkey hadmitted.2).symm.trans hlast
    have hzero : (if scope = request.scope then amountOf request.amounts key else 0) = 0 := by
      split
      · rename_i hscope
        exact amountOf_of_not_mem fun hmem => hkey ⟨hscope, hmem⟩
      · rfl
    rw [hzero] at hnew
    exact (hwithin scope key limit hlast').mono (by omega)

/-- **Step lemma**: an admitted reservation keeps the invariant. -/
theorem Sound.answered_inserted (h : st.Sound backend) (hfree : st.reserving request.scope = none)
    (hnodup : (request.amounts.map ResourceAmount.key).Nodup)
    (hroom : ∀ a ∈ request.amounts, st.HasHeadroom request.scope a) :
    (st.answered (.ok request.reservation) store).Sound backend := by
  obtain ⟨habsent, _, hstore⟩ := QuotaStore.insertReservation?_eq_some hinsert
  refine
    { within := within_answered hinsert h.within hnodup hroom
      granted := ?_
      committed := ?_
      reserving := ?_
      idle := h.idle }
  · intro g hg
    rcases List.mem_cons.mp hg with rfl | hg
    · exact
        ⟨_, hstore ▸ st.store.reservations.get?_put_self request.reservation, rfl, fun _ => rfl⟩
    · obtain ⟨r, hget, hscope, hamounts⟩ := h.granted g hg
      have hne : request.reservation.id ≠ g.id := by
        intro heq
        rw [heq, hget] at habsent
        cases habsent
      refine ⟨r, ?_, hscope, hamounts⟩
      show store.reservations.get? g.id = some r
      rw [hstore]
      exact (st.store.reservations.get?_put_of_ne hne).trans hget
  · intro r hr hcommitted
    have hr' : r ∈ (st.store.reservations.put request.reservation).rows := by
      have hr'' : r ∈ store.reservations.rows := hr
      rwa [hstore] at hr''
    rcases st.store.reservations.mem_put.mp hr' with rfl | ⟨hr, _⟩
    · cases hcommitted
    · exact h.committed r hr hcommitted
  · intro scope r hr
    have hother : request.scope ≠ scope := by
      rintro rfl
      rw [show st.reserving request.scope = some r from hr] at hfree
      cases hfree
    have hzero :
        ∀ seen key, outstandingAmount seen scope key request.reservation = 0 := by
      intro seen key
      simp [outstandingAmount, pendingAmount, ReserveRequest.reservation, hother]
    refine (h.reserving scope r hr).mono ?_ ?_ (fun _ hid => hid) ?_ ?_
    · intro key
      rw [load_answered hinsert, hzero]
      exact Nat.le_refl _
    · intro key
      have hlimits : store.limits = st.store.limits := by rw [hstore]
      show (st.store.queryLimit scope key).NotAbove (store.queryLimit scope key)
      rw [QuotaStore.queryLimit, QuotaStore.queryLimit, hlimits]
      exact LimitValue.NotAbove.refl _
    · intro row hrow hscope
      have hrow' : row ∈ (st.store.reservations.put request.reservation).rows := by
        have hrow'' : row ∈ store.reservations.rows := hrow
        rwa [hstore] at hrow''
      rcases st.store.reservations.mem_put.mp hrow' with rfl | ⟨hrow, _⟩
      · exact absurd hscope hother
      · exact ⟨row, hrow, hscope, rfl⟩
    · intro req rest max inUse _
      rw [load_answered hinsert, unseen_answered hinsert, hzero, hzero, Nat.zero_add]
      exact Nat.le_refl _

end Inserted

theorem Sound.answered_error (h : st.Sound backend) (e : StoreError) :
    (st.answered (.error e) st.store).Sound backend :=
  h

theorem Sound.answered_replay {row grant : Reservation}
    (h : st.Sound backend) (hrow : row ∈ st.store.reservations.rows) (hid : grant.id = row.id)
    (hscope : row.scope = grant.scope) (hamounts : grant.amounts = row.amounts) :
    (st.answered (.ok grant) st.store).Sound backend := by
  have hget : st.store.reservations.get? grant.id = some row := by
    rw [hid]
    exact st.store.reservations.get?_key_of_mem hrow
  have hstored : st.store.reservations.get? grant.id ≠ none := by
    simp [hget]
  refine
    { within := ?_
      granted := ?_
      committed := h.committed
      reserving := ?_
      idle := h.idle }
  · intro scope key limit hlast
    have hlast' : st.lastLimit scope key = some limit :=
      (if_neg fun hadmitted => hstored hadmitted.1).symm.trans hlast
    exact h.within scope key limit hlast'
  · intro g hg
    rcases List.mem_cons.mp hg with rfl | hg
    · exact ⟨row, hget, hscope, fun key => hamounts ▸ rfl⟩
    · exact h.granted g hg
  · intro scope r hr
    exact
      (h.reserving scope r hr).mono (fun _ => Nat.le_refl _)
        (fun _ => LimitValue.NotAbove.refl _) (fun _ hid => hid)
        (fun row hrow hrowscope => ⟨row, hrow, hrowscope, rfl⟩) fun _ _ _ _ _ => Nat.le_refl _

variable {scope : OwnershipScope}

theorem Sound.setReserving {next : Option Reserving} (h : st.Sound backend)
    (hnext : ∀ r, next = some r → backend = .postgres ∧ st.ReserveSound scope r) :
    (st.setReserving scope next).Sound backend := by
  refine
    { within := h.within
      granted := h.granted
      committed := h.committed
      reserving := ?_
      idle := ?_ }
  · intro scope' r hr
    have hsame : st.ReserveSound scope' r := by
      by_cases hscope : scope' = scope
      · subst hscope
        exact (hnext r (by simpa [AdmissionState.setReserving] using hr)).2
      · exact h.reserving scope' r (by simpa [AdmissionState.setReserving, hscope] using hr)
    exact
      hsame.mono (fun _ => Nat.le_refl _) (fun _ => LimitValue.NotAbove.refl _)
        (fun _ hid => hid) (fun row hrow hrowscope => ⟨row, hrow, hrowscope, rfl⟩)
        fun _ _ _ _ _ => Nat.le_refl _
  · intro hbackend scope'
    have hidle := h.idle hbackend scope'
    by_cases hscope : scope' = scope
    · subst hscope
      cases next with
      | none => simp [AdmissionState.setReserving]
      | some r => exact absurd (hnext r rfl).1 (by simp [hbackend])
    · simpa [AdmissionState.setReserving, hscope] using hidle

theorem hasHeadroom_of_hasRoom {a : ResourceAmount} (h : st.store.HasRoom scope a) :
    st.HasHeadroom scope a := by
  have hle : st.outstanding scope a.key ≤
      st.store.reservations.sumBy (pendingAmount scope a.key) := by
    refine st.store.reservations.sumBy_le_sumBy fun r _ => ?_
    unfold outstandingAmount
    split
    · exact Nat.zero_le _
    · exact Nat.le_refl _
  refine LimitValue.Allows.mono h ?_
  show st.consumed scope a.key + st.outstanding scope a.key + a.amount
    ≤
    st.consumed scope a.key + _ + a.amount
  omega

theorem sound_sqliteReserve (h : st.Sound .sqlite) :
    (step .sqlite st (.reserve request)).Sound .sqlite := by
  show (st.answered (reserveQuota request st.store).1 (reserveQuota request st.store).2).Sound _
  rcases reserveQuota_cases request st.store with
    ⟨e, hreply⟩ | ⟨existing, hexisting, hscope, hreply⟩ |
      ⟨store, hinsert, hnodup, hroom, hreply⟩
  · rw [hreply]
    exact h.answered_error e
  · rw [hreply]
    have hrow := (QuotaStore.queryReservationByOp_mem hexisting).1
    exact h.answered_replay hrow rfl rfl rfl
  · rw [hreply]
    exact
      Sound.answered_inserted hinsert h (h.idle rfl request.scope) hnodup
        fun a ha => hasHeadroom_of_hasRoom (hroom a ha)

theorem sound_beginReserve (h : st.Sound .postgres) :
    (step .postgres st (.reserve request)).Sound .postgres := by
  unfold step
  dsimp only
  split
  · rename_i tx hbegin hfree
    refine h.setReserving ?_
    intro r hr
    cases hr
    obtain ⟨rfl⟩ : tx = ⟨request, .lookup⟩ := by
      unfold beginReserve at hbegin
      split at hbegin
      · cases hbegin
      · cases hbegin
        rfl
    exact
      ⟨rfl,
        { scope_eq := rfl
          seen_backed := fun _ hid => absurd hid List.not_mem_nil
          absent := fun hlookup => absurd rfl hlookup
          phase := trivial }⟩
  · exact h

theorem unseen_le_reserved {r : Reserving} {key : LimitKey} {reserved : Nat}
    (hr : st.ReserveSound scope r) (hphase : r.tx.phase ≠ .lookup)
    (hread : st.store.queryReservedUsage scope key (some r.tx.request.operationId) = .ok reserved) :
    st.unseen r.seen scope key ≤ reserved := by
  have hpending := QuotaStore.queryReservedUsage_eq_ok hread fun row hrow hscope heq =>
    hr.absent hphase row hrow hscope (Option.some.inj heq).symm
  refine Nat.le_trans (st.store.reservations.sumBy_le_sumBy fun row _ => ?_) hpending
  unfold outstandingAmount
  split
  · exact Nat.zero_le _
  · exact Nat.le_refl _

/-- **Step lemma**: what a statement reads keeps an open reserve sound. -/
theorem ReserveSound.reads {r : Reserving} {tx : PgReserve}
    (hr : st.ReserveSound scope r) (hrequest : tx.request = r.tx.request)
    (hreads : Reads st.store r.tx.request r.tx.phase tx.phase) :
    st.ReserveSound scope
      ⟨tx, match r.tx.phase with | .inUse .. => st.backed | _ => r.seen⟩ := by
  obtain ⟨⟨request, phase⟩, seen⟩ := r
  obtain ⟨request', phase'⟩ := tx
  dsimp only at hrequest hreads ⊢
  subst hrequest
  have hkeep :
      ∀ key reserved,
        phase ≠ .lookup →
        st.store.queryReservedUsage scope key (some request'.operationId) = .ok reserved →
        st.unseen seen scope key ≤ reserved :=
    fun _ _ hphase hread => unseen_le_reserved hr hphase hread
  obtain ⟨hscope, hseen, habsent, hphase⟩ := hr
  dsimp only at hscope hseen habsent hphase
  subst hscope
  cases hreads with
  | absent hnone =>
    exact
      { scope_eq := rfl
        seen_backed := hseen
        absent := fun _ row hrow _ => QuotaStore.queryReservationByOp_none hnone hrow
        phase := ⟨[], rfl, fun a ha => absurd ha List.not_mem_nil⟩ }
  | @unlimited req rest hlimit =>
    obtain ⟨evaluated, hamounts, hall⟩ := hphase
    refine ⟨rfl, hseen, fun _ => habsent (by simp), evaluated ++ [req], by simpa using hamounts, ?_⟩
    intro a ha
    rcases List.mem_append.mp ha with ha | ha
    · exact hall a ha
    · obtain rfl := List.mem_singleton.mp ha
      unfold HasHeadroom
      rw [hlimit]
      trivial
  | limit hlimit =>
    exact ⟨rfl, hseen, fun _ => habsent (by simp), hphase, hlimit ▸ LimitValue.NotAbove.refl _⟩
  | inUse hread =>
    obtain ⟨hevaluated, hmax⟩ := hphase
    have hconsumed := ResourceTables.consumed_le_of_queryInUseUsage hread
    exact
      ⟨rfl, fun _ hid => hid, fun _ => habsent (by simp), hevaluated, hmax,
        Nat.add_le_add_right hconsumed _⟩
  | @reserved req rest max inUse reserved hread hroom =>
    obtain ⟨⟨evaluated, hamounts, hall⟩, hmax, husage⟩ := hphase
    have hunseen := hkeep req.key reserved (by simp) hread
    refine ⟨rfl, hseen, fun _ => habsent (by simp), evaluated ++ [req], by simpa using hamounts, ?_⟩
    intro a ha
    rcases List.mem_append.mp ha with ha | ha
    · exact hall a ha
    · obtain rfl := List.mem_singleton.mp ha
      have hallows :
          (LimitValue.maximum max).Allows (st.load request'.scope a.key + a.amount) := by
        show _ ≤ max
        omega
      exact hallows.raise hmax

theorem setReserving_answered
    (reply : Except StoreError Reservation) (scope : OwnershipScope) (next : Option Reserving) :
    (st.answered reply store).setReserving scope next =
    (st.setReserving scope next).answered reply store := by
  cases reply with
  | ok r => rfl
  | error e => rfl

theorem sound_proceed
    (h : st.Sound backend) (hreads : backend = .postgres → ReadsOneInstant st (.proceed scope)) :
    (step backend st (.proceed scope)).Sound backend := by
  show (st.proceed scope).Sound backend
  unfold AdmissionState.proceed
  cases hreserving : st.reserving scope with
  | none => exact h
  | some r =>
    have hbackend : backend = .postgres := by
      cases backend with
      | sqlite => exact absurd (h.idle rfl scope) (by simp [hreserving])
      | postgres => rfl
    have hr := h.reserving scope r hreserving
    dsimp only
    cases hstatement : r.tx.statement st.store with
    | next tx =>
      obtain ⟨hrequest, hread⟩ := statement_next hstatement
      refine h.setReserving ?_
      intro r' hr'
      cases hr'
      exact ⟨hbackend, hr.reads hrequest hread⟩
    | finished reply store =>
      dsimp only
      rw [setReserving_answered]
      -- the lock is released before the answer is counted
      have hfree : (st.setReserving scope none).Sound backend :=
        h.setReserving fun _ hnone => by cases hnone
      have hlock : (st.setReserving scope none).reserving r.tx.request.scope = none := by
        rw [hr.scope_eq]
        exact Function.update_self ..
      rcases statement_finished hstatement with
        ⟨⟨e, rfl⟩, rfl⟩ |
          ⟨existing, hphase, hexisting, hstate, hmatch, rfl, rfl⟩ |
            ⟨hphase, hinsert, hnodup, rfl⟩
      · exact hfree.answered_error e
      · have hrow := (QuotaStore.queryReservationByOp_mem hexisting).1
        have hscope := hreads hbackend r existing hreserving hphase hexisting hstate hmatch
        exact hfree.answered_replay hrow rfl (hscope.trans hr.scope_eq.symm) rfl
      · have hroom := hr.phase
        rw [hphase] at hroom
        obtain ⟨evaluated, hamounts, hall⟩ := hroom
        rw [List.append_nil] at hamounts
        exact
          Sound.answered_inserted hinsert hfree hlock hnodup
            fun a ha => hall a (hamounts ▸ ha)

/-- **Invariant, step by step.** -/
theorem Sound.step {label : Label} (h : st.Sound backend) (hrules : ClientRules st label)
    (hreads : backend = .postgres → ReadsOneInstant st label) :
    (Quota.step backend st label).Sound backend := by
  cases label with
  | reserve request =>
    cases backend with
    | sqlite => exact sound_sqliteReserve h
    | postgres => exact sound_beginReserve h
  | proceed scope => exact sound_proceed h hreads
  | disconnect scope => exact h.setReserving fun _ hnone => by cases hnone
  | createResource id resources => exact h.of_quiet (quiet_createResource h hrules)
  | commitReservation id => exact h.of_quiet (quiet_commitReservation h hrules hreads)
  | releaseReservation id => exact h.of_quiet (quiet_releaseReservation h hrules)
  | releaseReservationForOperation op =>
    exact h.of_quiet (quiet_releaseReservationForOperation h hrules)
  | setLimit scope key limit => exact h.of_quiet (quiet_setLimit h hrules)

theorem sound_initial (backend : Backend) {store : QuotaStore} (hempty : store.reservations = ∅) :
    (initial store).Sound backend where
  within := fun _ _ _ hlast => by cases hlast
  granted := fun _ hg => absurd hg List.not_mem_nil
  committed := by
    intro r hr
    have hr' : r ∈ store.reservations.rows := hr
    rw [hempty] at hr'
    exact absurd hr' List.not_mem_nil
  reserving := fun _ _ hr => by cases hr
  idle := fun _ _ => rfl

end AdmissionState

open AdmissionState

/-- **Quota admission never over-allocates**, from a store without reservations,
for clients that keep their rules: on SQLite in every run, on PostgreSQL in
every run whose reserves read what one instant could have shown them. -/
theorem admission_never_overallocates
    (backend : Backend) (store : QuotaStore) (hempty : store.reservations = ∅) (labels : List Label)
    (hrules : EachStep (step backend) ClientRules (initial store) labels)
    (hreads :
      backend = .postgres →
      EachStep (step backend) ReadsOneInstant (initial store) labels) :
    Always (step backend) WithinLastLimit (initial store) labels := by
  have hsound :=
    always_of_guarded
      (fun _ _ h hboth => Sound.step h hboth.1 hboth.2)
      (initial store) labels (sound_initial backend hempty)
      (hrules.and (eachStep_imp.mpr hreads))
  exact hsound.imp fun _ h => h.within

/-! ## The window between the two reads

A project may have one port.  Before an operation is admitted, a second one has
read that no port is in use; once the port is committed, it reads that nothing
is reserved. -/

def onePortStore : QuotaStore where
  limits := (∅ : Table QuotaLimitRow.key).put
    ⟨⟨"p", .project⟩, ⟨"network", "ports"⟩, .maximum 1, 1⟩
  reservations := ∅
  resources := ⟨[], [], [], [], [], [], []⟩

def portRequest (operationId reservationId : String) : ReserveRequest where
  scope := ⟨"p", .project⟩
  operationId := operationId
  amounts := [⟨⟨"network", "ports"⟩, 1⟩]
  reservationId := reservationId
  createdAt := "t"

/-- One request after the other, with no window between the reads. -/
def orderlyLabels : List Label :=
  [.reserve (portRequest "a" "1")] ++
    List.replicate 5 (.proceed ⟨"p", .project⟩) ++
    [.createResource "1" (onePortStore.resources.insertPort ⟨"port", "p"⟩), .commitReservation "1"]

/-- The second request reads around the hand-over of the first. -/
def windowLabels : List Label :=
  [.reserve (portRequest "a" "1")] ++
    List.replicate 5 (.proceed ⟨"p", .project⟩) ++
    [.reserve (portRequest "b" "2")] ++
    List.replicate 3 (.proceed ⟨"p", .project⟩) ++
    [.createResource "1" (onePortStore.resources.insertPort ⟨"port", "p"⟩),
      .commitReservation "1"] ++
    List.replicate 2 (.proceed ⟨"p", .project⟩)

theorem insertPort_within_grant (scope : OwnershipScope) (key : LimitKey) :
    (onePortStore.resources.insertPort ⟨"port", "p"⟩).consumed scope key ≤
    onePortStore.resources.consumed scope key +
      if scope = (portRequest "a" "1").scope then
        amountOf (portRequest "a" "1").amounts key
      else
        0 := by
  refine Nat.le_trans (ResourceTables.consumed_insertPort ..) (Nat.add_le_add_left ?_ _)
  by_cases hscope : scope = ⟨"p", .project⟩ <;>
    by_cases hkey : key = ⟨"network", "ports"⟩ <;>
      simp [portRequest, amountOf, hscope, hkey]

theorem reads_around_handover_overallocate :
    EachStep (step .postgres) ClientRules (initial onePortStore) windowLabels ∧
      ¬Always (step .postgres) WithinLastLimit (initial onePortStore) windowLabels := by
  constructor
  · refine
      ⟨trivial, trivial, trivial, trivial, trivial, trivial, trivial, trivial, trivial,
        trivial, ?_, ?_, trivial, trivial, trivial⟩
    · refine
        ⟨(portRequest "a" "1").reservation, by decide, rfl, by decide, ?_,
          insertPort_within_grant⟩
      intro r hr
      obtain rfl : (portRequest "a" "1").reservation = r := Option.some.inj hr
      decide
    · exact List.mem_cons_self
  · intro halways
    have hlast :=
      halways.last ⟨"p", .project⟩ ⟨"network", "ports"⟩ (.maximum 1) (by decide)
    have hload :
        (run (step .postgres) (initial onePortStore) windowLabels).load
            ⟨"p", .project⟩ ⟨"network", "ports"⟩
          = 2 := by
      decide
    unfold LimitValue.Allows at hlast
    omega

/-- With the reads of the second request gone, nothing is over-allocated. -/
theorem admission_never_overallocates_in_order :
    Always (step .postgres) WithinLastLimit (initial onePortStore) orderlyLabels := by
  refine
    admission_never_overallocates .postgres onePortStore rfl orderlyLabels ?_ fun _ => ?_
  · refine ⟨trivial, trivial, trivial, trivial, trivial, trivial, ?_, ?_, trivial⟩
    · refine
        ⟨(portRequest "a" "1").reservation, by decide, rfl, by decide, ?_,
          insertPort_within_grant⟩
      intro r hr
      obtain rfl : (portRequest "a" "1").reservation = r := Option.some.inj hr
      decide
    · exact List.mem_cons_self
  · refine ⟨trivial, ?_, ?_, ?_, ?_, ?_, trivial, ?_, trivial⟩
    · intro reserving existing hr _ hexisting
      obtain rfl := Option.some.inj hr
      cases hexisting
    · intro reserving existing hr hlookup
      obtain rfl := Option.some.inj hr
      cases hlookup
    · intro reserving existing hr hlookup
      obtain rfl := Option.some.inj hr
      cases hlookup
    · intro reserving existing hr hlookup
      obtain rfl := Option.some.inj hr
      cases hlookup
    · intro reserving existing hr hlookup
      obtain rfl := Option.some.inj hr
      cases hlookup
    · intro r reserving req rest max inUse hget _ hr
      obtain rfl : (portRequest "a" "1").reservation = r := Option.some.inj hget
      cases hr

end Quota
end O3k
