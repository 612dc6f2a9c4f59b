import Mathlib.Data.List.Induction
import O3k.Quota.NoOverallocation

/-!
# The life of a reservation

Whatever the clients do, a reservation is added pending, under an id and an
operation of its own, and moves on to committed or released.  Nothing leaves
the table, and nothing comes back from released.
-/

namespace O3k
namespace Quota

open Relational Relational.Transaction Semantics AdmissionState

def Releases (label : Label) (r : Reservation) : Prop :=
  label = .releaseReservation r.id ∨ label = .releaseReservationForOperation r.operationId

inductive ReservationsStep (label : Label) (s s' : QuotaStore) : Prop
  | same (h : s'.reservations = s.reservations)
  | added (r : Reservation) (hpending : r.state = .pending) (h : s.insertReservation? r = some s')
  | committed (r : Reservation) (hget : s.reservations.get? r.id = some r)
      (hpending : r.state = .pending) (h : s' = s.setState r .committed)
  | released (r : Reservation) (hget : s.reservations.get? r.id = some r)
      (hreleases : Releases label r) (h : s' = s.setState r .released)

variable {backend : Backend} {st : AdmissionState} {s s' : QuotaStore} {label : Label}

theorem step_reservations (backend : Backend) (st : AdmissionState) (label : Label) :
    ReservationsStep label st.store (step backend st label).store := by
  have hanswered : ∀ reply store, (st.answered reply store).store = store := by
    intro reply store
    cases reply <;> rfl
  cases label with
  | reserve request =>
    cases backend with
    | sqlite =>
      show ReservationsStep _ _ (st.answered (reserveQuota request st.store).1
        (reserveQuota request st.store).2).store
      rw [hanswered]
      rcases reserveQuota_cases request st.store with
        ⟨e, h⟩ | ⟨existing, _, _, h⟩ | ⟨s', hinsert, _, _, h⟩
      · exact .same (by rw [h])
      · exact .same (by rw [h])
      · rw [h]
        exact .added _ rfl hinsert
    | postgres =>
      refine .same ?_
      simp only [step]
      split <;> rfl
  | proceed scope =>
    show ReservationsStep _ _ (st.proceed scope).store
    unfold proceed
    cases st.reserving scope with
    | none => exact .same rfl
    | some r =>
      simp only
      cases h : r.tx.statement st.store with
      | next tx => exact .same rfl
      | finished reply store =>
        show ReservationsStep _ _ (st.answered reply store).store
        rw [hanswered]
        rcases statement_finished h with ⟨_, rfl⟩ | ⟨_, _, _, _, _, _, rfl⟩ | ⟨_, hinsert, _⟩
        · exact .same rfl
        · exact .same rfl
        · exact .added _ rfl hinsert
  | disconnect scope => exact .same rfl
  | createResource reservationId resources => exact .same rfl
  | commitReservation reservationId =>
    show ReservationsStep _ _ (st.store.commitReservation reservationId).2
    unfold QuotaStore.commitReservation
    cases hget : st.store.reservations.get? reservationId with
    | none => exact .same rfl
    | some r =>
      obtain rfl : r.id = reservationId := st.store.reservations.key_of_get? hget
      simp only
      split
      · exact .committed r hget ‹_› rfl
      · exact .same rfl
  | releaseReservation reservationId =>
    show ReservationsStep _ _ (st.store.releaseReservation reservationId).2
    unfold QuotaStore.releaseReservation
    cases hget : st.store.reservations.get? reservationId with
    | none => exact .same rfl
    | some r =>
      obtain rfl : r.id = reservationId := st.store.reservations.key_of_get? hget
      simp only
      split
      · exact .released r hget (.inl rfl) rfl
      · exact .same rfl
  | releaseReservationForOperation operationId =>
    show ReservationsStep _ _ (st.store.releaseReservationForOperation operationId).2
    unfold QuotaStore.releaseReservationForOperation
    cases hop : st.store.queryReservationByOp operationId with
    | none => exact .same rfl
    | some r =>
      obtain ⟨hrow, rfl⟩ := QuotaStore.queryReservationByOp_mem hop
      simp only
      split
      · exact .released r (st.store.reservations.get?_key_of_mem hrow) (.inr rfl) rfl
      · exact .same rfl
  | setLimit scope key limit =>
    refine .same ?_
    rcases st.store.setLimit_snd scope key limit with h | h <;>
      exact (congrArg QuotaStore.reservations h :)

/-- A reservation later on: itself, but perhaps for its state. -/
structure Follows (freed : Prop) (r r' : Reservation) : Prop where
  same : r' = { r with state := r'.state }
  released : r.state = .released → r'.state = .released
  committed : r.state = .committed → ¬ freed → r'.state = .committed

theorem Follows.refl {p : Prop} (r : Reservation) : Follows p r r :=
  ⟨rfl, id, fun h _ => h⟩

theorem follows_step {r : Reservation}
    (hstep : ReservationsStep label s s') (hget : s.reservations.get? r.id = some r) :
    ∃ r', s'.reservations.get? r.id = some r' ∧ Follows (Releases label r) r r' := by
  have hmoved : ∀ (x : Reservation) (state : ReservationState),
      s.reservations.get? x.id = some x → s' = s.setState x state →
        (x = r → Follows (Releases label r) r { r with state := state }) →
          ∃ r', s'.reservations.get? r.id = some r' ∧ Follows (Releases label r) r r' := by
    rintro x state hx rfl hfollows
    by_cases hid : x.id = r.id
    · obtain rfl : x = r := Option.some.inj ((hx.symm.trans (hid ▸ rfl)).trans hget)
      exact ⟨_, Table.get?_put_self _ _, hfollows rfl⟩
    · have hother : ({ x with state := state } : Reservation).id ≠ r.id := hid
      exact ⟨r, (Table.get?_put_of_ne _ hother).trans hget, Follows.refl r⟩
  cases hstep with
  | same h => exact ⟨r, h ▸ hget, Follows.refl r⟩
  | added x _ h =>
    obtain ⟨habsent, _, rfl⟩ := QuotaStore.insertReservation?_eq_some h
    refine ⟨r, (Table.get?_put_of_ne _ fun hid => ?_).trans hget, Follows.refl r⟩
    rw [hid] at habsent
    cases habsent.symm.trans hget
  | committed x hx hpending h =>
    refine hmoved x .committed hx h ?_
    rintro rfl
    exact ⟨rfl, fun hreleased => (by cases hpending.symm.trans hreleased), fun _ _ => rfl⟩
  | released x hx hreleases h =>
    refine hmoved x .released hx h ?_
    rintro rfl
    exact ⟨rfl, fun _ => rfl, fun _ hnot => absurd hreleases hnot⟩

theorem follows_run {labels : List Label} {r : Reservation}
    (hget : st.store.reservations.get? r.id = some r) :
    ∃ r', (run (step backend) st labels).store.reservations.get? r.id = some r' ∧
      Follows (∃ label ∈ labels, Releases label r) r r' := by
  induction labels using List.reverseRecOn with
  | nil => exact ⟨r, hget, Follows.refl r⟩
  | append_singleton labels label ih =>
    obtain ⟨r₁, hget₁, hsame₁, hreleased₁, hcommitted₁⟩ := ih
    have hid : r₁.id = r.id := by rw [hsame₁]
    have hop : r₁.operationId = r.operationId := by rw [hsame₁]
    rw [← hid] at hget₁
    rw [run_snoc]
    obtain ⟨r₂, hget₂, hsame₂, hreleased₂, hcommitted₂⟩ :=
      follows_step (step_reservations backend _ label) hget₁
    refine ⟨r₂, hid ▸ hget₂, ⟨?_, fun h => hreleased₂ (hreleased₁ h), fun h hnot => ?_⟩⟩
    · rw [hsame₂, hsame₁]
    · refine hcommitted₂ (hcommitted₁ h fun ⟨x, hx, hr⟩ => hnot ⟨x, by simp [hx], hr⟩) ?_
      intro hr
      refine hnot ⟨label, by simp, ?_⟩
      unfold Releases at hr ⊢
      rwa [hid, hop] at hr

/-- **One way only**: an accepted commit leaves a reservation committed, unless
it was released before; a release leaves it released, however often it is
called; in both states it is not counted as reserved, and only a release takes
it out of committed. -/
theorem reservation_moves_one_way
    (backend : Backend) (st : AdmissionState) (labels : List Label) (id : String) :
    let s := st.store
    ((s.commitReservation id).1 = .ok () →
      ∃ r, s.reservations.get? id = some r ∧
        (r.state ≠ .released →
          (s.commitReservation id).2.reservations.get? id
            = some { r with state := .committed })) ∧
    ((s.releaseReservation id).1 = .ok () →
      (∃ r, (s.releaseReservation id).2.reservations.get? id = some r ∧ r.state = .released) ∧
        (s.releaseReservation id).2.releaseReservation id
          = (.ok (), (s.releaseReservation id).2)) ∧
    ∀ r, s.reservations.get? id = some r →
      ∃ r', (run (step backend) st labels).store.reservations.get? id = some r' ∧
        Follows (∃ label ∈ labels, Releases label r) r r' ∧
        (r'.state ≠ .pending → ∀ scope key, pendingAmount scope key r' = 0) := by
  intro s
  refine ⟨fun hok => ?_, fun hok => ?_, fun r hget => ?_⟩
  · unfold QuotaStore.commitReservation at hok ⊢
    cases hget : s.reservations.get? id with
    | none => rw [hget] at hok; cases hok
    | some r =>
      obtain rfl : r.id = id := s.reservations.key_of_get? hget
      refine ⟨r, rfl, fun hstate => ?_⟩
      simp only
      split
      · exact Table.get?_put_self _ _
      · rename_i hpending
        have hcommitted : r.state = .committed := by
          cases h : r.state <;> simp_all
        rw [hget, ← hcommitted]
  · unfold QuotaStore.releaseReservation at hok ⊢
    cases hget : s.reservations.get? id with
    | none => rw [hget] at hok; cases hok
    | some r =>
      obtain rfl : r.id = id := s.reservations.key_of_get? hget
      simp only
      split
      · have hput : (s.setState r .released).reservations.get? r.id
            = some { r with state := .released } :=
          Table.get?_put_self _ _
        exact ⟨⟨_, hput, rfl⟩, by simp [hput]⟩
      · rename_i hstate
        have hreleased : r.state = .released := not_not.mp hstate
        exact ⟨⟨r, hget, hreleased⟩, by simp [hget, hreleased]⟩
  · obtain rfl : r.id = id := s.reservations.key_of_get? hget
    obtain ⟨r', hget', hfollows⟩ := follows_run hget
    exact ⟨r', hget', hfollows, fun hstate _ _ => if_neg fun h => hstate h.2⟩

/-- Committed, a reservation is not counted any more: its row is. -/
theorem committed_reservation_not_counted :
    let s := (run (step .sqlite) (initial onePortStore) [.reserve (portRequest "a" "1")]).store
    let usage := fun s : QuotaStore =>
      s.queryReservedUsage ⟨"p", .project⟩ ⟨"network", "ports"⟩ none
    usage s = .ok 1 ∧ (s.commitReservation "1").1 = .ok () ∧
      usage (s.commitReservation "1").2 = .ok 0 := by
  decide

end Quota
end O3k
