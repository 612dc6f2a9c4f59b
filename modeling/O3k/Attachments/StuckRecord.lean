import O3k.Attachments.Quiet

/-!
# A stuck attachment and the others

A pass takes the due records in the order of the listing.  It treats each as a
pass over that record alone would, exactly when none but the last is passed on
with an error: the first error that reaches the loop ends the pass.
-/

namespace O3k
namespace Attachments

open Relational Operations Semantics Program

/-- The answers to the calls that are made for `id` from now on. -/
def PassAnswers.onward (env : PassAnswers) (w : PassWorld) (id : Uuid) : Nat → Answer :=
  fun n => env.answers id (n + (w.asked id).length)

section Step

variable (env : PassAnswers)

theorem alone_via {α : Type} (id : Uuid) (p : AttachmentProgram α) (w : PassWorld) :
    (alone (passExec env) (p.via (PassCall.about id) (fun _ r => r)) w).1 =
      (Program.answered exec (env.onward w id) p w.store).1 := by
  induction p generalizing w with
  | done a => rfl
  | call c next ih =>
    have honward :
        env.onward (passExec env (.about id c) w).2 id =
          fun n => env.onward w id (n + 1) := by
      funext n
      simp only [PassAnswers.onward, passExec, Function.update_self, List.length_append,
        List.length_singleton]
      congr 1
      omega
    have hanswer : env.onward w id 0 = env.answers id (w.asked id).length := by
      simp [PassAnswers.onward]
    refine (ih _ (passExec env (.about id c) w).2).trans ?_
    rw [honward]
    show (Program.answered exec _ (next (exec c (env.answers id (w.asked id).length) w.store).1)
      (exec c (env.answers id (w.asked id).length) w.store).2).1 = _
    rw [← hanswer]
    rfl

theorem asked_le_passExec (id : Uuid) (c : PassCall) (w : PassWorld) :
    (w.asked id).length ≤ ((passExec env c w).2.asked id).length := by
  cases c with
  | listByStatus | isInFlight => exact le_refl _
  | about i c =>
    by_cases h : id = i
    · subst h
      simp [passExec]
    · simp [passExec, Function.update_of_ne h]

variable {env} {cinder : Bool} {record : VolumeAttachmentRecord} {w : PassWorld}

theorem alone_reconcileStep_of_inFlight (h : w.store.inFlight record.id = true) :
    alone (passExec env) (reconcileStep cinder record).run w = (.ok (), w) := by
  show alone (passExec env) (if w.store.inFlight record.id then _ else _ :
    ExceptT ComputeError PassProgram Unit).run w = _
  rw [h]
  rfl

theorem alone_reconcileStep_of_due (h : w.store.inFlight record.id = false) :
    alone (passExec env) (reconcileStep cinder record).run w =
      alone (passExec env) (forRecord record.id (reconcileRecord cinder record)).run w := by
  show alone (passExec env) (if w.store.inFlight record.id then _ else _ :
    ExceptT ComputeError PassProgram Unit).run w = _
  rw [h]
  rfl

theorem reconcileRecord_asks (cinder : Bool) (record : VolumeAttachmentRecord) :
    ∃ c next, (reconcileRecord cinder record).run = .call c next := by
  unfold reconcileRecord reconcileUnknown
  split
  · split
    · exact ⟨_, _, rfl⟩
    · cases cinder <;> exact ⟨_, _, rfl⟩
  · exact ⟨_, _, rfl⟩

theorem asked_reconcileStep_of_due (h : w.store.inFlight record.id = false) :
    (w.asked record.id).length <
      ((alone (passExec env) (reconcileStep cinder record).run w).2.asked record.id).length := by
  rw [alone_reconcileStep_of_due h]
  obtain ⟨c, next, hrun⟩ := reconcileRecord_asks cinder record
  show _ < ((alone (passExec env) ((reconcileRecord cinder record).run.via _ _) w).2.asked
    record.id).length
  rw [hrun]
  have hfirst :
      (w.asked record.id).length <
        ((passExec env (.about record.id c) w).2.asked record.id).length := by
    simp [passExec]
  exact Nat.lt_of_lt_of_le hfirst
    (le_alone (m := fun w : PassWorld => (w.asked record.id).length)
      (asked_le_passExec env record.id) _ (passExec env (.about record.id c) w).2)

theorem succeeds_reconcileStep (hdue : w.store.inFlight record.id = false)
    (hrow : w.store.attachments.get? record.id = some record) :
    Succeeds (passExec env) (reconcileStep cinder) w record ↔
      Quiet cinder (env.onward w record.id) w.store record := by
  unfold Succeeds
  rw [alone_reconcileStep_of_due hdue, ← returns_reconcileRecord hrow]
  show (alone (passExec env) ((reconcileRecord cinder record).run.via _ _) w).1 = _ ↔ _
  rw [alone_via]
  constructor
  · exact fun h => ⟨(), h⟩
  · rintro ⟨⟨⟩, h⟩
    exact h

end Step

namespace PassWorld

/-- The records that a pass has to look at, in the order of the listing. -/
def due (w : PassWorld) : List VolumeAttachmentRecord :=
  w.store.listed.filter (fun record => !w.store.inFlight record.id)

/-- The world with no other record than the one of `id`. -/
def only (w : PassWorld) (id : Uuid) : PassWorld :=
  { w with
    store :=
      { w.store with
        attachments := w.store.attachments.deleteWhere (fun r => r.id ≠ id) } }

end PassWorld

theorem AttachmentStore.mem_listed {w : AttachmentStore} {record : VolumeAttachmentRecord} :
    record ∈ w.listed ↔
      w.attachments.get? record.id = some record ∧ record.status ∉ terminalStatuses := by
  simp [AttachmentStore.listed, w.attachments.get?_eq_some_iff]

theorem AttachmentStore.listed_nodup (w : AttachmentStore) :
    (w.listed.map VolumeAttachmentRecord.id).Nodup := by
  have hperm :
      w.listed.Perm (w.attachments.rows.filter (fun r => r.status ∉ terminalStatuses)) :=
    sortBy_perm _
  exact (hperm.map _).nodup_iff.mpr
    (List.Nodup.sublist (List.Sublist.map _ List.filter_sublist) w.attachments.keys_nodup)

section Pass

variable (cinder : Bool) (env : PassAnswers) (w : PassWorld)

theorem pass_of_listing_fails {fault : Fault} (h : env.listing = some fault) :
    pass cinder env w = (.error (.store fault.error), w) := by
  show alone (passExec env) (match received env.listing (.ok w.store.listed) with
    | .ok _ => _ | .error _ => _ : ExceptT ComputeError PassProgram Unit).run w = _
  rw [h]
  rfl

theorem pass_of_listing_answered (h : env.listing = none) :
    pass cinder env w =
      alone (passExec env) (sweep (reconcileStep cinder) w.store.listed).run w := by
  show alone (passExec env) (match received env.listing (.ok w.store.listed) with
    | .ok _ => _ | .error _ => _ : ExceptT ComputeError PassProgram Unit).run w = _
  rw [h]
  rfl

variable {cinder env w} {record : VolumeAttachmentRecord}

theorem listed_only (h : record ∈ w.store.listed) : (w.only record.id).store.listed = [record] := by
  obtain ⟨hrow, hstatus⟩ := AttachmentStore.mem_listed.mp h
  have hrows :
      (w.only record.id).store.attachments.rows = [record] := by
    have hfilter :=
      w.store.attachments.filter_key_eq_toList w.store.attachments.keys_nodup (fun _ => Iff.rfl)
        record.id
    rw [hrow, Option.toList_some] at hfilter
    rw [← hfilter]
    show w.store.attachments.rows.filter _ = _
    congr 1
    funext r
    simp
  unfold AttachmentStore.listed
  rw [hrows, List.filter_cons_of_pos (by simpa using hstatus)]
  rfl

theorem view_only : view record.id (w.only record.id) = view record.id w := by
  have hrow :
      (w.only record.id).store.attachments.get? record.id =
        w.store.attachments.get? record.id := by
    show (w.store.attachments.deleteWhere _).get? record.id = _
    rw [Table.get?_deleteWhere]
    cases hget : w.store.attachments.get? record.id with
    | none => rfl
    | some r =>
      have := w.store.attachments.key_of_get? hget
      simp [Option.filter, this]
  simp only [view, hrow]
  rfl

theorem view_pass_only (hlisting : env.listing = none) (h : record ∈ w.store.listed) :
    view record.id (pass cinder env (w.only record.id)).2 =
      view record.id (alone (passExec env) (reconcileStep cinder record).run w).2 := by
  have hstep := inLane_reconcileStep env cinder
  have hsolo :
      view record.id
          (alone (passExec env) (reconcileStep cinder record).run (w.only record.id)).2 =
        view record.id (alone (passExec env) (reconcileStep cinder record).run w).2 :=
    (alone_congr (passFound_passExec env) (hstep record) view_only).2
  rw [pass_of_listing_answered cinder env _ hlisting, listed_only h, ← hsolo]
  by_cases hok : Succeeds (passExec env) (reconcileStep cinder) (w.only record.id) record
  · rw [alone_sweep_cons_of_succeeds hok]
    rfl
  · rw [alone_sweep_cons_of_fails hok]

end Pass

/-- The pass attempts every due record and leaves of each what a pass over it
alone leaves: its row, its external calls and whether it is in flight. -/
def Unhindered (cinder : Bool) (env : PassAnswers) (w : PassWorld) : Prop :=
  ∀ record ∈ w.due,
    (pass cinder env w).2.asked record.id ≠ w.asked record.id ∧
      view record.id (pass cinder env w).2 =
        view record.id (pass cinder env (w.only record.id)).2

/-- **A stuck attachment and the others.**  A pass is unhindered exactly when no
record is due, or the listing is answered and every due record but the last is
quiet. -/
theorem reconcile_unhindered_iff (cinder : Bool) (env : PassAnswers) (w : PassWorld) :
    Unhindered cinder env w ↔
      w.due = [] ∨
        (env.listing = none ∧
          ∀ record ∈ w.due.dropLast, Quiet cinder (env.onward w record.id) w.store record) := by
  cases hlisting : env.listing with
  | some fault =>
    rw [List.eq_nil_iff_forall_not_mem]
    unfold Unhindered
    rw [pass_of_listing_fails cinder env w hlisting]
    simp
  | none =>
    have hmem : ∀ {record}, record ∈ w.due →
        record ∈ w.store.listed ∧ w.store.inFlight record.id = false := by
      intro record h
      simpa [PassWorld.due] using h
    have hidle :
        ∀ record ∈ w.store.listed, (!w.store.inFlight record.id) = false →
          Succeeds (passExec env) (reconcileStep cinder) w record := by
      intro record _ hidle
      have hflight : w.store.inFlight record.id = true := by simpa using hidle
      rw [Succeeds, alone_reconcileStep_of_inFlight hflight]
    have hmoves :
        ∀ record ∈ w.store.listed, (!w.store.inFlight record.id) = true →
          view record.id (alone (passExec env) (reconcileStep cinder record).run w).2 ≠
            view record.id w := by
      intro record _ hdue heq
      have hflight : w.store.inFlight record.id = false := by simpa using hdue
      have hlt :
          (w.asked record.id).length <
            ((alone (passExec env) (reconcileStep cinder record).run w).2.asked record.id).length :=
        asked_reconcileStep_of_due hflight
      have hasked := congrArg RecordView.asked heq
      exact absurd (congrArg List.length hasked) (Nat.ne_of_gt hlt)
    have hsweep :
        (∀ record ∈ w.store.listed, (!w.store.inFlight record.id) = true →
            Reached (passExec env) view (reconcileStep cinder) VolumeAttachmentRecord.id w
              (pass cinder env w).2 record) ↔
          ∀ record ∈ w.due.dropLast,
            Succeeds (passExec env) (reconcileStep cinder) w record := by
      rw [pass_of_listing_answered cinder env w hlisting]
      exact sweep_reaches_iff (passFound_passExec env) (inLane_reconcileStep env cinder)
        w.store.listed w.store.listed_nodup hidle hmoves (fun _ _ => rfl)
    have hquiet :
        (∀ record ∈ w.due.dropLast, Succeeds (passExec env) (reconcileStep cinder) w record) ↔
          ∀ record ∈ w.due.dropLast,
            Quiet cinder (env.onward w record.id) w.store record := by
      refine forall₂_congr fun record hrecord => ?_
      obtain ⟨hlisted, hflight⟩ := hmem ((List.dropLast_subset _) hrecord)
      exact succeeds_reconcileStep hflight (AttachmentStore.mem_listed.mp hlisted).1
    have hreached :
        Unhindered cinder env w ↔
          ∀ record ∈ w.store.listed, (!w.store.inFlight record.id) = true →
            Reached (passExec env) view (reconcileStep cinder) VolumeAttachmentRecord.id w
              (pass cinder env w).2 record := by
      constructor
      · intro h record hlisted hdue
        have := (h record (List.mem_filter.mpr ⟨hlisted, hdue⟩)).2
        exact this.trans (view_pass_only hlisting hlisted)
      · intro h record hrecord
        obtain ⟨hlisted, hflight⟩ := hmem hrecord
        have hthis := h record hlisted (by simpa using hflight)
        refine ⟨?_, hthis.trans (view_pass_only hlisting hlisted).symm⟩
        have hlt :
          (w.asked record.id).length <
            ((alone (passExec env) (reconcileStep cinder record).run w).2.asked record.id).length :=
        asked_reconcileStep_of_due hflight
        have hasked := congrArg RecordView.asked hthis
        exact fun h => absurd (congrArg List.length (h.symm.trans hasked)) (Nat.ne_of_lt hlt)
    rw [hreached, hsweep, hquiet]
    constructor
    · exact fun h => Or.inr ⟨rfl, h⟩
    · rintro (hdue | ⟨-, h⟩)
      · rw [hdue]
        exact fun _ h => by cases h
      · exact h

/-- An update whose outcome is unknown, and a record that has just been made. -/
def stuckRecord : VolumeAttachmentRecord where
  id := "attachment-1"
  serverId := "server-1"
  volumeId := "volume-1"
  device := "/dev/vdb"
  createdAt := "2026-01-01T00:00:00Z"
  status := .unknown
  cinderAttachmentId := some "cinder-1"
  connectorHost := some "host-1"
  connectorIp := some "10.0.0.5"
  connectorInitiator := none
  driverVolumeType := none
  targetIqn := none
  targetPortal := none
  targetLun := none
  connectionInfoDigest := none
  error := some "attachment service is unavailable"

def waitingRecord : VolumeAttachmentRecord :=
  { stuckRecord with
    id := "attachment-2"
    volumeId := "volume-2"
    createdAt := "2026-01-01T00:00:01Z"
    status := .validated
    cinderAttachmentId := none
    connectorHost := none
    connectorIp := none
    error := none }

def serverOne : ResourceRecord where
  id := "server-1"
  kind := "compute_instance"
  projectId := "project-1"
  generation := 1
  observedGeneration := 1
  desiredState := "active"
  observedState := "active"
  providerId := none

def stuckWorld : PassWorld where
  store :=
    { attachments := Table.ofList [stuckRecord, waitingRecord]
      resources := Table.ofList [serverOne]
      inFlight := fun _ => false }
  asked := fun _ => []

/-- The service shows the first attachment open and is not available after that. -/
def unavailableAfterShow : PassAnswers where
  listing := none
  answers _ n :=
    if n = 1 then
      { attachment := .ok ⟨"cinder-1", "attaching", "volume-1", none⟩ }
    else {}

/-- The second record is not attempted. -/
theorem waiting_record_hindered : ¬ Unhindered true unavailableAfterShow stuckWorld := by
  intro h
  have hdue : waitingRecord ∈ stuckWorld.due := by decide +kernel
  have hasked :
      (pass true unavailableAfterShow stuckWorld).2.asked waitingRecord.id = [] := by
    decide +kernel
  exact (h waitingRecord hdue).1 hasked

end Attachments
end O3k
