import O3k.Attachments.Locality
import O3k.Semantics.Endings

/-!
# When the reconciliation of a record returns

`reconcile_record` hands some errors to its caller and drops others.  `Quiet`
says, in terms of the record and of what is answered for it, when it returns
without an error.
-/

namespace O3k
namespace Attachments

open Relational Operations Semantics Program

section Answered

variable {α : Type} {xs : Nat → Answer} {w : AttachmentStore}

/-- The method returns without an error. -/
def Returns (xs : Nat → Answer) (p : Orchestrated α) (w : AttachmentStore) : Prop :=
  ∃ a, (Program.answered exec xs p.run w).1 = .ok a

/-- The answers after the first `n`. -/
def after (n : Nat) (xs : Nat → Answer) : Nat → Answer :=
  fun k => xs (k + n)

theorem returns_ask_bind {c : AttachmentCall} {f : AttachmentReply c → Orchestrated α} :
    Returns xs (ask c >>= f) w ↔ Returns (after 1 xs) (f (exec c (xs 0) w).1) (exec c (xs 0) w).2 :=
  Iff.rfl

theorem received_eq_ok_iff {β : Type} {fault : Option Fault} {r : Except StoreError β} {b : β} :
    received fault r = .ok b ↔ fault = none ∧ r = .ok b := by
  cases fault <;> simp [received]

/-- A statement whose error is passed on. -/
structure PassesOn {β γ : Type} (K : Except StoreError β → Orchestrated γ) (g : β → γ) : Prop where
  error : ∀ e, K (.error e) = throw (.store e)
  ok : ∀ b, K (.ok b) = pure (g b)

section PassesOn

variable {β γ : Type} {K : Except StoreError β → Orchestrated γ} {g : β → γ}

theorem PassesOn.returns
    (h : PassesOn K g) (c : AttachmentCall) (read : AttachmentReply c → Except StoreError β) :
    Returns xs (ask c >>= fun r => K (read r)) w ↔ ∃ b, read (exec c (xs 0) w).1 = .ok b := by
  show (∃ a, (Program.answered exec (after 1 xs) (K (read (exec c (xs 0) w).1)).run
    (exec c (xs 0) w).2).1 = .ok a) ↔ _
  cases read (exec c (xs 0) w).1 with
  | error e =>
    rw [h.error]
    exact ⟨(fun ⟨_, ha⟩ => by cases ha), fun ⟨_, hb⟩ => by cases hb⟩
  | ok b =>
    rw [h.ok]
    exact ⟨fun _ => ⟨b, rfl⟩, fun _ => ⟨g b, rfl⟩⟩

theorem PassesOn.returns_bind (h : PassesOn K g)
    (c : AttachmentCall) (read : AttachmentReply c → Except StoreError β) {f : γ → Orchestrated α} :
    Returns xs ((ask c >>= fun r => K (read r)) >>= f) w ↔
      ∃ b, read (exec c (xs 0) w).1 = .ok b ∧
        Returns (after 1 xs) (f (g b)) (exec c (xs 0) w).2 := by
  show (∃ a, (Program.answered exec (after 1 xs) (K (read (exec c (xs 0) w).1) >>= f).run
    (exec c (xs 0) w).2).1 = .ok a) ↔ _
  cases hread : read (exec c (xs 0) w).1 with
  | error e =>
    rw [h.error]
    exact ⟨(fun ⟨_, ha⟩ => by cases ha), fun ⟨_, hb, _⟩ => by cases hb⟩
  | ok b =>
    rw [h.ok]
    constructor
    · exact fun hf => ⟨b, rfl, hf⟩
    · rintro ⟨b', hb', hf⟩
      cases hb'
      exact hf

end PassesOn

theorem passesOn_given {β : Type} : PassesOn (given : Except StoreError β → Orchestrated β) id :=
  ⟨fun _ => rfl, fun _ => rfl⟩

theorem passesOn_given_map {β γ : Type} (g : β → γ) :
    PassesOn (fun r : Except StoreError β => given r >>= fun b => pure (g b)) g :=
  ⟨fun _ => rfl, fun _ => rfl⟩

theorem returns_projectForServer_bind {serverId : Uuid} {f : String → Orchestrated α} :
    Returns xs (projectForServer serverId >>= f) w ↔
      (xs 0).fault = none ∧
        ∃ resource, w.resources.get? serverId = some resource ∧
          Returns (after 1 xs) (f resource.projectId) w := by
  refine ((passesOn_given_map ResourceRecord.projectId).returns_bind
    (.getResource serverId) (fun r => r)).trans ?_
  show (∃ b : ResourceRecord, received (xs 0).fault _ = .ok b ∧
    Returns (after 1 xs) (f b.projectId) w) ↔ _
  simp only [received_eq_ok_iff]
  cases w.resources.get? serverId <;> simp

variable {id : Uuid} {record : VolumeAttachmentRecord}

theorem returns_getById_bind (hrow : w.attachments.get? id = some record)
    {f : Option VolumeAttachmentRecord → Orchestrated α} :
    Returns xs (getById id >>= f) w ↔
      (xs 0).fault = none ∧ Returns (after 1 xs) (f (some record)) w := by
  refine (passesOn_given.returns_bind (.getVolumeAttachmentById id) (fun r => r)).trans ?_
  show (∃ b, received (xs 0).fault (.ok (w.attachments.get? id)) = .ok b ∧
    Returns (after 1 xs) (f b) w) ↔ _
  simp [received_eq_ok_iff, hrow]

variable {status : AttachmentStatus}

theorem returns_of_advance (hrow : w.attachments.get? id = some record)
    {f : VolumeAttachmentRecord → VolumeAttachmentRecord} {hid : ∀ r, (f r).id = r.id}
    {p : Prop} {next : Orchestrated α}
    (hp :
      p ↔ ∃ b, (w.advance (xs 0).fault id f hid).1 = .ok b ∧
        Returns (after 1 xs) next (w.advance (xs 0).fault id f hid).2) :
    p ↔ (xs 0).fault = none ∧ Returns (after 1 xs) next (w.updateById id f hid) := by
  have hstore :
      (xs 0).fault = none → (w.advance (xs 0).fault id f hid).2 = w.updateById id f hid := by
    intro hfault
    rw [hfault]
    rfl
  rw [hp]
  simp only [AttachmentStore.advance_reply, received_eq_ok_iff, hrow, Option.map_some,
    Option.elim_some]
  constructor
  · rintro ⟨b, ⟨hfault, -⟩, h⟩
    exact ⟨hfault, hstore hfault ▸ h⟩
  · rintro ⟨hfault, h⟩
    exact ⟨_, ⟨hfault, rfl⟩, (hstore hfault).symm ▸ h⟩

theorem returns_setPhase_bind (hrow : w.attachments.get? id = some record)
    {error : Option String} {f : Unit → Orchestrated α} :
    Returns xs (setPhase id status error >>= f) w ↔
      (xs 0).fault = none ∧
        Returns (after 1 xs) (f ())
          (w.updateById id (·.withPhase status error) (fun _ => rfl)) :=
  returns_of_advance hrow ((passesOn_given_map (fun _ => ())).returns_bind
    (.updatePhase id status error) (fun r => r))

theorem returns_setPhase (hrow : w.attachments.get? id = some record) {error : Option String} :
    Returns xs (setPhase id status error) w ↔ (xs 0).fault = none := by
  refine ((passesOn_given_map (fun _ => ())).returns
    (.updatePhase id status error) (fun r => r)).trans ?_
  simp [exec_updatePhase_reply, received_eq_ok_iff, hrow]

theorem returns_setOutcome_bind (hrow : w.attachments.get? id = some record)
    {outcome : AttachmentOutcome} {f : Unit → Orchestrated α} :
    Returns xs (setOutcome id status outcome >>= f) w ↔
      (xs 0).fault = none ∧
        Returns (after 1 xs) (f ())
          (w.updateById id (·.withOutcome status outcome) (fun _ => rfl)) :=
  returns_of_advance hrow ((passesOn_given_map (fun _ => ())).returns_bind
    (.updateOutcome id status outcome) (fun r => r))

theorem returns_attempt {β : Type} (p : Orchestrated β) : Returns xs (do let _ ← attempt p) w := by
  suffices h :
      ∀ q : AttachmentProgram (Except ComputeError β),
        Returns xs (do let _ ← (ExceptT.lift q : Orchestrated (Except ComputeError β))) w from
    h p.run
  intro q
  induction q generalizing xs w with
  | done r => exact ⟨(), rfl⟩
  | call c next ih => exact ih _

theorem returns_bind_pure {β : Type} (p : Orchestrated β) :
    Returns xs (do let _ ← p) w ↔ Returns xs p w := by
  suffices h :
      ∀ q : AttachmentProgram (Except ComputeError β),
        Returns xs (do let _ ← (ExceptT.mk q : Orchestrated β)) w ↔
          Returns xs (ExceptT.mk q) w from
    h p.run
  intro q
  induction q generalizing xs w with
  | done r =>
    cases r with
    | error e => exact ⟨(fun ⟨_, h⟩ => by cases h), fun ⟨_, h⟩ => by cases h⟩
    | ok b => exact ⟨fun _ => ⟨b, rfl⟩, fun _ => ⟨(), rfl⟩⟩
  | call c next ih => exact ih _

end Answered

section Quiet

variable (cinder : Bool) (xs : Nat → Answer) (w : AttachmentStore)
variable (projectId : String) (record : VolumeAttachmentRecord)

/-- The row is read again and its attach flow runs to its end. -/
def ResumedQuietly : Prop :=
  (xs 0).fault = none ∧ Returns (after 1 xs) (continueAttach cinder projectId record) w

def QuietUncreated : Prop :=
  match (xs 0).listed with
  | .ok attachments =>
    match attachments.find? (fun a => a.volumeId = record.volumeId) with
    | some observed =>
      (xs 1).fault = none ∧
        ResumedQuietly cinder (after 2 xs)
          (w.updateById record.id
            (·.withOutcome .cinderAttachmentCreated { cinderAttachmentId := some observed.id })
            (fun _ => rfl))
          projectId
          (record.withOutcome .cinderAttachmentCreated { cinderAttachmentId := some observed.id })
    | none => (xs 1).fault = none
  | .error _ => (xs 1).fault = none

def QuietCreated : Prop :=
  match (xs 0).attachment with
  | .ok attachment =>
    if isOpenState attachment.status then
      (xs 1).fault = none ∧
        ResumedQuietly cinder (after 2 xs)
          (w.updateById record.id (·.withPhase (resumedPhase attachment) none) (fun _ => rfl))
          projectId (record.withPhase (resumedPhase attachment) none)
    else (xs 1).fault = none
  | .error (.notFound _) => (xs 2).fault = none
  | .error _ => (xs 1).fault = none

def ProjectRead (P : String → Prop) : Prop :=
  (xs 0).fault = none ∧
    ∃ resource, w.resources.get? record.serverId = some resource ∧ P resource.projectId

def QuietUnknown : Prop :=
  if record.isDetachUnknown then ProjectRead xs w record (fun _ => True)
  else
    match cinder with
    | false => (xs 0).fault = none
    | true =>
      ProjectRead xs w record fun projectId =>
        match record.cinderAttachmentId with
        | none => QuietUncreated cinder (after 1 xs) w projectId record
        | some _ => QuietCreated cinder (after 1 xs) w projectId record

def QuietInProgress : Prop :=
  ProjectRead xs w record fun projectId =>
    (xs 1).fault = none ∧
      (isDetachPhase record.status = false →
        (xs 3).fault = none ∧
          (isAttached (xs 2).observed = true →
            ResumedQuietly cinder (after 4 xs)
              (w.updateById record.id (·.withPhase .computeAttached none) (fun _ => rfl))
              projectId (record.withPhase .computeAttached none)))

/-- **A record that does not stop the pass**: the statements that
`reconcile_record` makes itself are answered, the record's server is there, and
an attach flow whose error it would pass on, for an unknown outcome that the
service shows open or an attached device, runs to its end. -/
def Quiet : Prop :=
  if record.status = .unknown then QuietUnknown cinder xs w record
  else QuietInProgress cinder xs w record

variable {cinder xs w projectId record}

theorem get?_updated {f : VolumeAttachmentRecord → VolumeAttachmentRecord}
    {hid : ∀ r, (f r).id = r.id} (hrow : w.attachments.get? record.id = some record) :
    (w.updateById record.id f hid).attachments.get? record.id = some (f record) := by
  rw [AttachmentStore.get?_updateById, if_pos rfl, hrow]
  rfl

theorem returns_resumeAttach {row : VolumeAttachmentRecord}
    (hrow : w.attachments.get? record.id = some row) :
    Returns xs (resumeAttach cinder projectId record) w ↔
      ResumedQuietly cinder xs w projectId row := by
  exact (returns_getById_bind hrow).trans (and_congr_right fun _ => returns_bind_pure _)

variable (hrow : w.attachments.get? record.id = some record)

include hrow

theorem returns_reconcileUncreated :
    Returns xs (reconcileUncreated cinder projectId record) w ↔
      QuietUncreated cinder xs w projectId record := by
  refine returns_ask_bind.trans ?_
  dsimp only [exec]
  unfold QuietUncreated
  cases (xs 0).listed with
  | error e => exact returns_setPhase hrow
  | ok attachments =>
    show Returns (after 1 xs) (match attachments.find? _ with | some _ => _ | none => _) w ↔ _
    dsimp only
    cases attachments.find? (fun a => a.volumeId = record.volumeId) with
    | none => exact returns_setPhase hrow
    | some observed =>
      exact (returns_setOutcome_bind hrow).trans
        (and_congr_right fun _ => returns_resumeAttach (get?_updated hrow))

theorem returns_reconcileCreated (cinderAttachmentId : String) :
    Returns xs (reconcileCreated cinder projectId cinderAttachmentId record) w ↔
      QuietCreated cinder xs w projectId record := by
  refine returns_ask_bind.trans ?_
  dsimp only [exec]
  unfold QuietCreated
  cases (xs 0).attachment with
  | error e =>
    cases e
    case notFound =>
      exact returns_ask_bind.trans (returns_setPhase hrow)
    all_goals exact returns_setPhase hrow
  | ok attachment =>
    show Returns (after 1 xs) (if _ then _ else if _ then _ else _) w ↔ _
    dsimp only
    by_cases hattached : attachment.status = "attached"
    · have hopen : isOpenState attachment.status = false := by
        rw [hattached]
        decide
      rw [if_pos hattached, hopen]
      exact returns_setPhase hrow
    · rw [if_neg hattached]
      split
      · exact (returns_setPhase_bind hrow).trans
          (and_congr_right fun _ => returns_resumeAttach (get?_updated hrow))
      · exact returns_setPhase hrow

theorem returns_reconcileUnknown :
    Returns xs (reconcileUnknown cinder record) w ↔ QuietUnknown cinder xs w record := by
  unfold reconcileUnknown QuietUnknown
  split
  · exact returns_projectForServer_bind.trans
      (and_congr_right fun _ => exists_congr fun _ => and_congr_right fun _ =>
        iff_true_intro (returns_attempt _))
  · cases cinder with
    | false => exact returns_setPhase hrow
    | true =>
      refine returns_projectForServer_bind.trans
        (and_congr_right fun _ => exists_congr fun _ => and_congr_right fun _ => ?_)
      cases record.cinderAttachmentId with
      | none => exact returns_reconcileUncreated hrow
      | some cinderAttachmentId => exact returns_reconcileCreated hrow cinderAttachmentId

theorem returns_reconcileInProgress :
    Returns xs (reconcileInProgress cinder record) w ↔ QuietInProgress cinder xs w record := by
  refine returns_projectForServer_bind.trans
    (and_congr_right fun _ => exists_congr fun resource => and_congr_right fun _ => ?_)
  refine (returns_getById_bind hrow).trans (and_congr_right fun _ => ?_)
  show Returns _ (if isDetachPhase record.status then _ else _) w ↔ _
  cases isDetachPhase record.status with
  | true => exact iff_of_true (returns_attempt _) (fun h => by cases h)
  | false =>
    rw [if_neg Bool.false_ne_true]
    refine returns_ask_bind.trans (Iff.trans ?_ (forall_prop_of_true rfl).symm)
    show Returns _ (if isAttached (xs 2).observed then _ else _) w ↔ _
    cases isAttached (xs 2).observed with
    | true =>
      rw [if_pos rfl]
      exact ((returns_setPhase_bind hrow).trans
        (and_congr_right fun _ => returns_resumeAttach (get?_updated hrow))).trans
          (and_congr_right fun _ => (forall_prop_of_true rfl).symm)
    | false =>
      rw [if_neg Bool.false_ne_true]
      refine (returns_getById_bind hrow).trans (and_congr_right fun _ => ?_)
      exact iff_of_true (returns_attempt _) (fun h => by cases h)

theorem returns_reconcileRecord :
    Returns xs (reconcileRecord cinder record) w ↔ Quiet cinder xs w record := by
  unfold reconcileRecord Quiet
  split
  · exact returns_reconcileUnknown hrow
  · exact returns_reconcileInProgress hrow

end Quiet

end Attachments
end O3k
