import O3k.Storage.Effects

/-!
# Volumes and attachments, between any two writes

The invariant of the rows of the workflow.  A volume that is in use has an
attachment that is attached, or one on its way out that a command still works
on; an attachment that is attached keeps its volume in use, or a command still
works on it.
-/

namespace O3k
namespace Storage

open Relational Operations

namespace StorageWorld

variable (w : StorageWorld)

/-- A command of the attachment is in progress or awaits reconciliation. -/
def Open (attachmentId : Uuid) : Prop :=
  ∃ c ∈ w.commands.rows, c.resourceId = attachmentId ∧ c.state.isTerminal = false

/-- All commands of the volume have succeeded or failed. -/
def Settled (volumeId : Uuid) : Prop :=
  ∀ c ∈ w.commands.rows, ∀ a ∈ w.attachments.rows,
    a.id = c.resourceId → a.attachment.volumeId = volumeId → c.state.isTerminal = true

/-- The volume is in use exactly if it has an attachment that is attached. -/
def Agrees (v : VolumeRecord) : Prop :=
  v.volume.state = .inUse
    ↔
  ∃ a ∈ w.attachments.rows, a.attachment.volumeId = v.id ∧ a.attachment.state = .attached

/-- Volumes whose commands are settled agree with their attachments. -/
def VolumesAgree : Prop := ∀ v ∈ w.volumes.rows, w.Settled v.id → w.Agrees v

instance (attachmentId : Uuid) : Decidable (w.Open attachmentId) :=
  inferInstanceAs (Decidable (∃ c ∈ w.commands.rows, _))

instance (volumeId : Uuid) : Decidable (w.Settled volumeId) :=
  inferInstanceAs (Decidable (∀ c ∈ w.commands.rows, ∀ a ∈ w.attachments.rows, _))

instance (v : VolumeRecord) : Decidable (w.Agrees v) :=
  inferInstanceAs (Decidable (_ ↔ ∃ a ∈ w.attachments.rows, _))

instance : Decidable w.VolumesAgree :=
  inferInstanceAs (Decidable (∀ v ∈ w.volumes.rows, _))

/-- What may keep a volume in use. -/
def Supports (a : VolumeAttachmentRecordV1) : Prop :=
  a.attachment.state = .attached ∨
    (a.attachment.state = .detaching ∨ a.attachment.state = .detached) ∧ w.Open a.id

/-- The volume of the attachment is not in use. -/
def NotInUse (volumeId : Uuid) : Prop :=
  ∀ v ∈ w.volumes.rows, v.id = volumeId → v.volume.state ≠ .inUse

/-- Every attachment of the volume that is attached has an open command. -/
def Unclaimed (volumeId : Uuid) : Prop :=
  ∀ a ∈ w.attachments.rows, a.attachment.volumeId = volumeId →
    a.attachment.state = .attached → w.Open a.id

instance (volumeId : Uuid) : Decidable (w.NotInUse volumeId) :=
  inferInstanceAs (Decidable (∀ v ∈ w.volumes.rows, _))

instance (volumeId : Uuid) : Decidable (w.Unclaimed volumeId) :=
  inferInstanceAs (Decidable (∀ a ∈ w.attachments.rows, _))

end StorageWorld

/-- The invariant. -/
structure Consistent (lib : StorageLibrary) (w : StorageWorld) : Prop where
  live :
    ∀ a ∈ w.attachments.rows, ∀ b ∈ w.attachments.rows,
      a.attachment.volumeId = b.attachment.volumeId →
        a.attachment.state ≠ .deleted → b.attachment.state ≠ .deleted → a.id = b.id
  attached :
    ∀ a ∈ w.attachments.rows, a.attachment.state = .attached →
      (∀ v ∈ w.volumes.rows, v.id = a.attachment.volumeId → v.volume.state = .inUse) ∨
        w.Open a.id
  inUse :
    ∀ v ∈ w.volumes.rows, v.volume.state = .inUse →
      ∃ a ∈ w.attachments.rows, a.attachment.volumeId = v.id ∧ w.Supports a
  payload :
    ∀ c ∈ w.commands.rows,
      ∃ e, lib.decodeEnvelope c.payload = some e ∧ e.resourceId = c.resourceId

variable {lib : StorageLibrary} {w : StorageWorld}

theorem Consistent.volumesAgree (h : Consistent lib w) : w.VolumesAgree := by
  intro v hv hsettled
  have hclosed : ∀ a ∈ w.attachments.rows, a.attachment.volumeId = v.id → ¬ w.Open a.id := by
    rintro a ha hvolume ⟨c, hc, hresource, hopen⟩
    have hdone := hsettled c hc a ha hresource.symm hvolume
    simp [hopen] at hdone
  constructor
  · intro hinUse
    obtain ⟨a, ha, hvolume, hsupports⟩ := h.inUse v hv hinUse
    rcases hsupports with hattached | ⟨_, hopen⟩
    · exact ⟨a, ha, hvolume, hattached⟩
    · exact absurd hopen (hclosed a ha hvolume)
  · rintro ⟨a, ha, hvolume, hattached⟩
    rcases h.attached a ha hattached with hinUse | hopen
    · exact hinUse v hv hvolume.symm
    · exact absurd hopen (hclosed a ha hvolume)

variable {a : VolumeAttachmentRecordV1}

/-- A live attachment that does not keep its volume in use is the only one
that could. -/
theorem Consistent.notInUse
    (h : Consistent lib w) (ha : a ∈ w.attachments.rows) (hlive : a.attachment.state ≠ .deleted)
    (hstate :
      a.attachment.state ≠ .attached ∧ a.attachment.state ≠ .detaching ∧
        a.attachment.state ≠ .detached) :
    w.NotInUse a.attachment.volumeId := by
  intro v hv hvolume hinUse
  obtain ⟨b, hb, hvolume', hsupports⟩ := h.inUse v hv hinUse
  have hlive' : b.attachment.state ≠ .deleted := by
    intro hdeleted
    simp [StorageWorld.Supports, hdeleted] at hsupports
  have hsame : b = a :=
    w.attachments.eq_of_mem_of_key_eq hb ha
      (h.live b hb a ha (hvolume'.trans hvolume) hlive' hlive)
  subst hsame
  simp [StorageWorld.Supports, hstate] at hsupports

theorem Consistent.unclaimed
    (h : Consistent lib w) (ha : a ∈ w.attachments.rows) (hlive : a.attachment.state ≠ .deleted)
    (hstate : a.attachment.state ≠ .attached) :
    w.Unclaimed a.attachment.volumeId := by
  intro b hb hvolume hattached
  have hlive' : b.attachment.state ≠ .deleted := by
    simp [hattached]
  have hsame : b = a :=
    w.attachments.eq_of_mem_of_key_eq hb ha (h.live b hb a ha hvolume hlive' hlive)
  subst hsame
  exact absurd hattached hstate

/-- An attachment moves under an open command: while its volume is in use it
stays attached or goes out. -/
theorem Consistent.putAttachment
    (h : Consistent lib w) {s : VolumeAttachmentState} (ha : a ∈ w.attachments.rows)
    (htaken : w.liveVolumeTaken (a.moved s) = false) (hopen : w.Open a.id)
    (hinUse : ¬ w.NotInUse a.attachment.volumeId → s = .attached ∨ s = .detaching ∨ s = .detached) :
    Consistent lib (w.putAttachment (a.moved s)) := by
  have halone := liveVolumeTaken_eq_false_iff.mp htaken
  have hmem : ∀ {x}, x ∈ (w.putAttachment (a.moved s)).attachments.rows →
      x = a.moved s ∨ x ∈ w.attachments.rows ∧ x.id ≠ a.id :=
    fun hx => w.attachments.mem_put.mp hx
  refine ⟨?_, ?_, ?_, h.payload⟩
  · intro x hx y hy hvolume hxlive hylive
    rcases hmem hx with rfl | ⟨hx', _⟩ <;> rcases hmem hy with rfl | ⟨hy', _⟩
    · rfl
    · exact (halone hxlive y hy' hvolume.symm hylive).symm
    · exact halone hylive x hx' hvolume hxlive
    · exact h.live x hx' y hy' hvolume hxlive hylive
  · intro x hx hattached
    rcases hmem hx with rfl | ⟨hx, _⟩
    · exact Or.inr hopen
    · exact h.attached x hx hattached
  · intro v hv hv'
    obtain ⟨b, hb, hvolume, hsupports⟩ := h.inUse v hv hv'
    by_cases hsame : b.id = a.id
    · cases w.attachments.eq_of_mem_of_key_eq hb ha hsame
      refine ⟨a.moved s, w.attachments.mem_put.mpr (Or.inl rfl), hvolume, ?_⟩
      rcases hinUse (fun hnot => hnot v hv hvolume.symm hv') with hs | hs
      · exact Or.inl hs
      · exact Or.inr ⟨hs, hopen⟩
    · exact ⟨b, w.attachments.mem_put.mpr (Or.inr ⟨hb, hsame⟩), hvolume, hsupports⟩

theorem Consistent.insertAttachment (h : Consistent lib w) (hnew : w.attachments.get? a.id = none)
    (htaken : w.liveVolumeTaken a = false) (hreserved : a.attachment.state = .reserved) :
    Consistent lib (w.putAttachment a) := by
  have halone := liveVolumeTaken_eq_false_iff.mp htaken
  have hmem : ∀ {x}, x ∈ (w.putAttachment a).attachments.rows →
      x = a ∨ x ∈ w.attachments.rows ∧ x.id ≠ a.id :=
    fun hx => w.attachments.mem_put.mp hx
  refine ⟨?_, ?_, ?_, h.payload⟩
  · intro x hx y hy hvolume hxlive hylive
    rcases hmem hx with rfl | ⟨hx', _⟩ <;> rcases hmem hy with rfl | ⟨hy', _⟩
    · rfl
    · exact (halone hxlive y hy' hvolume.symm hylive).symm
    · exact halone hylive x hx' hvolume hxlive
    · exact h.live x hx' y hy' hvolume hxlive hylive
  · intro x hx hattached
    rcases hmem hx with rfl | ⟨hx, _⟩
    · simp [hreserved] at hattached
    · exact h.attached x hx hattached
  · intro v hv hv'
    obtain ⟨b, hb, hvolume, hsupports⟩ := h.inUse v hv hv'
    have hne : b.id ≠ a.id := w.attachments.get?_eq_none_iff.mp hnew b hb
    exact ⟨b, w.attachments.mem_put.mpr (Or.inr ⟨hb, hne⟩), hvolume, hsupports⟩

theorem Consistent.putVolume_inUse
    (h : Consistent lib w) {v : VolumeRecord} (ha : a ∈ w.attachments.rows)
    (hvolume : a.attachment.volumeId = v.id) (hattached : a.attachment.state = .attached)
    (hv : v.volume.state = .inUse) :
    Consistent lib (w.putVolume v) := by
  refine ⟨h.live, ?_, ?_, h.payload⟩
  · intro x hx hx'
    refine (h.attached x hx hx').imp ?_ fun hopen => hopen
    intro hall u hu hvolume'
    rcases w.volumes.mem_put.mp hu with rfl | ⟨hu, _⟩
    · exact hv
    · exact hall u hu hvolume'
  · intro u hu hu'
    rcases w.volumes.mem_put.mp hu with rfl | ⟨hu, _⟩
    · exact ⟨a, ha, hvolume, Or.inl hattached⟩
    · exact h.inUse u hu hu'

theorem Consistent.putVolume_notInUse
    (h : Consistent lib w) {v : VolumeRecord} (hunclaimed : w.Unclaimed v.id)
    (hv : v.volume.state ≠ .inUse) :
    Consistent lib (w.putVolume v) := by
  refine ⟨h.live, ?_, ?_, h.payload⟩
  · intro x hx hx'
    by_cases hvolume : x.attachment.volumeId = v.id
    · exact Or.inr (hunclaimed x hx hvolume hx')
    · refine (h.attached x hx hx').imp ?_ fun hopen => hopen
      intro hall u hu hvolume'
      rcases w.volumes.mem_put.mp hu with rfl | ⟨hu, _⟩
      · exact absurd hvolume'.symm hvolume
      · exact hall u hu hvolume'
  · intro u hu hu'
    rcases w.volumes.mem_put.mp hu with rfl | ⟨hu, _⟩
    · exact absurd hu' hv
    · exact h.inUse u hu hu'

theorem Consistent.putCommand (h : Consistent lib w) {c : AgentCommandRecord}
    (hpayload : ∃ e, lib.decodeEnvelope c.payload = some e ∧ e.resourceId = c.resourceId)
    (hsame : ∀ old, w.commands.get? c.commandId = some old → old.resourceId = c.resourceId)
    (hclose :
      c.state.isTerminal = true →
        ∀ a ∈ w.attachments.rows, a.id = c.resourceId →
          (a.attachment.state = .attached →
            ∀ v ∈ w.volumes.rows, v.id = a.attachment.volumeId → v.volume.state = .inUse) ∧
          a.attachment.state ≠ .detaching ∧ a.attachment.state ≠ .detached) :
    Consistent lib { w with commands := w.commands.put c } := by
  -- an attachment of another resource keeps its open command
  have hopen : ∀ {id}, w.Open id → (c.state.isTerminal = true → id ≠ c.resourceId) →
      StorageWorld.Open { w with commands := w.commands.put c } id := by
    rintro id ⟨d, hd, hresource, hstate⟩ hid
    by_cases hc : c.state.isTerminal = true
    · refine ⟨d, w.commands.mem_put.mpr (Or.inr ⟨hd, ?_⟩), hresource, hstate⟩
      intro hkey
      have hold := hsame d (hkey ▸ w.commands.get?_key_of_mem hd)
      exact hid hc (hresource.symm.trans hold)
    · by_cases hkey : d.commandId = c.commandId
      · refine ⟨c, w.commands.mem_put.mpr (Or.inl rfl), ?_, by simpa using hc⟩
        exact (hsame d (hkey ▸ w.commands.get?_key_of_mem hd)).symm.trans hresource
      · exact ⟨d, w.commands.mem_put.mpr (Or.inr ⟨hd, hkey⟩), hresource, hstate⟩
  refine ⟨h.live, ?_, ?_, ?_⟩
  · intro a ha hattached
    by_cases hclosed : c.state.isTerminal = true ∧ a.id = c.resourceId
    · exact Or.inl ((hclose hclosed.1 a ha hclosed.2).1 hattached)
    · exact (h.attached a ha hattached).imp id fun h => hopen h (fun hc hid => hclosed ⟨hc, hid⟩)
  · intro v hv hinUse
    obtain ⟨a, ha, hvolume, hsupports⟩ := h.inUse v hv hinUse
    refine ⟨a, ha, hvolume, ?_⟩
    rcases hsupports with hattached | ⟨hstate, hwas⟩
    · exact Or.inl hattached
    · refine Or.inr ⟨hstate, hopen hwas ?_⟩
      intro hc hid
      obtain ⟨_, hne⟩ := hclose hc a ha hid
      exact hstate.elim hne.1 hne.2
  · intro d hd
    rcases w.commands.mem_put.mp hd with rfl | ⟨hd, _⟩
    · exact hpayload
    · exact h.payload d hd

theorem Consistent.congr
    (h : Consistent lib w) {w' : StorageWorld} (hvolumes : w'.volumes = w.volumes)
    (hattachments : w'.attachments = w.attachments) (hcommands : w'.commands = w.commands) :
    Consistent lib w' := by
  obtain ⟨live, attached, inUse, payload⟩ := h
  cases w'
  cases w
  cases hvolumes
  cases hattachments
  cases hcommands
  exact ⟨live, attached, inUse, payload⟩

end Storage
end O3k
