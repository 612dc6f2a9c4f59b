import O3k.Storage.Consistency

/-!
# The workflow survives its cuts

Under two guards every attempt keeps the invariant of the rows after each of
its calls, and moves attachments by transitions only.

`mark_failed` writes the state `Error` whatever the state was, and leaves the
volume alone; `finish_detached` projects the volume of an attachment that is
gone.  The guards are what these two need.
-/

namespace O3k
namespace Storage

open Relational Semantics Operations

/-- Attachments have been reserved. -/
structure Grown (w w' : StorageWorld) : Prop where
  volumes : w'.volumes = w.volumes
  commands : w'.commands = w.commands
  attachments :
    ∀ id a, w.attachments.get? id = some a → w'.attachments.get? id = some a
  added : ∀ a ∈ w'.attachments.rows, a ∈ w.attachments.rows ∨ a.attachment.state = .reserved

theorem Grown.refl (w : StorageWorld) : Grown w w :=
  ⟨rfl, rfl, fun _ _ h => h, fun _ h => Or.inl h⟩

theorem Grown.trans {w₁ w₂ w₃ : StorageWorld} (h : Grown w₁ w₂) (h' : Grown w₂ w₃) :
    Grown w₁ w₃ := by
  refine ⟨h'.volumes.trans h.volumes, h'.commands.trans h.commands,
    fun id a ha => h'.attachments id a (h.attachments id a ha), ?_⟩
  intro a ha
  rcases h'.added a ha with ha | hreserved
  · exact h.added a ha
  · exact Or.inr hreserved

section Grown

variable {w w' : StorageWorld} (h : Grown w w')

include h

theorem Grown.open_iff {id : Uuid} : w'.Open id ↔ w.Open id := by
  unfold StorageWorld.Open
  rw [h.commands]

theorem Grown.notInUse_iff {volumeId : Uuid} : w'.NotInUse volumeId ↔ w.NotInUse volumeId := by
  unfold StorageWorld.NotInUse
  rw [h.volumes]

theorem Grown.unclaimed {volumeId : Uuid} (hunclaimed : w.Unclaimed volumeId) :
    w'.Unclaimed volumeId := by
  intro a ha hvolume hattached
  rcases h.added a ha with ha | hreserved
  · exact h.open_iff.mpr (hunclaimed a ha hvolume hattached)
  · simp [hattached] at hreserved

end Grown

/-- The row has not changed, or it has made one transition. -/
def Stepped (a a' : VolumeAttachmentRecordV1) : Prop :=
  a' = a ∨ ∃ s, a.attachment.state.permits s = true ∧ a' = a.moved s

/-- Every stored change of an attachment is a transition, one generation on. -/
def KeepsTransitions (w w' : StorageWorld) : Prop :=
  ∀ a ∈ w.attachments.rows, ∃ a', w'.attachments.get? a.id = some a' ∧ Stepped a a'

theorem KeepsTransitions.of_same {w w' : StorageWorld} (h : w'.attachments = w.attachments) :
    KeepsTransitions w w' :=
  fun a ha => ⟨a, h ▸ w.attachments.get?_key_of_mem ha, Or.inl rfl⟩

theorem KeepsTransitions.of_grown {w w' : StorageWorld} (h : Grown w w') : KeepsTransitions w w' :=
  fun a ha => ⟨a, h.attachments _ a (w.attachments.get?_key_of_mem ha), Or.inl rfl⟩

theorem KeepsTransitions.putAttachment {w : StorageWorld} {a : VolumeAttachmentRecordV1}
    {s : VolumeAttachmentState} (ha : a ∈ w.attachments.rows)
    (hpermits : a.attachment.state.permits s = true) :
    KeepsTransitions w (w.putAttachment (a.moved s)) := by
  intro b hb
  by_cases hsame : b.id = a.id
  · cases w.attachments.eq_of_mem_of_key_eq hb ha hsame
    exact ⟨a.moved s, w.attachments.get?_put_self _, Or.inr ⟨s, hpermits, rfl⟩⟩
  · refine ⟨b, ?_, Or.inl rfl⟩
    have hne : (a.moved s).id ≠ b.id := fun h => hsame h.symm
    rw [StorageWorld.putAttachment_attachments, w.attachments.get?_put_of_ne hne]
    exact w.attachments.get?_key_of_mem hb

/-- The attachment for which a mutation is refused for good. -/
def definitelyFails : WorkflowCall → Answer → Option Uuid
  | .prepareAttachment request, x =>
    if x.storageError.any (fun e => ¬ e.isUnknownOutcome) then some request.attachmentId else none
  | .terminateAttachment request, x =>
    if x.storageError.any (fun e => ¬ e.isUnknownOutcome) then some request.attachmentId else none
  | .computeAttach attachment _, x =>
    if x.computeError = some .failed then some attachment.id else none
  | .computeDetach attachment, x =>
    if x.computeError = some .failed then some attachment.id else none
  | _, _ => none

/-- A host refuses a mutation for good only for an attachment whose state may
become `Error` and whose volume is not in use. -/
def FailsProperly (c : WorkflowCall) (x : Answer) (w : StorageWorld) : Prop :=
  ∀ id ∈ definitelyFails c x, ∀ a ∈ w.attachments.rows, a.id = id →
    a.attachment.state.permits .error = true ∧ w.NotInUse a.attachment.volumeId

instance (c : WorkflowCall) (x : Answer) (w : StorageWorld) : Decidable (FailsProperly c x w) :=
  inferInstanceAs (Decidable (∀ id ∈ definitelyFails c x, _))

/-- A detach whose attachment is deleted already is reconciled only while no
other attachment of the volume is attached for good. -/
def ReconcilesProperly (lib : StorageLibrary) : WorkflowRequest → StorageWorld → Prop
  | .reconcile commandId _, w =>
    ∀ c ∈ w.commands.rows, c.commandId = commandId → c.state.isTerminal = false →
      ∀ e ∈ lib.decodeEnvelope c.payload, e.action = .terminateAttachment →
        ∀ a ∈ w.attachments.rows, a.id = c.resourceId → a.attachment.state = .deleted →
          w.Unclaimed a.attachment.volumeId
  | _, _ => True

instance (lib : StorageLibrary) :
    (request : WorkflowRequest) → (w : StorageWorld) → Decidable (ReconcilesProperly lib request w)
  | .reconcile _ _, w => inferInstanceAs (Decidable (∀ c ∈ w.commands.rows, _))
  | .attach _, _ => isTrue trivial
  | .detach _, _ => isTrue trivial

/-- What is reserved starts as `Reserved`. -/
def ReservesProperly : Reservation → StorageWorld → Prop
  | .reserve record _, _ => record.attachment.state = .reserved

instance : (e : Reservation) → (w : StorageWorld) → Decidable (ReservesProperly e w)
  | .reserve record _, _ => inferInstanceAs (Decidable (record.attachment.state = .reserved))

section Rules

variable {lib : StorageLibrary} {keeps : KeepsMappings} {α β : Type} {w : StorageWorld}

/-- The program keeps the invariant and the transitions wherever it is cut, and
a result satisfies `P`. -/
def Goes (lib : StorageLibrary) (keeps : KeepsMappings) (p : Workflow α) (w : StorageWorld)
    (P : α → StorageWorld → Prop) :
    Prop :=
  Program.Survives (exec keeps) Grown (Consistent lib) FailsProperly
    (fun c x w => KeepsTransitions w (exec keeps c x w).2)
    (fun r w' => ∀ a, r = .ok a → P a w') p.run w

variable {P : α → StorageWorld → Prop}

theorem goes_pure {a : α} (h : P a w) : Goes lib keeps (pure a) w P := by
  intro a' ha'
  cases ha'
  exact h

theorem goes_throw (e : StorageWorkflowError) : Goes lib keeps (throw e) w P :=
  fun _ ha => by cases ha

theorem goes_bind {Q : β → StorageWorld → Prop} {p : Workflow α} {f : α → Workflow β}
    (hp : Goes lib keeps p w P) (hf : ∀ a w', P a w' → Goes lib keeps (f a) w' Q) :
    Goes lib keeps (p >>= f) w Q := by
  refine Program.Survives.bind hp ?_
  intro r w' hr
  cases r with
  | error e => exact fun _ ha => by cases ha
  | ok a => exact hf a w' (hr a rfl)

theorem goes_mono {P Q : α → StorageWorld → Prop} {p : Workflow α}
    (hp : Goes lib keeps p w P) (hPQ : ∀ a w', P a w' → Q a w') :
    Goes lib keeps p w Q :=
  Program.Survives.mono (fun _ _ h a ha => hPQ a _ (h a ha)) hp

variable {c : WorkflowCall}

theorem goes_call {P : c.Reply → StorageWorld → Prop}
    (h :
      ∀ w' x, Grown w w' → Consistent lib w' → FailsProperly c x w' →
        KeepsTransitions w' (exec keeps c x w').2 ∧ Consistent lib (exec keeps c x w').2 ∧
          P (exec keeps c x w').1 (exec keeps c x w').2) :
    Goes lib keeps (Workflow.call c) w P := by
  intro w' x hgrown hconsistent hproper
  obtain ⟨hkeeps, hconsistent', hP⟩ := h w' x hgrown hconsistent hproper
  refine ⟨hkeeps, hconsistent', ?_⟩
  intro a ha
  cases ha
  exact hP

theorem goes_read (hsame : ∀ x w, (exec keeps c x w).2 = w) :
    Goes lib keeps (Workflow.call c) w
      (fun r w' => Grown w w' ∧ Consistent lib w' ∧ ∃ x, r = (exec keeps c x w').1) := by
  refine goes_call ?_
  intro w' x hgrown hconsistent _
  rw [hsame]
  exact ⟨KeepsTransitions.of_grown (Grown.refl w'), hconsistent, hgrown, hconsistent, x, rfl⟩

theorem goes_quiet (hsame :
      ∀ x w, (exec keeps c x w).2.volumes = w.volumes ∧
        (exec keeps c x w).2.attachments = w.attachments ∧
        (exec keeps c x w).2.commands = w.commands) :
    Goes lib keeps (Workflow.call c) w
      (fun r w' =>
        Grown w w' ∧ Consistent lib w' ∧
          ∃ x w₁, FailsProperly c x w' ∧ r = (exec keeps c x w₁).1) := by
  refine goes_call ?_
  intro w' x hgrown hconsistent hproper
  obtain ⟨hvolumes, hattachments, hcommands⟩ := hsame x w'
  have hconsistent' := hconsistent.congr hvolumes hattachments hcommands
  refine ⟨KeepsTransitions.of_same hattachments, hconsistent', ?_, hconsistent', x, w', ?_, rfl⟩
  · refine ⟨hvolumes.trans hgrown.volumes, hcommands.trans hgrown.commands, ?_, ?_⟩
    · intro id a ha
      rw [hattachments]
      exact hgrown.attachments id a ha
    · intro a ha
      rw [hattachments] at ha
      exact hgrown.added a ha
  · intro id hid a ha heq
    rw [hattachments] at ha
    obtain ⟨hpermits, hnot⟩ := hproper id hid a ha heq
    refine ⟨hpermits, ?_⟩
    unfold StorageWorld.NotInUse
    rw [hvolumes]
    exact hnot

theorem goes_given {x : Except StorageWorkflowError α} (h : ∀ a, x = .ok a → P a w) :
    Goes lib keeps (Workflow.given x) w P :=
  h

theorem goes_stored {x : Except StoreError α} (h : ∀ a, x = .ok a → P a w) :
    Goes lib keeps (Workflow.stored x) w P := by
  cases x with
  | error e => exact fun _ ha => by cases ha
  | ok a =>
    intro a' ha'
    cases ha'
    exact h a rfl

theorem goes_found {x : Option α} (h : ∀ a, x = some a → P a w) :
    Goes lib keeps (Workflow.found x) w P := by
  cases x with
  | none => exact goes_throw _
  | some a => exact goes_pure (h a rfl)

theorem goes_ensure {P : Unit → StorageWorld → Prop} {p : Prop} [Decidable p]
    {e : StorageWorkflowError} (h : p → P () w) :
    Goes lib keeps (Workflow.ensure p e) w P := by
  by_cases hp : p
  · rw [Workflow.ensure, if_pos hp]
    exact goes_pure (h hp)
  · rw [Workflow.ensure, if_neg hp]
    exact goes_throw e

section Continuations

variable {Q : β → StorageWorld → Prop} {f : α → Workflow β}

theorem goes_given_bind {x : Except StorageWorkflowError α}
    (hf : ∀ a, x = .ok a → Goes lib keeps (f a) w Q) :
    Goes lib keeps (Workflow.given x >>= f) w Q := by
  refine goes_bind (goes_given (P := fun a w' => w = w' ∧ x = .ok a) fun a ha => ⟨rfl, ha⟩) ?_
  rintro a _ ⟨rfl, ha⟩
  exact hf a ha

theorem goes_stored_bind {x : Except StoreError α}
    (hf : ∀ a, x = .ok a → Goes lib keeps (f a) w Q) :
    Goes lib keeps (Workflow.stored x >>= f) w Q := by
  refine goes_bind (goes_stored (P := fun a w' => w = w' ∧ x = .ok a) fun a ha => ⟨rfl, ha⟩) ?_
  rintro a _ ⟨rfl, ha⟩
  exact hf a ha

theorem goes_found_bind {x : Option α} (hf : ∀ a, x = some a → Goes lib keeps (f a) w Q) :
    Goes lib keeps (Workflow.found x >>= f) w Q := by
  refine goes_bind (goes_found (P := fun a w' => w = w' ∧ x = some a) fun a ha => ⟨rfl, ha⟩) ?_
  rintro a _ ⟨rfl, ha⟩
  exact hf a ha

theorem goes_ensure_bind {f : Unit → Workflow β} {p : Prop} [Decidable p]
    {e : StorageWorkflowError} (hf : p → Goes lib keeps (f ()) w Q) :
    Goes lib keeps (Workflow.ensure p e >>= f) w Q := by
  refine goes_bind (goes_ensure (P := fun _ w' => w = w' ∧ p) fun h => ⟨rfl, h⟩) ?_
  rintro _ _ ⟨rfl, h⟩
  exact hf h

end Continuations

end Rules

/-- The attempt has read the command, which is open, and a record of its
attachment, which is the stored one if the generation is. -/
structure Knows (record : VolumeAttachmentRecordV1) (command : AgentCommandRecord)
    (w : StorageWorld) : Prop where
  fits :
    ∃ row, w.attachments.get? record.id = some row ∧
      (row.attachment.generation = record.attachment.generation → row = record)
  reads : w.commands.get? command.commandId = some command
  resource : command.resourceId = record.id
  isOpen : command.state.isTerminal = false

def Stored (record : VolumeAttachmentRecordV1) (w : StorageWorld) : Prop :=
  w.attachments.get? record.id = some record

section Knowledge

variable {lib : StorageLibrary} {keeps : KeepsMappings} {w w' : StorageWorld}
variable {record : VolumeAttachmentRecordV1} {command : AgentCommandRecord}

theorem Grown.stored (h : Grown w w') (hstored : Stored record w) : Stored record w' :=
  h.attachments _ _ hstored

theorem Knows.grown (h : Knows record command w) (hgrown : Grown w w') :
    Knows record command w' := by
  obtain ⟨row, hrow, hfits⟩ := h.fits
  exact ⟨⟨row, hgrown.attachments _ _ hrow, hfits⟩, hgrown.commands ▸ h.reads, h.resource, h.isOpen⟩

theorem Knows.openRow (h : Knows record command w) : w.Open record.id :=
  ⟨command, w.commands.mem_of_get? h.reads, h.resource, h.isOpen⟩

variable {s : VolumeAttachmentState}

/-- **The row of the attachment** is moved, if the record is the stored one. -/
theorem goes_updateAttachment (hknows : Knows record command w)
    (hmove :
      ∀ w', Grown w w' → Consistent lib w' → record ∈ w'.attachments.rows →
        record.attachment.state.permits s = true ∧
          (¬ w'.NotInUse record.attachment.volumeId →
            s = .attached ∨ s = .detaching ∨ s = .detached)) :
    Goes lib keeps (Workflow.updateAttachment record (record.moved s)) w
      (fun r w' =>
        r = record.moved s ∧ Knows (record.moved s) command w' ∧ Stored (record.moved s) w' ∧
          w'.volumes = w.volumes) := by
  refine goes_bind (P := fun r w' => ∀ a, r = .ok a → a = record.moved s ∧
    Knows (record.moved s) command w' ∧ Stored (record.moved s) w' ∧ w'.volumes = w.volumes)
    (goes_call ?_) (fun r w' hr => goes_stored hr)
  intro w₁ x hgrown hconsistent _
  have hknows₁ := hknows.grown hgrown
  show KeepsTransitions w₁ (w₁.updateVolumeAttachmentV1 _ _).2 ∧
    Consistent lib (w₁.updateVolumeAttachmentV1 _ _).2 ∧ _
  rcases updateVolumeAttachmentV1_cases (w := w₁) record.attachment.generation
      (record.moved s) with ⟨e, he⟩ | ⟨row, hrow, _, hgeneration, htaken, hwrite⟩
  · rw [show exec keeps (.updateVolumeAttachmentV1 record.attachment.generation
      (record.moved s)) x w₁ = _ from he, he]
    exact ⟨KeepsTransitions.of_grown (Grown.refl w₁), hconsistent, fun _ ha => by cases ha⟩
  · rw [show exec keeps (.updateVolumeAttachmentV1 record.attachment.generation
      (record.moved s)) x w₁ = _ from hwrite, hwrite]
    -- the generation identifies the row
    obtain ⟨row', hrow', hfits⟩ := hknows₁.fits
    rw [id_moved] at hrow
    cases hrow.symm.trans hrow'
    cases hfits hgeneration
    have hmem := w₁.attachments.mem_of_get? hrow
    obtain ⟨hpermits, hinUse⟩ := hmove w₁ hgrown hconsistent hmem
    refine ⟨KeepsTransitions.putAttachment hmem hpermits,
      hconsistent.putAttachment hmem htaken hknows₁.openRow hinUse, ?_⟩
    intro a ha
    cases ha
    have hstored : Stored (record.moved s) (w₁.putAttachment (record.moved s)) :=
      w₁.attachments.get?_put_self (record.moved s)
    exact ⟨rfl, ⟨⟨_, hstored, fun _ => rfl⟩, hknows₁.reads, hknows₁.resource, hknows₁.isOpen⟩,
      hstored, hgrown.volumes⟩

theorem goes_updateAttachment_full {next : VolumeAttachmentRecordV1}
    (hfull : integerMax < next.attachment.generation) :
    Goes lib keeps (Workflow.updateAttachment record next) w (fun _ _ => False) := by
  refine goes_bind (P := fun r _ => ∀ a, r = .ok a → False) (goes_call ?_)
    (fun r w' hr => goes_stored hr)
  intro w₁ x _ hconsistent _
  obtain ⟨e, he⟩ :=
    updateVolumeAttachmentV1_of_full (w := w₁) hfull record.attachment.generation
  rw [show exec keeps (.updateVolumeAttachmentV1 record.attachment.generation next) x w₁ = _
    from he]
  exact ⟨KeepsTransitions.of_grown (Grown.refl w₁), hconsistent, fun _ ha => by cases ha⟩

/-- **The command** moves on and stays open. -/
theorem goes_updateCommand_open {s : AgentCommandState} {acceptedSequence lowest : Nat}
    (hknows : Knows record command w) (hs : s.isTerminal = false) :
    Goes lib keeps (Workflow.updateCommand command s acceptedSequence lowest) w
      (fun c w' =>
        Knows record c w' ∧ (Stored record w → Stored record w') ∧
          ∀ v, w.Unclaimed v → w'.Unclaimed v) := by
  refine goes_bind (P := fun r w' => ∀ c, r = .ok c → Knows record c w' ∧
    (Stored record w → Stored record w') ∧ ∀ v, w.Unclaimed v → w'.Unclaimed v)
    (goes_call ?_) (fun r w' hr => goes_stored hr)
  intro w₁ x hgrown hconsistent _
  have hknows₁ := hknows.grown hgrown
  generalize hu : AgentUpdate.mk _ _ _ _ _ _ = u
  have hid : u.commandId = command.commandId := by rw [← hu]
  have hstate : u.state = s := by rw [← hu]
  show KeepsTransitions w₁ (w₁.updateAgentCommand u).2 ∧
    Consistent lib (w₁.updateAgentCommand u).2 ∧
      ∀ c, (w₁.updateAgentCommand u).1 = .ok c → Knows record c (w₁.updateAgentCommand u).2 ∧
        (Stored record w → Stored record (w₁.updateAgentCommand u).2) ∧
          ∀ v, w.Unclaimed v → (w₁.updateAgentCommand u).2.Unclaimed v
  rcases updateAgentCommand_cases (w := w₁) u with
    ⟨e, he⟩ | ⟨current, hget, _, hsame⟩ | ⟨current, row, hget, hprojected, hidentity, hwrite⟩
  · rw [he]
    exact ⟨KeepsTransitions.of_grown (Grown.refl w₁), hconsistent, fun _ ha => by cases ha⟩
  · rw [hsame]
    refine ⟨KeepsTransitions.of_grown (Grown.refl w₁), hconsistent, ?_⟩
    intro c hc
    cases hc
    rw [hid, hknows₁.reads] at hget
    cases hget
    exact ⟨hknows₁, fun h => hgrown.stored h, fun v h => hgrown.unclaimed h⟩
  · rw [hwrite]
    rw [hid, hknows₁.reads] at hget
    cases hget
    have hopen : row.state.isTerminal = false := by rw [hprojected.state, hstate, hs]
    have hrow : ∀ old, w₁.commands.get? row.commandId = some old →
        old.resourceId = row.resourceId := by
      intro old hold
      rw [hidentity.commandId, hknows₁.reads] at hold
      cases hold
      exact hidentity.resourceId.symm
    refine ⟨KeepsTransitions.of_same rfl, hconsistent.putCommand ?_ hrow ?_, ?_⟩
    · rw [hidentity.payload, hidentity.resourceId]
      exact hconsistent.payload _ (w₁.commands.mem_of_get? hknows₁.reads)
    · intro hterminal
      rw [hopen] at hterminal
      cases hterminal
    · intro c hc
      cases hc
      refine ⟨⟨hknows₁.fits, w₁.commands.get?_put_self row,
        hidentity.resourceId.trans hknows₁.resource, hopen⟩, fun h => hgrown.stored h, ?_⟩
      intro v hv a ha hvolume hattached
      obtain ⟨d, hd, hresource, hstate'⟩ := hgrown.unclaimed hv a ha hvolume hattached
      by_cases hkey : d.commandId = row.commandId
      · refine ⟨row, w₁.commands.mem_put.mpr (Or.inl rfl), ?_, hopen⟩
        exact (hrow d (hkey ▸ w₁.commands.get?_key_of_mem hd)).symm.trans hresource
      · exact ⟨d, w₁.commands.mem_put.mpr (Or.inr ⟨hd, hkey⟩), hresource, hstate'⟩

/-- The attachment does not depend on an open command. -/
def Concluded (record : VolumeAttachmentRecordV1) (w : StorageWorld) : Prop :=
  (record.attachment.state = .attached →
    ∀ v ∈ w.volumes.rows, v.id = record.attachment.volumeId → v.volume.state = .inUse) ∧
  record.attachment.state ≠ .detaching ∧ record.attachment.state ≠ .detached

theorem Grown.concluded (h : Grown w w') (hconcluded : Concluded record w) :
    Concluded record w' := by
  unfold Concluded
  rw [h.volumes]
  exact hconcluded

/-- **The command** is closed. -/
theorem goes_updateCommand_closed {s : AgentCommandState} {acceptedSequence lowest : Nat}
    (hknows : Knows record command w) (hstored : Stored record w)
    (hconcluded : Concluded record w) :
    Goes lib keeps (Workflow.updateCommand command s acceptedSequence lowest) w
      (fun _ _ => True) := by
  refine goes_bind (P := fun _ _ => True) (goes_call ?_) (fun r w' _ => goes_stored fun _ _ => trivial)
  intro w₁ x hgrown hconsistent _
  have hknows₁ := hknows.grown hgrown
  generalize hu : AgentUpdate.mk _ _ _ _ _ _ = u
  have hid : u.commandId = command.commandId := by rw [← hu]
  show KeepsTransitions w₁ (w₁.updateAgentCommand u).2 ∧
    Consistent lib (w₁.updateAgentCommand u).2 ∧ True
  rcases updateAgentCommand_cases (w := w₁) u with
    ⟨e, he⟩ | ⟨current, hget, _, hsame⟩ | ⟨current, row, hget, hprojected, hidentity, hwrite⟩
  · rw [he]
    exact ⟨KeepsTransitions.of_grown (Grown.refl w₁), hconsistent, trivial⟩
  · rw [hsame]
    exact ⟨KeepsTransitions.of_grown (Grown.refl w₁), hconsistent, trivial⟩
  · rw [hwrite]
    rw [hid, hknows₁.reads] at hget
    cases hget
    refine ⟨KeepsTransitions.of_same rfl, hconsistent.putCommand ?_ ?_ ?_, trivial⟩
    · rw [hidentity.payload, hidentity.resourceId]
      exact hconsistent.payload _ (w₁.commands.mem_of_get? hknows₁.reads)
    · intro old hold
      rw [hidentity.commandId, hknows₁.reads] at hold
      cases hold
      exact hidentity.resourceId.symm
    · intro _ a ha haid
      have hrow : a = record := by
        refine w₁.attachments.eq_of_mem_of_key_eq ha
          (w₁.attachments.mem_of_get? (hgrown.stored hstored)) ?_
        exact haid.trans (hidentity.resourceId.trans hknows₁.resource)
      subst hrow
      exact hgrown.concluded hconcluded

theorem goes_assertCurrent {controllerEpoch : Nat} :
    Goes lib keeps (Workflow.assertCurrent controllerEpoch) w (fun _ w' => Grown w w') :=
  goes_bind (goes_read fun _ _ => rfl) fun _ _ h => goes_given fun _ _ => h.1

theorem goes_updateOperation {id : Uuid} {state : OperationState}
    {category message : Option String} :
    Goes lib keeps (Workflow.call (.updateOperation id state category message)) w
      (fun _ _ => True) :=
  goes_mono (goes_quiet fun _ _ => ⟨rfl, rfl, rfl⟩) fun _ _ _ => trivial

theorem goes_movedIf {p : Prop} [Decidable p] :
    Goes lib keeps (movedIf p record s) w
      (fun r w' =>
        w' = w ∧ (p ∧ record.attachment.state.permits s = true ∧ r = record.moved s ∨
          ¬ p ∧ r = record)) := by
  unfold movedIf
  by_cases hp : p
  · rw [if_pos hp]
    refine goes_given ?_
    intro next hnext
    obtain ⟨_, hpermits, hmoved⟩ := transitionAttachment_eq_ok.mp hnext
    exact ⟨rfl, Or.inl ⟨hp, hpermits, hmoved⟩⟩
  · rw [if_neg hp]
    exact goes_pure ⟨rfl, Or.inr ⟨hp, rfl⟩⟩

theorem goes_storeIfMoved {next : VolumeAttachmentRecordV1} (hknows : Knows record command w)
    (hnext :
      record.attachment.state.permits s = true ∧ next = record.moved s ∧
          record.attachment.state ≠ .deleted ∧ record.attachment.state ≠ .attached ∧
          record.attachment.state ≠ .detaching ∧ record.attachment.state ≠ .detached ∨
        next = record) :
    Goes lib keeps (storeIfMoved record next) w
      (fun r w' => r = next ∧ Knows next command w' ∧ (Stored record w → Stored next w')) := by
  unfold storeIfMoved
  rcases hnext with ⟨hpermits, rfl, hlive, hattached, hdetaching, hdetached⟩ | rfl
  · rw [if_pos (by simp [VolumeAttachmentRecordV1.moved])]
    refine goes_mono (goes_updateAttachment hknows ?_) fun r w' h => ⟨h.1, h.2.1, fun _ => h.2.2.1⟩
    intro w' _ hconsistent hmem
    refine ⟨hpermits, fun hnot => absurd ?_ hnot⟩
    exact hconsistent.notInUse hmem hlive ⟨hattached, hdetaching, hdetached⟩
  · rw [if_neg (by simp)]
    exact goes_pure ⟨rfl, hknows, id⟩

theorem goes_markUnknown (hknows : Knows record command w) :
    Goes lib keeps (markUnknown command record) w (fun _ _ => True) := by
  refine goes_bind goes_movedIf ?_
  rintro unknown _ ⟨rfl, hunknown⟩
  refine goes_bind (goes_storeIfMoved (s := .unknown) hknows ?_) ?_
  · rcases hunknown with ⟨hstate, hpermits, hmoved⟩ | ⟨_, hsame⟩
    · refine Or.inl ⟨hpermits, hmoved, ?_⟩
      rcases hstate with h | h <;> simp [h]
    · exact Or.inr hsame
  · rintro _ w' ⟨_, hknows', _⟩
    refine goes_bind (goes_updateCommand_open hknows' rfl) ?_
    intro _ _ _
    exact goes_bind goes_updateOperation fun _ _ _ => goes_stored fun _ _ => trivial

/-- What a host has refused for good may be marked so. -/
def MayFail (record : VolumeAttachmentRecordV1) (w : StorageWorld) : Prop :=
  Stored record w →
    record.attachment.state.permits .error = true ∧ w.NotInUse record.attachment.volumeId

theorem Grown.mayFail (h : Grown w w') (hknows : Knows record command w) (hmay : MayFail record w) :
    MayFail record w' := by
  intro hstored
  obtain ⟨row, hrow, hfits⟩ := hknows.fits
  have hsame : row = record := by
    have hrow' := h.attachments _ _ hrow
    unfold Stored at hstored
    rw [hstored] at hrow'
    cases hrow'
    rfl
  subst hsame
  obtain ⟨hpermits, hnot⟩ := hmay hrow
  exact ⟨hpermits, h.notInUse_iff.mpr hnot⟩

theorem goes_markFailed (hknows : Knows record command w) (hmay : MayFail record w) :
    Goes lib keeps (markFailed command record) w (fun _ _ => True) := by
  by_cases hfull : u64Max ≤ record.attachment.generation
  · -- the counter is exhausted and the write is refused
    refine goes_bind (goes_updateAttachment_full ?_) (fun _ _ h => h.elim)
    show integerMax < min (record.attachment.generation + 1) u64Max
    rw [Nat.min_eq_right (by omega)]
    decide
  · have hmoved :
        (⟨{ record.attachment with
            state := .error
            generation := min (record.attachment.generation + 1) u64Max },
          record.createdAt⟩ : VolumeAttachmentRecordV1) = record.moved .error := by
      rw [Nat.min_eq_left (by omega)]
      rfl
    unfold markFailed
    rw [hmoved]
    refine goes_bind (goes_updateAttachment hknows ?_) ?_
    · intro w' hgrown _ hmem
      obtain ⟨hpermits, hnot⟩ :=
        hgrown.mayFail hknows hmay (w'.attachments.get?_key_of_mem hmem)
      exact ⟨hpermits, fun h => absurd hnot h⟩
    · rintro _ w' ⟨_, hknows', hstored', _⟩
      refine goes_bind (goes_updateCommand_closed hknows' hstored' ?_) ?_
      · simp [Concluded, VolumeAttachmentRecordV1.moved]
      · intro _ _ _
        exact goes_bind goes_updateOperation fun _ _ _ => goes_stored fun _ _ => trivial

variable {controllerEpoch : Nat}

theorem goes_leaveUnknown {α : Type} {error : StorageWorkflowError} {P : α → StorageWorld → Prop}
    (hknows : Knows record command w) :
    Goes lib keeps (leaveUnknown command record controllerEpoch error) w P := by
  refine goes_bind goes_assertCurrent ?_
  intro _ w' hgrown
  exact goes_bind (goes_markUnknown (hknows.grown hgrown)) fun _ _ _ => goes_throw error

theorem goes_leaveFailed {α : Type} {error : StorageWorkflowError} {P : α → StorageWorld → Prop}
    (hknows : Knows record command w) (hmay : MayFail record w) :
    Goes lib keeps (leaveFailed command record controllerEpoch error) w P := by
  refine goes_bind goes_assertCurrent ?_
  intro _ w' hgrown
  exact goes_bind (goes_markFailed (hknows.grown hgrown) (hgrown.mayFail hknows hmay))
    fun _ _ _ => goes_throw error

/-- The volume of the record has the state. -/
def Projected (record : VolumeAttachmentRecordV1) (target : VolumeState) (w : StorageWorld) :
    Prop :=
  ∀ v ∈ w.volumes.rows, v.id = record.attachment.volumeId → v.volume.state = target

/-- **The volume** is projected, where that keeps the invariant. -/
theorem goes_projectVolumeState {target : VolumeState}
    (hknows : Knows record command w) (hstored : Stored record w)
    (htarget :
      target = .inUse ∧ record.attachment.state = .attached ∨
        target ≠ .inUse ∧
          ∀ w', Grown w w' → Consistent lib w' → w'.Unclaimed record.attachment.volumeId) :
    Goes lib keeps (projectVolumeState record target) w
      (fun _ w' => Knows record command w' ∧ Stored record w' ∧ Projected record target w') := by
  refine goes_bind (goes_read fun _ _ => rfl) ?_
  rintro _ w₁ ⟨hgrown₁, _, x, rfl⟩
  refine goes_stored_bind fun _ hread => goes_found_bind fun v hv => ?_
  have hget : w₁.volumes.get? record.attachment.volumeId = some v := getVolume_eq_ok (hv ▸ hread)
  have hid : v.id = record.attachment.volumeId := w₁.volumes.key_of_get? hget
  split
  · rename_i hsame
    refine goes_pure ⟨hknows.grown hgrown₁, hgrown₁.stored hstored, ?_⟩
    intro u hu hvolume
    cases w₁.volumes.eq_of_mem_of_key_eq hu (w₁.volumes.mem_of_get? hget) (hvolume.trans hid.symm)
    exact hsame
  · refine goes_ensure_bind fun _ => ?_
    refine goes_bind (P := fun r w' => ∀ a, r = .ok a → Knows record command w' ∧
      Stored record w' ∧ Projected record target w') (goes_call ?_)
      (fun r w' hr => goes_bind (goes_stored hr) fun _ _ h => goes_pure h)
    intro w₂ x' hgrown₂ hconsistent _
    have hgrown := hgrown₁.trans hgrown₂
    generalize hnext : VolumeRecord.mk _ _ = next
    have hnext' : next.id = record.attachment.volumeId ∧ next.volume.state = target := by
      rw [← hnext]
      exact ⟨hid, rfl⟩
    show KeepsTransitions w₂ (w₂.updateVolume v.volume.generation next).2 ∧
      Consistent lib (w₂.updateVolume v.volume.generation next).2 ∧
        ∀ a, (w₂.updateVolume v.volume.generation next).1 = .ok a →
          Knows record command (w₂.updateVolume v.volume.generation next).2 ∧
            Stored record (w₂.updateVolume v.volume.generation next).2 ∧
              Projected record target (w₂.updateVolume v.volume.generation next).2
    rcases updateVolume_cases (w := w₂) v.volume.generation next with
      ⟨e, he⟩ | ⟨row, hrow, _, hwrite⟩
    · rw [he]
      exact ⟨KeepsTransitions.of_grown (Grown.refl w₂), hconsistent, fun _ ha => by cases ha⟩
    · rw [hwrite]
      refine ⟨KeepsTransitions.of_same rfl, ?_, ?_⟩
      · rcases htarget with ⟨hinUse, hattached⟩ | ⟨hnot, hunclaimed⟩
        · refine hconsistent.putVolume_inUse
            (w₂.attachments.mem_of_get? (hgrown.stored hstored)) hnext'.1.symm hattached ?_
          exact hnext'.2.trans hinUse
        · refine hconsistent.putVolume_notInUse ?_ (hnext'.2 ▸ hnot)
          show w₂.Unclaimed next.id
          rw [hnext'.1]
          exact hunclaimed w₂ hgrown hconsistent
      · intro _ _
        have hknows₂ := hknows.grown hgrown
        refine ⟨⟨hknows₂.fits, hknows₂.reads, hknows₂.resource, hknows₂.isOpen⟩,
          hgrown.stored hstored, ?_⟩
        intro u hu hvolume
        rcases w₂.volumes.mem_put.mp hu with rfl | ⟨_, hne⟩
        · exact hnext'.2
        · exact absurd (hvolume.trans hnext'.1.symm) hne

theorem goes_completeCommand (hknows : Knows record command w) (hstored : Stored record w)
    (hconcluded : Concluded record w) :
    Goes lib keeps (completeCommand command record) w (fun _ _ => True) := by
  refine goes_bind (goes_updateCommand_closed hknows hstored hconcluded) ?_
  intro _ _ _
  refine goes_bind goes_updateOperation ?_
  intro _ _ _
  exact goes_stored_bind fun _ _ => goes_pure trivial

theorem goes_storedUnless {p : Prop} [Decidable p]
    (hs : s = .attached ∨ s = .detaching ∨ s = .detached) (hknows : Knows record command w)
    (hstored : p → Stored record w) :
    Goes lib keeps (storedUnless p record s) w
      (fun r w' =>
        Knows r command w' ∧ Stored r w' ∧ (p ∧ r = record ∧ w' = w ∨ ¬ p ∧ r = record.moved s)) := by
  unfold storedUnless
  by_cases hp : p
  · rw [if_pos hp]
    exact goes_pure ⟨hknows, hstored hp, Or.inl ⟨hp, rfl, rfl⟩⟩
  · rw [if_neg hp]
    refine goes_given_bind fun next hnext => ?_
    obtain ⟨_, hpermits, rfl⟩ := transitionAttachment_eq_ok.mp hnext
    refine goes_mono (goes_updateAttachment hknows fun _ _ _ _ => ⟨hpermits, fun _ => hs⟩) ?_
    rintro _ w' ⟨rfl, hknows', hstored', _⟩
    exact ⟨hknows', hstored', Or.inr ⟨hp, rfl⟩⟩

theorem goes_finishSuccess (hknows : Knows record command w) (hstored : Stored record w) :
    Goes lib keeps (finishSuccess command record controllerEpoch) w (fun _ _ => True) := by
  refine goes_bind goes_assertCurrent ?_
  intro _ w₁ hgrown
  refine goes_bind (goes_storedUnless (Or.inl rfl) (hknows.grown hgrown)
    fun _ => hgrown.stored hstored) ?_
  rintro r w₂ ⟨hknows₂, hstored₂, hr⟩
  have hattached : r.attachment.state = .attached := by
    rcases hr with ⟨hp, rfl, _⟩ | ⟨_, rfl⟩
    · exact hp
    · rfl
  refine goes_bind (goes_projectVolumeState hknows₂ hstored₂ (Or.inl ⟨rfl, hattached⟩)) ?_
  rintro _ w₃ ⟨hknows₃, hstored₃, hprojected⟩
  refine goes_completeCommand hknows₃ hstored₃ ⟨fun _ => hprojected, ?_⟩
  simp [hattached]

theorem goes_storedDeleted (hknows : Knows record command w) (hstored : Stored record w)
    (hstate : record.attachment.state = .detached ∨ record.attachment.state = .deleted)
    (hnot : w.NotInUse record.attachment.volumeId) :
    Goes lib keeps (storedDeleted record) w
      (fun r w' => Knows r command w' ∧ Stored r w' ∧ r.attachment.state = .deleted) := by
  unfold storedDeleted
  by_cases hdeleted : record.attachment.state = .deleted
  · rw [if_pos hdeleted]
    exact goes_pure ⟨hknows, hstored, hdeleted⟩
  · rw [if_neg hdeleted]
    refine goes_ensure_bind fun _ => ?_
    refine goes_mono (goes_updateAttachment hknows ?_) ?_
    · intro w' hgrown _ _
      refine ⟨?_, fun h => absurd (hgrown.notInUse_iff.mpr hnot) h⟩
      rw [hstate.resolve_right hdeleted]
      rfl
    · rintro _ w' ⟨rfl, hknows', hstored', _⟩
      exact ⟨hknows', hstored', rfl⟩

theorem goes_finishDetached (hknows : Knows record command w)
    (hstored :
      record.attachment.state = .detached ∨ record.attachment.state = .deleted → Stored record w)
    (hunclaimed : record.attachment.state = .deleted → w.Unclaimed record.attachment.volumeId) :
    Goes lib keeps (finishDetached command record controllerEpoch) w (fun _ _ => True) := by
  refine goes_bind goes_assertCurrent ?_
  intro _ w₁ hgrown
  refine goes_bind (goes_storedUnless (Or.inr (Or.inr rfl)) (hknows.grown hgrown)
    fun hp => hgrown.stored (hstored hp)) ?_
  rintro r w₂ ⟨hknows₂, hstored₂, hr⟩
  have hstate : r.attachment.state = .detached ∨ r.attachment.state = .deleted := by
    rcases hr with ⟨hp, rfl, _⟩ | ⟨_, rfl⟩
    · exact hp
    · exact Or.inl rfl
  refine goes_bind (P := fun _ w' => Knows r command w' ∧ Stored r w' ∧
    w'.NotInUse r.attachment.volumeId) ?_ ?_
  · have hfree : ∀ w', Grown w₂ w' → Consistent lib w' → w'.Unclaimed r.attachment.volumeId := by
      intro w' hgrown' hconsistent
      rcases hr with ⟨hp, rfl, rfl⟩ | ⟨_, rfl⟩
      · by_cases hdeleted : r.attachment.state = .deleted
        · exact (hgrown.trans hgrown').unclaimed (hunclaimed hdeleted)
        · refine hconsistent.unclaimed
            (w'.attachments.mem_of_get? (hgrown'.stored hstored₂)) hdeleted ?_
          simp [hp.resolve_right hdeleted]
      · refine hconsistent.unclaimed
          (w'.attachments.mem_of_get? (hgrown'.stored hstored₂)) ?_ ?_ <;>
          simp [VolumeAttachmentRecordV1.moved]
    refine goes_mono (goes_projectVolumeState hknows₂ hstored₂ (Or.inr ⟨by simp, hfree⟩)) ?_
    rintro _ w' ⟨hknows', hstored', hprojected⟩
    refine ⟨hknows', hstored', ?_⟩
    intro v hv hvolume hinUse
    simp [hprojected v hv hvolume] at hinUse
  · rintro _ w₃ ⟨hknows₃, hstored₃, hnot⟩
    refine goes_bind (goes_storedDeleted hknows₃ hstored₃ hstate hnot) ?_
    rintro r' w₄ ⟨hknows₄, hstored₄, hdeleted⟩
    refine goes_completeCommand hknows₄ hstored₄ ?_
    simp [Concluded, hdeleted]

theorem answered_eq_error {ε α : Type} {error : Option ε} {value : α} {e : ε}
    (h : answered error value = .error e) :
    error = some e := by
  cases error with
  | none => cases h
  | some e' =>
    cases h
    rfl

theorem mayFail_of_failsProperly {c : WorkflowCall} {x : Answer}
    (hproper : FailsProperly c x w) (hfails : definitelyFails c x = some record.id) :
    MayFail record w :=
  fun hstored => hproper record.id hfails record (w.attachments.mem_of_get? hstored) rfl

variable {envelope : StorageCommandEnvelope}

theorem goes_executeAttach {volumeGeneration controllerEpoch : Nat}
    (hknows : Knows record command w) :
    Goes lib keeps (executeAttach envelope command record volumeGeneration controllerEpoch) w
      (fun _ _ => True) := by
  refine goes_bind goes_assertCurrent ?_
  intro _ w₁ hgrown₁
  refine goes_bind (goes_updateCommand_open (hknows.grown hgrown₁) rfl) ?_
  rintro c w₂ ⟨hknows₂, _, _⟩
  refine goes_bind (goes_quiet fun _ _ => by simp only [exec]; split <;> trivial) ?_
  rintro prepared w₃ ⟨hgrown₃, _, x, _, hproper, hreply⟩
  have hknows₃ := hknows₂.grown hgrown₃
  cases prepared with
  | error e =>
    have he := answered_eq_error hreply.symm
    by_cases hunknown : e.isUnknownOutcome = true
    · simp only [if_pos hunknown]
      exact goes_leaveUnknown hknows₃
    · simp only [if_neg hunknown]
      refine goes_leaveFailed hknows₃ (mayFail_of_failsProperly hproper ?_)
      simp [definitelyFails, he, hunknown, attachmentRequest, VolumeAttachmentRecordV1.id]
  | ok prepared =>
    refine goes_bind goes_assertCurrent ?_
    intro _ w₄ hgrown₄
    refine goes_given_bind fun next hnext => ?_
    obtain ⟨_, hpermits, rfl⟩ := transitionAttachment_eq_ok.mp hnext
    refine goes_bind (goes_updateAttachment (hknows₃.grown hgrown₄) ?_) ?_
    · intro w' _ hconsistent hmem
      refine ⟨hpermits, fun hnot => absurd (hconsistent.notInUse hmem ?_ ?_) hnot⟩ <;>
        cases hstate : record.attachment.state <;> simp_all [VolumeAttachmentState.permits]
    · rintro _ w₅ ⟨rfl, hknows₅, hstored₅, _⟩
      refine goes_bind (goes_quiet fun _ _ => by simp only [exec]; split <;> trivial) ?_
      rintro reply w₆ ⟨hgrown₆, _, x', _, hproper', hreply'⟩
      have hknows₆ := hknows₅.grown hgrown₆
      cases reply with
      | ok _ => exact goes_finishSuccess hknows₆ (hgrown₆.stored hstored₅)
      | error e =>
        have he := answered_eq_error hreply'.symm
        cases e with
        | unknownOutcome => exact goes_leaveUnknown hknows₆
        | failed =>
          refine goes_leaveFailed hknows₆ (mayFail_of_failsProperly hproper' ?_)
          simp [definitelyFails, he, VolumeAttachmentRecordV1.id]

theorem goes_executeDetach (hknows : Knows record command w)
    (hstored :
      record.attachment.state = .detached ∨ record.attachment.state = .deleted → Stored record w)
    (hunclaimed : record.attachment.state = .deleted → w.Unclaimed record.attachment.volumeId) :
    Goes lib keeps (executeDetach command record envelope controllerEpoch) w (fun _ _ => True) := by
  refine goes_bind goes_assertCurrent ?_
  intro _ w₁ hgrown₁
  refine goes_bind (goes_updateCommand_open (hknows.grown hgrown₁) rfl) ?_
  rintro c w₂ ⟨hknows₂, hkeep₂, hunclaimed₂⟩
  refine goes_bind (goes_quiet fun _ _ => by simp only [exec]; split <;> trivial) ?_
  rintro detached w₃ ⟨hgrown₃, _, x, _, hproper, hreply⟩
  have hknows₃ := hknows₂.grown hgrown₃
  cases detached with
  | error e =>
    have he := answered_eq_error hreply.symm
    cases e with
    | unknownOutcome => exact goes_leaveUnknown hknows₃
    | failed =>
      refine goes_leaveFailed hknows₃ (mayFail_of_failsProperly hproper ?_)
      simp [definitelyFails, he, VolumeAttachmentRecordV1.id]
  | ok _ =>
    refine goes_bind goes_assertCurrent ?_
    intro _ w₄ hgrown₄
    refine goes_bind (goes_read fun _ _ => rfl) ?_
    rintro r w₅ ⟨hgrown₅, _, _, _⟩
    refine goes_stored_bind fun r' _ => ?_
    refine goes_found_bind fun volume _ => ?_
    refine goes_bind (goes_quiet fun _ _ => by simp only [exec]; split <;> trivial) ?_
    rintro terminated w₆ ⟨hgrown₆, _, x', _, hproper', hreply'⟩
    have hgrown := ((hgrown₃.trans hgrown₄).trans hgrown₅).trans hgrown₆
    have hknows₆ := hknows₂.grown hgrown
    cases terminated with
    | error e =>
      have he := answered_eq_error hreply'.symm
      by_cases hunknown : e.isUnknownOutcome = true
      · simp only [if_pos hunknown]
        exact goes_leaveUnknown hknows₆
      · simp only [if_neg hunknown]
        refine goes_leaveFailed hknows₆ (mayFail_of_failsProperly hproper' ?_)
        simp [definitelyFails, he, hunknown, attachmentRequest, VolumeAttachmentRecordV1.id]
    | ok observation =>
      by_cases hattached : observation.attached = true
      · simp only [if_pos hattached]
        exact goes_leaveUnknown hknows₆
      · simp only [if_neg hattached]
        refine goes_finishDetached hknows₆ ?_ ?_
        · exact fun hstate => hgrown.stored (hkeep₂ (hgrown₁.stored (hstored hstate)))
        · intro hdeleted
          exact hgrown.unclaimed (hunclaimed₂ _ (hgrown₁.unclaimed (hunclaimed hdeleted)))

def FreshKey (key : String) (w : StorageWorld) : Prop :=
  ∀ c ∈ w.commands.rows, c.idempotencyKey ≠ key

variable {intent : StorageAttachmentIntent}

theorem goes_recordRequest {kind : String} {action : StorageAction}
    (hfresh : FreshKey intent.idempotencyKey w) (hstored : Stored record w)
    (hid : record.id = intent.attachmentId) :
    Goes lib keeps (recordRequest lib intent record kind action) w
      (fun r w' => Knows record r.2 w' ∧ Stored record w') := by
  refine goes_ensure_bind fun _ => ?_
  refine goes_bind (goes_quiet fun _ _ => ⟨rfl, rfl, rfl⟩) ?_
  rintro r w₁ ⟨hgrown₁, _, _⟩
  refine goes_stored_bind fun _ _ => ?_
  generalize henvelope : newEnvelope lib intent record.attachment.generation action = envelope
  have hresource : envelope.resourceId = intent.attachmentId := by rw [← henvelope]; rfl
  refine goes_bind (P := fun r w' => ∀ c, r = .ok c → Knows record c w' ∧ Stored record w')
    (goes_call ?_) ?_
  · intro w₂ x hgrown₂ hconsistent _
    have hgrown := hgrown₁.trans hgrown₂
    show KeepsTransitions w₂ (w₂.insertAgentCommand (newCommand lib intent envelope)).2 ∧
      Consistent lib (w₂.insertAgentCommand (newCommand lib intent envelope)).2 ∧
        ∀ c, (w₂.insertAgentCommand (newCommand lib intent envelope)).1 = .ok c →
          Knows record c (w₂.insertAgentCommand (newCommand lib intent envelope)).2 ∧
            Stored record (w₂.insertAgentCommand (newCommand lib intent envelope)).2
    have hfresh₂ : ∀ row ∈ w₂.commands.rows,
        row.idempotencyKey ≠ (newCommand lib intent envelope).idempotencyKey := by
      rw [hgrown.commands]
      exact hfresh
    rcases insertAgentCommand_cases hfresh₂ with ⟨e, he⟩ | ⟨hnew, hwrite⟩
    · rw [he]
      exact ⟨KeepsTransitions.of_grown (Grown.refl w₂), hconsistent, fun _ ha => by cases ha⟩
    · rw [hwrite]
      refine ⟨KeepsTransitions.of_same rfl, hconsistent.putCommand ?_ ?_ ?_, ?_⟩
      · exact ⟨envelope, lib.decode_encode envelope, hresource⟩
      · intro old hold
        rw [hnew] at hold
        cases hold
      · exact fun hterminal => by cases hterminal
      · intro c hc
        cases hc
        have hstored₂ := hgrown.stored hstored
        exact ⟨⟨⟨record, hstored₂, fun _ => rfl⟩, w₂.commands.get?_put_self _, hid.symm, rfl⟩,
          hstored₂⟩
  · intro r w₂ hr
    exact goes_bind (goes_stored (P := fun c w' => Knows record c w' ∧ Stored record w') hr)
      fun _ _ h => goes_pure h

theorem goes_readAttachment {β : Type} {id : Uuid} {f : VolumeAttachmentRecordV1 → Workflow β}
    {Q : β → StorageWorld → Prop}
    (hf :
      ∀ row w', Grown w w' → Consistent lib w' → w'.attachments.get? id = some row →
        Goes lib keeps (f row) w' Q) :
    Goes lib keeps
      (do
        let row ← Workflow.found (← Workflow.stored (← Workflow.call (.getVolumeAttachmentV1 id)))
        f row) w Q := by
  refine goes_bind (goes_read fun _ _ => rfl) ?_
  rintro _ w₁ ⟨hgrown, hconsistent, x, rfl⟩
  refine goes_stored_bind fun r hread => goes_found_bind fun row hrow => ?_
  exact hf row w₁ hgrown hconsistent (getVolumeAttachmentV1_eq_ok (hrow ▸ hread))

theorem goes_readVolume {β : Type} {id : Uuid} {f : VolumeRecord → Workflow β}
    {Q : β → StorageWorld → Prop} (hf : ∀ row w', Grown w w' → Goes lib keeps (f row) w' Q) :
    Goes lib keeps
      (do
        let row ← Workflow.found (← Workflow.stored (← Workflow.call (.getVolume id)))
        f row) w Q := by
  refine goes_bind (goes_read fun _ _ => rfl) ?_
  rintro _ w₁ ⟨hgrown, _, x, rfl⟩
  refine goes_stored_bind fun r _ => ?_
  refine goes_found_bind fun row _ => ?_
  exact hf row w₁ hgrown

theorem goes_attachNew (hfresh : FreshKey intent.idempotencyKey w) :
    Goes lib keeps (attachNew lib intent) w (fun _ _ => True) := by
  refine goes_readAttachment ?_
  intro record w₁ hgrown₁ _ hget
  have hid : record.id = intent.attachmentId := w₁.attachments.key_of_get? hget
  have hstored : Stored record w₁ := by
    unfold Stored
    rw [hid]
    exact hget
  refine goes_readVolume ?_
  intro volume w₂ hgrown₂
  refine goes_ensure_bind fun hensured => ?_
  have hreserved := hensured.2.2.2
  have hfresh₂ : FreshKey intent.idempotencyKey w₂ := by
    unfold FreshKey
    rw [(hgrown₁.trans hgrown₂).commands]
    exact hfresh
  refine goes_bind (goes_recordRequest hfresh₂ (hgrown₂.stored hstored) hid) ?_
  rintro ⟨_, command⟩ w₃ ⟨hknows, hstored₃⟩
  refine goes_given_bind fun next hnext => ?_
  obtain rfl := (transitionAttachment_eq_ok.mp hnext).2.2
  refine goes_bind (goes_updateAttachment hknows ?_) ?_
  · intro w' _ hconsistent hmem
    refine ⟨by rw [hreserved]; rfl, fun hnot => absurd (hconsistent.notInUse hmem ?_ ?_) hnot⟩ <;>
      simp [hreserved]
  · rintro _ w₄ ⟨rfl, hknows₄, _, _⟩
    cases lib.decodeEnvelope command.payload with
    | none => exact goes_throw _
    | some envelope => exact goes_executeAttach hknows₄

theorem goes_detachNew (hfresh : FreshKey intent.idempotencyKey w) :
    Goes lib keeps (detachNew lib intent) w (fun _ _ => True) := by
  refine goes_readAttachment ?_
  intro record w₁ hgrown₁ _ hget
  have hid : record.id = intent.attachmentId := w₁.attachments.key_of_get? hget
  have hstored : Stored record w₁ := by
    unfold Stored
    rw [hid]
    exact hget
  refine goes_ensure_bind fun hensured => ?_
  have hattached := hensured.2
  have hfresh₁ : FreshKey intent.idempotencyKey w₁ := by
    unfold FreshKey
    rw [hgrown₁.commands]
    exact hfresh
  refine goes_bind (goes_recordRequest hfresh₁ hstored hid) ?_
  rintro ⟨envelope, command⟩ w₃ ⟨hknows, hstored₃⟩
  refine goes_given_bind fun next hnext => ?_
  obtain rfl := (transitionAttachment_eq_ok.mp hnext).2.2
  refine goes_bind (goes_updateAttachment hknows ?_) ?_
  · exact fun _ _ _ _ => ⟨by rw [hattached]; rfl, fun _ => Or.inr (Or.inl rfl)⟩
  · rintro _ w₄ ⟨rfl, hknows₄, _, _⟩
    refine goes_executeDetach hknows₄ ?_ ?_ <;> simp [VolumeAttachmentRecordV1.moved]

theorem goes_requestInner {new : Workflow StorageWorkflowResult}
    (hnew : ∀ w', FreshKey intent.idempotencyKey w' → Goes lib keeps new w' (fun _ _ => True)) :
    Goes lib keeps (requestInner lib intent new) w (fun _ _ => True) := by
  refine goes_ensure_bind fun _ => ?_
  refine goes_bind goes_assertCurrent ?_
  intro _ w₂ _
  refine goes_bind (goes_read fun _ _ => rfl) ?_
  rintro r w₃ ⟨_, _, x, hr⟩
  cases r with
  | ok existing =>
    refine goes_ensure_bind fun _ => ?_
    exact goes_readAttachment fun _ _ _ _ _ => goes_pure trivial
  | error e =>
    have hfresh := getAgentCommandByIdempotencyKey_eq_error hr.symm
    cases e with
    | operationNotFound => exact hnew w₃ hfresh
    | _ => exact goes_throw _

theorem goes_reconcileAttach (hknows : Knows record command w) (hstored : Stored record w) :
    Goes lib keeps (reconcileAttach lib envelope command record controllerEpoch) w
      (fun _ _ => True) := by
  refine goes_readVolume ?_
  intro volume w₁ hgrown₁
  refine goes_bind (goes_read fun _ _ => rfl) ?_
  rintro storage w₂ ⟨hgrown₂, _, _⟩
  refine goes_bind (goes_read fun _ _ => rfl) ?_
  rintro compute w₃ ⟨hgrown₃, _, _⟩
  have hgrown := (hgrown₁.trans hgrown₂).trans hgrown₃
  have hknows₃ := hknows.grown hgrown
  have hstored₃ := hgrown.stored hstored
  cases storage with
  | error e =>
    show Goes lib keeps (if _ then _ else if _ then _ else _) w₃ _
    split
    · exact goes_leaveUnknown hknows₃
    · split
      · exact goes_leaveUnknown hknows₃
      · exact goes_throw _
  | ok observation =>
    rcases compute with e | attached
    · cases e with
      | unknownOutcome => exact goes_leaveUnknown hknows₃
      | failed => exact goes_throw _
    · cases attached with
      | true => exact goes_finishSuccess hknows₃ hstored₃
      | false =>
        show Goes lib keeps (if _ then _ else _) w₃ _
        split
        · exact goes_throw _
        · refine goes_bind goes_movedIf ?_
          rintro preparing _ ⟨rfl, hpreparing⟩
          refine goes_bind (goes_storeIfMoved (s := .preparing) hknows₃ ?_) ?_
          · rcases hpreparing with ⟨hstate, hpermits, hmoved⟩ | ⟨_, hsame⟩
            · refine Or.inl ⟨hpermits, hmoved, ?_⟩
              simp [hstate]
            · exact Or.inr hsame
          · rintro _ w₄ ⟨rfl, hknows₄, _⟩
            refine goes_bind (goes_updateCommand_open hknows₄ rfl) ?_
            rintro c w₅ ⟨hknows₅, _, _⟩
            cases lib.decodeEnvelope c.payload with
            | none => exact goes_throw _
            | some envelope => exact goes_executeAttach hknows₅

theorem goes_reconcileDetach (hknows : Knows record command w) (hstored : Stored record w)
    (hunclaimed : record.attachment.state = .deleted → w.Unclaimed record.attachment.volumeId) :
    Goes lib keeps (reconcileDetach envelope command record controllerEpoch) w
      (fun _ _ => True) := by
  refine goes_readVolume ?_
  intro volume w₁ hgrown₁
  refine goes_bind (goes_read fun _ _ => rfl) ?_
  rintro storage w₂ ⟨hgrown₂, _, _⟩
  refine goes_bind (goes_read fun _ _ => rfl) ?_
  rintro compute w₃ ⟨hgrown₃, _, _⟩
  have hgrown := (hgrown₁.trans hgrown₂).trans hgrown₃
  have hknows₃ := hknows.grown hgrown
  have hstored₃ := hgrown.stored hstored
  cases storage with
  | error e =>
    show Goes lib keeps (if _ then _ else if _ then _ else _) w₃ _
    split
    · exact goes_leaveUnknown hknows₃
    · split
      · exact goes_leaveUnknown hknows₃
      · exact goes_throw _
  | ok observation =>
    rcases compute with e | attached
    · cases e with
      | unknownOutcome => exact goes_leaveUnknown hknows₃
      | failed => exact goes_throw _
    · show Goes lib keeps (if _ then _ else _) w₃ _
      split
      · exact goes_finishDetached hknows₃ (fun _ => hstored₃)
          fun hdeleted => hgrown.unclaimed (hunclaimed hdeleted)
      · refine goes_bind goes_movedIf ?_
        rintro detaching _ ⟨rfl, hdetaching⟩
        rcases hdetaching with ⟨_, _, rfl⟩ | ⟨_, rfl⟩
        · -- moved in memory only: no stored row has its generation
          refine goes_executeDetach ⟨⟨record, hstored₃, fun hgeneration => ?_⟩,
            hknows₃.reads, hknows₃.resource, hknows₃.isOpen⟩ ?_ ?_
          · simp [VolumeAttachmentRecordV1.moved] at hgeneration
          · simp [VolumeAttachmentRecordV1.moved]
          · simp [VolumeAttachmentRecordV1.moved]
        · exact goes_executeDetach hknows₃ (fun _ => hstored₃)
            fun hdeleted => hgrown.unclaimed (hunclaimed hdeleted)

theorem goes_reconcileInner {commandId : String}
    (hproper : ReconcilesProperly lib (.reconcile commandId controllerEpoch) w) :
    Goes lib keeps (reconcileInner lib commandId controllerEpoch) w (fun _ _ => True) := by
  refine goes_ensure_bind fun _ => ?_
  refine goes_bind goes_assertCurrent ?_
  intro _ w₁ hgrown₁
  refine goes_bind (goes_read fun _ _ => rfl) ?_
  rintro _ w₂ ⟨hgrown₂, hconsistent₂, x, rfl⟩
  refine goes_stored_bind fun command hcommand => ?_
  have hget := getAgentCommand_eq_ok hcommand
  have hkey : command.commandId = commandId := w₂.commands.key_of_get? hget
  have hmem : command ∈ w₂.commands.rows := w₂.commands.mem_of_get? hget
  obtain ⟨envelope, hdecode, hresource⟩ := hconsistent₂.payload command hmem
  simp only [hdecode]
  refine goes_ensure_bind fun _ => ?_
  refine goes_ensure_bind fun _ => ?_
  simp only [lib.parse_id]
  refine goes_readAttachment ?_
  intro record w₃ hgrown₃ _ hrecord
  have hid : record.id = envelope.resourceId := w₃.attachments.key_of_get? hrecord
  by_cases hterminal : command.state.isTerminal = true
  · simp only [if_pos hterminal]
    exact goes_pure trivial
  · simp only [if_neg hterminal]
    have hopen : command.state.isTerminal = false := by simpa using hterminal
    have hstored : Stored record w₃ := by
      unfold Stored
      rw [hid]
      exact hrecord
    have hknows : Knows record command w₃ := by
      refine ⟨⟨record, hstored, fun _ => rfl⟩, ?_, hresource.symm.trans hid.symm, hopen⟩
      rw [hgrown₃.commands, hkey]
      exact hget
    by_cases haction : envelope.action = .terminateAttachment
    · simp only [if_pos haction]
      refine goes_reconcileDetach hknows hstored ?_
      intro hdeleted
      have hgrown := (hgrown₁.trans hgrown₂).trans hgrown₃
      rcases hgrown.added record (w₃.attachments.mem_of_get? hrecord) with hwas | hreserved
      · refine hgrown.unclaimed (hproper command ?_ hkey hopen envelope hdecode haction record hwas
          (hid.trans hresource) hdeleted)
        rw [← hgrown₁.commands, ← hgrown₂.commands]
        exact hmem
      · simp [hdeleted] at hreserved
    · simp only [if_neg haction]
      exact goes_reconcileAttach hknows hstored

theorem goes_fenced {inner : Workflow StorageWorkflowResult}
    (hinner : ∀ w', Grown w w' → Goes lib keeps inner w' (fun _ _ => True)) :
    Goes lib keeps (fenced controllerEpoch inner) w (fun _ _ => True) := by
  refine goes_bind (goes_read fun _ _ => rfl) ?_
  rintro _ w₁ ⟨hgrown, _, _⟩
  refine goes_given_bind fun _ _ => ?_
  refine goes_bind (P := fun _ _ => True) ?_ ?_
  · exact Program.Survives.bind (hinner w₁ hgrown) fun _ _ _ _ _ => trivial
  · intro result w₂ _
    refine goes_bind (goes_read fun _ _ => rfl) ?_
    intro ended w₃ _
    cases result with
    | error e => exact goes_throw _
    | ok value =>
      cases ended with
      | error e => exact goes_throw _
      | ok _ => exact goes_pure trivial

/-- **Every attempt** that is started properly keeps the invariant wherever it
is cut. -/
theorem goes_workflow (request : WorkflowRequest) (hproper : ReconcilesProperly lib request w) :
    Goes lib keeps (workflow lib request) w (fun _ _ => True) := by
  cases request with
  | attach intent =>
    exact goes_fenced fun _ _ => goes_requestInner fun _ hfresh => goes_attachNew hfresh
  | detach intent =>
    exact goes_fenced fun _ _ => goes_requestInner fun _ hfresh => goes_detachNew hfresh
  | reconcile commandId controllerEpoch =>
    refine goes_fenced fun w' hgrown => goes_reconcileInner ?_
    intro c hc hid hopen e he haction a ha hresource hdeleted
    rw [hgrown.commands] at hc
    rcases hgrown.added a ha with ha | hreserved
    · exact hgrown.unclaimed (hproper c hc hid hopen e he haction a ha hresource hdeleted)
    · simp [hdeleted] at hreserved

end Knowledge

end Storage
end O3k
