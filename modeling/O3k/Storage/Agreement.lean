import Mathlib.Logic.Equiv.List
import Mathlib.Tactic.DeriveEncodable
import O3k.Storage.Survival

/-!
# Volume state and attachments agree

Runs start without attachments and commands.  When every definite failure and
every reconciliation is proper, a volume whose commands are settled is in use
exactly if it has an attachment that is attached.
-/

namespace O3k
namespace Storage

open Relational Semantics Operations

/-- Nothing is attached and nothing has been asked for. -/
structure Unattached (w : StorageWorld) : Prop where
  attachments : w.attachments = ∅
  commands : w.commands = ∅
  volumes : ∀ v ∈ w.volumes.rows, v.volume.state ≠ .inUse

def ProperEvent (lib : StorageLibrary) (m : WorkflowMachine) (e : WorkflowEvent) : Prop :=
  m.Within (ReconcilesProperly lib) FailsProperly ReservesProperly e

instance (lib : StorageLibrary) (m : WorkflowMachine) (e : WorkflowEvent) :
    Decidable (ProperEvent lib m e) :=
  inferInstanceAs (Decidable (m.Within _ _ _ e))

section Run

variable {lib : StorageLibrary} {keeps : KeepsMappings} {w : StorageWorld}

theorem Unattached.consistent (h : Unattached w) : Consistent lib w := by
  refine ⟨?_, ?_, ?_, ?_⟩
  · simp [h.attachments]
  · simp [h.attachments]
  · exact fun v hv hinUse => absurd hinUse (h.volumes v hv)
  · simp [h.commands]

theorem grown_reserve (e : Reservation) (h : Consistent lib w) (hproper : ReservesProperly e w) :
    Grown w (reserve e w) ∧ Consistent lib (reserve e w) := by
  obtain ⟨record, resource⟩ := e
  simp only [reserve]
  split
  · rename_i w' u operations hinsert _
    rcases insertVolumeAttachmentV1_cases (w := w) record with
      ⟨e, he⟩ | ⟨hnew, htaken, _, _, hwrite⟩
    · rw [he] at hinsert
      cases hinsert
    · rw [hwrite] at hinsert
      cases hinsert
      constructor
      · refine ⟨rfl, rfl, ?_, ?_⟩
        · intro id a ha
          show (w.attachments.put record).get? id = some a
          rw [w.attachments.get?_put_of_ne, ha]
          rintro rfl
          rw [hnew] at ha
          cases ha
        · intro a ha
          rcases w.attachments.mem_put.mp ha with rfl | ⟨ha, _⟩
          · exact Or.inr hproper
          · exact Or.inl ha
      · exact (h.insertAttachment hnew htaken hproper).congr rfl rfl rfl
  · exact ⟨Grown.refl w, h⟩

/-- A machine in which the invariant holds and the attempt survives. -/
abbrev OnCourse (lib : StorageLibrary) (keeps : KeepsMappings) (m : WorkflowMachine) : Prop :=
  m.OnCourse (exec keeps) Grown (Consistent lib) FailsProperly
    (fun c x w => KeepsTransitions w (exec keeps c x w).2) (fun _ _ => True)

theorem OnCourse.proper_step {m : WorkflowMachine} {e : WorkflowEvent}
    (h : OnCourse lib keeps m) (hproper : ProperEvent lib m e) :
    OnCourse lib keeps (workflowStep lib keeps m e) := by
  refine h.step Grown.refl (fun _ _ _ => Grown.trans) (fun _ _ _ _ _ => trivial) ?_
    (fun e w => grown_reserve e) hproper
  intro request w' _ hreconciles
  exact Program.Survives.mono (fun _ _ _ => trivial) (goes_workflow request hreconciles)

theorem OnCourse.keepsTransitions {m : WorkflowMachine} {e : WorkflowEvent}
    (h : OnCourse lib keeps m) (hproper : ProperEvent lib m e) :
    KeepsTransitions m.store (workflowStep lib keeps m e).store := by
  cases e with
  | start request =>
    simp only [workflowStep, Attempted.step]
    split <;> exact KeepsTransitions.of_grown (Grown.refl _)
  | answer x =>
    simp only [workflowStep, Attempted.step]
    split
    · rename_i c next hattempt
      exact h.owes Grown.refl hproper x rfl c ⟨next, hattempt⟩
    · exact KeepsTransitions.of_grown (Grown.refl _)
  | crash => exact KeepsTransitions.of_grown (Grown.refl _)
  | other e => exact KeepsTransitions.of_grown (grown_reserve e h.store hproper).1

end Run

/-- In a run of proper events attachments move by transitions, and settled
volumes agree with their attachments. -/
theorem volumes_agree_with_attachments
    (lib : StorageLibrary) (keeps : KeepsMappings) (w : StorageWorld) (hw : Unattached w)
    (events : List WorkflowEvent)
    (hproper : EachStep (workflowStep lib keeps) (ProperEvent lib) (Attempted.idle w) events) :
    EachStep (workflowStep lib keeps)
        (fun m e => KeepsTransitions m.store (workflowStep lib keeps m e).store)
        (Attempted.idle w) events ∧
      Always (workflowStep lib keeps) (fun m => m.store.VolumesAgree)
        (Attempted.idle w) events := by
  have hstart : OnCourse lib keeps (Attempted.idle w : WorkflowMachine) :=
    Attempted.onCourse_idle hw.consistent
  constructor
  · exact eachStep_of_guarded (fun _ _ h hC => h.proper_step hC)
      (fun _ _ h hC => h.keepsTransitions hC) _ events hstart hproper
  · exact (always_of_guarded (fun _ _ h hC => h.proper_step hC) _ events hstart hproper).imp
      fun _ h => h.store.volumesAgree

/-!
# A library for given envelopes

A `StorageLibrary` whose digests and identifiers are tables.  Its rendering of
envelopes is one that can be read back: the envelopes it is told of by their
position, every other one by a number.
-/

structure KnownEnvelopes where
  envelopes : List StorageCommandEnvelope
  fingerprint : StorageAttachmentIntent → String
  deterministicStorageId : String → String → Uuid

/-- A text as the numbers of its characters. -/
noncomputable instance encodableText : Encodable String :=
  Encodable.ofLeftInverse (fun s => s.toList.map Char.toNat)
    (fun ns => String.ofList (ns.map Char.ofNat)) (by
      intro s
      simp [Function.comp_def])

deriving noncomputable instance Encodable for StorageAction
deriving noncomputable instance Encodable for StorageCommandEnvelope

namespace KnownEnvelopes

variable (known : KnownEnvelopes)

noncomputable def encodeEnvelope (e : StorageCommandEnvelope) : List UInt8 :=
  if e ∈ known.envelopes then
    1 :: List.replicate (known.envelopes.idxOf e) 0
  else
    0 :: List.replicate (Encodable.encode e) 0

noncomputable def decodeEnvelope : List UInt8 → Option StorageCommandEnvelope
  | [] => none
  | tag :: zeros =>
    if tag = 0 then Encodable.decode zeros.length else known.envelopes[zeros.length]?

theorem decode_encode (e : StorageCommandEnvelope) :
    known.decodeEnvelope (known.encodeEnvelope e) = some e := by
  unfold encodeEnvelope
  split
  · rename_i hmem
    simp [decodeEnvelope, List.getElem?_eq_getElem (List.idxOf_lt_length_iff.mpr hmem)]
  · simp [decodeEnvelope]

noncomputable def library : StorageLibrary where
  fingerprint := known.fingerprint
  encodeEnvelope := known.encodeEnvelope
  decodeEnvelope := known.decodeEnvelope
  decode_encode := known.decode_encode
  deterministicStorageId := known.deterministicStorageId
  parseUuid := some
  parse_id := fun _ => rfl

end KnownEnvelopes

/-- The intent of a request of the sample, under a key of its own. -/
def sampleIntent (key : String) : StorageAttachmentIntent :=
  { attachmentId := "a1"
    volumeId := "v1"
    serverId := "s1"
    projectId := "demo"
    accessMode := .readWrite
    deleteOnTermination := false
    controllerEpoch := 1
    targetAgentId := "local"
    targetAgentEpoch := 1
    idempotencyKey := key
    traceId := key
    deadline := "2099" }

def sampleFingerprint (_ : StorageAttachmentIntent) : String :=
  "427196b1a7e6febe10a1c9774f55e1fa14bc5d695232b645e515c13dd2001e8d"

def sampleStorageId (kind key : String) : Uuid :=
  if kind = "operation" then
    if key = "attach" then "o1" else "o2"
  else
    if key = "attach" then "c1" else "c2"

def sampleEnvelope (key : String) (generation : Nat) (action : StorageAction) :
    StorageCommandEnvelope :=
  { protocolVersion := 1
    commandId := sampleStorageId "command" key
    operationId := sampleStorageId "operation" key
    idempotencyKey := key
    resourceId := "a1"
    resourceGeneration := generation
    projectId := "demo"
    controllerEpoch := 1
    targetAgentId := "local"
    targetAgentEpoch := 1
    deadline := "2099"
    traceId := key
    action := action
    canonicalPayloadFingerprint := sampleFingerprint (sampleIntent key) }

noncomputable def sampleLibrary : StorageLibrary :=
  KnownEnvelopes.library
    { envelopes :=
        [sampleEnvelope "attach" 1 .prepareAttachment,
          sampleEnvelope "detach" 4 .terminateAttachment]
      fingerprint := sampleFingerprint
      deterministicStorageId := sampleStorageId }

def sampleVolume : VolumeRecord :=
  { volume :=
      { id := "v1"
        projectId := "demo"
        name := "data"
        description := ""
        metadata := []
        availabilityZone := none
        sizeBytes := 1073741824
        volumeType := "standard"
        backendId := "local"
        executionScope := .host "local"
        state := .available
        generation := 3
        operationId := none
        providerReference := none }
    createdAt := "2026" }

def sampleAttachment : VolumeAttachmentRecordV1 :=
  { attachment :=
      { id := "a1"
        projectId := "demo"
        volumeId := "v1"
        serverId := "s1"
        executionScope := .host "local"
        accessMode := .readWrite
        deleteOnTermination := false
        state := .reserved
        generation := 1
        operationId := none }
    createdAt := "2026" }

def sampleResource : ResourceRecord :=
  { id := "a1"
    kind := "native_volume_attachment"
    projectId := "demo"
    generation := 1
    observedGeneration := 1
    desiredState := "attached"
    observedState := "reserved"
    providerId := none }

def sampleWorld : StorageWorld where
  volumes := Table.ofList [sampleVolume]
  attachments := ∅
  commands := ∅
  operations := OperationTables.empty
  mapped := fun _ => false
  devices := fun _ => false

theorem sampleWorld_unattached : Unattached sampleWorld :=
  ⟨rfl, rfl, by decide +kernel⟩

/-- Everything goes well. -/
def wellAnswered : Answer :=
  { current := true
    storageError := none
    computeError := none
    attached := false
    takesEffect := true
    devicePath := "/dev/vg/data"
    now := "2026" }

/-- The reservation and an attach without a failure. -/
def attachedEvents : List WorkflowEvent :=
  .other (.reserve sampleAttachment sampleResource) ::
    .start (.attach (sampleIntent "attach")) :: List.replicate 21 (.answer wellAnswered)

theorem properEvent_wellAnswered {lib : StorageLibrary} (m : WorkflowMachine) :
    ProperEvent lib m (.answer wellAnswered) := by
  intro c _ id hid
  cases c <;> simp [definitelyFails, wellAnswered] at hid

/-- The whole life of an attachment. -/
theorem volumes_agree_over_attach_and_detach :
    EachStep (workflowStep sampleLibrary false)
        (fun m e => KeepsTransitions m.store (workflowStep sampleLibrary false m e).store)
        (Attempted.idle sampleWorld)
        (attachedEvents ++
          .start (.detach (sampleIntent "detach")) :: List.replicate 21 (.answer wellAnswered)) ∧
      Always (workflowStep sampleLibrary false) (fun m => m.store.VolumesAgree)
        (Attempted.idle sampleWorld)
        (attachedEvents ++
          .start (.detach (sampleIntent "detach")) :: List.replicate 21 (.answer wellAnswered)) := by
  refine volumes_agree_with_attachments sampleLibrary false sampleWorld sampleWorld_unattached _ ?_
  refine eachStep_of_forall ?_ _
  intro e he m
  simp only [attachedEvents, List.cons_append, List.mem_cons, List.mem_append,
    List.mem_replicate] at he
  rcases he with rfl | rfl | ⟨_, rfl⟩ | rfl | ⟨_, rfl⟩
  · exact rfl
  · exact trivial
  · exact properEvent_wellAnswered m
  · exact trivial
  · exact properEvent_wellAnswered m

def computeRefuses : Answer :=
  { wellAnswered with computeError := some .failed }

def storageRefuses : Answer :=
  { wellAnswered with storageError := some .commandFailed }

/-- The attach is cut before its first transition; its command is reconciled
and the storage host refuses to prepare the attachment. -/
def refusedEvents : List WorkflowEvent :=
  .other (.reserve sampleAttachment sampleResource) ::
    .start (.attach (sampleIntent "attach")) :: List.replicate 7 (.answer wellAnswered) ++
    .crash :: .start (.reconcile "c1" 1) :: List.replicate 10 (.answer wellAnswered) ++
    [.answer storageRefuses, .answer wellAnswered]

/-- A refused detach leaves the volume in use without an attachment; an attach
that is cut early and refused when it is reconciled goes from `Reserved` to
`Error`. -/
theorem refusals_break_agreement :
    ¬ (run (workflowStep sampleLibrary false) (Attempted.idle sampleWorld)
        (attachedEvents ++
          .start (.detach (sampleIntent "detach")) :: List.replicate 9 (.answer wellAnswered) ++
          .answer computeRefuses :: List.replicate 6 (.answer wellAnswered))).store.VolumesAgree ∧
      ¬ EachStep (workflowStep sampleLibrary false)
        (fun m e => KeepsTransitions m.store (workflowStep sampleLibrary false m e).store)
        (Attempted.idle sampleWorld) (refusedEvents ++ [.answer wellAnswered]) := by
  refine ⟨by decide +kernel, ?_⟩
  intro h
  have hstep := (eachStep_iff_split _ _).mp h refusedEvents (.answer wellAnswered) [] rfl
  have hbefore :
      (run (workflowStep sampleLibrary false) (Attempted.idle sampleWorld)
        refusedEvents).store.attachments.rows = [sampleAttachment] := by
    decide +kernel
  have hafter :
      (workflowStep sampleLibrary false
        (run (workflowStep sampleLibrary false) (Attempted.idle sampleWorld) refusedEvents)
        (.answer wellAnswered)).store.attachments.rows = [sampleAttachment.moved .error] := by
    decide +kernel
  obtain ⟨a', ha', hstepped⟩ := hstep sampleAttachment (by rw [hbefore]; simp)
  have hmem := Table.mem_of_get? _ ha'
  rw [hafter, List.mem_singleton] at hmem
  subst hmem
  rcases hstepped with hsame | ⟨s, hpermits, hmoved⟩
  · simp [VolumeAttachmentRecordV1.moved, sampleAttachment] at hsame
  · have hs : s = .error := by
      simpa [VolumeAttachmentRecordV1.moved] using hmoved.symm
    subst hs
    exact absurd hpermits (by decide)

end Storage
end O3k
