import O3k.Storage.Workflow

/-!
# What the statements of the workflow can do

One inversion lemma for each statement that writes: it is refused and nothing
changes, or it writes the one row it names.
-/

namespace O3k
namespace Storage

open Relational Relational.Transaction Operations

variable {w : StorageWorld}

theorem insertVolumeAttachmentV1_cases (record : VolumeAttachmentRecordV1) :
    (∃ e, w.insertVolumeAttachmentV1 record = (.error e, w)) ∨
      w.attachments.get? record.id = none ∧ w.liveVolumeTaken record = false ∧
        record.attachment.validate = .ok () ∧ record.attachment.generation ≤ integerMax ∧
        w.insertVolumeAttachmentV1 record = (.ok (), w.putAttachment record) := by
  unfold StorageWorld.insertVolumeAttachmentV1
  cases hvalid : record.attachment.validate with
  | error e => exact Or.inl ⟨_, rfl⟩
  | ok u =>
    by_cases hfull : integerMax < record.attachment.generation
    · exact Or.inl ⟨_, if_pos hfull⟩
    · by_cases htaken :
          (w.attachments.get? record.id).isSome ∨ w.liveVolumeTaken record = true
      · exact Or.inl ⟨_, (if_neg hfull).trans (if_pos htaken)⟩
      · refine Or.inr ⟨?_, ?_, rfl, Nat.le_of_not_lt hfull, (if_neg hfull).trans (if_neg htaken)⟩
        · simpa using fun h => htaken (Or.inl h)
        · simpa using fun h => htaken (Or.inr h)

theorem updateVolumeAttachmentV1_cases
    (expectedGeneration : Nat) (record : VolumeAttachmentRecordV1) :
    (∃ e, w.updateVolumeAttachmentV1 expectedGeneration record = (.error e, w)) ∨
      ∃ row,
        w.attachments.get? record.id = some row ∧
          row.attachment.projectId = record.attachment.projectId ∧
          row.attachment.generation = expectedGeneration ∧
          w.liveVolumeTaken record = false ∧
          w.updateVolumeAttachmentV1 expectedGeneration record =
            (.ok ⟨record.attachment, row.createdAt⟩,
              w.putAttachment ⟨record.attachment, row.createdAt⟩) := by
  unfold StorageWorld.updateVolumeAttachmentV1
  cases hvalid : record.attachment.validate with
  | error e => exact Or.inl ⟨_, rfl⟩
  | ok u =>
    by_cases hfull : integerMax < record.attachment.generation
    · exact Or.inl ⟨_, if_pos hfull⟩
    · simp only [if_neg hfull]
      by_cases hexpected : integerMax < expectedGeneration
      · exact Or.inl ⟨_, if_pos hexpected⟩
      · simp only [if_neg hexpected]
        cases hget : w.attachments.get? record.id with
        | none => exact Or.inl ⟨_, rfl⟩
        | some row =>
          by_cases hmatch :
              row.attachment.projectId = record.attachment.projectId ∧
                row.attachment.generation = expectedGeneration
          · by_cases htaken : w.liveVolumeTaken record = true
            · exact Or.inl ⟨_, (if_pos hmatch).trans (if_pos htaken)⟩
            · exact Or.inr ⟨row, rfl, hmatch.1, hmatch.2, by simpa using htaken,
                (if_pos hmatch).trans (if_neg htaken)⟩
          · exact Or.inl ⟨_, if_neg hmatch⟩

theorem updateVolumeAttachmentV1_of_full {record : VolumeAttachmentRecordV1}
    (hfull : integerMax < record.attachment.generation) (expectedGeneration : Nat) :
    ∃ e, w.updateVolumeAttachmentV1 expectedGeneration record = (.error e, w) := by
  unfold StorageWorld.updateVolumeAttachmentV1
  cases record.attachment.validate with
  | error e => exact ⟨_, rfl⟩
  | ok u => exact ⟨_, if_pos hfull⟩

theorem liveVolumeTaken_eq_false_iff {record : VolumeAttachmentRecordV1} :
    w.liveVolumeTaken record = false ↔ (record.attachment.state ≠ .deleted →
      ∀ row ∈ w.attachments.rows,
        row.attachment.volumeId = record.attachment.volumeId →
          row.attachment.state ≠ .deleted → row.id = record.id) := by
  simp only [StorageWorld.liveVolumeTaken, Bool.and_eq_false_iff, List.any_eq_false]
  constructor
  · rintro (hdeleted | hnone) hlive row hrow hvolume hlive'
    · simp [hlive] at hdeleted
    · by_contra hne
      exact hnone row hrow (by simp [hvolume, hlive', hne])
  · intro h
    by_cases hlive : record.attachment.state = .deleted
    · exact Or.inl (by simp [hlive])
    · refine Or.inr (fun row hrow htaken => ?_)
      simp only [Bool.and_eq_true, decide_eq_true_eq] at htaken
      exact htaken.2 (h hlive row hrow htaken.1.1 htaken.1.2)

theorem updateVolume_cases (expectedGeneration : Nat) (record : VolumeRecord) :
    (∃ e, w.updateVolume expectedGeneration record = (.error e, w)) ∨
      ∃ row,
        w.volumes.get? record.id = some row ∧ row.volume.generation = expectedGeneration ∧
          w.updateVolume expectedGeneration record =
            (.ok ⟨record.volume, row.createdAt⟩, w.putVolume ⟨record.volume, row.createdAt⟩) := by
  unfold StorageWorld.updateVolume
  cases hvalid : record.volume.validate with
  | error e => exact Or.inl ⟨_, rfl⟩
  | ok u =>
    by_cases hexpected : integerMax < expectedGeneration
    · exact Or.inl ⟨_, if_pos hexpected⟩
    · simp only [if_neg hexpected]
      by_cases hfull : integerMax < record.volume.generation
      · exact Or.inl ⟨_, if_pos hfull⟩
      · simp only [if_neg hfull]
        cases hget : w.volumes.get? record.id with
        | none => exact Or.inl ⟨_, rfl⟩
        | some row =>
          by_cases hmatch : row.volume.generation = expectedGeneration
          · exact Or.inr ⟨row, rfl, hmatch, if_pos hmatch⟩
          · exact Or.inl ⟨_, if_neg hmatch⟩

theorem getVolume_eq_ok {id : Uuid} {row : VolumeRecord} (h : w.getVolume id = .ok (some row)) :
    w.volumes.get? id = some row := by
  unfold StorageWorld.getVolume at h
  split at h
  · cases h
  · split at h
    · cases h
    · rename_i hget _ _
      rw [hget]
      cases h
      rfl

theorem getVolumeAttachmentV1_eq_ok {id : Uuid} {row : VolumeAttachmentRecordV1}
    (h : w.getVolumeAttachmentV1 id = .ok (some row)) :
    w.attachments.get? id = some row := by
  unfold StorageWorld.getVolumeAttachmentV1 at h
  split at h
  · cases h
  · split at h
    · cases h
    · rename_i hget _ _
      rw [hget]
      cases h
      rfl

theorem getAgentCommand_eq_ok {commandId : String} {row : AgentCommandRecord}
    (h : w.getAgentCommand commandId = .ok row) :
    w.commands.get? commandId = some row := by
  unfold StorageWorld.getAgentCommand at h
  split at h
  · cases h
  · rename_i hget
    rw [hget]
    cases h
    rfl

theorem getAgentCommandByIdempotencyKey_eq_error {key : String} {e : StoreError}
    (h : w.getAgentCommandByIdempotencyKey key = .error e) :
    ∀ row ∈ w.commands.rows, row.idempotencyKey ≠ key := by
  unfold StorageWorld.getAgentCommandByIdempotencyKey at h
  split at h
  · rename_i hnone
    simpa using List.find?_eq_none.mp hnone
  · cases h

theorem insertAgentCommand_cases {command : AgentCommandRecord}
    (hfresh : ∀ row ∈ w.commands.rows, row.idempotencyKey ≠ command.idempotencyKey) :
    (∃ e, w.insertAgentCommand command = (.error e, w)) ∨
      w.commands.get? command.commandId = none ∧
        w.insertAgentCommand command =
          (.ok command, { w with commands := w.commands.put command }) := by
  have hmissing :
      w.getAgentCommandByIdempotencyKey command.idempotencyKey = .error .operationNotFound := by
    unfold StorageWorld.getAgentCommandByIdempotencyKey
    rw [List.find?_eq_none.mpr (by simpa using hfresh)]
  unfold StorageWorld.insertAgentCommand
  cases sqliteSequence command.acceptedSequence with
  | error e => exact Or.inl ⟨_, rfl⟩
  | ok acceptedSequence =>
    cases sqliteSequence command.lastSequence with
    | error e => exact Or.inl ⟨_, rfl⟩
    | ok lastSequence =>
      by_cases htaken :
          (w.commands.get? command.commandId).isSome ∨
            w.commands.rows.any
              (fun row => row.idempotencyKey = command.idempotencyKey) = true
      · refine Or.inl ⟨.operationNotFound, ?_⟩
        simp only [if_pos htaken, hmissing]
      · by_cases hmissing' :
            (w.operations.operations.get? command.operationId).isNone ∨
              (w.operations.resources.get? command.resourceId).isNone
        · exact Or.inl ⟨_, (if_neg htaken).trans (if_pos hmissing')⟩
        · exact Or.inr ⟨by simpa using fun h => htaken (Or.inl h),
            (if_neg htaken).trans (if_neg hmissing')⟩

/-- The columns that an update leaves alone. -/
structure SameIdentity (row row' : AgentCommandRecord) : Prop where
  commandId : row'.commandId = row.commandId
  idempotencyKey : row'.idempotencyKey = row.idempotencyKey
  operationId : row'.operationId = row.operationId
  resourceId : row'.resourceId = row.resourceId
  agentEpoch : row'.agentEpoch = row.agentEpoch
  fingerprint : row'.payloadFingerprintSha256 = row.payloadFingerprintSha256
  payload : row'.payload = row.payload

theorem updateAgentCommand_cases (u : AgentUpdate) :
    (∃ e, w.updateAgentCommand u = (.error e, w)) ∨
      (∃ current,
        w.commands.get? u.commandId = some current ∧ u.lastSequence ≤ current.lastSequence ∧
          w.updateAgentCommand u = (.ok current, w)) ∨
      ∃ current row,
        w.commands.get? u.commandId = some current ∧
          Projected current u row ∧ SameIdentity current row ∧
          w.updateAgentCommand u = (.ok row, { w with commands := w.commands.put row }) := by
  unfold StorageWorld.updateAgentCommand
  rcases updateAgentCommandOnce_cases u w.commands with
    ⟨e, heq⟩ | ⟨current, hget, ⟨hproject, heq⟩ | ⟨row, hproject, heq⟩⟩
  · exact Or.inl ⟨e, by rw [heq]⟩
  · exact Or.inr (Or.inl ⟨current, hget, known_of_projectUpdate hproject, by rw [heq]⟩)
  · have hprojected := projected_of_projectUpdate hproject
    have hidentity : SameIdentity current row := by
      rw [hprojected.columns]
      exact ⟨rfl, rfl, rfl, rfl, rfl, rfl, rfl⟩
    exact Or.inr (Or.inr ⟨current, row, hget, hprojected, hidentity, by rw [heq]⟩)

end Storage
end O3k
