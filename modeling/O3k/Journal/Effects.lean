import O3k.Journal.Messages
import O3k.Operations.Finality

/-!
# What the calls of the journal do

One inversion lemma for each call that writes.  A statement that fails has the
effect of one that succeeds, or none.
-/

namespace O3k
namespace Journal

open Relational Relational.Transaction Semantics Operations

section Statements

variable {α : Type} {x : JournalAnswer} {w : JournalWorld}

@[simp] theorem query_world (reply : Except StoreError α) : (x.query w reply).2 = w := by
  unfold JournalAnswer.query
  cases x.storeError <;> rfl

theorem query_eq_ok {reply : Except StoreError α} {a : α} (h : (x.query w reply).1 = .ok a) :
    reply = .ok a := by
  unfold JournalAnswer.query at h
  cases hx : x.storeError with
  | none =>
    rw [hx] at h
    exact h
  | some error =>
    rw [hx] at h
    cases h

variable {result : Except StoreError α × JournalWorld}

theorem statement_rel {P : JournalWorld → Prop} (hw : P w) (hresult : P result.2) :
    P (x.statement w result).2 := by
  unfold JournalAnswer.statement
  cases x.storeError with
  | none => exact hresult
  | some error =>
    dsimp only
    split
    · exact hresult
    · exact hw

theorem statement_eq_ok {a : α} (h : (x.statement w result).1 = .ok a) :
    x.statement w result = result ∧ result.1 = .ok a := by
  unfold JournalAnswer.statement at h ⊢
  cases hx : x.storeError with
  | none =>
    rw [hx] at h
    exact ⟨rfl, h⟩
  | some error =>
    rw [hx] at h
    cases h

end Statements

namespace JournalWorld

variable (w : JournalWorld)

theorem onTables_cases {α : Type} (body : Body α) :
    (∃ e, w.onTables body = (.error e, w)) ∨
      ∃ a t, body w.tables = .ok (a, t) ∧ w.onTables body = (.ok a, w.withTables t) := by
  unfold onTables atomically
  cases h : body w.tables with
  | error e => exact Or.inl ⟨e, rfl⟩
  | ok r => exact Or.inr ⟨r.1, r.2, rfl, rfl⟩

theorem onTables_of_ok {α : Type} {body : Body α} {a : α} {t : OperationTables}
    (h : body w.tables = .ok (a, t)) :
    w.onTables body = (.ok a, w.withTables t) := by
  unfold onTables atomically
  rw [h]

/-- The operation row is rewritten with a state, under its resource. -/
structure Rewritten (t t' : OperationTables) (id : Uuid) (state : OperationState) : Prop where
  row :
    ∃ current row,
      t.operations.get? id = some current ∧ t'.operations = t.operations.put row ∧
        row.id = id ∧ row.resourceId = current.resourceId ∧ row.state = state

theorem Rewritten.stored {t t' : OperationTables} {id : Uuid} {state : OperationState}
    (h : Rewritten t t' id state) :
    ∃ o, t'.operations.get? id = some o ∧ o.state = state := by
  obtain ⟨current, row, _, hoperations, hid, _, hstate⟩ := h.row
  exact ⟨row, by rw [hoperations, ← hid, Table.get?_put_self], hstate⟩

theorem updateOperationBody_cases {id : Uuid} {state : OperationState}
    {providerOperationId errorCategory errorMessage : Option String} {now : String}
    {t t' : OperationTables}
    (h :
      updateOperationBody id state providerOperationId errorCategory errorMessage now t
        = .ok ((), t')) :
    t'.resources = t.resources ∧
      (t' = t ∧ (∃ current, t.operations.get? id = some current ∧ current.state.isTerminal) ∧
        state.isTerminal = false ∨
        Rewritten t t' id state) := by
  cases wrote_of_body (w := .updateOperation id state providerOperationId errorCategory
    errorMessage now) h with
  | dropped hget hterminal hopen => exact ⟨rfl, Or.inl ⟨rfl, ⟨_, hget, hterminal⟩, hopen⟩⟩
  | repeated hget _ _ hstate =>
    have hid := t.operations.key_of_get? hget
    exact ⟨rfl, Or.inr ⟨_, _, hget, rfl, hid, rfl, hstate⟩⟩
  | updated hget =>
    have hid := t.operations.key_of_get? hget
    exact ⟨OperationTables.resources_modifyMetadata _ _ _, Or.inr ⟨_, _, hget,
      OperationTables.operations_modifyMetadata _ _ _, hid, rfl, rfl⟩⟩

theorem terminalizeLifecycleBody_cases {terminalization : LifecycleTerminalization} {now : String}
    {t t' : OperationTables}
    (h :
      (do
        fromExcept terminalization.validate
        terminalizeLifecycleBody terminalization now : Body Unit) t = .ok ((), t')) :
    Rewritten t t' terminalization.operationId terminalization.terminalState ∧
      (t'.resources = t.resources ∨
        ∃ row, t'.resources = t.resources.put row ∧ row.satisfiesChecks = true) := by
  obtain ⟨_, _, h⟩ := fromExcept_bind_eq_ok.mp h
  cases wrote_of_body (w := .terminalizeLifecycle terminalization now) h with
  | replayed hget _ _ _ hstate =>
    have hid := t.operations.key_of_get? hget
    exact ⟨⟨_, _, hget, rfl, hid, rfl, hstate⟩, Or.inl rfl⟩
  | terminalized hget _ hresource =>
    have hid := t.operations.key_of_get? hget
    refine ⟨⟨_, _, hget, OperationTables.operations_modifyMetadata _ _ _, hid, rfl, rfl⟩,
      Or.inr ⟨_, ?_, hresource.checks⟩⟩
    rw [OperationTables.putResource_resources, OperationTables.resources_modifyMetadata]
    rfl

/-- What an observation writes: the row of the resource, and the watermark. -/
@[simps tables watermarks observationEvidence] def withObservation
    (update : ObservationUpdate) (row : ResourceRecord) :
    JournalWorld :=
  { w with
    tables := w.tables.putResource (row.projected update.projection)
    watermarks := w.watermarks.put
      ⟨update.projection.resourceId, update.agentEpoch, update.observationSequence⟩ }

/-- The watermark of the resource says that the observation has been applied. -/
def covered (update : ObservationUpdate) : Bool :=
  (w.watermarks.get? update.projection.resourceId).any (fun watermark => watermark.covers update)

/-- **Inversion**: an observation changes nothing, or is new and is applied. -/
theorem updateResourceFromObservation_cases (update : ObservationUpdate) :
    (∃ reply, w.updateResourceFromObservation update = (reply, w)) ∨
      ∃ row, Projects w.tables update.projection row ∧ w.covered update = false ∧
        w.updateResourceFromObservation update
          = (.ok (row.projected update.projection), w.withObservation update row) := by
  unfold updateResourceFromObservation
  cases w.tables.resources.get? update.projection.resourceId with
  | none => exact Or.inl ⟨_, rfl⟩
  | some current =>
    dsimp only
    split
    · exact Or.inl ⟨_, rfl⟩
    · split
      · exact Or.inl ⟨_, rfl⟩
      · rename_i hcovered
        cases hproject : projectResource update.projection w.tables with
        | error error => exact Or.inl ⟨_, rfl⟩
        | ok r =>
          obtain ⟨row, hrow, hput⟩ := projectResource_ok hproject
          dsimp only
          split
          · exact Or.inl ⟨_, rfl⟩
          · refine Or.inr ⟨row, hrow, Bool.not_eq_true _ ▸ hcovered, ?_⟩
            have hid : row.id = update.projection.resourceId :=
              w.tables.resources.key_of_get? hrow.get
            have hget :
                (w.tables.putResource (row.projected update.projection)).resources.get?
                    update.projection.resourceId
                  = some (row.projected update.projection) := by
              rw [← hid]
              exact Table.get?_put_self w.tables.resources (row.projected update.projection)
            simp only [hput, getResource, withTables_tables, hget, Option.elim_some]
            rfl

theorem attachProviderReference_cases (reference : ProviderReference) :
    (∃ reply, w.attachProviderReference reference = (reply, w)) ∨
      w.attachProviderReference reference
        = (.ok (), w.withReferences (w.references.put reference)) := by
  unfold attachProviderReference
  split
  · exact Or.inl ⟨_, rfl⟩
  · split
    · exact Or.inl ⟨_, rfl⟩
    · exact Or.inr rfl

theorem updateAgentCommand_cases (u : AgentUpdate) :
    (∃ e, w.updateAgentCommand u = (.error e, w)) ∨
      ∃ current, w.commands.get? u.commandId = some current ∧
        (Operations.projectUpdate current u = .ok none ∧ w.updateAgentCommand u = (.ok current, w) ∨
          ∃ row, Operations.projectUpdate current u = .ok (some row) ∧
            w.updateAgentCommand u = (.ok row, w.withCommands (w.commands.put row))) := by
  unfold updateAgentCommand
  rcases updateAgentCommandOnce_cases u w.commands with
    ⟨e, heq⟩ | ⟨current, hget, ⟨hproject, heq⟩ | ⟨row, hproject, heq⟩⟩
  · exact Or.inl ⟨e, by rw [heq]; rfl⟩
  · exact Or.inr ⟨current, hget, Or.inl ⟨hproject, by rw [heq]; rfl⟩⟩
  · exact Or.inr ⟨current, hget, Or.inr ⟨row, hproject, by rw [heq]⟩⟩

variable {w}

theorem commandOf_eq_some {operationId : Uuid} {c : AgentCommandRecord} :
    w.commandOf operationId = some c ↔ w.newestCommand operationId = some c.commandId ∧
      w.commands.get? c.commandId = some c ∧ c.operationId = operationId := by
  unfold commandOf
  rw [Option.filter_eq_some_iff, Option.bind_eq_some_iff]
  constructor
  · rintro ⟨⟨id, hnewest, hget⟩, hoperation⟩
    obtain rfl : c.commandId = id := w.commands.key_of_get? hget
    exact ⟨hnewest, hget, of_decide_eq_true hoperation⟩
  · rintro ⟨hnewest, hget, hoperation⟩
    exact ⟨⟨c.commandId, hnewest, hget⟩, decide_eq_true hoperation⟩

theorem commandOf_put {current row : AgentCommandRecord}
    (hget : w.commands.get? row.commandId = some current)
    (hoperation : row.operationId = current.operationId) (operationId : Uuid) :
    (w.withCommands (w.commands.put row)).commandOf operationId =
    if w.commandOf operationId = some current then some row else w.commandOf operationId := by
  have hid : current.commandId = row.commandId := w.commands.key_of_get? hget
  ext c
  by_cases hnewest : w.newestCommand operationId = some row.commandId
  · by_cases hsame : current.operationId = operationId
    · have hcurrent : w.commandOf operationId = some current :=
        commandOf_eq_some.mpr ⟨hid ▸ hnewest, hid ▸ hget, hsame⟩
      rw [if_pos hcurrent]
      refine ⟨fun hc => ?_, fun hc => ?_⟩
      · obtain ⟨hnewest', hget', _⟩ := commandOf_eq_some.mp hc
        have heq : row.commandId = c.commandId := Option.some.inj (hnewest.symm.trans hnewest')
        rw [← heq, withCommands_commands, Table.get?_put_self] at hget'
        exact hget'
      · cases hc
        exact commandOf_eq_some.mpr ⟨hnewest, Table.get?_put_self _ _, hoperation.trans hsame⟩
    · have hnone : ∀ v : JournalWorld, v.newestCommand = w.newestCommand →
          (v.commands.get? row.commandId).all (fun d => d.operationId ≠ operationId) →
          v.commandOf operationId = none := by
        intro v hv hall
        by_contra hsome
        obtain ⟨d, hd⟩ := Option.ne_none_iff_exists'.mp hsome
        obtain ⟨hnewest', hget', hd'⟩ := commandOf_eq_some.mp hd
        rw [hv, hnewest] at hnewest'
        rw [Option.some.inj hnewest', hget'] at hall
        simp [hd'] at hall
      have hbefore : w.commandOf operationId = none := hnone w rfl (by simp [hget, hsame])
      have hafter : (w.withCommands (w.commands.put row)).commandOf operationId = none :=
        hnone _ rfl (by simp [Table.get?_put_self, hoperation, hsame])
      rw [hafter, hbefore, if_neg (by simp)]
  · have hdiffers : ∀ d, w.commandOf operationId = some d → d.commandId ≠ row.commandId := by
      intro d hd heq
      exact hnewest (heq ▸ (commandOf_eq_some.mp hd).1)
    rw [if_neg (fun hcurrent => hdiffers current hcurrent hid), commandOf_eq_some, commandOf_eq_some]
    refine and_congr_right fun hc => and_congr_left fun _ => ?_
    have hne : row.commandId ≠ c.commandId := by
      intro heq
      exact hnewest (heq ▸ hc)
    rw [withCommands_commands, w.commands.get?_put_of_ne hne]

end JournalWorld

end Journal
end O3k
