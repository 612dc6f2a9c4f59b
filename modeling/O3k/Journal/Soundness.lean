import O3k.Journal.Effects

/-!
# What every call of the journal keeps

`Sound` is the invariant of the journal: evidence is remembered of the agent of
the command only, and an operation that is terminal has a command row that has
told its outcome or belongs to an agent that can still tell it.
-/

namespace O3k
namespace Journal

open Relational Relational.Transaction Semantics Operations

/-- An agent whose evidence the fences look at. -/
def namedAgent (agentId : String) : Bool := !isBlank agentId && validAgentReference agentId

/-- The command has told an outcome, or its agent can tell that of the
operation. -/
def Serves (c : AgentCommandRecord) (o : OperationRecord) : Prop :=
  c.state.isTerminal = true ∨ c.resourceId = o.resourceId ∧ namedAgent c.agentId = true

structure Sound (w : JournalWorld) : Prop where
  registry : w.registry.isSome = true
  single : ∀ c ∈ w.commands.rows, w.newestCommand c.operationId = some c.commandId
  room :
    ∀ c ∈ w.commands.rows, c.acceptedSequence < integerMax ∧ c.lastSequence < integerMax
  generations : ∀ r ∈ w.tables.resources.rows, r.satisfiesChecks = true
  anchored :
    ∀ id e c, w.agentEvidence id = some e → w.commandOf id = some c → e.agentId = c.agentId
  served :
    ∀ id o c, w.tables.operations.get? id = some o → o.state.isTerminal = true →
      w.commandOf id = some c → Serves c o

/-- The rows that tell an outcome have not changed. -/
structure SameOutcome (w w' : JournalWorld) : Prop where
  operations : w'.tables.operations = w.tables.operations
  commands : w'.commands = w.commands
  newestCommand : w'.newestCommand = w.newestCommand

/-- What may happen between two calls: rows stay, memory may be lost. -/
structure Undisturbed (w w' : JournalWorld) : Prop extends SameOutcome w w' where
  evidence : ∀ id, w'.agentEvidence id = w.agentEvidence id ∨ w'.agentEvidence id = none

theorem SameOutcome.refl (w : JournalWorld) : SameOutcome w w := ⟨rfl, rfl, rfl⟩

theorem SameOutcome.trans {w₁ w₂ w₃ : JournalWorld}
    (h : SameOutcome w₁ w₂) (h' : SameOutcome w₂ w₃) :
    SameOutcome w₁ w₃ :=
  ⟨h'.operations.trans h.operations, h'.commands.trans h.commands,
    h'.newestCommand.trans h.newestCommand⟩

theorem Undisturbed.refl (w : JournalWorld) : Undisturbed w w :=
  ⟨SameOutcome.refl w, fun _ => Or.inl rfl⟩

theorem Undisturbed.trans {w₁ w₂ w₃ : JournalWorld}
    (h : Undisturbed w₁ w₂) (h' : Undisturbed w₂ w₃) :
    Undisturbed w₁ w₃ := by
  refine ⟨h.toSameOutcome.trans h'.toSameOutcome, fun id => ?_⟩
  rcases h'.evidence id with heq | hnone
  · rw [heq]
    exact h.evidence id
  · exact Or.inr hnone

theorem SameOutcome.commandOf {w w' : JournalWorld} (h : SameOutcome w w') (id : Uuid) :
    w'.commandOf id = w.commandOf id := by
  unfold JournalWorld.commandOf
  rw [h.commands, h.newestCommand]

section Sound

variable {w : JournalWorld} (h : Sound w)

include h

theorem Sound.commandOf_of_get? {commandId : String} {c : AgentCommandRecord}
    (hget : w.commands.get? commandId = some c) :
    w.commandOf c.operationId = some c := by
  have hid : c.commandId = commandId := w.commands.key_of_get? hget
  exact JournalWorld.commandOf_eq_some.mpr
    ⟨h.single c (w.commands.mem_of_get? hget), hid ▸ hget, rfl⟩

theorem Sound.act (e : JournalEnvironment) : Undisturbed w (e.act w) ∧ Sound (e.act w) := by
  cases e with
  | register agentId agentEpoch =>
    refine ⟨⟨⟨rfl, rfl, rfl⟩, fun _ => Or.inl rfl⟩, ?_⟩
    exact ⟨by simpa [JournalEnvironment.act, JournalWorld.registered] using h.registry,
      h.single, h.room, h.generations, h.anchored, h.served⟩
  | restart =>
    refine ⟨⟨⟨rfl, rfl, rfl⟩, fun _ => Or.inr rfl⟩, ?_⟩
    exact ⟨by simpa [JournalEnvironment.act, JournalWorld.restarted] using h.registry,
      h.single, h.room, h.generations, fun _ _ _ he => (by cases he), h.served⟩

theorem Sound.withTables {t : OperationTables}
    (hresources :
      t.resources = w.tables.resources ∨
        ∃ row, t.resources = w.tables.resources.put row ∧ row.satisfiesChecks = true)
    (hserved :
      ∀ id o c, t.operations.get? id = some o → o.state.isTerminal = true →
        w.commandOf id = some c → Serves c o) :
    Sound (w.withTables t) := by
  refine ⟨h.registry, h.single, h.room, ?_, h.anchored, hserved⟩
  intro r hr
  rw [JournalWorld.withTables_tables] at hr
  rcases hresources with hsame | ⟨row, hput, hchecks⟩
  · rw [hsame] at hr
    exact h.generations r hr
  · rw [hput] at hr
    rcases w.tables.resources.mem_put.mp hr with rfl | ⟨hr, _⟩
    · exact hchecks
    · exact h.generations r hr

/-- A rewritten operation: where its state is terminal, its command serves it. -/
theorem Sound.rewritten {t : OperationTables} {id : Uuid} {state : OperationState}
    (hresources :
      t.resources = w.tables.resources ∨
        ∃ row, t.resources = w.tables.resources.put row ∧ row.satisfiesChecks = true)
    (hrewritten : JournalWorld.Rewritten w.tables t id state)
    (hserves :
      state.isTerminal = true →
        ∀ o c, w.tables.operations.get? id = some o → w.commandOf id = some c → Serves c o) :
    Sound (w.withTables t) := by
  obtain ⟨current, row, hget, hoperations, hid, hresource, hstate⟩ := hrewritten.row
  refine h.withTables hresources ?_
  intro id' o c ho hterminal hc
  rw [hoperations] at ho
  by_cases hsame : id' = id
  · subst hsame
    rw [← hid, Table.get?_put_self] at ho
    cases ho
    rcases hserves (hstate ▸ hterminal) current c hget hc with htold | ⟨heq, hnamed⟩
    · exact Or.inl htold
    · exact Or.inr ⟨heq.trans hresource.symm, hnamed⟩
  · rw [w.tables.operations.get?_put_of_ne (by rw [hid]; exact Ne.symm hsame)] at ho
    exact h.served id' o c ho hterminal hc

theorem Sound.putCommand {current row : AgentCommandRecord}
    (hget : w.commands.get? row.commandId = some current)
    (hoperation : row.operationId = current.operationId)
    (hresource : row.resourceId = current.resourceId) (hagent : row.agentId = current.agentId)
    (hterminal : current.state.isTerminal = true → row.state.isTerminal = true)
    (hroom : row.acceptedSequence < integerMax ∧ row.lastSequence < integerMax) :
    Sound (w.withCommands (w.commands.put row)) := by
  have hid : current.commandId = row.commandId := w.commands.key_of_get? hget
  refine ⟨h.registry, ?_, ?_, h.generations, ?_, ?_⟩
  · intro c hc
    rcases w.commands.mem_put.mp hc with rfl | ⟨hc, _⟩
    · rw [← hid, hoperation]
      exact h.single current (w.commands.mem_of_get? hget)
    · exact h.single c hc
  · intro c hc
    rcases w.commands.mem_put.mp hc with rfl | ⟨hc, _⟩
    · exact hroom
    · exact h.room c hc
  · intro id e c he hc
    rw [JournalWorld.commandOf_put hget hoperation] at hc
    split at hc
    · rename_i hcurrent
      cases hc
      rw [hagent]
      exact h.anchored id e current he hcurrent
    · exact h.anchored id e c he hc
  · intro id o c ho hdone hc
    rw [JournalWorld.commandOf_put hget hoperation] at hc
    split at hc
    · rename_i hcurrent
      cases hc
      rcases h.served id o current ho hdone hcurrent with htold | ⟨heq, hnamed⟩
      · exact Or.inl (hterminal htold)
      · exact Or.inr ⟨hresource.trans heq, hagent ▸ hnamed⟩
    · exact h.served id o c ho hdone hc

theorem Sound.updateAgentCommand {u : AgentUpdate}
    (haccepted : u.acceptedSequence < integerMax) (hlast : u.lastSequence < integerMax) :
    Sound (w.updateAgentCommand u).2 := by
  rcases w.updateAgentCommand_cases u with
    ⟨e, heq⟩ | ⟨current, hget, ⟨_, heq⟩ | ⟨row, hproject, heq⟩⟩
  · rw [heq]
    exact h
  · rw [heq]
    exact h
  · rw [heq]
    have hprojected := projected_of_projectUpdate hproject
    have hoperation : row.operationId = current.operationId := by rw [hprojected.columns]
    have hresource : row.resourceId = current.resourceId := by rw [hprojected.columns]
    have hagent : row.agentId = current.agentId := by rw [hprojected.columns]
    have hid : current.commandId = u.commandId := w.commands.key_of_get? hget
    have hget' : w.commands.get? row.commandId = some current := by
      rw [hprojected.commandId, hid]
      exact hget
    refine h.putCommand hget' hoperation hresource hagent ?_ ?_
    · intro hterminal
      rw [hprojected.state, hprojected.terminal hterminal]
      exact hterminal
    · rw [hprojected.acceptedSequence, hprojected.lastSequence]
      have hbound := (h.room current (w.commands.mem_of_get? hget)).1
      omega

theorem Sound.rememberEvidence {id : Uuid} {next : AgentEvidenceFence}
    (hagent : ∀ c, w.commandOf id = some c → next.agentId = c.agentId)
    (reply : Except ReconcileError EvidenceDisposition) :
    Sound (w.rememberEvidence id next reply).2 := by
  unfold JournalWorld.rememberEvidence
  split
  · refine ⟨h.registry, h.single, h.room, h.generations, ?_, h.served⟩
    intro id' e c he hc
    dsimp only at he
    by_cases hsame : id' = id
    · subst hsame
      rw [Function.update_self] at he
      cases he
      exact hagent c hc
    · rw [Function.update_of_ne hsame] at he
      exact h.anchored id' e c he hc
  · exact h

theorem Sound.rememberObservation {id : Uuid} {next : ObservationEvidenceFence}
    (reply : Except ReconcileError EvidenceDisposition) :
    Sound (w.rememberObservation id next reply).2 := by
  unfold JournalWorld.rememberObservation
  split
  · exact ⟨h.registry, h.single, h.room, h.generations, h.anchored, h.served⟩
  · exact h

end Sound

/-- The call keeps the invariant and the rows that tell an outcome. -/
def LeavesOutcome (c : JournalCall) : Prop :=
  ∀ w x, Sound w → Sound (exec c x w).2 ∧ SameOutcome w (exec c x w).2

section LeavesOutcome

theorem leavesOutcome_read {c : JournalCall} (hsame : ∀ x w, (exec c x w).2 = w) :
    LeavesOutcome c := by
  intro w x h
  rw [hsame]
  exact ⟨h, SameOutcome.refl w⟩

theorem leavesOutcome_getResource (id : Uuid) : LeavesOutcome (.getResource id) :=
  leavesOutcome_read fun _ _ => query_world _

theorem leavesOutcome_getProviderReference (id : Uuid) (name : String) :
    LeavesOutcome (.getProviderReference id name) :=
  leavesOutcome_read fun _ _ => query_world _

theorem leavesOutcome_observeResourceState (kind project id state : String) :
    LeavesOutcome (.observeResourceState kind project id state) :=
  leavesOutcome_read fun _ _ => rfl

theorem leavesOutcome_event (e : JournalEvent) : LeavesOutcome (.event e) :=
  fun _ _ h => ⟨⟨h.registry, h.single, h.room, h.generations, h.anchored, h.served⟩,
    ⟨rfl, rfl, rfl⟩⟩

theorem leavesOutcome_attachProviderReference (reference : ProviderReference) :
    LeavesOutcome (.attachProviderReference reference) := by
  intro w x h
  refine statement_rel (P := fun w' => Sound w' ∧ SameOutcome w w') ⟨h, SameOutcome.refl w⟩ ?_
  rcases w.attachProviderReference_cases reference with ⟨reply, heq⟩ | heq
  · rw [heq]
    exact ⟨h, SameOutcome.refl w⟩
  · rw [heq]
    exact ⟨⟨h.registry, h.single, h.room, h.generations, h.anchored, h.served⟩, ⟨rfl, rfl, rfl⟩⟩

theorem Sound.projected {w : JournalWorld}
    (h : Sound w) {projection : ResourceProjection} {t : OperationTables}
    (hproject : projectResource projection w.tables = .ok ((), t)) :
    Sound (w.withTables t) ∧ SameOutcome w (w.withTables t) := by
  obtain ⟨row, hrow, rfl⟩ := projectResource_ok hproject
  exact ⟨h.withTables (Or.inr ⟨_, rfl, hrow.checks⟩) h.served, ⟨rfl, rfl, rfl⟩⟩

theorem leavesOutcome_updateResource (projection : ResourceProjection) :
    LeavesOutcome (.updateResource projection) := by
  intro w x h
  refine statement_rel (P := fun w' => Sound w' ∧ SameOutcome w w') ⟨h, SameOutcome.refl w⟩ ?_
  rcases w.onTables_cases (projectResource projection) with ⟨e, heq⟩ | ⟨_, t, hproject, heq⟩
  · rw [JournalWorld.updateResource, heq]
    exact ⟨h, SameOutcome.refl w⟩
  · rw [JournalWorld.updateResource, heq]
    exact h.projected hproject

theorem leavesOutcome_updateResourceFromObservation (update : ObservationUpdate) :
    LeavesOutcome (.updateResourceFromObservation update) := by
  intro w x h
  refine statement_rel (P := fun w' => Sound w' ∧ SameOutcome w w') ⟨h, SameOutcome.refl w⟩ ?_
  rcases w.updateResourceFromObservation_cases update with
    ⟨reply, heq⟩ | ⟨row, hrow, _, heq⟩
  · rw [heq]
    exact ⟨h, SameOutcome.refl w⟩
  · rw [heq]
    have hsound := h.withTables (t := w.tables.putResource (row.projected update.projection))
      (Or.inr ⟨_, rfl, hrow.checks⟩) h.served
    exact ⟨⟨hsound.registry, hsound.single, hsound.room, hsound.generations, hsound.anchored,
      hsound.served⟩, ⟨rfl, rfl, rfl⟩⟩

end LeavesOutcome

section Programs

abbrev Harmless {α : Type} (p : JournalM α) : Prop := p.run.Calls LeavesOutcome

theorem harmless_call {c : JournalCall} (h : LeavesOutcome c) : Harmless (JournalM.call c) :=
  ⟨h, fun _ => trivial⟩

theorem harmless_bind {α β : Type} {p : JournalM α} {f : α → JournalM β}
    (hp : Harmless p) (hf : ∀ a, Harmless (f a)) :
    Harmless (p >>= f) :=
  Program.calls_run_bind hp hf

theorem harmless_ensureReference (resourceId : Uuid) (providerId : Option String) :
    Harmless (ensureReference resourceId providerId) := by
  cases providerId with
  | none => trivial
  | some providerResourceId =>
    refine harmless_bind (harmless_call (leavesOutcome_getProviderReference _ _)) ?_
    intro reply
    split
    · split <;> trivial
    · exact harmless_bind (harmless_call (leavesOutcome_attachProviderReference _))
        fun _ => trivial
    · trivial

theorem harmless_projectMetering (resource : ResourceRecord) (state : String) :
    Harmless (projectMetering resource state) :=
  harmless_bind (harmless_call (leavesOutcome_observeResourceState _ _ _ _)) fun _ => trivial

theorem harmless_projectMeteringBestEffort (resource : ResourceRecord) (state : String) :
    Harmless (projectMeteringBestEffort resource state) :=
  harmless_bind (harmless_call (leavesOutcome_observeResourceState _ _ _ _)) fun _ => trivial

theorem harmless_repairMetering (resourceId : Uuid) :
    Harmless (repairMeteringFromDurableState resourceId) := by
  refine harmless_bind (harmless_call (leavesOutcome_getResource _)) ?_
  intro reply
  split
  · trivial
  · split
    · exact harmless_projectMeteringBestEffort _ _
    · trivial

theorem harmless_failedCreateResource
    (operation : OperationRecord) (update : AgentOperationUpdate) :
    Harmless (failedCreateResource operation update) := by
  unfold failedCreateResource
  split
  · refine harmless_bind (harmless_call (leavesOutcome_getResource _)) fun _ => ?_
    refine harmless_bind trivial fun resource => ?_
    exact harmless_bind (harmless_projectMetering _ _) fun _ => trivial
  · trivial

theorem harmless_projectFailedCreate
    (update : AgentOperationUpdate) (failedCreate : Option ResourceRecord) :
    Harmless (projectFailedCreate update failedCreate) := by
  cases failedCreate with
  | none => trivial
  | some resource =>
    exact harmless_bind (harmless_call (leavesOutcome_updateResource _)) fun _ => trivial

theorem harmless_projectProviderIdentity (update : AgentOperationUpdate) :
    Harmless (projectProviderIdentity update) := by
  unfold projectProviderIdentity
  split
  · refine harmless_bind (harmless_call (leavesOutcome_getResource _)) fun _ => ?_
    refine harmless_bind trivial fun resource => ?_
    refine harmless_bind (harmless_ensureReference _ _) fun _ => ?_
    exact harmless_bind (harmless_call (leavesOutcome_updateResource _)) fun _ => trivial
  · trivial

abbrev ReadsOnly {α : Type} (p : JournalM α) : Prop :=
  p.run.Calls (fun c => ∀ x w, (exec c x w).2 = w)

theorem readsOnly_checkReference (resourceId incoming providerName : String) :
    ReadsOnly (checkReference resourceId incoming providerName) := by
  refine Program.calls_run_bind ⟨fun _ _ => query_world _, fun _ => trivial⟩ fun reply => ?_
  split <;> trivial

theorem readsOnly_validateAgentProviderIdentity
    (command : AgentCommandRecord) (update : AgentOperationUpdate) :
    ReadsOnly (validateAgentProviderIdentity command update) := by
  unfold validateAgentProviderIdentity
  cases update.providerResourceId with
  | none => trivial
  | some incoming =>
    refine Program.calls_run_bind trivial fun _ => ?_
    refine Program.calls_run_bind ⟨fun _ _ => query_world _, fun _ => trivial⟩ fun _ => ?_
    refine Program.calls_run_bind trivial fun resource => ?_
    refine Program.calls_run_bind trivial fun _ => ?_
    exact Program.calls_run_bind (readsOnly_checkReference _ _ _)
      fun _ => readsOnly_checkReference _ _ _

end Programs

end Journal
end O3k
