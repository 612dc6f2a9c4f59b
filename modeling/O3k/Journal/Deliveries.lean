import O3k.Journal.Outcomes

/-!
# The three messages

Each message goes through whatever the stores do and wherever it is cut, and an
update that returns a terminal state has stored it in both rows.
-/

namespace O3k
namespace Journal

open Relational Relational.Transaction Semantics Operations JournalM
open Program (Survives Yields yields_pure)

section Deliveries

variable {w : JournalWorld}

theorem goes_applyAgentAcceptance {accepted : AgentCommandAccepted}
    (hroom : accepted.operationSequence < integerMax) :
    Goes (fun _ _ => True) (applyAgentAcceptance accepted) w := by
  refine Yields.bind (goes_getOperation _) fun _ w₁ ⟨_, _, _⟩ => ?_
  refine goes_stored_bind fun operation _ => ?_
  refine Yields.bind (goes_getAgentCommand _) fun _ w₂ ⟨_, hsound, hcommand⟩ => ?_
  refine goes_intended_bind fun command hreply => ?_
  have hnewest := hsound.commandOf_of_get? (hcommand command hreply)
  refine goes_ensure_bind fun ⟨hoperation, hagent⟩ => ?_
  refine goes_ensure_bind fun _ => goes_ensure_bind fun _ => ?_
  have hanchor :
      ∀ c, w₂.commandOf accepted.operationId = some c → accepted.agentId = c.agentId := by
    intro c hc
    rw [← hoperation, hnewest] at hc
    cases hc
    exact hagent.symm
  refine Yields.bind (goes_fenceAgentEvidence hanchor) fun _ w₃ _ => ?_
  refine goes_given_bind fun disposition _ => ?_
  split
  · exact yields_pure trivial
  · refine Yields.bind (goes_updateAgentCommand hroom hroom) fun _ w₄ _ => ?_
    refine goes_stored_bind fun _ _ => ?_
    refine Yields.bind (goes_updateOperation (fun h => (by cases h))) fun _ w₅ _ => ?_
    refine goes_stored_bind fun _ _ => ?_
    split
    · refine Yields.bind
        (goes_harmless (harmless_call (leavesOutcome_event _)) (SameOutcome.refl _)) fun _ _ _ => ?_
      exact yields_pure trivial
    · exact yields_pure trivial

/-- The command row has told what the update says. -/
def Told (u : AgentOperationUpdate) (w : JournalWorld) : Prop :=
  ∃ c, w.commandOf u.operationId = some c ∧ c.state = u.state.command

variable {u : AgentOperationUpdate}

theorem SameOutcome.told {w' : JournalWorld} (h : SameOutcome w w') (htold : Told u w) :
    Told u w' := by
  obtain ⟨c, hc, hstate⟩ := htold
  exact ⟨c, h.commandOf _ ▸ hc, hstate⟩

theorem Told.serves (htold : Told u w) (hterminal : u.state.durable.isTerminal = true) :
    ∀ o c, w.tables.operations.get? u.operationId = some o →
      w.commandOf u.operationId = some c → Serves c o := by
  obtain ⟨c, hc, hstate⟩ := htold
  intro o c' _ hc'
  rw [hc] at hc'
  cases hc'
  exact Or.inl (hstate ▸ isTerminal_command hterminal)

/-- A terminal operation row beside a command row that has told the outcome. -/
theorem Told.closed {o : OperationRecord}
    (htold : Told u w) (hterminal : u.state.durable.isTerminal = true)
    (ho : w.tables.operations.get? u.operationId = some o) (hstate : o.state = u.state.durable) :
    w.Closed u.operationId u.state.durable := by
  obtain ⟨c, hc, htold⟩ := htold
  exact ⟨o, c, ho, hc, hstate, htold.trans (commandStateOf_durable hterminal).symm⟩

/-- A terminal update is stored in both rows. -/
def ClosedBy (u : AgentOperationUpdate) (w : JournalWorld) : Prop :=
  u.state.durable.isTerminal = true → w.Closed u.operationId u.state.durable

variable {operation : OperationRecord}

theorem goes_finishDelete (htold : Told u w) (hsucceeded : u.state.durable = .succeeded) :
    Goes (fun _ => ClosedBy u) (finishDelete operation u) w := by
  have hterminal : u.state.durable.isTerminal = true := by
    rw [hsucceeded]
    rfl
  refine Yields.bind
    (goes_harmless (harmless_call (leavesOutcome_getResource _)) (SameOutcome.refl w))
    fun _ w₁ h₁ => ?_
  refine goes_stored_bind fun resource _ => ?_
  refine Yields.bind (goes_harmless (harmless_ensureReference _ _) h₁) fun _ w₂ h₂ => ?_
  refine Yields.bind
    (goes_terminalizeLifecycle ((h₂.told htold).serves hterminal)) fun _ w₃ ⟨hcommands, hdone⟩ => ?_
  refine goes_stored fun _ hok => ?_
  intro _
  obtain ⟨o, ho, hstate⟩ := hdone hok
  obtain ⟨c, hc, hrow⟩ := h₂.told htold
  exact Told.closed ⟨c, hcommands _ ▸ hc, hrow⟩ hterminal ho (hstate.trans hsucceeded.symm)

theorem goes_finishUpdate {errorCategory : Option String} {failedCreate : Option ResourceRecord}
    (htold : u.state.durable.isTerminal = true → Told u w) :
    Goes (fun _ => ClosedBy u) (finishUpdate operation u errorCategory failedCreate) w := by
  refine Yields.bind (goes_updateOperation fun hterminal => (htold hterminal).serves hterminal)
    fun _ w₁ ⟨hcommands, hdone⟩ => ?_
  refine goes_stored_bind fun _ hok => ?_
  refine Yields.bind
    (goes_harmless (harmless_projectFailedCreate _ _) (SameOutcome.refl w₁)) fun _ w₂ h₂ => ?_
  refine Yields.mono (goes_harmless (harmless_projectProviderIdentity _) h₂) ?_
  intro _ w₃ h₃ hterminal
  obtain ⟨o, ho, hstate⟩ := hdone hok hterminal
  obtain ⟨c, hc, hrow⟩ := htold hterminal
  refine h₃.closed (Told.closed ⟨c, hcommands _ ▸ hc, hrow⟩ hterminal ho hstate)

theorem goes_projectOutcome {errorCategory : Option String}
    (htold : u.state.durable.isTerminal = true → Told u w) :
    Goes (fun _ => ClosedBy u) (projectOutcome operation u errorCategory) w := by
  refine Yields.bind
    (goes_harmless (harmless_failedCreateResource _ _) (SameOutcome.refl w)) fun _ w₁ h₁ => ?_
  split
  · rename_i hdelete
    refine goes_finishDelete (h₁.told (htold ?_)) hdelete.1
    rw [hdelete.1]
    rfl
  · exact goes_finishUpdate fun hterminal => h₁.told (htold hterminal)

theorem told_of_updateAgentCommand {c row : AgentCommandRecord} {w' : JournalWorld}
    (hc : w.commandOf u.operationId = some c)
    (horder :
      u.state.durable.isTerminal = true → w.Closed u.operationId u.state.durable ∨ Follows u c)
    (h :
      w.updateAgentCommand
          ⟨c.commandId, u.state.command, c.acceptedSequence, u.operationSequence,
            c.providerOperationId, u.providerResourceId⟩
        = (.ok row, w')) :
    u.state.durable.isTerminal = true → Told u w' := by
  intro hterminal
  obtain ⟨_, hget, _⟩ := JournalWorld.commandOf_eq_some.mp hc
  rcases w.updateAgentCommand_cases _ with
    ⟨e, heq⟩ | ⟨current, hcurrent, ⟨hproject, heq⟩ | ⟨written, hproject, heq⟩⟩
  · rw [heq] at h
    cases h
  · -- the row knows the update; it is not ahead of it, or it says the same
    rw [heq] at h
    cases h
    rw [hget] at hcurrent
    cases hcurrent
    refine ⟨c, hc, ?_⟩
    rcases horder hterminal with ⟨o, c', _, hc', _, hstate⟩ | hfollows
    · rw [hc] at hc'
      cases hc'
      exact hstate.trans (commandStateOf_durable hterminal)
    · rcases hfollows with ⟨hlater, _⟩ | ⟨hstate, _⟩
      · have hknown := known_of_projectUpdate hproject
        exact absurd hknown (by simpa using hlater)
      · exact hstate
  · rw [heq] at h
    cases h
    rw [hget] at hcurrent
    cases hcurrent
    have hprojected := projected_of_projectUpdate hproject
    have hoperation : row.operationId = c.operationId := by rw [hprojected.columns]
    refine ⟨row, ?_, hprojected.state⟩
    rw [JournalWorld.commandOf_put (hprojected.commandId ▸ hget) hoperation, if_pos hc]

theorem closed_of_stale {e : AgentEvidenceFence}
    (horder : InOrder u w) (he : w.agentEvidence u.operationId = some e)
    (hepoch : e.agentEpoch = u.agentEpoch) (hlater : u.operationSequence < e.sequence) :
    w.Closed u.operationId u.state.durable := by
  rcases horder with hclosed | ⟨_, hevidence⟩
  · exact hclosed
  · rcases hevidence e he with hother | hearlier | ⟨hsame, _⟩
    · exact absurd hepoch hother
    · omega
    · omega

theorem goes_applyAgentUpdate (hheard : Heard (.update u) w) :
    Goes (fun s w' => s.isTerminal = true → w'.Closed u.operationId s) (applyAgentUpdate u) w := by
  obtain ⟨hroom, horder⟩ := hheard
  refine Yields.bind (goes_getOperation _) fun _ w₁ ⟨h₁, _, hget⟩ => ?_
  refine goes_stored_bind fun operation hoperation => ?_
  have ho := hget operation hoperation
  refine goes_ensure_bind fun _ => ?_
  refine Yields.bind (goes_getAgentCommandByOperation _) fun _ w₂ ⟨h₂, hsound, hcommand⟩ => ?_
  refine goes_intended_bind fun command hreply => ?_
  have hc := hcommand command hreply
  refine goes_ensure_bind fun ⟨hagent, _⟩ => goes_ensure_bind fun _ => ?_
  refine goes_given_bind fun errorCategory _ => goes_ensure_bind fun hagrees => ?_
  -- a terminal operation says what the update says
  have hsays : operation.state.isTerminal = true → operation.state = u.state.durable := by
    intro hterminal
    by_contra hne
    exact hagrees ⟨hterminal, hne⟩
  have h₂' : Undisturbed w w₂ := h₁.trans h₂
  refine Yields.bind
    (goes_readsOnly (readsOnly_validateAgentProviderIdentity _ _)) fun _ w₃ h₃ => ?_
  have hc₃ : w₃.commandOf u.operationId = some command := h₃.commandOf _ ▸ hc
  have ho₃ : w₃.tables.operations.get? u.operationId = some operation := by
    rw [(h₂.trans h₃).operations]
    exact ho
  have horder₃ (hterminal : u.state.durable.isTerminal = true) : InOrder u w₃ :=
    (horder hterminal).undisturbed (h₂'.trans h₃)
  have hanchor : ∀ c, w₃.commandOf u.operationId = some c → u.agentId = c.agentId := by
    intro c hc'
    rw [hc₃] at hc'
    cases hc'
    exact hagent.symm
  refine Yields.bind (goes_fenceAgentEvidence hanchor) fun _ w₄ ⟨h₄, hfence⟩ => ?_
  refine goes_given_bind fun disposition hdisposition => ?_
  split
  · rename_i hstale
    refine yields_pure fun hterminal => ?_
    have hsame := hsays hterminal
    obtain ⟨e, he, hepoch, hlater⟩ := (hfence disposition hdisposition).2 hstale
    rw [hsame] at hterminal ⊢
    exact h₄.closed (closed_of_stale (horder₃ hterminal) he hepoch hlater)
  · have hroom' : command.acceptedSequence < integerMax :=
      (hsound.room command (w₂.commands.mem_of_get? (JournalWorld.commandOf_eq_some.mp hc).2.1)).1
    refine Yields.bind (goes_updateAgentCommand hroom' hroom) fun _ w₅ ⟨hoperations, hwritten⟩ => ?_
    refine goes_stored_bind fun row hrow => ?_
    obtain ⟨w₄', h₄', hupdate⟩ := hwritten row hrow
    have htold : u.state.durable.isTerminal = true → Told u w₅ := by
      refine told_of_updateAgentCommand (w := w₄') ?_ ?_ hupdate
      · rw [h₄'.commandOf, h₄.commandOf]
        exact hc₃
      · intro hterminal
        rcases horder₃ hterminal with hclosed | ⟨hrows, _⟩
        · exact Or.inl (h₄'.closed (h₄.closed hclosed))
        · exact Or.inr (hrows command hc₃)
    split
    · rename_i hterminal
      refine yields_pure fun _ => ?_
      have hsame := hsays hterminal
      rw [hsame] at hterminal ⊢
      refine (htold hterminal).closed hterminal ?_ hsame
      rw [hoperations, h₄.operations]
      exact ho₃
    · refine Yields.bind (goes_projectOutcome htold) fun _ w₆ hclosed => ?_
      split
      · refine Yields.bind
          (goes_harmless (harmless_call (leavesOutcome_event _)) (SameOutcome.refl w₆))
          fun _ w₇ h₇ => ?_
        exact yields_pure fun hterminal => h₇.closed (hclosed hterminal)
      · exact yields_pure hclosed

theorem goes_promoteOperation {observation : AgentObservation} {command : AgentCommandRecord}
    (ho : w.tables.operations.get? observation.operationId = some operation)
    (hc : w.commandOf observation.operationId = some command) (hserves : Serves command operation) :
    Goes (fun _ _ => True) (promoteOperation operation observation) w := by
  unfold promoteOperation
  split
  · exact yields_pure trivial
  · refine Yields.bind (goes_updateOperation ?_) fun _ _ _ => goes_stored fun _ _ => trivial
    intro _ o c ho' hc'
    rw [ho] at ho'
    rw [hc] at hc'
    cases ho'
    cases hc'
    exact hserves

theorem goes_projectObservation {observation : AgentObservation} {command : AgentCommandRecord}
    (ho : w.tables.operations.get? observation.operationId = some operation)
    (hc : w.commandOf observation.operationId = some command) (hserves : Serves command operation) :
    Goes (fun _ _ => True) (projectObservation operation observation) w := by
  refine Yields.bind
    (goes_harmless (harmless_call (leavesOutcome_getResource _)) (SameOutcome.refl w))
    fun _ w₁ h₁ => ?_
  refine goes_stored_bind fun resource _ => ?_
  refine Yields.bind (goes_harmless (harmless_ensureReference _ _) h₁) fun _ w₂ h₂ => ?_
  refine Yields.bind
    (goes_harmless (harmless_call (leavesOutcome_updateResourceFromObservation _)) h₂)
    fun _ w₃ h₃ => ?_
  refine goes_stored_bind fun updated _ => ?_
  refine Yields.bind (goes_harmless (harmless_projectMeteringBestEffort _ _) h₃) fun _ w₄ h₄ => ?_
  refine Yields.bind (goes_promoteOperation ?_ ?_ hserves) fun _ w₅ _ => ?_
  · rw [h₄.operations]
    exact ho
  · rw [h₄.commandOf]
    exact hc
  · split
    · exact Yields.mono
        (goes_harmless (harmless_call (leavesOutcome_event _)) (SameOutcome.refl w₅))
        fun _ _ _ => trivial
    · exact yields_pure trivial

theorem goes_applyAgentObservation (observation : AgentObservation) :
    Goes (fun _ _ => True) (applyAgentObservation observation) w := by
  refine Yields.bind (goes_getOperation _) fun _ w₁ ⟨_, _, hget⟩ => ?_
  refine goes_stored_bind fun operation hoperation => ?_
  have ho := hget operation hoperation
  refine goes_ensure_bind fun hresource => ?_
  refine Yields.bind (goes_getAgentCommandByOperation _) fun _ w₂ ⟨h₂, _, hcommand⟩ => ?_
  refine goes_intended_bind fun command hreply => ?_
  have hc := hcommand command hreply
  refine goes_ensure_bind fun ⟨hagent, hcommandResource⟩ => goes_ensure_bind fun _ => ?_
  refine Yields.bind (goes_fenceAgentObservation _ _) fun _ w₃ ⟨h₃, hnamed⟩ => ?_
  refine goes_given_bind fun disposition hdisposition => ?_
  have hserves : Serves command operation := by
    refine Or.inr ⟨hcommandResource.trans hresource.symm, ?_⟩
    rw [hagent]
    exact hnamed disposition hdisposition
  split
  · refine goes_projectObservation ?_ ?_ hserves
    · rw [h₃.operations, h₂.operations]
      exact ho
    · rw [h₃.commandOf]
      exact hc
  · exact Yields.mono
      (goes_harmless (harmless_repairMetering _) (SameOutcome.refl w₃)) fun _ _ _ => trivial

theorem goes_map {α β : Type} {P : α → JournalWorld → Prop} {Q : β → JournalWorld → Prop}
    {f : α → β} {p : JournalM α} (hp : Goes P p w) (hPQ : ∀ a w', P a w' → Q (f a) w') :
    Goes Q (f <$> p) w := by
  refine Survives.bind hp ?_
  intro r w' hr
  cases r with
  | error e => exact fun _ ha => by cases ha
  | ok a => exact yields_pure (hPQ a w' (hr a rfl))

/-- **One message**, wherever it is cut. -/
theorem survives_delivery {message : AgentMessage} (hheard : Heard message w) :
    Survives exec Undisturbed Sound (fun _ _ _ => True) (fun _ _ _ => True)
      Agreed (delivery message) w := by
  cases message with
  | acceptance accepted =>
    have hgoes : Goes (fun _ _ => True) (applyMessage (.acceptance accepted)) w :=
      goes_map (goes_applyAgentAcceptance hheard) fun _ _ _ => trivial
    exact Survives.bind hgoes fun _ _ _ => trivial
  | update u =>
    have hgoes :
        Goes (fun reply w' => ∀ s, reply = some s → s.isTerminal = true → w'.Closed u.operationId s)
          (applyMessage (.update u)) w := by
      refine goes_map (goes_applyAgentUpdate hheard) ?_
      rintro s w' hclosed _ ⟨⟩
      exact hclosed
    refine Survives.bind hgoes ?_
    intro r w' hr
    cases r with
    | error e => trivial
    | ok reply =>
      cases reply with
      | none => trivial
      | some s => exact hr (some s) rfl s rfl
  | observation observation =>
    have hgoes : Goes (fun _ _ => True) (applyMessage (.observation observation)) w :=
      Yields.bind (goes_applyAgentObservation observation)
        fun _ _ _ => yields_pure trivial
    exact Survives.bind hgoes fun _ _ _ => trivial

end Deliveries

end Journal
end O3k
