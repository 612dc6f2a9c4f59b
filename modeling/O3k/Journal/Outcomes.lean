import O3k.Journal.Soundness

/-!
# What a message does to the two rows

One pass over the three messages.  Every call keeps `Sound`, wherever the
message is cut; and an update that returns a terminal state has stored it in
both rows, provided that what is known of the operation is not ahead of it.
-/

namespace O3k
namespace Journal

open Relational Relational.Transaction Semantics Operations JournalM

def commandStateOf : OperationState → AgentCommandState
  | .pending => .pending
  | .running => .running
  | .succeeded => .succeeded
  | .retryable => .retryable
  | .unknownOutcome => .unknownOutcome
  | .failed => .failed

theorem commandStateOf_durable {s : AgentOperationState} (h : s.durable.isTerminal = true) :
    commandStateOf s.durable = s.command := by
  cases s <;> first | rfl | cases h

theorem isTerminal_command {s : AgentOperationState} (h : s.durable.isTerminal = true) :
    s.command.isTerminal = true := by
  cases s <;> first | rfl | cases h

/-- The operation row and its command row are both in the state. -/
def JournalWorld.Closed (w : JournalWorld) (id : Uuid) (s : OperationState) : Prop :=
  ∃ o c, w.tables.operations.get? id = some o ∧ w.commandOf id = some c ∧
    o.state = s ∧ c.state = commandStateOf s

/-- The row is behind the update, or it says what the update says already. -/
def Follows (u : AgentOperationUpdate) (c : AgentCommandRecord) : Prop :=
  c.lastSequence < u.operationSequence ∧
      (c.state.isTerminal = true → c.state = u.state.command) ∨
    c.state = u.state.command ∧
      (c.lastSequence = u.operationSequence →
        confirmsIdentity c.providerResourceId u.providerResourceId = true)

/-- The evidence is of another epoch, is behind the update, or is that of the
update. -/
def FollowsEvidence (u : AgentOperationUpdate) (e : AgentEvidenceFence) : Prop :=
  e.agentEpoch ≠ u.agentEpoch ∨ e.sequence < u.operationSequence ∨
    e.sequence = u.operationSequence ∧ e.state = u.state ∧
      e.providerResourceId = u.providerResourceId.getD ""

/-- What is known of the operation says what the update says, or is not ahead
of it. -/
def InOrder (u : AgentOperationUpdate) (w : JournalWorld) : Prop :=
  w.Closed u.operationId u.state.durable ∨
    (∀ c, w.commandOf u.operationId = some c → Follows u c) ∧
      ∀ e, w.agentEvidence u.operationId = some e → FollowsEvidence u e

/-- What has to hold of a message when it arrives: its number fits a column,
and a terminal update is in order. -/
def Heard : AgentMessage → JournalWorld → Prop
  | .acceptance accepted, _ => accepted.operationSequence < integerMax
  | .update u, w =>
    u.operationSequence < integerMax ∧ (u.state.durable.isTerminal = true → InOrder u w)
  | .observation _, _ => True

def Agreed : Delivery → JournalWorld → Prop
  | (.update u, .ok (some s)), w => s.isTerminal = true → w.Closed u.operationId s
  | _, _ => True

theorem SameOutcome.closed {w w' : JournalWorld}
    (h : SameOutcome w w') {id : Uuid} {s : OperationState} (hclosed : w.Closed id s) :
    w'.Closed id s := by
  obtain ⟨o, c, ho, hc, hstates⟩ := hclosed
  exact ⟨o, c, h.operations ▸ ho, h.commandOf id ▸ hc, hstates⟩

theorem InOrder.undisturbed {u : AgentOperationUpdate} {w w' : JournalWorld}
    (h : InOrder u w) (hrest : Undisturbed w w') :
    InOrder u w' := by
  rcases h with hclosed | ⟨hrow, hevidence⟩
  · exact Or.inl (hrest.closed hclosed)
  · refine Or.inr ⟨fun c hc => hrow c (hrest.commandOf _ ▸ hc), fun e he => ?_⟩
    rcases hrest.evidence u.operationId with hsame | hnone
    · exact hevidence e (hsame ▸ he)
    · rw [hnone] at he
      cases he

theorem Agreed.undisturbed {d : Delivery} {w w' : JournalWorld}
    (h : Agreed d w) (hrest : Undisturbed w w') :
    Agreed d w' := by
  obtain ⟨message, reply⟩ := d
  cases message with
  | acceptance accepted => trivial
  | observation observation => trivial
  | update u =>
    cases reply with
    | error e => trivial
    | ok result =>
      cases result with
      | none => trivial
      | some s => exact fun hterminal => hrest.closed (h hterminal)

section Rules

variable {α β : Type} {w : JournalWorld}

/-- The program keeps the invariant wherever it is cut, and what it returns
satisfies `P`. -/
abbrev Goes (P : α → JournalWorld → Prop) (p : JournalM α) (w : JournalWorld) : Prop :=
  Program.Yields exec Undisturbed Sound (fun _ _ _ => True) (fun _ _ _ => True) P p w

theorem goes_call {c : JournalCall} {P : c.Reply → JournalWorld → Prop}
    (h :
      ∀ w' x, Undisturbed w w' → Sound w' →
        Sound (exec c x w').2 ∧ P (exec c x w').1 (exec c x w').2) :
    Goes P (call c) w :=
  Program.yields_lift_perform fun w' x hrest hsound _ => ⟨trivial, h w' x hrest hsound⟩

theorem goes_read {c : JournalCall} (hsame : ∀ x w, (exec c x w).2 = w) :
    Goes (fun r w' => Undisturbed w w' ∧ Sound w' ∧ ∃ x, r = (exec c x w').1) (call c) w := by
  refine goes_call ?_
  intro w' x hrest hsound
  rw [hsame]
  exact ⟨hsound, hrest, hsound, x, rfl⟩

variable {P : β → JournalWorld → Prop} {x : Except StoreError α} {f : α → JournalM β}

theorem goes_stored_bind (h : ∀ a, x = .ok a → Goes P (f a) w) : Goes P (stored x >>= f) w := by
  cases x with
  | error e => exact Program.yields_throw _ _
  | ok a => exact h a rfl

theorem goes_intended_bind (h : ∀ a, x = .ok a → Goes P (f a) w) : Goes P (intended x >>= f) w := by
  cases x with
  | error e => exact Program.yields_throw _ _
  | ok a => exact h a rfl

theorem goes_given_bind {x : Except ReconcileError α} (h : ∀ a, x = .ok a → Goes P (f a) w) :
    Goes P (given x >>= f) w := by
  cases x with
  | error e => exact Program.yields_throw _ _
  | ok a => exact h a rfl

theorem goes_stored {P : α → JournalWorld → Prop} (h : ∀ a, x = .ok a → P a w) :
    Goes P (stored x) w := by
  cases x with
  | error e => exact Program.yields_throw _ _
  | ok a => exact Program.yields_pure (h a rfl)

theorem goes_ensure_bind {p : Prop} [Decidable p] {f : Unit → JournalM β}
    (h : p → Goes P (f ()) w) :
    Goes P (ensure p >>= f) w := by
  by_cases hp : p
  · rw [ensure, if_pos hp]
    exact h hp
  · rw [ensure, if_neg hp]
    exact Program.yields_throw _ _

theorem goes_harmless {w₀ : JournalWorld} {p : JournalM α}
    (hp : Harmless p) (hsame : SameOutcome w₀ w) :
    Goes (fun _ w' => SameOutcome w₀ w') p w := by
  refine Program.yields_of_calls (fun _ _ h hrest => h.trans hrest.toSameOutcome) ?_ hsame
  refine hp.mono ?_
  intro c hc w' x hsound _ h
  obtain ⟨hsound', hsame'⟩ := hc w' x hsound
  exact ⟨trivial, hsound', h.trans hsame'⟩

theorem goes_readsOnly {p : JournalM α} (hp : ReadsOnly p) :
    Goes (fun _ w' => Undisturbed w w') p w := by
  refine Program.yields_of_calls (fun _ _ h hrest => h.trans hrest) ?_ (Undisturbed.refl w)
  refine hp.mono ?_
  intro c hc w' x hsound _ h
  rw [hc]
  exact ⟨trivial, hsound, h⟩

theorem goes_getOperation (id : Uuid) :
    Goes
      (fun r w' => Undisturbed w w' ∧ Sound w' ∧
        ∀ o, r = .ok o → w'.tables.operations.get? id = some o)
      (call (.getOperation id)) w := by
  refine Program.Yields.mono (goes_read fun _ _ => query_world _) ?_
  rintro r w' ⟨hrest, hsound, x, rfl⟩
  refine ⟨hrest, hsound, fun o ho => ?_⟩
  have hreply : w'.getOperation id = .ok o := query_eq_ok ho
  unfold JournalWorld.getOperation at hreply
  cases hget : w'.tables.operations.get? id with
  | none =>
    rw [hget] at hreply
    cases hreply
  | some row =>
    rw [hget] at hreply
    exact congrArg some (Except.ok.inj hreply)

theorem goes_getAgentCommand (commandId : String) :
    Goes
      (fun r w' => Undisturbed w w' ∧ Sound w' ∧
        ∀ c, r = .ok c → w'.commands.get? commandId = some c)
      (call (.getAgentCommand commandId)) w := by
  refine Program.Yields.mono (goes_read fun _ _ => query_world _) ?_
  rintro r w' ⟨hrest, hsound, x, rfl⟩
  refine ⟨hrest, hsound, fun c hc => ?_⟩
  have hreply : w'.getAgentCommand commandId = .ok c := query_eq_ok hc
  unfold JournalWorld.getAgentCommand at hreply
  cases hget : w'.commands.get? commandId with
  | none =>
    rw [hget] at hreply
    cases hreply
  | some row =>
    rw [hget] at hreply
    exact congrArg some (Except.ok.inj hreply)

theorem goes_getAgentCommandByOperation (id : Uuid) :
    Goes (fun r w' => Undisturbed w w' ∧ Sound w' ∧ ∀ c, r = .ok c → w'.commandOf id = some c)
      (call (.getAgentCommandByOperation id)) w := by
  refine Program.Yields.mono (goes_read fun _ _ => query_world _) ?_
  rintro r w' ⟨hrest, hsound, x, rfl⟩
  refine ⟨hrest, hsound, fun c hc => ?_⟩
  have hreply : w'.getAgentCommandByOperation id = .ok c := query_eq_ok hc
  unfold JournalWorld.getAgentCommandByOperation at hreply
  cases hget : w'.commandOf id with
  | none =>
    rw [hget] at hreply
    cases hreply
  | some row =>
    rw [hget] at hreply
    exact congrArg some (Except.ok.inj hreply)

theorem named_of_fence {agentId agentEpoch : String} {sequence : Nat}
    (h : anonymous agentId agentEpoch sequence = false) :
    namedAgent agentId = true := by
  simp only [anonymous, Bool.or_eq_false_iff, Bool.not_eq_false'] at h
  simp [namedAgent, h.1.1.1.1, h.1.2]

/-- What the fence has let through: a named agent, and evidence that is stale
only after later evidence of the same epoch. -/
theorem fence_cases {registry : Option AgentNodeRegistry} {remembered : Option AgentEvidenceFence}
    {next : AgentEvidenceFence} {d : EvidenceDisposition}
    (h : fenceAgentEvidence registry remembered next = .ok d) :
    namedAgent next.agentId = true ∧
      (d = .stale →
        ∃ e, remembered = some e ∧ e.agentEpoch = next.agentEpoch ∧
          next.sequence < e.sequence) := by
  unfold fenceAgentEvidence at h
  split at h
  · cases h
  · rename_i hnamed
    refine ⟨named_of_fence (by simpa using hnamed), ?_⟩
    rintro rfl
    split at h
    · cases h
    · split at h
      · cases h
      · rename_i previous
        split at h
        · cases h
        · split at h
          · split at h <;> cases h
          · rename_i hepoch
            split at h
            · rename_i hstale
              exact ⟨previous, rfl, not_not.mp hepoch, hstale⟩
            · split at h
              · split at h <;> cases h
              · cases h

theorem rememberEvidence_fst (w : JournalWorld) (id : Uuid) (next : AgentEvidenceFence)
    (reply : Except ReconcileError EvidenceDisposition) :
    (w.rememberEvidence id next reply).1 = reply := by
  unfold JournalWorld.rememberEvidence
  split <;> rfl

theorem sameOutcome_rememberEvidence (w : JournalWorld) (id : Uuid) (next : AgentEvidenceFence)
    (reply : Except ReconcileError EvidenceDisposition) :
    SameOutcome w (w.rememberEvidence id next reply).2 := by
  unfold JournalWorld.rememberEvidence
  split <;> exact ⟨rfl, rfl, rfl⟩

theorem goes_fenceAgentEvidence {id : Uuid} {next : AgentEvidenceFence}
    (hagent : ∀ c, w.commandOf id = some c → next.agentId = c.agentId) :
    Goes
      (fun r w' => SameOutcome w w' ∧
        ∀ d, r = .ok d →
          namedAgent next.agentId = true ∧
            (d = .stale →
              ∃ e, w.agentEvidence id = some e ∧ e.agentEpoch = next.agentEpoch ∧
                next.sequence < e.sequence))
      (call (.fenceAgentEvidence id next)) w := by
  refine goes_call ?_
  intro w' x hrest hsound
  refine ⟨hsound.rememberEvidence (fun c hc => hagent c (hrest.commandOf id ▸ hc)) _,
    hrest.toSameOutcome.trans (sameOutcome_rememberEvidence _ _ _ _), ?_⟩
  intro d hd
  have hreply := (rememberEvidence_fst w' id next _).symm.trans hd
  obtain ⟨hnamed, hstale⟩ := fence_cases hreply
  refine ⟨hnamed, fun hd => ?_⟩
  obtain ⟨e, he, hlater⟩ := hstale hd
  rcases hrest.evidence id with hsame | hnone
  · exact ⟨e, hsame ▸ he, hlater⟩
  · rw [hnone] at he
    cases he

theorem goes_fenceAgentObservation (id : Uuid) (next : ObservationEvidenceFence) :
    Goes (fun r w' => SameOutcome w w' ∧ ∀ d, r = .ok d → namedAgent next.agentId = true)
      (call (.fenceAgentObservation id next)) w := by
  refine goes_call ?_
  intro w' x hrest hsound
  have hsame :
      ∀ reply, SameOutcome w' (w'.rememberObservation id next reply).2 ∧
        (w'.rememberObservation id next reply).1 = reply := by
    intro reply
    unfold JournalWorld.rememberObservation
    split <;> exact ⟨⟨rfl, rfl, rfl⟩, rfl⟩
  refine ⟨hsound.rememberObservation _, hrest.toSameOutcome.trans (hsame _).1, ?_⟩
  intro d hd
  have hreply := (hsame _).2.symm.trans hd
  unfold Journal.fenceAgentObservation at hreply
  split at hreply
  · cases hreply
  · rename_i hnamed
    exact named_of_fence (by simpa using hnamed)

theorem goes_updateAgentCommand {u : AgentUpdate}
    (haccepted : u.acceptedSequence < integerMax) (hlast : u.lastSequence < integerMax) :
    Goes
      (fun r w' => w'.tables.operations = w.tables.operations ∧
        ∀ row, r = .ok row → ∃ w₁, SameOutcome w w₁ ∧ w₁.updateAgentCommand u = (.ok row, w'))
      (call (.updateAgentCommand u)) w := by
  refine goes_call ?_
  intro w' x hrest hsound
  have htables : (w'.updateAgentCommand u).2.tables = w'.tables := rfl
  refine ⟨statement_rel hsound (hsound.updateAgentCommand haccepted hlast),
    statement_rel (P := fun v => v.tables.operations = w.tables.operations)
      hrest.operations ((congrArg _ htables).trans hrest.operations), ?_⟩
  intro row hrow
  obtain ⟨hresult, hok⟩ := statement_eq_ok hrow
  refine ⟨w', hrest.toSameOutcome, ?_⟩
  show _ = (Except.ok row, (x.statement w' (w'.updateAgentCommand u)).2)
  rw [hresult, ← hok]

/-- A statement on the tables, by what its body makes of them. -/
theorem statement_onTables {w' : JournalWorld} {x : JournalAnswer} {body : Body Unit}
    {Q : OperationTables → Prop} (hrest : Undisturbed w w') (hsound : Sound w')
    (hbody : ∀ t, body w'.tables = .ok ((), t) → Sound (w'.withTables t) ∧ Q t) :
    Sound (x.statement w' (w'.onTables body)).2 ∧
      (∀ id, (x.statement w' (w'.onTables body)).2.commandOf id = w.commandOf id) ∧
        ((x.statement w' (w'.onTables body)).1 = .ok () →
          Q (x.statement w' (w'.onTables body)).2.tables) := by
  rcases w'.onTables_cases body with ⟨e, heq⟩ | ⟨_, t, ht, heq⟩
  · refine ⟨statement_rel hsound (heq ▸ hsound),
      statement_rel (P := fun v => ∀ id, v.commandOf id = w.commandOf id) hrest.commandOf
        (heq ▸ hrest.commandOf), ?_⟩
    intro hok
    have hresult := (statement_eq_ok hok).2
    rw [heq] at hresult
    cases hresult
  · obtain ⟨hsound', hQ⟩ := hbody t ht
    refine ⟨statement_rel hsound (heq ▸ hsound'),
      statement_rel (P := fun v => ∀ id, v.commandOf id = w.commandOf id) hrest.commandOf
        (heq ▸ hrest.commandOf), ?_⟩
    intro hok
    rw [(statement_eq_ok hok).1, heq]
    exact hQ

/-- The state of an operation is written; a terminal one only when the command
serves the operation. -/
theorem goes_updateOperation {id : Uuid} {state : OperationState}
    {providerOperationId errorCategory errorMessage : Option String}
    (hserves :
      state.isTerminal = true →
        ∀ o c, w.tables.operations.get? id = some o → w.commandOf id = some c → Serves c o) :
    Goes
      (fun r w' => (∀ id, w'.commandOf id = w.commandOf id) ∧
        (r = .ok () → state.isTerminal = true →
          ∃ o, w'.tables.operations.get? id = some o ∧ o.state = state))
      (call (.updateOperation id state providerOperationId errorCategory errorMessage)) w := by
  refine goes_call fun w' x hrest hsound => statement_onTables
    (Q := fun t => state.isTerminal = true →
      ∃ o, t.operations.get? id = some o ∧ o.state = state) hrest hsound ?_
  intro t hbody
  obtain ⟨hresources, hcases⟩ := JournalWorld.updateOperationBody_cases hbody
  rcases hcases with ⟨rfl, _, hopen⟩ | hrewritten
  · exact ⟨hsound, fun hterminal => absurd hterminal (by simp [hopen])⟩
  · refine ⟨hsound.rewritten (Or.inl hresources) hrewritten ?_, fun _ => hrewritten.stored⟩
    intro hterminal o c ho hc
    exact hserves hterminal o c (hrest.operations ▸ ho) (hrest.commandOf id ▸ hc)

/-- The operation and its resource are written together. -/
theorem goes_terminalizeLifecycle {terminalization : LifecycleTerminalization}
    (hserves :
      ∀ o c, w.tables.operations.get? terminalization.operationId = some o →
        w.commandOf terminalization.operationId = some c → Serves c o) :
    Goes
      (fun r w' => (∀ id, w'.commandOf id = w.commandOf id) ∧
        (r = .ok () →
          ∃ o, w'.tables.operations.get? terminalization.operationId = some o ∧
            o.state = terminalization.terminalState))
      (call (.terminalizeLifecycle terminalization)) w := by
  refine goes_call fun w' x hrest hsound => statement_onTables
    (Q := fun t => ∃ o, t.operations.get? terminalization.operationId = some o ∧
      o.state = terminalization.terminalState) hrest hsound ?_
  intro t hbody
  obtain ⟨hrewritten, hresources⟩ := JournalWorld.terminalizeLifecycleBody_cases hbody
  refine ⟨hsound.rewritten hresources hrewritten ?_, hrewritten.stored⟩
  intro _ o c ho hc
  exact hserves o c (hrest.operations ▸ ho) (hrest.commandOf _ ▸ hc)

end Rules

end Journal
end O3k
