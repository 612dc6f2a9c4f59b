import O3k.Relational.Transaction
import O3k.Relational.Table
import O3k.Store.Values
import Mathlib.Data.String.Basic
import O3k.Semantics.Run

/-!
# Agent commands

A command row collects what an agent reports about one command.  An update is
applied by one transaction that reads the row, decides and writes it back.
-/

namespace O3k
namespace Operations

open Relational Relational.Transaction Semantics

inductive AgentCommandState
  | pending
  | accepted
  | running
  | succeeded
  | retryable
  | unknownOutcome
  | failed
  deriving DecidableEq

/-- `Succeeded | Failed`. -/
def AgentCommandState.isTerminal : AgentCommandState → Bool
  | .succeeded => true
  | .failed => true
  | _ => false

/-- `Accepted | Running`. -/
def AgentCommandState.isInFlight : AgentCommandState → Bool
  | .accepted => true
  | .running => true
  | _ => false

structure AgentCommandRecord where
  commandId : String
  idempotencyKey : String
  operationId : Uuid
  resourceId : Uuid
  agentId : String
  agentEpoch : String
  payloadFingerprintSha256 : String
  payload : List UInt8
  state : AgentCommandState
  acceptedSequence : Nat
  lastSequence : Nat
  providerOperationId : Option String
  providerResourceId : Option String
  deriving DecidableEq

abbrev AgentCommands := Table AgentCommandRecord.commandId

/-- The arguments of `update_agent_command`. -/
structure AgentUpdate where
  commandId : String
  state : AgentCommandState
  acceptedSequence : Nat
  lastSequence : Nat
  providerOperationId : Option String
  providerResourceId : Option String
  deriving DecidableEq

def sqliteSequence (value : Nat) : Except StoreError Nat :=
  if value ≤ integerMax then
    .ok value
  else
    .error (.corrupt "agent command sequence exceeds SQLite range")

/-- `incoming.is_none_or(|value| stored == Some(value))`. -/
def confirmsIdentity (stored incoming : Option String) : Bool :=
  incoming.all (fun value => stored = some value)

/-- Both identities are there and they differ. -/
def identityConflicts (stored incoming : Option String) : Bool :=
  incoming.any (fun value => stored.any (fun existing => existing ≠ value))

/-- The decision on an update: `none` when the row stays as it is and is
returned, otherwise the row that is written. -/
def projectUpdate (current : AgentCommandRecord) (u : AgentUpdate) :
    Except StoreError (Option AgentCommandRecord) :=
  if u.lastSequence < current.lastSequence then
    .ok none
  else if u.lastSequence = current.lastSequence then
    if current.state = u.state ∧ current.acceptedSequence = u.acceptedSequence ∧
        confirmsIdentity current.providerOperationId u.providerOperationId ∧
        confirmsIdentity current.providerResourceId u.providerResourceId then
      .ok none
    else
      .error (.corrupt "conflicting agent command evidence at one sequence")
  else if current.state.isTerminal ∧ current.state ≠ u.state then
    .error (.corrupt "terminal agent command state cannot regress")
  else if current.state = .unknownOutcome ∧ u.state.isInFlight then
    .error (.corrupt "unknown-outcome agent command cannot regress to in-flight")
  else if identityConflicts current.providerOperationId u.providerOperationId ∨
      identityConflicts current.providerResourceId u.providerResourceId then
    .error (.corrupt "agent command provider identity conflicts with durable state")
  else do
    let acceptedSequence ← sqliteSequence (max u.acceptedSequence current.acceptedSequence)
    let lastSequence ← sqliteSequence u.lastSequence
    let _ ← sqliteSequence current.lastSequence
    return some
      { current with
        state := u.state
        acceptedSequence := acceptedSequence
        lastSequence := lastSequence
        providerOperationId := u.providerOperationId.or current.providerOperationId
        providerResourceId := u.providerResourceId.or current.providerResourceId }

def updateAgentCommandOnceBody (u : AgentUpdate) :
    Transaction AgentCommands StoreError AgentCommandRecord := do
  let t ← get
  let current ← orFail (t.get? u.commandId) .operationNotFound
  match ← fromExcept (projectUpdate current u) with
  | none => return current
  | some row =>
    set (t.put row)
    return row

/-- `update_agent_command_once_sqlite`; the row is read back before anyone else
writes it. -/
def updateAgentCommandOnce (u : AgentUpdate) (t : AgentCommands) :
    Except StoreError AgentCommandRecord × AgentCommands :=
  atomically (updateAgentCommandOnceBody u) t

def deliver (t : AgentCommands) (u : AgentUpdate) : AgentCommands := (updateAgentCommandOnce u t).2

/-!
# Evidence about agent commands converges

An applied update moves its row forward, and forward is a preorder: an update
that was accepted once is behind the row from then on and changes nothing when
it comes again.
-/

theorem sqliteSequence_ok {value stored : Nat} (h : sqliteSequence value = .ok stored) :
    stored = value := by
  unfold sqliteSequence at h
  split at h
  · cases h
    rfl
  · cases h

/-- What an update that is written does to the row. -/
structure Projected (current : AgentCommandRecord) (u : AgentUpdate)
    (row : AgentCommandRecord) : Prop where
  newer : current.lastSequence < u.lastSequence
  commandId : row.commandId = current.commandId
  state : row.state = u.state
  acceptedSequence : row.acceptedSequence = max u.acceptedSequence current.acceptedSequence
  lastSequence : row.lastSequence = u.lastSequence
  providerOperationId :
    row.providerOperationId = u.providerOperationId.or current.providerOperationId
  providerResourceId :
    row.providerResourceId = u.providerResourceId.or current.providerResourceId
  terminal : current.state.isTerminal → u.state = current.state
  unknown : current.state = .unknownOutcome → u.state.isInFlight = false
  operationAgrees : identityConflicts current.providerOperationId u.providerOperationId = false
  resourceAgrees : identityConflicts current.providerResourceId u.providerResourceId = false
  columns :
    row = { current with
      state := row.state
      acceptedSequence := row.acceptedSequence
      lastSequence := row.lastSequence
      providerOperationId := row.providerOperationId
      providerResourceId := row.providerResourceId }

variable {u : AgentUpdate} {current : AgentCommandRecord}

theorem projected_of_projectUpdate {row : AgentCommandRecord}
    (h : projectUpdate current u = .ok (some row)) :
    Projected current u row := by
  unfold projectUpdate at h
  split at h
  · cases h
  · rename_i holder
    split at h
    · split at h
      · cases h
      · cases h
    · rename_i hother
      split at h
      · cases h
      · rename_i hterminal
        split at h
        · cases h
        · rename_i hunknown
          split at h
          · cases h
          · rename_i hidentities
            simp only [not_or, Bool.not_eq_true] at hidentities
            simp only [except_bind_eq_ok] at h
            obtain ⟨accepted, haccepted, last, hlast, _, _, hrow⟩ := h
            cases hrow
            refine
              { newer := by omega
                commandId := rfl
                state := rfl
                acceptedSequence := sqliteSequence_ok haccepted
                lastSequence := sqliteSequence_ok hlast
                providerOperationId := rfl
                providerResourceId := rfl
                terminal := ?_
                unknown := ?_
                operationAgrees := hidentities.1
                resourceAgrees := hidentities.2
                columns := rfl }
            · intro hdone
              by_contra hne
              exact hterminal ⟨hdone, fun heq => hne heq.symm⟩
            · intro hcurrent
              by_contra hflight
              exact hunknown ⟨hcurrent, by simpa using hflight⟩

theorem projectUpdate_of_not_newer
    (h : u.lastSequence ≤ current.lastSequence) (row : AgentCommandRecord) :
    projectUpdate current u ≠ .ok (some row) := by
  intro hwritten
  have hnewer := (projected_of_projectUpdate hwritten).newer
  omega

theorem known_of_projectUpdate (h : projectUpdate current u = .ok none) :
    u.lastSequence ≤ current.lastSequence := by
  by_contra hnewer
  -- a newer update is either written or refused
  unfold projectUpdate at h
  rw [if_neg (by omega), if_neg (by omega)] at h
  split at h
  · cases h
  · split at h
    · cases h
    · split at h
      · cases h
      · simp only [except_bind_eq_ok] at h
        obtain ⟨_, _, _, _, _, _, hpure⟩ := h
        cases hpure

/-- **Inversion**: an update is refused, tells its command nothing new, or is
written. -/
theorem updateAgentCommandOnce_cases (u : AgentUpdate) (t : AgentCommands) :
    (∃ e, updateAgentCommandOnce u t = (.error e, t)) ∨
      ∃ current, t.get? u.commandId = some current ∧
        (projectUpdate current u = .ok none ∧ updateAgentCommandOnce u t = (.ok current, t) ∨
          ∃ row, projectUpdate current u = .ok (some row) ∧
            updateAgentCommandOnce u t = (.ok row, t.put row)) := by
  unfold updateAgentCommandOnce updateAgentCommandOnceBody atomically
  simp only [get_bind_apply]
  cases hget : t.get? u.commandId with
  | none => exact Or.inl ⟨_, rfl⟩
  | some current =>
    simp only [orFail_some_bind]
    cases hproject : projectUpdate current u with
    | error e => exact Or.inl ⟨e, rfl⟩
    | ok decision =>
      cases decision with
      | none => exact Or.inr ⟨current, rfl, Or.inl ⟨hproject, rfl⟩⟩
      | some row => exact Or.inr ⟨current, rfl, Or.inr ⟨row, hproject, rfl⟩⟩

theorem deliver_cases (t : AgentCommands) (u : AgentUpdate) :
    deliver t u = t ∨
      ∃ current row,
        t.get? u.commandId = some current ∧ projectUpdate current u = .ok (some row) ∧
          deliver t u = t.put row := by
  unfold deliver
  rcases updateAgentCommandOnce_cases u t with
    ⟨e, heq⟩ | ⟨current, hget, ⟨_, heq⟩ | ⟨row, hproject, heq⟩⟩
  · exact Or.inl (congrArg Prod.snd heq)
  · exact Or.inl (congrArg Prod.snd heq)
  · exact Or.inr ⟨current, row, hget, hproject, congrArg Prod.snd heq⟩

variable {t : AgentCommands}

theorem deliver_of_known
    (hget : t.get? u.commandId = some current) (hknown : u.lastSequence ≤ current.lastSequence) :
    deliver t u = t := by
  rcases deliver_cases t u with hsame | ⟨current', row, hget', hwritten, _⟩
  · exact hsame
  · rw [hget] at hget'
    cases hget'
    exact absurd hwritten (projectUpdate_of_not_newer hknown _)

theorem known_of_accepted {reply : AgentCommandRecord}
    (h : (updateAgentCommandOnce u t).1 = .ok reply) :
    ∃ row, (deliver t u).get? u.commandId = some row ∧ u.lastSequence ≤ row.lastSequence := by
  unfold deliver
  rcases updateAgentCommandOnce_cases u t with
    ⟨e, heq⟩ | ⟨current, hget, ⟨hproject, heq⟩ | ⟨row, hproject, heq⟩⟩
  · rw [heq] at h
    cases h
  · rw [heq]
    exact ⟨current, hget, known_of_projectUpdate hproject⟩
  · have hprojected := projected_of_projectUpdate hproject
    have hid : row.commandId = u.commandId := hprojected.commandId.trans (t.key_of_get? hget)
    rw [heq]
    exact ⟨row, by rw [← hid, Table.get?_put_self], hprojected.lastSequence.ge⟩

/-- How a row may differ from an earlier one. -/
structure Evolves (row row' : AgentCommandRecord) : Prop where
  acceptedSequence : row.acceptedSequence ≤ row'.acceptedSequence
  lastSequence : row.lastSequence ≤ row'.lastSequence
  terminal : row.state.isTerminal → row'.state = row.state
  providerOperationId :
    ∀ value, row.providerOperationId = some value → row'.providerOperationId = some value
  providerResourceId :
    ∀ value, row.providerResourceId = some value → row'.providerResourceId = some value

theorem Evolves.refl (row : AgentCommandRecord) : Evolves row row :=
  ⟨le_rfl, le_rfl, fun _ => rfl, fun _ h => h, fun _ h => h⟩

theorem Evolves.trans {row row' row'' : AgentCommandRecord}
    (h : Evolves row row') (h' : Evolves row' row'') :
    Evolves row row'' where
  acceptedSequence := h.acceptedSequence.trans h'.acceptedSequence
  lastSequence := h.lastSequence.trans h'.lastSequence
  terminal := by
    intro hdone
    have hsame := h.terminal hdone
    rw [← hsame] at hdone ⊢
    exact h'.terminal hdone
  providerOperationId := fun value hvalue =>
    h'.providerOperationId value (h.providerOperationId value hvalue)
  providerResourceId := fun value hvalue =>
    h'.providerResourceId value (h.providerResourceId value hvalue)

theorem or_eq_some_of_agrees {stored incoming : Option String}
    (hagrees : identityConflicts stored incoming = false) {value : String}
    (hstored : stored = some value) :
    incoming.or stored = some value := by
  subst hstored
  cases incoming with
  | none => rfl
  | some new =>
    have hsame : value = new := by
      simpa [identityConflicts] using hagrees
    rw [hsame]
    rfl

theorem Projected.evolves {row : AgentCommandRecord} (h : Projected current u row) :
    Evolves current row where
  acceptedSequence := by
    rw [h.acceptedSequence]
    exact le_max_right _ _
  lastSequence := by
    rw [h.lastSequence]
    exact h.newer.le
  terminal := fun hdone => h.state.trans (h.terminal hdone)
  providerOperationId := by
    intro value hvalue
    rw [h.providerOperationId]
    exact or_eq_some_of_agrees h.operationAgrees hvalue
  providerResourceId := by
    intro value hvalue
    rw [h.providerResourceId]
    exact or_eq_some_of_agrees h.resourceAgrees hvalue

/-- Every row is still there and has moved forward. -/
def Forward (t t' : AgentCommands) : Prop :=
  ∀ commandId row, t.get? commandId = some row →
    ∃ row', t'.get? commandId = some row' ∧ Evolves row row'

theorem forward_deliver (t : AgentCommands) (u : AgentUpdate) : Forward t (deliver t u) := by
  intro commandId row hget
  rcases deliver_cases t u with hsame | ⟨current, written, hcurrent, hproject, hput⟩
  · exact ⟨row, by rw [hsame, hget], Evolves.refl row⟩
  · have hprojected := projected_of_projectUpdate hproject
    have hid : written.commandId = u.commandId :=
      hprojected.commandId.trans (t.key_of_get? hcurrent)
    rw [hput]
    by_cases hcommand : commandId = u.commandId
    · subst hcommand
      rw [hget] at hcurrent
      cases hcurrent
      exact ⟨written, by rw [← hid, Table.get?_put_self], hprojected.evolves⟩
    · refine ⟨row, ?_, Evolves.refl row⟩
      rw [t.get?_put_of_ne (by rw [hid]; exact Ne.symm hcommand), hget]

theorem forward_run (t : AgentCommands) (updates : List AgentUpdate) :
    Forward t (run deliver t updates) := by
  induction updates generalizing t with
  | nil => exact fun _ row hget => ⟨row, hget, Evolves.refl row⟩
  | cons u updates ih =>
    intro commandId row hget
    obtain ⟨row', hget', hfirst⟩ := forward_deliver t u commandId row hget
    obtain ⟨row'', hget'', hrest⟩ := ih (deliver t u) commandId row' hget'
    exact ⟨row'', hget'', hfirst.trans hrest⟩

/-- Out of `UnknownOutcome` lead a definite outcome, and the states `Pending`
and `Retryable` by which a workflow opens the command again. -/
def LeavesUnknown (t : AgentCommands) (u : AgentUpdate) : Prop :=
  ∀ commandId row row', t.get? commandId = some row → row.state = .unknownOutcome →
    (deliver t u).get? commandId = some row' →
      row'.state = .unknownOutcome ∨ row'.state.isTerminal ∨
        (row'.state = u.state ∧ (u.state = .pending ∨ u.state = .retryable))

theorem leavesUnknown (t : AgentCommands) (u : AgentUpdate) : LeavesUnknown t u := by
  intro commandId row row' hget hunknown hget'
  rcases deliver_cases t u with hsame | ⟨current, written, hcurrent, hproject, hput⟩
  · rw [hsame, hget] at hget'
    cases hget'
    exact Or.inl hunknown
  · have hprojected := projected_of_projectUpdate hproject
    have hid : written.commandId = u.commandId :=
      hprojected.commandId.trans (t.key_of_get? hcurrent)
    rw [hput] at hget'
    by_cases hcommand : commandId = u.commandId
    · subst hcommand
      rw [hget] at hcurrent
      cases hcurrent
      rw [← hid, Table.get?_put_self] at hget'
      cases hget'
      have hflight := hprojected.unknown hunknown
      rw [hprojected.state]
      cases hstate : u.state <;> simp_all [AgentCommandState.isTerminal, AgentCommandState.isInFlight]
    · rw [t.get?_put_of_ne (by rw [hid]; exact Ne.symm hcommand), hget] at hget'
      cases hget'
      exact Or.inl hunknown

/-- A delivery that is answered with an error. -/
def UpdateRejected (t : AgentCommands) (u : AgentUpdate) : Prop :=
  ∃ e, (updateAgentCommandOnce u t).1 = .error e

theorem unchanged_of_rejected (h : UpdateRejected t u) : deliver t u = t := by
  obtain ⟨_, h⟩ := h
  exact atomically_error_snd h

/-- **Evidence converges**: over any deliveries the rows move forward, no step
leaves an unknown outcome for a state in flight, and neither a rejected update
nor one that was accepted before changes anything. -/
theorem agent_command_evidence_converges (t : AgentCommands) (updates : List AgentUpdate) :
    Forward t (run deliver t updates) ∧ EachStep deliver LeavesUnknown t updates ∧
      EachStep deliver (fun t u => UpdateRejected t u → deliver t u = t) t updates ∧
      ∀ u reply, (updateAgentCommandOnce u t).1 = .ok reply →
        deliver (run deliver (deliver t u) updates) u = run deliver (deliver t u) updates := by
  refine ⟨forward_run t updates, ?_, ?_, ?_⟩
  · exact eachStep_of_invariant (I := fun _ => True) (fun _ _ _ => trivial)
      (fun t u _ => leavesUnknown t u) t updates trivial
  · exact eachStep_of_invariant (I := fun _ => True) (fun _ _ _ => trivial)
      (fun t u _ => unchanged_of_rejected (t := t) (u := u)) t updates trivial
  · intro u reply hreply
    obtain ⟨row, hget, hknown⟩ := known_of_accepted hreply
    obtain ⟨row', hget', hevolves⟩ := forward_run (deliver t u) updates u.commandId row hget
    exact deliver_of_known hget' (hknown.trans hevolves.lastSequence)

/-- A terminal command keeps its state and both identities as they are. -/
def TerminalFrozen (row row' : AgentCommandRecord) : Prop :=
  row.state.isTerminal →
    row'.state = row.state ∧
      row'.providerOperationId = row.providerOperationId ∧
      row'.providerResourceId = row.providerResourceId

/-- A later report of the same outcome fills in an identity that the first one
did not carry. -/
theorem terminal_identity_filled_in :
    let t := run deliver
      (Table.ofList
        [⟨"command", "key", "operation", "resource", "agent", "epoch", "", [], .pending,
          0, 0, none, none⟩])
      [⟨"command", .succeeded, 1, 2, none, none⟩]
    let u : AgentUpdate := ⟨"command", .succeeded, 1, 3, none, some "domain"⟩
    ∃ row row',
      t.get? "command" = some row ∧
        (deliver t u).get? "command" = some row' ∧ ¬ TerminalFrozen row row' := by
  refine
    ⟨⟨"command", "key", "operation", "resource", "agent", "epoch", "", [], .succeeded,
        1, 2, none, none⟩,
      ⟨"command", "key", "operation", "resource", "agent", "epoch", "", [], .succeeded,
        1, 3, none, some "domain"⟩,
      by decide, by decide, ?_⟩
  intro hfrozen
  cases (hfrozen rfl).2.2

end Operations
end O3k
