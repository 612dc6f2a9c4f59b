import O3k.Journal.Redelivery

/-!
# Command row and operation row agree on the outcome

The two rows are written one after the other, behind two fences.  The fence in
memory starts again with every epoch of the agent and with every restart of the
process; the row keeps the largest number it has seen, and drops an update with
a smaller one without a word.  So they agree as long as terminal updates arrive
in order.
-/

namespace O3k
namespace Journal

open Relational Semantics Operations

/-- An update that returns a terminal state has stored it in both rows. -/
def Truthful (m : JournalMachine) : Prop :=
  ∀ u s, m.attempt = some (.done (.update u, .ok (some s))) → s.isTerminal = true →
    m.store.Closed u.operationId s

/-- A terminal update that is accepted finds both rows terminal, or makes them
so when the stores work. -/
def Redeliverable (now : String) (w : JournalWorld) : Prop :=
  ∀ u o c, Heard (.update u) w → Acceptable u o c w →
    w.Closed u.operationId u.state.durable ∨
      (redelivered now u w).Closed u.operationId u.state.durable

/-- The command row of a terminal operation is terminal, or becomes so by an
update from the next registration of its agent. -/
def Closable (now : String) (w : JournalWorld) : Prop :=
  ∀ id o c, w.tables.operations.get? id = some o → o.state.isTerminal = true →
    w.commandOf id = some c →
      c.state.isTerminal = true ∨
        ∃ epoch u, u.operationId = id ∧ u.agentEpoch = epoch ∧
          (redelivered now u (w.registered c.agentId epoch)).Closed id o.state

/-- The state that an agent reports for a terminal operation. -/
def reportOf : OperationState → AgentOperationState
  | .succeeded => .succeeded
  | _ => .failed

theorem durable_reportOf {s : OperationState} (h : s.isTerminal = true) :
    (reportOf s).durable = s := by
  cases s <;> first | rfl | cases h

def nextEpoch (remembered : Option AgentEvidenceFence) : String :=
  if remembered.any (fun e => e.agentEpoch = "a") then "b" else "a"

theorem nextEpoch_ne {remembered : Option AgentEvidenceFence} {e : AgentEvidenceFence}
    (he : remembered = some e) :
    e.agentEpoch ≠ nextEpoch remembered := by
  subst he
  by_cases hsame : e.agentEpoch = "a"
  · simp [nextEpoch, hsame]
  · simp [nextEpoch, hsame]

theorem not_anonymous_nextEpoch {agentId : String}
    (hnamed : namedAgent agentId = true) (remembered : Option AgentEvidenceFence) (n : Nat) :
    anonymous agentId (nextEpoch remembered) (n + 1) = false := by
  have hepoch : ∀ epoch, epoch = "a" ∨ epoch = "b" →
      isBlank epoch = false ∧ validAgentReference epoch = true := by
    rintro epoch (rfl | rfl) <;> decide
  have hfresh : nextEpoch remembered = "a" ∨ nextEpoch remembered = "b" := by
    unfold nextEpoch
    split
    · exact Or.inr rfl
    · exact Or.inl rfl
  obtain ⟨hblank, hvalid⟩ := hepoch _ hfresh
  simp only [namedAgent, Bool.and_eq_true, Bool.not_eq_true'] at hnamed
  simp [anonymous, hblank, hvalid, hnamed.1, hnamed.2]

/-- The report of an operation's outcome by its agent, in the next epoch. -/
def reportFor (w : JournalWorld) (o : OperationRecord) (c : AgentCommandRecord) :
    AgentOperationUpdate :=
  { operationId := o.id
    resourceId := o.resourceId
    state := reportOf o.state
    errorCategory := some .terminal
    redactedMessage := none
    operationSequence := c.lastSequence + 1
    providerResourceId := none
    agentId := c.agentId
    agentEpoch := nextEpoch (w.agentEvidence o.id) }

theorem closable_of_sound {w : JournalWorld} (hsound : Sound w) (now : String) :
    Closable now w := by
  intro id o c ho hterminal hc
  have hid : o.id = id := w.tables.operations.key_of_get? ho
  subst hid
  rcases hsound.served _ o c ho hterminal hc with htold | ⟨hresource, hnamed⟩
  · exact Or.inl htold
  · by_cases htold : c.state.isTerminal = true
    · exact Or.inl htold
    · refine Or.inr ⟨_, reportFor w o c, rfl, rfl, ?_⟩
      obtain ⟨_, hsound'⟩ :=
        hsound.act (.register c.agentId (nextEpoch (w.agentEvidence o.id)))
      obtain ⟨epochs, hregistry⟩ := Option.isSome_iff_exists.mp hsound.registry
      have hdurable := durable_reportOf hterminal
      have hacceptable :
          Acceptable (reportFor w o c) o c
            (w.registered c.agentId (nextEpoch (w.agentEvidence o.id))) := by
        refine
          { operation := ho
            operationResource := rfl
            command := hc
            agent := rfl
            commandResource := hresource
            terminal := ?_
            classified := fun _ => rfl
            agrees := fun _ => hdurable.symm
            named := not_anonymous_nextEpoch hnamed _ _
            current := ?_
            identity := fun _ h => (by cases h)
            projectable := ?_ }
        · show (reportOf o.state).durable.isTerminal = true
          rw [hdurable]
          exact hterminal
        · simp [JournalWorld.registered, hregistry, reportFor]
        · intro hopen
          rw [hterminal] at hopen
          cases hopen
      have hroom := (hsound.room c (w.commands.mem_of_get?
        (JournalWorld.commandOf_eq_some.mp hc).2.1)).2
      have hfinishes : Finishes now _ (applyAgentUpdate (reportFor w o c)) _ :=
        finishes_applyAgentUpdate hsound' hacceptable hroom
          (Or.inl ⟨Nat.lt_succ_self _, fun h => absurd h htold⟩)
          (fun e he => Or.inl (nextEpoch_ne he))
      obtain ⟨s, w', hrun, _, hclosed⟩ := hfinishes
      have hstored := hclosed hterminal
      have hworld :
          redelivered now (reportFor w o c)
              (w.registered c.agentId (nextEpoch (w.agentEvidence o.id))) = w' :=
        congrArg Prod.snd hrun
      show (redelivered now (reportFor w o c)
        (w.registered c.agentId (nextEpoch (w.agentEvidence o.id)))).Closed o.id o.state
      rw [hworld, ← hdurable]
      exact hstored

/-- One command for each operation, none of them terminal before its command
is, and no number used up; nothing is remembered yet. -/
structure Issued (w : JournalWorld) : Prop where
  registry : w.registry.isSome = true
  single : ∀ c ∈ w.commands.rows, w.newestCommand c.operationId = some c.commandId
  room :
    ∀ c ∈ w.commands.rows, c.acceptedSequence < integerMax ∧ c.lastSequence < integerMax
  generations : ∀ r ∈ w.tables.resources.rows, r.satisfiesChecks = true
  forgotten : ∀ id, w.agentEvidence id = none
  pending :
    ∀ id o c, w.tables.operations.get? id = some o → o.state.isTerminal = true →
      w.commandOf id = some c → c.state.isTerminal = true

theorem Issued.sound {w : JournalWorld} (h : Issued w) : Sound w := by
  refine ⟨h.registry, h.single, h.room, h.generations, ?_, ?_⟩
  · intro id e c he
    rw [h.forgotten] at he
    cases he
  · exact fun id o c ho hterminal hc => Or.inl (h.pending id o c ho hterminal hc)

/-- A message that arrives is heard. -/
def InTime (m : JournalMachine) (e : JournalStep) : Prop :=
  ∀ message, e = .start message → Heard message m.store

/-- A machine in which the invariant holds and the message goes through. -/
abbrev OnCourse (m : JournalMachine) : Prop :=
  m.OnCourse exec Undisturbed Sound (fun _ _ _ => True) (fun _ _ _ => True) Agreed

theorem OnCourse.inTime_step {m : JournalMachine} {e : JournalStep}
    (h : OnCourse m) (hheard : InTime m e) :
    OnCourse (journalStep m e) := by
  refine h.step (S := Heard) (E := fun _ _ => True) Undisturbed.refl
    (fun _ _ _ => Undisturbed.trans) (fun d w w' => @Agreed.undisturbed d w w')
    (fun _ _ _ => survives_delivery) (fun e _ hsound _ => Sound.act hsound e) ?_
  cases e with
  | start message => exact hheard message rfl
  | answer x => exact fun _ _ => trivial
  | crash => trivial
  | other e => trivial

theorem OnCourse.truthful {m : JournalMachine} (h : OnCourse m) : Truthful m := by
  intro u s hdone
  exact h.returned hdone

/-- Where terminal updates arrive in order, the two rows agree on every outcome
that is returned, an accepted update can be delivered again until they do, and
no operation is terminal for ever beside an open command. -/
theorem command_and_operation_agree
    (now : String) (w : JournalWorld) (hw : Issued w) (steps : List JournalStep)
    (hheard : EachStep journalStep InTime (Attempted.idle w) steps) :
    Always journalStep (fun m => Truthful m ∧ Redeliverable now m.store ∧ Closable now m.store)
      (Attempted.idle w) steps := by
  have hstart : OnCourse (Attempted.idle w : JournalMachine) := Attempted.onCourse_idle hw.sound
  refine (always_of_guarded (fun _ _ h hC => h.inTime_step hC) _ steps hstart hheard).imp ?_
  intro m h
  refine ⟨h.truthful, ?_, closable_of_sound h.store now⟩
  intro u o c ⟨hroom, horder⟩ hacceptable
  exact redelivery_closes h.store hacceptable hroom (horder hacceptable.terminal)

/-- A pending start of one server, whose agent is in its first epoch. -/
def sampleWorld : JournalWorld :=
  { tables :=
      { OperationTables.empty with
        resources := Table.ofList [⟨"server", "compute_instance", "p", 1, 1, "d", "SHUTOFF", none⟩]
        operations := Table.ofList [⟨"op", "server", "lifecycle:start", .pending, none, none, none⟩] }
    commands :=
      Table.ofList
        [{ commandId := "cmd"
           idempotencyKey := "key"
           operationId := "op"
           resourceId := "server"
           agentId := "n"
           agentEpoch := "e1"
           payloadFingerprintSha256 := ""
           payload := []
           state := .pending
           acceptedSequence := 0
           lastSequence := 0
           providerOperationId := none
           providerResourceId := none }]
    newestCommand := fun id => if id = "op" then some "cmd" else none
    references := ∅
    watermarks := ∅
    registry := some (fun agentId => if agentId = "n" then some "e1" else none)
    agentEvidence := fun _ => none
    observationEvidence := fun _ => none
    events := [] }

def sampleUpdate (state : AgentOperationState) (sequence : Nat) (agentEpoch : String) :
    AgentOperationUpdate :=
  { operationId := "op"
    resourceId := "server"
    state := state
    errorCategory := none
    redactedMessage := none
    operationSequence := sequence
    providerResourceId := none
    agentId := "n"
    agentEpoch := agentEpoch }

/-- The update arrives and every call is answered. -/
def delivered (u : AgentOperationUpdate) : List JournalStep :=
  .start (.update u) :: List.replicate 8 (.answer (flawless "now"))

/-- Progress in the first epoch, and success in the second one, whose numbers
start again. -/
def secondEpochSteps : List JournalStep :=
  delivered (sampleUpdate .running 5 "e1") ++
    .other (.register "n" "e2") :: delivered (sampleUpdate .succeeded 1 "e2")

theorem issued_sampleWorld : Issued sampleWorld := by
  have hopen :
      ∀ o ∈ sampleWorld.tables.operations.rows, o.state.isTerminal = false := by
    decide
  refine ⟨rfl, by decide, by decide, by decide, fun _ => rfl, ?_⟩
  intro id o c ho hterminal
  rw [hopen o (Table.mem_of_get? _ ho)] at hterminal
  cases hterminal

theorem inTime_firstEpoch :
    EachStep journalStep InTime (Attempted.idle sampleWorld)
      (delivered (sampleUpdate .succeeded 1 "e1")) := by
  refine ⟨?_, eachStep_of_forall ?_ _⟩
  · intro message hmessage
    cases hmessage
    refine ⟨by decide, fun _ => Or.inr ⟨?_, fun e he => (by cases he)⟩⟩
    have hrows :
        ∀ c ∈ sampleWorld.commands.rows, c.lastSequence < 1 ∧ c.state.isTerminal = false := by
      decide
    intro c hc
    obtain ⟨hbehind, hopen⟩ :=
      hrows c (Table.mem_of_get? _ (JournalWorld.commandOf_eq_some.mp hc).2.1)
    exact Or.inl ⟨hbehind, fun h => by rw [hopen] at h; cases h⟩
  · intro e he m message hmessage
    rw [List.eq_of_mem_replicate he] at hmessage
    cases hmessage

/-- Success in the first epoch. -/
theorem first_epoch_agrees :
    EachStep journalStep InTime (Attempted.idle sampleWorld)
        (delivered (sampleUpdate .succeeded 1 "e1")) ∧
      Always journalStep
        (fun m => Truthful m ∧ Redeliverable "now" m.store ∧ Closable "now" m.store)
        (Attempted.idle sampleWorld) (delivered (sampleUpdate .succeeded 1 "e1")) :=
  ⟨inTime_firstEpoch,
    command_and_operation_agree "now" sampleWorld issued_sampleWorld _ inTime_firstEpoch⟩

/-- **Success in the second epoch**: the row has seen number 5 of the first one
and drops number 1, while the operation succeeds and success is returned. -/
theorem second_epoch_disagrees :
    Issued sampleWorld ∧
      ¬ Always journalStep
        (fun m => Truthful m ∧ Redeliverable "now" m.store ∧ Closable "now" m.store)
        (Attempted.idle sampleWorld) secondEpochSteps := by
  refine ⟨issued_sampleWorld, fun halways => ?_⟩
  obtain ⟨_, c, _, hc, _, hstate⟩ :=
    halways.last.1 (sampleUpdate .succeeded 1 "e2") .succeeded rfl rfl
  have hopen :
      ∀ c ∈ (run journalStep (Attempted.idle sampleWorld) secondEpochSteps).store.commands.rows,
        c.state = .running := by
    decide
  rw [hopen c (Table.mem_of_get? _ (JournalWorld.commandOf_eq_some.mp hc).2.1)] at hstate
  cases hstate

end Journal
end O3k
