import O3k.Journal.Redelivery

/-!
# An observation whose application has failed

`apply_agent_observation` remembers the sequence of an observation before it
writes anything.  When a call of the store fails after that, the observation and
every later one of the operation are duplicates when they are delivered; when
the store fails before, nothing has happened.
-/

namespace O3k
namespace Journal

open Relational Relational.Transaction Semantics Operations JournalM
open Program (Survives answered calls_run_bind)

/-- The observation of the current epoch, for the command of its operation,
that contradicts nothing that is stored and has not been applied. -/
structure Observable (o : AgentObservation) (w : JournalWorld) : Prop where
  operation :
    ∃ operation, w.tables.operations.get? o.operationId = some operation ∧
      operation.resourceId = o.resourceId
  command :
    ∃ command, w.commandOf o.operationId = some command ∧
      command.agentId = o.agentId ∧ command.resourceId = o.resourceId
  succeeded : o.operationState = .succeeded
  fresh :
    Journal.fenceAgentObservation w.registry (w.observationEvidence o.operationId)
      ⟨o.agentId, o.agentEpoch, o.observationSequence⟩ = .ok .new
  resource :
    ∃ r, w.tables.resources.get? o.resourceId = some r ∧ r.satisfiesChecks = true ∧
      ReferenceFits w o.resourceId (o.providerResourceId.or r.providerId)
  storable : o.observationSequence ≤ integerMax
  unapplied :
    ∀ watermark, w.watermarks.get? o.resourceId = some watermark →
      watermark.agentEpoch = o.agentEpoch →
      watermark.observationSequence < o.observationSequence

/-- The resource carries the observed state and the operation is terminal. -/
def Carried (o : AgentObservation) (w : JournalWorld) : Prop :=
  (∃ r, w.tables.resources.get? o.resourceId = some r ∧
    r.observedState = serverStateToStorage o.state.serverState) ∧
  ∃ operation, w.tables.operations.get? o.operationId = some operation ∧
    operation.state.isTerminal = true

/-- The store has recorded that the observation is applied. -/
def Recorded (o : AgentObservation) (w : JournalWorld) : Prop :=
  ∃ watermark, w.watermarks.get? o.resourceId = some watermark ∧
    watermark.agentEpoch = o.agentEpoch ∧
    o.observationSequence ≤ watermark.observationSequence

/-- A later observation of the same operation by the same agent. -/
structure Later (o later : AgentObservation) : Prop where
  operation : later.operationId = o.operationId
  resource : later.resourceId = o.resourceId
  agent : later.agentId = o.agentId
  epoch : later.agentEpoch = o.agentEpoch
  sequence : o.observationSequence < later.observationSequence

def observed (answers : ℕ → JournalAnswer) (o : AgentObservation) (w : JournalWorld) :
    Except ReconcileError Unit × JournalWorld :=
  answered exec answers (applyAgentObservation o).run w

def reobserved (now : String) (o : AgentObservation) (w : JournalWorld) : JournalWorld :=
  (undisturbed now (applyAgentObservation o) w).2

/-- The observation is applied when it is delivered again, and a later one is
applied and not dropped. -/
def Recovers (now : String) (o later : AgentObservation) (w : JournalWorld) : Prop :=
  Carried o (reobserved now o w) ∧
    Carried later (reobserved now later w) ∧ Recorded later (reobserved now later w)

def FailsBeforeFence (answers : ℕ → JournalAnswer) : Prop :=
  (answers 0).storeError ≠ none ∨ (answers 1).storeError ≠ none

instance : DecidablePred FailsBeforeFence :=
  fun _ => inferInstanceAs (Decidable (_ ∨ _))

section Application

variable {now : String} {w : JournalWorld} {o : AgentObservation}

def observationUpdate (o : AgentObservation) (r : ResourceRecord) : ObservationUpdate :=
  { projection :=
      { resourceId := o.resourceId
        expectedGeneration := r.generation
        desiredState := r.desiredState
        observedState := serverStateToStorage o.state.serverState
        observedGeneration := r.generation
        providerId := o.providerResourceId.or r.providerId }
    agentEpoch := o.agentEpoch
    observationSequence := o.observationSequence }

def observedRow (o : AgentObservation) (r : ResourceRecord) : ResourceRecord :=
  { r with
    generation := r.generation + 1
    observedState := serverStateToStorage o.state.serverState
    observedGeneration := r.generation
    providerId := o.providerResourceId.or r.providerId }

variable {r : ResourceRecord}

theorem projectResource_of_generation {t : OperationTables}
    (hr : t.resources.get? o.resourceId = some r) (hchecks : r.satisfiesChecks = true) :
    projectResource (observationUpdate o r).projection t
      = .ok ((), t.putResource (observedRow o r)) := by
  have hexists : ∃ t', projectResource (observationUpdate o r).projection t = .ok ((), t') :=
    projectResource_of_current hr hchecks rfl rfl
  obtain ⟨t', ht⟩ := hexists
  have hproject := ht
  simp only [projectResource, get_bind_apply, observationUpdate, hr,
    bind_of_ok (orFail_some _ _ _)] at hproject
  obtain ⟨_, hproject⟩ := require_bind_eq_ok.mp hproject
  obtain ⟨_, hproject⟩ := require_bind_eq_ok.mp hproject
  cases hproject
  exact ht

theorem updateResourceFromObservation_of_unapplied
    (hr : w.tables.resources.get? o.resourceId = some r) (hchecks : r.satisfiesChecks = true)
    (hstorable : o.observationSequence ≤ integerMax)
    (hunapplied :
      ∀ watermark, w.watermarks.get? o.resourceId = some watermark →
        watermark.agentEpoch = o.agentEpoch →
        watermark.observationSequence < o.observationSequence) :
    w.updateResourceFromObservation (observationUpdate o r)
      = (.ok (observedRow o r),
        { w.withTables (w.tables.putResource (observedRow o r)) with
          watermarks := w.watermarks.put
            ⟨o.resourceId, o.agentEpoch, o.observationSequence⟩ }) := by
  have hid : r.id = o.resourceId := Table.key_of_get? _ hr
  have huncovered :
      (w.watermarks.get? o.resourceId).any
        (fun watermark => watermark.covers (observationUpdate o r)) = false := by
    cases hwatermark : w.watermarks.get? o.resourceId with
    | none => rfl
    | some watermark =>
      have hlater := hunapplied watermark hwatermark
      by_cases hepoch : watermark.agentEpoch = o.agentEpoch
      · have huncovered : ¬ o.observationSequence ≤ watermark.observationSequence :=
          Nat.not_le.mpr (hlater hepoch)
        exact Bool.and_eq_false_iff.mpr (Or.inr (decide_eq_false huncovered))
      · simp [ObservationWatermark.covers, observationUpdate, hepoch]
  have hget :
      (w.tables.putResource (observedRow o r)).resources.get? o.resourceId
        = some (observedRow o r) := by
    have hkey : (observedRow o r).id = o.resourceId := hid
    rw [← hkey]
    exact Table.get?_put_self _ _
  simp only [JournalWorld.updateResourceFromObservation]
  rw [show (observationUpdate o r).projection.resourceId = o.resourceId from rfl, hr]
  have hgeneration : r.generation = (observationUpdate o r).projection.expectedGeneration := rfl
  have hsequence : (observationUpdate o r).observationSequence = o.observationSequence := rfl
  have hstored : ¬ integerMax < o.observationSequence := Nat.not_lt.mpr hstorable
  simp only [huncovered, projectResource_of_generation hr hchecks, ← hgeneration, hsequence,
    hstored, ne_eq, not_true_eq_false, if_false, Bool.false_eq_true, JournalWorld.getResource,
    JournalWorld.withTables_tables, hget, Option.elim_some]
  rfl

theorem finishes_updateResourceFromObservation_bind {α : Type} {P : α → JournalWorld → Prop}
    {f : ResourceRecord → JournalM α} {w' : JournalWorld}
    (hresult :
      w.updateResourceFromObservation (observationUpdate o r) = (.ok (observedRow o r), w'))
    (h : Finishes now P (f (observedRow o r)) w') :
    Finishes now P
      (call (.updateResourceFromObservation (observationUpdate o r)) >>=
        fun reply => stored reply >>= f) w := by
  refine finishes_call_bind (congrArg Prod.snd hresult) ?_
  exact finishes_stored_bind (congrArg Prod.fst hresult) h

theorem finishes_promoteOperation {operation : OperationRecord}
    (hoperation : w.tables.operations.get? o.operationId = some operation) :
    Finishes now
      (fun _ v => v.tables.resources = w.tables.resources ∧ v.watermarks = w.watermarks ∧
        ∃ operation, v.tables.operations.get? o.operationId = some operation ∧
          operation.state.isTerminal = true)
      (promoteOperation operation o) w := by
  unfold promoteOperation
  split
  · rename_i hterminal
    exact finishes_pure ⟨rfl, rfl, operation, hoperation, hterminal⟩
  · rename_i hopen
    have hbody :
        updateOperationBody o.operationId .succeeded operation.providerOperationId none none now
            w.tables
          = .ok ((), (w.tables.putOperation
              { operation with
                state := .succeeded
                errorCategory := none
                errorMessage := none }).modifyMetadata o.operationId
              (fun row => row.project (some now) (some now) none)) := by
      simp only [updateOperationBody, get_bind_apply, hoperation, bind_of_ok (orFail_some _ _ _),
        hopen]
      rfl
    have hresult := w.onTables_of_ok hbody
    have hid : operation.id = o.operationId := Table.key_of_get? _ hoperation
    refine finishes_statement (a := ()) ?_ (congrArg Prod.snd hresult) ?_
    · exact congrArg (fun result => stored (Prod.fst result)) hresult
    · refine ⟨OperationTables.resources_modifyMetadata _ _ _, rfl,
        { operation with state := .succeeded, errorCategory := none, errorMessage := none },
        ?_, rfl⟩
      rw [JournalWorld.withTables_tables, OperationTables.operations_modifyMetadata, ← hid]
      exact Table.get?_put_self _ _

/-- **A new observation is applied** when the stores work. -/
theorem finishes_projectObservation {operation : OperationRecord}
    (hoperation : w.tables.operations.get? o.operationId = some operation)
    (hr : w.tables.resources.get? o.resourceId = some r) (hchecks : r.satisfiesChecks = true)
    (hfits : ReferenceFits w o.resourceId (o.providerResourceId.or r.providerId))
    (hstorable : o.observationSequence ≤ integerMax)
    (hunapplied :
      ∀ watermark, w.watermarks.get? o.resourceId = some watermark →
        watermark.agentEpoch = o.agentEpoch →
        watermark.observationSequence < o.observationSequence) :
    Finishes now (fun _ v => Carried o v ∧ Recorded o v) (projectObservation operation o) w := by
  refine finishes_getResource_bind hr (finishes_bind (finishes_ensureReference hr hfits) ?_)
  rintro _ w₁ ⟨htables, hwatermarks⟩
  rw [← htables] at hr hoperation
  rw [← hwatermarks] at hunapplied
  refine finishes_updateResourceFromObservation_bind
    (updateResourceFromObservation_of_unapplied hr hchecks hstorable hunapplied) ?_
  refine finishes_call_bind rfl ?_
  refine finishes_bind (finishes_promoteOperation hoperation) ?_
  rintro _ w₂ ⟨hresources, hmarked, hterminal⟩
  have hid : r.id = o.resourceId := Table.key_of_get? _ hr
  have hcarried : Carried o w₂ := by
    refine ⟨⟨observedRow o r, ?_, rfl⟩, hterminal⟩
    rw [hresources, ← hid]
    exact Table.get?_put_self _ _
  have hrecorded : Recorded o w₂ := by
    refine ⟨⟨o.resourceId, o.agentEpoch, o.observationSequence⟩, ?_, rfl, Nat.le_refl _⟩
    rw [hmarked]
    exact Table.get?_put_self _ _
  split
  · exact finishes_call_bind rfl (finishes_pure ⟨hcarried, hrecorded⟩)
  · exact finishes_pure ⟨hcarried, hrecorded⟩

theorem exec_fenceAgentObservation_of_fresh (hfresh :
      Journal.fenceAgentObservation w.registry (w.observationEvidence o.operationId)
        ⟨o.agentId, o.agentEpoch, o.observationSequence⟩ = .ok .new)
    (x : JournalAnswer) :
    exec (.fenceAgentObservation o.operationId ⟨o.agentId, o.agentEpoch, o.observationSequence⟩) x w
      = (.ok .new, { w with
          observationEvidence := Function.update w.observationEvidence o.operationId
            (some ⟨o.agentId, o.agentEpoch, o.observationSequence⟩) }) := by
  simp only [exec, hfresh]
  rfl

theorem finishes_applyAgentObservation (h : Observable o w) :
    Finishes now (fun _ v => Carried o v ∧ Recorded o v) (applyAgentObservation o) w := by
  obtain ⟨operation, hoperation, hresource⟩ := h.operation
  obtain ⟨command, hcommand, hagent⟩ := h.command
  obtain ⟨r, hr, hchecks, hfits⟩ := h.resource
  have hread : w.getOperation o.operationId = .ok operation := by
    rw [JournalWorld.getOperation, hoperation]
    rfl
  have hfound : w.getAgentCommandByOperation o.operationId = .ok command := by
    rw [JournalWorld.getAgentCommandByOperation, hcommand]
    rfl
  refine finishes_call_bind rfl (finishes_stored_bind hread ?_)
  refine finishes_ensure_bind hresource ?_
  refine finishes_call_bind rfl (finishes_given_bind (congrArg _ hfound) ?_)
  refine finishes_ensure_bind hagent (finishes_ensure_bind h.succeeded ?_)
  have hremembered := exec_fenceAgentObservation_of_fresh h.fresh (flawless now)
  refine finishes_call_bind (congrArg Prod.snd hremembered) ?_
  refine finishes_given_bind (congrArg Prod.fst hremembered) ?_
  rw [if_pos rfl]
  exact finishes_projectObservation hoperation hr hchecks hfits h.storable h.unapplied

end Application

/-- The memory has the observation, and nothing has recorded the later one. -/
structure Dropping (o later : AgentObservation) (w : JournalWorld) : Prop where
  remembered :
    w.observationEvidence o.operationId
      = some ⟨o.agentId, o.agentEpoch, o.observationSequence⟩
  unrecorded : ¬ Recorded later w

def ObservationCall (o : AgentObservation) : JournalCall → Prop
  | .getOperation _ => True
  | .getAgentCommandByOperation _ => True
  | .getResource _ => True
  | .getProviderReference _ _ => True
  | .attachProviderReference _ => True
  | .updateOperation _ _ _ _ _ => True
  | .observeResourceState _ _ _ _ => True
  | .event _ => True
  | .updateResourceFromObservation update =>
    update.projection.resourceId = o.resourceId ∧ update.agentEpoch = o.agentEpoch ∧
      update.observationSequence = o.observationSequence
  | _ => False

section Dropping

variable {o later : AgentObservation} {w : JournalWorld}

theorem Dropping.congr {w' : JournalWorld}
    (h : Dropping o later w) (hevidence : w'.observationEvidence = w.observationEvidence)
    (hwatermarks : w'.watermarks = w.watermarks) :
    Dropping o later w' := by
  refine ⟨hevidence ▸ h.remembered, ?_⟩
  rintro ⟨watermark, hget, hcovers⟩
  exact h.unrecorded ⟨watermark, hwatermarks ▸ hget, hcovers⟩

theorem Dropping.updateResourceFromObservation
    (hlater : Later o later) (h : Dropping o later w) {update : ObservationUpdate}
    (hupdate : ObservationCall o (.updateResourceFromObservation update)) :
    Dropping o later (w.updateResourceFromObservation update).2 := by
  obtain ⟨hresource, _, hsequence⟩ := hupdate
  rcases w.updateResourceFromObservation_cases update with ⟨reply, heq⟩ | ⟨row, _, _, heq⟩
  · rw [heq]
    exact h
  · rw [heq]
    refine ⟨h.remembered, ?_⟩
    rintro ⟨watermark, hget, _, hcovers⟩
    rw [JournalWorld.withObservation_watermarks, Table.get?_put,
      if_pos (hresource.trans hlater.resource.symm)] at hget
    cases hget
    have hbefore := hlater.sequence
    simp only [hsequence] at hcovers
    omega

theorem Dropping.statement {α : Type}
    (h : Dropping o later w) (x : JournalAnswer) {result : Except StoreError α × JournalWorld}
    (hresult : Dropping o later result.2) :
    Dropping o later (x.statement w result).2 := by
  unfold JournalAnswer.statement
  split
  · exact hresult
  · dsimp only
    split
    · exact hresult
    · exact h

theorem Dropping.exec
    (hlater : Later o later) (h : Dropping o later w) {c : JournalCall} (hc : ObservationCall o c)
    (x : JournalAnswer) :
    Dropping o later (exec c x w).2 := by
  cases c with
  | getOperation | getAgentCommandByOperation | getResource | getProviderReference =>
    simpa [Journal.exec] using h
  | attachProviderReference reference =>
    refine h.statement x ?_
    rcases w.attachProviderReference_cases reference with ⟨_, hsame⟩ | hattached
    · rw [hsame]
      exact h
    · rw [hattached]
      exact h.congr rfl rfl
  | updateOperation => exact h.statement x (h.congr rfl rfl)
  | observeResourceState => exact h
  | event => exact h.congr rfl rfl
  | updateResourceFromObservation update =>
    exact h.statement x (h.updateResourceFromObservation hlater hc)
  | _ => exact hc.elim

theorem calls_call {K : JournalCall → Prop} {c : JournalCall} (h : K c) : (call c).run.Calls K :=
  ⟨h, fun _ => trivial⟩

theorem calls_ensureReference (resourceId : Uuid) (providerId : Option String) :
    (ensureReference resourceId providerId).run.Calls (ObservationCall o) := by
  cases providerId with
  | none => trivial
  | some value =>
    refine calls_run_bind (calls_call trivial) ?_
    intro reply
    split
    · split <;> trivial
    · exact calls_run_bind (calls_call trivial) (fun _ => trivial)
    · trivial

theorem calls_projectObservation (operation : OperationRecord) (o : AgentObservation) :
    (projectObservation operation o).run.Calls (ObservationCall o) := by
  refine calls_run_bind (calls_call trivial) fun _ => ?_
  refine calls_run_bind trivial fun resource => ?_
  refine calls_run_bind (calls_ensureReference _ _) fun _ => ?_
  refine calls_run_bind (calls_call ⟨rfl, rfl, rfl⟩) fun _ => ?_
  refine calls_run_bind trivial fun updated => ?_
  refine calls_run_bind (calls_run_bind (calls_call trivial) fun _ => trivial) fun _ => ?_
  refine calls_run_bind ?_ fun _ => ?_
  · unfold promoteOperation
    split
    · trivial
    · exact calls_run_bind (calls_call trivial) fun _ => trivial
  · split
    · exact calls_call trivial
    · trivial

theorem calls_repairMetering (resourceId : Uuid) :
    (repairMeteringFromDurableState resourceId).run.Calls (ObservationCall o) := by
  refine calls_run_bind (calls_call trivial) fun reply => ?_
  split
  · trivial
  · split
    · exact calls_run_bind (calls_call trivial) fun _ => trivial
    · trivial

/-- The program leaves the later observation unrecorded, and a value that it
returns satisfies `P`. -/
abbrev Drops {α : Type} (o later : AgentObservation) (P : α → Prop) (p : JournalM α)
    (w : JournalWorld) : Prop :=
  p.run.Survives Journal.exec Eq (fun _ => True) (fun _ _ _ => True) (fun _ _ _ => True)
    (fun r v => Dropping o later v ∧ ∀ a, r = .ok a → P a) w

theorem drops_of_calls
    (hlater : Later o later) {α : Type} {p : JournalM α} (hp : p.run.Calls (ObservationCall o))
    (h : Dropping o later w) :
    Drops o later (fun _ => True) p w := by
  refine Survives.mono (fun _ _ h => ⟨h, fun _ _ => trivial⟩) ?_
  refine Survives.of_calls (fun _ _ hJ hR => hR ▸ hJ) ?_ h
  exact hp.mono (fun c hc _ x _ _ hJ => ⟨trivial, trivial, hJ.exec hlater hc x⟩)

theorem drops_mk {α : Type} (x : Except ReconcileError α) (h : Dropping o later w) :
    Drops o later (fun a => x = .ok a) (ExceptT.mk (pure x)) w :=
  ⟨h, fun _ => id⟩

theorem drops_bind {α β : Type} {P : α → Prop} {Q : β → Prop} {p : JournalM α} {f : α → JournalM β}
    (hp : Drops o later P p w) (hf : ∀ a v, Dropping o later v → P a → Drops o later Q (f a) v) :
    Drops o later Q (p >>= f) w := by
  refine Survives.bind hp ?_
  rintro r v ⟨hv, hr⟩
  cases r with
  | error e => exact ⟨hv, fun _ ha => by cases ha⟩
  | ok a => exact hf a v hv (hr a rfl)

theorem fenceAgentObservation_ne_new (hlater : Later o later) (h : Dropping o later w) :
    Journal.fenceAgentObservation w.registry (w.observationEvidence later.operationId)
      ⟨later.agentId, later.agentEpoch, later.observationSequence⟩ ≠ .ok .new := by
  rw [hlater.operation, h.remembered, hlater.agent, hlater.epoch]
  unfold Journal.fenceAgentObservation
  split
  · exact fun h => by cases h
  · split
    · exact fun h => by cases h
    · simp only [ne_eq, not_true_eq_false, if_false]
      split <;> exact fun h => by cases h

theorem drops_fenceAgentObservation (hlater : Later o later) (h : Dropping o later w) :
    Drops o later (fun reply => reply ≠ .ok .new)
      (call (.fenceAgentObservation later.operationId
        ⟨later.agentId, later.agentEpoch, later.observationSequence⟩)) w := by
  rintro _ x rfl _ _
  refine ⟨trivial, trivial, ?_⟩
  have hfence := fenceAgentObservation_ne_new hlater h
  have hsame :
      exec (.fenceAgentObservation later.operationId
          ⟨later.agentId, later.agentEpoch, later.observationSequence⟩) x w
        = (Journal.fenceAgentObservation w.registry (w.observationEvidence later.operationId)
            ⟨later.agentId, later.agentEpoch, later.observationSequence⟩, w) := by
    simp only [exec, JournalWorld.rememberObservation]
  rw [hsame]
  refine ⟨h, ?_⟩
  rintro reply hreply
  cases hreply
  exact hfence

/-- **A later observation is dropped** once the fence has remembered one. -/
theorem drops_applyAgentObservation (hlater : Later o later) (h : Dropping o later w) :
    Drops o later (fun _ => True) (applyAgentObservation later) w := by
  refine drops_bind (drops_of_calls hlater (calls_call trivial) h) fun _ _ h _ => ?_
  refine drops_bind (drops_mk _ h) fun operation _ h _ => ?_
  refine drops_bind (drops_mk _ h) fun _ _ h _ => ?_
  refine drops_bind (drops_of_calls hlater (calls_call trivial) h) fun _ _ h _ => ?_
  refine drops_bind (drops_mk _ h) fun command _ h _ => ?_
  refine drops_bind (drops_mk _ h) fun _ _ h _ => ?_
  refine drops_bind (drops_mk _ h) fun _ _ h _ => ?_
  refine drops_bind (drops_fenceAgentObservation hlater h) fun reply _ h hreply => ?_
  refine drops_bind (drops_mk _ h) fun disposition _ h hdisposition => ?_
  rw [if_neg (fun hnew => hreply (hdisposition.trans (congrArg _ hnew)))]
  exact drops_of_calls hlater (calls_repairMetering _) h

end Dropping

section Failures

variable {o later : AgentObservation} {w : JournalWorld} {answers : ℕ → JournalAnswer}

theorem answered_call_bind {α : Type} {c : JournalCall} {f : c.Reply → JournalM α} :
    answered exec answers (call c >>= f).run w
      = answered exec (fun n => answers (n + 1)) (f (exec c (answers 0) w).1).run
          (exec c (answers 0) w).2 :=
  rfl

theorem exec_getOperation (id : Uuid) (x : JournalAnswer) :
    exec (.getOperation id) x w = ((x.query w (w.getOperation id)).1, w) :=
  Prod.ext rfl (query_world _)

theorem exec_getAgentCommandByOperation (id : Uuid) (x : JournalAnswer) :
    exec (.getAgentCommandByOperation id) x w
      = ((x.query w (w.getAgentCommandByOperation id)).1, w) :=
  Prod.ext rfl (query_world _)

theorem query_of_error {α : Type} {x : JournalAnswer}
    (hx : x.storeError ≠ none) (reply : Except StoreError α) :
    ∃ e, (x.query w reply).1 = .error e := by
  unfold JournalAnswer.query
  split
  · rename_i hnone
    exact absurd hnone hx
  · exact ⟨_, rfl⟩

theorem query_of_none {α : Type} {x : JournalAnswer}
    (hx : x.storeError = none) (reply : Except StoreError α) :
    (x.query w reply).1 = reply := by
  simp [JournalAnswer.query, hx]

theorem observed_of_failsBeforeFence (hfails : FailsBeforeFence answers) :
    (observed answers o w).2 = w := by
  unfold observed applyAgentObservation
  rw [answered_call_bind, exec_getOperation]
  cases hoperation : ((answers 0).query w (w.getOperation o.operationId)).1 with
  | error e => rfl
  | ok operation =>
    have hsecond : (answers 1).storeError ≠ none := by
      refine hfails.resolve_left ?_
      intro hfirst
      obtain ⟨e, he⟩ := query_of_error (w := w) hfirst (w.getOperation o.operationId)
      rw [hoperation] at he
      cases he
    obtain ⟨e, he⟩ := query_of_error (w := w) hsecond (w.getAgentCommandByOperation o.operationId)
    show (answered exec _ (ensure (operation.resourceId = o.resourceId) >>= _).run w).2 = w
    by_cases hresource : operation.resourceId = o.resourceId
    · rw [ensure, if_pos hresource]
      show (answered exec _ (call (.getAgentCommandByOperation o.operationId) >>= _).run w).2 = w
      rw [answered_call_bind, exec_getAgentCommandByOperation, he]
      rfl
    · rw [ensure, if_neg hresource]
      rfl

theorem dropping_observed
    (hobservable : Observable o w) (hlater : Later o later) (hunrecorded : ¬ Recorded later w)
    (hfails : ¬ FailsBeforeFence answers) :
    Dropping o later (observed answers o w).2 := by
  obtain ⟨operation, hoperation, hresource⟩ := hobservable.operation
  obtain ⟨command, hcommand, hagent⟩ := hobservable.command
  obtain ⟨hfirst, hsecond⟩ := not_or.mp hfails
  have hread : w.getOperation o.operationId = .ok operation := by
    rw [JournalWorld.getOperation, hoperation]
    rfl
  have hfound : w.getAgentCommandByOperation o.operationId = .ok command := by
    rw [JournalWorld.getAgentCommandByOperation, hcommand]
    rfl
  unfold observed applyAgentObservation
  rw [answered_call_bind, exec_getOperation, query_of_none (not_not.mp hfirst), hread]
  show Dropping o later
    (answered exec _ (ensure (operation.resourceId = o.resourceId) >>= _).run w).2
  rw [ensure, if_pos hresource]
  show Dropping o later (answered exec _
    (call (.getAgentCommandByOperation o.operationId) >>= _).run w).2
  rw [answered_call_bind, exec_getAgentCommandByOperation, query_of_none (not_not.mp hsecond),
    hfound]
  show Dropping o later (answered exec _
    (ensure (command.agentId = o.agentId ∧ command.resourceId = o.resourceId) >>= _).run w).2
  rw [ensure, if_pos hagent]
  show Dropping o later
    (answered exec _ (ensure (o.operationState = .succeeded) >>= _).run w).2
  rw [ensure, if_pos hobservable.succeeded]
  show Dropping o later (answered exec _
    (call (.fenceAgentObservation o.operationId
      ⟨o.agentId, o.agentEpoch, o.observationSequence⟩) >>= _).run w).2
  rw [answered_call_bind, exec_fenceAgentObservation_of_fresh hobservable.fresh]
  show Dropping o later (answered exec _ (projectObservation operation o).run _).2
  refine (Survives.answered (fun _ => rfl) _ (fun _ _ _ => trivial) trivial
    (drops_of_calls hlater (calls_projectObservation operation o) ⟨?_, ?_⟩)).1
  · exact Function.update_self _ _ _
  · exact hunrecorded

end Failures

/-- **No observation is lost exactly when the store fails before the fence**: of
an observation whose delivery returns an error, it can be delivered again with
effect, and a later one is applied, if and only if one of the two queries before
the fence has failed. -/
theorem observation_recovers_iff
    (now : String) (w : JournalWorld) (o later : AgentObservation) (answers : ℕ → JournalAnswer)
    (hobservable : Observable o w) (hobservable' : Observable later w) (hlater : Later o later)
    (_hfailed : ∃ e, (observed answers o w).1 = .error e) :
    Recovers now o later (observed answers o w).2 ↔ FailsBeforeFence answers := by
  constructor
  · rintro ⟨_, _, hrecorded⟩
    by_contra hfails
    have hunrecorded : ¬ Recorded later w := by
      rintro ⟨watermark, hget, hepoch, hcovers⟩
      have hbefore := hobservable'.unapplied watermark hget hepoch
      omega
    have hdropping := dropping_observed hobservable hlater hunrecorded hfails
    have hdrops := Survives.alone (x := flawless now) (fun _ => rfl)
      (fun _ _ => trivial) trivial (drops_applyAgentObservation hlater hdropping)
    exact hdrops.1.unrecorded hrecorded
  · intro hfails
    rw [observed_of_failsBeforeFence hfails]
    have hfinishes : Finishes now _ (applyAgentObservation o) w :=
      finishes_applyAgentObservation hobservable
    have hfinishes' : Finishes now _ (applyAgentObservation later) w :=
      finishes_applyAgentObservation hobservable'
    obtain ⟨_, v, hrun, hcarried, _⟩ := hfinishes
    obtain ⟨_, v', hrun', hcarried', hrecorded'⟩ := hfinishes'
    refine ⟨?_, ?_, ?_⟩
    · rw [reobserved, hrun]
      exact hcarried
    · rw [reobserved, hrun']
      exact hcarried'
    · rw [reobserved, hrun']
      exact hrecorded'

/-- An inspection of a server that has just been built. -/
def inspectedWorld : JournalWorld :=
  { tables :=
      { OperationTables.empty with
        resources := Table.ofList [⟨"server", "compute_instance", "p", 1, 1, "d", "BUILD", none⟩]
        operations := Table.ofList [⟨"op", "server", "inspect", .pending, none, none, none⟩] }
    commands :=
      Table.ofList
        [{ commandId := "cmd"
           idempotencyKey := "key"
           operationId := "op"
           resourceId := "server"
           agentId := "n"
           agentEpoch := "e1"
           payloadFingerprintSha256 := ""
           payload := []
           state := .pending
           acceptedSequence := 0
           lastSequence := 0
           providerOperationId := none
           providerResourceId := none }]
    newestCommand := fun id => if id = "op" then some "cmd" else none
    references := ∅
    watermarks := ∅
    registry := some (fun agentId => if agentId = "n" then some "e1" else none)
    agentEvidence := fun _ => none
    observationEvidence := fun _ => none
    events := [] }

def sampleObservation (state : InstanceState) (sequence : Nat) : AgentObservation :=
  { agentId := "n"
    agentEpoch := "e1"
    resourceId := "server"
    providerResourceId := some "domain-1"
    state := state
    operationId := "op"
    operationState := .succeeded
    observationSequence := sequence }

/-- The store fails at one call, without effect. -/
def failingAt (failing : ℕ) (n : ℕ) : JournalAnswer :=
  if n = failing then ⟨some (.database .checkViolation), false, none, "now"⟩ else flawless "now"

theorem observable_sampleObservation (state : InstanceState) (sequence : Nat)
    (hfresh :
      Journal.fenceAgentObservation inspectedWorld.registry none ⟨"n", "e1", sequence⟩ = .ok .new)
    (hstorable : sequence ≤ integerMax) :
    Observable (sampleObservation state sequence) inspectedWorld where
  operation := ⟨_, rfl, rfl⟩
  command := ⟨_, rfl, rfl, rfl⟩
  succeeded := rfl
  fresh := hfresh
  resource := ⟨_, rfl, by decide, fun value hvalue => Or.inr (by cases hvalue; rfl)⟩
  storable := hstorable
  unapplied := fun _ h => by cases h

theorem later_sampleObservation :
    Later (sampleObservation .running 1) (sampleObservation .stopped 2) :=
  ⟨rfl, rfl, rfl, rfl, by decide⟩

/-- **The store fails after the fence**: `get_resource` fails, and the
observation is a duplicate when it is delivered again. -/
theorem failure_after_fence_loses_observation :
    Observable (sampleObservation .running 1) inspectedWorld ∧
      Observable (sampleObservation .stopped 2) inspectedWorld ∧
      (∃ e, (observed (failingAt 3) (sampleObservation .running 1) inspectedWorld).1 = .error e) ∧
      ¬ Recovers "now" (sampleObservation .running 1) (sampleObservation .stopped 2)
        (observed (failingAt 3) (sampleObservation .running 1) inspectedWorld).2 := by
  refine ⟨observable_sampleObservation _ _ (by decide) (by decide),
    observable_sampleObservation _ _ (by decide) (by decide), ⟨_, rfl⟩, ?_⟩
  rintro ⟨⟨_, operation, hoperation, hterminal⟩, _⟩
  have hopen :
      ∀ operation ∈ (reobserved "now" (sampleObservation .running 1)
          (observed (failingAt 3) (sampleObservation .running 1)
            inspectedWorld).2).tables.operations.rows,
        operation.state.isTerminal = false := by
    decide +kernel
  rw [hopen operation (Table.mem_of_get? _ hoperation)] at hterminal
  cases hterminal

/-- The store fails before the fence. -/
theorem failure_before_fence_recovers :
    Recovers "now" (sampleObservation .running 1) (sampleObservation .stopped 2)
      (observed (failingAt 1) (sampleObservation .running 1) inspectedWorld).2 :=
  (observation_recovers_iff "now" inspectedWorld _ _ (failingAt 1)
    (observable_sampleObservation _ _ (by decide) (by decide))
    (observable_sampleObservation _ _ (by decide) (by decide)) later_sampleObservation
    ⟨_, rfl⟩).mpr (Or.inr (by decide))

section Order

def observe (w : JournalWorld) (u : ObservationUpdate) : JournalWorld :=
  (w.updateResourceFromObservation u).2

/-- A call after attempts that were busy: each was rolled back, or had taken
effect all the same. -/
def observeRetried (w : JournalWorld) (u : ObservationUpdate) (busy : List Bool) : JournalWorld :=
  observe (busy.foldl (fun w effective => if effective then observe w u else w) w) u

/-- The sequence of a call that moves the watermark of the resource. -/
def appliedSequence (id : Uuid) (w : JournalWorld) (u : ObservationUpdate) : Option Nat :=
  if (observe w u).watermarks.get? id = w.watermarks.get? id then
    none
  else
    some u.observationSequence

structure AppliesOnce (w : JournalWorld) (u : ObservationUpdate) : Prop where
  applied :
    observe w u = w ∨
      ∃ row, Projects w.tables u.projection row ∧ observe w u = w.withObservation u row
  covered : w.covered u = true → observe w u = w
  stale :
    ∀ row, w.tables.resources.get? u.projection.resourceId = some row →
      row.generation ≠ u.projection.expectedGeneration →
        w.updateResourceFromObservation u = (.error .staleGeneration, w)
  retried : ∀ busy, observeRetried w u busy = observe w u

variable {w : JournalWorld} {u : ObservationUpdate}

theorem observe_cases :
    observe w u = w ∨
      ∃ row, Projects w.tables u.projection row ∧ w.covered u = false ∧
        observe w u = w.withObservation u row := by
  unfold observe
  rcases w.updateResourceFromObservation_cases u with ⟨_, heq⟩ | ⟨row, hrow, hnew, heq⟩
  · exact Or.inl (congrArg Prod.snd heq)
  · exact Or.inr ⟨row, hrow, hnew, congrArg Prod.snd heq⟩

theorem observe_of_covered (h : w.covered u = true) : observe w u = w := by
  rcases observe_cases (w := w) (u := u) with hsame | ⟨_, _, hnew, _⟩
  · exact hsame
  · cases h.symm.trans hnew

theorem observe_observe : observe (observe w u) u = observe w u := by
  rcases observe_cases (w := w) (u := u) with hsame | ⟨row, _, _, heq⟩
  · rw [hsame, hsame]
  · rw [heq]
    refine observe_of_covered ?_
    simp [JournalWorld.covered, ObservationWatermark.covers]

theorem appliesOnce (w : JournalWorld) (u : ObservationUpdate) : AppliesOnce w u where
  applied := observe_cases.imp_right fun ⟨row, hrow, _, heq⟩ => ⟨row, hrow, heq⟩
  covered := observe_of_covered
  stale := by
    intro row hget hstale
    simp only [JournalWorld.updateResourceFromObservation, hget]
    rw [if_pos hstale]
  retried := by
    intro busy
    unfold observeRetried
    induction busy generalizing w with
    | nil => rfl
    | cons effective busy ih =>
      rw [List.foldl_cons, ih]
      cases effective
      · rfl
      · exact observe_observe

variable {id : Uuid} {epoch : String}

/-- The reported sequences increase up to the watermark. -/
def Increasing (id : Uuid) (epoch : String) (w : JournalWorld) (reported : List Nat) : Prop :=
  reported.Pairwise (· < ·) ∧
    ∀ n ∈ reported, ∃ m, w.watermarks.get? id = some ⟨id, epoch, m⟩ ∧ n ≤ m

theorem increasing_observe {reported : List Nat} (h : Increasing id epoch w reported)
    (hepoch : u.projection.resourceId = id → u.agentEpoch = epoch) :
    Increasing id epoch (observe w u) (reported ++ (appliedSequence id w u).toList) := by
  unfold appliedSequence
  split
  · rename_i hsame
    rw [Option.toList_none, List.append_nil]
    exact ⟨h.1, fun n hn => hsame ▸ h.2 n hn⟩
  · rename_i hmoved
    rcases observe_cases (w := w) (u := u) with hsame | ⟨row, _, hnew, heq⟩
    · exact absurd (by rw [hsame]) hmoved
    · rw [heq, JournalWorld.withObservation_watermarks, Table.get?_put] at hmoved
      have hid : u.projection.resourceId = id := by
        by_contra hother
        exact hmoved (if_neg hother)
      have hlast :
          (observe w u).watermarks.get? id = some ⟨id, epoch, u.observationSequence⟩ := by
        rw [heq, JournalWorld.withObservation_watermarks, Table.get?_put, if_pos hid, hid,
          hepoch hid]
      have hbelow : ∀ n ∈ reported, n < u.observationSequence := by
        intro n hn
        obtain ⟨m, hget, hle⟩ := h.2 n hn
        have huncovered : ¬ u.observationSequence ≤ m := by
          simpa [JournalWorld.covered, hid, hget, ObservationWatermark.covers, hepoch hid]
            using hnew
        omega
      refine ⟨List.pairwise_append.mpr ⟨h.1, List.pairwise_singleton _ _, ?_⟩, ?_⟩
      · rintro n hn _ (_ | ⟨_, ⟨⟩⟩)
        exact hbelow n hn
      · intro n hn
        refine ⟨_, hlast, ?_⟩
        rcases List.mem_append.mp hn with hn | hn
        · exact (hbelow n hn).le
        · exact (List.mem_singleton.mp hn).le

/-- **Observations apply once and in order**: each call changes nothing or moves
the row and the watermark together, a covered or stale one changes nothing, a
retry is a single call, and the sequences applied in one epoch increase. -/
theorem observations_apply_once_in_order (w : JournalWorld) (calls : List ObservationUpdate) :
    EachStep observe AppliesOnce w calls ∧
      ∀ id epoch, (∀ u ∈ calls, u.projection.resourceId = id → u.agentEpoch = epoch) →
        (outputs observe (appliedSequence id) w calls).Pairwise (· < ·) := by
  refine ⟨eachStep_of_forall (fun u _ w => appliesOnce w u) w, fun id epoch hepoch => ?_⟩
  have hguard :
      EachStep observe (fun _ u => u.projection.resourceId = id → u.agentEpoch = epoch) w calls :=
    eachStep_of_forall (fun u hu _ => hepoch u hu) w
  exact (outputs_of_guarded (H := Increasing id epoch)
    (fun _ _ _ h hu => increasing_observe h hu) w calls
    ⟨List.Pairwise.nil, fun _ hn => by cases hn⟩ hguard).1

end Order

end Journal
end O3k
