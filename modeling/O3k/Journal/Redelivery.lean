import O3k.Journal.Deliveries

/-!
# Delivering an update again

`redelivered` is an update that is delivered with the stores working and nobody
else at them.  An update that is acceptable and in order does not fail, and so
closes both rows.
-/

namespace O3k
namespace Journal

open Relational Relational.Transaction Semantics Operations JournalM

def undisturbed {α : Type} (now : String) (p : JournalM α) (w : JournalWorld) :
    Except ReconcileError α × JournalWorld :=
  Program.alone (fun c w => exec c (flawless now) w) p.run w

/-- The update delivered again, with the stores working. -/
def redelivered (now : String) (u : AgentOperationUpdate) (w : JournalWorld) : JournalWorld :=
  (undisturbed now (applyAgentUpdate u) w).2

/-- The provider identity is the stored reference or can become it. -/
def ReferenceFits (w : JournalWorld) (resourceId : Uuid) (providerId : Option String) : Prop :=
  ∀ value, providerId = some value →
    (∃ reference, w.referenceOf resourceId "compute-agent" = some reference ∧
        reference.providerResourceId = value) ∨
      w.referenceTaken ⟨resourceId, "compute-agent", value⟩ = false

/-- No stored provider identity contradicts that of the update. -/
structure IdentityFits (u : AgentOperationUpdate) (c : AgentCommandRecord) (incoming : String)
    (w : JournalWorld) : Prop where
  command : identityConflicts c.providerResourceId (some incoming) = false
  resource :
    ∃ r, w.tables.resources.get? u.resourceId = some r ∧
      identityConflicts r.providerId (some incoming) = false
  references :
    ∀ name, name = "compute-agent" ∨ name = "agent" →
      ∀ reference, w.referenceOf u.resourceId name = some reference →
        reference.providerResourceId = incoming

/-- A terminal update of the current epoch, for the command of its operation,
that contradicts nothing that is stored. -/
structure Acceptable (u : AgentOperationUpdate) (o : OperationRecord) (c : AgentCommandRecord)
    (w : JournalWorld) : Prop where
  operation : w.tables.operations.get? u.operationId = some o
  operationResource : o.resourceId = u.resourceId
  command : w.commandOf u.operationId = some c
  agent : c.agentId = u.agentId
  commandResource : c.resourceId = u.resourceId
  terminal : u.state.durable.isTerminal = true
  classified : u.state = .failed → u.errorCategory.isSome = true
  agrees : o.state.isTerminal = true → o.state = u.state.durable
  named : anonymous u.agentId u.agentEpoch u.operationSequence = false
  current : w.registry.any (fun epochs => epochs u.agentId = some u.agentEpoch) = true
  identity : ∀ incoming, u.providerResourceId = some incoming → IdentityFits u c incoming w
  projectable :
    o.state.isTerminal = false →
      ∃ r, w.tables.resources.get? u.resourceId = some r ∧
        (u.state = .succeeded → ReferenceFits w u.resourceId (u.providerResourceId.or r.providerId))

section Finishes

variable {now : String} {α β : Type} {w : JournalWorld}

/-- Run alone, the program returns a value, and it and the world satisfy
`P`. -/
def Finishes (now : String) (P : α → JournalWorld → Prop) (p : JournalM α) (w : JournalWorld) :
    Prop :=
  ∃ a w', undisturbed now p w = (.ok a, w') ∧ P a w'

variable {P : α → JournalWorld → Prop} {a : α}

theorem finishes_pure (h : P a w) : Finishes now P (pure a : JournalM α) w := ⟨a, w, rfl, h⟩

variable {f : α → JournalM β}

theorem finishes_bind {Q : β → JournalWorld → Prop} {p : JournalM α}
    (hp : Finishes now P p w) (hf : ∀ a w', P a w' → Finishes now Q (f a) w') :
    Finishes now Q (p >>= f) w := by
  obtain ⟨a, w₁, hrun, hP⟩ := hp
  obtain ⟨b, w₂, hrest, hQ⟩ := hf a w₁ hP
  exact ⟨b, w₂, (Program.alone_run_bind_of_ok _ hrun).trans hrest, hQ⟩

variable {c : JournalCall}

theorem finishes_call {P : c.Reply → JournalWorld → Prop}
    (h : P (exec c (flawless now) w).1 (exec c (flawless now) w).2) :
    Finishes now P (call c) w :=
  ⟨_, _, rfl, h⟩

theorem finishes_stored {x : Except StoreError α} (hx : x = .ok a) (h : P a w) :
    Finishes now P (stored x) w := by
  subst hx
  exact finishes_pure h

theorem finishes_ensure {P : Unit → JournalWorld → Prop} {p : Prop} [Decidable p]
    (hp : p) (h : P () w) :
    Finishes now P (ensure p) w := by
  rw [ensure, if_pos hp]
  exact finishes_pure h

theorem finishes_ensure_bind {p : Prop} [Decidable p] {f : Unit → JournalM α}
    (hp : p) (h : Finishes now P (f ()) w) :
    Finishes now P (ensure p >>= f) w := by
  rw [ensure, if_pos hp]
  exact h

theorem finishes_given_bind {P : β → JournalWorld → Prop} {x : Except ReconcileError α}
    (hx : x = .ok a) (h : Finishes now P (f a) w) :
    Finishes now P (given x >>= f) w := by
  rw [hx]
  exact h

theorem finishes_stored_bind {P : β → JournalWorld → Prop} {x : Except StoreError α}
    (hx : x = .ok a) (h : Finishes now P (f a) w) :
    Finishes now P (stored x >>= f) w := by
  rw [hx]
  exact h

theorem finishes_call_bind {f : c.Reply → JournalM α} {w' : JournalWorld}
    (hw : (exec c (flawless now) w).2 = w')
    (h : Finishes now P (f (exec c (flawless now) w).1) w') :
    Finishes now P (call c >>= f) w := by
  obtain ⟨a, v, hrun, hP⟩ := h
  subst hw
  exact ⟨a, v, (Program.alone_run_bind_of_ok _ rfl).trans hrun, hP⟩

theorem finishes_statement {f : c.Reply → JournalM α} {w' : JournalWorld}
    (hf : f (exec c (flawless now) w).1 = pure a) (hw : (exec c (flawless now) w).2 = w')
    (h : P a w') :
    Finishes now P (call c >>= f) w := by
  refine finishes_bind (P := fun r v => r = (exec c (flawless now) w).1 ∧ v = w')
    (finishes_call ⟨rfl, hw⟩) ?_
  rintro r v ⟨rfl, rfl⟩
  rw [hf]
  exact finishes_pure h

end Finishes

section Statements

variable {w : JournalWorld}

theorem updateOperationBody_of_open {id : Uuid} {state : OperationState}
    {providerOperationId errorCategory errorMessage : Option String} {now : String}
    {t : OperationTables} {o : OperationRecord} (ho : t.operations.get? id = some o)
    (hopen : o.state.isTerminal = false) :
    ∃ t', updateOperationBody id state providerOperationId errorCategory errorMessage now t
        = .ok ((), t') ∧
      t'.resources = t.resources := by
  simp only [updateOperationBody, get_bind_apply, ho, bind_of_ok (orFail_some _ _ _), hopen]
  exact ⟨_, rfl, OperationTables.resources_modifyMetadata _ _ _⟩

theorem projectResource_of_current {t : OperationTables} {r : ResourceRecord}
    {projection : ResourceProjection} (hr : t.resources.get? projection.resourceId = some r)
    (hchecks : r.satisfiesChecks = true) (hexpected : projection.expectedGeneration = r.generation)
    (hobserved : projection.observedGeneration = r.generation) :
    ∃ t', projectResource projection t = .ok ((), t') := by
  simp only [ResourceRecord.satisfiesChecks, Bool.and_eq_true, decide_eq_true_eq] at hchecks
  simp only [projectResource, get_bind_apply, hr, bind_of_ok (orFail_some _ _ _)]
  rw [bind_of_ok (require_of_pos _ _ hexpected.symm), bind_of_ok (require_of_pos _ _ ?_)]
  · exact ⟨_, rfl⟩
  · simp only [ResourceRecord.satisfiesChecks, hobserved, Bool.and_eq_true, decide_eq_true_eq]
    omega

theorem terminalizeLifecycleBody_of_open {terminalization : LifecycleTerminalization} {now : String}
    {t : OperationTables} {o : OperationRecord} {r : ResourceRecord}
    (hterminal : terminalization.terminalState.isTerminal = true)
    (ho : t.operations.get? terminalization.operationId = some o)
    (hopen : o.state.isTerminal = false)
    (hresource : o.resourceId = terminalization.resource.resourceId)
    (hr : t.resources.get? terminalization.resource.resourceId = some r)
    (hchecks : r.satisfiesChecks = true)
    (hexpected : terminalization.resource.expectedGeneration = r.generation)
    (hobserved : terminalization.resource.observedGeneration = r.generation) :
    ∃ t', (do
      fromExcept terminalization.validate
      terminalizeLifecycleBody terminalization now : Body Unit) t = .ok ((), t') := by
  have hvalid : terminalization.validate = .ok () := by
    rw [LifecycleTerminalization.validate, if_pos hterminal]
  rw [bind_of_ok (fromExcept_eq_ok.mpr ⟨(), hvalid, rfl⟩)]
  simp only [terminalizeLifecycleBody, get_bind_apply, ho, bind_of_ok (orFail_some _ _ _),
    bind_of_ok (require_of_pos _ _ hresource), hopen]
  refine projectResource_of_current (r := r) ?_ hchecks hexpected hobserved
  rw [OperationTables.resources_modifyMetadata]
  exact hr

theorem identityConflicts_self (stored : Option String) :
    identityConflicts stored stored = false := by
  cases stored <;> simp [identityConflicts]

theorem confirmsIdentity_self (stored : Option String) : confirmsIdentity stored stored = true := by
  cases stored <;> simp [confirmsIdentity]

theorem sqliteSequence_of_le {value : Nat} (h : value ≤ integerMax) :
    sqliteSequence value = .ok value := by
  rw [sqliteSequence, if_pos h]

theorem projectUpdate_of_follows {u : AgentOperationUpdate} {c : AgentCommandRecord}
    (hbounds : c.acceptedSequence < integerMax ∧ c.lastSequence < integerMax)
    (hroom : u.operationSequence ≤ integerMax) (hterminal : u.state.durable.isTerminal = true)
    (hfollows : Follows u c)
    (hidentity : identityConflicts c.providerResourceId u.providerResourceId = false) :
    ∃ decision,
      Operations.projectUpdate c
          ⟨c.commandId, u.state.command, c.acceptedSequence, u.operationSequence,
            c.providerOperationId, u.providerResourceId⟩
        = .ok decision := by
  have hflight : u.state.command.isInFlight = false := by
    cases hstate : u.state <;> rw [hstate] at hterminal <;> first | rfl | cases hterminal
  unfold Operations.projectUpdate
  by_cases hbehind : u.operationSequence < c.lastSequence
  · rw [if_pos hbehind]
    exact ⟨none, rfl⟩
  · rw [if_neg hbehind]
    by_cases hsame : u.operationSequence = c.lastSequence
    · rcases hfollows with ⟨hlater, _⟩ | ⟨hstate, hconfirms⟩
      · omega
      · rw [if_pos hsame, if_pos ⟨hstate, rfl, confirmsIdentity_self _, hconfirms hsame.symm⟩]
        exact ⟨none, rfl⟩
    · have hagrees : c.state.isTerminal = true → c.state = u.state.command := by
        rcases hfollows with ⟨_, hagrees⟩ | ⟨hstate, _⟩
        · exact hagrees
        · exact fun _ => hstate
      rw [if_neg hsame, if_neg (fun h => h.2 (hagrees h.1)), if_neg (by simp [hflight]),
        if_neg (by simp [identityConflicts_self, hidentity])]
      simp only [Nat.max_self, sqliteSequence_of_le (Nat.le_of_lt hbounds.1),
        sqliteSequence_of_le hroom, sqliteSequence_of_le (Nat.le_of_lt hbounds.2)]
      exact ⟨_, rfl⟩

theorem updateAgentCommand_of_follows {u : AgentOperationUpdate} {c : AgentCommandRecord}
    (hsound : Sound w) (hc : w.commandOf u.operationId = some c)
    (hroom : u.operationSequence ≤ integerMax) (hterminal : u.state.durable.isTerminal = true)
    (hfollows : Follows u c)
    (hidentity : identityConflicts c.providerResourceId u.providerResourceId = false) :
    ∃ row commands,
      w.updateAgentCommand
          ⟨c.commandId, u.state.command, c.acceptedSequence, u.operationSequence,
            c.providerOperationId, u.providerResourceId⟩
        = (.ok row, w.withCommands commands) := by
  obtain ⟨_, hget, _⟩ := JournalWorld.commandOf_eq_some.mp hc
  have hbounds := hsound.room c (w.commands.mem_of_get? hget)
  obtain ⟨decision, hproject⟩ :=
    projectUpdate_of_follows hbounds hroom hterminal hfollows hidentity
  unfold JournalWorld.updateAgentCommand updateAgentCommandOnce updateAgentCommandOnceBody
    atomically
  simp only [get_bind_apply, hget, bind_of_ok (orFail_some _ _ _), hproject,
    bind_of_ok (fromExcept_eq_ok.mpr ⟨decision, rfl, rfl⟩)]
  cases decision with
  | none => exact ⟨c, w.commands, rfl⟩
  | some row => exact ⟨row, w.commands.put row, rfl⟩

end Statements

section Acceptable

variable {now : String} {w : JournalWorld} {u : AgentOperationUpdate}

/-- Everything that the rest of an update looks at, but the command rows. -/
structure SameStores (w w' : JournalWorld) : Prop where
  tables : w'.tables = w.tables
  references : w'.references = w.references

theorem ReferenceFits.congr {w' : JournalWorld} {resourceId : Uuid} {providerId : Option String}
    (hsame : w'.references = w.references) (h : ReferenceFits w resourceId providerId) :
    ReferenceFits w' resourceId providerId := by
  intro value hvalue
  have hfits := h value hvalue
  unfold JournalWorld.referenceTaken JournalWorld.referenceOf at hfits ⊢
  rw [hsame]
  exact hfits

variable {r : ResourceRecord}

theorem finishes_getResource_bind {α : Type} {P : α → JournalWorld → Prop} {id : Uuid}
    {f : ResourceRecord → JournalM α} (hr : w.tables.resources.get? id = some r)
    (h : Finishes now P (f r) w) :
    Finishes now P (call (.getResource id) >>= fun reply => stored reply >>= f) w := by
  obtain ⟨a, v, hrun, hP⟩ := h
  refine ⟨a, v, ?_, hP⟩
  have hreply : w.getResource id = .ok r := by
    rw [JournalWorld.getResource, hr]
    rfl
  refine (Program.alone_run_bind_of_ok (a := w.getResource id) _ rfl).trans ?_
  rw [hreply]
  exact hrun

theorem finishes_ensureReference {resourceId : Uuid} {providerId : Option String}
    (hr : w.tables.resources.get? resourceId = some r)
    (hfits : ReferenceFits w resourceId providerId) :
    Finishes now (fun _ v => v.tables = w.tables ∧ v.watermarks = w.watermarks)
      (ensureReference resourceId providerId) w := by
  cases providerId with
  | none => exact finishes_pure ⟨rfl, rfl⟩
  | some value =>
    refine finishes_bind
      (finishes_call (c := .getProviderReference resourceId "compute-agent")
        (P := fun reply v =>
          reply = w.getProviderReference resourceId "compute-agent" ∧ v = w) ⟨rfl, rfl⟩) ?_
    rintro _ v ⟨rfl, rfl⟩
    unfold JournalWorld.getProviderReference
    rcases hfits value rfl with ⟨reference, hreference, hsame⟩ | hfree
    · rw [hreference]
      simp only [Option.elim_some, hsame, ite_true]
      exact finishes_pure ⟨rfl, rfl⟩
    · have hnone : v.referenceOf resourceId "compute-agent" = none := by
        rw [JournalWorld.referenceTaken, Bool.or_eq_false_iff] at hfree
        simpa using hfree.1
      rw [hnone]
      simp only [Option.elim_none]
      have hattach :
          v.attachProviderReference ⟨resourceId, "compute-agent", value⟩
            = (.ok (),
              v.withReferences (v.references.put ⟨resourceId, "compute-agent", value⟩)) := by
        rw [JournalWorld.attachProviderReference, if_neg (by simp [hfree]), if_neg (by simp [hr])]
      refine finishes_statement (a := ()) ?_ rfl ?_
      · show stored (v.attachProviderReference _).1 = _
        rw [hattach]
        rfl
      · show (v.attachProviderReference _).2.tables = _ ∧
          (v.attachProviderReference _).2.watermarks = _
        rw [hattach]
        exact ⟨rfl, rfl⟩

theorem finishes_updateResource {projection : ResourceProjection}
    (hsound : ∀ r ∈ w.tables.resources.rows, r.satisfiesChecks = true)
    (hr : w.tables.resources.get? projection.resourceId = some r)
    (hexpected : projection.expectedGeneration = r.generation)
    (hobserved : projection.observedGeneration = r.generation) :
    Finishes now (fun _ _ => True) (do stored (← call (.updateResource projection))) w := by
  obtain ⟨t, ht⟩ := projectResource_of_current hr (hsound r (w.tables.resources.mem_of_get? hr))
    hexpected hobserved
  refine finishes_statement (a := ()) ?_ rfl trivial
  show stored (w.updateResource projection).1 = _
  rw [JournalWorld.updateResource, w.onTables_of_ok ht]
  rfl

variable {o : OperationRecord} {errorCategory : Option String}

theorem finishes_updateOperation {id : Uuid} {state : OperationState}
    {providerOperationId errorMessage : Option String} (ho : w.tables.operations.get? id = some o)
    (hopen : o.state.isTerminal = false) :
    Finishes now
      (fun reply v => reply = .ok () ∧ v.tables.resources = w.tables.resources ∧
        v.references = w.references)
      (call (.updateOperation id state providerOperationId errorCategory errorMessage)) w := by
  obtain ⟨t, ht, hresources⟩ :=
    @updateOperationBody_of_open id state providerOperationId errorCategory errorMessage now _ _
      ho hopen
  have hresult :
      exec (.updateOperation id state providerOperationId errorCategory errorMessage)
          (flawless now) w
        = (.ok (), w.withTables t) :=
    w.onTables_of_ok ht
  refine finishes_call ?_
  rw [hresult]
  exact ⟨rfl, hresources, rfl⟩

theorem finishes_failedCreateResource (hr : w.tables.resources.get? u.resourceId = some r) :
    Finishes now (fun failedCreate v => (failedCreate = none ∨ failedCreate = some r) ∧ w = v)
      (failedCreateResource o u) w := by
  unfold failedCreateResource
  split
  · refine finishes_getResource_bind hr ?_
    refine finishes_bind (P := fun _ v => w = v) (finishes_statement (a := ()) rfl rfl rfl) ?_
    rintro _ _ rfl
    exact finishes_pure ⟨Or.inr rfl, rfl⟩
  · exact finishes_pure ⟨Or.inl rfl, rfl⟩

variable {failedCreate : Option ResourceRecord}

theorem finishes_projectFailedCreate
    (hchecks : ∀ r ∈ w.tables.resources.rows, r.satisfiesChecks = true)
    (hr : w.tables.resources.get? u.resourceId = some r)
    (hfailed : failedCreate = none ∨ failedCreate = some r) :
    Finishes now (fun _ v => failedCreate = none → v = w)
      (projectFailedCreate u failedCreate) w := by
  rcases hfailed with rfl | rfl
  · exact finishes_pure fun _ => rfl
  · have hfinishes : Finishes now (fun _ _ => True) (projectFailedCreate u (some r)) w :=
      finishes_updateResource hchecks hr rfl rfl
    obtain ⟨a, v, hrun, _⟩ := hfinishes
    exact ⟨a, v, hrun, fun h => by cases h⟩

theorem finishes_finishDelete (hchecks : ∀ r ∈ w.tables.resources.rows, r.satisfiesChecks = true)
    (ho : w.tables.operations.get? u.operationId = some o) (hopen : o.state.isTerminal = false)
    (hresource : o.resourceId = u.resourceId) (hr : w.tables.resources.get? u.resourceId = some r)
    (hfits : ReferenceFits w u.resourceId (u.providerResourceId.or r.providerId)) :
    Finishes now (fun _ _ => True) (finishDelete o u) w := by
  refine finishes_getResource_bind hr (finishes_bind (finishes_ensureReference hr hfits) ?_)
  intro _ v' ⟨htables, _⟩
  rw [← htables] at ho hr hchecks
  obtain ⟨t, ht⟩ :=
    @terminalizeLifecycleBody_of_open
      { operationId := u.operationId
        terminalState := .succeeded
        providerOperationId := o.providerOperationId
        errorCategory := none
        errorMessage := none
        resource :=
          { resourceId := u.resourceId
            expectedGeneration := r.generation
            desiredState := r.desiredState
            observedState := serverStateToStorage .deleted
            observedGeneration := r.generation
            providerId := u.providerResourceId.or r.providerId } }
      now _ _ _ rfl ho hopen hresource hr (hchecks r (v'.tables.resources.mem_of_get? hr)) rfl rfl
  refine finishes_statement (a := ()) ?_ rfl trivial
  exact congrArg (fun result => stored result.1) (v'.onTables_of_ok ht)

theorem finishes_projectProviderIdentity
    (hchecks : ∀ r ∈ w.tables.resources.rows, r.satisfiesChecks = true)
    (hr : w.tables.resources.get? u.resourceId = some r)
    (hfits : ReferenceFits w u.resourceId (u.providerResourceId.or r.providerId)) :
    Finishes now (fun _ _ => True) (projectProviderIdentity u) w := by
  unfold projectProviderIdentity
  split
  · refine finishes_getResource_bind hr (finishes_bind (finishes_ensureReference hr hfits) ?_)
    intro _ v' ⟨htables, _⟩
    rw [← htables] at hr hchecks
    exact finishes_updateResource hchecks hr rfl rfl
  · exact finishes_pure trivial

theorem finishes_finishUpdate (hchecks : ∀ r ∈ w.tables.resources.rows, r.satisfiesChecks = true)
    (ho : w.tables.operations.get? u.operationId = some o) (hopen : o.state.isTerminal = false)
    (hr : w.tables.resources.get? u.resourceId = some r)
    (hfailed : failedCreate = none ∨ failedCreate = some r)
    (hsucceeded :
      u.state.durable = .succeeded →
        failedCreate = none ∧ ReferenceFits w u.resourceId (u.providerResourceId.or r.providerId)) :
    Finishes now (fun _ _ => True) (finishUpdate o u errorCategory failedCreate) w := by
  refine finishes_bind (finishes_updateOperation ho hopen) ?_
  rintro _ w₁ ⟨rfl, hresources, hreferences⟩
  refine finishes_bind (finishes_stored rfl (P := fun _ v => w₁ = v) rfl) ?_
  rintro _ _ rfl
  rw [← hresources] at hr hchecks
  refine finishes_bind (finishes_projectFailedCreate hchecks hr hfailed) ?_
  intro _ w₂ hsame
  by_cases hdone : u.state.durable = .succeeded
  · obtain ⟨hnone, hfits⟩ := hsucceeded hdone
    rw [hsame hnone]
    exact finishes_projectProviderIdentity hchecks hr (hfits.congr hreferences)
  · rw [projectProviderIdentity, if_neg hdone]
    exact finishes_pure trivial

variable {c : AgentCommandRecord}

theorem finishes_projectOutcome {w₀ : JournalWorld}
    (hchecks : ∀ r ∈ w₀.tables.resources.rows, r.satisfiesChecks = true) (h : Acceptable u o c w₀)
    (hopen : o.state.isTerminal = false) (hsame : SameStores w₀ w) :
    Finishes now (fun _ _ => True) (projectOutcome o u errorCategory) w := by
  obtain ⟨r, hr, hfits⟩ := h.projectable hopen
  have ho := h.operation
  rw [← hsame.tables] at hr ho hchecks
  have hfits' (hdone : u.state.durable = .succeeded) :
      ReferenceFits w u.resourceId (u.providerResourceId.or r.providerId) := by
    refine (hfits ?_).congr hsame.references
    cases hstate : u.state <;> rw [hstate] at hdone <;> first | rfl | cases hdone
  by_cases hdone : u.state.durable = .succeeded
  · have hcreate : failedCreateResource o u = pure none := by
      rw [failedCreateResource, if_neg]
      rintro ⟨hfailed, _⟩
      rw [hdone] at hfailed
      cases hfailed
    rw [projectOutcome, hcreate]
    refine finishes_bind (finishes_pure (P := fun a v => a = none ∧ w = v) ⟨rfl, rfl⟩) ?_
    rintro _ _ ⟨rfl, rfl⟩
    split
    · exact finishes_finishDelete hchecks ho hopen h.operationResource hr (hfits' hdone)
    · exact finishes_finishUpdate hchecks ho hopen hr (Or.inl rfl) fun _ => ⟨rfl, hfits' hdone⟩
  · refine finishes_bind (finishes_failedCreateResource hr) ?_
    rintro failedCreate _ ⟨hfailed, rfl⟩
    rw [if_neg (fun hdelete => hdone hdelete.1)]
    exact finishes_finishUpdate hchecks ho hopen hr hfailed fun h => absurd h hdone

theorem finishes_checkReference {incoming name : String}
    (h :
      ∀ reference, w.referenceOf u.resourceId name = some reference →
        reference.providerResourceId = incoming) :
    Finishes now (fun _ v => w = v) (checkReference u.resourceId incoming name) w := by
  refine finishes_bind
    (finishes_call (c := .getProviderReference u.resourceId name)
      (P := fun reply v => reply = w.getProviderReference u.resourceId name ∧ w = v) ⟨rfl, rfl⟩) ?_
  rintro _ _ ⟨rfl, rfl⟩
  unfold JournalWorld.getProviderReference
  cases hreference : w.referenceOf u.resourceId name with
  | none => exact finishes_pure rfl
  | some reference => exact finishes_ensure (h reference hreference) rfl

theorem finishes_validateAgentProviderIdentity (h : Acceptable u o c w) :
    Finishes now (fun _ v => w = v) (validateAgentProviderIdentity c u) w := by
  unfold validateAgentProviderIdentity
  cases hincoming : u.providerResourceId with
  | none => exact finishes_pure rfl
  | some incoming =>
    obtain ⟨hcommand, ⟨r, hr, hresource⟩, hreferences⟩ := h.identity incoming hincoming
    refine finishes_bind (finishes_ensure (P := fun _ v => w = v) (by simp [hcommand]) rfl) ?_
    rintro _ _ rfl
    refine finishes_getResource_bind hr ?_
    refine finishes_bind (finishes_ensure (P := fun _ v => w = v) (by simp [hresource]) rfl) ?_
    rintro _ _ rfl
    refine finishes_bind (finishes_checkReference (hreferences _ (Or.inl rfl))) ?_
    rintro _ _ rfl
    exact finishes_checkReference (hreferences _ (Or.inr rfl))

theorem fence_of_follows (hsound : Sound w) (h : Acceptable u o c w)
    (hfollows : ∀ e, w.agentEvidence u.operationId = some e → FollowsEvidence u e) :
    ∃ disposition, disposition ≠ .stale ∧
      fenceAgentEvidence w.registry (w.agentEvidence u.operationId)
          ⟨u.agentId, u.agentEpoch, u.operationSequence, u.state, u.providerResourceId.getD ""⟩
        = .ok disposition := by
  have hcurrent := h.current
  obtain ⟨epochs, hregistry⟩ := Option.isSome_iff_exists.mp hsound.registry
  rw [hregistry] at hcurrent ⊢
  unfold fenceAgentEvidence
  rw [if_neg (by simp [h.named]), if_neg (by simpa [epochIsCurrent] using hcurrent)]
  cases he : w.agentEvidence u.operationId with
  | none => exact ⟨.new, EvidenceDisposition.noConfusion, rfl⟩
  | some e =>
    have hagent : e.agentId = u.agentId := (hsound.anchored _ e c he h.command).trans h.agent
    simp only [hagent, ne_eq, not_true_eq_false, if_false, Option.isNone_some, Bool.false_eq_true]
    rcases hfollows e he with hother | hearlier | ⟨hsame, hstate, hprovider⟩
    · rw [if_pos hother]
      exact ⟨.new, EvidenceDisposition.noConfusion, rfl⟩
    · by_cases hepoch : e.agentEpoch = u.agentEpoch
      · rw [if_neg (not_not.mpr hepoch), if_neg (by omega), if_neg (by omega)]
        exact ⟨.new, EvidenceDisposition.noConfusion, rfl⟩
      · rw [if_pos hepoch]
        exact ⟨.new, EvidenceDisposition.noConfusion, rfl⟩
    · by_cases hepoch : e.agentEpoch = u.agentEpoch
      · rw [if_neg (not_not.mpr hepoch), if_neg (by omega), if_pos hsame.symm,
          if_pos ⟨hstate, hprovider⟩]
        exact ⟨.duplicate, EvidenceDisposition.noConfusion, rfl⟩
      · rw [if_pos hepoch]
        exact ⟨.new, EvidenceDisposition.noConfusion, rfl⟩

theorem failureCategory_of_classified (h : Acceptable u o c w) :
    ∃ category, failureCategory u = .ok category := by
  unfold failureCategory
  split
  · rename_i hfailed
    have hstate : u.state = .failed := by
      cases hstate : u.state <;> rw [hstate] at hfailed <;> first | rfl | cases hfailed
    obtain ⟨category, hcategory⟩ := Option.isSome_iff_exists.mp (h.classified hstate)
    obtain ⟨name, hname⟩ := agentErrorCategory_some category
    rw [hcategory, hname]
    exact ⟨some name, rfl⟩
  · exact ⟨none, rfl⟩

theorem finishes_fenceAgentEvidence (hsound : Sound w) (h : Acceptable u o c w)
    (hfollows : ∀ e, w.agentEvidence u.operationId = some e → FollowsEvidence u e) :
    Finishes now
      (fun reply v =>
        (∃ disposition, reply = .ok disposition ∧ disposition ≠ .stale) ∧
          Sound v ∧ SameOutcome w v ∧ SameStores w v)
      (call (.fenceAgentEvidence u.operationId
        ⟨u.agentId, u.agentEpoch, u.operationSequence, u.state,
          u.providerResourceId.getD ""⟩)) w := by
  obtain ⟨disposition, hfresh, hfence⟩ := fence_of_follows hsound h hfollows
  have hanchor : ∀ c, w.commandOf u.operationId = some c → u.agentId = c.agentId := by
    intro c' hc'
    rw [h.command] at hc'
    cases hc'
    exact h.agent.symm
  refine finishes_call ⟨⟨disposition, (rememberEvidence_fst _ _ _ _).trans hfence, hfresh⟩,
    hsound.rememberEvidence hanchor _, sameOutcome_rememberEvidence _ _ _ _, ?_⟩
  show SameStores w (w.rememberEvidence _ _ _).2
  unfold JournalWorld.rememberEvidence
  split <;> exact ⟨rfl, rfl⟩

/-- **An acceptable update in order does not fail**, and returns its state. -/
theorem finishes_applyAgentUpdate
    (hsound : Sound w) (h : Acceptable u o c w) (hroom : u.operationSequence ≤ integerMax)
    (hrow : Follows u c)
    (hevidence : ∀ e, w.agentEvidence u.operationId = some e → FollowsEvidence u e) :
    Finishes now
      (fun s v => s = u.state.durable ∧
        (o.state.isTerminal = true → v.Closed u.operationId u.state.durable))
      (applyAgentUpdate u) w := by
  have hidentity : identityConflicts c.providerResourceId u.providerResourceId = false := by
    cases hincoming : u.providerResourceId with
    | none => rfl
    | some incoming => exact (h.identity incoming hincoming).command
  have hflight : u.state.command.isInFlight = false ∧ u.state.durable ≠ .running := by
    have hterminal := h.terminal
    cases hstate : u.state <;> rw [hstate] at hterminal <;>
      first | exact ⟨rfl, OperationState.noConfusion⟩ | cases hterminal
  obtain ⟨category, hcategory⟩ := failureCategory_of_classified h
  have hoperation : w.getOperation u.operationId = .ok o := by
    rw [JournalWorld.getOperation, h.operation]
    rfl
  have hcommand : w.getAgentCommandByOperation u.operationId = .ok c := by
    rw [JournalWorld.getAgentCommandByOperation, h.command]
    rfl
  refine finishes_call_bind rfl (finishes_stored_bind hoperation ?_)
  refine finishes_ensure_bind h.operationResource ?_
  refine finishes_call_bind rfl (finishes_given_bind (congrArg _ hcommand) ?_)
  refine finishes_ensure_bind ⟨h.agent, h.commandResource⟩ ?_
  refine finishes_ensure_bind ?_ ?_
  · rintro (⟨_, hrunning⟩ | ⟨_, hinflight⟩)
    · exact hflight.2 hrunning
    · rw [hflight.1] at hinflight
      cases hinflight
  refine finishes_given_bind hcategory ?_
  refine finishes_ensure_bind (fun hcontradicts => hcontradicts.2 (h.agrees hcontradicts.1)) ?_
  refine finishes_bind (finishes_validateAgentProviderIdentity h) ?_
  rintro _ _ rfl
  refine finishes_bind (finishes_fenceAgentEvidence hsound h hevidence) ?_
  rintro _ w₁ ⟨⟨disposition, rfl, hfresh⟩, hsound₁, hsame, hstores⟩
  refine finishes_given_bind rfl ?_
  rw [if_neg hfresh]
  have hc₁ : w₁.commandOf u.operationId = some c := hsame.commandOf _ ▸ h.command
  obtain ⟨row, commands, hwritten⟩ :=
    updateAgentCommand_of_follows hsound₁ hc₁ hroom h.terminal hrow hidentity
  refine finishes_call_bind (congrArg Prod.snd hwritten)
    (finishes_stored_bind (congrArg Prod.fst hwritten) ?_)
  split
  · rename_i hterminal
    have htold := told_of_updateAgentCommand hc₁ (fun _ => Or.inr hrow) hwritten h.terminal
    refine finishes_pure ⟨h.agrees hterminal, fun _ => ?_⟩
    refine htold.closed h.terminal ?_ (h.agrees hterminal)
    rw [JournalWorld.withCommands_tables, hsame.operations]
    exact h.operation
  · rename_i hopen
    refine finishes_bind (finishes_projectOutcome hsound.generations h (by simpa using hopen)
      ⟨hstores.tables, hstores.references⟩) ?_
    intro _ w₂ _
    split
    · exact finishes_call_bind rfl (finishes_pure ⟨rfl, fun h => absurd h hopen⟩)
    · exact finishes_pure ⟨rfl, fun h => absurd h hopen⟩

/-- **Redelivery**: an acceptable update in order finds both rows terminal, or
makes them so. -/
theorem redelivery_closes
    (hsound : Sound w) (h : Acceptable u o c w) (hroom : u.operationSequence < integerMax)
    (horder : InOrder u w) :
    w.Closed u.operationId u.state.durable ∨
      (redelivered now u w).Closed u.operationId u.state.durable := by
  rcases horder with hclosed | ⟨hrow, hevidence⟩
  · exact Or.inl hclosed
  · have hfinishes : Finishes now _ (applyAgentUpdate u) w :=
      finishes_applyAgentUpdate hsound h (Nat.le_of_lt hroom) (hrow c h.command) hevidence
    obtain ⟨s, w', hrun, rfl, _⟩ := hfinishes
    have hgoes := goes_applyAgentUpdate (w := w) (u := u)
      ⟨hroom, fun _ => Or.inr ⟨hrow, hevidence⟩⟩
    have hstored := Program.Survives.alone (x := flawless now) Undisturbed.refl
      (fun _ _ => trivial) hsound hgoes
    exact Or.inr (hstored u.state.durable (congrArg Prod.fst hrun) h.terminal)

end Acceptable

end Journal
end O3k
