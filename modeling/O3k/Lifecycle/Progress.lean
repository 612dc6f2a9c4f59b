import O3k.Lifecycle.Actions

/-!
# The reconciliations keep the rows of actions sound

A reconciliation of the operation of an action writes a state only when a
command has been sent for it, and success only when one has been executed.
-/

namespace O3k
namespace Lifecycle

open Relational Operations Semantics
open Journal (ServerState InstanceState)
open Program (Yields perform yields_mk_pure yields_pure yields_throw)

variable {lib : LifecycleLibrary} {maxAttempts : Nat}

/-- The provider reports success of commands that it has executed only. -/
def ReportsHonestly (_ : Nat) (c : LifecycleCall) (x : LifecycleAnswer) (w : LifecycleWorld) :
    Prop :=
  match c with
  | .dispatch d =>
    ∀ answer, x.operation = .ok answer → answer.state = .succeeded →
      (x.executes = true ∧ answer.o3kOperationId = d.operationId) ∨
        Executed answer.o3kOperationId w
  | .getProviderOperation _ =>
    ∀ answer, x.operation = .ok answer → answer.state = .succeeded →
      Executed answer.o3kOperationId w
  | _ => True

/-- An action begins an operation that has no row yet; and where the outcome of
an operation is unknown, the server is in the state that it leads to only if its
command has been executed. -/
def BeginsAndConverges (_ : Nat) (c : LifecycleCall) (x : LifecycleAnswer) (w : LifecycleWorld) :
    Prop :=
  match c with
  | .insertOperation row =>
    LifecycleAction.parse row.kind ≠ some .delete → w.tables.operations.get? row.id = none
  | .observeInstance id _ =>
    ∀ row ∈ w.tables.operations.get? id, ∀ action ∈ LifecycleAction.parse row.kind,
      ∀ state, x.observed = .ok state → action.convergedAt state = true → Executed id w
  | _ => True

abbrev Guarded (who : Nat) (c : LifecycleCall) (x : LifecycleAnswer) (w : LifecycleWorld) : Prop :=
  ReportsHonestly who c x w ∧ BeginsAndConverges who c x w

/-- The attempt survives among the others, and a value that it returns
satisfies `P`. -/
abbrev Acts (lib : LifecycleLibrary) {ε α : Type} (P : α → LifecycleWorld → Prop)
    (p : ExceptT ε (Program LifecycleCall LifecycleReply) α) (w : LifecycleWorld) :
    Prop :=
  Yields (execLifecycle lib) Grows (ActionsSound lib) (Guarded 0)
    (fun c _ w => Permitted lib c w) P p w

section Rules

variable {ε α β : Type} {w : LifecycleWorld}

theorem acts_call {c : LifecycleCall} {P : LifecycleReply c → LifecycleWorld → Prop}
    (h :
      ∀ w' x, Grows w w' → ActionsSound lib w' → Guarded 0 c x w' →
        Permitted lib c w' ∧ P (execLifecycle lib c x w').1 (execLifecycle lib c x w').2) :
    Acts lib P (ExceptT.lift (perform c) : ExceptT ε _ _) w := by
  refine Program.yields_lift_perform ?_
  intro w' x hgrows hsound hguard
  obtain ⟨hpermitted, hP⟩ := h w' x hgrows hsound hguard
  exact ⟨hpermitted, (hsound.exec hpermitted).1, hP⟩

theorem acts_permitted {c : LifecycleCall} {J : LifecycleWorld → Prop}
    (hstable : ∀ w w', J w → Grows w w' → J w') (hJ : J w) (h : ∀ w', J w' → Permitted lib c w') :
    Acts lib (fun _ w' => J w') (ExceptT.lift (perform c) : ExceptT ε _ _) w := by
  refine Program.yields_lift_perform ?_
  intro w' x hgrows hsound _
  have hJ' := hstable w w' hJ hgrows
  obtain ⟨hkeep, hgrows'⟩ := hsound.exec (x := x) (h w' hJ')
  exact ⟨h w' hJ', hkeep, hstable w' _ hJ' hgrows'⟩

variable {P : α → LifecycleWorld → Prop}

theorem acts_orStore {x : Except StoreError α} (h : ∀ a, x = .ok a → P a w) :
    Acts lib P (LifecycleM.orStore x) w := by
  cases x with
  | error e => exact yields_throw _ w
  | ok a => exact yields_pure (h a rfl)

theorem acts_orProvider {x : Except ProviderError α} (h : ∀ a, x = .ok a → P a w) :
    Acts lib P (LifecycleM.orProvider x) w := by
  cases x with
  | error e => exact yields_throw _ w
  | ok a => exact yields_pure (h a rfl)

theorem acts_orInvalid {x : Option α} (h : ∀ a, x = some a → P a w) :
    Acts lib P (LifecycleM.orInvalid x) w := by
  cases x with
  | none => exact yields_throw _ w
  | some a => exact yields_pure (h a rfl)

theorem acts_orMetering {P : Unit → LifecycleWorld → Prop} {x : Except String Unit} (h : P () w) :
    Acts lib P (LifecycleM.orMetering x) w := by
  cases x with
  | error e => exact yields_throw _ w
  | ok a => exact yields_pure h

end Rules

section Programs

variable {operation : OperationRecord} {resource : ResourceRecord} {action : LifecycleAction}
variable {w : LifecycleWorld}

/-- What the operation of an action has come to when it is in the state. -/
structure Reached (id : Uuid) (state : OperationState) (w : LifecycleWorld) : Prop where
  dispatched : Dispatched id w
  executed : state = .succeeded → Executed id w

variable {id : Uuid}

theorem Reached.grows {state : OperationState} {w' : LifecycleWorld}
    (h : Reached id state w) (hgrows : Grows w w') :
    Reached id state w' :=
  ⟨h.dispatched.grows hgrows, fun hsucceeded => (h.executed hsucceeded).grows hgrows⟩

theorem acts_updateOperation {state : OperationState}
    {providerOperationId errorCategory errorMessage : Option String} (h : Reached id state w) :
    Acts lib (Reached id)
      (updateOperation id state providerOperationId errorCategory errorMessage) w := by
  refine Yields.bind
    (acts_permitted (J := Reached id state) (fun _ _ h hgrows => h.grows hgrows) h ?_) ?_
  · exact fun w' h' _ => ⟨fun _ _ => h'.dispatched, h'.executed⟩
  · intro r w' h'
    refine Yields.bind (acts_orStore (P := fun _ w' => Reached id state w') ?_) ?_
    · exact fun _ _ => h'
    · exact fun _ w' h' => yields_pure h'

variable {providerOperationId providerId : String}

theorem acts_finishLifecycle (h : Reached id .succeeded w) :
    Acts lib (Reached id) (finishLifecycle id resource action providerOperationId providerId) w := by
  have hstable : ∀ w w', Reached id .succeeded w → Grows w w' → Reached id .succeeded w' :=
    fun _ _ h hgrows => h.grows hgrows
  have hstate : Acts lib (fun _ w' => Reached id .succeeded w')
      (finishedState action providerId) w := by
    unfold finishedState
    split
    · exact yields_pure h
    · refine Yields.bind (acts_permitted hstable h (fun _ _ => trivial)) ?_
      intro r w' h'
      refine Yields.bind
        (acts_orProvider (P := fun _ w' => Reached id .succeeded w') (fun _ _ => h')) ?_
      exact fun _ w' h' => yields_pure h'
  refine Yields.bind hstate ?_
  intro observedState w₁ h₁
  refine Yields.bind (acts_permitted hstable h₁ (fun _ _ => trivial)) ?_
  intro r₂ w₂ h₂
  refine Yields.bind (acts_orMetering (P := fun _ w' => Reached id .succeeded w') h₂) ?_
  intro _ w₃ h₃
  refine Yields.bind (acts_permitted hstable h₃ ?_) ?_
  · exact fun w' h' _ => ⟨fun _ _ => h'.dispatched, h'.executed⟩
  · intro r₄ w₄ h₄
    refine Yields.bind (acts_orStore (P := fun _ w' => Reached id .succeeded w') (fun _ _ => h₄)) ?_
    exact fun _ w₅ h₅ => yields_pure h₅

theorem acts_retryOrFail (error : ProviderError) (h : Dispatched id w) :
    Acts lib (Reached id) (retryOrFail maxAttempts id error) w := by
  refine Yields.bind
    (acts_permitted (J := Dispatched id) (fun _ _ h hgrows => h.grows hgrows) h
      (fun _ _ => trivial)) ?_
  intro r w' h'
  refine Yields.bind (acts_orStore (P := fun _ w' => Dispatched id w') (fun _ _ => h')) ?_
  intro attempts w'' h''
  split
  · exact acts_updateOperation ⟨h'', fun hstate => by cases hstate⟩
  · exact acts_updateOperation ⟨h'', fun hstate => by cases hstate⟩

variable {answer : ProviderOperation}

/-- Outside of deletions a command answers for its own operation. -/
theorem owner_eq (hdelete : action ≠ .delete)
    (h : validateLifecycleProviderOperationOwner lib id action answer = .ok ()) :
    answer.o3kOperationId = id := by
  unfold validateLifecycleProviderOperationOwner at h
  split at h
  · assumption
  · split at h
    · rename_i hredrive
      exact absurd hredrive.1 hdelete
    · cases h

variable {providerId : String}

theorem acts_handleProviderOperation (hdispatched : Dispatched operation.id w)
    (hexecuted : answer.state = .succeeded → Executed operation.id w) :
    Acts lib (Reached operation.id)
      (handleProviderOperation lib maxAttempts operation resource action providerId answer) w := by
  have hreached :
      ∀ state : OperationState, state ≠ .succeeded → Reached operation.id state w :=
    fun state hstate => ⟨hdispatched, fun h => absurd h hstate⟩
  unfold handleProviderOperation
  split
  · rename_i hstate
    exact acts_finishLifecycle ⟨hdispatched, fun _ => hexecuted hstate⟩
  · split <;> exact acts_updateOperation (hreached _ (by decide))
  · split <;> exact acts_updateOperation (hreached _ (by decide))
  · exact acts_updateOperation (hreached _ (by decide))
  · exact acts_retryOrFail _ hdispatched
  · exact acts_updateOperation (hreached _ (by decide))

theorem acts_handleLifecycleResult {result : Except ProviderError ProviderOperation}
    (hdelete : action ≠ .delete) (hdispatched : Dispatched operation.id w)
    (hexecuted :
      ∀ answer, result = .ok answer → answer.state = .succeeded →
        Executed answer.o3kOperationId w) :
    Acts lib (Reached operation.id)
      (handleLifecycleResult lib maxAttempts operation resource action providerId result) w := by
  unfold handleLifecycleResult
  split
  · rename_i answer
    refine Yields.bind
      (P := fun _ w' => w' = w ∧
        validateLifecycleProviderOperationOwner lib operation.id action answer = .ok ())
      (yields_mk_pure (fun _ h => ⟨rfl, h⟩)) ?_
    rintro _ w' ⟨rfl, howner⟩
    refine acts_handleProviderOperation hdispatched ?_
    intro hstate
    have := hexecuted answer rfl hstate
    rwa [owner_eq hdelete howner] at this
  · exact acts_updateOperation ⟨hdispatched, fun h => by cases h⟩
  · exact acts_retryOrFail _ hdispatched
  · exact acts_retryOrFail _ hdispatched
  · rw [if_neg (fun h => hdelete h.2)]
    exact acts_updateOperation ⟨hdispatched, fun h => by cases h⟩

variable {presence : Except ProviderError InstanceState}

theorem acts_observeConverged (hdispatched : Dispatched operation.id w)
    (hexecuted :
      ∀ state, presence = .ok state → action.convergedAt state = true → Executed operation.id w) :
    Acts lib (Reached operation.id)
      (observeConverged operation resource action providerOperationId providerId presence) w := by
  unfold observeConverged
  split
  · rename_i state
    split
    · rename_i hconverged
      exact acts_finishLifecycle ⟨hdispatched, fun _ => hexecuted state rfl hconverged⟩
    · exact yields_pure ⟨hdispatched, fun h => by cases h⟩
  · exact yields_pure ⟨hdispatched, fun h => by cases h⟩

/-- What is known of an operation of an action for which a command has been sent. -/
structure Sent (id : Uuid) (action : LifecycleAction) (w : LifecycleWorld) : Prop where
  kind : HasKind id action.kind w
  dispatched : Dispatched id w

theorem Sent.grows {w' : LifecycleWorld} (h : Sent id action w) (hgrows : Grows w w') :
    Sent id action w' :=
  ⟨h.kind.grows hgrows, h.dispatched.grows hgrows⟩

/-- **The server is looked at** while the outcome is unknown. -/
theorem acts_observeInstance {ε : Type} (h : Sent id action w) :
    Acts lib
      (fun (presence : Except ProviderError InstanceState) w' => Dispatched id w' ∧
        ∀ state, presence = .ok state → action.convergedAt state = true → Executed id w')
      (ExceptT.lift (perform (LifecycleCall.observeInstance id providerId)) : ExceptT ε _ _) w := by
  refine acts_call ?_
  intro w' x hgrows _ hguard
  obtain ⟨⟨row, hget, hkind⟩, hdispatched⟩ := h.grows hgrows
  refine ⟨trivial, hdispatched, ?_⟩
  intro state hstate hconverged
  have hparse : action ∈ LifecycleAction.parse row.kind := by
    rw [hkind, LifecycleAction.parse_kind]
    rfl
  exact hguard.2 row hget action hparse state hstate hconverged

theorem acts_observeProviderOperation
    (hdelete : action ≠ .delete) (hsent : Sent operation.id action w)
    (hexecuted : answer.state = .succeeded → Executed operation.id w) :
    Acts lib (Reached operation.id)
      (observeProviderOperation lib maxAttempts operation resource action providerOperationId
        providerId presence answer) w := by
  have hdispatched := hsent.dispatched
  unfold observeProviderOperation
  split
  · rename_i hstate
    exact acts_finishLifecycle ⟨hdispatched, fun _ => hexecuted hstate⟩
  · rw [if_pos hdelete]
    refine Yields.bind (acts_observeInstance hsent) ?_
    rintro observed w' ⟨hdispatched', hexecuted'⟩
    refine Yields.bind
      (P := fun state w'' => w'' = w' ∧ observed = .ok state)
      (acts_orProvider (fun state h => ⟨rfl, h⟩)) ?_
    rintro state w'' ⟨rfl, hobserved⟩
    refine acts_observeConverged hdispatched' ?_
    rintro state' hstate' hconverged
    cases hstate'
    exact hexecuted' state hobserved hconverged
  · exact acts_retryOrFail _ hdispatched
  · rw [if_neg (fun h => hdelete h.1)]
    exact acts_updateOperation ⟨hdispatched, fun h => by cases h⟩
  · rw [if_neg (fun h => hdelete h.1)]
    exact acts_updateOperation ⟨hdispatched, fun h => by cases h⟩
  · exact acts_updateOperation ⟨hdispatched, fun h => by cases h⟩

theorem acts_observeLifecycle {providerOperationId : String}
    (hdelete : action ≠ .delete) (hsent : Sent operation.id action w) :
    Acts lib (Reached operation.id)
      (observeLifecycle lib maxAttempts operation resource action providerOperationId) w := by
  have hstable : ∀ w w', Sent operation.id action w → Grows w w' → Sent operation.id action w' :=
    fun _ _ h hgrows => h.grows hgrows
  refine Yields.bind
    (acts_orInvalid (P := fun _ w' => Sent operation.id action w') (fun _ _ => hsent)) ?_
  intro providerId w₁ h₁
  refine Yields.bind (acts_permitted hstable h₁ (fun _ _ => trivial)) ?_
  intro presence w₂ h₂
  rw [if_neg (fun h => hdelete h.1)]
  refine Yields.bind
    (acts_orInvalid (P := fun _ w' => Sent operation.id action w') (fun _ _ => h₂)) ?_
  intro id w₃ h₃
  refine Yields.bind
    (P := fun (reply : Except ProviderError ProviderOperation) w' => Sent operation.id action w' ∧
      ∀ answer, reply = .ok answer → answer.state = .succeeded →
        Executed answer.o3kOperationId w')
    (acts_call (fun w' x hgrows _ hguard => ⟨trivial, h₃.grows hgrows, hguard.1⟩)) ?_
  rintro reply w₄ ⟨h₄, hhonest⟩
  refine Yields.bind
    (P := fun answer w' => w' = w₄ ∧ reply = .ok answer)
    (acts_orProvider (fun _ h => ⟨rfl, h⟩)) ?_
  rintro answer w₅ ⟨rfl, hreply⟩
  refine Yields.bind
    (P := fun _ w' => w' = w₅ ∧
      validateLifecycleProviderOperationOwner lib operation.id action answer = .ok ())
    (yields_mk_pure (fun _ h => ⟨rfl, h⟩)) ?_
  rintro _ w₆ ⟨rfl, howner⟩
  refine acts_observeProviderOperation hdelete h₄ ?_
  intro hstate
  have := hhonest answer hreply hstate
  rwa [owner_eq hdelete howner] at this

theorem acts_observeLifecyclePresence
    (hdelete : action ≠ .delete) (hsent : Sent operation.id action w) :
    Acts lib (Reached operation.id)
      (observeLifecyclePresence lib maxAttempts operation resource action) w := by
  refine Yields.bind
    (acts_orInvalid (P := fun _ w' => Sent operation.id action w') (fun _ _ => hsent)) ?_
  intro providerId w₁ h₁
  refine Yields.bind (acts_observeInstance h₁) ?_
  rintro presence w₂ ⟨hdispatched, hexecuted⟩
  rw [if_neg hdelete]
  exact acts_observeConverged hdispatched hexecuted

/-- **The command is sent**. -/
theorem acts_dispatch {ε : Type} (h : HasKind operation.id action.kind w) :
    Acts lib
      (fun (result : Except ProviderError ProviderOperation) w' => Dispatched operation.id w' ∧
        ∀ answer, result = .ok answer → answer.state = .succeeded →
          Executed answer.o3kOperationId w')
      (ExceptT.lift (perform
        (LifecycleCall.dispatch (lifecycleDispatch operation.id action providerId))) :
        ExceptT ε _ _) w := by
  refine acts_call ?_
  intro w' x hgrows _ hguard
  refine ⟨fun _ => h.grows hgrows, ⟨_, List.mem_cons_self, rfl⟩, ?_⟩
  intro answer hanswer hstate
  rcases hguard.1 answer hanswer hstate with ⟨hexecutes, howner⟩ | hexecuted
  · refine ⟨lifecycleDispatch operation.id action providerId, ?_, howner.symm⟩
    simp [execLifecycle, LifecycleWorld.dispatched, hexecutes]
  · exact hexecuted.grows (grows_dispatched _ _)

theorem acts_dispatchLifecycle
    (hdelete : action ≠ .delete) (hkind : HasKind operation.id action.kind w) :
    Acts lib (Reached operation.id)
      (dispatchLifecycle lib maxAttempts operation resource action) w := by
  have hstable : ∀ w w', HasKind operation.id action.kind w → Grows w w' →
      HasKind operation.id action.kind w' :=
    fun _ _ h hgrows => h.grows hgrows
  refine Yields.bind
    (acts_orInvalid (P := fun _ w' => HasKind operation.id action.kind w') (fun _ _ => hkind)) ?_
  intro providerId w₁ h₁
  have hrunning : Acts lib (fun _ w' => HasKind operation.id action.kind w')
      (updateOperation operation.id .running operation.providerOperationId none none) w₁ := by
    refine Yields.bind (acts_permitted hstable h₁ ?_) ?_
    · exact fun _ _ _ => ⟨fun _ hne => absurd rfl hne, fun h => by cases h⟩
    · intro r w' h'
      refine Yields.bind
        (acts_orStore (P := fun _ w' => HasKind operation.id action.kind w') (fun _ _ => h')) ?_
      exact fun _ w' h' => yields_pure h'
  refine Yields.bind hrunning ?_
  intro _ w₂ h₂
  refine Yields.bind (acts_dispatch h₂) ?_
  rintro result w₃ ⟨hdispatched, hexecuted⟩
  exact acts_handleLifecycleResult hdelete hdispatched hexecuted

theorem acts_reconcileAction (hsound : ActionsSound lib w) (haction : IsActionId lib operation.id)
    (hget : w.tables.operations.get? operation.id = some operation) :
    Acts lib (Reached operation.id) (reconcileOperation lib maxAttempts operation) w := by
  have hmem := Table.mem_of_get? _ hget
  have hmay := hsound.states operation hmem haction
  obtain ⟨instanceAction, hinstance⟩ := hsound.kinds operation hmem haction
  have hkind : HasKind operation.id instanceAction.lifecycle.kind w := ⟨operation, hget, hinstance⟩
  have hdelete : instanceAction.lifecycle ≠ .delete := by
    cases instanceAction <;> decide
  have hreached :
      ∀ state, operation.state = state → state ≠ .pending → state ≠ .running →
        Reached operation.id state w := by
    rintro state rfl hpending hrunning
    exact ⟨hmay.dispatched hpending hrunning, hmay.executed⟩
  unfold reconcileOperation
  split
  · rename_i hterminal
    refine yields_pure (hreached _ rfl ?_ ?_)
    · exact fun h => by rw [h] at hterminal; cases hterminal
    · exact fun h => by rw [h] at hterminal; cases hterminal
  · rw [hinstance, LifecycleAction.parse_kind]
    have hstable :
        ∀ w w', (HasKind operation.id instanceAction.lifecycle.kind w ∧
            (operation.state = .unknownOutcome → Dispatched operation.id w)) → Grows w w' →
          HasKind operation.id instanceAction.lifecycle.kind w' ∧
            (operation.state = .unknownOutcome → Dispatched operation.id w') :=
      fun _ _ h hgrows => ⟨h.1.grows hgrows, fun hstate => (h.2 hstate).grows hgrows⟩
    refine Yields.bind (yields_pure (P := fun a w' => a = instanceAction.lifecycle ∧
      w' = w) ⟨rfl, rfl⟩) ?_
    rintro _ _ ⟨rfl, rfl⟩
    refine Yields.bind (acts_permitted hstable
      ⟨hkind, fun hstate => (hreached _ hstate (by decide) (by decide)).dispatched⟩
      (fun _ _ => trivial)) ?_
    intro r w₁ h₁
    refine Yields.bind (P := fun _ w' => w' = w₁) (acts_orStore (fun _ _ => rfl)) ?_
    rintro resource _ rfl
    unfold advanceLifecycle
    split
    · rename_i hstate
      split
      · exact acts_observeLifecyclePresence hdelete ⟨h₁.1, h₁.2 hstate⟩
      · exact acts_observeLifecycle hdelete ⟨h₁.1, h₁.2 hstate⟩
    · exact acts_dispatchLifecycle hdelete h₁.1

end Programs

end Lifecycle
end O3k
