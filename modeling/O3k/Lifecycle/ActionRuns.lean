import O3k.Lifecycle.Progress

/-!
# An action is executed as asked

Runs of any number of actions, deletions, reconciliations and sweeps.  An
operation is named after the state that its action leads to, so that two actions
may share one; where each action begins an operation of its own, an action
returns success only when a command of its kind has been executed for it.
-/

namespace O3k
namespace Lifecycle

open Relational Relational.Transaction Operations Semantics
open Journal (ServerState InstanceState serverStateToStorage)
open Program (Yields yields_mk_pure yields_pure yields_throw)

variable {lib : LifecycleLibrary} {maxAttempts : Nat}

section Names

variable (hinjective : Function.Injective lib.newV5)

include hinjective

theorem not_isActionId_redrive (id : Uuid) :
    ¬ IsActionId lib (deleteRedriveOperationId lib id) := by
  rintro ⟨projectId, server, target, generation, h⟩
  have hlists := congrArg String.toList (hinjective h)
  simp [toString] at hlists

theorem not_isActionId_delete (projectId : String) (id : Uuid) (generation : Int) :
    ¬ IsActionId lib (deleteOperationId lib projectId id generation) := by
  rintro ⟨projectId', server, target, generation', h⟩
  have hlists := congrArg String.toList (hinjective h)
  simp [toString] at hlists

end Names

section Harmless

variable {ε α β : Type}

def Harmless (lib : LifecycleLibrary) (p : ExceptT ε (Program LifecycleCall LifecycleReply) α) :
    Prop :=
  ∀ w, Acts lib (fun _ _ => True) p w

variable {p : ExceptT ε (Program LifecycleCall LifecycleReply) α}

theorem harmless_bind {f : α → ExceptT ε (Program LifecycleCall LifecycleReply) β}
    (hp : Harmless lib p) (hf : ∀ a, Harmless lib (f a)) :
    Harmless lib (p >>= f) :=
  fun w => Yields.bind (hp w) (fun a w' _ => hf a w')

theorem harmless_pure (a : α) :
    Harmless lib (pure a : ExceptT ε (Program LifecycleCall LifecycleReply) α) :=
  fun _ => yields_pure trivial

theorem harmless_throw (e : ε) :
    Harmless lib (throw e : ExceptT ε (Program LifecycleCall LifecycleReply) α) :=
  fun w => yields_throw e w

theorem harmless_call {c : LifecycleCall} (h : ∀ w, Permitted lib c w) :
    Harmless lib (ComputeM.call c) :=
  fun _ => acts_permitted (J := fun _ => True) (fun _ _ _ _ => trivial) trivial (fun w' _ => h w')

theorem harmless_given (x : Except ComputeError α) : Harmless lib (ComputeM.given x) :=
  fun _ => yields_mk_pure (fun _ _ => trivial)

theorem harmless_orStore (x : Except StoreError α) : Harmless lib (ComputeM.orStore x) := by
  cases x with
  | error e => exact harmless_throw _
  | ok a => exact harmless_pure a

theorem harmless_orMissing (missing : StoreError) (error : ComputeError) (x : Except StoreError α) :
    Harmless lib (ComputeM.orMissing missing error x) := by
  cases x with
  | error e => exact harmless_throw _
  | ok a => exact harmless_pure a

theorem harmless_okOr (error : ComputeError) (x : Option α) :
    Harmless lib (ComputeM.okOr error x) := by
  cases x with
  | none => exact harmless_throw _
  | some a => exact harmless_pure a

theorem harmless_orMetering (x : Except String Unit) : Harmless lib (ComputeM.orMetering x) := by
  cases x with
  | error e => exact harmless_throw _
  | ok a => exact harmless_pure a

theorem harmless_ignored {c : LifecycleCall} (h : ∀ w, Permitted lib c w) :
    Harmless lib (ComputeM.ignored c) :=
  harmless_bind (harmless_call h) (fun _ => harmless_pure ())

theorem harmless_of_calls (h : p.run.Calls (fun c => ∀ w, Permitted lib c w)) : Harmless lib p := by
  intro w
  refine Program.yields_of_calls (J := fun _ => True) (fun _ _ _ _ => trivial) ?_ trivial
  exact h.mono (fun c hc w' x hsound _ _ => ⟨hc w', (hsound.exec (hc w')).1, trivial⟩)

end Harmless

section Reconciliations

variable (hinjective : Function.Injective lib.newV5)

include hinjective

theorem permitted_reconcileCall {operation : OperationRecord} {action : LifecycleAction}
    (hother : ¬ IsActionId lib operation.id) {c : LifecycleCall}
    (hc : ReconcileCall lib operation action c) (w : LifecycleWorld) :
    Permitted lib c w := by
  cases hc with
  | updateOperation => exact fun haction => absurd haction hother
  | terminalize terminalization hid => exact fun haction => absurd (hid ▸ haction) hother
  | dispatch => exact fun haction => absurd haction hother
  | insertRedrive => exact fun haction => absurd haction (not_isActionId_redrive hinjective _)
  | redrive => exact fun haction => absurd haction (not_isActionId_redrive hinjective _)
  | getResource | incrementRetry | getInstance | probeInstance | observeInstance
  | getProviderOperation | projectMetering => trivial

theorem acts_reconcileLifecycleOnce (id : Uuid) (w : LifecycleWorld) :
    Acts lib (fun state w' => IsActionId lib id → Reached id state w')
      (reconcileLifecycleOnce lib maxAttempts id) w := by
  refine Yields.bind
    (P := fun (reply : Except StoreError OperationRecord) w' => ActionsSound lib w' ∧
      ∀ operation, reply = .ok operation → w'.tables.operations.get? id = some operation)
    (acts_call ?_) ?_
  · intro w' x _ hsound _
    refine ⟨trivial, hsound, ?_⟩
    intro operation hreply
    simp only [execLifecycle, LifecycleAnswer.read] at hreply
    split at hreply
    · cases hreply
    · cases hget : w'.tables.operations.get? id with
      | none => rw [hget] at hreply; cases hreply
      | some row => rw [hget] at hreply; cases hreply; exact hget
  · rintro reply w₁ ⟨hsound, hread⟩
    refine Yields.bind
      (P := fun operation w' => w' = w₁ ∧ w₁.tables.operations.get? id = some operation)
      (acts_orStore (fun operation h => ⟨rfl, hread operation h⟩)) ?_
    rintro operation _ ⟨rfl, hget⟩
    have hid : operation.id = id := Table.key_of_get? _ hget
    by_cases haction : IsActionId lib id
    · subst hid
      exact (acts_reconcileAction hsound haction hget).mono (fun _ _ h _ => h)
    · have hharmless : Harmless lib (reconcileOperation lib maxAttempts operation) := by
        refine harmless_of_calls (calls_reconcileOperation.mono ?_)
        rintro c ⟨_, action, _, hc⟩
        exact permitted_reconcileCall hinjective (hid ▸ haction) hc
      exact (hharmless _).mono (fun _ _ _ h => absurd h haction)

theorem acts_pass (id : Uuid) (w : LifecycleWorld) :
    Acts lib
      (fun result w' => ∀ state, result = .ok state → IsActionId lib id → Reached id state w')
      (ExceptT.lift (reconcileLifecycleOnce lib maxAttempts id).run : ComputeM _) w := by
  refine Program.Survives.bind (acts_reconcileLifecycleOnce hinjective id w) ?_
  intro result w' h
  exact fun _ hresult state hstate haction => by
    cases hresult
    exact h state hstate haction

omit hinjective in
theorem reached_of_pass {id : Uuid} {w : LifecycleWorld}
    {result : Except ReconcileError OperationState}
    (h : ∀ state, result = .ok state → Reached id state w)
    {last : Option ReconcileError} {state : OperationState}
    (hends :
      passEnds result = some (.ok state) ∨
        (passEnds result).getD (deadlineReached (passError last result)) = .ok state) :
    Reached id state w := by
  cases result with
  | error e => cases e <;> cases hends <;> rename_i hend <;> cases hend
  | ok reached =>
    have hreached := h reached rfl
    have hrunning : Reached id .running w := ⟨hreached.dispatched, fun h => by cases h⟩
    cases reached with
    | succeeded | failed => cases hends <;> rename_i hend <;> cases hend <;> exact hreached
    | pending | running | retryable | unknownOutcome =>
      rcases hends with hend | hend
      · cases hend
      · cases last with
        | none => cases hend; exact hrunning
        | some e => cases hend

theorem acts_reconcileLifecycleUntilTerminal
    (id : Uuid) (passes : Nat) (last : Option ReconcileError) (w : LifecycleWorld) :
    Acts lib (fun state w' => IsActionId lib id → Reached id state w')
      (reconcileLifecycleUntilTerminal lib maxAttempts id passes last) w := by
  induction passes generalizing last w with
  | zero =>
    refine Yields.bind (acts_pass hinjective id w) ?_
    intro result w' h
    refine yields_mk_pure (fun state hstate haction => ?_)
    exact reached_of_pass (fun state' h' => h state' h' haction) (Or.inr hstate)
  | succ passes ih =>
    refine Yields.bind (acts_pass hinjective id w) ?_
    intro result w' h
    cases hends : passEnds result with
    | none => exact ih _ w'
    | some ended =>
      refine yields_mk_pure (fun state hstate haction => ?_)
      rw [hstate] at hends
      exact @reached_of_pass id w' result (fun state' h' => h state' h' haction) none state
        (Or.inl hends)

end Reconciliations

section Requests

/-- What an action has come to that has begun an operation. -/
structure ActionReceipt.Served
    (lib : LifecycleLibrary) (receipt : ActionReceipt) (w : LifecycleWorld) :
    Prop where
  action : IsActionId lib receipt.operationId
  kind : HasKind receipt.operationId receipt.action.lifecycle.kind w
  reached : Reached receipt.operationId receipt.state w
  result : receipt.result = .ok () → receipt.state = .succeeded

theorem ActionReceipt.Served.grows {receipt : ActionReceipt} {w w' : LifecycleWorld}
    (h : receipt.Served lib w) (hgrows : Grows w w') :
    receipt.Served lib w' :=
  ⟨h.action, h.kind.grows hgrows, h.reached.grows hgrows, h.result⟩

/-- **An action begins its operation**: within the guard the row is its own. -/
theorem acts_beginLifecycle {id operationId : Uuid} (action : InstanceAction) (w : LifecycleWorld) :
    Acts lib (fun _ w' => HasKind operationId action.lifecycle.kind w')
      (beginLifecycle operationId id action.lifecycle) w := by
  have hdelete : LifecycleAction.parse (action.lifecycle.kind) ≠ some .delete := by
    cases action <;> decide
  refine Yields.bind
    (P := fun (reply : Except StoreError Unit) w' =>
      (reply = .ok () → HasKind operationId action.lifecycle.kind w') ∧
        reply ≠ .error .resourceAlreadyExists)
    (acts_call ?_) ?_
  · intro w' x _ _ hguard
    have habsent : w'.tables.operations.get? operationId = none := hguard.2 hdelete
    have hinsert := @insertOperation_of_absent (lifecycleOperation operationId id action.lifecycle)
      .resourceAlreadyExists _ habsent
    refine ⟨fun _ => ⟨rfl, action, rfl⟩, ?_⟩
    simp only [execLifecycle, LifecycleAnswer.settle]
    split
    · rcases hinsert with hput | ⟨e, herror⟩
      · rw [hput]
        have hself := Table.get?_put_self w'.tables.operations
          (lifecycleOperation operationId id action.lifecycle)
        exact ⟨fun _ => ⟨_, hself, rfl⟩, fun h => (by cases h)⟩
      · rw [herror]
        exact ⟨fun h => (by cases h), fun h => (by cases h)⟩
    · exact ⟨fun h => (by cases h), fun h => (by cases h)⟩
    · exact ⟨fun h => (by cases h), fun h => (by cases h)⟩
  · rintro reply w' ⟨hinserted, hnew⟩
    split
    · exact yields_pure (hinserted rfl)
    · exact absurd rfl hnew
    · exact yields_throw _ w'

variable (hinjective : Function.Injective lib.newV5)

include hinjective

theorem acts_performAction {id operationId : Uuid} (haction : IsActionId lib operationId)
    (action : InstanceAction) (passes : Nat) (w : LifecycleWorld) :
    Acts lib (ActionReceipt.Served lib)
      (performAction lib maxAttempts id action operationId passes) w := by
  refine Yields.bind (acts_beginLifecycle action w) ?_
  intro _ w₁ h₁
  refine Yields.bind (Yields.frame
    (J := HasKind operationId action.lifecycle.kind) (fun _ _ h hgrows => h.grows hgrows) ?_
    (acts_reconcileLifecycleUntilTerminal hinjective operationId passes none w₁) h₁) ?_
  · exact fun c x w' hsound _ hpermitted h => h.grows (hsound.exec hpermitted).2
  · rintro state w₂ ⟨hreached, hkind⟩
    have hserved : ∀ result : Except ComputeError Unit, (result = .ok () → state = .succeeded) →
        ActionReceipt.Served lib ⟨action, operationId, state, result⟩ w₂ :=
      fun result hresult => ⟨haction, hkind, hreached haction, hresult⟩
    refine Yields.bind
      (P := fun result w' => ActionReceipt.Served lib ⟨action, operationId, state, result⟩ w') ?_ ?_
    · unfold answerAction
      split
      · exact yields_pure (hserved _ (fun h => by cases h))
      · rename_i hstate
        refine acts_call (fun w' x hgrows _ _ => ⟨trivial, ?_⟩)
        exact (hserved x.served (fun _ => not_not.mp hstate)).grows hgrows
    · exact fun result w' h => yields_pure h

variable (projectId : String)

theorem acts_action
    (id : Uuid) (instanceAction : InstanceAction) (passes : Nat) (w : LifecycleWorld) :
    Acts lib (ActionReceipt.Served lib)
      (action lib maxAttempts projectId id instanceAction passes) w := by
  refine Yields.bind (harmless_call (c := .getResource id) (fun _ => trivial) w) ?_
  intro reply w₁ _
  refine Yields.bind (harmless_orMissing _ _ reply w₁) ?_
  intro resource w₂ _
  unfold actionOn
  split
  · exact yields_throw _ w₂
  · split
    · exact yields_throw _ w₂
    · refine Yields.bind (harmless_okOr _ _ w₂) ?_
      intro current w₃ _
      refine Yields.bind (harmless_okOr _ _ w₃) ?_
      intro target w₄ _
      exact acts_performAction hinjective ⟨_, _, _, _, rfl⟩ instanceAction passes w₄

theorem harmless_reconcileLifecycleUntilTerminal (id : Uuid) (passes : Nat) :
    Harmless lib (reconcileLifecycleUntilTerminal lib maxAttempts id passes none) :=
  fun w => (acts_reconcileLifecycleUntilTerminal hinjective id passes none w).mono
    (fun _ _ _ => trivial)

omit hinjective in
theorem harmless_cleanup
    (step : CleanupStep) {f : Unit → ComputeM OperationState} (hf : ∀ u, Harmless lib (f u)) :
    Harmless lib (ComputeM.call (.cleanup step) >>= fun reply => ComputeM.given reply >>= f) :=
  harmless_bind (harmless_call (fun _ => trivial))
    (fun reply => harmless_bind (harmless_given reply) hf)

omit hinjective in
theorem harmless_cleanUpDeleted : Harmless lib cleanUpDeleted := by
  refine harmless_bind (harmless_call (fun _ => trivial)) (fun reply => ?_)
  refine harmless_bind (harmless_given reply) (fun _ => ?_)
  refine harmless_bind (harmless_call (fun _ => trivial)) (fun reply => ?_)
  refine harmless_bind (harmless_given reply) (fun _ => ?_)
  refine harmless_bind (harmless_call (fun _ => trivial)) (fun reply => ?_)
  refine harmless_bind (harmless_given reply) (fun _ => ?_)
  exact harmless_ignored (fun _ => trivial)

omit hinjective in
theorem harmless_finishDeleted (resource : ResourceRecord) :
    Harmless lib (finishDeleted lib resource none) := by
  refine harmless_bind (harmless_okOr _ _) (fun _ => ?_)
  refine harmless_cleanup _ (fun _ => ?_)
  refine harmless_cleanup _ (fun _ => ?_)
  refine harmless_cleanup _ (fun _ => ?_)
  refine harmless_cleanup _ (fun _ => ?_)
  exact harmless_bind (harmless_ignored (fun _ => trivial)) (fun _ => harmless_pure _)

theorem acts_beginDeletion (id : Uuid) (resource : ResourceRecord) (w : LifecycleWorld) :
    Acts lib (fun operationId _ => ¬ IsActionId lib operationId)
      (beginDeletion lib projectId id resource none) w := by
  have hother := not_isActionId_delete hinjective projectId id resource.generation
  have hbegin : Harmless lib
      (beginLifecycle (deleteOperationId lib projectId id resource.generation) id .delete) := by
    refine harmless_bind (harmless_call (fun _ haction => absurd haction hother)) (fun reply => ?_)
    split
    · exact harmless_pure _
    · exact harmless_pure _
    · exact harmless_throw _
  exact Yields.bind (hbegin w) (fun _ _ _ => yields_pure hother)

theorem harmless_deleteLocally (id : Uuid) (resource : ResourceRecord) :
    Harmless lib (deleteLocally lib projectId id resource none) := by
  refine harmless_bind (harmless_okOr _ _) (fun intent => ?_)
  refine harmless_bind (harmless_call (fun _ => trivial)) (fun reply => ?_)
  refine harmless_bind (harmless_orMissing _ _ _) (fun create => ?_)
  split
  · exact harmless_throw _
  · intro w
    refine Yields.bind (acts_beginDeletion hinjective projectId id resource w) ?_
    intro operationId w' hother
    revert w'
    refine harmless_bind (harmless_call (fun _ => trivial)) (fun reply => ?_)
    refine harmless_bind (harmless_orMetering _) (fun _ => ?_)
    refine harmless_bind (harmless_call (fun _ haction => absurd haction hother)) (fun reply => ?_)
    refine harmless_bind (harmless_orStore _) (fun _ => ?_)
    refine harmless_bind harmless_cleanUpDeleted (fun _ => ?_)
    exact harmless_bind (harmless_ignored (fun _ haction => absurd haction hother))
      (fun _ => harmless_pure _)

theorem harmless_deleteAtProvider (id : Uuid) (resource : ResourceRecord) (passes : Nat) :
    Harmless lib (deleteAtProvider lib maxAttempts projectId id resource none passes) := by
  intro w
  refine Yields.bind (acts_beginDeletion hinjective projectId id resource w) ?_
  intro operationId w' _
  refine harmless_bind
    (harmless_reconcileLifecycleUntilTerminal hinjective operationId passes) (fun state => ?_) w'
  split
  · exact harmless_pure _
  · refine harmless_bind (harmless_okOr _ _) (fun _ => ?_)
    exact harmless_bind harmless_cleanUpDeleted (fun _ => harmless_pure _)

/-- **A deletion** leaves the operations of actions alone. -/
theorem harmless_deleteServer (id : Uuid) (passes : Nat) :
    Harmless lib (deleteServer lib maxAttempts projectId id passes) := by
  have hdelete : Harmless lib
      (deleteServerWithAcceptedOperation lib maxAttempts projectId id none passes) := by
    refine harmless_bind (harmless_call (fun _ => trivial)) (fun reply => ?_)
    refine harmless_bind (harmless_orMissing _ _ _) (fun resource => ?_)
    unfold deleteOn
    split
    · exact harmless_throw _
    · refine harmless_bind (harmless_orStore _) (fun observed => ?_)
      split
      · exact harmless_finishDeleted resource
      · split
        · exact harmless_deleteLocally hinjective projectId id resource
        · exact harmless_deleteAtProvider hinjective projectId id resource passes
  refine harmless_bind hdelete (fun state => ?_)
  split
  · exact harmless_throw _
  · exact harmless_pure _

end Requests

end Lifecycle
end O3k
