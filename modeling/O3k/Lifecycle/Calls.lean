import O3k.Lifecycle.Reconciler

/-!
# The calls of a reconciliation

Whatever the store and the provider answer, reconciling an operation writes its
row and no other, sends its command or the command that redrives it, and
inserts the row of the latter.
-/

namespace O3k
namespace Lifecycle

open Relational Operations Semantics LifecycleM
open Journal (InstanceState)
open Program (calls_run_bind)

/-- The calls that are made on behalf of an operation. -/
inductive ReconcileCall
    (lib : LifecycleLibrary) (operation : OperationRecord) (action : LifecycleAction) :
    LifecycleCall → Prop
  | getResource :
      ReconcileCall lib operation action (.getResource operation.resourceId)
  | updateOperation
      (state : OperationState) (providerOperationId errorCategory errorMessage : Option String) :
      ReconcileCall lib operation action
        (.updateOperation operation.id state providerOperationId errorCategory errorMessage)
  | terminalize (terminalization : LifecycleTerminalization)
      (hid : terminalization.operationId = operation.id) :
      ReconcileCall lib operation action (.terminalize terminalization)
  | incrementRetry :
      ReconcileCall lib operation action (.incrementRetry operation.id)
  | dispatch (providerId : String) :
      ReconcileCall lib operation action
        (.dispatch (lifecycleDispatch operation.id action providerId))
  | insertRedrive (hdelete : action = .delete) :
      ReconcileCall lib operation action
        (.insertOperation
          (lifecycleOperation (deleteRedriveOperationId lib operation.id) operation.resourceId
            .delete))
  | redrive (providerId : String) (hdelete : action = .delete) :
      ReconcileCall lib operation action (.dispatch (redriveDispatch lib operation.id providerId))
  | getInstance (providerId : String) :
      ReconcileCall lib operation action (.getInstance providerId)
  | probeInstance (providerId : String) :
      ReconcileCall lib operation action (.probeInstance providerId)
  | observeInstance (providerId : String) :
      ReconcileCall lib operation action (.observeInstance operation.id providerId)
  | getProviderOperation (id : Uuid) :
      ReconcileCall lib operation action (.getProviderOperation id)
  | projectMetering (resourceId : Uuid) (observedState : String) :
      ReconcileCall lib operation action (.projectMetering resourceId observedState)

variable {lib : LifecycleLibrary} {maxAttempts : Nat} {K : LifecycleCall → Prop}

section Rules

variable {α : Type}

theorem calls_call {c : LifecycleCall} (h : K c) : (call c).run.Calls K :=
  ⟨h, fun _ => trivial⟩

theorem calls_orStore (x : Except StoreError α) : (orStore x).run.Calls K := by
  cases x <;> trivial

theorem calls_orProvider (x : Except ProviderError α) : (orProvider x).run.Calls K := by
  cases x <;> trivial

theorem calls_orInvalid (x : Option α) : (orInvalid x).run.Calls K := by
  cases x <;> trivial

theorem calls_orMetering (x : Except String Unit) : (orMetering x).run.Calls K := by
  cases x <;> trivial

theorem calls_tolerateExisting (x : Except StoreError Unit) : (tolerateExisting x).run.Calls K := by
  unfold tolerateExisting
  split
  · trivial
  · split <;> trivial

theorem calls_call_bind {c : LifecycleCall}
    (h : K c) (f : LifecycleReply c → LifecycleM α) (hf : ∀ r, (f r).run.Calls K) :
    (call c >>= f).run.Calls K :=
  calls_run_bind (calls_call h) hf

end Rules

section Programs

variable {operation : OperationRecord} {action : LifecycleAction} {resource : ResourceRecord}

theorem calls_updateOperation
    (state : OperationState) (providerOperationId errorCategory errorMessage : Option String) :
    (updateOperation operation.id state providerOperationId errorCategory errorMessage).run.Calls
      (ReconcileCall lib operation action) :=
  calls_call_bind (.updateOperation _ _ _ _) _
    (fun r => calls_run_bind (calls_orStore r) (fun _ => trivial))

variable (providerOperationId providerId : String)

theorem calls_finishLifecycle :
    (finishLifecycle operation.id resource action providerOperationId providerId).run.Calls
      (ReconcileCall lib operation action) := by
  refine calls_run_bind ?_ ?_
  · unfold finishedState
    split
    · trivial
    · exact calls_call_bind (.getInstance _) _
        (fun r => calls_run_bind (calls_orProvider r) (fun _ => trivial))
  · intro observedState
    refine calls_call_bind (.projectMetering _ _) _ (fun r => ?_)
    refine calls_run_bind (calls_orMetering r) (fun _ => ?_)
    refine calls_call_bind (.terminalize _ rfl) _ (fun r => ?_)
    exact calls_run_bind (calls_orStore r) (fun _ => trivial)

theorem calls_retryOrFail (error : ProviderError) :
    (retryOrFail maxAttempts operation.id error).run.Calls
      (ReconcileCall lib operation action) := by
  refine calls_call_bind .incrementRetry _ (fun r => ?_)
  refine calls_run_bind (calls_orStore r) (fun attempts => ?_)
  split
  · exact calls_updateOperation _ _ _ _
  · exact calls_updateOperation _ _ _ _

theorem calls_handleProviderOperation (providerId : String) (answer : ProviderOperation) :
    (handleProviderOperation lib maxAttempts operation resource action providerId answer).run.Calls
      (ReconcileCall lib operation action) := by
  unfold handleProviderOperation
  split
  · exact calls_finishLifecycle _ _
  · split <;> exact calls_updateOperation _ _ _ _
  · split <;> exact calls_updateOperation _ _ _ _
  · exact calls_updateOperation _ _ _ _
  · exact calls_retryOrFail _
  · exact calls_updateOperation _ _ _ _

theorem calls_handleLifecycleResult
    (providerId : String) (result : Except ProviderError ProviderOperation) :
    (handleLifecycleResult lib maxAttempts operation resource action providerId result).run.Calls
      (ReconcileCall lib operation action) := by
  unfold handleLifecycleResult
  split
  · refine calls_run_bind (p := given _) trivial (fun _ => ?_)
    exact calls_handleProviderOperation _ _
  · exact calls_updateOperation _ _ _ _
  · exact calls_retryOrFail _
  · exact calls_retryOrFail _
  · split
    · exact calls_finishLifecycle _ _
    · exact calls_updateOperation _ _ _ _

theorem calls_redriveDelete (hdelete : action = .delete) (providerId : String) :
    (redriveDelete lib maxAttempts operation resource providerId).run.Calls
      (ReconcileCall lib operation action) := by
  refine calls_call_bind (.insertRedrive hdelete) _ (fun r => ?_)
  refine calls_run_bind (calls_tolerateExisting r) (fun _ => ?_)
  refine calls_call_bind (.redrive _ hdelete) _ (fun result => ?_)
  subst hdelete
  exact calls_handleLifecycleResult _ _

theorem calls_observeConverged (presence : Except ProviderError InstanceState) :
    (observeConverged operation resource action providerOperationId providerId presence).run.Calls
      (ReconcileCall lib operation action) := by
  unfold observeConverged
  split
  · split
    · exact calls_finishLifecycle _ _
    · trivial
  · trivial

theorem calls_observeProviderOperation
    (presence : Except ProviderError InstanceState) (answer : ProviderOperation) :
    (observeProviderOperation lib maxAttempts operation resource action providerOperationId
      providerId presence answer).run.Calls (ReconcileCall lib operation action) := by
  unfold observeProviderOperation
  split
  · exact calls_finishLifecycle _ _
  · split
    · refine calls_call_bind (.observeInstance _) _ (fun r => ?_)
      exact calls_run_bind (calls_orProvider r) (fun _ => calls_observeConverged _ _ _)
    · rename_i hdelete
      split
      · exact calls_redriveDelete (not_not.mp hdelete) _
      · trivial
  · exact calls_retryOrFail _
  · split
    · rename_i h
      exact calls_redriveDelete h.1 _
    · exact calls_updateOperation _ _ _ _
  · split
    · rename_i h
      exact calls_redriveDelete h.1 _
    · exact calls_updateOperation _ _ _ _
  · exact calls_updateOperation _ _ _ _

theorem calls_observeLifecycle (providerOperationId : String) :
    (observeLifecycle lib maxAttempts operation resource action providerOperationId).run.Calls
      (ReconcileCall lib operation action) := by
  refine calls_run_bind (calls_orInvalid _) (fun providerId => ?_)
  refine calls_call_bind (.probeInstance _) _ (fun presence => ?_)
  split
  · exact calls_finishLifecycle _ _
  · refine calls_run_bind (calls_orInvalid _) (fun id => ?_)
    refine calls_call_bind (.getProviderOperation _) _ (fun r => ?_)
    refine calls_run_bind (calls_orProvider r) (fun answer => ?_)
    refine calls_run_bind (p := given _) trivial (fun _ => ?_)
    exact calls_observeProviderOperation _ _ _ _

theorem calls_observeLifecyclePresence :
    (observeLifecyclePresence lib maxAttempts operation resource action).run.Calls
      (ReconcileCall lib operation action) := by
  refine calls_run_bind (calls_orInvalid _) (fun providerId => ?_)
  refine calls_call_bind (.observeInstance _) _ (fun presence => ?_)
  split
  · rename_i hdelete
    subst hdelete
    unfold observeDeletePresence
    split
    · exact calls_finishLifecycle _ _
    · exact calls_redriveDelete rfl _
    · trivial
  · exact calls_observeConverged _ _ _

theorem calls_dispatchLifecycle :
    (dispatchLifecycle lib maxAttempts operation resource action).run.Calls
      (ReconcileCall lib operation action) := by
  refine calls_run_bind (calls_orInvalid _) (fun providerId => ?_)
  refine calls_run_bind (calls_updateOperation _ _ _ _) (fun _ => ?_)
  exact calls_call_bind (.dispatch _) _ (fun _ => calls_handleLifecycleResult _ _)

theorem calls_advanceLifecycle :
    (advanceLifecycle lib maxAttempts operation resource action).run.Calls
      (ReconcileCall lib operation action) := by
  unfold advanceLifecycle
  split
  · split
    · exact calls_observeLifecyclePresence
    · exact calls_observeLifecycle _
  · exact calls_dispatchLifecycle

/-- **The calls of a reconciliation**. -/
theorem calls_reconcileOperation :
    (reconcileOperation lib maxAttempts operation).run.Calls (fun c =>
      operation.state.isTerminal = false ∧
        ∃ action, LifecycleAction.parse operation.kind = some action ∧
          ReconcileCall lib operation action c) := by
  unfold reconcileOperation
  split
  · trivial
  · rename_i hopen
    cases haction : LifecycleAction.parse operation.kind with
    | none => trivial
    | some action =>
      have hcalls : (do
          let resource ← orStore (← call (.getResource operation.resourceId))
          advanceLifecycle lib maxAttempts operation resource action : LifecycleM _).run.Calls
            (ReconcileCall lib operation action) := by
        refine calls_call_bind .getResource _ (fun r => ?_)
        exact calls_run_bind (calls_orStore r) (fun _ => calls_advanceLifecycle)
      exact hcalls.mono (fun c hc => ⟨by simpa using hopen, action, rfl, hc⟩)

end Programs

end Lifecycle
end O3k
