import O3k.Lifecycle.Refusals

/-!
# A pass over an accepted operation

As long as nothing outside the store fails while the operation is open, a pass
ends with a state, which is terminal exactly if that of the row is, or with an
error of the store.  If something fails the pass throws, and the operation is
still open.
-/

namespace O3k
namespace Lifecycle

open Relational Relational.Transaction Operations Semantics LifecycleM
open Journal (ServerState InstanceState serverStateToStorage)
open Program (Outcome Reaches Separates Throws throws_call_bind throws_of_done)

variable {lib : LifecycleLibrary} {maxAttempts : Nat}
variable {operationId resourceId : Uuid} {action : LifecycleAction} {w : LifecycleWorld}

section Rules

variable {ε α β : Type} {P : α → LifecycleWorld → Prop} {E B : ε → LifecycleWorld → Prop}

/-- The program makes a call while the operation is terminal, or it ends as it
should where the world outside works, and otherwise throws. -/
abbrev Goes
    (lib : LifecycleLibrary) (operationId : Uuid) {ε α : Type} (P : α → LifecycleWorld → Prop)
    (E B : ε → LifecycleWorld → Prop) (p : ExceptT ε (Program LifecycleCall LifecycleReply) α)
    (w : LifecycleWorld) :
    Prop :=
  Throws (execLifecycle lib) (fun _ x _ => Typed lib x) (Works lib operationId)
    (Closed operationId) P E B p w

variable {c : LifecycleCall} {f : LifecycleReply c → ExceptT ε (Program LifecycleCall LifecycleReply) α}

theorem goes_call (hrow : Closed operationId w ∨ Open operationId w)
    (hserved :
      ∀ x, Typed lib x → Open operationId w → Provides lib operationId c x w →
        Goes lib operationId P E B (f (execLifecycle lib c x w).1) (execLifecycle lib c x w).2)
    (hfailed :
      ∀ x, Open operationId w → ¬ Provides lib operationId c x w →
        ∃ e, (f (execLifecycle lib c x w).1).run = .done (.error e) ∧
          B e (execLifecycle lib c x w).2) :
    Goes lib operationId P E B (ExceptT.lift (Program.perform c) >>= f) w := by
  refine throws_call_bind (hrow.imp_right (fun hopen x htyped => ⟨fun hworks => ?_, fun hworks => ?_⟩))
  · exact hserved x htyped hopen (hworks hopen)
  · exact hfailed x hopen (fun hprovides => hworks (fun _ => hprovides))

theorem goes_quiet (hquiet : ∀ x w, Provides lib operationId c x w)
    (h :
      ∀ x, Typed lib x →
        Goes lib operationId P E B (f (execLifecycle lib c x w).1) (execLifecycle lib c x w).2) :
    Goes lib operationId P E B (ExceptT.lift (Program.perform c) >>= f) w :=
  throws_call_bind (Or.inr (fun x htyped => ⟨fun _ => h x htyped,
    fun hworks => absurd (fun _ => hquiet x w) hworks⟩))

theorem goes_write
    (hquiet : ∀ x w, Provides lib operationId c x w) (hrow : Closed operationId w ∨ Open operationId w)
    (h :
      ∀ x, Open operationId w →
        Goes lib operationId P E B (f (execLifecycle lib c x w).1) (execLifecycle lib c x w).2) :
    Goes lib operationId P E B (ExceptT.lift (Program.perform c) >>= f) w :=
  goes_call hrow (fun x _ hopen _ => h x hopen) (fun x _ hfails => absurd (hquiet x w) hfails)

end Rules

section LifecycleRules

variable {α β : Type} {P : β → LifecycleWorld → Prop} {E B : ReconcileError → LifecycleWorld → Prop}
variable {g : α → LifecycleM β}

theorem goes_orStore {x : Except StoreError α}
    (hok : ∀ a, x = .ok a → Goes lib operationId P E B (g a) w)
    (herror : ∀ e, x = .error e → E (.store e) w) :
    Goes lib operationId P E B (orStore x >>= g) w := by
  cases x with
  | ok a => exact hok a rfl
  | error e => exact herror e rfl

theorem goes_orProvider {x : Except ProviderError α} (hx : x.isOk = true)
    (h : ∀ a, x = .ok a → Goes lib operationId P E B (g a) w) :
    Goes lib operationId P E B (orProvider x >>= g) w := by
  cases x with
  | ok a => exact h a rfl
  | error e => cases hx

theorem goes_orInvalid {x : Option α} {a : α} (hx : x = some a)
    (h : Goes lib operationId P E B (g a) w) :
    Goes lib operationId P E B (orInvalid x >>= g) w := by
  subst hx
  exact h

theorem thrown_orProvider {x : Except ProviderError α} (hx : ¬ x.isOk = true) :
    ∃ e, (orProvider x >>= g).run = .done (.error e) := by
  cases x with
  | ok a => exact absurd rfl hx
  | error e => exact ⟨_, rfl⟩

theorem thrown_given {x : Except ReconcileError α} {e : ReconcileError} (hx : x = .error e) :
    (given x >>= g).run = .done (.error e) := by
  subst hx
  rfl

end LifecycleRules

structure Passed (lib : LifecycleLibrary) (operationId resourceId : Uuid) (action : LifecycleAction)
    (state : OperationState) (w : LifecycleWorld) :
    Prop where
  driven : Driven lib operationId resourceId action w
  reports : Reports operationId state w

structure Failed (lib : LifecycleLibrary) (operationId resourceId : Uuid) (action : LifecycleAction)
    (e : ReconcileError) (w : LifecycleWorld) :
    Prop where
  driven : Driven lib operationId resourceId action w
  store : ∃ s, e = .store s

/-- What a pass leaves behind that something outside the store has ended. -/
structure Struck (lib : LifecycleLibrary) (operationId resourceId : Uuid) (action : LifecycleAction)
    (w : LifecycleWorld) :
    Prop where
  driven : Driven lib operationId resourceId action w
  isOpen : Open operationId w

abbrev Drives
    (lib : LifecycleLibrary) (operationId resourceId : Uuid) (action : LifecycleAction) {α : Type}
    (P : α → LifecycleWorld → Prop) (p : LifecycleM α) (w : LifecycleWorld) :
    Prop :=
  Goes lib operationId P (Failed lib operationId resourceId action)
    (fun _ => Struck lib operationId resourceId action) p w

abbrev Passes (lib : LifecycleLibrary) (operationId resourceId : Uuid) (action : LifecycleAction)
    (p : LifecycleM OperationState) (w : LifecycleWorld) :
    Prop :=
  Drives lib operationId resourceId action (Passed lib operationId resourceId action) p w

theorem passes_pure {state : OperationState}
    (h : Driven lib operationId resourceId action w) (hreports : Reports operationId state w) :
    Passes lib operationId resourceId action (pure state) w :=
  throws_of_done rfl ⟨h, hreports⟩

theorem passes_updateOperation (h : Driven lib operationId resourceId action w)
    {state : OperationState} {providerOperationId errorCategory errorMessage : Option String}
    (hprovider : ∀ id ∈ providerOperationId, (lib.parseUuid id).isSome = true) :
    Passes lib operationId resourceId action
      (updateOperation operationId state providerOperationId errorCategory errorMessage) w := by
  refine goes_write (fun _ _ => trivial) h.row.closed_or_open (fun x hopen => ?_)
  obtain ⟨hdriven, hreports⟩ := h.updateOperation (x := x) hopen x.now hprovider
  exact goes_orStore (fun _ hok => passes_pure hdriven (hreports hok)) (fun e _ => ⟨hdriven, e, rfl⟩)

theorem passes_retryOrFail
    (h : Driven lib operationId resourceId action w) (error : ProviderError) :
    Passes lib operationId resourceId action (retryOrFail maxAttempts operationId error) w := by
  refine goes_quiet (fun _ _ => trivial) (fun x _ => ?_)
  have hdriven : Driven lib operationId resourceId action
      (execLifecycle lib (.incrementRetry operationId) x w).2 := by
    have hretried : Driven lib operationId resourceId action (incrementRetry operationId w).2 :=
      h.congr (by simp [incrementRetry]) (by simp [incrementRetry])
    simp only [execLifecycle]
    split
    · exact hretried
    · exact hretried
    · exact h
  refine goes_orStore (fun attempts _ => ?_) (fun e _ => ⟨hdriven, e, rfl⟩)
  split
  · exact passes_updateOperation hdriven (fun id hid => by cases hid)
  · exact passes_updateOperation hdriven (fun id hid => by cases hid)

theorem passes_terminalize
    (h : Driven lib operationId resourceId action w) {terminalization : LifecycleTerminalization}
    (hoperation : terminalization.operationId = operationId)
    (hstate : terminalization.terminalState = .succeeded)
    (hresource : terminalization.resource.resourceId = resourceId)
    (hprovider : terminalization.resource.providerId.isSome = true) :
    Passes lib operationId resourceId action
      (call (.terminalize terminalization) >>= fun reply =>
        orStore reply >>= fun _ => pure .succeeded) w := by
  refine goes_write (fun _ _ => trivial) h.row.closed_or_open (fun x hopen => ?_)
  obtain ⟨hdriven, hreports⟩ :=
    h.terminalize (x := x) hopen x.now hoperation (by rw [hstate]; rfl) hresource hprovider
  rw [hstate] at hreports
  exact goes_orStore (fun _ hok => passes_pure hdriven (hreports hok)) (fun e _ => ⟨hdriven, e, rfl⟩)

theorem drives_finishedState (h : Driven lib operationId resourceId action w) (providerId : String) :
    Drives lib operationId resourceId action (fun _ w' => w = w')
      (finishedState action providerId) w := by
  unfold finishedState
  split
  · exact throws_of_done rfl rfl
  · refine goes_call h.row.closed_or_open (fun x _ _ hprovides => ?_) (fun x hopen hfails => ?_)
    · exact goes_orProvider hprovides (fun _ _ => throws_of_done rfl rfl)
    · obtain ⟨e, he⟩ := thrown_orProvider (x := x.observed) hfails
      exact ⟨e, he, h, hopen⟩

theorem passes_finishLifecycle
    (h : Driven lib operationId resourceId action w) {resource : ResourceRecord}
    (hresource : resource.id = resourceId) (providerOperationId providerId : String) :
    Passes lib operationId resourceId action
      (finishLifecycle operationId resource action providerOperationId providerId) w := by
  refine Throws.bind (drives_finishedState h providerId) ?_
  rintro observedState _ rfl
  refine goes_call h.row.closed_or_open (fun x _ _ hprovides => ?_) (fun x hopen hfails => ?_)
  · rw [show (execLifecycle lib (.projectMetering resource.id observedState) x w).1 = .ok () from
      hprovides]
    exact passes_terminalize h rfl rfl hresource rfl
  · cases hmetering : x.metering with
    | ok _ => exact absurd hmetering hfails
    | error e =>
      refine ⟨.metering e, ?_, h, hopen⟩
      simp only [execLifecycle, hmetering]
      rfl

section Answers

variable {operation : OperationRecord} {resource : ResourceRecord}

theorem some_parses {id : Uuid} (h : (lib.parseUuid id).isSome = true) :
    ∀ id' ∈ some id, (lib.parseUuid id').isSome = true := by
  intro id' hid'
  cases hid'
  exact h

variable {providerId : String}

theorem passes_handleProviderOperation
    (h : Driven lib operation.id resourceId action w) (hresource : resource.id = resourceId)
    {answer : ProviderOperation}
    (hanswer : (lib.parseUuid answer.providerOperationId).isSome = true) :
    Passes lib operation.id resourceId action
      (handleProviderOperation lib maxAttempts operation resource action providerId answer) w := by
  have hparses := some_parses hanswer
  unfold handleProviderOperation
  split
  · exact passes_finishLifecycle h hresource _ _
  · split <;> exact passes_updateOperation h hparses
  · split <;> exact passes_updateOperation h hparses
  · exact passes_updateOperation h hparses
  · exact passes_retryOrFail h _
  · exact passes_updateOperation h hparses

theorem passes_handleLifecycleResult
    (h : Driven lib operation.id resourceId action w) (hresource : resource.id = resourceId)
    {result : Except ProviderError ProviderOperation}
    (hparses :
      ∀ answer, result = .ok answer → (lib.parseUuid answer.providerOperationId).isSome = true)
    (hunknown : ∀ id, result = .error (.unknownOutcome id) → (lib.parseUuid id).isSome = true)
    (howner :
      ∀ answer, result = .ok answer →
        validateLifecycleProviderOperationOwner lib operation.id action answer = .ok ()) :
    Passes lib operation.id resourceId action
      (handleLifecycleResult lib maxAttempts operation resource action providerId result) w := by
  unfold handleLifecycleResult
  split
  · rename_i answer
    rw [howner answer rfl]
    exact passes_handleProviderOperation h hresource (hparses answer rfl)
  · rename_i id
    exact passes_updateOperation h (some_parses (hunknown id rfl))
  · exact passes_retryOrFail h _
  · exact passes_retryOrFail h _
  · split
    · exact passes_finishLifecycle h hresource _ _
    · exact passes_updateOperation h (fun id hid => by cases hid)

/-- **The command is sent** to the provider. -/
theorem passes_dispatchLifecycle (h : Driven lib operation.id resourceId action w)
    (hrow : w.tables.operations.get? operation.id = some operation)
    (hopen : operation.state.isTerminal = false) (hresource : resource.id = resourceId)
    (hat : resource.providerId = some providerId) :
    Passes lib operation.id resourceId action
      (dispatchLifecycle lib maxAttempts operation resource action) w := by
  refine goes_orInvalid hat ?_
  have hparses : ∀ id ∈ operation.providerOperationId, (lib.parseUuid id).isSome = true := by
    obtain ⟨row, hget, hof⟩ := h.row
    rw [hrow] at hget
    cases hget
    exact hof.provider hopen
  refine Throws.bind (passes_updateOperation h hparses) ?_
  intro _ w₁ h₁
  refine goes_call h₁.driven.row.closed_or_open (fun x htyped _ hprovides => ?_)
    (fun x hisOpen hfails => ?_)
  · have h₂ : Driven lib operation.id resourceId action
        (w₁.dispatched (lifecycleDispatch operation.id action providerId) x.executes) :=
      h₁.driven.congr rfl rfl
    exact passes_handleLifecycleResult h₂ hresource htyped.accepted htyped.unknown hprovides
  · obtain ⟨answer, hanswer, hother⟩ :
        ∃ answer, x.operation = .ok answer ∧
          validateLifecycleProviderOperationOwner lib operation.id action answer ≠ .ok () := by
      by_contra hall
      exact hfails (fun answer hanswer => by_contra (fun hne => hall ⟨answer, hanswer, hne⟩))
    cases howner : validateLifecycleProviderOperationOwner lib operation.id action answer with
    | ok _ => exact absurd howner hother
    | error e =>
      refine ⟨e, ?_, h₁.driven.congr rfl rfl, hisOpen⟩
      simp only [execLifecycle, hanswer, handleLifecycleResult, howner]
      rfl

variable {providerOperationId : String}

theorem passes_observeConverged
    (h : Driven lib operation.id resourceId action w) (hopen : Open operation.id w)
    (hresource : resource.id = resourceId) (presence : Except ProviderError InstanceState) :
    Passes lib operation.id resourceId action
      (observeConverged operation resource action providerOperationId providerId presence) w := by
  have hunknown : Reports operation.id .unknownOutcome w := by
    obtain ⟨row, hget, hstate⟩ := hopen
    exact ⟨row, hget, hstate⟩
  unfold observeConverged
  split
  · split
    · exact passes_finishLifecycle h hresource _ _
    · exact passes_pure h hunknown
  · exact passes_pure h hunknown

theorem passes_observeProviderOperation (h : Driven lib operation.id resourceId action w)
    (hrow : w.tables.operations.get? operation.id = some operation)
    (hresource : resource.id = resourceId) (hdelete : action ≠ .delete)
    (hprovider : operation.providerOperationId = some providerOperationId)
    (hparses : (lib.parseUuid providerOperationId).isSome = true)
    {presence : Except ProviderError InstanceState} {answer : ProviderOperation} :
    Passes lib operation.id resourceId action
      (observeProviderOperation lib maxAttempts operation resource action providerOperationId
        providerId presence answer) w := by
  unfold observeProviderOperation
  split
  · exact passes_finishLifecycle h hresource _ _
  · rw [if_pos hdelete]
    refine goes_call h.row.closed_or_open (fun x _ hopen hprovides => ?_) (fun x hopen hfails => ?_)
    · exact goes_orProvider (hprovides ⟨operation, hrow, by rw [hprovider]; rfl⟩)
        (fun _ _ => passes_observeConverged h hopen hresource _)
    · obtain ⟨e, he⟩ := thrown_orProvider (x := x.observed) (fun hok => hfails (fun _ => hok))
      exact ⟨e, he, h, hopen⟩
  · exact passes_retryOrFail h _
  · rw [if_neg (fun hredrive => hdelete hredrive.1)]
    exact passes_updateOperation h (some_parses hparses)
  · rw [if_neg (fun hredrive => hdelete hredrive.1)]
    exact passes_updateOperation h (some_parses hparses)
  · exact passes_updateOperation h (some_parses hparses)

theorem passes_observeLifecycle (h : Driven lib operation.id resourceId action w)
    (hrow : w.tables.operations.get? operation.id = some operation)
    (hopen : operation.state.isTerminal = false) (hresource : resource.id = resourceId)
    (hat : resource.providerId = some providerId) (hdelete : action ≠ .delete)
    (hprovider : operation.providerOperationId = some providerOperationId) :
    Passes lib operation.id resourceId action
      (observeLifecycle lib maxAttempts operation resource action providerOperationId) w := by
  have hparses : (lib.parseUuid providerOperationId).isSome = true := by
    obtain ⟨row, hget, hof⟩ := h.row
    rw [hrow] at hget
    cases hget
    exact hof.provider hopen _ hprovider
  refine goes_orInvalid hat ?_
  refine goes_quiet (fun _ _ => trivial) (fun x _ => ?_)
  rw [if_neg (fun habsent => hdelete habsent.1)]
  obtain ⟨id, hid⟩ := Option.isSome_iff_exists.mp hparses
  refine goes_orInvalid hid ?_
  refine goes_call h.row.closed_or_open (fun x' _ _ hprovides => ?_) (fun x' hisOpen hfails => ?_)
  · obtain ⟨answer, hanswer, howner⟩ := hprovides
    refine goes_orProvider (by simp only [execLifecycle, hanswer]; rfl) (fun answer' hanswer' => ?_)
    cases hanswer.symm.trans hanswer'
    rw [validateLifecycleProviderOperationOwner, if_pos howner]
    exact passes_observeProviderOperation h hrow hresource hdelete hprovider hparses
  · cases hanswer : x'.operation with
    | error e =>
      refine ⟨.provider e, ?_, h, hisOpen⟩
      simp only [execLifecycle, hanswer]
      rfl
    | ok answer =>
      refine ⟨.invalidIntent, ?_, h, hisOpen⟩
      have hother : answer.o3kOperationId ≠ operation.id := fun hsame =>
        hfails ⟨answer, hanswer, hsame⟩
      have howner : validateLifecycleProviderOperationOwner lib operation.id action answer =
          .error .invalidIntent := by
        simp [validateLifecycleProviderOperationOwner, hother, hdelete]
      simp only [execLifecycle, hanswer]
      exact thrown_given (g := fun _ => observeProviderOperation lib maxAttempts operation
        resource action providerOperationId providerId x.observed answer) howner

theorem passes_observeLifecyclePresence (h : Driven lib operation.id resourceId action w)
    (hrow : w.tables.operations.get? operation.id = some operation)
    (hresource : resource.id = resourceId) (hat : resource.providerId = some providerId)
    (hdelete : action ≠ .delete) (hprovider : operation.providerOperationId = none) :
    Passes lib operation.id resourceId action
      (observeLifecyclePresence lib maxAttempts operation resource action) w := by
  refine goes_orInvalid hat ?_
  refine goes_call h.row.closed_or_open (fun x _ hopen _ => ?_) (fun x _ hfails => ?_)
  · rw [if_neg hdelete]
    exact passes_observeConverged h hopen hresource _
  · refine absurd ?_ hfails
    rintro ⟨row, hget, hsome⟩
    cases hrow.symm.trans hget
    rw [hprovider] at hsome
    cases hsome

theorem passes_reconcileOperation (h : Driven lib operation.id resourceId action w)
    (hrow : w.tables.operations.get? operation.id = some operation)
    (hknown : action ≠ .delete ∨ operation.state ≠ .unknownOutcome) :
    Passes lib operation.id resourceId action (reconcileOperation lib maxAttempts operation) w := by
  obtain ⟨row, hget, hof⟩ := h.row
  rw [hrow] at hget
  cases hget
  obtain ⟨current, hcurrent, hat⟩ := h.resource
  obtain ⟨providerId, hat⟩ := Option.isSome_iff_exists.mp hat
  have hresource : current.id = resourceId := Table.key_of_get? _ hcurrent
  unfold reconcileOperation
  split
  · exact passes_pure h ⟨operation, hrow, rfl⟩
  · rename_i hopen
    have hopen : operation.state.isTerminal = false := by simpa using hopen
    rw [hof.kind, LifecycleAction.parse_kind, hof.resourceId]
    refine goes_orInvalid rfl ?_
    refine goes_quiet (fun _ _ => trivial) (fun x _ => ?_)
    refine goes_orStore (fun resource hreply => ?_) (fun e _ => ⟨h, e, rfl⟩)
    have hread : current = resource := by
      simp only [execLifecycle, LifecycleAnswer.read, hcurrent] at hreply
      split at hreply
      · cases hreply
      · cases hreply
        rfl
    subst hread
    unfold advanceLifecycle
    split
    · rename_i hunknown
      have hdelete : action ≠ .delete := hknown.resolve_right (fun hne => hne hunknown)
      split
      · rename_i hprovider
        exact passes_observeLifecyclePresence h hrow hresource hat hdelete hprovider
      · rename_i hprovider
        exact passes_observeLifecycle h hrow hopen hresource hat hdelete hprovider
    · exact passes_dispatchLifecycle h hrow hopen hresource hat

end Answers

/-- **A pass** over an operation whose command may be sent, or which is not a
deletion. -/
theorem passes_reconcileLifecycleOnce (h : Driven lib operationId resourceId action w)
    (hknown :
      action ≠ .delete ∨
        ∀ row, w.tables.operations.get? operationId = some row → row.state ≠ .unknownOutcome) :
    Passes lib operationId resourceId action
      (reconcileLifecycleOnce lib maxAttempts operationId) w := by
  refine goes_quiet (fun _ _ => trivial) (fun x _ => ?_)
  refine goes_orStore (fun operation hreply => ?_) (fun e _ => ⟨h, e, rfl⟩)
  have hget : w.tables.operations.get? operationId = some operation := by
    simp only [execLifecycle, LifecycleAnswer.read] at hreply
    split at hreply
    · cases hreply
    · cases hget : w.tables.operations.get? operationId with
      | none => rw [hget] at hreply; cases hreply
      | some row => rw [hget] at hreply; cases hreply; rfl
  have hid : operation.id = operationId := Table.key_of_get? _ hget
  subst hid
  exact passes_reconcileOperation h hget (hknown.imp_right (fun hrow => hrow operation hget))

section Waiting

variable {result : Except ReconcileError OperationState} {last : Option ReconcileError}

/-- What a pass leaves to the passes after it, whatever is answered. -/
def Result (lib : LifecycleLibrary) (operationId resourceId : Uuid) (action : LifecycleAction) :
    Except ReconcileError OperationState → LifecycleWorld → Prop
  | .ok state, w => Passed lib operationId resourceId action state w
  | .error e, w =>
    Driven lib operationId resourceId action w ∧ ((∃ s, e = .store s) ∨ Open operationId w)

theorem Result.driven (h : Result lib operationId resourceId action result w) :
    Driven lib operationId resourceId action w := by
  cases result with
  | ok state => exact Passed.driven h
  | error e => exact h.1

/-- How a wait ends in which something outside the store has failed. -/
abbrev WaitFailed (operationId : Uuid) :
    Except ComputeError OperationState → LifecycleWorld → Prop :=
  Outcome (fun _ w => Closed operationId w) (fun e w => e.IsStoreFailure ∨ Open operationId w)

theorem Result.waitFailed_reconcile {e : ReconcileError}
    (h : (∃ s, e = .store s) ∨ Open operationId w) :
    WaitFailed operationId (.error (.reconcile e)) w := by
  rcases h with ⟨s, rfl⟩ | hopen
  · exact Or.inl trivial
  · exact Or.inr hopen

theorem Result.waitFailed_of_passEnds (h : Result lib operationId resourceId action result w)
    {ended : Except ComputeError OperationState} (hends : passEnds result = some ended) :
    WaitFailed operationId ended w := by
  unfold passEnds at hends
  split at hends
  · cases hends
    exact h.reports.closed rfl
  · cases hends
    exact h.reports.closed rfl
  · cases hends
    exact Result.waitFailed_reconcile h.2
  · cases hends

theorem Result.waitFailed_of_deadline
    (h : Result lib operationId resourceId action result w) (hends : passEnds result = none)
    {e : ReconcileError} :
    WaitFailed operationId (deadlineReached (passError (some e) result)) w := by
  cases result with
  | error e' => exact Result.waitFailed_reconcile h.2
  | ok state =>
    refine Or.inr (h.reports.isOpen ?_)
    cases state with
    | succeeded | failed => cases hends
    | _ => rfl

theorem reaches_pass (h : Driven lib operationId resourceId action w) (hdelete : action ≠ .delete) :
    Reaches (execLifecycle lib) (fun _ x _ => Typed lib x) (Closed operationId)
      (Result lib operationId resourceId action)
      (reconcileLifecycleOnce lib maxAttempts operationId).run w := by
  refine (passes_reconcileLifecycleOnce h (Or.inl hdelete)).reaches.mono ?_
  rintro (e | state) w' (hr | hr)
  · exact ⟨hr.driven, Or.inl hr.store⟩
  · exact ⟨hr.driven, Or.inr hr.isOpen⟩
  · exact hr
  · exact hr.elim

theorem reaches_reconcileLifecycleUntilTerminal
    (hdelete : action ≠ .delete) (passes : Nat) (e : ReconcileError) (w : LifecycleWorld)
    (h : Driven lib operationId resourceId action w) :
    Reaches (execLifecycle lib) (fun _ x _ => Typed lib x) (Closed operationId)
      (WaitFailed operationId)
      (reconcileLifecycleUntilTerminal lib maxAttempts operationId passes (some e)).run w := by
  induction passes generalizing e w with
  | zero =>
    refine Reaches.lift_bind (reaches_pass h hdelete) (fun result w' hresult => ?_)
    show WaitFailed operationId
      ((passEnds result).getD (deadlineReached (passError (some e) result))) w'
    cases hends : passEnds result with
    | some ended => exact hresult.waitFailed_of_passEnds hends
    | none => exact hresult.waitFailed_of_deadline hends
  | succ passes ih =>
    refine Reaches.lift_bind (reaches_pass h hdelete) (fun result w' hresult => ?_)
    cases hends : passEnds result with
    | some ended => exact hresult.waitFailed_of_passEnds hends
    | none =>
      cases result with
      | ok state => exact ih e w' (Result.driven hresult)
      | error e' => exact ih e' w' (Result.driven hresult)

/-- **The wait for an action**. -/
theorem separates_reconcileLifecycleUntilTerminal
    (hdelete : action ≠ .delete) (passes : Nat) (last : Option ReconcileError) (w : LifecycleWorld)
    (h : Driven lib operationId resourceId action w) (hlast : ∀ e ∈ last, ∃ s, e = .store s) :
    Separates (execLifecycle lib) (fun _ x _ => Typed lib x) (Works lib operationId)
      (Closed operationId)
      (Outcome (fun _ => Underway lib operationId resourceId action) (fun e _ => e.IsStoreFailure))
      (WaitFailed operationId)
      (reconcileLifecycleUntilTerminal lib maxAttempts operationId passes last).run w := by
  induction passes generalizing last w with
  | zero =>
    refine Separates.lift_bind (passes_reconcileLifecycleOnce h (Or.inl hdelete)) ?_ ?_
    · rintro (e | state) w' hresult
      · obtain ⟨s, rfl⟩ := Failed.store hresult
        exact trivial
      · show Outcome _ _ ((passEnds (.ok state)).getD (deadlineReached last)) w'
        have hunderway := (Passed.driven hresult).row
        cases state with
        | succeeded | failed => exact hunderway
        | _ =>
          cases last with
          | none => exact hunderway
          | some e =>
            obtain ⟨s, rfl⟩ := hlast e rfl
            exact trivial
    · rintro (e | state) w' hresult
      · show WaitFailed operationId
          ((passEnds (.error e)).getD (deadlineReached (some e))) w'
        have hopen := Struck.isOpen hresult
        cases e with
        | invalidIntent | _ => exact Or.inr hopen
      · exact hresult.elim
  | succ passes ih =>
    refine Separates.lift_bind (passes_reconcileLifecycleOnce h (Or.inl hdelete)) ?_ ?_
    · rintro (e | state) w' hresult
      · have hdriven := Failed.driven hresult
        obtain ⟨s, rfl⟩ := Failed.store hresult
        exact ih _ w' hdriven (fun e he => ⟨s, by cases he; rfl⟩)
      · have hdriven := Passed.driven hresult
        cases state with
        | succeeded | failed => exact hdriven.row
        | _ => exact ih last w' hdriven hlast
    · rintro (e | state) w' hresult
      · obtain ⟨hdriven, hopen⟩ : Struck lib operationId resourceId action w' := hresult
        cases e with
        | invalidIntent => exact Or.inr hopen
        | _ => exact reaches_reconcileLifecycleUntilTerminal hdelete passes _ w' hdriven
      · exact hresult.elim

end Waiting

end Lifecycle
end O3k
