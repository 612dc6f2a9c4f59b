import O3k.Lifecycle.CanonicalRefusals
import O3k.Lifecycle.Redrive

/-!
# Which refused requests leave an operation open

Up to its acceptance a request writes nothing, and what it has accepted is
terminal before it is refused if the server can be read, the create of a server
to be deleted is over, and the world outside the store works.
-/

namespace O3k
namespace Lifecycle

open Relational Relational.Transaction Operations Semantics ComputeM
open Journal (ServerState InstanceState serverStateToStorage)
open Program (AnsweredWithin CallsAt Ends Outcome Reaches Separates Throws answered reaches_of_thrown
  ends_lift_run ends_throw throws_call_bind throws_of_done)

variable {lib : CanonicalLibrary} {maxAttempts : Nat} {operationId resourceId : Uuid}
variable {w : LifecycleWorld} {resource : ResourceRecord}

theorem finishes_finishDeleted
    (h : Underway lib.toLifecycleLibrary operationId resourceId .delete w)
    (hintent : (lib.parse resource.desiredState).isSome = true) :
    Finishes lib operationId (fun _ => Found operationId)
      (finishDeleted lib.toLifecycleLibrary resource (some operationId)) w := by
  refine goes_okOr (fun _ _ => ?_) (fun hnone => by rw [hnone] at hintent; cases hintent)
  refine finishes_cleanup (by decide) h.closed_or_open ?_
  refine finishes_cleanup (by decide) h.closed_or_open ?_
  refine finishes_cleanup (by decide) h.closed_or_open ?_
  refine finishes_cleanup (by decide) h.closed_or_open ?_
  refine goes_quiet (c := .cleanup .releaseReservation) (fun _ _ => trivial) (fun _ _ => ?_)
  exact finishes_recordSuccess h (fun _ hclosed => throws_of_done rfl (Or.inl hclosed))

theorem finishes_deleteLocally {projectId : String} {id : Uuid}
    (h : Underway lib.toLifecycleLibrary operationId id .delete w)
    (hcreate :
      ∃ intent ∈ lib.parse resource.desiredState,
        ∃ create ∈ w.tables.operations.get? intent.operationId, createAbsent create = true) :
    Finishes lib operationId (fun _ => Found operationId)
      (deleteLocally lib.toLifecycleLibrary projectId id resource (some operationId)) w := by
  obtain ⟨intent, hintent, create, hget, habsent⟩ := hcreate
  refine goes_okOr (fun i hi => ?_) (fun hnone => by cases hnone.symm.trans hintent)
  cases hintent.symm.trans hi
  refine goes_quiet (c := .getOperation intent.operationId) (fun _ _ => trivial) (fun x _ => ?_)
  simp only [execLifecycle, show w.tables.operations.get? intent.operationId = some create from hget]
  refine goes_orMissing_read ?_ (fun _ h => by cases h) (fun _ => Or.inl trivial)
  rw [if_neg (by simp [habsent])]
  refine Throws.bind (P := fun o w' => w = w' ∧ operationId = o) (throws_of_done rfl ⟨rfl, rfl⟩) ?_
  rintro _ _ ⟨rfl, rfl⟩
  refine goes_call (c := .projectMetering resource.id (serverStateToStorage .deleted))
    h.closed_or_open (fun x _ _ hprovides => ?_) (fun x hopen hfails => ?_)
  · refine goes_metered hprovides (finishes_terminalizeDeleted h rfl rfl rfl (fun w' hclosed => ?_))
    exact Throws.bind (finishes_cleanUpDeleted hclosed) (fun _ _ hfalse => hfalse.elim)
  · obtain ⟨e, he⟩ := thrown_metered hfails
    exact ⟨e, he, Or.inr hopen⟩

theorem finishes_driveDeletion (h : Driven lib.toLifecycleLibrary operationId resourceId .delete w)
    (hrow : ∀ row, w.tables.operations.get? operationId = some row → row.state ≠ .unknownOutcome)
    (passes : Nat) :
    Finishes lib operationId (Passed lib.toLifecycleLibrary operationId resourceId .delete)
      (driveDeletion lib.toLifecycleLibrary maxAttempts operationId passes (some operationId)) w := by
  refine Separates.lift_bind (passes_reconcileLifecycleOnce h (Or.inr hrow)) ?_ ?_
  · rintro (e | state) w' hresult
    · obtain ⟨s, rfl⟩ := Failed.store hresult
      exact Or.inl trivial
    · exact hresult
  · rintro (e | state) w' hresult
    · exact Or.inr (Struck.isOpen hresult)
    · exact hresult.elim

theorem finishes_deleteAtProvider {projectId : String} {id : Uuid}
    (h : Driven lib.toLifecycleLibrary operationId resourceId .delete w)
    (hrow : ∀ row, w.tables.operations.get? operationId = some row → row.state ≠ .unknownOutcome)
    (passes : Nat) :
    Finishes lib operationId (fun _ => Found operationId)
      (deleteAtProvider lib.toLifecycleLibrary maxAttempts projectId id resource
        (some operationId) passes) w := by
  refine Throws.bind (P := fun o w' => w = w' ∧ operationId = o) (throws_of_done rfl ⟨rfl, rfl⟩) ?_
  rintro _ _ ⟨rfl, rfl⟩
  refine Throws.bind (finishes_driveDeletion h hrow passes) ?_
  intro state w₁ hpassed
  split
  · exact throws_of_done rfl hpassed.driven.row.closed_or_open
  · rename_i hsucceeded
    have hclosed : Closed operationId w₁ :=
      hpassed.reports.closed (by rw [not_not.mp hsucceeded]; rfl)
    refine goes_okOr (fun _ _ => ?_) (fun _ => Or.inr hclosed)
    exact Throws.bind (finishes_cleanUpDeleted hclosed) (fun _ _ hfalse => hfalse.elim)

variable {before : OperationTables}

theorem finishes_deleteServerWithAcceptedOperation {id : Uuid}
    (hcreated : Created operationId id .delete before w.tables)
    (hget : w.tables.resources.get? id = some resource) (hdeletable : Deletable lib before resource)
    (passes : Nat) :
    Finishes lib operationId (fun _ => Found operationId)
      (deleteServerWithAcceptedOperation lib.toLifecycleLibrary maxAttempts resource.projectId id
        (some operationId) passes) w := by
  have hunderway : Underway lib.toLifecycleLibrary operationId id .delete w := hcreated.underway
  refine goes_quiet (c := .getResource id) (fun _ _ => trivial) (fun x _ => ?_)
  simp only [execLifecycle, hget]
  refine goes_orMissing_read ?_ (fun _ h => by cases h) (fun _ => Or.inl trivial)
  unfold Deletable at hdeletable
  unfold deleteOn
  rw [if_neg (fun hne => hne rfl)]
  split at hdeletable
  · exact hdeletable.elim
  · rename_i observed hobserved
    rw [hobserved]
    show Finishes lib operationId _
      (if observed = .deleted then _ else if resource.providerId.isNone then _ else _) w
    split at hdeletable
    · rename_i hdeleted
      rw [if_pos hdeleted]
      exact finishes_finishDeleted hunderway hdeletable
    · rename_i hdeleted
      rw [if_neg hdeleted]
      split
      · rename_i hprovider
        refine finishes_deleteLocally hunderway ?_
        obtain ⟨intent, hintent, create, hcreate, habsent⟩ := hdeletable hprovider
        refine ⟨intent, hintent, create, ?_, habsent⟩
        -- the create is not the operation that has just been accepted
        rw [hcreated.others]
        · exact hcreate
        · rintro rfl
          rw [hcreated.fresh] at hcreate
          cases hcreate
      · rename_i hprovider
        refine finishes_deleteAtProvider ⟨hunderway, resource, hget, ?_⟩ ?_ passes
        · cases hp : resource.providerId with
          | none => rw [hp] at hprovider; exact absurd rfl hprovider
          | some _ => rfl
        · intro row hrow
          rw [hcreated.row] at hrow
          cases hrow
          exact fun hstate => by cases hstate

theorem validate_notApplicable {now : String} (hclock : lib.text.isRfc3339 now = true) :
    validateCanonicalLifecycleUpdate lib.text.isRfc3339 (notApplicable now) = .ok () := by
  simp [validateCanonicalLifecycleUpdate, notApplicable, hclock, OperationState.isTerminal]

theorem finishes_recordNotApplicable {α : Type} {action : LifecycleAction} {now : String}
    (hcreated : Created operationId resourceId action before w.tables)
    (hclock : lib.text.isRfc3339 now = true) :
    Finishes lib operationId (fun (_ : α) _ => True)
      (ComputeM.call (.updateCanonicalLifecycle operationId (notApplicable now)) >>= fun reply =>
        ComputeM.orStore reply >>= fun _ => throw .conflict) w := by
  obtain ⟨metadata, hmetadata⟩ := Option.isSome_iff_exists.mp hcreated.metadata
  obtain ⟨t', hbody, row, hget, hterminal⟩ :
      ∃ t', updateCanonicalOperationLifecycleBody operationId (notApplicable now) w.tables
        = .ok ((), t') ∧ ∃ row, t'.operations.get? operationId = some row ∧
          row.state.isTerminal = true := by
    refine ⟨_, by
      simp only [updateCanonicalOperationLifecycleBody, get_bind_apply, hcreated.row, hmetadata,
        orFail_some_bind]
      rfl, ?_⟩
    rw [OperationTables.operations_modifyMetadata]
    exact ⟨_, Table.get?_put_self w.tables.operations
      { lifecycleOperation operationId resourceId action with state := .failed }, rfl⟩
  refine goes_quiet (fun _ _ => trivial) (fun x _ => ?_)
  refine finishes_write (validate_notApplicable hclock) (fun e he => ?_) (fun t'' hbody' => ?_)
    (fun _ hclosed => Or.inr hclosed)
  · cases hbody.symm.trans he
  · cases hbody.symm.trans hbody'
    exact ⟨row, hget, hterminal⟩

theorem finishes_performAccepted {request : CanonicalCall} {action : InstanceAction}
    (hcreated : Created operationId request.id action.lifecycle before w.tables)
    (hget : w.tables.resources.get? request.id = some resource)
    (hat : resource.providerId.isSome = true)
    (hreadable : (serverStateFromStorage resource.observedState).isOk = true)
    (hclock : lib.text.isRfc3339 request.now = true) (passes : Nat) :
    Finishes lib operationId (fun _ _ => True)
      (performAccepted lib maxAttempts request action resource operationId passes) w := by
  have hdelete : action.lifecycle ≠ .delete := by
    cases action <;> decide
  refine goes_okOr (fun current _ => ?_) (fun hnone => ?_)
  · split
    · refine Separates.bind (separates_reconcileLifecycleUntilTerminal hdelete passes none w
        ⟨hcreated.underway, resource, hget, hat⟩ (fun e he => by cases he)) ?_ ?_
      · rintro (e | state) w' hresult
        · exact Or.inl hresult
        · exact finishes_freshReceipt request.id state (Underway.closed_or_open hresult)
      · rintro (e | state) w' hresult
        · exact hresult
        -- the audit finds the operation terminal
        · exact Or.inl hresult
    · exact finishes_recordNotApplicable hcreated hclock
  · cases hobserved : serverStateFromStorage resource.observedState with
    | error e => rw [hobserved] at hreadable; cases hreadable
    | ok state => rw [hobserved] at hnone; cases hnone

section Requests

variable {request : CanonicalCall} {kind : CanonicalKind}

def StoresOperation
    (lib : CanonicalLibrary) (kind : CanonicalKind) (request : CanonicalCall) (w : LifecycleWorld) :
    Prop :=
  ∃ resource, kind.Accepts lib request resource w

/-- Nothing has been written, or the error is excused. -/
def Blameless
    (operationId : Uuid) (before : LifecycleWorld) (e : ComputeError) (w : LifecycleWorld) :
    Prop :=
  before.tables = w.tables ∨ Excused operationId e w

/-- Nothing is accepted and nothing has been written, or what has been accepted
is stranded. -/
def Blamed (lib : CanonicalLibrary) (kind : CanonicalKind) (request : CanonicalCall)
    (before : LifecycleWorld) (e : ComputeError) (w : LifecycleWorld) :
    Prop :=
  (¬ StoresOperation lib kind request before ∧ before.tables = w.tables) ∨
    (StoresOperation lib kind request before ∧ Stranded (kind.operationId lib request) e w)

/-- A part of the request that has begun in `before`. -/
abbrev Serving (lib : CanonicalLibrary) (kind : CanonicalKind) (request : CanonicalCall)
    (before : LifecycleWorld) {α : Type} (P : α → LifecycleWorld → Prop) (p : ComputeM α)
    (w : LifecycleWorld) :
    Prop :=
  Goes lib.toLifecycleLibrary (kind.operationId lib request) P
    (Blameless (kind.operationId lib request) before) (Blamed lib kind request before) p w

theorem serving_requireAllowed :
    Serving lib kind request w (fun _ w' => w = w' ∧ request.allowed = true)
      (requireAllowed request) w := by
  unfold requireAllowed
  split
  · rename_i hallowed
    exact throws_of_done rfl ⟨rfl, hallowed⟩
  · rename_i hdenied
    have hrefused : ¬ StoresOperation lib kind request w :=
      fun ⟨_, haccepts⟩ => hdenied haccepts.admitted.allowed
    have hthrown : ∀ reply : Except ComputeError Unit, ∃ e,
        ((ComputeM.given reply >>= fun _ => throw .notFound : ComputeM Unit)).run =
          .done (.error e) := by
      intro reply
      cases reply <;> exact ⟨_, rfl⟩
    refine throws_call_bind (c := LifecycleCall.recordRequiredAudit) (Or.inr (fun x _ => ?_))
    obtain ⟨e, he⟩ := hthrown x.served
    exact ⟨fun _ => throws_of_done he (Or.inl rfl), fun _ => ⟨e, he, Or.inl ⟨hrefused, rfl⟩⟩⟩

theorem serving_readServer {α : Type} {P : α → LifecycleWorld → Prop} (id : Uuid)
    {f : ResourceRecord → ComputeM α}
    (hf :
      ∀ resource, w.tables.resources.get? id = some resource →
        Serving lib kind request w P (f resource) w) :
    Serving lib kind request w P
      (ComputeM.call (.getResource id) >>= fun reply =>
        ComputeM.orMissing .resourceNotFound .notFound reply >>= f) w := by
  refine goes_quiet (fun _ _ => trivial) (fun x _ => ?_)
  refine goes_orMissing (fun resource hok => hf resource ?_) (fun _ _ => Or.inl rfl)
  simp only [execLifecycle, LifecycleAnswer.read] at hok
  split at hok
  · cases hok
  · cases hget : w.tables.resources.get? id with
    | none => rw [hget] at hok; cases hok
    | some row => rw [hget] at hok; cases hok; rfl

theorem serving_replayReceipt {before : LifecycleWorld}
    (hsame : before.tables = w.tables) (existing resourceId : Uuid) :
    Serving lib kind request before (fun _ _ => True) (replayReceipt existing resourceId) w := by
  refine goes_quiet (c := .getOperation existing) (fun _ _ => trivial) (fun x _ => ?_)
  exact goes_storeResult (fun _ _ => throws_of_done rfl trivial) (fun _ _ => Or.inl hsame)

theorem serving_accept (kind : CanonicalKind)
    (hget : w.tables.resources.get? request.id = some resource)
    {f : ReconcileError → ComputeError} (hf : ∀ d, (f (.store (.database d))).IsStoreFailure)
    {next : CanonicalAcceptanceOutcome → ComputeM MutationReceipt}
    (hnext :
      ∀ outcome w',
        AcceptanceOutcome lib request (kind.operationId lib request) kind.lifecycle resource w
          outcome w' →
        Serving lib kind request w (fun _ _ => True) (next outcome) w') :
    Serving lib kind request w (fun _ _ => True)
      ((ExceptT.lift (beginCanonicalLifecycle lib request.id (kind.operationId lib request)
          kind.lifecycle request.context).run : ComputeM _) >>= fun accepted =>
        ComputeM.given (accepted.mapError f) >>= next) w := by
  refine Separates.lift_bind (begins_beginCanonicalLifecycle hget) ?_ ?_
  · rintro (e | outcome) w' haccepted
    · rcases haccepted with hsame | ⟨d, rfl⟩
      · exact Or.inl hsame
      · exact Or.inr (Or.inl (hf d))
    · exact hnext outcome w' haccepted
  · rintro (e | outcome) w' hfalse <;> exact hfalse.elim

theorem serving_of_finishes {α : Type} {P : α → LifecycleWorld → Prop} {p : ComputeM α}
    {before : LifecycleWorld} (haccepted : StoresOperation lib kind request before)
    (h : Finishes lib (kind.operationId lib request) P p w) :
    Serving lib kind request before (fun _ _ => True) p w :=
  h.mono (fun _ _ _ => trivial) (fun _ _ he => Or.inr he) (fun _ _ he => Or.inr ⟨haccepted, he⟩)

/-- A server at which the request stores an operation can be settled. -/
def SettleableWhereAccepted
    (lib : CanonicalLibrary) (kind : CanonicalKind) (request : CanonicalCall) (w : LifecycleWorld) :
    Prop :=
  ∀ resource, kind.Accepts lib request resource w → kind.Settleable lib w.tables resource

theorem serving_actionForAuthCanonical {action : InstanceAction}
    (hclock : lib.text.isRfc3339 request.now = true)
    (hsettleable : SettleableWhereAccepted lib (.action action) request w) (passes : Nat) :
    Serving lib (.action action) request w (fun _ _ => True)
      (actionForAuthCanonical lib maxAttempts request action passes) w := by
  unfold actionForAuthCanonical
  split
  · exact throws_of_done rfl (Or.inl rfl)
  rename_i hcontext
  simp only [not_or, not_not] at hcontext
  obtain ⟨haction, hactor, hscope⟩ := hcontext
  refine Throws.bind serving_requireAllowed ?_
  rintro _ _ ⟨rfl, hallowed⟩
  refine serving_readServer request.id (fun resource hget => ?_)
  unfold acceptAction
  split
  · exact throws_of_done rfl (Or.inl rfl)
  rename_i hserver
  simp only [not_or, not_not] at hserver
  obtain ⟨howned, hprovider⟩ := hserver
  have hat : resource.providerId.isSome = true := by
    simpa [Option.isSome_iff_ne_none] using hprovider
  have hid : canonicalActionId lib resource request.id action.expected
      request.context.idempotencyKey = (CanonicalKind.action action).operationId lib request := by
    simp only [canonicalActionId, CanonicalKind.operationId, howned]
  simp only [hid]
  refine serving_accept (.action action) (f := actionAcceptanceError) hget
    (fun _ => trivial) ?_
  intro outcome w' houtcome
  cases outcome with
  | conflict => exact throws_of_done rfl (Or.inl houtcome)
  | existingEquivalent existing resourceId =>
    exact serving_replayReceipt houtcome existing resourceId
  | created _ _ =>
    obtain ⟨haccepted, hcreated⟩ := houtcome
    have haccepts : (CanonicalKind.action action).Accepts lib request resource w :=
      ⟨⟨haction, hactor, hscope, hallowed⟩, hget, howned, hat, haccepted⟩
    refine serving_of_finishes ⟨resource, haccepts⟩ (finishes_performAccepted hcreated ?_ hat
      (hsettleable resource haccepts) hclock passes)
    rw [hcreated.resources]
    exact hget

theorem serving_deleteServerForAuthCanonical
    (hsettleable : SettleableWhereAccepted lib .delete request w) (passes : Nat) :
    Serving lib .delete request w (fun _ _ => True)
      (deleteServerForAuthCanonical lib maxAttempts request passes) w := by
  unfold deleteServerForAuthCanonical
  split
  · exact throws_of_done rfl (Or.inl rfl)
  rename_i haction
  split
  · exact throws_of_done rfl (Or.inl rfl)
  rename_i hcontext
  simp only [not_or, not_not] at haction hcontext
  obtain ⟨hactor, hscope⟩ := hcontext
  refine Throws.bind serving_requireAllowed ?_
  rintro _ _ ⟨rfl, hallowed⟩
  refine serving_readServer request.id (fun resource hget => ?_)
  unfold acceptDelete
  split
  · exact throws_of_done rfl (Or.inl rfl)
  rename_i howned
  simp only [not_not] at howned
  have hid : canonicalDeleteId lib resource request.id request.context.idempotencyKey =
      CanonicalKind.delete.operationId lib request := by
    simp only [canonicalDeleteId, CanonicalKind.operationId, howned]
  simp only [hid]
  refine serving_accept .delete (f := ComputeError.reconcile) hget (fun _ => trivial) ?_
  intro outcome w' houtcome
  cases outcome with
  | conflict => exact throws_of_done rfl (Or.inl houtcome)
  | existingEquivalent existing resourceId =>
    exact serving_replayReceipt houtcome existing resourceId
  | created _ _ =>
    obtain ⟨haccepted, hcreated⟩ := houtcome
    have haccepts : CanonicalKind.delete.Accepts lib request resource w :=
      ⟨⟨haction, hactor, hscope, hallowed⟩, hget, howned, trivial, haccepted⟩
    refine serving_of_finishes ⟨resource, haccepts⟩ (Throws.bind ?_
      (fun state w'' hrow => finishes_freshReceipt request.id state hrow))
    rw [← howned]
    refine finishes_deleteServerWithAcceptedOperation hcreated ?_
      (hsettleable resource haccepts) passes
    rw [hcreated.resources]
    exact hget

theorem serving_perform (maxAttempts : Nat) (hclock : lib.text.isRfc3339 request.now = true)
    (hsettleable : SettleableWhereAccepted lib kind request w) (passes : Nat) :
    Serving lib kind request w (fun _ _ => True) (kind.perform lib maxAttempts request passes) w := by
  cases kind with
  | action action => exact serving_actionForAuthCanonical hclock hsettleable passes
  | delete => exact serving_deleteServerForAuthCanonical hsettleable passes

end Requests

section Refusing

variable {request : CanonicalCall}

/-- The program ends with a refusal that leaves the operation open, or the store
fails. -/
abbrev Refuses
    (lib : CanonicalLibrary) (operationId : Uuid) {α : Type} (p : ComputeM α) (w : LifecycleWorld) :
    Prop :=
  Ends (execLifecycle lib.toLifecycleLibrary) (fun _ _ _ => True) (fun _ _ => False)
    (Stranded operationId) p w

variable {id : Uuid} {α : Type}

theorem refuses_readServer {f : ResourceRecord → ComputeM α}
    (hget : w.tables.resources.get? id = some resource)
    (h : Refuses lib operationId (f resource) w) :
    Refuses lib operationId
      (ComputeM.call (.getResource id) >>= fun reply =>
        ComputeM.orMissing .resourceNotFound .notFound reply >>= f) w := by
  intro x _
  simp only [execLifecycle, hget, LifecycleAnswer.read]
  split
  · exact Or.inl trivial
  · exact h

variable {before : OperationTables}

theorem not_createAbsent (hcreated : Created operationId id .delete before w.tables)
    {intent : Compute.CreateInstanceRequest}
    (hpresent : ∀ create ∈ before.operations.get? intent.operationId, createAbsent create = false) :
    ∀ create ∈ w.tables.operations.get? intent.operationId, createAbsent create = false := by
  by_cases hsame : intent.operationId = operationId
  · rw [hsame, hcreated.row]
    intro create hcreate
    cases hcreate
    rfl
  · rw [hcreated.others _ hsame]
    exact hpresent

theorem refuses_deleteLocally {projectId : String}
    (hcreated : Created operationId id .delete before w.tables) (hopen : Open operationId w)
    (hpresent :
      ∀ intent ∈ lib.parse resource.desiredState,
        ∀ create ∈ before.operations.get? intent.operationId, createAbsent create = false) :
    Refuses lib operationId
      (deleteLocally lib.toLifecycleLibrary projectId id resource (some operationId)) w := by
  unfold deleteLocally
  cases hintent : lib.parse resource.desiredState with
  | none => exact ends_throw (Or.inr hopen)
  | some intent =>
    have hnone := not_createAbsent hcreated (hpresent intent hintent)
    intro x _
    simp only [execLifecycle, LifecycleAnswer.read]
    split
    · exact Or.inl trivial
    · cases hget : w.tables.operations.get? intent.operationId with
      | none => exact ends_throw (Or.inr hopen)
      | some create =>
        have habsent := hnone create hget
        show Refuses lib operationId (if ¬ createAbsent create = true then throw .conflict else _) w
        rw [if_pos (by simp [habsent])]
        exact ends_throw (Or.inr hopen)

/-- **A deletion that cannot be carried out** is refused with its operation
open. -/
theorem refuses_delete (hcreated : Created operationId id .delete before w.tables)
    (hget : w.tables.resources.get? id = some resource)
    (hdeletable : ¬ Deletable lib before resource) (passes : Nat) :
    Refuses lib operationId
      (deleteServerWithAcceptedOperation lib.toLifecycleLibrary maxAttempts resource.projectId id
        (some operationId) passes) w := by
  have hopen : Open operationId w := ⟨_, hcreated.row, rfl⟩
  refine refuses_readServer hget ?_
  unfold Deletable at hdeletable
  unfold deleteOn
  rw [if_neg (fun hne => hne rfl)]
  cases hobserved : serverStateFromStorage resource.observedState with
  | error e => exact ends_throw (Or.inr hopen)
  | ok observed =>
    rw [hobserved] at hdeletable
    show Refuses lib operationId
      (if observed = .deleted then _ else if resource.providerId.isNone then _ else _) w
    split
    · rename_i hdeleted
      simp only [if_pos hdeleted] at hdeletable
      unfold finishDeleted
      cases hintent : lib.parse resource.desiredState with
      | none => exact ends_throw (Or.inr hopen)
      | some intent => exact absurd (by rw [hintent]; rfl) hdeletable
    · rename_i hdeleted
      simp only [if_neg hdeleted] at hdeletable
      split
      · refine refuses_deleteLocally hcreated hopen (fun intent hintent create hcreate => ?_)
        by_contra habsent
        exact hdeletable (fun _ => ⟨intent, hintent, create, hcreate, by simpa using habsent⟩)
      · rename_i hprovider
        exact absurd (fun hnone => absurd hnone hprovider) hdeletable

variable {kind : CanonicalKind}

theorem ends_acceptedBegin (haccepts : kind.Accepts lib request resource w) :
    Ends (execLifecycle lib.toLifecycleLibrary) (fun _ _ _ => True)
      (fun outcome w' => (∃ a b, outcome = .created a b) ∧
        Created (kind.operationId lib request) request.id kind.lifecycle w.tables w'.tables)
      (fun (e : ReconcileError) _ => ∃ d, e = .store (.database d))
      (beginCanonicalLifecycle lib request.id (kind.operationId lib request) kind.lifecycle
        request.context) w := by
  obtain ⟨records, outcome, t', hrecords, hvalid, hbody, a, b, rfl⟩ := haccepts.accepted
  unfold beginCanonicalLifecycle
  rw [hrecords]
  intro x _
  simp only [execLifecycle, haccepts.found, LifecycleAnswer.read]
  split
  · exact ⟨_, rfl⟩
  · intro x' _
    simp only [execLifecycle, hvalid, atomically_of_ok hbody, LifecycleAnswer.settle]
    split
    · exact ⟨⟨a, b, rfl⟩, created_of_accepted hvalid hbody⟩
    · exact ⟨_, rfl⟩
    · exact ⟨_, rfl⟩

theorem refuses_accepted
    (haccepts : kind.Accepts lib request resource w) {f : ReconcileError → ComputeError}
    (hf : ∀ d, (f (.store (.database d))).IsStoreFailure)
    {next : CanonicalAcceptanceOutcome → ComputeM MutationReceipt}
    (hnext :
      ∀ a b w',
        Created (kind.operationId lib request) request.id kind.lifecycle w.tables w'.tables →
        Refuses lib (kind.operationId lib request) (next (.created a b)) w') :
    Refuses lib (kind.operationId lib request)
      ((ExceptT.lift (beginCanonicalLifecycle lib request.id (kind.operationId lib request)
          kind.lifecycle request.context).run : ComputeM _) >>= fun accepted =>
        ComputeM.given (accepted.mapError f) >>= next) w := by
  refine Ends.bind (ends_lift_run (ends_acceptedBegin haccepts)) ?_
  intro accepted w' haccepted
  cases accepted with
  | error e =>
    obtain ⟨d, rfl⟩ := haccepted
    exact Or.inl (hf d)
  | ok outcome =>
    obtain ⟨⟨a, b, rfl⟩, hcreated⟩ := haccepted
    exact hnext a b w' hcreated

/-- **A request that is accepted and cannot be settled** is refused with its
operation open. -/
theorem refuses_perform (haccepts : kind.Accepts lib request resource w)
    (hunsettleable : ¬ kind.Settleable lib w.tables resource) (passes : Nat) :
    Refuses lib (kind.operationId lib request) (kind.perform lib maxAttempts request passes) w := by
  obtain ⟨haction, hactor, hscope, hallowed⟩ := haccepts.admitted
  cases kind with
  | action action =>
    have hid : canonicalActionId lib resource request.id action.expected
        request.context.idempotencyKey =
          (CanonicalKind.action action).operationId lib request := by
      simp only [canonicalActionId, CanonicalKind.operationId, haccepts.owned]
    have hat : resource.providerId.isSome = true := haccepts.atProvider
    simp only [CanonicalKind.perform, actionForAuthCanonical]
    rw [if_neg (by simp [haction, hactor, hscope])]
    simp only [requireAllowed, hallowed, if_true]
    refine refuses_readServer haccepts.found ?_
    unfold acceptAction
    rw [if_neg (by simp [haccepts.owned, Option.isSome_iff_ne_none.mp hat])]
    simp only [hid]
    refine refuses_accepted (f := actionAcceptanceError) haccepts (fun _ => trivial) ?_
    intro a b w' hcreated
    show Refuses lib _ (performAccepted lib maxAttempts request action resource _ passes) w'
    unfold performAccepted
    cases hobserved : serverStateFromStorage resource.observedState with
    | ok state =>
      refine absurd ?_ hunsettleable
      simp only [CanonicalKind.Settleable, hobserved]
      rfl
    | error e => exact ends_throw (Or.inr ⟨_, hcreated.row, rfl⟩)
  | delete =>
    have hid : canonicalDeleteId lib resource request.id request.context.idempotencyKey =
        CanonicalKind.delete.operationId lib request := by
      simp only [canonicalDeleteId, CanonicalKind.operationId, haccepts.owned]
    have haction' : request.context.action.asStr = "compute:DeleteServer" := haction
    simp only [CanonicalKind.perform, deleteServerForAuthCanonical]
    rw [if_neg (by simp [haction']), if_neg (by simp [hactor, hscope])]
    simp only [requireAllowed, hallowed, if_true]
    refine refuses_readServer haccepts.found ?_
    unfold acceptDelete
    rw [if_neg (by simp [haccepts.owned])]
    simp only [hid]
    refine refuses_accepted (f := ComputeError.reconcile) haccepts (fun _ => trivial) ?_
    intro a b w' hcreated
    have hget : w'.tables.resources.get? request.id = some resource := by
      rw [hcreated.resources]
      exact haccepts.found
    have hrefuses := @refuses_delete lib maxAttempts _ w' resource _ _ hcreated hget
      hunsettleable passes
    rw [haccepts.owned] at hrefuses
    exact Ends.bind hrefuses (fun _ _ h => h.elim)

end Refusing

/-- The run of a request, its calls with the given answers. -/
def canonicalRun
    (lib : CanonicalLibrary) (maxAttempts : Nat) (kind : CanonicalKind) (request : CanonicalCall)
    (passes : Nat) (xs : Nat → LifecycleAnswer) (w : LifecycleWorld) :
    Except ComputeError MutationReceipt × LifecycleWorld :=
  answered (execLifecycle lib.toLifecycleLibrary) xs
    (kind.perform lib maxAttempts request passes).run w

/-- If the request stores an operation, nothing outside the store fails in its
run while the operation is open, or a later pass has settled it, so that a later
call finds it terminal. -/
def WorksWhereAccepted
    (lib : CanonicalLibrary) (maxAttempts : Nat) (kind : CanonicalKind) (request : CanonicalCall)
    (passes : Nat) (xs : Nat → LifecycleAnswer) (w : LifecycleWorld) :
    Prop :=
  StoresOperation lib kind request w →
    AnsweredWithin (execLifecycle lib.toLifecycleLibrary)
        (Works lib.toLifecycleLibrary (kind.operationId lib request)) xs
        (kind.perform lib maxAttempts request passes).run w ∨
      CallsAt (execLifecycle lib.toLifecycleLibrary) (Closed (kind.operationId lib request)) xs
        (kind.perform lib maxAttempts request passes).run w

theorem not_leavesNothingOpen_of_stranded
    {kind : CanonicalKind} {request : CanonicalCall} {before after : LifecycleWorld}
    {result : Except ComputeError MutationReceipt} {e : ComputeError}
    (haccepted : StoresOperation lib kind request before) (hresult : result = .error e)
    (hstore : ¬ e.IsStoreFailure) (hstranded : Stranded (kind.operationId lib request) e after) :
    ¬ LeavesNothingOpen (kind.operationId lib request) before after result := by
  intro hleaves
  obtain ⟨row, hget, hopen⟩ := hstranded.resolve_left hstore
  rcases hleaves e hresult hstore with hsame | hsettled
  · obtain ⟨resource, haccepts⟩ := haccepted
    obtain ⟨records, outcome, t', _, hvalid, hbody, a, b, rfl⟩ := haccepts.accepted
    have hfresh := (created_of_accepted hvalid hbody).fresh
    rw [hsame, hfresh] at hget
    cases hget
  · cases (hsettled row hget).symm.trans hopen

/-- The intent of a server whose create is `"create-1"`. -/
def waitingIntent : Compute.CreateInstanceRequest where
  operationId := "create-1"
  o3kServerId := "server-1"
  projectId := "project-1"
  networkIds := []
  placementProviderId := none
  placementAllocationId := none
  keypairId := none
  idempotencyKey := "key-0"

def plainCanonicalLibrary : CanonicalLibrary :=
  { plainLibrary with
    parse := fun _ => some waitingIntent
    digest := id }

def ownerRequest (name : String) : CanonicalCall where
  principal := "user-1"
  effectiveScope := "project-1"
  allowed := true
  id := "server-1"
  context :=
    { action := ⟨"compute", name⟩
      actor := "user-1"
      ownerScope := "project-1"
      requestId := none
      idempotencyKey := "key-1"
      semanticRequest := ""
      createdAt := "now" }
  now := "now"

/-- A server in the state, and its create. -/
def createdWorld (state : ServerState) (providerId : Option String) (create : OperationState) :
    LifecycleWorld :=
  { tables :=
      (OperationTables.empty.putResource
        ⟨"server-1", "compute_instance", "project-1", 1, 1, "", serverStateToStorage state,
          providerId⟩).putOperation
        ⟨"create-1", "server-1", "create", create, none, none, none⟩
    retries := fun _ => 0
    dispatches := []
    executed := [] }

/-- Nothing fails, and the provider carries the operation out. -/
def allSucceeds (id : Uuid) : LifecycleAnswer :=
  { failure := none
    operation := .ok ⟨"p-1", id, .succeeded⟩
    observed := .ok .running
    executes := true
    metering := .ok ()
    leased := true
    served := .ok ()
    now := "now" }

theorem worksWhereAccepted_allSucceeds
    (kind : CanonicalKind) (request : CanonicalCall) (passes : Nat) (w : LifecycleWorld) :
    WorksWhereAccepted plainCanonicalLibrary 3 kind request passes
      (fun _ => allSucceeds (kind.operationId plainCanonicalLibrary request)) w := by
  refine fun _ => Or.inl (Program.answeredWithin_of_forall (fun _ c s _ => ?_) _ _)
  cases c with
  | dispatch d =>
    rintro answer ⟨⟩
    simp [validateLifecycleProviderOperationOwner]
  | getProviderOperation id => exact ⟨_, rfl, rfl⟩
  | observeInstance id providerId => exact fun _ => rfl
  | cleanup step => cases step <;> first | trivial | exact fun e he => by cases he
  | recordRequiredAudit => exact fun e he => by cases he
  | getInstance | projectMetering => rfl
  | _ => trivial

/-- A deletion while the create is still running. -/
def earlyDeletion : Except ComputeError MutationReceipt × LifecycleWorld :=
  canonicalRun plainCanonicalLibrary 3 .delete (ownerRequest "DeleteServer") 0
    (fun _ => allSucceeds
      (CanonicalKind.delete.operationId plainCanonicalLibrary (ownerRequest "DeleteServer")))
    (createdWorld .building none .running)

/-- The answers to a stop: its outcome is unknown at first, then the instance
cannot be observed, then the command has succeeded, and the audit fails. -/
def lateAnswers (id : Uuid) (n : Nat) : LifecycleAnswer :=
  if n < 7 then
    { allSucceeds id with operation := .error (.unknownOutcome "p-1") }
  else if n < 13 then
    { allSucceeds id with
      operation := .ok ⟨"p-1", id, .unknownOutcome⟩
      observed := .error .retryable }
  else
    { allSucceeds id with served := .error .unavailable }

def lateStop : Except ComputeError MutationReceipt × LifecycleWorld :=
  canonicalRun plainCanonicalLibrary 3 (.action .stop) (ownerRequest "StopServer") 3
    (lateAnswers ((CanonicalKind.action .stop).operationId plainCanonicalLibrary
      (ownerRequest "StopServer"))) (createdWorld .active (some "vm-1") .succeeded)

end Lifecycle
end O3k
