import O3k.Lifecycle.Passes

/-!
# The acceptance of a canonical request

A request either stores one pending operation, or leaves every table as it is,
unless the store fails.
-/

namespace O3k
namespace Lifecycle

open Relational Relational.Transaction Operations Semantics
open Journal (ServerState InstanceState serverStateToStorage)
open Program (Throws throws_of_done)

variable (lib : CanonicalLibrary)

/-- The request for the operation is accepted at the server. -/
def AcceptedAt (request : CanonicalCall) (operationId : Uuid) (action : LifecycleAction)
    (resource : ResourceRecord) (w : LifecycleWorld) :
    Prop :=
  ∃ records outcome t',
    canonicalLifecycleRecords lib request.id operationId action request.context = .ok records ∧
      validateCanonicalResourceAcceptance lib.text resource
        (lifecycleOperation operationId request.id action) records.1 records.2 = .ok () ∧
      createOrReplayCanonicalLifecycleOperationBody lib.text
        (lifecycleOperation operationId request.id action) records.1 records.2 w.tables
          = .ok (outcome, t') ∧
      ∃ a b, outcome = .created a b

/-- What an acceptance leaves behind that has made an operation. -/
structure Created
    (operationId resourceId : Uuid) (action : LifecycleAction) (before after : OperationTables) :
    Prop where
  fresh : before.operations.get? operationId = none
  row :
    after.operations.get? operationId = some (lifecycleOperation operationId resourceId action)
  metadata : (after.metadata.get? operationId).isSome = true
  others : ∀ id, id ≠ operationId → after.operations.get? id = before.operations.get? id
  resources : after.resources = before.resources

variable {lib} {operationId resourceId : Uuid} {action : LifecycleAction} {w : LifecycleWorld}

variable {canonical : CanonicalOperationRecord} {request : IdempotencyReservationRequest}

theorem created_of_accepted {seen : ResourceRecord} {t t' : OperationTables} {id id' : Uuid}
    (hvalid :
      validateCanonicalResourceAcceptance lib.text seen
        (lifecycleOperation operationId resourceId action) canonical request = .ok ())
    (h :
      createOrReplayCanonicalLifecycleOperationBody lib.text
        (lifecycleOperation operationId resourceId action) canonical request t
          = .ok (.created id id', t')) :
    Created operationId resourceId action t t' := by
  have hid : operationId = canonical.id :=
    (ids_of_precheck (c := .lifecycleOperation (some seen)
      (lifecycleOperation operationId resourceId action) canonical request) hvalid).1
  have haccepted : Accepted t
      (.lifecycleOperation (some seen) (lifecycleOperation operationId resourceId action) canonical
        request) _ t' := accepted_lifecycle h
  generalize hreservation : CanonicalAcceptanceOutcome.reservation (.created id id') = r at haccepted
  cases haccepted with
  | conflict | replayed => cases hreservation
  | created hfresh =>
    refine ⟨hfresh.operation, ?_, ?_, ?_, rfl⟩
    · rw [AcceptanceCall.operations_accepted]
      exact Table.get?_put_self t.operations (lifecycleOperation operationId resourceId action)
    · rw [AcceptanceCall.metadata_accepted, hid]
      have hself := Table.get?_put_self t.metadata canonical.metadata
      exact hself ▸ rfl
    · intro id hne
      rw [AcceptanceCall.operations_accepted]
      exact Table.get?_put_of_ne _ (Ne.symm hne)

theorem unchanged_of_accepted {operation : OperationRecord} {t t' : OperationTables}
    {outcome : CanonicalAcceptanceOutcome}
    (h :
      createOrReplayCanonicalLifecycleOperationBody lib.text operation canonical request t
        = .ok (outcome, t'))
    (hnew : ∀ a b, outcome ≠ .created a b) :
    t' = t := by
  have haccepted : Accepted t (.lifecycleOperation none operation canonical request) _ t' :=
    accepted_lifecycle h
  generalize hreservation : outcome.reservation = r at haccepted
  cases haccepted with
  | conflict | replayed => rfl
  | created =>
    cases outcome with
    | created a b => exact absurd rfl (hnew a b)
    | conflict | existingEquivalent => cases hreservation

/-- How the acceptance of the request ends. -/
def AcceptanceOutcome (lib : CanonicalLibrary) (request : CanonicalCall) (operationId : Uuid)
    (action : LifecycleAction) (resource : ResourceRecord) (before : LifecycleWorld) :
    CanonicalAcceptanceOutcome → LifecycleWorld → Prop
  | .created _ _, after =>
    AcceptedAt lib request operationId action resource before ∧
      Created operationId request.id action before.tables after.tables
  | _, after => before.tables = after.tables

/-- An error of the acceptance has left the tables as they were, or it is one
of a store that has failed. -/
def AcceptanceError (before : LifecycleWorld) (e : ReconcileError) (after : LifecycleWorld) : Prop :=
  before.tables = after.tables ∨ ∃ d, e = .store (.database d)

/-- The acceptance needs nothing from outside the store. -/
abbrev Begins
    (lib : CanonicalLibrary) (operationId : Uuid) (P : CanonicalAcceptanceOutcome → LifecycleWorld → Prop)
    (before : LifecycleWorld) (p : LifecycleM CanonicalAcceptanceOutcome) (w : LifecycleWorld) :
    Prop :=
  Goes lib.toLifecycleLibrary operationId P (AcceptanceError before) (fun _ _ => False) p w

theorem begins_createOrReplay {request : CanonicalCall} {resource : ResourceRecord}
    {records : CanonicalOperationRecord × IdempotencyReservationRequest}
    (hrecords :
      canonicalLifecycleRecords lib request.id operationId action request.context = .ok records) :
    Begins lib operationId (AcceptanceOutcome lib request operationId action resource w) w
      (LifecycleM.call (.createOrReplay resource
          (lifecycleOperation operationId request.id action) records.1 records.2) >>=
        fun reply => LifecycleM.orStore reply) w := by
  refine goes_quiet (fun _ _ => trivial) (fun x _ => ?_)
  simp only [execLifecycle]
  cases hvalid : validateCanonicalResourceAcceptance lib.text resource
    (lifecycleOperation operationId request.id action) records.1 records.2 with
  | error e => exact throws_of_done rfl (Or.inl rfl)
  | ok _ =>
    cases hbody : createOrReplayCanonicalLifecycleOperationBody lib.text
      (lifecycleOperation operationId request.id action) records.1 records.2 w.tables with
    | error e =>
      simp only [atomically_of_error hbody]
      unfold LifecycleAnswer.settle
      split <;> exact throws_of_done rfl (Or.inl rfl)
    | ok made =>
      obtain ⟨outcome, t'⟩ := made
      simp only [atomically_of_ok hbody]
      unfold LifecycleAnswer.settle
      split
      · refine throws_of_done rfl ?_
        cases outcome with
        | created a b =>
          exact ⟨⟨records, _, t', hrecords, hvalid, hbody, a, b, rfl⟩,
            created_of_accepted hvalid hbody⟩
        | conflict => exact (unchanged_of_accepted hbody (fun _ _ h => by cases h)).symm
        | existingEquivalent =>
          exact (unchanged_of_accepted hbody (fun _ _ h => by cases h)).symm
      · exact throws_of_done rfl (Or.inr ⟨_, rfl⟩)
      · exact throws_of_done rfl (Or.inl rfl)

/-- **The acceptance of a request** at a server that has been read. -/
theorem begins_beginCanonicalLifecycle {request : CanonicalCall} {resource : ResourceRecord}
    (hget : w.tables.resources.get? request.id = some resource) :
    Begins lib operationId (AcceptanceOutcome lib request operationId action resource w) w
      (beginCanonicalLifecycle lib request.id operationId action request.context) w := by
  unfold beginCanonicalLifecycle
  cases hrecords :
    canonicalLifecycleRecords lib request.id operationId action request.context with
  | error e => exact throws_of_done rfl (Or.inl rfl)
  | ok records =>
    refine goes_quiet (c := .getResource request.id) (fun _ _ => trivial) (fun x _ => ?_)
    refine goes_orStore (fun row hreply => ?_) (fun _ _ => Or.inl rfl)
    have hread : resource = row := by
      simp only [execLifecycle, LifecycleAnswer.read, hget] at hreply
      split at hreply
      · cases hreply
      · cases hreply
        rfl
    subst hread
    exact begins_createOrReplay hrecords

end Lifecycle
end O3k

/-!
# Refused canonical requests

An accepted request is settled before it is refused, except where the state of
the server cannot be read and where a deletion has to wait for a create.
-/

namespace O3k
namespace Lifecycle

open Relational Relational.Transaction Operations Semantics ComputeM
open Journal (ServerState InstanceState serverStateToStorage)
open Program (Reaches Separates Throws throws_of_done)

variable (lib : CanonicalLibrary)

inductive CanonicalKind
  | action (action : InstanceAction)
  | delete

namespace CanonicalKind

def lifecycle : CanonicalKind → LifecycleAction
  | action a => a.lifecycle
  | delete => .delete

def operationId (request : CanonicalCall) : CanonicalKind → Uuid
  | action a =>
    lib.newV5 s!"o3k:canonical-action:{request.effectiveScope}:{request.id}:{a.expected.asStr}:{request.context.idempotencyKey}"
  | delete =>
    lib.newV5 s!"o3k:canonical-delete:{request.effectiveScope}:{request.id}:{request.context.idempotencyKey}"

def perform (maxAttempts : Nat) (request : CanonicalCall) (passes : Nat) :
    CanonicalKind → ComputeM MutationReceipt
  | action a => actionForAuthCanonical lib maxAttempts request a passes
  | delete => deleteServerForAuthCanonical lib maxAttempts request passes

/-- What is checked of the request before the server is read. -/
structure Admitted (request : CanonicalCall) (kind : CanonicalKind) : Prop where
  action :
    match kind with
    | .action a => request.context.action = a.expected
    | .delete => request.context.action.asStr = "compute:DeleteServer"
  actor : request.context.actor = request.principal
  ownerScope : request.context.ownerScope = request.effectiveScope
  allowed : request.allowed = true

/-- The request stores an operation for the server. -/
structure Accepts (request : CanonicalCall) (kind : CanonicalKind) (resource : ResourceRecord)
    (w : LifecycleWorld) :
    Prop where
  admitted : Admitted request kind
  found : w.tables.resources.get? request.id = some resource
  owned : resource.projectId = request.effectiveScope
  atProvider :
    match kind with
    | .action _ => resource.providerId.isSome = true
    | .delete => True
  accepted :
    AcceptedAt lib request (kind.operationId lib request) kind.lifecycle resource w

end CanonicalKind

/-- Nothing is in the way of a deletion: the state of the server can be read; if
it is deleted already, its intent can be read too; and if it has no identity at a
provider, its create is known to have failed without ever taking effect. -/
def Deletable (t : OperationTables) (resource : ResourceRecord) : Prop :=
  match serverStateFromStorage resource.observedState with
  | .error _ => False
  | .ok state =>
    if state = .deleted then
      (lib.parse resource.desiredState).isSome = true
    else
      resource.providerId.isNone = true →
        ∃ intent ∈ lib.parse resource.desiredState,
          ∃ create ∈ t.operations.get? intent.operationId, createAbsent create = true

def CanonicalKind.Settleable (t : OperationTables) (resource : ResourceRecord) :
    CanonicalKind → Prop
  | .action _ => (serverStateFromStorage resource.observedState).isOk = true
  | .delete => Deletable lib t resource

variable {lib} {maxAttempts : Nat} {operationId resourceId : Uuid} {action : LifecycleAction}
variable {w : LifecycleWorld}

section Rules

variable {α β : Type} {P : β → LifecycleWorld → Prop} {E B : ComputeError → LifecycleWorld → Prop}
variable {g : α → ComputeM β}

theorem goes_okOr {error : ComputeError} {x : Option α}
    (hsome : ∀ a, x = some a → Goes lib.toLifecycleLibrary operationId P E B (g a) w)
    (hnone : x = none → E error w) :
    Goes lib.toLifecycleLibrary operationId P E B (ComputeM.okOr error x >>= g) w := by
  cases x with
  | some a => exact hsome a rfl
  | none => exact hnone rfl

theorem goes_storeResult {x : Except StoreError α}
    (hok : ∀ a, x = .ok a → Goes lib.toLifecycleLibrary operationId P E B (g a) w)
    (herror : ∀ e, x = .error e → E (.store e) w) :
    Goes lib.toLifecycleLibrary operationId P E B (ComputeM.orStore x >>= g) w := by
  cases x with
  | ok a => exact hok a rfl
  | error e => exact herror e rfl

theorem goes_orMissing {missing : StoreError} {error : ComputeError} {x : Except StoreError α}
    (hok : ∀ a, x = .ok a → Goes lib.toLifecycleLibrary operationId P E B (g a) w)
    (herror : ∀ e, x = .error e → E (if e = missing then error else .store e) w) :
    Goes lib.toLifecycleLibrary operationId P E B (ComputeM.orMissing missing error x >>= g) w := by
  cases x with
  | ok a => exact hok a rfl
  | error e => exact herror e rfl

theorem goes_metered {x : Except String Unit} {f : Unit → ComputeM β} (hx : x = .ok ())
    (h : Goes lib.toLifecycleLibrary operationId P E B (f ()) w) :
    Goes lib.toLifecycleLibrary operationId P E B (ComputeM.orMetering x >>= f) w := by
  subst hx
  exact h

theorem thrown_metered {x : Except String Unit} {f : Unit → ComputeM β} (hx : ¬ x = .ok ()) :
    ∃ e, (ComputeM.orMetering x >>= f).run = .done (.error e) := by
  cases x with
  | ok _ => exact absurd rfl hx
  | error e => exact ⟨_, rfl⟩

theorem goes_orMissing_read {missing : StoreError} {error : ComputeError} {row : α}
    {x : LifecycleAnswer} (hok : Goes lib.toLifecycleLibrary operationId P E B (g row) w)
    (hmissing : ∀ d, missing ≠ .database d) (hstore : ∀ d, E (.store (.database d)) w) :
    Goes lib.toLifecycleLibrary operationId P E B
      (ComputeM.orMissing missing error (x.read (.ok row)) >>= g) w := by
  unfold LifecycleAnswer.read
  split
  · refine goes_orMissing (fun _ h => by cases h) (fun e he => ?_)
    cases he
    rw [if_neg (Ne.symm (hmissing _))]
    exact hstore _
  · exact hok

theorem goes_closed {c : LifecycleCall} {f : LifecycleReply c → ComputeM β}
    (h : Closed operationId w) :
    Goes lib.toLifecycleLibrary operationId P E B (ComputeM.call c >>= f) w :=
  Or.inl h

end Rules

section Done

variable {α : Type} {P : α → LifecycleWorld → Prop}

/-- The store has failed, or the operation is terminal. -/
def Excused (operationId : Uuid) (e : ComputeError) (w : LifecycleWorld) : Prop :=
  e.IsStoreFailure ∨ Closed operationId w

/-- The store has failed, or the operation is open. -/
def Stranded (operationId : Uuid) (e : ComputeError) (w : LifecycleWorld) : Prop :=
  e.IsStoreFailure ∨ Open operationId w

abbrev Finishes
    (lib : CanonicalLibrary) (operationId : Uuid) {α : Type} (P : α → LifecycleWorld → Prop)
    (p : ComputeM α) (w : LifecycleWorld) :
    Prop :=
  Goes lib.toLifecycleLibrary operationId P (Excused operationId) (Stranded operationId) p w

abbrev Found (operationId : Uuid) (w : LifecycleWorld) : Prop :=
  Closed operationId w ∨ Open operationId w

theorem finishes_served
    {reply : Except ComputeError Unit} {f : Unit → ComputeM α} (hf : Finishes lib operationId P (f ()) w)
    (hprovides : ∀ e, reply = .error e → e.IsStoreFailure) :
    Finishes lib operationId P (ComputeM.given reply >>= f) w := by
  cases reply with
  | ok _ => exact hf
  | error e => exact Or.inl (hprovides e rfl)

theorem thrown_served {reply : Except ComputeError Unit} {f : Unit → ComputeM α}
    (hfails : ¬ ∀ e, reply = .error e → e.IsStoreFailure) :
    ∃ e, (ComputeM.given reply >>= f).run = .done (.error e) := by
  cases reply with
  | ok _ => exact absurd (fun e he => by cases he) hfails
  | error e => exact ⟨e, rfl⟩

theorem finishes_cleanup {step : CleanupStep}
    (hstep : step ≠ .releaseReservation) (hrow : Found operationId w) {f : Unit → ComputeM α}
    (hf : Finishes lib operationId P (f ()) w) :
    Finishes lib operationId P
      (ComputeM.call (.cleanup step) >>= fun reply => ComputeM.given reply >>= f) w := by
  have hprovides : ∀ x : LifecycleAnswer,
      Provides lib.toLifecycleLibrary operationId (.cleanup step) x w ↔
        ∀ e, x.served = .error e → e.IsStoreFailure := by
    intro x
    cases step with
    | releaseReservation => exact absurd rfl hstep
    | _ => exact Iff.rfl
  refine goes_call hrow (fun x _ _ h => finishes_served hf ((hprovides x).mp h)) (fun x hopen h => ?_)
  obtain ⟨e, he⟩ := thrown_served (f := f) (fun hall => h ((hprovides x).mpr hall))
  exact ⟨e, he, Or.inr hopen⟩

theorem finishes_freshReceipt (id : Uuid) (state : OperationState) (hrow : Found operationId w) :
    Finishes lib operationId (fun _ _ => True) (freshReceipt id operationId state) w := by
  refine goes_call (c := .recordRequiredAudit) hrow
    (fun x _ _ h => finishes_served (throws_of_done rfl trivial) h) (fun x hopen h => ?_)
  obtain ⟨e, he⟩ := thrown_served
    (f := fun _ => (pure ⟨id, operationId, state, false⟩ : ComputeM MutationReceipt)) h
  exact ⟨e, he, Or.inr hopen⟩

theorem finishes_cleanUpDeleted (h : Closed operationId w) :
    Finishes lib operationId (fun _ _ => False) cleanUpDeleted w :=
  goes_closed h

end Done

section Writes

theorem Created.underway {before : OperationTables}
    (h : Created operationId resourceId action before w.tables) :
    Underway lib.toLifecycleLibrary operationId resourceId action w :=
  ⟨_, h.row, rfl, rfl, fun _ _ hid => by cases hid⟩

theorem updateOperationBody_of_open {row : OperationRecord}
    (hget : w.tables.operations.get? operationId = some row) (hopen : row.state.isTerminal = false)
    {state : OperationState} {providerOperationId errorCategory errorMessage : Option String}
    {now : String} :
    ∃ t', updateOperationBody operationId state providerOperationId errorCategory errorMessage now
      w.tables = .ok ((), t') := by
  simp only [updateOperationBody, get_bind_apply, hget, orFail_some_bind, hopen]
  exact ⟨_, rfl⟩

theorem finishes_write {α : Type} {P : α → LifecycleWorld → Prop} {f : Unit → ComputeM α}
    {write : OperationWrite} {x : LifecycleAnswer}
    (hvalid : write.validate lib.text.isRfc3339 = .ok ())
    (hfails : ∀ e, write.body w.tables = .error e → ComputeError.IsStoreFailure (.store e))
    (hcloses : ∀ t', write.body w.tables = .ok ((), t') → Closed operationId { w with tables := t' })
    (hf : ∀ w', Closed operationId w' → Finishes lib operationId P (f ()) w') :
    let r := execWrite lib.toLifecycleLibrary x w write
    Finishes lib operationId P (ComputeM.orStore r.1 >>= f) r.2 := by
  intro r
  rcases execWrite_cases lib.toLifecycleLibrary x w write
    with ⟨_, e, he, ⟨d, rfl⟩ | hinvalid | hbody⟩ | ⟨t', hbody, hworld, hok | ⟨d, he⟩⟩
  · exact goes_storeResult (fun _ h => by cases he.symm.trans h)
      (fun _ h => by cases he.symm.trans h; exact Or.inl trivial)
  · cases hvalid.symm.trans hinvalid
  · exact goes_storeResult (fun _ h => by cases he.symm.trans h)
      (fun _ h => by cases he.symm.trans h; exact Or.inl (hfails e hbody))
  · refine goes_storeResult (fun _ _ => hf _ ?_) (fun _ h => by cases hok.symm.trans h)
    show Closed operationId (execWrite _ _ _ _).2
    rw [hworld]
    exact hcloses t' hbody
  · exact goes_storeResult (fun _ h => by cases he.symm.trans h)
      (fun _ h => by cases he.symm.trans h; exact Or.inl trivial)

theorem open_row (h : Underway lib.toLifecycleLibrary operationId resourceId action w)
    (hopen : Open operationId w) :
    ∃ row, w.tables.operations.get? operationId = some row ∧ row.state.isTerminal = false ∧
      RowOf lib.toLifecycleLibrary resourceId action row := by
  obtain ⟨row, hget, hrow⟩ := h
  obtain ⟨row', hget', hstate⟩ := hopen
  cases hget.symm.trans hget'
  exact ⟨row, hget, hstate, hrow⟩

theorem finishes_recordSuccess {α : Type} {P : α → LifecycleWorld → Prop} {f : Unit → ComputeM α}
    (h : Underway lib.toLifecycleLibrary operationId resourceId action w)
    (hf : ∀ w', Closed operationId w' → Finishes lib operationId P (f ()) w') :
    Finishes lib operationId P
      (ComputeM.call (.updateOperation operationId .succeeded none none none) >>=
        fun reply => ComputeM.orStore reply >>= f) w := by
  refine goes_write (fun _ _ => trivial) h.closed_or_open (fun x hopen => ?_)
  obtain ⟨row, hget, hstate, hrow⟩ := open_row h hopen
  refine finishes_write rfl (fun e he => ?_) (fun t' hbody => ?_) hf
  · obtain ⟨t', ht'⟩ := updateOperationBody_of_open hget hstate
    cases ht'.symm.trans he
  · obtain ⟨_, row', hget', _, hwritten⟩ :=
      rowOf_updateOperation hbody hget hstate hrow (fun _ h => by cases h)
    exact ⟨row', hget', by rw [hwritten]; rfl⟩

variable {terminalization : LifecycleTerminalization}

theorem storeFailure_of_terminalize {now : String} {e : StoreError} {t : OperationTables}
    (h : terminalizeLifecycleBody terminalization now t = .error e) {row : OperationRecord}
    (hget : t.operations.get? terminalization.operationId = some row)
    (hresource : row.resourceId = terminalization.resource.resourceId)
    (hopen : row.state.isTerminal = false) :
    ComputeError.IsStoreFailure (.store e) := by
  simp only [terminalizeLifecycleBody, get_bind_apply, hget, orFail_some_bind] at h
  rcases require_bind_eq_error.mp h with ⟨hother, _⟩ | ⟨_, h⟩
  · exact absurd hresource hother
  rw [if_neg (by simp [hopen]), set_bind_apply] at h
  simp only [projectResource, get_bind_apply] at h
  rcases orFail_bind_eq_error.mp h with ⟨_, rfl⟩ | ⟨resource, _, h⟩
  · trivial
  · rcases require_bind_eq_error.mp h with ⟨_, rfl⟩ | ⟨_, h⟩
    · trivial
    · rcases require_bind_eq_error.mp h with ⟨_, rfl⟩ | ⟨_, h⟩
      · trivial
      · cases h

theorem finishes_terminalizeDeleted {α : Type} {P : α → LifecycleWorld → Prop}
    {f : Unit → ComputeM α} (h : Underway lib.toLifecycleLibrary operationId resourceId action w)
    (hoperation : terminalization.operationId = operationId)
    (hresource : terminalization.resource.resourceId = resourceId)
    (hstate : terminalization.terminalState = .succeeded)
    (hf : ∀ w', Closed operationId w' → Finishes lib operationId P (f ()) w') :
    Finishes lib operationId P
      (ComputeM.call (.terminalize terminalization) >>=
        fun reply => ComputeM.orStore reply >>= f) w := by
  subst hoperation
  refine goes_write (fun _ _ => trivial) h.closed_or_open (fun x hopen => ?_)
  obtain ⟨row, hget, hopen, hrow⟩ := open_row h hopen
  refine finishes_write ?_ (fun e he => ?_) (fun t' hbody => ?_) hf
  · simp only [OperationWrite.validate, LifecycleTerminalization.validate, hstate]
    rfl
  · exact storeFailure_of_terminalize he hget (hrow.resourceId.trans hresource.symm) hopen
  · obtain ⟨⟨row', hget', _, _, hwritten⟩, _⟩ := rowOf_terminalizeLifecycle hbody hget hopen hrow
    exact ⟨row', hget', by rw [hwritten, hstate]; rfl⟩

end Writes

end Lifecycle
end O3k
