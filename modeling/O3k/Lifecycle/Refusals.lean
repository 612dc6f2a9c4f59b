import O3k.Lifecycle.Canonical
import O3k.Lifecycle.Writes
import O3k.Operations.Reservations
import O3k.Semantics.Verdicts

/-!
# What a canonical request leaves behind that is refused

A request that returns an error has stored nothing, or what it has stored is
terminal, if the store has not failed.  Here: what that means, which answers
keep a reconciliation from failing, and what its writes do to the accepted row.
-/

namespace O3k
namespace Lifecycle

open Relational Relational.Transaction Operations Semantics
open Journal (ServerState InstanceState serverStateToStorage)

variable (lib : LifecycleLibrary)

def Open (id : Uuid) (w : LifecycleWorld) : Prop :=
  ∃ row, w.tables.operations.get? id = some row ∧ row.state.isTerminal = false

def Closed (id : Uuid) (w : LifecycleWorld) : Prop :=
  ∃ row, w.tables.operations.get? id = some row ∧ row.state.isTerminal = true

instance (id : Uuid) : DecidablePred (Closed id) := fun w =>
  inferInstanceAs (Decidable (∃ row ∈ w.tables.operations.get? id, row.state.isTerminal = true))

/-- A row of the operation is terminal, if there is one. -/
def Settled (id : Uuid) (w : LifecycleWorld) : Prop :=
  ∀ row, w.tables.operations.get? id = some row → row.state.isTerminal = true

def ComputeError.IsStoreFailure : ComputeError → Prop
  | .store (.corrupt _) => False
  | .store _ => True
  | .reconcile (.store _) => True
  | _ => False

/-- A call that has been refused has stored nothing, or its operation is
terminal. -/
def LeavesNothingOpen
    (id : Uuid) (before after : LifecycleWorld) (result : Except ComputeError MutationReceipt) :
    Prop :=
  ∀ e, result = .error e → ¬ e.IsStoreFailure → after.tables = before.tables ∨ Settled id after

/-- The provider names its operations by uuids. -/
structure Typed (x : LifecycleAnswer) : Prop where
  accepted :
    ∀ answer, x.operation = .ok answer → (lib.parseUuid answer.providerOperationId).isSome = true
  unknown :
    ∀ id, x.operation = .error (.unknownOutcome id) → (lib.parseUuid id).isSome = true

/-- The call gets what it needs from outside the store: the provider answers for
the operation that it is asked about and says in what state the instance is, and
the metering, the cleanup and the audit succeed. -/
def Provides (operationId : Uuid) (c : LifecycleCall) (x : LifecycleAnswer) (w : LifecycleWorld) :
    Prop :=
  match c with
  | .dispatch d =>
    ∀ answer, x.operation = .ok answer →
      validateLifecycleProviderOperationOwner lib operationId d.action answer = .ok ()
  | .getProviderOperation _ =>
    ∃ answer, x.operation = .ok answer ∧ answer.o3kOperationId = operationId
  | .getInstance _ => x.observed.isOk = true
  | .observeInstance id _ =>
    (∃ row ∈ w.tables.operations.get? id, row.providerOperationId.isSome = true) →
      x.observed.isOk = true
  | .projectMetering _ _ => x.metering = .ok ()
  | .cleanup .releaseReservation => True
  | .cleanup _ => ∀ e, x.served = .error e → e.IsStoreFailure
  | .recordRequiredAudit => ∀ e, x.served = .error e → e.IsStoreFailure
  | _ => True

/-- As long as the operation is open, nothing fails outside the store. -/
def Works (operationId : Uuid) (c : LifecycleCall) (x : LifecycleAnswer) (w : LifecycleWorld) :
    Prop :=
  Open operationId w → Provides lib operationId c x w

/-- The row of an accepted operation. -/
structure RowOf (resourceId : Uuid) (action : LifecycleAction) (row : OperationRecord) : Prop where
  resourceId : row.resourceId = resourceId
  kind : row.kind = action.kind
  provider :
    row.state.isTerminal = false →
      ∀ id ∈ row.providerOperationId, (lib.parseUuid id).isSome = true

/-- An operation that has been accepted for the server. -/
def Underway (operationId resourceId : Uuid) (action : LifecycleAction) (w : LifecycleWorld) :
    Prop :=
  ∃ row, w.tables.operations.get? operationId = some row ∧ RowOf lib resourceId action row

def AtProvider (resourceId : Uuid) (w : LifecycleWorld) : Prop :=
  ∃ resource, w.tables.resources.get? resourceId = some resource ∧
    resource.providerId.isSome = true

variable {lib} {w : LifecycleWorld} {x : LifecycleAnswer}
variable {operationId resourceId : Uuid} {action : LifecycleAction}

theorem Closed.settled (h : Closed operationId w) : Settled operationId w := by
  obtain ⟨row, hget, hterminal⟩ := h
  intro row' hget'
  cases hget.symm.trans hget'
  exact hterminal

theorem Closed.congr {w' : LifecycleWorld}
    (h : Closed operationId w) (htables : w'.tables.operations = w.tables.operations) :
    Closed operationId w' := by
  unfold Closed
  rw [htables]
  exact h

theorem execWrite_cases
    (lib : LifecycleLibrary) (x : LifecycleAnswer) (w : LifecycleWorld) (write : OperationWrite) :
    ((execWrite lib x w write).2 = w ∧
        ∃ e, (execWrite lib x w write).1 = .error e ∧
          ((∃ d, e = .database d) ∨ write.validate lib.text.isRfc3339 = .error e ∨
            write.body w.tables = .error e)) ∨
      ∃ t', write.body w.tables = .ok ((), t') ∧
        (execWrite lib x w write).2 = { w with tables := t' } ∧
          ((execWrite lib x w write).1 = .ok () ∨
            ∃ d, (execWrite lib x w write).1 = .error (.database d)) := by
  unfold execWrite LifecycleAnswer.settle OperationWrite.exec
  cases hvalid : write.validate lib.text.isRfc3339 with
  | error e =>
    refine Or.inl ?_
    split
    · exact ⟨rfl, e, rfl, Or.inr (Or.inl rfl)⟩
    · exact ⟨rfl, _, rfl, Or.inl ⟨_, rfl⟩⟩
    · exact ⟨rfl, _, rfl, Or.inl ⟨_, rfl⟩⟩
  | ok _ =>
    cases hbody : write.body w.tables with
    | error e =>
      refine Or.inl ?_
      simp only [atomically_of_error hbody]
      split
      · exact ⟨rfl, e, rfl, Or.inr (Or.inr rfl)⟩
      · exact ⟨rfl, _, rfl, Or.inl ⟨_, rfl⟩⟩
      · exact ⟨rfl, _, rfl, Or.inl ⟨_, rfl⟩⟩
    | ok outcome =>
      obtain ⟨_, t'⟩ := outcome
      simp only [atomically_of_ok hbody]
      split
      · exact Or.inr ⟨t', rfl, rfl, Or.inl rfl⟩
      · exact Or.inr ⟨t', rfl, rfl, Or.inr ⟨_, rfl⟩⟩
      · exact Or.inl ⟨rfl, _, rfl, Or.inl ⟨_, rfl⟩⟩

section Writes

variable {t t' : OperationTables}

theorem rowOf_updateOperation {state : OperationState}
    {providerOperationId errorCategory errorMessage : Option String} {now : String}
    (h : updateOperationBody operationId state providerOperationId errorCategory errorMessage now t
      = .ok ((), t'))
    {row : OperationRecord} (hget : t.operations.get? operationId = some row)
    (hopen : row.state.isTerminal = false) (hrow : RowOf lib resourceId action row)
    (hprovider : ∀ id ∈ providerOperationId, (lib.parseUuid id).isSome = true) :
    t'.resources = t.resources ∧
      ∃ row', t'.operations.get? operationId = some row' ∧ RowOf lib resourceId action row' ∧
        row'.state = state := by
  have hid : row.id = operationId := Table.key_of_get? _ hget
  cases wrote_of_body (w := .updateOperation operationId state providerOperationId errorCategory
    errorMessage now) h with
  | dropped hcurrent hterminal | repeated hcurrent hterminal =>
    cases hget.symm.trans hcurrent
    cases hopen.symm.trans hterminal
  | updated hcurrent =>
    cases hget.symm.trans hcurrent
    refine ⟨by simp, ?_⟩
    simp only [OperationTables.operations_modifyMetadata, OperationTables.putOperation_operations]
    rw [← hid]
    exact ⟨_, Table.get?_put_self t.operations _,
      ⟨hrow.resourceId, hrow.kind, fun _ => hprovider⟩, rfl⟩

theorem atProvider_putResource {projection : ResourceProjection} {resource : ResourceRecord}
    (hexpected : Projects t projection resource) (hprojection : projection.resourceId = resourceId)
    (hprovider : projection.providerId.isSome = true) :
    ∃ row, (t.putResource (resource.projected projection)).resources.get? resourceId = some row ∧
      row.providerId.isSome = true := by
  have hid : resource.id = resourceId := (Table.key_of_get? _ hexpected.get).trans hprojection
  rw [← hid]
  exact ⟨_, Table.get?_put_self t.resources (resource.projected projection), hprovider⟩

theorem rowOf_terminalizeLifecycle {terminalization : LifecycleTerminalization} {now : String}
    (h : terminalizeLifecycleBody terminalization now t = .ok ((), t'))
    {row : OperationRecord} (hget : t.operations.get? terminalization.operationId = some row)
    (hopen : row.state.isTerminal = false) (hrow : RowOf lib resourceId action row) :
    (∃ row', t'.operations.get? terminalization.operationId = some row' ∧
        row'.resourceId = resourceId ∧ row'.kind = action.kind ∧
        row'.state = terminalization.terminalState) ∧
      ∃ t₁ resource, Projects t₁ terminalization.resource resource ∧
        t'.resources = (t₁.putResource (resource.projected terminalization.resource)).resources := by
  have hid : row.id = terminalization.operationId := Table.key_of_get? _ hget
  cases wrote_of_body (w := .terminalizeLifecycle terminalization now) h with
  | replayed hcurrent _ hclosed =>
    cases hget.symm.trans hcurrent
    cases hopen.symm.trans hclosed
  | terminalized hcurrent _ hresource =>
    cases hget.symm.trans hcurrent
    refine ⟨?_, t, _, hresource, ?_⟩
    · simp only [OperationTables.putResource_operations,
        OperationTables.operations_modifyMetadata, OperationTables.putOperation_operations]
      rw [← hid]
      exact ⟨_, Table.get?_put_self t.operations _, hrow.resourceId, hrow.kind, rfl⟩
    · simp only [OperationTables.putResource_resources,
        OperationTables.resources_modifyMetadata, OperationTables.putOperation_resources]

end Writes

/-- What a pass relies on. -/
structure Driven (lib : LifecycleLibrary) (operationId resourceId : Uuid) (action : LifecycleAction)
    (w : LifecycleWorld) :
    Prop where
  row : Underway lib operationId resourceId action w
  resource : AtProvider resourceId w

/-- The row of the operation is terminal exactly if the state is. -/
def Reports (operationId : Uuid) (state : OperationState) (w : LifecycleWorld) : Prop :=
  ∃ row, w.tables.operations.get? operationId = some row ∧
    row.state.isTerminal = state.isTerminal

theorem Reports.closed {state : OperationState}
    (h : Reports operationId state w) (hterminal : state.isTerminal = true) :
    Closed operationId w := by
  obtain ⟨row, hget, hrow⟩ := h
  exact ⟨row, hget, hrow.trans hterminal⟩

theorem Reports.isOpen {state : OperationState}
    (h : Reports operationId state w) (hopen : state.isTerminal = false) :
    Open operationId w := by
  obtain ⟨row, hget, hrow⟩ := h
  exact ⟨row, hget, hrow.trans hopen⟩

theorem Underway.closed_or_open (h : Underway lib operationId resourceId action w) :
    Closed operationId w ∨ Open operationId w := by
  obtain ⟨row, hget, _⟩ := h
  cases hstate : row.state.isTerminal with
  | true => exact Or.inl ⟨row, hget, hstate⟩
  | false => exact Or.inr ⟨row, hget, hstate⟩

theorem Driven.congr (h : Driven lib operationId resourceId action w) {w' : LifecycleWorld}
    (hoperations : w'.tables.operations = w.tables.operations)
    (hresources : w'.tables.resources = w.tables.resources) :
    Driven lib operationId resourceId action w' := by
  constructor
  · unfold Underway
    rw [hoperations]
    exact h.row
  · unfold AtProvider
    rw [hresources]
    exact h.resource

/-- **A projection of a state**. -/
theorem Driven.updateOperation
    (h : Driven lib operationId resourceId action w) (hopen : Open operationId w)
    {state : OperationState} {providerOperationId errorCategory errorMessage : Option String}
    (now : String) (hprovider : ∀ id ∈ providerOperationId, (lib.parseUuid id).isSome = true) :
    let r := execWrite lib x w
      (.updateOperation operationId state providerOperationId errorCategory errorMessage now)
    Driven lib operationId resourceId action r.2 ∧
      (r.1 = .ok () → Reports operationId state r.2) := by
  intro r
  obtain ⟨row, hget, hrow⟩ := h.row
  have hstate : row.state.isTerminal = false := by
    obtain ⟨row', hget', hstate⟩ := hopen
    cases hget.symm.trans hget'
    exact hstate
  rcases execWrite_cases lib x w
    (.updateOperation operationId state providerOperationId errorCategory errorMessage now)
    with ⟨hsame, e, herror, _⟩ | ⟨t', hbody, hworld, _⟩
  · refine ⟨?_, fun hok => by cases herror.symm.trans hok⟩
    show Driven lib operationId resourceId action r.2
    rw [hsame]
    exact h
  · obtain ⟨hresources, row', hget', hrow', hwritten⟩ :=
      rowOf_updateOperation hbody hget hstate hrow hprovider
    show Driven lib operationId resourceId action r.2 ∧ _
    rw [hworld]
    refine ⟨⟨⟨row', hget', hrow'⟩, ?_⟩, fun _ => ⟨row', hget', by rw [hwritten]⟩⟩
    obtain ⟨resource, hresource, hat⟩ := h.resource
    exact ⟨resource, by rw [← hresource]; exact congrArg (·.get? resourceId) hresources, hat⟩

/-- **A terminalization** that leaves the server at its provider. -/
theorem Driven.terminalize
    (h : Driven lib operationId resourceId action w) (hopen : Open operationId w)
    {terminalization : LifecycleTerminalization} (now : String)
    (hoperation : terminalization.operationId = operationId)
    (hterminal : terminalization.terminalState.isTerminal = true)
    (hresource : terminalization.resource.resourceId = resourceId)
    (hprovider : terminalization.resource.providerId.isSome = true) :
    let r := execWrite lib x w (.terminalizeLifecycle terminalization now)
    Driven lib operationId resourceId action r.2 ∧
      (r.1 = .ok () → Reports operationId terminalization.terminalState r.2) := by
  intro r
  subst hoperation
  obtain ⟨row, hget, hrow⟩ := h.row
  have hstate : row.state.isTerminal = false := by
    obtain ⟨row', hget', hstate⟩ := hopen
    cases hget.symm.trans hget'
    exact hstate
  rcases execWrite_cases lib x w (.terminalizeLifecycle terminalization now)
    with ⟨hsame, e, herror, _⟩ | ⟨t', hbody, hworld, _⟩
  · refine ⟨?_, fun hok => by cases herror.symm.trans hok⟩
    show Driven lib _ resourceId action r.2
    rw [hsame]
    exact h
  · obtain ⟨⟨row', hget', hsame, hkind, hwritten⟩, t₁, resource, hexpected, hput⟩ :=
      rowOf_terminalizeLifecycle hbody hget hstate hrow
    show Driven lib _ resourceId action r.2 ∧ _
    rw [hworld]
    refine ⟨⟨⟨row', hget', hsame, hkind, ?_⟩, ?_⟩, fun _ => ⟨row', hget', by rw [hwritten]⟩⟩
    · exact fun hopen' => by rw [hwritten, hterminal] at hopen'; cases hopen'
    · obtain ⟨written, hwrittenGet, hat⟩ := atProvider_putResource hexpected hresource hprovider
      exact ⟨written, by rw [← hwrittenGet]; exact congrArg (·.get? resourceId) hput, hat⟩

section Kept

theorem closed_write {isRfc3339 : String → Bool} {write : OperationWrite} {t : OperationTables}
    {row : OperationRecord} (hget : t.operations.get? operationId = some row)
    (hterminal : row.state.isTerminal = true) :
    ∃ row', (write.exec isRfc3339 t).2.operations.get? operationId = some row' ∧
      row'.state.isTerminal = true := by
  obtain ⟨row', hget', hfinal⟩ := @staysFinal_write isRfc3339 t write _ row hget hterminal
  exact ⟨row', hget', by rw [hfinal.state, hterminal]⟩

theorem closed_settle {α : Type} {result : Except StoreError α × OperationTables}
    (h : Closed operationId w) (hresult : Closed operationId { w with tables := result.2 }) :
    Closed operationId (x.settle w result).2 := by
  rcases settle_cases x w result with hsame | hcommitted
  · rw [hsame]
    exact h
  · rw [hcommitted]
    exact hresult

/-- **A terminal operation stays terminal**, whatever is called. -/
theorem closed_execLifecycle
    (c : LifecycleCall) (x : LifecycleAnswer) (w : LifecycleWorld) (h : Closed operationId w) :
    Closed operationId (execLifecycle lib c x w).2 := by
  have ⟨row, hget, hterminal⟩ := h
  cases c with
  | insertOperation inserted =>
    refine closed_settle h ?_
    rcases insertOperation_cases inserted .resourceAlreadyExists w.tables
      with hsame | ⟨habsent, hput⟩
    · exact h.congr hsame
    · refine ⟨row, ?_, hterminal⟩
      rw [hput, Table.get?_put_of_ne _ ?_, hget]
      rintro rfl
      cases habsent.symm.trans hget
  | createOrReplay seen operation canonical request =>
    simp only [execLifecycle]
    split
    · exact h
    · refine closed_settle h ?_
      cases hbody : createOrReplayCanonicalLifecycleOperationBody lib.text operation canonical
          request w.tables with
      | error e =>
        simp only [atomically_of_error hbody]
        exact h
      | ok made =>
        simp only [atomically_of_ok hbody]
        have haccepted : Accepted w.tables
            (.lifecycleOperation none operation canonical request) made.1.reservation made.2 :=
          accepted_lifecycle hbody
        generalize made.1.reservation = r at haccepted
        generalize made.2 = t' at haccepted ⊢
        cases haccepted with
        | conflict | replayed => exact h
        | created hfresh =>
          refine ⟨row, ?_, hterminal⟩
          rw [AcceptanceCall.operations_accepted, Table.get?_put_of_ne _ ?_, hget]
          rintro rfl
          cases hfresh.operation.symm.trans hget
  | updateOperation | updateCanonicalLifecycle | terminalize =>
    exact closed_settle h (closed_write hget hterminal)
  | incrementRetry id =>
    have hretried : Closed operationId (incrementRetry id w).2 :=
      h.congr (by simp [incrementRetry])
    simp only [execLifecycle]
    split
    · exact hretried
    · exact hretried
    · exact h
  | dispatch d => exact h
  | getOperation | getResource | listNonTerminal | getInstance | probeInstance | observeInstance
  | getProviderOperation | projectMetering | acquireWorkLease | releaseWorkLease | cleanup
  | showServer | recordRequiredAudit => exact h

end Kept

end Lifecycle
end O3k
