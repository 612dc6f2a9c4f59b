import O3k.Operations.Records
import O3k.Relational.Transaction

/-!
# The four writers of an operation's state

`update_operation`, `update_canonical_operation_lifecycle`,
`update_resource_and_complete_operation` and `terminalize_lifecycle`.  Each
runs in one `BEGIN IMMEDIATE` transaction.  The clock is read inside two of
them; the reading `now` is an argument here.
-/

namespace O3k
namespace Operations

open Relational Relational.Transaction

abbrev Body (α : Type) := Transaction OperationTables StoreError α

/-- `CanonicalOperationLifecycleUpdate`. -/
structure LifecycleUpdate where
  state : OperationState
  attempt : Nat
  startedAt : Option String
  finishedAt : Option String
  publicError : Option String
  deriving DecidableEq

/-- The columns that a generation-fenced `UPDATE resources` writes. -/
structure ResourceProjection where
  resourceId : Uuid
  expectedGeneration : Int
  desiredState : String
  observedState : String
  observedGeneration : Int
  providerId : Option String
  deriving DecidableEq

structure LifecycleTerminalization where
  operationId : Uuid
  terminalState : OperationState
  providerOperationId : Option String
  errorCategory : Option String
  errorMessage : Option String
  resource : ResourceProjection
  deriving DecidableEq

/-- `validate_canonical_lifecycle_update`; `isRfc3339` is
`DateTime::parse_from_rfc3339(…).is_ok()`. -/
def validateCanonicalLifecycleUpdate (isRfc3339 : String → Bool) (update : LifecycleUpdate) :
    Except StoreError Unit :=
  if ¬ (update.startedAt.all isRfc3339 ∧ update.finishedAt.all isRfc3339) then
    .error (.corrupt "invalid canonical operation timestamp")
  else if update.state = .running ∧ update.startedAt = none then
    .error (.corrupt "running operation requires started_at")
  else if update.state.isTerminal ∧ update.finishedAt = none then
    .error (.corrupt "terminal operation requires finished_at")
  else if update.state = .unknownOutcome ∧ update.finishedAt ≠ none then
    .error (.corrupt "unknown outcome cannot have finished_at")
  else
    .ok ()

/-- `LifecycleTerminalization::validate`. -/
def LifecycleTerminalization.validate (terminalization : LifecycleTerminalization) :
    Except StoreError Unit :=
  if terminalization.terminalState.isTerminal then
    .ok ()
  else
    .error (.corrupt "lifecycle terminalization requires a terminal state")

/-- The stored provider identity and the incoming one differ. -/
def OperationRecord.providerConflicts (current : OperationRecord) (incoming : Option String) :
    Bool :=
  current.providerOperationId.any
    (fun existing => incoming.any (fun value => value ≠ existing))

/-- The `COALESCE`s by which a repeated terminal write fills in evidence. -/
def OperationRecord.fillIn
    (current : OperationRecord) (providerOperationId errorCategory errorMessage : Option String) :
    OperationRecord :=
  { current with
    providerOperationId := providerOperationId.or current.providerOperationId
    errorCategory := errorCategory.or current.errorCategory
    errorMessage := errorMessage.or current.errorMessage }

/-- `UPDATE resources SET generation = generation + 1, … WHERE id = ? AND
generation = ?`, with the look that tells a stale generation from a missing
resource. -/
def projectResource (projection : ResourceProjection) : Body Unit := do
  let t ← get
  let row ← orFail (t.resources.get? projection.resourceId) .resourceNotFound
  require (row.generation = projection.expectedGeneration) .staleGeneration
  let row :=
    { row with
      generation := row.generation + 1
      desiredState := projection.desiredState
      observedState := projection.observedState
      observedGeneration := projection.observedGeneration
      providerId := projection.providerId }
  require row.satisfiesChecks (.database .checkViolation)
  set (t.putResource row)

def CanonicalMetadata.withLifecycle (row : CanonicalMetadata) (update : LifecycleUpdate) :
    CanonicalMetadata :=
  { row with
    attempt := update.attempt
    startedAt := update.startedAt
    finishedAt := update.finishedAt
    error := update.publicError }

/-- `started_at = COALESCE(started_at, ?), finished_at = ?, error = ?`. -/
def CanonicalMetadata.project
    (row : CanonicalMetadata) (startedAt finishedAt error : Option String) :
    CanonicalMetadata :=
  { row with
    startedAt := row.startedAt.or startedAt
    finishedAt := finishedAt
    error := error }

def updateOperationBody (id : Uuid) (state : OperationState)
    (providerOperationId errorCategory errorMessage : Option String) (now : String) :
    Body Unit := do
  let t ← get
  let current ← orFail (t.operations.get? id) .operationNotFound
  if current.state.isTerminal then
    require (¬ current.providerConflicts providerOperationId)
      (.corrupt "terminal operation provider identity conflicts with durable state")
    if current.state ≠ state then
      -- a stale non-terminal projection is dropped without an error
      require (¬ state.isTerminal)
        (.corrupt "terminal operation state cannot conflict with durable state")
    else
      set (t.putOperation (current.fillIn providerOperationId errorCategory errorMessage))
  else
    let written :=
      { current with
        state := state
        providerOperationId := providerOperationId
        errorCategory := errorCategory
        errorMessage := errorMessage }
    let startedAt := if state = .pending then none else some now
    let finishedAt := if state.isTerminal then some now else none
    set ((t.putOperation written).modifyMetadata id
      (fun row => row.project startedAt finishedAt errorCategory))

def updateCanonicalOperationLifecycleBody (id : Uuid) (update : LifecycleUpdate) : Body Unit := do
  let t ← get
  let operation ← orFail (t.operations.get? id) .operationNotFound
  let _ ← orFail (t.metadata.get? id) (.corrupt "canonical lifecycle metadata is missing")
  require (¬ (operation.state.isTerminal ∧ update.state ≠ operation.state))
    (.corrupt "terminal operation state cannot regress")
  set ((t.putOperation { operation with state := update.state }).modifyMetadata id
    (fun row => row.withLifecycle update))

def updateResourceAndCompleteOperationBody
    (projection : ResourceProjection) (operationId : Uuid) (lifecycle : LifecycleUpdate) :
    Body Unit := do
  projectResource projection
  let t ← get
  let operation ← orFail (t.operations.get? operationId) .operationNotFound
  require (¬ operation.state.isTerminal) (.corrupt "operation already terminal")
  set ((t.putOperation { operation with state := lifecycle.state }).modifyMetadata operationId
    (fun row => row.withLifecycle lifecycle))

def terminalizeLifecycleBody (terminalization : LifecycleTerminalization) (now : String) :
    Body Unit := do
  let t ← get
  let current ← orFail (t.operations.get? terminalization.operationId) .operationNotFound
  require (current.resourceId = terminalization.resource.resourceId)
    (.corrupt "lifecycle operation resource identity does not match terminalization")
  if current.state.isTerminal then
    require (¬ current.providerConflicts terminalization.providerOperationId)
      (.corrupt "terminal operation provider identity conflicts with durable state")
    require (current.state = terminalization.terminalState)
      (.corrupt "terminal operation state cannot conflict with durable state")
    set (t.putOperation
      (current.fillIn terminalization.providerOperationId terminalization.errorCategory
        terminalization.errorMessage))
  else
    let written :=
      { current with
        state := terminalization.terminalState
        providerOperationId := terminalization.providerOperationId
        errorCategory := terminalization.errorCategory
        errorMessage := terminalization.errorMessage }
    set ((t.putOperation written).modifyMetadata terminalization.operationId
      (fun row => row.project (some now) (some now) terminalization.errorCategory))
    projectResource terminalization.resource

section Methods

variable (isRfc3339 : String → Bool)

/-- A call of one of the four writers. -/
inductive OperationWrite
  | updateOperation (id : Uuid) (state : OperationState)
      (providerOperationId errorCategory errorMessage : Option String) (now : String)
  | updateCanonicalOperationLifecycle (id : Uuid) (update : LifecycleUpdate)
  | updateResourceAndCompleteOperation (projection : ResourceProjection) (operationId : Uuid)
      (lifecycle : LifecycleUpdate)
  | terminalizeLifecycle (terminalization : LifecycleTerminalization) (now : String)
  deriving DecidableEq

namespace OperationWrite

def operationId : OperationWrite → Uuid
  | updateOperation id _ _ _ _ _ => id
  | updateCanonicalOperationLifecycle id _ => id
  | updateResourceAndCompleteOperation _ operationId _ => operationId
  | terminalizeLifecycle terminalization _ => terminalization.operationId

def state : OperationWrite → OperationState
  | updateOperation _ state _ _ _ _ => state
  | updateCanonicalOperationLifecycle _ update => update.state
  | updateResourceAndCompleteOperation _ _ lifecycle => lifecycle.state
  | terminalizeLifecycle terminalization _ => terminalization.terminalState

def providerOperationId : OperationWrite → Option String
  | updateOperation _ _ providerOperationId _ _ _ => providerOperationId
  | terminalizeLifecycle terminalization _ => terminalization.providerOperationId
  | _ => none

/-- The check made before the transaction. -/
def validate : OperationWrite → Except StoreError Unit
  | updateOperation _ _ _ _ _ _ => .ok ()
  | updateCanonicalOperationLifecycle _ update => validateCanonicalLifecycleUpdate isRfc3339 update
  | updateResourceAndCompleteOperation _ _ lifecycle =>
    validateCanonicalLifecycleUpdate isRfc3339 lifecycle
  | terminalizeLifecycle terminalization _ => terminalization.validate

def body : OperationWrite → Body Unit
  | updateOperation id state providerOperationId errorCategory errorMessage now =>
    updateOperationBody id state providerOperationId errorCategory errorMessage now
  | updateCanonicalOperationLifecycle id update => updateCanonicalOperationLifecycleBody id update
  | updateResourceAndCompleteOperation projection operationId lifecycle =>
    updateResourceAndCompleteOperationBody projection operationId lifecycle
  | terminalizeLifecycle terminalization now => terminalizeLifecycleBody terminalization now

/-- The outcome of the write; what the method reads back afterwards is not
part of it. -/
def exec (w : OperationWrite) (t : OperationTables) : Except StoreError Unit × OperationTables :=
  match w.validate isRfc3339 with
  | .error e => (.error e, t)
  | .ok () => atomically w.body t

end OperationWrite

def write (t : OperationTables) (w : OperationWrite) : OperationTables := (w.exec isRfc3339 t).2

end Methods

/-- The row as the statement on `resources` leaves it. -/
def ResourceRecord.projected (row : ResourceRecord) (projection : ResourceProjection) :
    ResourceRecord :=
  { row with
    generation := row.generation + 1
    desiredState := projection.desiredState
    observedState := projection.observedState
    observedGeneration := projection.observedGeneration
    providerId := projection.providerId }

/-- The row that the projection expects, and that may be written. -/
structure Projects (t : OperationTables) (projection : ResourceProjection) (row : ResourceRecord) :
    Prop where
  get : t.resources.get? projection.resourceId = some row
  generation : row.generation = projection.expectedGeneration
  checks : (row.projected projection).satisfiesChecks = true

/-- The committed writes, branch by branch. -/
inductive Wrote (t : OperationTables) : OperationWrite → OperationTables → Prop
  | dropped {id state provider category message now current}
      (hget : t.operations.get? id = some current) (hterminal : current.state.isTerminal = true)
      (hstate : state.isTerminal = false) :
      Wrote t (.updateOperation id state provider category message now) t
  | repeated {id state provider category message now current}
      (hget : t.operations.get? id = some current) (hterminal : current.state.isTerminal = true)
      (hagrees : current.providerConflicts provider = false) (hstate : current.state = state) :
      Wrote t (.updateOperation id state provider category message now)
        (t.putOperation (current.fillIn provider category message))
  | updated {id state provider category message now current}
      (hget : t.operations.get? id = some current) (hopen : current.state.isTerminal = false) :
      Wrote t (.updateOperation id state provider category message now)
        ((t.putOperation
          { current with
            state := state
            providerOperationId := provider
            errorCategory := category
            errorMessage := message }).modifyMetadata id
          (fun row => row.project (if state = .pending then none else some now)
            (if state.isTerminal then some now else none) category))
  | projected {id update current} (hget : t.operations.get? id = some current)
      (hregress : current.state.isTerminal = true → current.state = update.state) :
      Wrote t (.updateCanonicalOperationLifecycle id update)
        ((t.putOperation { current with state := update.state }).modifyMetadata id
          (fun row => row.withLifecycle update))
  | completed {projection id lifecycle current resource}
      (hresource : Projects t projection resource) (hget : t.operations.get? id = some current)
      (hopen : current.state.isTerminal = false) :
      Wrote t (.updateResourceAndCompleteOperation projection id lifecycle)
        (((t.putResource (resource.projected projection)).putOperation
          { current with state := lifecycle.state }).modifyMetadata id
          (fun row => row.withLifecycle lifecycle))
  | replayed {terminalization now current}
      (hget : t.operations.get? terminalization.operationId = some current)
      (hresource : current.resourceId = terminalization.resource.resourceId)
      (hterminal : current.state.isTerminal = true)
      (hagrees : current.providerConflicts terminalization.providerOperationId = false)
      (hstate : current.state = terminalization.terminalState) :
      Wrote t (.terminalizeLifecycle terminalization now)
        (t.putOperation (current.fillIn terminalization.providerOperationId
          terminalization.errorCategory terminalization.errorMessage))
  | terminalized {terminalization now current resource}
      (hget : t.operations.get? terminalization.operationId = some current)
      (hopen : current.state.isTerminal = false)
      (hresource : Projects t terminalization.resource resource) :
      Wrote t (.terminalizeLifecycle terminalization now)
        (((t.putOperation
          { current with
            state := terminalization.terminalState
            providerOperationId := terminalization.providerOperationId
            errorCategory := terminalization.errorCategory
            errorMessage := terminalization.errorMessage }).modifyMetadata
              terminalization.operationId
          (fun row => row.project (some now) (some now) terminalization.errorCategory)).putResource
          (resource.projected terminalization.resource))

section Inversion

variable {t t' : OperationTables}

theorem projectResource_ok {projection : ResourceProjection}
    (h : projectResource projection t = .ok ((), t')) :
    ∃ row, Projects t projection row ∧ t' = t.putResource (row.projected projection) := by
  simp only [projectResource, get_bind_apply] at h
  obtain ⟨row, hget, h⟩ := orFail_bind_eq_ok.mp h
  obtain ⟨hgeneration, h⟩ := require_bind_eq_ok.mp h
  obtain ⟨hchecks, h⟩ := require_bind_eq_ok.mp h
  cases h
  exact ⟨row, ⟨hget, hgeneration, hchecks⟩, rfl⟩

/-- **Inversion of the writers**: a body that succeeds has taken one of the
listed branches. -/
theorem wrote_of_body {w : OperationWrite} (h : w.body t = .ok ((), t')) : Wrote t w t' := by
  cases w with
  | updateOperation id state provider category message now =>
    simp only [OperationWrite.body, updateOperationBody, get_bind_apply] at h
    obtain ⟨current, hget, h⟩ := orFail_bind_eq_ok.mp h
    split at h
    · rename_i hterminal
      obtain ⟨hagrees, h⟩ := require_bind_eq_ok.mp h
      split at h
      · obtain ⟨hstate, hsame⟩ := require_eq_ok.mp h
        cases hsame
        exact .dropped hget hterminal (Bool.not_eq_true _ ▸ hstate)
      · rename_i hstate
        cases h
        exact .repeated hget hterminal (Bool.not_eq_true _ ▸ hagrees) (not_not.mp hstate)
    · rename_i hopen
      cases h
      exact .updated hget (Bool.not_eq_true _ ▸ hopen)
  | updateCanonicalOperationLifecycle id update =>
    simp only [OperationWrite.body, updateCanonicalOperationLifecycleBody, get_bind_apply] at h
    obtain ⟨current, hget, h⟩ := orFail_bind_eq_ok.mp h
    obtain ⟨_, _, h⟩ := orFail_bind_eq_ok.mp h
    obtain ⟨hregress, h⟩ := require_bind_eq_ok.mp h
    cases h
    exact .projected hget (fun hterminal => by_contra fun hne =>
      hregress ⟨hterminal, Ne.symm hne⟩)
  | updateResourceAndCompleteOperation projection operationId lifecycle =>
    obtain ⟨_, t₁, hproject, h⟩ := bind_eq_ok.mp h
    obtain ⟨resource, hresource, rfl⟩ := projectResource_ok hproject
    rw [get_bind_apply] at h
    obtain ⟨current, hget, h⟩ := orFail_bind_eq_ok.mp h
    obtain ⟨hopen, h⟩ := require_bind_eq_ok.mp h
    cases h
    exact .completed hresource hget (Bool.not_eq_true _ ▸ hopen)
  | terminalizeLifecycle terminalization now =>
    simp only [OperationWrite.body, terminalizeLifecycleBody, get_bind_apply] at h
    obtain ⟨current, hget, h⟩ := orFail_bind_eq_ok.mp h
    obtain ⟨hsame, h⟩ := require_bind_eq_ok.mp h
    split at h
    · rename_i hterminal
      obtain ⟨hagrees, h⟩ := require_bind_eq_ok.mp h
      obtain ⟨hstate, h⟩ := require_bind_eq_ok.mp h
      cases h
      exact .replayed hget hsame hterminal (Bool.not_eq_true _ ▸ hagrees) hstate
    · rename_i hopen
      rw [set_bind_apply] at h
      obtain ⟨resource, ⟨hrow, hgeneration, hchecks⟩, rfl⟩ := projectResource_ok h
      rw [OperationTables.resources_modifyMetadata] at hrow
      exact .terminalized hget (Bool.not_eq_true _ ▸ hopen) ⟨hrow, hgeneration, hchecks⟩

/-- A call fails and changes nothing, or has passed its check and taken a branch. -/
theorem writeExec_cases (isRfc3339 : String → Bool) (t : OperationTables) (w : OperationWrite) :
    (∃ e, w.exec isRfc3339 t = (.error e, t)) ∨
      ∃ t', w.exec isRfc3339 t = (.ok (), t') ∧ w.validate isRfc3339 = .ok () ∧ Wrote t w t' := by
  unfold OperationWrite.exec
  cases hvalid : w.validate isRfc3339 with
  | error e => exact Or.inl ⟨e, rfl⟩
  | ok =>
    cases hbody : w.body t with
    | error e => exact Or.inl ⟨e, atomically_of_error hbody⟩
    | ok r => exact Or.inr ⟨r.2, atomically_of_ok hbody, rfl, wrote_of_body hbody⟩

theorem write_cases (isRfc3339 : String → Bool) (t : OperationTables) (w : OperationWrite) :
    write isRfc3339 t w = t ∨
      (w.validate isRfc3339 = .ok () ∧ Wrote t w (write isRfc3339 t w)) := by
  unfold write
  rcases writeExec_cases isRfc3339 t w with ⟨e, he⟩ | ⟨t', hok, hvalid, hwrote⟩
  · exact Or.inl (congrArg Prod.snd he)
  · rw [hok]
    exact Or.inr ⟨hvalid, hwrote⟩

end Inversion

end Operations
end O3k
