import O3k.Operations.Acceptance

/-!
# Servers and the ports they refer to

A server is a `compute_instance` row; its desired state is the create intent,
as text.  The ports that a row refers to are those its intent names, as long as
the row is not deleted.
-/

namespace O3k
namespace Compute

open Relational Relational.Transaction Operations

/-- The create intent, as far as the modelled functions read it. -/
structure CreateInstanceRequest where
  operationId : Uuid
  o3kServerId : Uuid
  projectId : String
  networkIds : List String
  placementProviderId : Option String
  placementAllocationId : Option String
  keypairId : Option Uuid
  idempotencyKey : String
  deriving DecidableEq

/-- `serde_json::to_string` and `serde_json::from_str` at the create intent,
`Uuid::new_v5` in the namespace of URLs, and the text of a store error. -/
structure IntentCodec where
  render : CreateInstanceRequest → String
  parse : String → Option CreateInstanceRequest
  newV5 : String → Uuid
  displayStore : StoreError → String

def computeInstance : String := "compute_instance"

/-- `server_state_to_storage`. -/
def stateRequested : String := "REQUESTED"

def stateDeleted : String := "DELETED"

def stateError : String := "ERROR"

/-- `list_resources_by_kind("compute_instance")`. -/
def computeInstances (t : OperationTables) : List ResourceRecord :=
  t.resources.rows.filter (fun row => row.kind = computeInstance)

def rowPorts (codec : IntentCodec) (row : ResourceRecord) : List String :=
  if row.observedState = stateDeleted then
    []
  else
    match codec.parse row.desiredState with
    | none => []
    | some request => request.networkIds

/-- `referenced_port_ids`, from the rows that were listed. -/
def referencedPortIds (codec : IntentCodec) (rows : List ResourceRecord) : List String :=
  rows.flatMap (rowPorts codec)

/-- A server that is not deleted refers to the port. -/
def Referenced (codec : IntentCodec) (t : OperationTables) (port : String) : Prop :=
  port ∈ referencedPortIds codec (computeInstances t)

instance (codec : IntentCodec) (t : OperationTables) (port : String) :
    Decidable (Referenced codec t port) :=
  inferInstanceAs (Decidable (_ ∈ _))

theorem referenced_iff {codec : IntentCodec} {t : OperationTables} {port : String} :
    Referenced codec t port ↔
    ∃ row ∈ t.resources.rows, row.kind = computeInstance ∧ port ∈ rowPorts codec row := by
  simp [Referenced, referencedPortIds, computeInstances, and_assoc]

/-- The row that `begin_create` inserts. -/
def createRow (codec : IntentCodec) (projectId : String) (request : CreateInstanceRequest) :
    ResourceRecord :=
  { id := request.o3kServerId
    kind := computeInstance
    projectId := projectId
    generation := 1
    observedGeneration := 0
    desiredState := codec.render request
    observedState := stateRequested
    providerId := none }

def createOperation (operationId serverId : Uuid) : OperationRecord :=
  { id := operationId
    resourceId := serverId
    kind := "create"
    state := .pending
    providerOperationId := none
    errorCategory := none
    errorMessage := none }

/-- The placement allocation that the intent refers to is still there. -/
def requireAllocation (allocationId : Option String) : Body Unit := do
  let t ← get
  require (∀ id ∈ allocationId, id ∈ t.placementAllocations) .placementAllocationNotFound

def insertResourceAndOperationBody
    (row : ResourceRecord) (operation : OperationRecord) (allocationId : Option String) :
    Body Unit := do
  insertResource row
  requireAllocation allocationId
  insertOperation operation (.database .uniqueViolation)

def reviveResourceAndOperationBody
    (projection : ResourceProjection) (operation : OperationRecord) (allocationId : Option String) :
    Body Unit := do
  projectResource projection
  requireAllocation allocationId
  insertOperation operation .resourceAlreadyExists

/-- The two ways in which a create makes its intent durable. -/
inductive IntentWrite
  | insert (row : ResourceRecord) (operation : OperationRecord) (allocationId : Option String)
  | revive (projection : ResourceProjection) (operation : OperationRecord)
      (allocationId : Option String)

namespace IntentWrite

def body : IntentWrite → Body Unit
  | .insert row operation allocationId => insertResourceAndOperationBody row operation allocationId
  | .revive projection operation allocationId =>
    reviveResourceAndOperationBody projection operation allocationId

def exec (write : IntentWrite) (t : OperationTables) : Except StoreError Unit × OperationTables :=
  atomically write.body t

/-- The intent that is written. -/
def desiredState : IntentWrite → String
  | .insert row _ _ => row.desiredState
  | .revive projection _ _ => projection.desiredState

def serverId : IntentWrite → Uuid
  | .insert row _ _ => row.id
  | .revive projection _ _ => projection.resourceId

def operationId : IntentWrite → Uuid
  | .insert _ operation _ => operation.id
  | .revive _ operation _ => operation.id

/-- The ports that the written intent names. -/
def ports (codec : IntentCodec) (write : IntentWrite) : List String :=
  match codec.parse write.desiredState with
  | none => []
  | some request => request.networkIds

end IntentWrite

section Writes

theorem insertOperation_resources {operation : OperationRecord} {onDuplicate : StoreError}
    {t t' : OperationTables} (h : insertOperation operation onDuplicate t = .ok ((), t')) :
    t'.resources = t.resources := by
  simp only [insertOperation, get_bind_apply] at h
  obtain ⟨_, h⟩ := require_bind_eq_ok.mp h
  obtain ⟨_, _, h⟩ := orFail_bind_eq_ok.mp h
  cases h
  rfl

theorem requireAllocation_insertOperation_resources {allocationId : Option String}
    {operation : OperationRecord} {onDuplicate : StoreError} {t t' : OperationTables}
    (h :
      (do
        requireAllocation allocationId
        insertOperation operation onDuplicate : Body Unit) t = .ok ((), t')) :
    t'.resources = t.resources := by
  obtain ⟨_, t₁, hallocation, hoperation⟩ := bind_eq_ok.mp h
  simp only [requireAllocation, get_bind_apply] at hallocation
  obtain ⟨_, hsame⟩ := require_eq_ok.mp hallocation
  cases hsame
  exact insertOperation_resources hoperation

theorem IntentWrite.resources_exec (write : IntentWrite) (t : OperationTables) :
    (write.exec t).2.resources = t.resources ∨
      ∃ row, (write.exec t).2.resources = t.resources.put row ∧
        row.desiredState = write.desiredState := by
  refine atomically_rel (fun t' : OperationTables => t'.resources = t.resources ∨
    ∃ row, t'.resources = t.resources.put row ∧ row.desiredState = write.desiredState)
    (Or.inl rfl) ?_
  rintro ⟨⟩ t' hbody
  right
  cases write with
  | insert row operation allocationId =>
    simp only [IntentWrite.body, insertResourceAndOperationBody] at hbody
    obtain ⟨_, t₁, hinsert, hrest⟩ := bind_eq_ok.mp hbody
    simp only [insertResource, get_bind_apply] at hinsert
    obtain ⟨_, hinsert⟩ := require_bind_eq_ok.mp hinsert
    obtain ⟨resources, hresources, hinsert⟩ := orFail_bind_eq_ok.mp hinsert
    cases hinsert
    obtain ⟨_, rfl⟩ := (Table.insert?_eq_some_iff _ _).mp hresources
    exact ⟨row, requireAllocation_insertOperation_resources hrest, rfl⟩
  | revive projection operation allocationId =>
    simp only [IntentWrite.body, reviveResourceAndOperationBody] at hbody
    obtain ⟨_, t₁, hproject, hrest⟩ := bind_eq_ok.mp hbody
    obtain ⟨current, _, rfl⟩ := projectResource_ok hproject
    exact ⟨_, requireAllocation_insertOperation_resources hrest, rfl⟩

theorem mem_rowPorts_desiredState {codec : IntentCodec} {row : ResourceRecord} {port : String}
    (h : port ∈ rowPorts codec row) :
    ∃ request, codec.parse row.desiredState = some request ∧ port ∈ request.networkIds := by
  unfold rowPorts at h
  split at h
  · exact absurd h (by simp)
  · split at h
    · exact absurd h (by simp)
    · rename_i request hparse
      exact ⟨request, hparse, h⟩

/-- A port that is referred to after a write is named by the written intent, or
was referred to before. -/
theorem referenced_exec {codec : IntentCodec} {write : IntentWrite} {t : OperationTables}
    {port : String} (h : Referenced codec (write.exec t).2 port) :
    port ∈ write.ports codec ∨ Referenced codec t port := by
  rcases write.resources_exec t with hsame | ⟨row, hput, hdesired⟩
  · right
    rw [referenced_iff, hsame] at h
    exact referenced_iff.mpr h
  · obtain ⟨row', hrow', hkind, hport⟩ := referenced_iff.mp h
    rw [hput] at hrow'
    rcases (Table.mem_put _).mp hrow' with rfl | ⟨hrow', _⟩
    · left
      obtain ⟨request, hparse, hmem⟩ := mem_rowPorts_desiredState hport
      rw [hdesired] at hparse
      simpa [IntentWrite.ports, hparse] using hmem
    · exact Or.inr (referenced_iff.mpr ⟨row', hrow', hkind, hport⟩)

end Writes

/-- The new row of a server refers to a port that the old row did not refer to,
as it does where a deleted server gets another state. -/
def Revives (codec : IntentCodec) (row row' : ResourceRecord) (port : String) : Prop :=
  port ∉ rowPorts codec row ∧ port ∈ rowPorts codec row'

theorem not_revives_of_live {codec : IntentCodec} {row row' : ResourceRecord}
    (hlive : row.observedState ≠ stateDeleted) (hdesired : row'.desiredState = row.desiredState)
    (port : String) :
    ¬ Revives codec row row' port := by
  rintro ⟨hbefore, hafter⟩
  obtain ⟨request, hparse, hmem⟩ := mem_rowPorts_desiredState hafter
  rw [hdesired] at hparse
  exact hbefore (by simpa [rowPorts, hlive, hparse] using hmem)

theorem referenced_putResource {codec : IntentCodec} {row row' : ResourceRecord}
    {t : OperationTables} {port : String} (hrow : row ∈ t.resources.rows)
    (hrevives : ¬ Revives codec row row' port) (hkind : row'.kind = row.kind)
    (h : Referenced codec (t.putResource row') port) :
    Referenced codec t port := by
  obtain ⟨found, hfound, hcompute, hport⟩ := referenced_iff.mp h
  rcases (Table.mem_put _).mp hfound with rfl | ⟨hfound, _⟩
  · refine referenced_iff.mpr ⟨row, hrow, hkind ▸ hcompute, ?_⟩
    exact not_not.mp (fun hbefore => hrevives ⟨hbefore, hport⟩)
  · exact referenced_iff.mpr ⟨found, hfound, hcompute, hport⟩

def ResourceRecord.recorded (row : ResourceRecord) (state : String) : ResourceRecord :=
  { row with
    generation := row.generation + 1
    observedState := state }

/-- Another writer records the state of a server: an observation, a lifecycle
action, a delete that becomes terminal. -/
def recordState (id : Uuid) (state : String) (t : OperationTables) : OperationTables :=
  match t.resources.get? id with
  | none => t
  | some row => t.putResource (ResourceRecord.recorded row state)

theorem referenced_recordState {codec : IntentCodec} {id : Uuid} {state : String}
    {t : OperationTables} {port : String}
    (hrevives :
      ∀ row, t.resources.get? id = some row →
        ¬ Revives codec row (ResourceRecord.recorded row state) port)
    (h : Referenced codec (recordState id state t) port) :
    Referenced codec t port := by
  unfold recordState at h
  split at h
  · exact h
  · rename_i row hget
    exact referenced_putResource (Table.mem_of_get? _ hget) (hrevives row hget) rfl h

theorem referenced_projectResource {codec : IntentCodec} {projection : ResourceProjection}
    {t : OperationTables} {port : String}
    (hrevives :
      ∀ row, Projects t projection row → ¬ Revives codec row (row.projected projection) port)
    (h : Referenced codec (atomically (projectResource projection) t).2 port) :
    Referenced codec t port := by
  refine atomically_rel
    (fun t' : OperationTables => Referenced codec t' port → Referenced codec t port)
    id ?_ h
  rintro ⟨⟩ t' hbody hafter
  obtain ⟨row, hprojects, rfl⟩ := projectResource_ok hbody
  exact referenced_putResource (Table.mem_of_get? _ hprojects.get) (hrevives row hprojects) rfl
    hafter

end Compute
end O3k
