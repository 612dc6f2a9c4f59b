import O3k.Relational.Table
import O3k.Store.Values

/-!
# Consumption

What the scopes consume: the tables that hold the resources themselves, with
the columns that the usage queries read, and one query for each governed
dimension.  An amount and a size are written from unsigned numbers, so a count
or a sum that fits the column is never refused as negative.
-/

namespace O3k
namespace Quota

open Relational

/-- A row of `resources`. -/
structure ResourceRow where
  id : Uuid
  kind : String
  projectId : String
  observedState : String
  deriving DecidableEq

/-- A row of `placement_allocations`, with its row of one resource class in
`placement_allocation_resources`. -/
structure AllocatedRow where
  allocationId : String
  consumerId : String
  resourceClass : String
  amount : Nat
  deriving DecidableEq

/-- A row of `image_metadata`. -/
structure ImageRow where
  id : String
  projectId : String
  status : String
  size : Option Nat
  deriving DecidableEq

/-- A row of `network_networks`. -/
structure NetworkRow where
  id : String
  projectId : String
  status : String
  deriving DecidableEq

/-- A row of `network_subnets`, of `network_ports` or of
`network_address_allocations`. -/
structure OwnedRow where
  id : String
  projectId : String
  deriving DecidableEq

structure ResourceTables where
  resources : List ResourceRow
  allocated : List AllocatedRow
  images : List ImageRow
  networks : List NetworkRow
  subnets : List OwnedRow
  ports : List OwnedRow
  addressAllocations : List OwnedRow
  deriving DecidableEq

/-- `project_id = ? AND kind = 'compute_instance' AND UPPER(observed_state) NOT
IN ('DELETED', 'ERROR')`. -/
def ResourceRow.isLiveInstance (projectId : String) (row : ResourceRow) : Bool :=
  row.projectId = projectId &&
    row.kind = "compute_instance" &&
    !(["DELETED", "ERROR"].contains row.observedState.toUpper)

namespace ResourceTables

variable (t : ResourceTables)

/-- `SELECT COALESCE(SUM(r.amount), 0)` of a resource class over the live
instances of a project. -/
def allocatedTo (projectId resourceClass : String) : Nat :=
  ((t.allocated.filter fun a =>
      a.resourceClass = resourceClass &&
        t.resources.any fun r => r.id = a.consumerId && r.isLiveInstance projectId).map
    AllocatedRow.amount).sum

/-- What the usage query of a dimension counts or sums up, if it has one. -/
def inUse? (projectId : String) (key : LimitKey) : Option Nat :=
  match key.ns, key.resource with
  | "compute", "servers" => some (t.resources.countP (ResourceRow.isLiveInstance projectId))
  | "compute", "vcpus" => some (t.allocatedTo projectId "VCPU")
  | "compute", "memory_mb" => some (t.allocatedTo projectId "MEMORY_MB")
  | "compute", "disk_gb" => some (t.allocatedTo projectId "DISK_GB")
  | "image", "images" =>
    some (t.images.countP fun i => i.projectId = projectId && i.status ≠ "deleted")
  | "image", "bytes" =>
    some
      ((t.images.filter fun i =>
        i.projectId = projectId && i.status = "active").filterMap ImageRow.size).sum
  | "network", "networks" =>
    some (t.networks.countP fun n => n.projectId = projectId && n.status ≠ "deleted")
  | "network", "subnets" => some (t.subnets.countP fun s => s.projectId = projectId)
  | "network", "ports" => some (t.ports.countP fun p => p.projectId = projectId)
  | "network", "address_allocations" =>
    some (t.addressAllocations.countP fun a => a.projectId = projectId)
  | _, _ => none

def queryInUseUsage (scope : OwnershipScope) (key : LimitKey) : Except StoreError Nat :=
  match t.inUse? scope.id key with
  | none => .error (.corrupt ("unknown or unregistered limit key '" ++ key.text ++ "'"))
  | some inUse => if inUse ≤ integerMax then .ok inUse else .error (.database .valueOutOfRange)

/-- What a scope consumes: the rows belong to projects. -/
def consumed (scope : OwnershipScope) (key : LimitKey) : Nat :=
  match scope.kind with
  | .project => (t.inUse? scope.id key).getD 0
  | _ => 0

theorem consumed_le_of_queryInUseUsage {t : ResourceTables} {scope : OwnershipScope}
    {key : LimitKey} {inUse : Nat} (h : t.queryInUseUsage scope key = .ok inUse) :
    t.consumed scope key ≤ inUse := by
  unfold queryInUseUsage at h
  cases hcount : t.inUse? scope.id key with
  | none =>
    rw [hcount] at h
    cases h
  | some n =>
    rw [hcount] at h
    dsimp only at h
    split at h
    · cases h
      unfold consumed
      cases scope.kind with
      | project => simp [hcount]
      | domain => exact Nat.zero_le _
      | system => exact Nat.zero_le _
    · cases h

/-- `INSERT INTO network_ports`. -/
def insertPort (port : OwnedRow) : ResourceTables :=
  { t with ports := t.ports ++ [port] }

theorem inUse?_insertPort (port : OwnedRow) (projectId : String) (key : LimitKey) :
    ((t.insertPort port).inUse? projectId key).getD 0 ≤
    (t.inUse? projectId key).getD 0 +
      if port.projectId = projectId ∧ key = ⟨"network", "ports"⟩ then 1 else 0 := by
  obtain ⟨ns, resource⟩ := key
  unfold inUse? insertPort
  dsimp only
  split
  case h_9 =>
    simp only [List.countP_append, List.countP_singleton, Option.getD_some]
    by_cases hproject : port.projectId = projectId <;> simp [hproject]
  all_goals exact Nat.le_add_right _ _

theorem consumed_insertPort (port : OwnedRow) (scope : OwnershipScope) (key : LimitKey) :
    (t.insertPort port).consumed scope key ≤
    t.consumed scope key +
      if scope = ⟨port.projectId, .project⟩ ∧ key = ⟨"network", "ports"⟩ then 1 else 0 := by
  obtain ⟨id, kind⟩ := scope
  cases kind with
  | project =>
    have hports := t.inUse?_insertPort port id key
    simpa [consumed, eq_comm] using hports
  | domain => exact Nat.zero_le _
  | system => exact Nat.zero_le _

end ResourceTables

end Quota
end O3k
