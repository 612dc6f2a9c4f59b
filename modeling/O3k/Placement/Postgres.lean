import Mathlib.Algebra.Ring.Int.Defs
import Mathlib.Data.List.Sort
import O3k.Placement.Hierarchy

/-!
# The PostgreSQL placement repository

A second implementation of the same methods.  Quantities are cast to `BIGINT`
by reinterpreting their bits, so a column is an integer; arithmetic on a
column that leaves the 64-bit range aborts the transaction.  Inventories are
upserted class by class and never deleted, and neither the allocation nor the
intent of a call is validated.
-/

namespace O3k
namespace Placement
namespace Postgres

open Relational Relational.Transaction

variable {R : Type}

abbrev Tables (R : Type) := PlacementTables Int R

abbrev Body (R α : Type) := Transaction (Tables R) StoreError α

/-- `value as i64`. -/
def asI64 (value : Nat) : Int := (BitVec.ofNat 64 value).toInt

/-- `value as u64`. -/
def asU64 (value : Int) : Nat := (BitVec.ofInt 64 value).toNat

theorem asU64_asI64 (n : Nat) : asU64 (asI64 n) = n % 2 ^ 64 := by
  simp [asU64, asI64]

def fitsBigint (value : Int) : Bool :=
  decide (-9223372036854775808 ≤ value) && decide (value ≤ 9223372036854775807)

/-- The computed columns of a row are in range. -/
def fits (row : ProviderRow Int R) : Bool :=
  fitsBigint row.generation &&
    row.inventories.rows.all (fun inventory => fitsBigint inventory.used)

/-- Write a row whose computed columns have just changed. -/
def writeProvider (row : ProviderRow Int R) : Body R Unit := do
  require (fits row) (.database .valueOutOfRange)
  modify (fun t => t.putProvider row)

variable (providerId : String)

/-- `UPDATE … WHERE id = …`: no effect on an absent row. -/
def updateProvider (f : ProviderRow Int R → ProviderRow Int R) : Body R Unit := do
  let t ← get
  match t.providers.get? providerId with
  | none => pure ()
  | some row => writeProvider (f row)

/-- `UPDATE placement_providers SET generation = generation + 1`. -/
def bumpGeneration : Body R Unit := updateProvider providerId ProviderRow.bump

/-- `INSERT … ON CONFLICT (node_id) DO UPDATE … RETURNING id`.  The insert uses
the node id as the id, and the state of a conflicting row is rewritten. -/
def upsertProvider (nodeId state : String) (onConflict : String → String) : Body R String := do
  let t ← get
  match t.providers.rows.find? (fun row => row.nodeId = nodeId) with
  | some row =>
    writeProvider (row.withState (onConflict row.state)).bump
    return row.id
  | none =>
    require (t.providers.get? nodeId = none) (.database .uniqueViolation)
    writeProvider (.fresh nodeId state 1)
    return nodeId

/-- One inventory: a row of a known class keeps its `used`, a row of a new class
takes the reported one. -/
def upsertInventory (rows : Inventories Int R) (inventory : PlacementInventoryRecord R) :
    Inventories Int R :=
  rows.put
    { resourceClass := inventory.resourceClass
      total := asI64 inventory.total
      reserved := asI64 inventory.reserved
      allocationRatio := inventory.allocationRatio
      used :=
        ((rows.get? inventory.resourceClass).map InventoryRow.used).getD
          (asI64 inventory.used) }

def upsertInventories (rows : Inventories Int R) (inventories : List (PlacementInventoryRecord R)) :
    Inventories Int R :=
  inventories.foldl upsertInventory rows

/-- The loop of upserts into `placement_inventories`. -/
def writeInventories (inventories : List (PlacementInventoryRecord R)) : Body R Unit :=
  modify (fun t =>
    t.modifyProvider providerId
      (fun row => row.withInventories (upsertInventories row.inventories inventories)))

/-- Registration, and with it the state, starts afresh. -/
def registeredState (_stored : String) : String := "Enabled"

def registerProviderBody (nodeId : String) (inventories : List (PlacementInventoryRecord R)) :
    Body R String := do
  let id ← upsertProvider nodeId "Enabled" registeredState
  writeInventories id inventories
  return id

/-- The fenced metadata update with the traits and failure domains after it. -/
def writeMetadata (generation : Int) (metadata : ProviderMetadata) : Body R Unit := do
  let t ← get
  match (t.providers.get? providerId).filter (fun row => row.generation = generation) with
  | some row => writeProvider (row.withMetadata metadata).bump
  | none => throw .placementStaleGeneration

def registerProviderMetadataBody (nodeId : String) (inventories : List (PlacementInventoryRecord R))
    (metadata : ProviderMetadata) :
    Body R String := do
  let id ← upsertProvider nodeId "Enabled" registeredState
  writeInventories id inventories
  let t ← get
  let row ← orFail (t.providers.get? id) (.database .rowNotFound)
  fromExcept (checkHierarchy t id metadata.parentProviderId)
  writeMetadata id row.generation metadata
  return id

def updateProviderMetadataBody (expectedGeneration : Nat) (metadata : ProviderMetadata) :
    Body R Unit := do
  let t ← get
  let row ← orFail (t.providers.get? providerId) .placementProviderNotFound
  require (row.generation = expectedGeneration) .placementStaleGeneration
  fromExcept (checkHierarchy t providerId metadata.parentProviderId)
  require (fitsBigint expectedGeneration) (.corrupt "generation out of range")
  writeMetadata providerId expectedGeneration metadata

def syncProviderBody (nodeId state : String) (inventories : List (PlacementInventoryRecord R)) :
    Body R String := do
  let id ← upsertProvider nodeId state (fun stored => syncedState stored state)
  writeInventories id inventories
  return id

def refreshInventoriesBody
    (expectedGeneration : Nat) (inventories : List (PlacementInventoryRecord R)) :
    Body R Unit := do
  let t ← get
  let row ← orFail (t.providers.get? providerId) .placementProviderNotFound
  require (row.generation = asI64 expectedGeneration) .placementStaleGeneration
  writeProvider row.bump
  writeInventories providerId inventories

def setProviderStateBody (providerId state : String) : Body R Unit := do
  let t ← get
  let row ← orFail (t.providers.get? providerId) .placementProviderNotFound
  writeProvider (row.withState state).bump

/-- `ON CONFLICT (allocation_id, resource_class) DO UPDATE SET amount = …`. -/
def upsertResource (allocationId : String) (resource : PlacementResourceRecord) : Body R Unit :=
  modify (fun t =>
    match t.allocations.get? allocationId with
    | none => t
    | some row => t.putAllocation (row.putResource ⟨resource.resourceClass, asI64 resource.amount⟩))

/-- `UPDATE placement_inventories SET used = …`. -/
def updateUsed (op : Int → Int → Int) (providerId : String) (resource : ResourceRow Int) :
    Body R Unit :=
  updateProvider providerId
    (fun row => row.modifyUsed resource.resourceClass (fun used => op used resource.amount))

def commitResource (providerId allocationId : String) (resource : PlacementResourceRecord) :
    Body R Unit := do
  upsertResource allocationId resource
  updateUsed (· + ·) providerId ⟨resource.resourceClass, asI64 resource.amount⟩

/-- `expected_resources.sort_by(…)`, a stable sort. -/
def sortedResources (resources : List PlacementResourceRecord) : List PlacementResourceRecord :=
  resources.insertionSort (fun a b => a.resourceClass ≤ b.resourceClass)

def commitAllocationBody (expectedGeneration : Nat) (allocation : PlacementAllocationRecord) :
    Body R PlacementAllocationRecord := do
  let t ← get
  match t.allocations.get? allocation.id with
  | some existing =>
    require
      (existing.providerId = providerId ∧
        existing.consumerId = allocation.consumerId ∧
        (existing.record asU64).resources = sortedResources allocation.resources)
      .placementAllocationConflict
    return allocation
  | none =>
    let row ← orFail (t.providers.get? providerId) .placementProviderNotFound
    require (asU64 row.generation = expectedGeneration) .placementStaleGeneration
    set (t.putAllocation ⟨allocation.id, providerId, allocation.consumerId, ∅⟩)
    forEach (commitResource providerId allocation.id) allocation.resources
    bumpGeneration providerId
    return allocation

def releaseAllocationBody (providerId allocationId : String) : Body R Unit := do
  let t ← get
  let _ ← orFail (t.providers.get? providerId) .placementProviderNotFound
  match (t.allocations.get? allocationId).filter
      (fun row => row.providerId = providerId && !row.resources.rows.isEmpty) with
  | none => return ()
  | some existing =>
    forEach (updateUsed (· - ·) providerId) existing.resources.rows
    modify (fun t => t.deleteAllocation allocationId)
    bumpGeneration providerId

/-- The inserts into `placement_allocation_intent_resources`. -/
def insertResources :
    List PlacementResourceRecord → Resources Int → Except StoreError (Resources Int)
  | [], rows => .ok rows
  | resource :: rest, rows =>
    match rows.insert? ⟨resource.resourceClass, asI64 resource.amount⟩ with
    | none => throw (.database .uniqueViolation)
    | some rows => insertResources rest rows

def upsertIntentBody (intent : PlacementIntentRecord) : Body R PlacementIntentRecord := do
  let t ← get
  let _ ← orFail (t.providers.get? intent.providerId) (.database .foreignKeyViolation)
  let resources ← fromExcept (insertResources intent.resources ∅)
  set (t.putIntent ⟨intent.id, intent.providerId, intent.consumerId, resources⟩)
  return intent

/-- The allocations whose consumer is not in the snapshot. -/
def orphaned (t : Tables R) (durableConsumerIds : List String) : List (AllocationRow Int) :=
  t.allocations.rows.filter (fun row => row.consumerId ∉ durableConsumerIds)

/-- The intents whose consumer is not in the snapshot. -/
def abandoned (t : Tables R) (durableConsumerIds : List String) : List (AllocationRow Int) :=
  t.intents.rows.filter (fun row => row.consumerId ∉ durableConsumerIds)

def releaseOrphan (row : AllocationRow Int) : Body R Unit := do
  forEach (updateUsed (· - ·) row.providerId) row.resources.rows
  modify (fun t => t.deleteAllocation row.id)

def reconcileConsumersBody (durableConsumerIds : List String) :
    Body R PlacementReconcileRecord := do
  let t ← get
  let orphaned := orphaned t durableConsumerIds
  let abandoned := abandoned t durableConsumerIds
  forEach releaseOrphan orphaned
  forEach (fun row => modify (fun t => t.deleteIntent row.id)) abandoned
  return ⟨orphaned.map (AllocationRow.record asU64), abandoned.map (AllocationRow.record asU64)⟩

/-- What a writing method returns when the transaction yields the id to read. -/
def thenProviderOf (outcome : Except StoreError String × Tables R) :
    Except StoreError (PlacementProviderRecord R) × Tables R :=
  match outcome with
  | (.ok id, t) => PlacementTables.thenProvider asU64 id (.ok (), t)
  | (.error e, t) => (.error e, t)

@[simp] theorem thenProviderOf_snd (outcome : Except StoreError String × Tables R) :
    (thenProviderOf outcome).2 = outcome.2 := by
  obtain ⟨result, t⟩ := outcome
  cases result with
  | error e => rfl
  | ok id => exact PlacementTables.thenProvider_snd asU64 id _

def registerProvider
    (nodeId : String) (inventories : List (PlacementInventoryRecord R)) (t : Tables R) :
    Except StoreError (PlacementProviderRecord R) × Tables R :=
  thenProviderOf (atomically (registerProviderBody nodeId inventories) t)

def registerProviderMetadata (nodeId : String) (inventories : List (PlacementInventoryRecord R))
    (metadata : ProviderMetadata) (t : Tables R) :
    Except StoreError (PlacementProviderRecord R) × Tables R :=
  if invalidMetadata nodeId metadata then
    (.error (.corrupt "invalid placement provider metadata"), t)
  else
    thenProviderOf (atomically (registerProviderMetadataBody nodeId inventories metadata) t)

def updateProviderMetadata (expectedGeneration : Nat) (metadata : ProviderMetadata) (t : Tables R) :
    Except StoreError (PlacementProviderRecord R) × Tables R :=
  if invalidMetadata providerId metadata then
    (.error (.corrupt "invalid placement provider metadata"), t)
  else
    PlacementTables.thenProvider asU64 providerId
      (atomically (updateProviderMetadataBody providerId expectedGeneration metadata) t)

def syncProvider
    (nodeId state : String) (inventories : List (PlacementInventoryRecord R)) (t : Tables R) :
    Except StoreError (PlacementProviderRecord R) × Tables R :=
  thenProviderOf (atomically (syncProviderBody nodeId state inventories) t)

def refreshInventories
    (expectedGeneration : Nat) (inventories : List (PlacementInventoryRecord R)) (t : Tables R) :
    Except StoreError (PlacementProviderRecord R) × Tables R :=
  PlacementTables.thenProvider asU64 providerId
    (atomically (refreshInventoriesBody providerId expectedGeneration inventories) t)

/-- `impl PlacementRepository for PostgresStore`. -/
def exec : (c : RepositoryCall R) → Tables R → c.Reply × Tables R
  | .getProvider providerId, t => (.ok (t.getProvider asU64 providerId), t)
  | .listProviders, t => (.ok (t.listProviders asU64), t)
  | .registerProvider nodeId inventories, t => registerProvider nodeId inventories t
  | .registerProviderMetadata nodeId inventories metadata, t =>
    registerProviderMetadata nodeId inventories metadata t
  | .updateProviderMetadata providerId generation metadata, t =>
    updateProviderMetadata providerId generation metadata t
  | .syncProvider nodeId state inventories, t => syncProvider nodeId state inventories t
  | .refreshInventories providerId generation inventories, t =>
    refreshInventories providerId generation inventories t
  | .setProviderState providerId state, t => atomically (setProviderStateBody providerId state) t
  | .commitAllocation providerId generation allocation, t =>
    atomically (commitAllocationBody providerId generation allocation) t
  | .releaseAllocation providerId allocationId, t =>
    atomically (releaseAllocationBody providerId allocationId) t
  | .upsertIntent intent, t => atomically (upsertIntentBody intent) t
  | .getIntent allocationId, t => (.ok (t.getIntent asU64 allocationId), t)
  | .deleteIntent allocationId, t => (.ok (), t.deleteIntent allocationId)
  | .reconcileConsumers durableConsumerIds, t =>
    atomically (reconcileConsumersBody durableConsumerIds) t

theorem exec_getProvider (t : Tables R) :
    exec (.getProvider providerId) t = (.ok (t.getProvider asU64 providerId), t) :=
  rfl

def step (t : Tables R) (c : RepositoryCall R) : Tables R := (exec c t).2

def act (a : StoreAction R) (t : Tables R) : Tables R := a.apply exec t

end Postgres
end Placement
end O3k
