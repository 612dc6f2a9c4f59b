import O3k.Placement.Hierarchy

/-!
# The SQLite placement repository

Every mutating method runs in one `BEGIN IMMEDIATE` transaction that is
committed or rolled back as a whole.  A quantity is bound through
`placement_i64`, which refuses what a signed 64-bit column cannot hold; what
is stored is therefore a natural number; only `used` can grow beyond.
-/

namespace O3k
namespace Placement
namespace Sqlite

open Relational Relational.Transaction

variable {R : Type}

abbrev Tables (R : Type) := PlacementTables Nat R

abbrev Body (R α : Type) := Transaction (Tables R) StoreError α

def i64Max : Nat := 9223372036854775807

def placementI64 (value : Nat) : Except StoreError Nat :=
  if value ≤ i64Max then
    .ok value
  else
    .error (.corrupt "placement value exceeds SQLite range")

def inventoryRow (inventory : PlacementInventoryRecord R) (used : Nat) :
    Except StoreError (InventoryRow Nat R) := do
  let total ← placementI64 inventory.total
  let reserved ← placementI64 inventory.reserved
  let used ← placementI64 used
  return ⟨inventory.resourceClass, total, reserved, inventory.allocationRatio, used⟩

/-- The inserts of `replace_placement_inventories`, one after the other. -/
def insertInventories :
    List (PlacementInventoryRecord R × Nat) →
    Inventories Nat R →
    Except StoreError (Inventories Nat R)
  | [], rows => .ok rows
  | (inventory, used) :: rest, rows => do
    let row ← inventoryRow inventory used
    match rows.insert? row with
    | none => throw (.database .uniqueViolation)
    | some rows => insertInventories rest rows

/-- `INSERT OR IGNORE INTO placement_providers`: `id` and `node_id` are unique. -/
def insertOrIgnoreProvider (nodeId state : String) : Body R Unit := do
  let t ← get
  if t.providers.rows.any (fun row => row.id = nodeId || row.nodeId = nodeId) then
    pure ()
  else
    set (t.putProvider (.fresh nodeId state 0))

variable (providerId : String)

def recomputePlacementUsed (inventories : List (PlacementInventoryRecord R)) :
    Body R (List Nat) := do
  let t ← get
  return inventories.map (fun inventory => t.allocated providerId inventory.resourceClass)

def replacePlacementInventories
    (inventories : List (PlacementInventoryRecord R)) (used : List Nat) :
    Body R Unit := do
  let t ← get
  match t.providers.get? providerId with
  | some row =>
    let rows ← fromExcept (insertInventories (inventories.zip used) ∅)
    set (t.putProvider (row.withInventories rows))
  | none =>
    match inventories.zip used with
    | [] => pure ()
    | (inventory, used) :: _ =>
      let _ ← fromExcept (inventoryRow inventory used)
      throw (.database .foreignKeyViolation)

/-- `UPDATE placement_providers SET generation = generation + 1 WHERE id = ?`. -/
def bumpGeneration : Body R Unit :=
  modify (fun t => t.modifyProvider providerId ProviderRow.bump)

/-- The fenced update: `… WHERE id = ? AND generation = ?`, stale when no row
is affected. -/
def fenceGeneration (expectedGeneration : Nat) : Body R Unit := do
  let expected ← fromExcept (placementI64 expectedGeneration)
  let t ← get
  match (t.providers.get? providerId).filter (fun row => row.generation = expected) with
  | some row => set (t.putProvider row.bump)
  | none => throw .placementStaleGeneration

variable (nodeId : String)

/-- The statements that registration and synchronisation share. -/
def writeInventories (inventories : List (PlacementInventoryRecord R)) : Body R Unit := do
  let used ← recomputePlacementUsed nodeId inventories
  replacePlacementInventories nodeId inventories used

def registerProviderBody (inventories : List (PlacementInventoryRecord R)) : Body R Unit := do
  insertOrIgnoreProvider nodeId "Enabled"
  writeInventories nodeId inventories
  bumpGeneration nodeId

/-- The fenced metadata update with the traits and failure domains after it. -/
def writeMetadata (generation : Nat) (metadata : ProviderMetadata) : Body R Unit := do
  require (generation ≤ i64Max) (.corrupt "generation out of range")
  let t ← get
  match (t.providers.get? providerId).filter (fun row => row.generation = generation) with
  | some row => set (t.putProvider (row.withMetadata metadata).bump)
  | none => throw .placementStaleGeneration

def registerProviderMetadataBody
    (inventories : List (PlacementInventoryRecord R)) (metadata : ProviderMetadata) :
    Body R Unit := do
  insertOrIgnoreProvider nodeId "Enabled"
  writeInventories nodeId inventories
  bumpGeneration nodeId
  let t ← get
  let row ← orFail (t.providers.get? nodeId) (.database .rowNotFound)
  fromExcept (checkHierarchy t nodeId metadata.parentProviderId)
  writeMetadata nodeId row.generation metadata

def updateProviderMetadataBody (expectedGeneration : Nat) (metadata : ProviderMetadata) :
    Body R Unit := do
  let t ← get
  let row ← orFail (t.providers.get? providerId) .placementProviderNotFound
  require (row.generation = expectedGeneration) .placementStaleGeneration
  fromExcept (checkHierarchy t providerId metadata.parentProviderId)
  writeMetadata providerId expectedGeneration metadata

def syncProviderBody (nodeId state : String) (inventories : List (PlacementInventoryRecord R)) :
    Body R Unit := do
  insertOrIgnoreProvider nodeId state
  modify (fun t =>
    t.modifyProvider nodeId (fun row => row.withState (syncedState row.state state)))
  writeInventories nodeId inventories
  bumpGeneration nodeId

def refreshInventoriesBody
    (expectedGeneration : Nat) (inventories : List (PlacementInventoryRecord R)) :
    Body R Unit := do
  let t ← get
  let _ ← orFail (t.providers.get? providerId) .placementProviderNotFound
  fenceGeneration providerId expectedGeneration
  writeInventories providerId inventories

def setProviderStateBody (providerId state : String) : Body R Unit := do
  let t ← get
  let row ← orFail (t.providers.get? providerId) .placementProviderNotFound
  set (t.putProvider (row.withState state).bump)

/-- The shared condition of `validate_placement_allocation` and
`validate_placement_intent`. -/
def invalidAllocation (record : PlacementAllocationRecord) : Bool :=
  record.id.isEmpty || record.providerId.isEmpty || record.consumerId.isEmpty ||
    record.resources.isEmpty || record.resources.any (fun resource => resource.amount = 0)

/-- The inserts into `placement_allocation_resources`. -/
def insertResources :
    List PlacementResourceRecord → Resources Nat → Except StoreError (Resources Nat)
  | [], rows => .ok rows
  | resource :: rest, rows => do
    let amount ← placementI64 resource.amount
    match rows.insert? ⟨resource.resourceClass, amount⟩ with
    | none => throw (.database .uniqueViolation)
    | some rows => insertResources rest rows

/-- The double next to a number; of two that are as near, the even one. -/
def toDouble (n : Nat) : Nat :=
  let ulp := 2 ^ (n.log2 - 52)
  if 2 * (n % ulp) < ulp ∨ (2 * (n % ulp) = ulp ∧ n / ulp % 2 = 0) then
    n / ulp * ulp
  else
    (n / ulp + 1) * ulp

/-- `used + ?`: a sum above 64 bits is one of doubles, and a `REAL` in the column
from then on.  So a value above `i64Max` stands for a `REAL`. -/
def plusUsed (used amount : Nat) : Nat :=
  if used + amount ≤ i64Max then used + amount else toDouble (toDouble used + toDouble amount)

/-- `MAX(used - ?, 0)`, on an integer or a `REAL`. -/
def minusUsed (used amount : Nat) : Nat :=
  if used ≤ i64Max then used - amount else toDouble (used - toDouble amount)

/-- `UPDATE placement_inventories SET used = used + ?`. -/
def addUsed (resource : PlacementResourceRecord) : Body R Unit := do
  let amount ← fromExcept (placementI64 resource.amount)
  modify (fun t =>
    t.modifyProvider providerId
      (fun row => row.modifyUsed resource.resourceClass (fun used => plusUsed used amount)))

/-- The row is inserted under `allocation.provider_id`; its id is absent. -/
def insertAllocation (allocation : PlacementAllocationRecord) : Body R Unit := do
  let t ← get
  let _ ← orFail (t.providers.get? allocation.providerId) (.database .foreignKeyViolation)
  let resources ← fromExcept (insertResources allocation.resources ∅)
  set (t.putAllocation ⟨allocation.id, allocation.providerId, allocation.consumerId, resources⟩)

def commitAllocationBody (expectedGeneration : Nat) (allocation : PlacementAllocationRecord) :
    Body R PlacementAllocationRecord := do
  let t ← get
  match t.allocations.get? allocation.id with
  | some existing =>
    require (existing.record id = allocation) .placementAllocationConflict
    return existing.record id
  | none =>
    let _ ← orFail (t.providers.get? providerId) .placementProviderNotFound
    fenceGeneration providerId expectedGeneration
    forEach (addUsed providerId) allocation.resources
    insertAllocation allocation
    return allocation

/-- `UPDATE placement_inventories SET used = MAX(used - ?, 0)`. -/
def subtractUsed (resource : ResourceRow Nat) : Body R Unit :=
  modify (fun t =>
    t.modifyProvider providerId
      (fun row => row.modifyUsed resource.resourceClass (fun used => minusUsed used resource.amount)))

def releaseAllocationBody (providerId allocationId : String) : Body R Unit := do
  let t ← get
  let _ ← orFail (t.providers.get? providerId) .placementProviderNotFound
  match (t.allocations.get? allocationId).filter
      (fun row => row.providerId = providerId) with
  | none => return ()
  | some existing =>
    set (t.deleteAllocation allocationId)
    forEach (subtractUsed providerId) existing.resources.rows
    bumpGeneration providerId

/-- The `INSERT OR IGNORE`s into `placement_allocation_intent_resources`. -/
def insertOrIgnoreResources :
    List PlacementResourceRecord → Resources Nat → Except StoreError (Resources Nat)
  | [], rows => .ok rows
  | resource :: rest, rows => do
    let amount ← placementI64 resource.amount
    insertOrIgnoreResources rest
      ((rows.insert? ⟨resource.resourceClass, amount⟩).getD rows)

/-- The row under the id after `INSERT OR IGNORE INTO placement_allocation_intents`. -/
def insertOrIgnoreIntent (intent : PlacementIntentRecord) : Body R (AllocationRow Nat) := do
  let t ← get
  match t.intents.get? intent.id with
  | some existing => return existing
  | none =>
    let _ ← orFail (t.providers.get? intent.providerId) (.database .foreignKeyViolation)
    return ⟨intent.id, intent.providerId, intent.consumerId, ∅⟩

def upsertIntentBody (intent : PlacementIntentRecord) : Body R PlacementIntentRecord := do
  let base ← insertOrIgnoreIntent intent
  let resources ← fromExcept (insertOrIgnoreResources intent.resources base.resources)
  let stored := { base with resources := resources }
  require (stored.record id = intent) .placementIntentConflict
  modify (fun t => t.putIntent stored)
  return stored.record id

/-- The consumers that are live when the transaction runs: the caller's
snapshot and the compute resources that are durable now. -/
def liveConsumerIds (t : Tables R) (durableConsumerIds : List String) : List String :=
  let live := t.resources.rows.filter
    (fun row => row.kind = "compute_instance" && row.observedState ≠ "DELETED")
  durableConsumerIds ++
    (live.map DurableResource.id).filter (fun id => id ∉ durableConsumerIds)

/-- The allocations a reconciliation releases. -/
def orphaned (t : Tables R) (durableConsumerIds : List String) : List (AllocationRow Nat) :=
  t.allocations.rows.filter
    (fun row => row.consumerId ∉ liveConsumerIds t durableConsumerIds)

/-- The intents a reconciliation deletes. -/
def abandoned (t : Tables R) (durableConsumerIds : List String) : List (AllocationRow Nat) :=
  t.intents.rows.filter
    (fun row => row.consumerId ∉ liveConsumerIds t durableConsumerIds)

def affectedProviders (orphaned : List (AllocationRow Nat)) : List String :=
  orphaned.foldl
    (fun affected row =>
      if row.providerId ∈ affected then affected else affected ++ [row.providerId])
    []

/-- `used` re-summed from the allocations that are left, and a new generation. -/
def resumProvider : Body R Unit :=
  modify (fun t =>
    t.modifyProvider providerId
      (fun row => (row.recomputeUsed (t.allocated row.id)).bump))

def reconcileConsumersBody (durableConsumerIds : List String) :
    Body R PlacementReconcileRecord := do
  let t ← get
  let orphaned := orphaned t durableConsumerIds
  let abandoned := abandoned t durableConsumerIds
  forEach (fun row => modify (fun t => t.deleteAllocation row.id)) orphaned
  forEach resumProvider (affectedProviders orphaned)
  forEach (fun row => modify (fun t => t.deleteIntent row.id)) abandoned
  return ⟨orphaned.map (AllocationRow.record id), abandoned.map (AllocationRow.record id)⟩

def registerProvider (inventories : List (PlacementInventoryRecord R)) (t : Tables R) :
    Except StoreError (PlacementProviderRecord R) × Tables R :=
  PlacementTables.thenProvider id nodeId (atomically (registerProviderBody nodeId inventories) t)

def registerProviderMetadata
    (inventories : List (PlacementInventoryRecord R)) (metadata : ProviderMetadata) (t : Tables R) :
    Except StoreError (PlacementProviderRecord R) × Tables R :=
  if invalidMetadata nodeId metadata then
    (.error (.corrupt "invalid placement provider metadata"), t)
  else
    PlacementTables.thenProvider id nodeId
      (atomically (registerProviderMetadataBody nodeId inventories metadata) t)

def updateProviderMetadata (expectedGeneration : Nat) (metadata : ProviderMetadata) (t : Tables R) :
    Except StoreError (PlacementProviderRecord R) × Tables R :=
  if invalidMetadata providerId metadata then
    (.error (.corrupt "invalid placement provider metadata"), t)
  else
    PlacementTables.thenProvider id providerId
      (atomically (updateProviderMetadataBody providerId expectedGeneration metadata) t)

def syncProvider
    (nodeId state : String) (inventories : List (PlacementInventoryRecord R)) (t : Tables R) :
    Except StoreError (PlacementProviderRecord R) × Tables R :=
  if state.isEmpty then
    (.error (.corrupt "placement provider state is empty"), t)
  else
    PlacementTables.thenProvider id nodeId (atomically (syncProviderBody nodeId state inventories) t)

def refreshInventories
    (expectedGeneration : Nat) (inventories : List (PlacementInventoryRecord R)) (t : Tables R) :
    Except StoreError (PlacementProviderRecord R) × Tables R :=
  PlacementTables.thenProvider id providerId
    (atomically (refreshInventoriesBody providerId expectedGeneration inventories) t)

def setProviderState (providerId state : String) (t : Tables R) :
    Except StoreError Unit × Tables R :=
  if state.isEmpty then
    (.error (.corrupt "placement provider state is empty"), t)
  else
    atomically (setProviderStateBody providerId state) t

def commitAllocation
    (expectedGeneration : Nat) (allocation : PlacementAllocationRecord) (t : Tables R) :
    Except StoreError PlacementAllocationRecord × Tables R :=
  if invalidAllocation allocation then
    (.error (.corrupt "invalid placement allocation"), t)
  else
    atomically (commitAllocationBody providerId expectedGeneration allocation) t

def releaseAllocation (providerId allocationId : String) (t : Tables R) :
    Except StoreError Unit × Tables R :=
  atomically (releaseAllocationBody providerId allocationId) t

def upsertIntent (intent : PlacementIntentRecord) (t : Tables R) :
    Except StoreError PlacementIntentRecord × Tables R :=
  if invalidAllocation intent then
    (.error (.corrupt "invalid placement allocation intent"), t)
  else
    atomically (upsertIntentBody intent) t

def reconcileConsumers (durableConsumerIds : List String) (t : Tables R) :
    Except StoreError PlacementReconcileRecord × Tables R :=
  atomically (reconcileConsumersBody durableConsumerIds) t

/-- `impl PlacementRepository for SqliteStore`, a method in one step; the
methods that read are several, which `Statements` tells apart. -/
def exec : (c : RepositoryCall R) → Tables R → c.Reply × Tables R
  | .getProvider providerId, t => (.ok (t.getProvider id providerId), t)
  | .listProviders, t => (.ok (t.listProviders id), t)
  | .registerProvider nodeId inventories, t => registerProvider nodeId inventories t
  | .registerProviderMetadata nodeId inventories metadata, t =>
    registerProviderMetadata nodeId inventories metadata t
  | .updateProviderMetadata providerId generation metadata, t =>
    updateProviderMetadata providerId generation metadata t
  | .syncProvider nodeId state inventories, t => syncProvider nodeId state inventories t
  | .refreshInventories providerId generation inventories, t =>
    refreshInventories providerId generation inventories t
  | .setProviderState providerId state, t => setProviderState providerId state t
  | .commitAllocation providerId generation allocation, t =>
    commitAllocation providerId generation allocation t
  | .releaseAllocation providerId allocationId, t => releaseAllocation providerId allocationId t
  | .upsertIntent intent, t => upsertIntent intent t
  | .getIntent allocationId, t => (.ok (t.getIntent id allocationId), t)
  | .deleteIntent allocationId, t => (.ok (), t.deleteIntent allocationId)
  | .reconcileConsumers durableConsumerIds, t => reconcileConsumers durableConsumerIds t

theorem exec_getProvider (t : Tables R) :
    exec (.getProvider providerId) t = (.ok (t.getProvider id providerId), t) :=
  rfl

def step (t : Tables R) (c : RepositoryCall R) : Tables R := (exec c t).2

def act (a : StoreAction R) (t : Tables R) : Tables R := a.apply exec t

end Sqlite
end Placement
end O3k
