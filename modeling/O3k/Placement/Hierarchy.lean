import O3k.Placement.Tables

/-!
# Provider records and the provider hierarchy

What both adapters do in the same way: reading a provider back as a record,
validating the ancestor chain of a proposed parent, and merging a reported
state with the stored one.
-/

namespace O3k
namespace Placement

open Relational Relational.Transaction

variable {Q R : Type}

section Records

-- how a stored quantity is read as a `u64`
variable (toU64 : Q → Nat)

def InventoryRow.record (row : InventoryRow Q R) : PlacementInventoryRecord R :=
  ⟨row.resourceClass, toU64 row.total, toU64 row.reserved, row.allocationRatio, toU64 row.used⟩

def ResourceRow.record (row : ResourceRow Q) : PlacementResourceRecord :=
  ⟨row.resourceClass, toU64 row.amount⟩

/-- An allocation or intent with its resources `ORDER BY resource_class`. -/
def AllocationRow.record (row : AllocationRow Q) : PlacementAllocationRecord :=
  ⟨row.id, row.providerId, row.consumerId, row.resources.rows.map (ResourceRow.record toU64)⟩

namespace PlacementTables

variable (t : PlacementTables Q R)

/-- `load_placement_allocations`. -/
def allocationsOf (providerId : String) : List (AllocationRow Q) :=
  t.allocations.rows.filter (fun row => row.providerId = providerId)

def providerRecord (row : ProviderRow Q R) :
    PlacementProviderRecord R where
  id := row.id
  nodeId := row.nodeId
  state := row.state
  generation := toU64 row.generation
  inventories := row.inventories.rows.map (InventoryRow.record toU64)
  allocations := (t.allocationsOf row.id).map (AllocationRow.record toU64)
  parentProviderId := row.parentProviderId
  traits := row.traits.rows
  failureDomains := row.failureDomains.rows
  location := row.location

def getProvider (providerId : String) : Option (PlacementProviderRecord R) :=
  (t.providers.get? providerId).map (t.providerRecord toU64)

def listProviders : List (PlacementProviderRecord R) :=
  t.providers.rows.map (t.providerRecord toU64)

def getIntent (allocationId : String) : Option PlacementIntentRecord :=
  (t.intents.get? allocationId).map (AllocationRow.record toU64)

/-- What a writing method returns: the provider read back after the commit. -/
def thenProvider (providerId : String) (outcome : Except StoreError Unit × PlacementTables Q R) :
    Except StoreError (PlacementProviderRecord R) × PlacementTables Q R :=
  match outcome with
  | (.ok (), t) =>
    match t.getProvider toU64 providerId with
    | some provider => (.ok provider, t)
    | none => (.error .placementProviderNotFound, t)
  | (.error e, t) => (.error e, t)

@[simp] theorem thenProvider_snd
    (providerId : String) (outcome : Except StoreError Unit × PlacementTables Q R) :
    (thenProvider toU64 providerId outcome).2 = outcome.2 := by
  obtain ⟨result, t⟩ := outcome
  cases result with
  | error e => rfl
  | ok _ =>
    simp only [thenProvider]
    split <;> rfl

end PlacementTables

end Records

/-- The loop over the proposed ancestor chain, at most `fuel` rows long. -/
def walkHierarchy (parentOf : String → Option String) (providerId : String) :
    (fuel : Nat) → (seen : List String) → (cursor : Option String) →
    Except StoreError Unit
  | _, _, none => .ok ()
  | 0, _, some _ => .error (.corrupt "placement provider hierarchy exceeds depth limit")
  | fuel + 1, seen, some id =>
    if id ∈ seen ∨ id = providerId then
      .error (.corrupt "placement provider hierarchy cycle")
    else
      walkHierarchy parentOf providerId fuel (id :: seen) (parentOf id)

/-- The parent must exist and its chain must end within 64 rows, without
meeting itself or the provider. -/
def checkHierarchy
    (t : PlacementTables Q R) (providerId : String) (parentProviderId : Option String) :
    Except StoreError Unit :=
  match parentProviderId with
  | none => .ok ()
  | some parent =>
    match t.providers.get? parent with
    | none => .error .placementProviderNotFound
    | some _ =>
      walkHierarchy
        (fun id => (t.providers.get? id).bind ProviderRow.parentProviderId)
        providerId 64 [] (some parent)

theorem walkHierarchy_congr {parentOf parentOf' : String → Option String} {providerId : String}
    (h : ∀ id, id ≠ providerId → parentOf id = parentOf' id)
    (fuel : Nat) (seen : List String) (cursor : Option String) :
    walkHierarchy parentOf providerId fuel seen cursor =
    walkHierarchy parentOf' providerId fuel seen cursor := by
  induction fuel generalizing seen cursor with
  | zero => cases cursor <;> rfl
  | succ fuel ih =>
    cases cursor with
    | none => rfl
    | some id =>
      simp only [walkHierarchy]
      split_ifs with hstop
      · rfl
      · rw [h id (fun hid => hstop (Or.inr hid)), ih]

theorem checkHierarchy_putProvider
    (t : PlacementTables Q R) {row : ProviderRow Q R} {parentProviderId : Option String}
    (hparent : parentProviderId ≠ some row.id) :
    checkHierarchy (t.putProvider row) row.id parentProviderId =
    checkHierarchy t row.id parentProviderId := by
  have hother :
      ∀ id, id ≠ row.id → (t.putProvider row).providers.get? id = t.providers.get? id :=
    fun id hid => t.providers.get?_put_of_ne (Ne.symm hid)
  cases parentProviderId with
  | none => rfl
  | some parent =>
    simp only [checkHierarchy]
    rw [hother parent (fun h => hparent (congrArg some h))]
    split
    · rfl
    · refine walkHierarchy_congr ?_ _ _ _
      intro id hid
      rw [hother id hid]

def invalidMetadata (providerId : String) (metadata : ProviderMetadata) : Bool :=
  metadata.parentProviderId = some providerId || metadata.traits.any isBlank

/-- The `CASE` of `sync_provider`: a report of `Enabled` leaves a drained or
deleted provider as it is. -/
def syncedState (stored reported : String) : String :=
  if (stored = "Draining" ∨ stored = "Deleted") ∧ reported = "Enabled" then
    stored
  else
    reported

end Placement
end O3k
