import O3k.Placement.Records
import O3k.Relational.Table
import O3k.Relational.Transaction
import O3k.Store.Values
import Mathlib.Data.String.Basic

/-!
# Placement tables

The tables of the placement migrations, for both adapters.  A column of
quantities has the type `Q`: natural numbers for SQLite, which refuses what
does not fit, and integers for PostgreSQL, which reinterprets the bits.

Rows that exist only under another row (`ON DELETE CASCADE`) are kept inside
it: the inventories, traits and failure domains of a provider, the resources
of an allocation or an intent.  Of the `resources` table only what placement
reads is here.
-/

namespace O3k
namespace Placement

open Relational

/-- A `BTreeSet<String>`, and a table with one text column. -/
abbrev StringSet := Table (id : String → String)

namespace StringSet

def ofList (values : List String) : StringSet := Table.ofList values

end StringSet

/-- A row of `placement_inventories`. -/
structure InventoryRow (Q R : Type) where
  resourceClass : String
  total : Q
  reserved : Q
  allocationRatio : R
  used : Q
  deriving DecidableEq

/-- A row of `placement_allocation_resources` or its intent counterpart. -/
structure ResourceRow (Q : Type) where
  resourceClass : String
  amount : Q
  deriving DecidableEq

abbrev Inventories (Q R : Type) := Table (@InventoryRow.resourceClass Q R)

abbrev Resources (Q : Type) := Table (@ResourceRow.resourceClass Q)

/-- A row of `placement_providers`. -/
structure ProviderRow (Q R : Type) where
  id : String
  nodeId : String
  state : String
  generation : Q
  parentProviderId : Option String
  location : Option String
  inventories : Inventories Q R
  traits : StringSet
  failureDomains : StringSet
  deriving DecidableEq

/-- A row of `placement_allocations` or of `placement_allocation_intents`. -/
structure AllocationRow (Q : Type) where
  id : String
  providerId : String
  consumerId : String
  resources : Resources Q
  deriving DecidableEq

/-- A row of `resources`. -/
structure DurableResource where
  id : String
  kind : String
  observedState : String
  deriving DecidableEq

structure PlacementTables (Q R : Type) where
  providers : Table (@ProviderRow.id Q R)
  allocations : Table (@AllocationRow.id Q)
  intents : Table (@AllocationRow.id Q)
  resources : Table DurableResource.id
  deriving DecidableEq

variable {Q R : Type}

namespace InventoryRow

@[simps] def withUsed (row : InventoryRow Q R) (used : Q) : InventoryRow Q R :=
  { row with used := used }

end InventoryRow

namespace ProviderRow

/-- A provider as the first registration of a node inserts it. -/
@[simps id nodeId state generation] def fresh (nodeId state : String) (generation : Q) : ProviderRow Q R where
  id := nodeId
  nodeId := nodeId
  state := state
  generation := generation
  parentProviderId := none
  location := none
  inventories := ∅
  traits := ∅
  failureDomains := ∅

/-- `generation = generation + 1`. -/
@[simps] def bump [Add Q] [One Q] (row : ProviderRow Q R) : ProviderRow Q R :=
  { row with generation := row.generation + 1 }

@[simps] def withState (row : ProviderRow Q R) (state : String) : ProviderRow Q R :=
  { row with state := state }

@[simps] def withInventories (row : ProviderRow Q R) (inventories : Inventories Q R) :
    ProviderRow Q R :=
  { row with inventories := inventories }

/-- The parent, location, traits and failure domains of a metadata write. -/
@[simps id nodeId state generation inventories] def withMetadata (row : ProviderRow Q R) (metadata : ProviderMetadata) : ProviderRow Q R :=
  { row with
    parentProviderId := metadata.parentProviderId
    location := metadata.location
    traits := StringSet.ofList metadata.traits
    failureDomains := StringSet.ofList metadata.failureDomains }

/-- `UPDATE placement_inventories SET used = … WHERE resource_class = …`. -/
@[simps id nodeId state generation] def modifyUsed
    (row : ProviderRow Q R) (resourceClass : String) (f : Q → Q) :
    ProviderRow Q R :=
  { row with
    inventories :=
      row.inventories.update
        (fun inventory =>
          if inventory.resourceClass = resourceClass then
            inventory.withUsed (f inventory.used)
          else
            inventory)
        (by intro inventory; split <;> rfl) }

/-- `used` set from a function of the resource class. -/
@[simps id nodeId state generation] def recomputeUsed (row : ProviderRow Q R) (used : String → Q) : ProviderRow Q R :=
  { row with
    inventories :=
      row.inventories.update
        (fun inventory => inventory.withUsed (used inventory.resourceClass))
        (fun _ => rfl) }

theorem used_of_mem_recomputeUsed {row : ProviderRow Q R} {used : String → Q}
    {inventory : InventoryRow Q R} (h : inventory ∈ (row.recomputeUsed used).inventories.rows) :
    inventory.used = used inventory.resourceClass := by
  obtain ⟨before, _, rfl⟩ := List.mem_map.mp h
  rfl

theorem get?_modifyUsed (row : ProviderRow Q R) (resourceClass : String) (f : Q → Q) (k : String) :
    (row.modifyUsed resourceClass f).inventories.get? k = (row.inventories.get? k).map
      (fun inventory =>
        if resourceClass = k then inventory.withUsed (f inventory.used) else inventory) := by
  rw [modifyUsed, Table.get?_update]
  cases hget : row.inventories.get? k with
  | none => rfl
  | some inventory =>
    have hkey : inventory.resourceClass = k := row.inventories.key_of_get? hget
    simp [hkey, eq_comm]

/-- `UPDATE placement_inventories SET used = …` for each resource in turn. -/
def applyUsed (row : ProviderRow Q R) (op : Q → Q → Q) (resources : List (ResourceRow Q)) :
    ProviderRow Q R :=
  resources.foldl
    (fun row resource =>
      row.modifyUsed resource.resourceClass (fun used => op used resource.amount))
    row

@[simp] theorem applyUsed_id
    (row : ProviderRow Q R) (op : Q → Q → Q) (resources : List (ResourceRow Q)) :
    (row.applyUsed op resources).id = row.id := by
  induction resources generalizing row with
  | nil => rfl
  | cons resource rest ih => exact ih _

@[simp] theorem applyUsed_nodeId
    (row : ProviderRow Q R) (op : Q → Q → Q) (resources : List (ResourceRow Q)) :
    (row.applyUsed op resources).nodeId = row.nodeId := by
  induction resources generalizing row with
  | nil => rfl
  | cons resource rest ih => exact ih _

@[simp] theorem applyUsed_state
    (row : ProviderRow Q R) (op : Q → Q → Q) (resources : List (ResourceRow Q)) :
    (row.applyUsed op resources).state = row.state := by
  induction resources generalizing row with
  | nil => rfl
  | cons resource rest ih => exact ih _

@[simp] theorem applyUsed_generation
    (row : ProviderRow Q R) (op : Q → Q → Q) (resources : List (ResourceRow Q)) :
    (row.applyUsed op resources).generation = row.generation := by
  induction resources generalizing row with
  | nil => rfl
  | cons resource rest ih => exact ih _

theorem applyUsed_append
    (row : ProviderRow Q R) (op : Q → Q → Q) (resources resources' : List (ResourceRow Q)) :
    row.applyUsed op (resources ++ resources') =
    (row.applyUsed op resources).applyUsed op resources' :=
  List.foldl_append

theorem get?_applyUsed
    (row : ProviderRow Q R) (op : Q → Q → Q) (resources : List (ResourceRow Q)) (k : String) :
    (row.applyUsed op resources).inventories.get? k = (row.inventories.get? k).map
      (fun inventory =>
        inventory.withUsed
          ((resources.filter (fun resource => resource.resourceClass = k)).foldl
            (fun used resource => op used resource.amount) inventory.used)) := by
  induction resources generalizing row with
  | nil => exact Option.map_id'.symm ▸ rfl
  | cons resource rest ih =>
    show ((row.modifyUsed _ _).applyUsed op rest).inventories.get? k = _
    rw [ih, get?_modifyUsed, Option.map_map]
    congr 1
    funext inventory
    by_cases hclass : resource.resourceClass = k
    · simp [hclass, InventoryRow.withUsed]
    · simp [hclass]

end ProviderRow

namespace AllocationRow

/-- `INSERT … ON CONFLICT DO UPDATE` of one resource. -/
@[simps id providerId consumerId] def putResource
    (row : AllocationRow Q) (resource : ResourceRow Q) :
    AllocationRow Q :=
  { row with resources := row.resources.put resource }

variable [Zero Q]

/-- What the allocation takes of a resource class. -/
def amountOf (row : AllocationRow Q) (resourceClass : String) : Q :=
  ((row.resources.get? resourceClass).map ResourceRow.amount).getD 0

end AllocationRow

namespace PlacementTables

def empty : PlacementTables Q R := ⟨∅, ∅, ∅, ∅⟩

@[simps] def putProvider (t : PlacementTables Q R) (row : ProviderRow Q R) : PlacementTables Q R :=
  { t with providers := t.providers.put row }

@[simps] def putAllocation (t : PlacementTables Q R) (row : AllocationRow Q) : PlacementTables Q R :=
  { t with allocations := t.allocations.put row }

@[simps] def deleteAllocation (t : PlacementTables Q R) (id : String) : PlacementTables Q R :=
  { t with allocations := t.allocations.deleteWhere (fun row => decide (row.id = id)) }

@[simps] def putIntent (t : PlacementTables Q R) (row : AllocationRow Q) : PlacementTables Q R :=
  { t with intents := t.intents.put row }

@[simps] def deleteIntent (t : PlacementTables Q R) (id : String) : PlacementTables Q R :=
  { t with intents := t.intents.deleteWhere (fun row => decide (row.id = id)) }

/-- `UPDATE placement_providers … WHERE id = …`: no effect on an absent row. -/
def modifyProvider (t : PlacementTables Q R) (id : String) (f : ProviderRow Q R → ProviderRow Q R) :
    PlacementTables Q R :=
  match t.providers.get? id with
  | none => t
  | some row => t.putProvider (f row)

variable {id : String} {row : ProviderRow Q R} {t : PlacementTables Q R}

theorem modifyProvider_of_some
    (h : t.providers.get? id = some row) (f : ProviderRow Q R → ProviderRow Q R) :
    t.modifyProvider id f = t.putProvider (f row) := by
  simp [modifyProvider, h]

theorem modifyProvider_of_none
    (h : t.providers.get? id = none) (f : ProviderRow Q R → ProviderRow Q R) :
    t.modifyProvider id f = t := by
  simp [modifyProvider, h]

theorem get?_putProvider (t : PlacementTables Q R) (hid : row.id = id) :
    (t.putProvider row).providers.get? id = some row := by
  simp [Table.get?_put, hid]

theorem putProvider_self (hget : t.providers.get? id = some row) : t.putProvider row = t := by
  simp [putProvider, Table.put_self, t.providers.mem_of_get? hget]

theorem putProvider_putProvider
    (t : PlacementTables Q R) {row row' : ProviderRow Q R} (hid : row.id = row'.id) :
    (t.putProvider row).putProvider row' = t.putProvider row' := by
  simp [putProvider, Table.put_put, hid]

theorem get?_putAllocation (t : PlacementTables Q R) {row : AllocationRow Q} (hid : row.id = id) :
    (t.putAllocation row).allocations.get? id = some row := by
  simp [Table.get?_put, hid]

theorem putAllocation_putAllocation
    (t : PlacementTables Q R) {row row' : AllocationRow Q} (hid : row.id = row'.id) :
    (t.putAllocation row).putAllocation row' = t.putAllocation row' := by
  simp [putAllocation, Table.put_put, hid]

theorem modifyProvider_putAllocation (t : PlacementTables Q R) (row : AllocationRow Q) (id : String)
    (f : ProviderRow Q R → ProviderRow Q R) :
    (t.putAllocation row).modifyProvider id f = (t.modifyProvider id f).putAllocation row := by
  unfold modifyProvider
  rw [putAllocation_providers]
  cases t.providers.get? id <;> rfl

theorem modifyProvider_deleteAllocation
    (t : PlacementTables Q R) (allocationId id : String) (f : ProviderRow Q R → ProviderRow Q R) :
    (t.deleteAllocation allocationId).modifyProvider id f =
    (t.modifyProvider id f).deleteAllocation allocationId := by
  unfold modifyProvider
  rw [deleteAllocation_providers]
  cases t.providers.get? id <;> rfl

theorem modifyProvider_tables
    (t : PlacementTables Q R) (id : String) (f : ProviderRow Q R → ProviderRow Q R) :
    (t.modifyProvider id f).allocations = t.allocations ∧
      (t.modifyProvider id f).intents = t.intents ∧
      (t.modifyProvider id f).resources = t.resources := by
  unfold modifyProvider
  cases t.providers.get? id <;> exact ⟨rfl, rfl, rfl⟩

theorem foldl_deleteIntent_tables (rows : List (AllocationRow Q)) (t : PlacementTables Q R) :
    let t' := rows.foldl (fun t row => t.deleteIntent row.id) t
    t'.providers = t.providers ∧
      t'.allocations = t.allocations ∧
      t'.resources = t.resources := by
  induction rows generalizing t with
  | nil => exact ⟨rfl, rfl, rfl⟩
  | cons row rest ih => exact ih _

variable {f : ProviderRow Q R → ProviderRow Q R}

theorem modifyProvider_putProvider
    (t : PlacementTables Q R) (hid : row.id = id) (hf : (f row).id = row.id) :
    (t.putProvider row).modifyProvider id f = t.putProvider (f row) := by
  rw [modifyProvider_of_some (t.get?_putProvider hid), t.putProvider_putProvider hf.symm]

theorem get?_modifyProvider
    (t : PlacementTables Q R) (id : String) (hf : ∀ row, (f row).id = row.id) (k : String) :
    (t.modifyProvider id f).providers.get? k =
    (t.providers.get? k).map (fun row => if row.id = id then f row else row) := by
  cases hget : t.providers.get? id with
  | none =>
    rw [modifyProvider_of_none hget]
    cases hk : t.providers.get? k with
    | none => rfl
    | some row =>
      have hne : row.id ≠ id :=
        t.providers.get?_eq_none_iff.mp hget row (t.providers.mem_of_get? hk)
      simp [hne]
  | some row =>
    have hid : row.id = id := t.providers.key_of_get? hget
    rw [modifyProvider_of_some hget, putProvider_providers, Table.get?_put, hf, hid]
    split_ifs with hk
    · subst hk
      simp [hget, hid]
    · cases hother : t.providers.get? k with
      | none => rfl
      | some other =>
        have hne : other.id ≠ id := fun h =>
          hk (h.symm.trans (t.providers.key_of_get? hother))
        simp [hne]

def inventoriesOf (t : PlacementTables Q R) (id : String) : Inventories Q R :=
  ((t.providers.get? id).map ProviderRow.inventories).getD ∅

def providerState (t : PlacementTables Q R) (id : String) : Option String :=
  (t.providers.get? id).map ProviderRow.state

theorem providerState_putProvider
    (t : PlacementTables Q R) {old row : ProviderRow Q R} (hold : t.providers.get? id = some old)
    (hid : row.id = old.id) (hstate : row.state = old.state) (k : String) :
    (t.putProvider row).providerState k = t.providerState k := by
  unfold providerState
  rw [putProvider_providers, Table.get?_put, hid, t.providers.key_of_get? hold]
  split_ifs with hk
  · subst hk
    rw [hold]
    exact congrArg some hstate
  · rfl

section Allocated

variable [AddCommMonoid Q]

/-- `SUM(amount)` of a resource class over the allocations of a provider. -/
def allocated (t : PlacementTables Q R) (providerId resourceClass : String) : Q :=
  t.allocations.sumBy
    (fun row => if row.providerId = providerId then row.amountOf resourceClass else 0)

/-- The `used` column of a provider is what its allocations add up to. -/
def UsedExact (t : PlacementTables Q R) (row : ProviderRow Q R) : Prop :=
  ∀ inventory ∈ row.inventories.rows,
    inventory.used = t.allocated row.id inventory.resourceClass

def UsageExact (t : PlacementTables Q R) : Prop := ∀ row ∈ t.providers.rows, t.UsedExact row

instance [DecidableEq Q] (t : PlacementTables Q R) : Decidable t.UsageExact := by
  unfold UsageExact UsedExact
  infer_instance

theorem allocated_congr {t t' : PlacementTables Q R}
    (h : t'.allocations = t.allocations) (providerId resourceClass : String) :
    t'.allocated providerId resourceClass = t.allocated providerId resourceClass := by
  simp [allocated, h]

variable {t : PlacementTables Q R}

theorem allocated_putAllocation {row : AllocationRow Q}
    (habsent : t.allocations.get? row.id = none) (providerId resourceClass : String) :
    (t.putAllocation row).allocated providerId resourceClass =
    (if row.providerId = providerId then row.amountOf resourceClass else 0)
      + t.allocated providerId resourceClass :=
  t.allocations.sumBy_put_of_absent _ habsent

theorem allocated_deleteAllocation {row : AllocationRow Q}
    (hrow : row ∈ t.allocations.rows) (providerId resourceClass : String) :
    (t.deleteAllocation row.id).allocated providerId resourceClass
      + (if row.providerId = providerId then row.amountOf resourceClass else 0)
      =
    t.allocated providerId resourceClass :=
  t.allocations.sumBy_delete_key_add _ hrow

theorem usedExact_iff_get? {row : ProviderRow Q R} :
    t.UsedExact row ↔ ∀ k inventory, row.inventories.get? k = some inventory →
      inventory.used = t.allocated row.id k := by
  constructor
  · intro h k inventory hget
    obtain ⟨hmem, rfl⟩ := row.inventories.get?_eq_some_iff.mp hget
    exact h inventory hmem
  · intro h inventory hmem
    exact h _ inventory (row.inventories.get?_key_of_mem hmem)

variable {row : ProviderRow Q R}

theorem UsedExact.of_allocated {t t' : PlacementTables Q R}
    (hrow : t.UsedExact row) (h : ∀ k, t'.allocated row.id k = t.allocated row.id k) :
    t'.UsedExact row := by
  intro inventory hmem
  rw [hrow inventory hmem, h]

theorem UsedExact.of_allocations_eq {t t' : PlacementTables Q R}
    (hrow : t.UsedExact row) (h : t'.allocations = t.allocations) :
    t'.UsedExact row :=
  hrow.of_allocated (allocated_congr h row.id)

theorem UsageExact.putProvider (h : t.UsageExact) (hrow : t.UsedExact row) :
    (t.putProvider row).UsageExact := by
  intro row' hrow'
  rcases t.providers.mem_put.mp hrow' with rfl | ⟨hmem, _⟩
  · exact hrow
  · exact h row' hmem

theorem UsageExact.putProvider_putAllocation (h : t.UsageExact) {allocation : AllocationRow Q}
    (habsent : t.allocations.get? allocation.id = none) (howner : allocation.providerId = row.id)
    (hrow : (t.putAllocation allocation).UsedExact row) :
    ((t.putProvider row).putAllocation allocation).UsageExact := by
  intro row' hrow'
  rcases t.providers.mem_put.mp hrow' with rfl | ⟨hmem, hother⟩
  · exact hrow.of_allocations_eq rfl
  · refine (h row' hmem).of_allocated ?_
    intro k
    show (t.putAllocation allocation).allocated row'.id k = _
    rw [allocated_putAllocation habsent, howner, if_neg (Ne.symm hother), zero_add]

theorem UsageExact.putProvider_deleteAllocation
    (h : t.UsageExact) {existing : AllocationRow Q} (hexisting : existing ∈ t.allocations.rows)
    (howner : existing.providerId = row.id)
    (hrow : (t.deleteAllocation existing.id).UsedExact row) :
    ((t.putProvider row).deleteAllocation existing.id).UsageExact := by
  intro row' hrow'
  rcases t.providers.mem_put.mp hrow' with rfl | ⟨hmem, hother⟩
  · exact hrow.of_allocations_eq rfl
  · refine (h row' hmem).of_allocated ?_
    intro k
    have hsum := allocated_deleteAllocation hexisting row'.id k
    rwa [howner, if_neg (Ne.symm hother), add_zero] at hsum

end Allocated

end PlacementTables

/-- An atomic action on the store: a method of the repository, or a change of
the `resources` table by the rest of the control plane. -/
inductive StoreAction (R : Type)
  | call (c : RepositoryCall R)
  | writeResources (rows : Table DurableResource.id)
  deriving DecidableEq

namespace StoreAction

def isCommit : StoreAction R → Bool
  | .call (.commitAllocation _ _ _) => true
  | _ => false

/-- The store after an action, with a repository that executes the calls. -/
def apply (exec : (c : RepositoryCall R) → PlacementTables Q R → c.Reply × PlacementTables Q R)
    (a : StoreAction R) (t : PlacementTables Q R) :
    PlacementTables Q R :=
  match a with
  | .call c => (exec c t).2
  | .writeResources rows => { t with resources := rows }

end StoreAction

end Placement
end O3k
