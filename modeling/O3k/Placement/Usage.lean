import O3k.Placement.SqliteEffects
import O3k.Semantics.Run
import O3k.Placement.PostgresEffects

/-!
# SQLite placement usage is the sum of the allocations

`used` is maintained in four ways: recomputed when inventories are written,
incremented by a commit, decremented towards zero by a release, and re-summed
by a reconciliation.  Under the invariant that every stored column equals the
sum and fits 64 bits, the truncated decrement never truncates.  Only the
increment can leave the 64 bits, and is rounded then.
-/

namespace O3k
namespace Placement

open Relational Semantics
open PlacementTables (UsageExact allocated allocated_deleteAllocation allocated_putAllocation usedExact_iff_get?)

variable {R : Type}

theorem usedExact_released {Q : Type} [AddCommMonoid Q] [One Q] {t : PlacementTables Q R}
    {op : Q → Q → Q} {old : ProviderRow Q R}
    (hop : ∀ inventory ∈ old.inventories.rows, ∀ a b,
      inventory.used = a + b → op inventory.used b = a)
    (hold : t.UsedExact old) {existing : AllocationRow Q}
    (hexisting : existing ∈ t.allocations.rows) (hprovider : existing.providerId = old.id) :
    (t.deleteAllocation existing.id).UsedExact (old.applyUsed op existing.resources.rows).bump := by
  rw [usedExact_iff_get?] at hold ⊢
  intro k inventory hget
  rw [ProviderRow.bump_inventories, ProviderRow.get?_applyUsed,
    existing.resources.filter_key_eq_toList existing.resources.keys_nodup (fun _ => Iff.rfl)]
    at hget
  obtain ⟨before, hbefore, rfl⟩ := Option.map_eq_some_iff.mp hget
  have hused := hold k before hbefore
  have hsum := allocated_deleteAllocation hexisting old.id k
  rw [if_pos hprovider] at hsum
  have htaken := hop before (old.inventories.mem_of_get? hbefore) _ _ (hused.trans hsum.symm)
  rw [ProviderRow.bump_id, ProviderRow.applyUsed_id, InventoryRow.withUsed_used]
  unfold AllocationRow.amountOf at hsum htaken
  cases hresource : existing.resources.get? k with
  | none =>
    rw [hresource] at hsum
    simpa [hused] using hsum.symm
  | some resource =>
    rw [hresource] at htaken
    exact htaken

namespace Sqlite

variable {records : List PlacementResourceRecord}

theorem insertResources_filter {rows : Resources Nat}
    (h : insertResources records ∅ = .ok rows) (k : String) :
    (resourceRows records).filter (fun resource => resource.resourceClass = k) =
    (rows.get? k).toList := by
  obtain ⟨hnodup, _, hmem⟩ := insertResources_ok h
  refine rows.filter_key_eq_toList ?_ ?_ k
  · rw [resourceRows, List.map_map]
    exact hnodup
  · intro row
    rw [hmem]
    simp [resourceRows, eq_comm]

variable {t : Tables R}

theorem tallied_committed {old : ProviderRow Nat R}
    (hold : Tallied t old) {allocation : AllocationRow Nat}
    (hresources : insertResources records ∅ = .ok allocation.resources)
    (hprovider : allocation.providerId = old.id) (habsent : t.allocations.get? allocation.id = none)
    (hfits : ∀ record ∈ records, ∀ inventory ∈ old.inventories.get? record.resourceClass,
      inventory.used + record.amount ≤ i64Max) :
    Tallied (t.putAllocation allocation) (old.bump.applyUsed plusUsed (resourceRows records)) := by
  have hclasses :
      ∀ k inventory,
        (old.bump.applyUsed plusUsed (resourceRows records)).inventories.get? k = some inventory →
          inventory.used = (t.putAllocation allocation).allocated old.id k ∧
            inventory.used ≤ i64Max := by
    intro k inventory hget
    rw [ProviderRow.get?_applyUsed, insertResources_filter hresources] at hget
    obtain ⟨before, hbefore, rfl⟩ := Option.map_eq_some_iff.mp hget
    have hused := usedExact_iff_get?.mp hold.sums k before hbefore
    have hbound := hold.fits before (old.inventories.mem_of_get? hbefore)
    rw [allocated_putAllocation habsent, if_pos hprovider, ← hused]
    unfold AllocationRow.amountOf
    cases hresource : allocation.resources.get? k with
    | none => simpa using hbound
    | some resource =>
      obtain ⟨record, hrecord, rfl⟩ : ∃ record ∈ records,
          (⟨record.resourceClass, record.amount⟩ : ResourceRow Nat) = resource := by
        have hmem : resource ∈
            (resourceRows records).filter (fun resource => resource.resourceClass = k) := by
          rw [insertResources_filter hresources, hresource]
          exact List.mem_cons_self
        exact List.mem_map.mp (List.mem_filter.mp hmem).1
      have hclass : record.resourceClass = k := allocation.resources.key_of_get? hresource
      have hsum := hfits record hrecord before (hclass ▸ hbefore)
      have hplus : plusUsed before.used record.amount = before.used + record.amount := if_pos hsum
      simp only [Option.toList_some, List.foldl_cons, List.foldl_nil, InventoryRow.withUsed_used,
        hplus, Option.map_some, Option.getD_some]
      exact ⟨add_comm _ _, hsum⟩
  refine ⟨?_, fun inventory hmem => ?_⟩
  · rw [usedExact_iff_get?]
    intro k inventory hget
    rw [ProviderRow.applyUsed_id, ProviderRow.bump_id]
    exact (hclasses k inventory hget).1
  · exact (hclasses _ inventory (Table.get?_key_of_mem _ hmem)).2

theorem minusUsed_of_sum {used a b : Nat} (hfits : used ≤ i64Max) (h : used = a + b) :
    minusUsed used b = a := by
  rw [minusUsed, if_pos hfits, h, Nat.add_sub_cancel_right]

theorem fits_released {old : ProviderRow Nat R} {resources : List (ResourceRow Nat)}
    (hold : ∀ inventory ∈ old.inventories.rows, inventory.used ≤ i64Max) :
    ∀ inventory ∈ (old.applyUsed minusUsed resources).bump.inventories.rows,
      inventory.used ≤ i64Max := by
  intro inventory hmem
  have hget := Table.get?_key_of_mem _ hmem
  rw [ProviderRow.bump_inventories, ProviderRow.get?_applyUsed] at hget
  obtain ⟨before, hbefore, heq⟩ := Option.map_eq_some_iff.mp hget
  have hbound := hold before (old.inventories.mem_of_get? hbefore)
  rw [← heq, InventoryRow.withUsed_used]
  generalize before.used = used at hbound
  induction (resources.filter _) generalizing used with
  | nil => exact hbound
  | cons resource rest ih =>
    refine ih _ ?_
    show minusUsed used resource.amount ≤ i64Max
    rw [minusUsed, if_pos hbound]
    exact (Nat.sub_le _ _).trans hbound

def CommitsOwnProvider : StoreAction R → Prop
  | .call (.commitAllocation providerId _ allocation) => allocation.providerId = providerId
  | _ => True

instance (a : StoreAction R) : Decidable (CommitsOwnProvider a) := by
  unfold CommitsOwnProvider
  split <;> infer_instance

/-- A commit under a new id and the current generation takes no class of the
provider beyond 64 bits. -/
def AddsWithinRange (t : Tables R) : StoreAction R → Prop
  | .call (.commitAllocation providerId generation allocation) =>
    t.allocations.get? allocation.id = none →
      ∀ row ∈ t.providers.get? providerId, row.generation = generation →
        ∀ record ∈ allocation.resources, ∀ inventory ∈ row.inventories.get? record.resourceClass,
          inventory.used + record.amount ≤ i64Max
  | _ => True

instance (t : Tables R) (a : StoreAction R) : Decidable (AddsWithinRange t a) := by
  unfold AddsWithinRange
  split <;> infer_instance

/-- Every `used` column of the store fits. -/
def UsageFits (t : Tables R) : Prop :=
  ∀ row ∈ t.providers.rows, ∀ inventory ∈ row.inventories.rows, inventory.used ≤ i64Max

theorem UsageFits.put {t' : Tables R} (h : UsageFits t) {row : ProviderRow Nat R}
    (hput : t'.providers = t.providers.put row)
    (hrow : ∀ inventory ∈ row.inventories.rows, inventory.used ≤ i64Max) :
    UsageFits t' := by
  intro row' hrow'
  rw [hput] at hrow'
  rcases t.providers.mem_put.mp hrow' with rfl | ⟨hmem, _⟩
  · exact hrow
  · exact h row' hmem

theorem usageExact_effect {t' : Tables R} {c : RepositoryCall R}
    (h : t.UsageExact) (hfits : UsageFits t) (heffect : Effect t c t')
    (hown : CommitsOwnProvider (.call c)) (hadds : AddsWithinRange t (.call c)) :
    t'.UsageExact ∧ UsageFits t' := by
  cases heffect with
  | unchanged | intentStored | intentDeleted => exact ⟨h, hfits⟩
  | provider row htarget hnewer hinventories hstate =>
    rcases hinventories with hused | ⟨old, hold, hsame⟩
    · exact ⟨h.putProvider hused.sums, hfits.put rfl hused.fits⟩
    · have hmem := t.providers.mem_of_get? hold
      refine ⟨h.putProvider ?_, hfits.put rfl (hsame ▸ hfits old hmem)⟩
      have hid : old.id = row.id := t.providers.key_of_get? hold
      intro inventory hinventory
      rw [hsame] at hinventory
      rw [h old hmem inventory hinventory, hid]
  | @committed providerId allocation old resources habsent hold hresources =>
    have hid : old.id = providerId := t.providers.key_of_get? hold
    have howner : allocation.providerId = old.id := hown.trans hid.symm
    have hmem := t.providers.mem_of_get? hold
    have htallied :=
      @tallied_committed R allocation.resources t old ⟨h old hmem, hfits old hmem⟩
        ⟨allocation.id, allocation.providerId, allocation.consumerId, resources⟩
        hresources howner habsent (hadds habsent old hold rfl)
    refine ⟨h.putProvider_putAllocation habsent (by simpa using howner) htallied.sums, ?_⟩
    exact hfits.put rfl htallied.fits
  | @released allocationId old existing hold hexisting =>
    have hid : old.id = existing.providerId := t.providers.key_of_get? hold
    obtain ⟨hmem, rfl⟩ := t.allocations.get?_eq_some_iff.mp hexisting
    have hbound := hfits old (t.providers.mem_of_get? hold)
    refine ⟨h.putProvider_deleteAllocation hmem (by simpa using hid.symm) ?_,
      hfits.put rfl (fits_released hbound)⟩
    exact usedExact_released
      (fun inventory hinventory _ _ => minusUsed_of_sum (hbound inventory hinventory))
      (h old (t.providers.mem_of_get? hold)) hmem hid.symm
  | @reconciled durableConsumerIds t' hallocations hintents hresources hproviders =>
    have hrows : ∀ row' ∈ t'.providers.rows,
        t'.UsedExact row' ∧ ∀ inventory ∈ row'.inventories.rows, inventory.used ≤ i64Max := by
      intro row' hrow'
      have hget := hproviders row'.id
      rw [t'.providers.get?_key_of_mem hrow'] at hget
      obtain ⟨row, hrow, hrow''⟩ := Option.map_eq_some_iff.mp hget.symm
      have hmem := t.providers.mem_of_get? hrow
      split_ifs at hrow'' with hreleased
      · subst hrow''
        refine ⟨fun inventory hinventory => ProviderRow.used_of_mem_recomputeUsed hinventory, ?_⟩
        intro inventory hinventory
        obtain ⟨before, hbefore, rfl⟩ := List.mem_map.mp hinventory
        -- what is left of the sum fits, as the sum did
        have hsum := t.allocations.sumBy_deleteWhere_add
          (fun allocation =>
            if allocation.providerId = row.id then allocation.amountOf before.resourceClass
            else 0)
          (fun row => row.consumerId ∉ liveConsumerIds t durableConsumerIds)
        have hused := h row hmem before hbefore
        have hbound := hfits row hmem before hbefore
        show t'.allocated row.id before.resourceClass ≤ i64Max
        unfold allocated at hused ⊢
        rw [hallocations]
        omega
      · subst hrow''
        refine ⟨(h row hmem).of_allocated ?_, hfits row hmem⟩
        intro k
        unfold allocated
        rw [hallocations]
        refine t.allocations.sumBy_deleteWhere_of_zero ?_
        intro allocation hallocation horphan
        refine if_neg (fun hprovider => hreleased ⟨allocation, ?_, hprovider⟩)
        exact List.mem_filter.mpr ⟨hallocation, horphan⟩
    exact ⟨fun row hrow => (hrows row hrow).1, fun row hrow => (hrows row hrow).2⟩

/-- **Usage is exact**: in every state that calls of the repository can reach
from the empty store without a sum above 64 bits, each `used` column is the sum
of the allocated amounts, whatever usage the callers reported. -/
theorem usage_exact (actions : List (StoreAction R))
    (hactions :
      EachStep (fun t a => act a t) (fun t a => CommitsOwnProvider a ∧ AddsWithinRange t a)
        PlacementTables.empty actions) :
    Always (fun t a => act a t) UsageExact PlacementTables.empty actions := by
  have hboth :
      Always (fun t a => act a t) (fun t : Tables R => t.UsageExact ∧ UsageFits t)
        PlacementTables.empty actions := by
    refine always_of_guarded ?_ _ actions ?_ hactions
    · rintro t (c | rows) ⟨h, hfits⟩ ⟨hown, hadds⟩
      · exact usageExact_effect h hfits (effect_step t c) hown hadds
      · exact ⟨h, hfits⟩
    · constructor
      · exact fun row hrow => by cases hrow
      · exact fun row hrow => by cases hrow
  exact hboth.imp (fun _ h => h.1)

/-- A class is dropped from the inventory and added again while an allocation
on it exists; the usage reported on the way is wrong each time. -/
def readdedClass : List (StoreAction Unit) :=
  [.call (.registerProvider "node" [⟨"VCPU", 8, 0, (), 5⟩]),
    .call (.commitAllocation "node" 1 ⟨"allocation", "node", "server", [⟨"VCPU", 3⟩]⟩),
    .call (.syncProvider "node" "Enabled" []),
    .call (.syncProvider "node" "Enabled" [⟨"VCPU", 8, 0, (), 0⟩])]

theorem usage_exact_over_readded_class :
    (((run (fun t a => act a t) PlacementTables.empty readdedClass).providers.get? "node").bind
        (fun row => row.inventories.get? "VCPU")).map InventoryRow.used = some 3 ∧
      Always (fun t a => act a t) UsageExact PlacementTables.empty readdedClass := by
  exact ⟨by decide, usage_exact readdedClass (by decide)⟩

/-- Two commits of the largest amount on one class. -/
def largestTwice : List (StoreAction Unit) :=
  [.call (.registerProvider "node" [⟨"VCPU", 8, 0, (), 0⟩]),
    .call (.commitAllocation "node" 1 ⟨"first", "node", "server", [⟨"VCPU", i64Max⟩]⟩),
    .call (.commitAllocation "node" 2 ⟨"second", "node", "server", [⟨"VCPU", i64Max⟩]⟩)]

theorem usage_rounded_above_range :
    EachStep (fun t a => act a t) (fun _ a => CommitsOwnProvider a)
        PlacementTables.empty largestTwice ∧
      ¬ Always (fun t a => act a t) UsageExact PlacementTables.empty largestTwice := by
  decide

end Sqlite

end Placement
end O3k

/-!
# PostgreSQL placement usage

The adapter moves `used` by increments and decrements only, and starts a new
class from the usage that the caller reports.  So usage is exact as long as
these reports and the sums of the commits agree with what is stored.
-/

namespace O3k
namespace Placement
namespace Postgres

open Relational Semantics
open PlacementTables (UsageExact allocated allocated_deleteAllocation allocated_putAllocation inventoriesOf usedExact_iff_get?)

variable {R : Type}

/-- The usage that a list of inventories reports first for a class. -/
def reportedUsed (inventories : List (PlacementInventoryRecord R)) (k : String) : Int :=
  ((inventories.find? (fun inventory => inventory.resourceClass = k)).map
    (fun inventory => asI64 inventory.used)).getD 0

/-- For a class that the provider has no inventory of, the report says what the
provider's allocations add up to. -/
def ReportsAllocated (t : Tables R) (providerId : String)
    (inventories : List (PlacementInventoryRecord R)) : Prop :=
  ∀ inventory ∈ inventories,
    (t.inventoriesOf providerId).get? inventory.resourceClass = none →
      reportedUsed inventories inventory.resourceClass
        = t.allocated providerId inventory.resourceClass

/-- The amounts that a commit asks for in a class, in order. -/
def requestedAmounts (resources : List PlacementResourceRecord) (k : String) : List Int :=
  ((resourceRows resources).filter (fun row => row.resourceClass = k)).map ResourceRow.amount

/-- In each class that the provider has an inventory of, the requested amounts
add up to the last of them. -/
def RequestsOnce (t : Tables R) (providerId : String)
    (resources : List PlacementResourceRecord) : Prop :=
  ∀ inventory ∈ (t.inventoriesOf providerId).rows,
    (requestedAmounts resources inventory.resourceClass).sum
      = (requestedAmounts resources inventory.resourceClass).getLastD 0

/-- The condition on a call: one that gets to write reports or requests what
the allocations come to. -/
def KeepsUsage (t : Tables R) : StoreAction R → Prop
  | .call (.registerProvider nodeId inventories) => ReportsAllocated t nodeId inventories
  | .call (.registerProviderMetadata nodeId inventories metadata) =>
    invalidMetadata nodeId metadata = false →
      checkHierarchy t nodeId metadata.parentProviderId = .ok () →
        ReportsAllocated t nodeId inventories
  | .call (.syncProvider nodeId _ inventories) => ReportsAllocated t nodeId inventories
  | .call (.refreshInventories providerId generation inventories) =>
    (t.providers.get? providerId).map ProviderRow.generation = some (asI64 generation) →
      ReportsAllocated t providerId inventories
  | .call (.commitAllocation providerId generation allocation) =>
    t.allocations.get? allocation.id = none →
      (t.providers.get? providerId).map (fun row => asU64 row.generation) = some generation →
        RequestsOnce t providerId allocation.resources
  | _ => True

instance (t : Tables R) (a : StoreAction R) : Decidable (KeepsUsage t a) := by
  unfold KeepsUsage ReportsAllocated RequestsOnce
  split <;> infer_instance

theorem get?_upsertInventory
    (rows : Inventories Int R) (inventory : PlacementInventoryRecord R) (k : String) :
    ((upsertInventory rows inventory).get? k).map InventoryRow.used =
    if inventory.resourceClass = k then
      some (((rows.get? k).map InventoryRow.used).getD (asI64 inventory.used))
    else
      (rows.get? k).map InventoryRow.used := by
  rw [upsertInventory, Table.get?_put]
  split_ifs with hk
  · rw [← hk]
    rfl
  · rfl

theorem get?_upsertInventories
    (inventories : List (PlacementInventoryRecord R)) (rows : Inventories Int R) (k : String) :
    ((upsertInventories rows inventories).get? k).map InventoryRow.used =
    ((rows.get? k).map InventoryRow.used).or
      ((inventories.find? (fun inventory => inventory.resourceClass = k)).map
        (fun inventory => asI64 inventory.used)) := by
  unfold upsertInventories
  induction inventories generalizing rows with
  | nil => exact Option.or_none.symm
  | cons inventory rest ih =>
    rw [List.foldl_cons, ih, get?_upsertInventory]
    by_cases hk : inventory.resourceClass = k
    · cases rows.get? k <;> simp [hk]
    · simp [hk]

variable {t : Tables R}

theorem usedExact_upserted_iff
    (h : t.UsageExact) {row : ProviderRow Int R} {inventories : List (PlacementInventoryRecord R)}
    (hinventories : row.inventories = upsertInventories (t.inventoriesOf row.id) inventories) :
    t.UsedExact row ↔ ReportsAllocated t row.id inventories := by
  have hstored :
      ∀ k before, (t.inventoriesOf row.id).get? k = some before →
        before.used = t.allocated row.id k := by
    intro k before hbefore
    unfold inventoriesOf at hbefore
    cases hget : t.providers.get? row.id with
    | none =>
      rw [hget] at hbefore
      cases hbefore
    | some old =>
      rw [hget] at hbefore
      have hold := h old (t.providers.mem_of_get? hget)
      rw [← t.providers.key_of_get? hget]
      exact usedExact_iff_get?.mp hold k before hbefore
  have hlookup := get?_upsertInventories inventories (t.inventoriesOf row.id)
  rw [← hinventories] at hlookup
  rw [usedExact_iff_get?]
  constructor
  · intro hrow inventory hmem hnew
    have hfound := hlookup inventory.resourceClass
    rw [hnew] at hfound
    cases hfind :
        inventories.find? (fun i => i.resourceClass = inventory.resourceClass) with
    | none =>
      have habsent := List.find?_eq_none.mp hfind inventory hmem
      simp at habsent
    | some first =>
      rw [hfind] at hfound
      obtain ⟨stored, hget, hused⟩ := Option.map_eq_some_iff.mp hfound
      rw [reportedUsed, hfind, ← hrow _ stored hget, hused]
      rfl
  · intro hreport k stored hget
    have hfound := hlookup k
    rw [hget] at hfound
    cases hbefore : (t.inventoriesOf row.id).get? k with
    | some before =>
      rw [hbefore] at hfound
      rw [← hstored k before hbefore]
      exact Option.some.inj hfound
    | none =>
      rw [hbefore] at hfound
      cases hfind : inventories.find? (fun i => i.resourceClass = k) with
      | none =>
        rw [hfind] at hfound
        cases hfound
      | some first =>
        have hclass : first.resourceClass = k := by
          simpa using List.find?_some hfind
        have hright := hreport first (List.mem_of_find?_eq_some hfind)
        rw [hclass, reportedUsed, hfind] at hright
        rw [hfind] at hfound
        rw [← hright hbefore]
        exact Option.some.inj hfound

theorem foldl_add_amounts (resources : List (ResourceRow Int)) (used : Int) :
    resources.foldl (fun used resource => used + resource.amount) used =
    used + (resources.map ResourceRow.amount).sum := by
  induction resources generalizing used with
  | nil => simp
  | cons resource rest ih =>
    rw [List.foldl_cons, ih, List.map_cons, List.sum_cons]
    omega

theorem foldl_sub_amounts (resources : List (ResourceRow Int)) (used : Int) :
    resources.foldl (fun used resource => used - resource.amount) used =
    used - (resources.map ResourceRow.amount).sum := by
  induction resources generalizing used with
  | nil => simp
  | cons resource rest ih =>
    rw [List.foldl_cons, ih, List.map_cons, List.sum_cons]
    omega

theorem amountOf_committed
    (resources : List PlacementResourceRecord) (id providerId consumerId k : String) :
    AllocationRow.amountOf ⟨id, providerId, consumerId, Table.ofList (resourceRows resources)⟩ k =
    (requestedAmounts resources k).getLastD 0 := by
  unfold AllocationRow.amountOf requestedAmounts Table.ofList
  rw [Table.get?_foldl_put, List.getLastD_eq_getLast?, List.getLast?_map]
  simp

theorem usedExact_committed_iff {providerId : String} {old : ProviderRow Int R}
    (hget : t.providers.get? providerId = some old) (hold : t.UsedExact old)
    {allocation : PlacementAllocationRecord} (habsent : t.allocations.get? allocation.id = none) :
    (t.putAllocation
        ⟨allocation.id, providerId, allocation.consumerId,
          Table.ofList (resourceRows allocation.resources)⟩).UsedExact
        (old.applyUsed (· + ·) (resourceRows allocation.resources)).bump
      ↔
    RequestsOnce t providerId allocation.resources := by
  have hid : old.id = providerId := t.providers.key_of_get? hget
  have hstored : t.inventoriesOf providerId = old.inventories := by
    simp [inventoriesOf, hget]
  have hsum :
      ∀ k,
        (t.putAllocation
            ⟨allocation.id, providerId, allocation.consumerId,
              Table.ofList (resourceRows allocation.resources)⟩).allocated old.id k
          =
        (requestedAmounts allocation.resources k).getLastD 0 + t.allocated old.id k := by
    intro k
    rw [allocated_putAllocation habsent, if_pos hid.symm, amountOf_committed]
  rw [usedExact_iff_get?] at hold ⊢
  rw [RequestsOnce, hstored]
  simp only [ProviderRow.bump_id, ProviderRow.applyUsed_id, ProviderRow.bump_inventories,
    ProviderRow.get?_applyUsed, foldl_add_amounts, hsum]
  constructor
  · intro h inventory hmem
    have hbefore := old.inventories.get?_key_of_mem hmem
    have hused := hold _ inventory hbefore
    have hnow := h inventory.resourceClass _ (by rw [hbefore]; rfl)
    simp only [InventoryRow.withUsed_used] at hnow
    unfold requestedAmounts at hnow ⊢
    omega
  · intro h k inventory hinventory
    obtain ⟨before, hbefore, rfl⟩ := Option.map_eq_some_iff.mp hinventory
    have hclass : before.resourceClass = k := old.inventories.key_of_get? hbefore
    have hused := hold k before hbefore
    have honce := h before (old.inventories.mem_of_get? hbefore)
    rw [hclass] at honce
    simp only [InventoryRow.withUsed_used]
    unfold requestedAmounts at honce ⊢
    omega

theorem sum_orphans (rows : List (AllocationRow Int)) (providerId k : String) :
    ((((rows.filter (fun row => row.providerId = providerId)).flatMap
        (fun row => row.resources.rows)).filter
          (fun resource => resource.resourceClass = k)).map ResourceRow.amount).sum
      =
    (rows.map (fun row =>
      if row.providerId = providerId then row.amountOf k else 0)).sum := by
  induction rows with
  | nil => rfl
  | cons row rest ih =>
    by_cases hprovider : row.providerId = providerId
    · have hamount :
          (((row.resources.rows.filter
              (fun resource => resource.resourceClass = k)).map ResourceRow.amount).sum)
            =
          row.amountOf k := by
        rw [row.resources.filter_key_eq_toList row.resources.keys_nodup (fun _ => Iff.rfl)]
        unfold AllocationRow.amountOf
        cases row.resources.get? k <;> simp
      simp [hprovider, ← ih, ← hamount]
    · simp [hprovider, ih]

/-- For a call that writes a provider row the condition is about its report. -/
theorem keepsUsage_iff_reportsAllocated {c : RepositoryCall R} {providerId : String}
    (htarget : c.provider? = some providerId) (haccepted : Accepted t c) :
    KeepsUsage t (.call c) ↔ ReportsAllocated t providerId c.reported := by
  cases c with
  | registerProvider | syncProvider =>
    cases htarget
    rfl
  | registerProviderMetadata nodeId inventories metadata =>
    cases htarget
    exact ⟨fun h => h haccepted.1 haccepted.2, fun h _ _ => h⟩
  | refreshInventories providerId' generation inventories =>
    cases htarget
    obtain ⟨row, hget, hgeneration⟩ := haccepted
    have hcurrent :
        (t.providers.get? providerId).map ProviderRow.generation = some (asI64 generation) := by
      simp [hget, hgeneration]
    exact ⟨fun h => h hcurrent, fun h _ => h⟩
  | updateProviderMetadata | setProviderState =>
    constructor
    · exact fun _ inventory hmem => by cases hmem
    · exact fun _ => trivial
  | getProvider | listProviders | commitAllocation | releaseAllocation | upsertIntent
  | getIntent | deleteIntent | reconcileConsumers => exact haccepted.elim

theorem Effect.usageExact {t' : Tables R} {c : RepositoryCall R}
    (h : t.UsageExact) (heffect : Effect t c t') (hkeeps : KeepsUsage t (.call c)) :
    t'.UsageExact := by
  cases heffect with
  | unchanged | intentStored | intentDeleted => exact h
  | provider row htarget haccepted hnode hnewer hinventories hstate =>
    refine h.putProvider ((usedExact_upserted_iff h hinventories).mpr ?_)
    exact (keepsUsage_iff_reportsAllocated htarget haccepted).mp hkeeps
  | @committed providerId generation allocation old habsent hold hgeneration =>
    have hid : old.id = providerId := t.providers.key_of_get? hold
    refine h.putProvider_putAllocation habsent (by simpa using hid.symm) ?_
    refine (usedExact_committed_iff hold (h old (t.providers.mem_of_get? hold)) habsent).mpr ?_
    exact hkeeps habsent (by simp [hold, hgeneration])
  | @released allocationId old existing hold hexisting =>
    have hid : old.id = existing.providerId := t.providers.key_of_get? hold
    obtain ⟨hmem, rfl⟩ := t.allocations.get?_eq_some_iff.mp hexisting
    refine h.putProvider_deleteAllocation hmem (by simpa using hid.symm) ?_
    exact usedExact_released (fun _ _ a b hsum => hsum ▸ add_sub_cancel_right a b) (h old (t.providers.mem_of_get? hold)) hmem hid.symm
  | @reconciled durableConsumerIds t' hallocations hresources hproviders =>
    intro row' hrow'
    have hget := hproviders row'.id
    rw [t'.providers.get?_key_of_mem hrow'] at hget
    obtain ⟨row, hrow, heq⟩ := Option.map_eq_some_iff.mp hget.symm
    have hid : row.id = row'.id := t.providers.key_of_get? hrow
    have hexact := h row (t.providers.mem_of_get? hrow)
    rw [usedExact_iff_get?] at hexact ⊢
    intro k inventory hinventory
    rw [← heq, ProviderRow.get?_applyUsed] at hinventory
    obtain ⟨before, hbefore, rfl⟩ := Option.map_eq_some_iff.mp hinventory
    have hused := hexact k before hbefore
    have hsum :=
      t.allocations.sumBy_deleteWhere_add
        (fun allocation =>
          if allocation.providerId = row.id then allocation.amountOf k else 0)
        (fun allocation => allocation.consumerId ∉ durableConsumerIds)
    have hreleased := sum_orphans (orphaned t durableConsumerIds) row'.id k
    rw [InventoryRow.withUsed_used, foldl_sub_amounts, orphanedResources, hreleased, ← hid]
    unfold allocated at hused ⊢
    rw [hallocations]
    unfold orphaned
    omega

theorem usageExact_act
    (hnodes : NodesNamed t) (h : t.UsageExact) {a : StoreAction R} (hkeeps : KeepsUsage t a) :
    (act a t).UsageExact := by
  cases a with
  | call c => exact (effect_step hnodes c).usageExact h hkeeps
  | writeResources rows => exact h

/-- **Exact usage**: over every run whose calls all meet the condition, each
`used` column is the sum of the allocated amounts in every state. -/
theorem usage_exact_of_keepsUsage (actions : List (StoreAction R))
    (hkeeps : EachStep (fun t a => act a t) KeepsUsage PlacementTables.empty actions) :
    Always (fun t a => act a t) UsageExact PlacementTables.empty actions := by
  have hboth :
      Always (fun t a => act a t)
        (fun t : Tables R => NodesNamed t ∧ t.UsageExact)
        PlacementTables.empty actions := by
    refine always_of_guarded ?_ _ actions ?_ hkeeps
    · rintro t a ⟨hnodes, h⟩ hkeeps
      exact ⟨nodesNamed_act hnodes a, usageExact_act hnodes h hkeeps⟩
    · constructor
      · exact fun row hrow => by cases hrow
      · exact fun row hrow => by cases hrow
  exact hboth.imp (fun _ h => h.2)

def firstReport : List (StoreAction Unit) :=
  [.call (.registerProvider "node" [⟨"VCPU", 8, 0, (), 5⟩])]

theorem usage_taken_from_first_report :
    ¬ Always (fun t a => act a t) UsageExact PlacementTables.empty firstReport := by
  decide

/-- A provider reports no usage, takes an allocation, and reports again. -/
def laterReport : List (StoreAction Unit) :=
  [.call (.registerProvider "node" [⟨"VCPU", 8, 0, (), 0⟩]),
    .call (.commitAllocation "node" 1 ⟨"allocation", "node", "server", [⟨"VCPU", 3⟩]⟩),
    .call (.syncProvider "node" "Enabled" [⟨"VCPU", 8, 0, (), 5⟩])]

theorem usage_exact_over_later_report :
    EachStep (fun t a => act a t) KeepsUsage PlacementTables.empty laterReport ∧
      Always (fun t a => act a t) UsageExact PlacementTables.empty laterReport := by
  have hkeeps :
      EachStep (fun t a => act a t) KeepsUsage PlacementTables.empty laterReport := by
    decide
  exact ⟨hkeeps, usage_exact_of_keepsUsage laterReport hkeeps⟩

end Postgres
end Placement
end O3k
