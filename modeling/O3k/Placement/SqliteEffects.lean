import O3k.Placement.Sqlite

/-!
# What a call does to the SQLite placement tables

`Effect` says once everything that any call can leave behind.  `effect_step` is
the inversion lemma; every invariant of the tables is a case analysis on
`Effect`.
-/

namespace O3k
namespace Placement

open Relational Relational.Transaction
open PlacementTables (allocated allocated_congr modifyProvider_of_none modifyProvider_of_some providerState putProvider putProvider_putProvider putProvider_self thenProvider_snd)

variable {R : Type}

namespace Sqlite

def resourceRows (resources : List PlacementResourceRecord) : List (ResourceRow Nat) :=
  resources.map (fun resource => ⟨resource.resourceClass, resource.amount⟩)

/-- The state that a call which writes the provider row alone leaves in it,
given the state stored before. -/
def writtenState (c : RepositoryCall R) (stored : Option String) : String :=
  match c with
  | .registerProvider _ _ => stored.getD "Enabled"
  | .registerProviderMetadata _ _ _ => stored.getD "Enabled"
  | .syncProvider _ state _ => syncedState (stored.getD state) state
  | .setProviderState _ state => state
  | _ => stored.getD ""

/-- The `used` columns fit, and are what the allocations add up to. -/
structure Tallied (t : Tables R) (row : ProviderRow Nat R) : Prop where
  sums : t.UsedExact row
  fits : ∀ inventory ∈ row.inventories.rows, inventory.used ≤ i64Max

inductive Effect (t : Tables R) : RepositoryCall R → Tables R → Prop
  | unchanged (c : RepositoryCall R) :
      Effect t c t
  | provider {c : RepositoryCall R} (row : ProviderRow Nat R) (htarget : c.provider? = some row.id)
      (hnewer : ∀ old, t.providers.get? row.id = some old → old.generation < row.generation)
      (hinventories :
        Tallied t row ∨
          ∃ old, t.providers.get? row.id = some old ∧ row.inventories = old.inventories)
      (hstate : row.state = writtenState c (t.providerState row.id))
      (hstored : c.registered? = some row.id ∨ ∃ old, t.providers.get? row.id = some old) :
      Effect t c (t.putProvider row)
  | committed {providerId : String} {allocation : PlacementAllocationRecord}
      (old : ProviderRow Nat R) (resources : Resources Nat)
      (habsent : t.allocations.get? allocation.id = none)
      (hold : t.providers.get? providerId = some old)
      (hresources : insertResources allocation.resources ∅ = .ok resources) :
      Effect t (.commitAllocation providerId old.generation allocation)
        ((t.putProvider (old.bump.applyUsed plusUsed (resourceRows allocation.resources))).putAllocation
          ⟨allocation.id, allocation.providerId, allocation.consumerId, resources⟩)
  | released {allocationId : String} (old : ProviderRow Nat R) (existing : AllocationRow Nat)
      (hold : t.providers.get? existing.providerId = some old)
      (hexisting : t.allocations.get? allocationId = some existing) :
      Effect t (.releaseAllocation existing.providerId allocationId)
        ((t.deleteAllocation allocationId).putProvider
          (old.applyUsed minusUsed existing.resources.rows).bump)
  | intentStored (row : AllocationRow Nat)
      (hplaced :
        (∃ provider, t.providers.get? row.providerId = some provider) ∨
          ∃ stored, t.intents.get? row.id = some stored ∧ stored.providerId = row.providerId) :
      Effect t (.upsertIntent (row.record id)) (t.putIntent row)
  | intentDeleted (allocationId : String) :
      Effect t (.deleteIntent allocationId) (t.deleteIntent allocationId)
  | reconciled {durableConsumerIds : List String} (t' : Tables R)
      (hallocations :
        t'.allocations =
          t.allocations.deleteWhere
            (fun row => row.consumerId ∉ liveConsumerIds t durableConsumerIds))
      (hintents :
        t'.intents =
          t.intents.deleteWhere
            (fun row => row.consumerId ∉ liveConsumerIds t durableConsumerIds))
      (hresources : t'.resources = t.resources)
      (hproviders :
        ∀ k, t'.providers.get? k =
          (t.providers.get? k).map (fun row =>
            if ∃ released ∈ orphaned t durableConsumerIds, released.providerId = k then
              (row.recomputeUsed (t'.allocated row.id)).bump
            else
              row)) :
      Effect t (.reconcileConsumers durableConsumerIds) t'

theorem placementI64_ok {value stored : Nat} (h : placementI64 value = .ok stored) :
    stored = value ∧ value ≤ i64Max := by
  unfold placementI64 at h
  split_ifs at h with hfits
  cases h
  exact ⟨rfl, hfits⟩

theorem inventoryRow_ok {inventory : PlacementInventoryRecord R} {used : Nat}
    {row : InventoryRow Nat R} (h : inventoryRow inventory used = .ok row) :
    row.resourceClass = inventory.resourceClass ∧ row.used = used ∧ row.used ≤ i64Max := by
  simp only [inventoryRow, except_bind_eq_ok] at h
  obtain ⟨total, _, reserved, _, stored, hstored, hrow⟩ := h
  cases hrow
  obtain ⟨rfl, hfits⟩ := placementI64_ok hstored
  exact ⟨rfl, rfl, hfits⟩

/-- Whatever ties `used` to the resource class in the list ties it in the rows. -/
theorem insertInventories_used {f : String → Nat} {pairs : List (PlacementInventoryRecord R × Nat)}
    {rows rows' : Inventories Nat R} (h : insertInventories pairs rows = .ok rows')
    (hpairs : ∀ pair ∈ pairs, pair.2 = f pair.1.resourceClass)
    (hrows : ∀ row ∈ rows.rows, row.used = f row.resourceClass ∧ row.used ≤ i64Max) :
    ∀ row ∈ rows'.rows, row.used = f row.resourceClass ∧ row.used ≤ i64Max := by
  induction pairs generalizing rows with
  | nil =>
    cases h
    exact hrows
  | cons pair rest ih =>
    obtain ⟨inventory, used⟩ := pair
    simp only [insertInventories, except_bind_eq_ok] at h
    obtain ⟨row, hrow, h⟩ := h
    obtain ⟨hclass, hused, hfits⟩ := inventoryRow_ok hrow
    cases hinsert : rows.insert? row with
    | none =>
      rw [hinsert] at h
      cases h
    | some next =>
      rw [hinsert] at h
      obtain ⟨_, rfl⟩ := (rows.insert?_eq_some_iff next).mp hinsert
      refine ih h (fun pair hpair => hpairs pair (List.mem_cons_of_mem _ hpair)) ?_
      intro x hx
      rcases rows.mem_put.mp hx with rfl | ⟨hmem, _⟩
      · refine ⟨?_, hfits⟩
        rw [hused, hclass]
        exact hpairs _ List.mem_cons_self
      · exact hrows x hmem

theorem snd_of_mem_zip_map {α β : Type} {f : α → β} {xs : List α} {pair : α × β}
    (h : pair ∈ xs.zip (xs.map f)) :
    pair.2 = f pair.1 := by
  induction xs with
  | nil => cases h
  | cons x xs ih =>
    rcases List.mem_cons.mp h with rfl | h
    · rfl
    · exact ih h

variable {t t' : Tables R} {inventories : List (PlacementInventoryRecord R)} {nodeId : String}

theorem writeInventories_ok (h : writeInventories nodeId inventories t = .ok ((), t')) :
    (t.providers.get? nodeId = none ∧ t' = t) ∨
      ∃ row rows,
        t.providers.get? nodeId = some row ∧ Tallied t (row.withInventories rows) ∧
          t' = t.putProvider (row.withInventories rows) := by
  simp only [writeInventories, recomputePlacementUsed, bind_assoc, get_bind_apply,
    pure_bind, replacePlacementInventories] at h
  cases hget : t.providers.get? nodeId with
  | none =>
    rw [hget] at h
    left
    refine ⟨rfl, ?_⟩
    cases hpairs : inventories.zip
        (inventories.map (fun inventory => t.allocated nodeId inventory.resourceClass)) with
    | nil =>
      rw [hpairs] at h
      cases h
      rfl
    | cons pair rest =>
      rw [hpairs] at h
      obtain ⟨_, _, _, hthrow⟩ := bind_eq_ok.mp h
      cases hthrow
  | some row =>
    rw [hget] at h
    obtain ⟨rows, t₁, hrows, hset⟩ := bind_eq_ok.mp h
    obtain ⟨_, hinsert, hsame⟩ := fromExcept_eq_ok.mp hrows
    cases hsame
    cases hset
    have hid : row.id = nodeId := t.providers.key_of_get? hget
    have hused := insertInventories_used (f := t.allocated row.id) hinsert
      (fun pair hpair => hid ▸ snd_of_mem_zip_map hpair) (by simp)
    exact Or.inr ⟨row, rows, rfl,
      ⟨fun inventory hmem => (hused inventory hmem).1,
        fun inventory hmem => (hused inventory hmem).2⟩, rfl⟩

/-- The row that a registration or report starts from. -/
def providerOr (t : Tables R) (nodeId state : String) : ProviderRow Nat R :=
  (t.providers.get? nodeId).getD (.fresh nodeId state 0)

theorem providerOr_id (t : Tables R) (nodeId state : String) :
    (providerOr t nodeId state).id = nodeId := by
  unfold providerOr
  cases hget : t.providers.get? nodeId with
  | none => rfl
  | some row => exact t.providers.key_of_get? hget

theorem providerOr_state (t : Tables R) (nodeId state : String) :
    (providerOr t nodeId state).state = (t.providerState nodeId).getD state := by
  unfold providerOr providerState
  cases t.providers.get? nodeId with
  | none => rfl
  | some row => rfl

variable {row : ProviderRow Nat R}

theorem providerOr_of_some {t : Tables R}
    (hget : t.providers.get? nodeId = some row) (state : String) :
    providerOr t nodeId state = row := by
  simp [providerOr, hget]

variable {state : String}

/-- Either the row is there afterwards, and writing it over the new tables is
writing it over the old ones, or the node id belongs to another provider and
nothing happened. -/
theorem insertOrIgnoreProvider_ok {nodeId : String}
    (h : insertOrIgnoreProvider nodeId state t = .ok ((), t')) :
    (t.providers.get? nodeId = none ∧ t' = t) ∨
      (t'.providers.get? nodeId = some (providerOr t nodeId state) ∧
        t'.allocations = t.allocations ∧
        ∀ row : ProviderRow Nat R, row.id = nodeId → t'.putProvider row = t.putProvider row) := by
  simp only [insertOrIgnoreProvider, get_bind_apply] at h
  split at h
  · cases h
    cases hget : t.providers.get? nodeId with
    | none => exact Or.inl ⟨rfl, rfl⟩
    | some row => exact Or.inr ⟨by rw [providerOr_of_some hget], rfl, fun _ _ => rfl⟩
  · rename_i habsent
    cases h
    have hget : t.providers.get? nodeId = none := by
      refine t.providers.get?_eq_none_iff.mpr ?_
      intro row hrow hid
      refine habsent (List.any_eq_true.mpr ⟨row, hrow, ?_⟩)
      simp [hid]
    right
    refine ⟨?_, rfl, ?_⟩
    · simp [providerOr, hget, Table.get?_put]
    · intro row hid
      simp [putProvider, Table.put_put, hid]

theorem writeInventories_bump_ok (h :
      (do
        writeInventories nodeId inventories
        bumpGeneration nodeId : Body R Unit) t = .ok ((), t')) :
    (t.providers.get? nodeId = none ∧ t' = t) ∨
      ∃ row rows,
        t.providers.get? nodeId = some row ∧ Tallied t (row.withInventories rows) ∧
          t' = t.putProvider (row.withInventories rows).bump := by
  obtain ⟨_, t₁, hwrite, hbump⟩ := bind_eq_ok.mp h
  have ht' : t' = t₁.modifyProvider nodeId ProviderRow.bump := by
    cases hbump
    rfl
  rcases writeInventories_ok hwrite with ⟨hget, rfl⟩ | ⟨row, rows, hget, hused, rfl⟩
  · exact Or.inl ⟨hget, ht'.trans (modifyProvider_of_none hget _)⟩
  · refine Or.inr ⟨row, rows, hget, hused, ?_⟩
    have hid : row.id = nodeId := t.providers.key_of_get? hget
    have hnext :
        (t.putProvider (row.withInventories rows)).providers.get? nodeId
          =
        some (row.withInventories rows) :=
      t.get?_putProvider hid
    rw [ht', modifyProvider_of_some hnext]
    exact putProvider_putProvider t rfl

/-- What registering, reporting or describing a provider writes. -/
structure Published (t : Tables R) (nodeId state : String) (row : ProviderRow Nat R) : Prop where
  id : row.id = nodeId
  newer : (providerOr t nodeId state).generation < row.generation
  used : Tallied t row

theorem Published.effect {t : Tables R} {nodeId : String}
    (h : Published t nodeId state row) {c : RepositoryCall R} (htarget : c.provider? = some nodeId)
    (hregistered : c.registered? = some nodeId)
    (hstate : row.state = writtenState c (t.providerState nodeId)) :
    Effect t c (t.putProvider row) := by
  have hid := h.id
  subst hid
  refine Effect.provider row htarget ?_ (Or.inl h.used) hstate (Or.inl hregistered)
  intro old hold
  have hnewer := h.newer
  rwa [providerOr_of_some hold] at hnewer

theorem published_of_writeInventories {nodeId : String} {t t₁ t' : Tables R}
    {row₁ : ProviderRow Nat R} (hget : t₁.providers.get? nodeId = some row₁)
    (hallocations : t₁.allocations = t.allocations)
    (hput : ∀ row : ProviderRow Nat R, row.id = nodeId → t₁.putProvider row = t.putProvider row)
    (hgeneration : row₁.generation = (providerOr t nodeId state).generation)
    (h :
      (do
        writeInventories nodeId inventories
        bumpGeneration nodeId : Body R Unit) t₁ = .ok ((), t')) :
    ∃ row, Published t nodeId state row ∧ row.state = row₁.state ∧ t' = t.putProvider row := by
  rcases writeInventories_bump_ok h with ⟨hnone, _⟩ | ⟨row, rows, hrow, hused, rfl⟩
  · rw [hget] at hnone
    cases hnone
  · rw [hget] at hrow
    cases hrow
    have hid : row₁.id = nodeId := t₁.providers.key_of_get? hget
    refine ⟨(row₁.withInventories rows).bump, ⟨hid, ?_, ?_⟩, rfl, hput _ hid⟩
    · simp [hgeneration]
    · exact ⟨hused.sums.of_allocations_eq hallocations.symm, hused.fits⟩

theorem registerProviderBody_ok (h : registerProviderBody nodeId inventories t = .ok ((), t')) :
    (t.providers.get? nodeId = none ∧ t' = t) ∨
      ∃ row,
        Published t nodeId "Enabled" row ∧ row.state = (t.providerState nodeId).getD "Enabled" ∧
          t' = t.putProvider row := by
  obtain ⟨_, t₁, hinsert, hrest⟩ := bind_eq_ok.mp h
  rcases insertOrIgnoreProvider_ok hinsert with ⟨hget, rfl⟩ | ⟨hget, hallocations, hput⟩
  · rcases writeInventories_bump_ok hrest with ⟨_, rfl⟩ | ⟨_, _, hrow, _⟩
    · exact Or.inl ⟨hget, rfl⟩
    · rw [hget] at hrow
      cases hrow
  · obtain ⟨row, hpublished, hstate, rfl⟩ :=
      published_of_writeInventories hget hallocations hput rfl hrest
    exact Or.inr ⟨row, hpublished, hstate.trans (providerOr_state t nodeId _), rfl⟩

theorem syncProviderBody_ok {nodeId : String}
    (h : syncProviderBody nodeId state inventories t = .ok ((), t')) :
    (t.providers.get? nodeId = none ∧ t' = t) ∨
      ∃ row,
        Published t nodeId state row ∧
          row.state = syncedState ((t.providerState nodeId).getD state) state ∧
          t' = t.putProvider row := by
  obtain ⟨_, t₁, hinsert, hrest⟩ := bind_eq_ok.mp h
  rw [modify_bind_apply] at hrest
  rcases insertOrIgnoreProvider_ok hinsert with ⟨hget, rfl⟩ | ⟨hget, hallocations, hput⟩
  · rw [modifyProvider_of_none hget] at hrest
    rcases writeInventories_bump_ok hrest with ⟨_, rfl⟩ | ⟨_, _, hrow, _⟩
    · exact Or.inl ⟨hget, rfl⟩
    · rw [hget] at hrow
      cases hrow
  · rw [modifyProvider_of_some hget] at hrest
    have hid := providerOr_id t nodeId state
    generalize hrow₁ :
      (providerOr t nodeId state).withState
        (syncedState (providerOr t nodeId state).state state) = row₁ at hrest
    have hid₁ : row₁.id = nodeId := by
      simp [← hrow₁, hid]
    have hget₁ : (t₁.putProvider row₁).providers.get? nodeId = some row₁ := by
      simp [Table.get?_put, hid₁]
    have hput₁ :
        ∀ row : ProviderRow Nat R, row.id = nodeId →
          (t₁.putProvider row₁).putProvider row = t.putProvider row := by
      intro row hrow
      rw [putProvider_putProvider t₁ (hid₁.trans hrow.symm), hput row hrow]
    have hgeneration : row₁.generation = (providerOr t nodeId state).generation := by
      simp [← hrow₁]
    obtain ⟨row, hpublished, hstate, rfl⟩ :=
      published_of_writeInventories hget₁ hallocations hput₁ hgeneration hrest
    refine Or.inr ⟨row, hpublished, ?_, rfl⟩
    rw [hstate, ← hrow₁, ProviderRow.withState_state, providerOr_state]

variable {providerId : String} {generation : Nat} {metadata : ProviderMetadata}

theorem writeMetadata_ok (h : writeMetadata providerId generation metadata t = .ok ((), t')) :
    ∃ row,
      t.providers.get? providerId = some row ∧
        t' = t.putProvider (row.withMetadata metadata).bump := by
  obtain ⟨_, h⟩ := require_bind_eq_ok.mp h
  rw [get_bind_apply] at h
  cases hfilter :
      (t.providers.get? providerId).filter (fun row => row.generation = generation) with
  | none =>
    rw [hfilter] at h
    cases h
  | some row =>
    rw [hfilter] at h
    cases h
    exact ⟨row, (Option.filter_eq_some_iff.mp hfilter).1, rfl⟩

theorem registerProviderMetadataBody_ok
    (h : registerProviderMetadataBody nodeId inventories metadata t = .ok ((), t')) :
    ∃ row,
      Published t nodeId "Enabled" row ∧ row.state = (t.providerState nodeId).getD "Enabled" ∧
        t' = t.putProvider row := by
  obtain ⟨_, t₁, hinsert, h⟩ := bind_eq_ok.mp h
  obtain ⟨_, t₂, hwrite, h⟩ := bind_eq_ok.mp h
  obtain ⟨_, t₃, hbump, h⟩ := bind_eq_ok.mp h
  rw [get_bind_apply] at h
  obtain ⟨_, _, hfetch, h⟩ := bind_eq_ok.mp h
  obtain ⟨row, hget, hsame⟩ := orFail_eq_ok.mp hfetch
  cases hsame
  obtain ⟨_, _, h⟩ := fromExcept_bind_eq_ok.mp h
  obtain ⟨row', hget', rfl⟩ := writeMetadata_ok h
  -- the first three statements are those of a plain registration
  have hregistered : registerProviderBody nodeId inventories t = .ok ((), t₃) :=
    bind_eq_ok.mpr ⟨_, t₁, hinsert, bind_eq_ok.mpr ⟨_, t₂, hwrite, hbump⟩⟩
  rcases registerProviderBody_ok hregistered with ⟨hnone, rfl⟩ | ⟨row₀, hpublished, hstate, rfl⟩
  · rw [hnone] at hget'
    cases hget'
  · have hid := hpublished.id
    have hrow : row' = row₀ := by
      simpa [Table.get?_put, hid, eq_comm] using hget'
    subst hrow
    refine ⟨(row'.withMetadata metadata).bump, ⟨hid, ?_, ⟨hpublished.used.sums, hpublished.used.fits⟩⟩,
      hstate, ?_⟩
    · exact hpublished.newer.trans (Nat.lt_succ_self _)
    · exact putProvider_putProvider t rfl

theorem fenceGeneration_ok (h : fenceGeneration providerId generation t = .ok ((), t')) :
    ∃ row,
      t.providers.get? providerId = some row ∧ row.generation = generation ∧
        t' = t.putProvider row.bump := by
  obtain ⟨expected, hexpected, h⟩ := fromExcept_bind_eq_ok.mp h
  have hgeneration : expected = generation := (placementI64_ok hexpected).1
  rw [get_bind_apply] at h
  cases hfilter :
      (t.providers.get? providerId).filter (fun row => row.generation = expected) with
  | none =>
    rw [hfilter] at h
    cases h
  | some row =>
    rw [hfilter] at h
    cases h
    obtain ⟨hget, hrow⟩ := Option.filter_eq_some_iff.mp hfilter
    exact ⟨row, hget, (of_decide_eq_true hrow).trans hgeneration, rfl⟩

theorem updateProviderMetadataBody_ok
    (h : updateProviderMetadataBody providerId generation metadata t = .ok ((), t')) :
    ∃ row,
      t.providers.get? providerId = some row ∧
        t' = t.putProvider (row.withMetadata metadata).bump := by
  simp only [updateProviderMetadataBody, get_bind_apply] at h
  obtain ⟨_, _, h⟩ := orFail_bind_eq_ok.mp h
  obtain ⟨_, h⟩ := require_bind_eq_ok.mp h
  obtain ⟨_, _, h⟩ := fromExcept_bind_eq_ok.mp h
  exact writeMetadata_ok h

theorem refreshInventoriesBody_ok
    (h : refreshInventoriesBody providerId generation inventories t = .ok ((), t')) :
    ∃ row rows,
      t.providers.get? providerId = some row ∧ row.generation = generation ∧
        Tallied t (row.bump.withInventories rows) ∧
        t' = t.putProvider (row.bump.withInventories rows) := by
  simp only [refreshInventoriesBody, get_bind_apply] at h
  obtain ⟨_, _, h⟩ := orFail_bind_eq_ok.mp h
  obtain ⟨_, t₁, hfence, hwrite⟩ := bind_eq_ok.mp h
  obtain ⟨row, hget, hgeneration, rfl⟩ := fenceGeneration_ok hfence
  have hid : row.id = providerId := t.providers.key_of_get? hget
  have hnext : (t.putProvider row.bump).providers.get? providerId = some row.bump :=
    t.get?_putProvider hid
  rcases writeInventories_ok hwrite with ⟨hnone, _⟩ | ⟨row', rows, hrow', hused, rfl⟩
  · rw [hnext] at hnone
    cases hnone
  · rw [hnext] at hrow'
    cases hrow'
    refine ⟨row, rows, hget, hgeneration, ⟨hused.sums, hused.fits⟩, ?_⟩
    exact putProvider_putProvider t rfl

theorem setProviderStateBody_ok {providerId : String}
    (h : setProviderStateBody providerId state t = .ok ((), t')) :
    ∃ row,
      t.providers.get? providerId = some row ∧ t' = t.putProvider (row.withState state).bump := by
  simp only [setProviderStateBody, get_bind_apply] at h
  obtain ⟨row, hget, h⟩ := orFail_bind_eq_ok.mp h
  cases h
  exact ⟨row, hget, rfl⟩

variable {records : List PlacementResourceRecord}

/-- The stored resources are the requested ones, each class once. -/
theorem insertResources_ok {rows rows' : Resources Nat}
    (h : insertResources records rows = .ok rows') :
    (records.map PlacementResourceRecord.resourceClass).Nodup ∧
      (∀ resource ∈ records, rows.get? resource.resourceClass = none) ∧
      ∀ row, row ∈ rows'.rows ↔
        row ∈ rows.rows ∨
          ∃ resource ∈ records, row = ⟨resource.resourceClass, resource.amount⟩ := by
  induction records generalizing rows with
  | nil =>
    cases h
    simp
  | cons resource rest ih =>
    simp only [insertResources, except_bind_eq_ok] at h
    obtain ⟨amount, hamount, hinsert⟩ := h
    have hamount : amount = resource.amount := (placementI64_ok hamount).1
    subst hamount
    cases hnext : rows.insert? ⟨resource.resourceClass, resource.amount⟩ with
    | none =>
      rw [hnext] at hinsert
      cases hinsert
    | some next =>
      rw [hnext] at hinsert
      obtain ⟨habsent, rfl⟩ := (rows.insert?_eq_some_iff next).mp hnext
      obtain ⟨hnodup, hfresh, hmem⟩ := ih hinsert
      have hkept :
          ∀ r ∈ rest,
            resource.resourceClass ≠ r.resourceClass ∧
              rows.get? r.resourceClass = none := by
        intro r hr
        have hget := hfresh r hr
        rw [Table.get?_put] at hget
        split_ifs at hget with hclass
        exact ⟨hclass, hget⟩
      refine ⟨List.nodup_cons.mpr ⟨?_, hnodup⟩, ?_, ?_⟩
      · intro hclass
        obtain ⟨r, hr, heq⟩ := List.mem_map.mp hclass
        exact (hkept r hr).1 heq.symm
      · intro r hr
        rcases List.mem_cons.mp hr with rfl | hr
        · exact habsent
        · exact (hkept r hr).2
      · intro row
        have hold : row ∈ rows.rows → row.resourceClass ≠ resource.resourceClass :=
          fun hrow => rows.get?_eq_none_iff.mp habsent row hrow
        rw [hmem, rows.mem_put]
        simp only [List.mem_cons, exists_eq_or_imp]
        constructor
        · rintro ((hrow | ⟨hrow, _⟩) | hrow)
          · exact Or.inr (Or.inl hrow)
          · exact Or.inl hrow
          · exact Or.inr (Or.inr hrow)
        · rintro (hrow | hrow | hrow)
          · exact Or.inl (Or.inr ⟨hrow, hold hrow⟩)
          · exact Or.inl (Or.inl hrow)
          · exact Or.inr hrow

theorem forEach_addUsed_ok {resources : List PlacementResourceRecord}
    (hget : t.providers.get? providerId = some row)
    (h : forEach (addUsed providerId) resources t = .ok ((), t')) :
    t' = t.putProvider (row.applyUsed plusUsed (resourceRows resources)) := by
  induction resources generalizing t row with
  | nil =>
    have hsame : t' = t := by
      cases h
      rfl
    exact hsame.trans (putProvider_self hget).symm
  | cons resource rest ih =>
    obtain ⟨_, t₁, hone, hrest⟩ := bind_eq_ok.mp h
    obtain ⟨amount, hamount, hmodify⟩ := fromExcept_bind_eq_ok.mp hone
    have hamount : amount = resource.amount := (placementI64_ok hamount).1
    subst hamount
    cases hmodify
    simp only [modifyProvider_of_some hget] at hrest
    have hid :
        (row.modifyUsed resource.resourceClass
          (fun used => plusUsed used resource.amount)).id = providerId := by
      simpa using t.providers.key_of_get? hget
    rw [ih (t.get?_putProvider hid) hrest]
    exact t.putProvider_putProvider (by simp)

theorem forEach_subtractUsed_ok {resources : List (ResourceRow Nat)}
    (hget : t.providers.get? providerId = some row)
    (h : forEach (subtractUsed providerId) resources t = .ok ((), t')) :
    t' = t.putProvider (row.applyUsed minusUsed resources) := by
  induction resources generalizing t row with
  | nil =>
    have hsame : t' = t := by
      cases h
      rfl
    exact hsame.trans (putProvider_self hget).symm
  | cons resource rest ih =>
    obtain ⟨_, t₁, hone, hrest⟩ := bind_eq_ok.mp h
    cases hone
    simp only [modifyProvider_of_some hget] at hrest
    have hid :
        (row.modifyUsed resource.resourceClass
          (fun used => minusUsed used resource.amount)).id = providerId := by
      simpa using t.providers.key_of_get? hget
    rw [ih (t.get?_putProvider hid) hrest]
    exact t.putProvider_putProvider (by simp)

theorem commitAllocationBody_ok {allocation committed : PlacementAllocationRecord}
    (h : commitAllocationBody providerId generation allocation t = .ok (committed, t')) :
    committed = allocation ∧
      ((∃ existing,
          t.allocations.get? allocation.id = some existing ∧
            existing.record id = allocation ∧ t' = t) ∨
        ∃ old resources,
          t.allocations.get? allocation.id = none ∧ t.providers.get? providerId = some old ∧
            old.generation = generation ∧
            insertResources allocation.resources ∅ = .ok resources ∧
            t' = (t.putProvider (old.bump.applyUsed plusUsed (resourceRows allocation.resources))).putAllocation
              ⟨allocation.id, allocation.providerId, allocation.consumerId, resources⟩) := by
  simp only [commitAllocationBody, get_bind_apply] at h
  cases hexisting : t.allocations.get? allocation.id with
  | some existing =>
    rw [hexisting] at h
    obtain ⟨hsame, h⟩ := require_bind_eq_ok.mp h
    cases h
    exact ⟨hsame, Or.inl ⟨existing, rfl, hsame, rfl⟩⟩
  | none =>
    rw [hexisting] at h
    obtain ⟨_, _, h⟩ := orFail_bind_eq_ok.mp h
    obtain ⟨_, t₁, hfence, h⟩ := bind_eq_ok.mp h
    obtain ⟨old, hget, hgeneration, rfl⟩ := fenceGeneration_ok hfence
    obtain ⟨_, t₂, hused, h⟩ := bind_eq_ok.mp h
    have hid : old.id = providerId := t.providers.key_of_get? hget
    have hnext : (t.putProvider old.bump).providers.get? providerId = some old.bump :=
      t.get?_putProvider hid
    have ht₂ := forEach_addUsed_ok hnext hused
    rw [putProvider_putProvider t (by simp)] at ht₂
    subst ht₂
    obtain ⟨_, t₃, hinsert, h⟩ := bind_eq_ok.mp h
    cases h
    simp only [insertAllocation, get_bind_apply] at hinsert
    obtain ⟨_, _, hinsert⟩ := orFail_bind_eq_ok.mp hinsert
    obtain ⟨resources, hresources, hset⟩ := fromExcept_bind_eq_ok.mp hinsert
    cases hset
    exact ⟨rfl, Or.inr ⟨old, resources, rfl, hget, hgeneration, hresources, rfl⟩⟩

theorem releaseAllocationBody_ok {providerId allocationId : String}
    (h : releaseAllocationBody providerId allocationId t = .ok ((), t')) :
    t' = t ∨
      ∃ old existing,
        t.allocations.get? allocationId = some existing ∧ existing.providerId = providerId ∧
          t.providers.get? providerId = some old ∧
          t' = (t.deleteAllocation allocationId).putProvider
            (old.applyUsed minusUsed existing.resources.rows).bump := by
  simp only [releaseAllocationBody, get_bind_apply] at h
  obtain ⟨old, hget, h⟩ := orFail_bind_eq_ok.mp h
  cases hfilter :
      (t.allocations.get? allocationId).filter (fun row => row.providerId = providerId) with
  | none =>
    rw [hfilter] at h
    cases h
    exact Or.inl rfl
  | some existing =>
    simp only [hfilter, set_bind_apply] at h
    obtain ⟨hexisting, howner⟩ := Option.filter_eq_some_iff.mp hfilter
    obtain ⟨_, t₁, hused, hbump⟩ := bind_eq_ok.mp h
    have hget' : (t.deleteAllocation allocationId).providers.get? providerId = some old := hget
    have ht₁ := forEach_subtractUsed_ok hget' hused
    subst ht₁
    have hid : old.id = providerId := t.providers.key_of_get? hget
    have hnext :
        ((t.deleteAllocation allocationId).putProvider
          (old.applyUsed minusUsed existing.resources.rows)).providers.get? providerId
          =
        some (old.applyUsed minusUsed existing.resources.rows) :=
      PlacementTables.get?_putProvider _ (by simp [hid])
    cases hbump
    refine Or.inr ⟨old, existing, hexisting, of_decide_eq_true howner, hget, ?_⟩
    simp only [modifyProvider_of_some hnext]
    exact putProvider_putProvider _ rfl

theorem insertOrIgnoreResources_ok {rows rows' : Resources Nat}
    (h : insertOrIgnoreResources records rows = .ok rows') :
    ∀ record ∈ records, record.amount ≤ i64Max := by
  induction records generalizing rows with
  | nil => exact fun _ h => by cases h
  | cons record rest ih =>
    obtain ⟨amount, hamount, hrest⟩ := except_bind_eq_ok.mp h
    intro r hr
    rcases List.mem_cons.mp hr with rfl | hr
    · unfold placementI64 at hamount
      split at hamount
      · assumption
      · cases hamount
    · exact ih hrest r hr

/-- The intent is stored as asked, under a provider that is there or under the
one of the intent that was stored before. -/
theorem upsertIntentBody_ok {intent stored : PlacementIntentRecord}
    (h : upsertIntentBody intent t = .ok (stored, t')) :
    ∃ row : AllocationRow Nat,
      row.record id = intent ∧ stored = intent ∧ t' = t.putIntent row ∧
        ((∃ provider, t.providers.get? row.providerId = some provider) ∨
          ∃ stored, t.intents.get? row.id = some stored ∧ stored.providerId = row.providerId) ∧
        ∀ resource ∈ intent.resources, resource.amount ≤ i64Max := by
  unfold upsertIntentBody at h
  obtain ⟨base, t₁, hbase, hrest⟩ := bind_eq_ok.mp h
  have hbased :
      t₁ = t ∧
        ((∃ provider, t.providers.get? base.providerId = some provider) ∨
          ∃ stored,
            t.intents.get? base.id = some stored ∧ stored.providerId = base.providerId) := by
    simp only [insertOrIgnoreIntent, get_bind_apply] at hbase
    cases hexisting : t.intents.get? intent.id with
    | some existing =>
      rw [hexisting] at hbase
      cases hbase
      have hid := t.intents.key_of_get? hexisting
      exact ⟨rfl, Or.inr ⟨base, by rw [hid, hexisting], rfl⟩⟩
    | none =>
      rw [hexisting] at hbase
      obtain ⟨provider, hget, hpure⟩ := orFail_bind_eq_ok.mp hbase
      cases hpure
      exact ⟨rfl, Or.inl ⟨_, hget⟩⟩
  obtain ⟨rfl, hplaced⟩ := hbased
  obtain ⟨resources, hresources, hrest⟩ := fromExcept_bind_eq_ok.mp hrest
  obtain ⟨hrecord, hrest⟩ := require_bind_eq_ok.mp hrest
  cases hrest
  exact ⟨_, hrecord, hrecord, rfl, hplaced, insertOrIgnoreResources_ok hresources⟩

theorem foldl_deleteAllocation (rows : List (AllocationRow Nat)) (t : Tables R) :
    rows.foldl (fun t row => t.deleteAllocation row.id) t =
    { t with
      allocations :=
        t.allocations.deleteWhere
          (fun row => decide (row.id ∈ rows.map AllocationRow.id)) } := by
  rw [← t.allocations.foldl_delete]
  induction rows generalizing t with
  | nil => rfl
  | cons row rest ih => exact ih _

theorem foldl_deleteIntent (rows : List (AllocationRow Nat)) (t : Tables R) :
    rows.foldl (fun t row => t.deleteIntent row.id) t =
    { t with
      intents :=
        t.intents.deleteWhere
          (fun row => decide (row.id ∈ rows.map AllocationRow.id)) } := by
  rw [← t.intents.foldl_delete]
  induction rows generalizing t with
  | nil => rfl
  | cons row rest ih => exact ih _

theorem mem_affectedProviders {rows : List (AllocationRow Nat)} {providerId : String} :
    providerId ∈ affectedProviders rows ↔ ∃ row ∈ rows, row.providerId = providerId := by
  suffices hgeneral :
      ∀ affected : List String,
        providerId ∈ rows.foldl
            (fun affected row =>
              if row.providerId ∈ affected then affected else affected ++ [row.providerId])
            affected ↔ providerId ∈ affected ∨ ∃ row ∈ rows, row.providerId = providerId by
    simpa [affectedProviders] using hgeneral []
  induction rows with
  | nil => simp
  | cons row rest ih =>
    intro affected
    rw [List.foldl_cons, ih]
    split
    · rename_i hmem
      constructor
      · rintro (h | ⟨r, hr, hid⟩)
        · exact Or.inl h
        · exact Or.inr ⟨r, List.mem_cons_of_mem _ hr, hid⟩
      · rintro (h | ⟨r, hr, hid⟩)
        · exact Or.inl h
        · rcases List.mem_cons.mp hr with rfl | hr
          · exact Or.inl (hid ▸ hmem)
          · exact Or.inr ⟨r, hr, hid⟩
    · simp [or_assoc, eq_comm]

theorem affectedProviders_nodup (rows : List (AllocationRow Nat)) :
    (affectedProviders rows).Nodup := by
  suffices hgeneral :
      ∀ affected : List String,
        affected.Nodup →
        (rows.foldl
          (fun affected row =>
            if row.providerId ∈ affected then affected else affected ++ [row.providerId])
          affected).Nodup from
    hgeneral [] List.nodup_nil
  induction rows with
  | nil => exact fun _ h => h
  | cons row rest ih =>
    intro affected haffected
    rw [List.foldl_cons]
    apply ih
    split
    · exact haffected
    · rename_i habsent
      refine List.nodup_append.mpr ⟨haffected, List.nodup_singleton _, ?_⟩
      rintro a ha b hb rfl
      rw [List.mem_singleton] at hb
      exact habsent (hb ▸ ha)

theorem foldl_resumProvider {providerIds : List String}
    (hnodup : providerIds.Nodup) (t : Tables R) :
    let t' := providerIds.foldl
      (fun t providerId =>
        t.modifyProvider providerId
          (fun row => (row.recomputeUsed (t.allocated row.id)).bump))
      t
    t'.allocations = t.allocations ∧
      t'.intents = t.intents ∧
      t'.resources = t.resources ∧
      ∀ k, t'.providers.get? k =
        (t.providers.get? k).map (fun row =>
          if k ∈ providerIds then
            (row.recomputeUsed (t.allocated row.id)).bump
          else
            row) := by
  induction providerIds generalizing t with
  | nil => simp
  | cons providerId rest ih =>
    obtain ⟨habsent, hrest⟩ := List.nodup_cons.mp hnodup
    rw [List.foldl_cons]
    cases hget : t.providers.get? providerId with
    | none =>
      simp only [modifyProvider_of_none hget]
      obtain ⟨hallocations, hintents, hresources, hproviders⟩ := ih hrest t
      refine ⟨hallocations, hintents, hresources, ?_⟩
      intro k
      rw [hproviders k]
      by_cases hk : k = providerId
      · simp [hk, hget]
      · simp [hk]
    | some row =>
      simp only [modifyProvider_of_some hget]
      obtain ⟨hallocations, hintents, hresources, hproviders⟩ :=
        ih hrest (t.putProvider (row.recomputeUsed (t.allocated row.id)).bump)
      refine ⟨hallocations, hintents, hresources, ?_⟩
      intro k
      have hid : row.id = providerId := t.providers.key_of_get? hget
      rw [hproviders k]
      by_cases hk : k = providerId
      · subst hk
        simp [Table.get?_put, hid, habsent, hget]
      · have hput :
            (t.putProvider (row.recomputeUsed (t.allocated row.id)).bump).providers.get? k
              =
            t.providers.get? k :=
          t.providers.get?_put_of_ne (by simpa [hid] using Ne.symm hk)
        have hallocated :
            (t.putProvider (row.recomputeUsed (t.allocated row.id)).bump).allocated
              =
            t.allocated := by
          funext providerId resourceClass
          exact allocated_congr rfl providerId resourceClass
        rw [hput, hallocated]
        simp [hk]

theorem reconcileConsumersBody_ok {durableConsumerIds : List String}
    {report : PlacementReconcileRecord}
    (h : reconcileConsumersBody durableConsumerIds t = .ok (report, t')) :
    report.orphanedAllocations = (orphaned t durableConsumerIds).map (AllocationRow.record id) ∧
      Effect t (.reconcileConsumers durableConsumerIds) t' := by
  have hloop :=
    foldl_resumProvider (affectedProviders_nodup (orphaned t durableConsumerIds))
      { t with
        allocations :=
          t.allocations.deleteWhere
            (fun row => row.consumerId ∉ liveConsumerIds t durableConsumerIds) }
  have horphaned :
      (orphaned t durableConsumerIds).foldl (fun t row => t.deleteAllocation row.id) t
      =
    { t with
        allocations :=
          t.allocations.deleteWhere
            (fun row => row.consumerId ∉ liveConsumerIds t durableConsumerIds) } := by
    rw [foldl_deleteAllocation, orphaned, t.allocations.deleteWhere_mem_keys]
  simp only [reconcileConsumersBody, get_bind_apply] at h
  rw [bind_of_ok (forEach_modify _ _ _), horphaned] at h
  unfold resumProvider at h
  rw [bind_of_ok (forEach_modify _ _ _)] at h
  -- the tables after the second loop
  generalize List.foldl _ _ (affectedProviders (orphaned t durableConsumerIds)) = t₂ at h hloop
  obtain ⟨hallocations, hintents, hresources, hproviders⟩ := hloop
  rw [bind_of_ok (forEach_modify _ _ _), foldl_deleteIntent] at h
  cases h
  refine ⟨rfl, Effect.reconciled _ hallocations ?_ hresources ?_⟩
  · show t₂.intents.deleteWhere _ = _
    rw [hintents]
    exact t.intents.deleteWhere_mem_keys _
  · intro k
    show t₂.providers.get? k = _
    rw [hproviders k]
    simp only [mem_affectedProviders]
    congr 1
    funext row
    have hallocated :
        allocated _ row.id = allocated t₂ row.id :=
      funext (fun resourceClass =>
        allocated_congr hallocations.symm row.id resourceClass)
    rw [hallocated]
    rfl

theorem effect_of_provider {c : RepositoryCall R} {t : Tables R} (old : ProviderRow Nat R)
    (htarget : c.provider? = some row.id) (hold : t.providers.get? row.id = some old)
    (hnewer : old.generation < row.generation)
    (hinventories : Tallied t row ∨ row.inventories = old.inventories)
    (hstate : row.state = writtenState c (some old.state)) :
    Effect t c (t.putProvider row) := by
  refine Effect.provider row htarget ?_ ?_ ?_ (Or.inr ⟨old, hold⟩)
  · intro old' hold'
    rw [hold] at hold'
    cases hold'
    exact hnewer
  · rcases hinventories with hused | hsame
    · exact Or.inl hused
    · exact Or.inr ⟨old, hold, hsame⟩
  · rw [hstate, providerState, hold]
    rfl

theorem effect_atomically {α : Type} {t : Tables R} {c : RepositoryCall R} {body : Body R α}
    (h : ∀ a t', body t = .ok (a, t') → Effect t c t') :
    Effect t c (atomically body t).2 :=
  atomically_rel (Effect t c) (Effect.unchanged _) h

/-- **Inversion**: every call leaves one of the listed effects behind. -/
theorem effect_step (t : Tables R) (c : RepositoryCall R) : Effect t c (step t c) := by
  cases c with
  | getProvider | listProviders | getIntent => exact Effect.unchanged _
  | registerProvider nodeId inventories =>
    simp only [step, exec, registerProvider, thenProvider_snd]
    refine effect_atomically fun _ t' h => ?_
    rcases registerProviderBody_ok h with ⟨_, rfl⟩ | ⟨row, hpublished, hstate, rfl⟩
    · exact Effect.unchanged _
    · exact hpublished.effect rfl rfl hstate
  | registerProviderMetadata nodeId inventories metadata =>
    simp only [step, exec, registerProviderMetadata]
    split
    · exact Effect.unchanged _
    · rw [thenProvider_snd]
      refine effect_atomically fun _ t' h => ?_
      obtain ⟨row, hpublished, hstate, rfl⟩ := registerProviderMetadataBody_ok h
      exact hpublished.effect rfl rfl hstate
  | updateProviderMetadata providerId generation metadata =>
    simp only [step, exec, updateProviderMetadata]
    split
    · exact Effect.unchanged _
    · rw [thenProvider_snd]
      refine effect_atomically fun _ t' h => ?_
      obtain ⟨row, hget, rfl⟩ := updateProviderMetadataBody_ok h
      obtain rfl : row.id = providerId := t.providers.key_of_get? hget
      exact effect_of_provider row rfl hget (Nat.lt_succ_self _) (Or.inr rfl) rfl
  | syncProvider nodeId state inventories =>
    simp only [step, exec, syncProvider]
    split
    · exact Effect.unchanged _
    · rw [thenProvider_snd]
      refine effect_atomically fun _ t' h => ?_
      rcases syncProviderBody_ok h with ⟨_, rfl⟩ | ⟨row, hpublished, hstate, rfl⟩
      · exact Effect.unchanged _
      · exact hpublished.effect rfl rfl hstate
  | refreshInventories providerId generation inventories =>
    simp only [step, exec, refreshInventories, thenProvider_snd]
    refine effect_atomically fun _ t' h => ?_
    obtain ⟨row, rows, hget, _, hused, rfl⟩ := refreshInventoriesBody_ok h
    obtain rfl : row.id = providerId := t.providers.key_of_get? hget
    exact effect_of_provider row rfl hget (Nat.lt_succ_self _) (Or.inl hused) rfl
  | setProviderState providerId state =>
    simp only [step, exec, setProviderState]
    split
    · exact Effect.unchanged _
    · refine effect_atomically fun _ t' h => ?_
      obtain ⟨row, hget, rfl⟩ := setProviderStateBody_ok h
      obtain rfl : row.id = providerId := t.providers.key_of_get? hget
      exact effect_of_provider row rfl hget (Nat.lt_succ_self _) (Or.inr rfl) rfl
  | commitAllocation providerId generation allocation =>
    simp only [step, exec, commitAllocation]
    split
    · exact Effect.unchanged _
    · refine effect_atomically fun _ t' h => ?_
      obtain ⟨_, ⟨_, _, _, rfl⟩ | ⟨old, resources, habsent, hget, rfl, hresources, rfl⟩⟩ :=
        commitAllocationBody_ok h
      · exact Effect.unchanged _
      · exact Effect.committed old resources habsent hget hresources
  | releaseAllocation providerId allocationId =>
    refine effect_atomically fun _ t' h => ?_
    rcases releaseAllocationBody_ok h with rfl | ⟨old, existing, hexisting, rfl, hget, rfl⟩
    · exact Effect.unchanged _
    · exact Effect.released old existing hget hexisting
  | upsertIntent intent =>
    simp only [step, exec, upsertIntent]
    split
    · exact Effect.unchanged _
    · refine effect_atomically fun _ t' h => ?_
      obtain ⟨row, rfl, _, rfl, hplaced, _⟩ := upsertIntentBody_ok h
      exact Effect.intentStored row hplaced
  | deleteIntent allocationId => exact Effect.intentDeleted allocationId
  | reconcileConsumers durableConsumerIds =>
    refine effect_atomically fun _ t' h => ?_
    exact (reconcileConsumersBody_ok h).2

end Sqlite
end Placement
end O3k
