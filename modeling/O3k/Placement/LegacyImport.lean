import O3k.Placement.PostgresEffects
import O3k.Placement.SqliteReplies
import O3k.Relational.Inserts

/-!
# Import of legacy providers

`import_provider` copies a provider of the file-backed ledger into the tables.
SQLite inserts what is not there and keeps what is; PostgreSQL overwrites the
provider row and never looks at the allocations.
-/

namespace O3k
namespace Placement

open Relational Relational.Transaction
open PlacementTables (allocationsOf getProvider modifyProvider providerRecord)

variable {Q R : Type}

def inventoryRecords (inventories : Inventories Nat R) : List (PlacementInventoryRecord R) :=
  inventories.rows.map (InventoryRow.record id)

def allocationRecord (entry : String × Allocation) : PlacementAllocationRecord :=
  ⟨entry.1, entry.2.providerId, entry.2.consumerId, resourceRecords entry.2.resources⟩

def providerToRecord (provider : ResourceProvider R) : PlacementProviderRecord R where
  id := provider.id
  nodeId := provider.nodeId
  state := providerStateAsStr provider.state
  generation := provider.generation
  inventories := inventoryRecords provider.inventories
  allocations := provider.allocations.rows.map allocationRecord
  parentProviderId := provider.parentProviderId
  traits := provider.traits.rows
  failureDomains := provider.failureDomains.rows
  location := provider.location

/-- `INSERT`s of strings under one provider. -/
def insertStrings (values : List String) : Except StoreError StringSet :=
  insertEach (.database .uniqueViolation) (fun x => .ok x) values ∅

theorem insertStrings_rows (values : StringSet) : insertStrings values.rows = .ok values := by
  have h : insertStrings (values.rows.map id) = .ok values ↔ _ :=
    insertEach_rows_eq_ok_iff values id (fun _ _ h => (Except.ok.inj h).symm)
  rw [List.map_id] at h
  exact h.mpr ⟨fun _ _ => rfl, rfl⟩

/-- `DELETE` and `INSERT` of the traits or failure domains of a provider.  Without
the provider, a string violates the foreign key. -/
def rewriteStrings (providerId : String) (values : List String)
    (write : ProviderRow Q R → StringSet → ProviderRow Q R) :
    Transaction (PlacementTables Q R) StoreError Unit := do
  let t ← get
  match t.providers.get? providerId with
  | some row =>
    let values ← fromExcept (insertStrings values)
    set (t.putProvider (write row values))
  | none => require (values = []) (.database .foreignKeyViolation)

/-- `UPDATE placement_providers SET parent_provider_id = …, location = …`. -/
def updateParent (record : PlacementProviderRecord R) :
    Transaction (PlacementTables Q R) StoreError Unit := do
  let t ← get
  match t.providers.get? record.id with
  | some row =>
    require (∀ parent ∈ record.parentProviderId, (t.providers.get? parent).isSome)
      (.database .foreignKeyViolation)
    set (t.putProvider
      { row with parentProviderId := record.parentProviderId, location := record.location })
  | none => pure ()

/-- The statements that both adapters share. -/
def importMetadata (record : PlacementProviderRecord R) :
    Transaction (PlacementTables Q R) StoreError Unit := do
  updateParent record
  rewriteStrings record.id record.traits (fun row traits => { row with traits := traits })
  rewriteStrings record.id record.failureDomains
    (fun row failureDomains => { row with failureDomains := failureDomains })

namespace Sqlite

/-- `INSERT OR IGNORE INTO placement_providers`. -/
def insertOrIgnoreImported (record : PlacementProviderRecord R) : Body R Unit := do
  let generation ← fromExcept (placementI64 record.generation)
  let t ← get
  if t.providers.rows.any (fun row => row.id = record.id || row.nodeId = record.nodeId) then
    pure ()
  else
    set (t.putProvider
      { (.fresh record.id record.state generation : ProviderRow Nat R) with
        nodeId := record.nodeId })

/-- An allocation whose id is there already is skipped. -/
def importAllocation (allocation : PlacementAllocationRecord) : Body R Unit := do
  let t ← get
  match t.allocations.get? allocation.id with
  | some _ => pure ()
  | none => insertAllocation allocation

def importProviderBody (record : PlacementProviderRecord R) : Body R Unit := do
  insertOrIgnoreImported record
  importMetadata record
  replacePlacementInventories record.id record.inventories
    (record.inventories.map PlacementInventoryRecord.used)
  forEach importAllocation record.allocations

def importProvider (record : PlacementProviderRecord R) (t : Tables R) :
    Except StoreError Unit × Tables R :=
  atomically (importProviderBody record) t

end Sqlite

namespace Postgres

/-- `INSERT … ON CONFLICT (id) DO UPDATE`: `node_id` is unique. -/
def upsertImported (record : PlacementProviderRecord R) : Body R Unit := do
  let t ← get
  require (t.providers.rows.all (fun row => row.id = record.id || row.nodeId ≠ record.nodeId))
    (.database .uniqueViolation)
  set (t.putProvider
    { (t.providers.get? record.id).getD (.fresh record.id record.state 0) with
      nodeId := record.nodeId
      state := record.state
      generation := asI64 record.generation })

def importedInventory (inventory : PlacementInventoryRecord R) : InventoryRow Int R :=
  ⟨inventory.resourceClass, asI64 inventory.total, asI64 inventory.reserved,
    inventory.allocationRatio, asI64 inventory.used⟩

/-- The loop of upserts, each with the imported `used`. -/
def upsertInventoriesImported (record : PlacementProviderRecord R) : Body R Unit :=
  modify (fun t =>
    t.modifyProvider record.id
      (fun row => row.withInventories
        ((record.inventories.map importedInventory).foldl Table.put row.inventories)))

/-- The allocations of the record are not written. -/
def importProviderBody (record : PlacementProviderRecord R) : Body R Unit := do
  upsertImported record
  importMetadata record
  upsertInventoriesImported record

def importProvider (record : PlacementProviderRecord R) (t : Tables R) :
    Except StoreError Unit × Tables R :=
  atomically (importProviderBody record) t

end Postgres

def storedAllocation (toU64 : Q → Nat) (t : PlacementTables Q R) (allocationId : String) :
    Option PlacementAllocationRecord :=
  (t.allocations.get? allocationId).map (AllocationRow.record toU64)

/-- The provider is stored with all of its inventories and allocations, and one
that was there keeps its generation, state and allocations. -/
structure LossFree
    (toU64 : Q → Nat) (record : PlacementProviderRecord R) (t t' : PlacementTables Q R)
    (after : PlacementProviderRecord R) : Prop where
  stored : t'.getProvider toU64 record.id = some after
  metadata :
    after.parentProviderId = record.parentProviderId ∧ after.location = record.location ∧
      after.traits = record.traits ∧ after.failureDomains = record.failureDomains
  inventories : ∀ inventory ∈ record.inventories, inventory ∈ after.inventories
  allocations :
    ∀ allocation ∈ record.allocations,
      storedAllocation toU64 t' allocation.id = some allocation
  new :
    t.getProvider toU64 record.id = none →
      after.nodeId = record.nodeId ∧ after.state = record.state ∧
        after.generation = record.generation
  kept :
    ∀ before, t.getProvider toU64 record.id = some before →
      after.state = before.state ∧ after.generation = before.generation ∧
        ∀ allocation ∈ before.allocations, allocation ∈ after.allocations

/-- An import changes nothing or loses nothing, a second one changes nothing,
and an empty store then has the record. -/
structure ImportSafe (toU64 : Q → Nat)
    (importProvider :
      PlacementProviderRecord R → PlacementTables Q R →
        Except StoreError Unit × PlacementTables Q R)
    (t : PlacementTables Q R) (record : PlacementProviderRecord R) : Prop where
  lossFree :
    (importProvider record t).2 = t ∨
      ∃ after, LossFree toU64 record t (importProvider record t).2 after
  idempotent :
    (importProvider record (importProvider record t).2).2 = (importProvider record t).2
  exact :
    t.providers = ∅ → t.allocations = ∅ → (importProvider record t).1 = .ok () →
      (importProvider record t).2.getProvider toU64 record.id = some record

@[simps id nodeId state generation inventories] def ProviderRow.describedBy
    (row : ProviderRow Q R) (provider : ResourceProvider R) :
    ProviderRow Q R :=
  { row with
    parentProviderId := provider.parentProviderId
    location := provider.location
    traits := provider.traits
    failureDomains := provider.failureDomains }

def ParentKnown (t : PlacementTables Q R) (provider : ResourceProvider R) : Prop :=
  ∀ parent ∈ provider.parentProviderId,
    parent = provider.id ∨ ∃ row, t.providers.get? parent = some row

section Shared

variable {t t' : PlacementTables Q R} {provider : ResourceProvider R} {row : ProviderRow Q R}

theorem updateParent_eq_ok_iff (hid : row.id = provider.id) :
    updateParent (providerToRecord provider) (t.putProvider row) = .ok ((), t') ↔
    ParentKnown t provider ∧
      t' = t.putProvider
        { row with
          parentProviderId := provider.parentProviderId
          location := provider.location } := by
  have hget : (t.putProvider row).providers.get? provider.id = some row := t.get?_putProvider hid
  have hknown :
      (∀ parent ∈ provider.parentProviderId,
        ((t.putProvider row).providers.get? parent).isSome) ↔ ParentKnown t provider := by
    refine forall₂_congr (fun parent _ => ?_)
    by_cases hself : parent = provider.id
    · rw [hself, hget]
      exact iff_of_true rfl (Or.inl rfl)
    · have hother : (t.putProvider row).providers.get? parent = t.providers.get? parent :=
        t.providers.get?_put_of_ne (fun h => hself (h.symm.trans hid))
      rw [hother, Option.isSome_iff_exists, or_iff_right hself]
  unfold updateParent
  rw [get_bind_apply]
  simp only [providerToRecord, hget]
  rw [bind_eq_ok, ← hknown]
  constructor
  · rintro ⟨_, t₁, hrequire, hset⟩
    obtain ⟨hparent, hsame⟩ := require_eq_ok.mp hrequire
    cases hsame
    cases hset
    exact ⟨hparent, t.putProvider_putProvider rfl⟩
  · rintro ⟨hparent, rfl⟩
    refine ⟨(), _, require_eq_ok.mpr ⟨hparent, rfl⟩, ?_⟩
    rw [set_apply]
    exact congrArg (fun t => Except.ok ((), t)) (t.putProvider_putProvider (by rfl))

theorem rewriteStrings_eq_ok (hid : row.id = provider.id)
    (values : StringSet) (write : ProviderRow Q R → StringSet → ProviderRow Q R)
    (hwrite : (write row values).id = row.id) :
    rewriteStrings provider.id values.rows write (t.putProvider row)
      = .ok ((), t.putProvider (write row values)) := by
  have hget : (t.putProvider row).providers.get? provider.id = some row := t.get?_putProvider hid
  unfold rewriteStrings
  rw [get_bind_apply]
  simp only [hget, insertStrings_rows, fromExcept_ok_bind, set_apply]
  rw [t.putProvider_putProvider hwrite.symm]

theorem importMetadata_eq_ok_iff (hid : row.id = provider.id) :
    importMetadata (providerToRecord provider) (t.putProvider row) = .ok ((), t') ↔
    ParentKnown t provider ∧ t' = t.putProvider (row.describedBy provider) := by
  let moved : ProviderRow Q R :=
    { row with
      parentProviderId := provider.parentProviderId
      location := provider.location }
  let tagged : ProviderRow Q R := { moved with traits := provider.traits }
  have hmoved : moved.id = provider.id := hid
  have htagged : tagged.id = provider.id := hid
  have hstrings :
      (rewriteStrings provider.id provider.traits.rows
          (fun row traits => { row with traits := traits }) >>= fun _ =>
        rewriteStrings provider.id provider.failureDomains.rows
          (fun row failureDomains => { row with failureDomains := failureDomains }))
        (t.putProvider moved)
        = .ok ((), t.putProvider (row.describedBy provider)) := by
    have htraits := rewriteStrings_eq_ok (t := t) hmoved provider.traits
      (fun row traits => { row with traits := traits }) rfl
    rw [bind_of_ok htraits]
    exact rewriteStrings_eq_ok htagged _ _ rfl
  unfold importMetadata
  rw [bind_eq_ok]
  constructor
  · rintro ⟨_, t₁, hupdate, hrest⟩
    obtain ⟨hparent, rfl⟩ := (updateParent_eq_ok_iff hid).mp hupdate
    cases hstrings.symm.trans hrest
    exact ⟨hparent, rfl⟩
  · rintro ⟨hparent, rfl⟩
    exact ⟨(), _, (updateParent_eq_ok_iff hid).mpr ⟨hparent, rfl⟩, hstrings⟩

end Shared

namespace Sqlite

def allocationRow (entry : String × Allocation) : AllocationRow Nat :=
  ⟨entry.1, entry.2.providerId, entry.2.consumerId, entry.2.resources⟩

theorem allocationRow_id (entry : String × Allocation) : (allocationRow entry).id = entry.1 := by
  rfl

def InventoryFits (row : InventoryRow Nat R) : Prop :=
  row.total ≤ i64Max ∧ row.reserved ≤ i64Max ∧ row.used ≤ i64Max

theorem placementI64_eq_ok_iff {value stored : Nat} :
    placementI64 value = .ok stored ↔ value ≤ i64Max ∧ stored = value := by
  constructor
  · exact fun h => (placementI64_ok h).symm
  · rintro ⟨hfits, rfl⟩
    exact placementI64_of_le hfits

theorem inventoryRow_eq_ok_iff {row row' : InventoryRow Nat R} :
    inventoryRow (row.record id) row.used = .ok row' ↔ InventoryFits row ∧ row' = row := by
  simp only [inventoryRow, except_bind_eq_ok, placementI64_eq_ok_iff, InventoryRow.record, id]
  constructor
  · rintro ⟨_, ⟨htotal, rfl⟩, _, ⟨hreserved, rfl⟩, _, ⟨hused, rfl⟩, hrow⟩
    exact ⟨⟨htotal, hreserved, hused⟩, (Except.ok.inj hrow).symm⟩
  · rintro ⟨⟨htotal, hreserved, hused⟩, rfl⟩
    exact ⟨_, ⟨htotal, rfl⟩, _, ⟨hreserved, rfl⟩, _, ⟨hused, rfl⟩, rfl⟩

theorem insertInventories_eq
    (pairs : List (PlacementInventoryRecord R × Nat)) (rows : Inventories Nat R) :
    insertInventories pairs rows =
    insertEach (.database .uniqueViolation) (fun pair => inventoryRow pair.1 pair.2)
      pairs rows := by
  induction pairs generalizing rows with
  | nil => rfl
  | cons pair rest ih =>
    obtain ⟨inventory, used⟩ := pair
    cases hrow : inventoryRow inventory used with
    | error e =>
      simp only [insertInventories, insertEach, hrow]
      rfl
    | ok row =>
      cases hinsert : rows.insert? row with
      | none =>
        simp only [insertInventories, insertEach, hrow, hinsert]
        dsimp only [bind, Except.bind]
        rw [hinsert]
        rfl
      | some rows' =>
        simp only [insertInventories, insertEach, hrow, hinsert, ← ih]
        dsimp only [bind, Except.bind]
        rw [hinsert]

theorem replaceInventories_eq_ok_iff {t t' : Tables R} {row : ProviderRow Nat R}
    (inventories : Inventories Nat R) :
    replacePlacementInventories row.id (inventoryRecords inventories)
        ((inventoryRecords inventories).map PlacementInventoryRecord.used) (t.putProvider row)
      = .ok ((), t')
      ↔
    (∀ inventory ∈ inventories.rows, InventoryFits inventory) ∧
      t' = t.putProvider (row.withInventories inventories) := by
  have hpairs :
      (inventoryRecords inventories).zip
          ((inventoryRecords inventories).map PlacementInventoryRecord.used)
        =
      inventories.rows.map (fun row => (row.record id, row.used)) := by
    rw [inventoryRecords, List.map_map, List.zip_map']
    rfl
  have hrows :
      ∀ rows, insertInventories
          ((inventoryRecords inventories).zip
            ((inventoryRecords inventories).map PlacementInventoryRecord.used)) ∅ = .ok rows
        ↔
      (∀ inventory ∈ inventories.rows, InventoryFits inventory) ∧ rows = inventories := by
    intro rows
    rw [hpairs, insertInventories_eq, insertEach_rows_eq_ok_iff inventories
      (fun row => (row.record id, row.used)) (fun r r' h => (inventoryRow_eq_ok_iff.mp h).2)]
    simp only [inventoryRow_eq_ok_iff, and_true]
  have hget : (t.putProvider row).providers.get? row.id = some row := t.get?_putProvider rfl
  unfold replacePlacementInventories
  rw [get_bind_apply, hget, bind_eq_ok]
  constructor
  · rintro ⟨rows, t₁, hinsert, hset⟩
    obtain ⟨_, hok, hsame⟩ := fromExcept_eq_ok.mp hinsert
    cases hsame
    cases hset
    obtain ⟨hfits, rfl⟩ := (hrows _).mp hok
    exact ⟨hfits, t.putProvider_putProvider rfl⟩
  · rintro ⟨hfits, rfl⟩
    refine ⟨inventories, _, fromExcept_eq_ok.mpr ⟨_, (hrows _).mpr ⟨hfits, rfl⟩, rfl⟩, ?_⟩
    exact congrArg (fun t => Except.ok ((), t)) (t.putProvider_putProvider (by rfl))

def AllocationFits (entry : String × Allocation) : Prop :=
  ∀ row ∈ entry.2.resources.rows, row.amount ≤ i64Max

theorem insertResources_fits {records : List PlacementResourceRecord} {rows rows' : Resources Nat}
    (h : insertResources records rows = .ok rows') :
    ∀ record ∈ records, record.amount ≤ i64Max := by
  induction records generalizing rows with
  | nil => exact fun _ hr => by cases hr
  | cons record rest ih =>
    simp only [insertResources, except_bind_eq_ok] at h
    obtain ⟨amount, hamount, hinsert⟩ := h
    split at hinsert
    · cases hinsert
    · exact List.forall_mem_cons.mpr ⟨(placementI64_eq_ok_iff.mp hamount).1, ih hinsert⟩

theorem insertAllocation_eq_ok_iff {t t' : Tables R} {entry : String × Allocation}
    {owner : ProviderRow Nat R} (howner : t.providers.get? entry.2.providerId = some owner) :
    insertAllocation (allocationRecord entry) t = .ok ((), t') ↔
    AllocationFits entry ∧ t' = t.putAllocation (allocationRow entry) := by
  unfold insertAllocation
  simp only [get_bind_apply, allocationRecord, howner, orFail_some_bind]
  rw [bind_eq_ok]
  constructor
  · rintro ⟨rows, t₁, hinsert, hset⟩
    obtain ⟨_, hok, hsame⟩ := fromExcept_eq_ok.mp hinsert
    cases hsame
    cases hset
    obtain rfl := insertResources_resourceRecords hok
    exact ⟨fun row hrow => insertResources_fits hok _ (List.mem_map_of_mem hrow), rfl⟩
  · rintro ⟨hfits, rfl⟩
    exact ⟨_, _, fromExcept_eq_ok.mpr ⟨_, insertResources_of_fits hfits, rfl⟩, rfl⟩

/-- The tables with the allocations that are not there yet. -/
@[simps providers] def withAllocations (t : Tables R) (entries : List (String × Allocation)) :
    Tables R :=
  { t with allocations := insertAbsent t.allocations (entries.map allocationRow) }

theorem importAllocations_eq_ok_iff {t t' : Tables R} {owner : ProviderRow Nat R}
    {entries : List (String × Allocation)} (hnodup : (entries.map Prod.fst).Nodup)
    (howner : ∀ entry ∈ entries, t.providers.get? entry.2.providerId = some owner) :
    forEach importAllocation (entries.map allocationRecord) t = .ok ((), t') ↔
    (∀ entry ∈ entries, t.allocations.get? entry.1 = none → AllocationFits entry) ∧
      t' = withAllocations t entries := by
  induction entries generalizing t with
  | nil => simp [forEach, withAllocations, insertAbsent, eq_comm]
  | cons entry rest ih =>
    obtain ⟨hnew, hnodup⟩ := List.nodup_cons.mp hnodup
    obtain ⟨hself, howner⟩ := List.forall_mem_cons.mp howner
    rw [List.map_cons, forEach, bind_eq_ok, List.forall_mem_cons]
    cases hget : t.allocations.get? entry.1 with
    | some stored =>
      have hskip : importAllocation (allocationRecord entry) t = .ok ((), t) := by
        simp only [importAllocation, get_bind_apply, allocationRecord, hget]
        rfl
      have hsame : withAllocations t (entry :: rest) = withAllocations t rest := by
        show ({ t with allocations := insertAbsent (t.allocations.insertIfAbsent _) _ }
          : Tables R) = _
        rw [t.allocations.insertIfAbsent_of_present (r := allocationRow entry) hget]
        rfl
      simp only [hskip, Except.ok.injEq, Prod.mk.injEq, true_and, reduceCtorEq,
        IsEmpty.forall_iff, hsame]
      constructor
      · rintro ⟨_, _, rfl, hrest⟩
        exact (ih hnodup howner).mp hrest
      · exact fun h => ⟨(), t, rfl, (ih hnodup howner).mpr h⟩
    | none =>
      have hstep :
          ∀ t₁, importAllocation (allocationRecord entry) t = .ok ((), t₁) ↔
            AllocationFits entry ∧ t₁ = t.putAllocation (allocationRow entry) := by
        intro t₁
        rw [← insertAllocation_eq_ok_iff hself]
        simp only [importAllocation, get_bind_apply, allocationRecord, hget]
      have hsame :
          withAllocations t (entry :: rest)
            = withAllocations (t.putAllocation (allocationRow entry)) rest := by
        show ({ t with allocations := insertAbsent (t.allocations.insertIfAbsent _) _ }
          : Tables R) = _
        rw [t.allocations.insertIfAbsent_of_absent (r := allocationRow entry) hget]
        rfl
      have hother :
          (∀ e ∈ rest, (t.putAllocation (allocationRow entry)).allocations.get? e.1 = none →
            AllocationFits e)
            ↔
          ∀ e ∈ rest, t.allocations.get? e.1 = none → AllocationFits e := by
        refine forall₂_congr (fun e he => ?_)
        have hne : entry.1 ≠ e.1 := fun h => hnew (h ▸ List.mem_map_of_mem he)
        rw [show (t.putAllocation (allocationRow entry)).allocations.get? e.1 = _ from
          t.allocations.get?_put_of_ne hne]
      have hrest := ih (t := t.putAllocation (allocationRow entry)) hnodup howner
      rw [hother] at hrest
      simp only [forall_const, hsame]
      constructor
      · rintro ⟨_, t₁, hfirst, hloop⟩
        obtain ⟨hfits, rfl⟩ := (hstep t₁).mp hfirst
        obtain ⟨hothers, ht'⟩ := hrest.mp hloop
        exact ⟨⟨hfits, hothers⟩, ht'⟩
      · rintro ⟨⟨hfits, hothers⟩, ht'⟩
        exact ⟨(), _, (hstep _).mpr ⟨hfits, rfl⟩, hrest.mpr ⟨hothers, ht'⟩⟩

/-- The node is registered under another id: the provider row is not inserted. -/
def Ignored (t : Tables R) (provider : ResourceProvider R) : Prop :=
  t.providers.get? provider.id = none ∧
    ∃ row ∈ t.providers.rows, row.nodeId = provider.nodeId

structure Accepts (t : Tables R) (provider : ResourceProvider R) : Prop where
  generation : provider.generation ≤ i64Max
  parent : ParentKnown t provider
  inventories : ∀ inventory ∈ provider.inventories.rows, InventoryFits inventory
  allocations :
    ∀ entry ∈ provider.allocations.rows, t.allocations.get? entry.1 = none → AllocationFits entry

def baseRow (t : Tables R) (provider : ResourceProvider R) : ProviderRow Nat R :=
  (t.providers.get? provider.id).getD
    { (.fresh provider.id (providerStateAsStr provider.state) provider.generation :
        ProviderRow Nat R) with
      nodeId := provider.nodeId }

def importedRow (t : Tables R) (provider : ResourceProvider R) : ProviderRow Nat R :=
  ((baseRow t provider).describedBy provider).withInventories provider.inventories

def imported (t : Tables R) (provider : ResourceProvider R) : Tables R :=
  withAllocations (t.putProvider (importedRow t provider)) provider.allocations.rows

section Import

variable {t t' : Tables R} {provider : ResourceProvider R}

theorem baseRow_id : (baseRow t provider).id = provider.id := by
  unfold baseRow
  cases hget : t.providers.get? provider.id with
  | none => rfl
  | some row => exact t.providers.key_of_get? hget

@[simp] theorem importedRow_id : (importedRow t provider).id = provider.id := baseRow_id

theorem insertOrIgnoreImported_eq_ok_iff (h : ¬ Ignored t provider) :
    insertOrIgnoreImported (providerToRecord provider) t = .ok ((), t') ↔
    provider.generation ≤ i64Max ∧ t' = t.putProvider (baseRow t provider) := by
  unfold insertOrIgnoreImported
  by_cases hfits : provider.generation ≤ i64Max
  · have hread : placementI64 (providerToRecord provider).generation = .ok provider.generation :=
      placementI64_of_le hfits
    rw [hread, fromExcept_ok_bind, get_bind_apply]
    simp only [hfits, true_and]
    have hrun : ∀ t₁ : Tables R, (.ok ((), t₁) : Except StoreError (Unit × Tables R)) = .ok ((), t')
        ↔ t' = t₁ := fun _ => by simp [eq_comm]
    cases hget : t.providers.get? provider.id with
    | some row =>
      have hid := t.providers.key_of_get? hget
      rw [if_pos (List.any_eq_true.mpr
        ⟨row, t.providers.mem_of_get? hget, by simp [providerToRecord, hid]⟩)]
      simp only [baseRow, hget, Option.getD_some, t.putProvider_self (hid ▸ hget)]
      exact hrun t
    | none =>
      have hnone := t.providers.get?_eq_none_iff.mp hget
      rw [if_neg]
      · simp only [baseRow, hget, Option.getD_none]
        exact hrun _
      · intro hany
        obtain ⟨row, hrow, hsame⟩ := List.any_eq_true.mp hany
        rcases Bool.or_eq_true_iff.mp hsame with hid | hnode
        · exact hnone row hrow (of_decide_eq_true hid)
        · exact h ⟨hget, row, hrow, of_decide_eq_true hnode⟩
  · have hread : ∃ e, placementI64 (providerToRecord provider).generation = .error e :=
      ⟨_, if_neg hfits⟩
    obtain ⟨e, he⟩ := hread
    rw [he, fromExcept_error_bind]
    simp [hfits]

theorem importProviderBody_eq_ok_iff
    (hown : ∀ entry ∈ provider.allocations.rows, entry.2.providerId = provider.id)
    (h : ¬ Ignored t provider) :
    importProviderBody (providerToRecord provider) t = .ok ((), t') ↔
    Accepts t provider ∧ t' = imported t provider := by
  have howner :
      ∀ entry ∈ provider.allocations.rows,
        (t.putProvider (importedRow t provider)).providers.get? entry.2.providerId
          = some (importedRow t provider) := by
    intro entry hentry
    rw [hown entry hentry]
    exact t.get?_putProvider importedRow_id
  have hallocations :=
    @importAllocations_eq_ok_iff R _ t' _ _ provider.allocations.keys_nodup howner
  have hinventories := fun t' : Tables R =>
    @replaceInventories_eq_ok_iff R t t' ((baseRow t provider).describedBy provider) provider.inventories
  have hid : ((baseRow t provider).describedBy provider).id = provider.id := baseRow_id
  rw [hid] at hinventories
  unfold importProviderBody
  constructor
  · intro hok
    obtain ⟨_, t₁, hinsert, hok⟩ := bind_eq_ok.mp hok
    obtain ⟨hgeneration, rfl⟩ := (insertOrIgnoreImported_eq_ok_iff h).mp hinsert
    obtain ⟨_, t₂, hmetadata, hok⟩ := bind_eq_ok.mp hok
    obtain ⟨hparent, rfl⟩ := (importMetadata_eq_ok_iff baseRow_id).mp hmetadata
    obtain ⟨_, t₃, hreplace, hok⟩ := bind_eq_ok.mp hok
    obtain ⟨hfits, rfl⟩ := (hinventories t₃).mp hreplace
    obtain ⟨hamounts, rfl⟩ := hallocations.mp hok
    exact ⟨⟨hgeneration, hparent, hfits, hamounts⟩, rfl⟩
  · rintro ⟨⟨hgeneration, hparent, hfits, hamounts⟩, rfl⟩
    refine bind_eq_ok.mpr ⟨(), _, (insertOrIgnoreImported_eq_ok_iff h).mpr ⟨hgeneration, rfl⟩, ?_⟩
    refine bind_eq_ok.mpr ⟨(), _, (importMetadata_eq_ok_iff baseRow_id).mpr ⟨hparent, rfl⟩, ?_⟩
    refine bind_eq_ok.mpr ⟨(), _, (hinventories _).mpr ⟨hfits, rfl⟩, ?_⟩
    exact hallocations.mpr ⟨hamounts, rfl⟩

theorem importAllocations_of_absent
    (habsent : t.providers.get? provider.id = none) {entries : List (String × Allocation)}
    (hown : ∀ entry ∈ entries, entry.2.providerId = provider.id)
    (h : forEach importAllocation (entries.map allocationRecord) t = .ok ((), t')) :
    t' = t := by
  induction entries with
  | nil =>
    cases h
    rfl
  | cons entry rest ih =>
    obtain ⟨hself, hown⟩ := List.forall_mem_cons.mp hown
    obtain ⟨_, t₁, hfirst, hrest⟩ := bind_eq_ok.mp h
    have hsame : t₁ = t := by
      simp only [importAllocation, get_bind_apply, allocationRecord] at hfirst
      cases hget : t.allocations.get? entry.1 with
      | some stored =>
        rw [hget] at hfirst
        cases hfirst
        rfl
      | none =>
        rw [hget] at hfirst
        simp only [insertAllocation, get_bind_apply, hself, habsent] at hfirst
        cases hfirst
    exact ih hown (hsame ▸ hrest)

theorem unchanged_of_ignored
    (hown : ∀ entry ∈ provider.allocations.rows, entry.2.providerId = provider.id)
    (h : Ignored t provider)
    (hok : importProviderBody (providerToRecord provider) t = .ok ((), t')) :
    t' = t := by
  obtain ⟨habsent, row, hrow, hnode⟩ := h
  have hstrings :
      ∀ values write t', rewriteStrings provider.id values write t = .ok ((), t') → t' = t := by
    intro values write t' hok
    unfold rewriteStrings at hok
    rw [get_bind_apply, habsent] at hok
    exact (Prod.mk.inj (require_eq_ok.mp hok).2).2
  unfold importProviderBody importMetadata at hok
  obtain ⟨_, t₁, hinsert, hok₁⟩ := bind_eq_ok.mp hok
  obtain ⟨_, t₂, hmetadata, hok₂⟩ := bind_eq_ok.mp hok₁
  obtain ⟨_, t₃, hparent, hmetadata₁⟩ := bind_eq_ok.mp hmetadata
  obtain ⟨_, t₄, htraits, hdomains⟩ := bind_eq_ok.mp hmetadata₁
  obtain ⟨_, t₅, hreplace, hallocations⟩ := bind_eq_ok.mp hok₂
  have h₁ : t₁ = t := by
    obtain ⟨_, _, hinsert⟩ := fromExcept_bind_eq_ok.mp hinsert
    rw [get_bind_apply, if_pos (List.any_eq_true.mpr
      ⟨row, hrow, by simp [providerToRecord, hnode]⟩)] at hinsert
    cases hinsert
    rfl
  have h₃ : t₃ = t := by
    rw [h₁, updateParent, get_bind_apply,
      show t.providers.get? (providerToRecord provider).id = none from habsent] at hparent
    cases hparent
    rfl
  have h₂ : t₂ = t := by
    rw [h₃] at htraits
    rw [hstrings _ _ _ htraits] at hdomains
    exact hstrings _ _ _ hdomains
  have h₅ : t₅ = t := by
    rw [h₂, replacePlacementInventories, get_bind_apply,
      show t.providers.get? (providerToRecord provider).id = none from habsent] at hreplace
    cases hpairs : (providerToRecord provider).inventories.zip
        ((providerToRecord provider).inventories.map PlacementInventoryRecord.used) with
    | nil =>
      rw [hpairs] at hreplace
      cases hreplace
      rfl
    | cons pair rest =>
      rw [hpairs] at hreplace
      obtain ⟨_, _, _, hthrow⟩ := bind_eq_ok.mp hreplace
      cases hthrow
  exact importAllocations_of_absent habsent hown (h₅ ▸ hallocations)

/-- The row has the columns and inventories already, and no allocation is new. -/
def NothingNew (t : Tables R) (provider : ResourceProvider R) : Prop :=
  t.providers.get? provider.id = some (importedRow t provider) ∧
    ∀ entry ∈ provider.allocations.rows, t.allocations.get? entry.1 ≠ none

/-- An allocation that is stored under one of the ids is the one of the record. -/
def NoOtherAllocation (t : Tables R) (provider : ResourceProvider R) : Prop :=
  ∀ entry ∈ provider.allocations.rows, ∀ stored,
    t.allocations.get? entry.1 = some stored → stored = allocationRow entry

def ImportsAll (t : Tables R) (provider : ResourceProvider R) : Prop :=
  Ignored t provider ∨ ¬ Accepts t provider ∨ NothingNew t provider ∨
    NoOtherAllocation t provider

variable (t provider) in
theorem get?_imported_allocations (k : String) :
    (imported t provider).allocations.get? k = (t.allocations.get? k).or
      ((provider.allocations.get? k).map allocationRow) := by
  show (insertAbsent t.allocations _).get? k = _
  rw [get?_insertAbsent, List.find?_map]
  rfl

theorem imported_eq_iff : imported t provider = t ↔ NothingNew t provider := by
  constructor
  · intro h
    have hrow : (imported t provider).providers.get? provider.id
        = some (importedRow t provider) :=
      t.get?_putProvider importedRow_id
    refine ⟨(congrArg (fun t' : Tables R => t'.providers.get? provider.id) h).symm.trans hrow, ?_⟩
    intro entry hentry hnone
    have hget := get?_imported_allocations t provider entry.1
    rw [h, hnone, provider.allocations.get?_key_of_mem hentry] at hget
    cases hget
  · rintro ⟨hrow, hpresent⟩
    have hput : t.putProvider (importedRow t provider) = t := t.putProvider_self hrow
    unfold imported
    rw [hput]
    show ({ t with allocations := insertAbsent t.allocations _ } : Tables R) = t
    rw [insertAbsent_of_present]
    intro row hmem
    obtain ⟨entry, hentry, rfl⟩ := List.mem_map.mp hmem
    exact hpresent entry hentry

theorem getProvider_imported :
    (imported t provider).getProvider id provider.id
      = some ((imported t provider).providerRecord id (importedRow t provider)) := by
  have hget : (imported t provider).providers.get? provider.id = some (importedRow t provider) :=
    t.get?_putProvider importedRow_id
  rw [getProvider, hget]
  rfl

theorem lossFree_of_noOther (h : NoOtherAllocation t provider) :
    LossFree id (providerToRecord provider) t (imported t provider)
      ((imported t provider).providerRecord id (importedRow t provider)) where
  stored := getProvider_imported
  metadata := ⟨rfl, rfl, rfl, rfl⟩
  inventories := fun _ hinventory => hinventory
  allocations := by
    intro allocation hallocation
    obtain ⟨entry, hentry, rfl⟩ := List.mem_map.mp hallocation
    have hget := get?_imported_allocations t provider entry.1
    rw [provider.allocations.get?_key_of_mem hentry] at hget
    have hrow : (imported t provider).allocations.get? entry.1 = some (allocationRow entry) := by
      cases hstored : t.allocations.get? entry.1 with
      | none => rw [hget, hstored]; rfl
      | some stored => rw [hget, hstored, h entry hentry stored hstored]; rfl
    exact congrArg (Option.map (AllocationRow.record id)) hrow
  new := by
    intro hnone
    have hget : t.providers.get? provider.id = none := Option.map_eq_none_iff.mp hnone
    simp [providerRecord, importedRow, baseRow, hget, providerToRecord]
  kept := by
    intro before hbefore
    obtain ⟨row, hget, rfl⟩ := Option.map_eq_some_iff.mp hbefore
    have hbase : baseRow t provider = row := by
      simp only [baseRow, show t.providers.get? provider.id = some row from hget, Option.getD_some]
    refine ⟨by rw [← hbase]; rfl, by rw [← hbase]; rfl, ?_⟩
    intro allocation hallocation
    obtain ⟨stored, hstored, rfl⟩ := List.mem_map.mp hallocation
    obtain ⟨hmem, howner⟩ := List.mem_filter.mp hstored
    refine List.mem_map_of_mem (List.mem_filter.mpr ⟨?_, ?_⟩)
    · have hkept := get?_imported_allocations t provider stored.id
      rw [t.allocations.get?_key_of_mem hmem] at hkept
      exact Table.mem_of_get? _ hkept
    · rw [importedRow_id]
      simpa [t.providers.key_of_get? hget, providerToRecord] using howner

theorem lossFree_iff :
    (∃ after, LossFree id (providerToRecord provider) t (imported t provider) after) ↔
    NoOtherAllocation t provider := by
  refine ⟨?_, fun h => ⟨_, lossFree_of_noOther h⟩⟩
  rintro ⟨after, h⟩ entry hentry stored hstored
  have hread := h.allocations _ (List.mem_map_of_mem hentry)
  have hget := get?_imported_allocations t provider entry.1
  rw [hstored, Option.some_or] at hget
  rw [storedAllocation, show (allocationRecord entry).id = entry.1 from rfl, hget] at hread
  exact record_injective (Option.some.inj hread)

theorem nothingNew_imported : NothingNew (imported t provider) provider := by
  have hget : (imported t provider).providers.get? provider.id = some (importedRow t provider) :=
    t.get?_putProvider importedRow_id
  constructor
  · rw [hget]
    simp only [importedRow, baseRow, hget, Option.getD_some]
    rfl
  · intro entry hentry
    rw [get?_imported_allocations, provider.allocations.get?_key_of_mem hentry]
    cases t.allocations.get? entry.1 <;> simp

theorem importProvider_imported
    (hown : ∀ entry ∈ provider.allocations.rows, entry.2.providerId = provider.id) :
    (importProvider (providerToRecord provider) (imported t provider)).2 = imported t provider := by
  have hthere : ¬ Ignored (imported t provider) provider :=
    fun h => by cases h.1.symm.trans nothingNew_imported.1
  unfold importProvider
  cases hbody : importProviderBody (providerToRecord provider) (imported t provider) with
  | error e => rw [atomically_of_error hbody]
  | ok outcome =>
    rw [atomically_of_ok hbody, ((importProviderBody_eq_ok_iff hown hthere).mp hbody).2]
    exact imported_eq_iff.mpr nothingNew_imported

theorem record_of_empty
    (hown : ∀ entry ∈ provider.allocations.rows, entry.2.providerId = provider.id)
    (hproviders : t.providers = ∅) (hallocations : t.allocations = ∅) :
    (imported t provider).getProvider id provider.id = some (providerToRecord provider) := by
  rw [getProvider_imported]
  have htable :
      (imported t provider).allocations
        = provider.allocations.view allocationRow allocationRow_id := by
    refine Table.ext_get? (fun k => ?_)
    rw [get?_imported_allocations, hallocations, Table.get?_view]
    rfl
  have hrows : (imported t provider).allocationsOf provider.id
      = provider.allocations.rows.map allocationRow := by
    rw [allocationsOf, htable]
    refine List.filter_eq_self.mpr ?_
    intro row hrow
    obtain ⟨entry, hentry, rfl⟩ := List.mem_map.mp hrow
    exact decide_eq_true (hown entry hentry)
  have hbase : t.providers.get? provider.id = none := by
    rw [hproviders]
    rfl
  simp only [providerRecord, importedRow_id, hrows, List.map_map]
  simp only [importedRow, baseRow, hbase, Option.getD_none]
  rfl

theorem importSafe_iff
    (hown : ∀ entry ∈ provider.allocations.rows, entry.2.providerId = provider.id) :
    ImportSafe id importProvider t (providerToRecord provider) ↔ ImportsAll t provider := by
  have herror :
      ∀ {e}, importProviderBody (providerToRecord provider) t = .error e →
        ImportSafe id importProvider t (providerToRecord provider) := by
    intro e he
    have hrun : importProvider (providerToRecord provider) t = (.error e, t) :=
      atomically_of_error he
    exact
      { lossFree := Or.inl (by rw [hrun])
        idempotent := by rw [hrun]; exact congrArg Prod.snd hrun
        exact := fun _ _ hok => by rw [hrun] at hok; cases hok }
  cases hbody : importProviderBody (providerToRecord provider) t with
  | error e =>
    refine iff_of_true (herror hbody) ?_
    by_cases hignored : Ignored t provider
    · exact Or.inl hignored
    · refine Or.inr (Or.inl (fun haccepts => ?_))
      cases hbody.symm.trans ((importProviderBody_eq_ok_iff hown hignored).mpr ⟨haccepts, rfl⟩)
  | ok outcome =>
    obtain ⟨_, t'⟩ := outcome
    have hrun : importProvider (providerToRecord provider) t = (.ok (), t') :=
      atomically_of_ok hbody
    by_cases hignored : Ignored t provider
    · obtain rfl := unchanged_of_ignored hown hignored hbody
      refine iff_of_true ?_ (Or.inl hignored)
      exact
        { lossFree := Or.inl (by rw [hrun])
          idempotent := by rw [hrun]; exact congrArg Prod.snd hrun
          exact := fun hproviders _ _ => by
            obtain ⟨_, row, hrow, _⟩ := hignored
            rw [hproviders] at hrow
            exact absurd hrow List.not_mem_nil }
    · obtain ⟨haccepts, rfl⟩ := (importProviderBody_eq_ok_iff hown hignored).mp hbody
      constructor
      · intro hsafe
        have hlossFree := hsafe.lossFree
        rw [hrun] at hlossFree
        rcases hlossFree with hsame | hstored
        · exact Or.inr (Or.inr (Or.inl (imported_eq_iff.mp hsame)))
        · exact Or.inr (Or.inr (Or.inr (lossFree_iff.mp hstored)))
      · intro himports
        refine
          { lossFree := ?_
            idempotent := by rw [hrun]; exact importProvider_imported hown
            exact := fun hproviders hallocations _ => by
              rw [hrun]
              exact record_of_empty hown hproviders hallocations }
        rw [hrun]
        rcases himports with h | h | h | h
        · exact absurd h hignored
        · exact absurd haccepts h
        · exact Or.inl (imported_eq_iff.mpr h)
        · exact Or.inr (lossFree_iff.mpr h)

end Import

end Sqlite

namespace Postgres

/-- Another provider has the node, or the parent is not known. -/
def RefusesImport (t : Tables R) (provider : ResourceProvider R) : Prop :=
  (∃ row ∈ t.providers.rows, row.id ≠ provider.id ∧ row.nodeId = provider.nodeId) ∨
    ¬ ParentKnown t provider

def upsertedRow (t : Tables R) (provider : ResourceProvider R) : ProviderRow Int R :=
  { (t.providers.get? provider.id).getD
      (.fresh provider.id (providerStateAsStr provider.state) 0) with
    nodeId := provider.nodeId
    state := providerStateAsStr provider.state
    generation := asI64 provider.generation }

def importedInventories (provider : ResourceProvider R) : Inventories Int R :=
  provider.inventories.view (fun row => importedInventory (row.record id)) (fun _ => rfl)

def importedRow (t : Tables R) (provider : ResourceProvider R) : ProviderRow Int R :=
  ((upsertedRow t provider).describedBy provider).withInventories
    ((importedInventories provider).rows.foldl Table.put (upsertedRow t provider).inventories)

def AllocationsStored (t : Tables R) (provider : ResourceProvider R) : Prop :=
  ∀ allocation ∈ (providerToRecord provider).allocations,
    storedAllocation asU64 t allocation.id = some allocation

/-- A row that is there has the state and the generation of the provider. -/
def RowKept (t : Tables R) (provider : ResourceProvider R) : Prop :=
  ∀ before, t.getProvider asU64 provider.id = some before →
    before.state = providerStateAsStr provider.state ∧ before.generation = provider.generation

/-- When an import is safe: it is refused, it changes nothing, or what it does not
write and what it overwrites is the same already. -/
def ImportsAll (t : Tables R) (provider : ResourceProvider R) : Prop :=
  RefusesImport t provider ∨
    t.providers.get? provider.id = some (importedRow t provider) ∨
    (AllocationsStored t provider ∧ RowKept t provider)

/-- The quantities are `u64`. -/
def QuantitiesFit (provider : ResourceProvider R) : Prop :=
  provider.generation < 2 ^ 64 ∧
    ∀ row ∈ provider.inventories.rows,
      row.total < 2 ^ 64 ∧ row.reserved < 2 ^ 64 ∧ row.used < 2 ^ 64

section Import

variable {t t' : Tables R} {provider : ResourceProvider R}

theorem upsertedRow_id : (upsertedRow t provider).id = provider.id := by
  unfold upsertedRow
  cases hget : t.providers.get? provider.id with
  | none => rfl
  | some row =>
    have hid : row.id = provider.id := t.providers.key_of_get? hget
    exact hid

@[simp] theorem importedRow_id : (importedRow t provider).id = provider.id := upsertedRow_id

theorem get?_imported :
    (t.putProvider (importedRow t provider)).providers.get? provider.id
      = some (importedRow t provider) :=
  t.get?_putProvider importedRow_id

theorem importProviderBody_eq_ok_iff :
    importProviderBody (providerToRecord provider) t = .ok ((), t') ↔
    ¬ RefusesImport t provider ∧ t' = t.putProvider (importedRow t provider) := by
  have hnode :
      t.providers.rows.all
          (fun row => row.id = (providerToRecord provider).id ||
            row.nodeId ≠ (providerToRecord provider).nodeId) = true
        ↔
      ¬ ∃ row ∈ t.providers.rows, row.id ≠ provider.id ∧ row.nodeId = provider.nodeId := by
    rw [List.all_eq_true, not_exists]
    refine forall_congr' (fun row => ?_)
    rw [not_and]
    refine forall_congr' (fun _ => ?_)
    rw [Bool.or_eq_true, decide_eq_true_iff, decide_eq_true_iff, or_iff_not_imp_left, not_and]
    exact Iff.rfl
  have hupsert : ∀ t', upsertImported (providerToRecord provider) t = .ok ((), t')
      ↔
      (¬ ∃ row ∈ t.providers.rows, row.id ≠ provider.id ∧ row.nodeId = provider.nodeId) ∧
        t' = t.putProvider (upsertedRow t provider) := by
    intro t'
    rw [← hnode]
    unfold upsertImported
    rw [get_bind_apply, bind_eq_ok]
    constructor
    · rintro ⟨_, t₁, hrequire, hset⟩
      obtain ⟨hall, hsame⟩ := require_eq_ok.mp hrequire
      cases hsame
      cases hset
      exact ⟨hall, rfl⟩
    · rintro ⟨hall, rfl⟩
      exact ⟨(), t, require_eq_ok.mpr ⟨hall, rfl⟩, rfl⟩
  have hwrite :
      upsertInventoriesImported (providerToRecord provider)
          (t.putProvider ((upsertedRow t provider).describedBy provider))
        = .ok ((), t.putProvider (importedRow t provider)) := by
    have hget := t.get?_putProvider
      (show ((upsertedRow t provider).describedBy provider).id = provider.id from upsertedRow_id)
    have hrows : (providerToRecord provider).inventories.map importedInventory
        = (importedInventories provider).rows := by
      simp only [providerToRecord, inventoryRecords, List.map_map]
      rfl
    show Except.ok ((), modifyProvider _ provider.id _) = _
    rw [PlacementTables.modifyProvider_of_some hget, hrows, t.putProvider_putProvider (by rfl)]
    rfl
  unfold importProviderBody
  rw [RefusesImport, not_or, not_not]
  constructor
  · intro hok
    obtain ⟨_, t₁, hfirst, hok⟩ := bind_eq_ok.mp hok
    obtain ⟨hfree, rfl⟩ := (hupsert t₁).mp hfirst
    obtain ⟨_, t₂, hmetadata, hok⟩ := bind_eq_ok.mp hok
    obtain ⟨hparent, rfl⟩ := (importMetadata_eq_ok_iff upsertedRow_id).mp hmetadata
    cases hwrite.symm.trans hok
    exact ⟨⟨hfree, hparent⟩, rfl⟩
  · rintro ⟨⟨hfree, hparent⟩, rfl⟩
    refine bind_eq_ok.mpr ⟨(), _, (hupsert _).mpr ⟨hfree, rfl⟩, ?_⟩
    refine bind_eq_ok.mpr ⟨(), _, (importMetadata_eq_ok_iff upsertedRow_id).mpr ⟨hparent, rfl⟩, ?_⟩
    exact hwrite

theorem imported_eq_iff :
    t.putProvider (importedRow t provider) = t ↔
    t.providers.get? provider.id = some (importedRow t provider) := by
  refine ⟨fun h => ?_, fun h => t.putProvider_self h⟩
  exact (congrArg (fun t' : Tables R => t'.providers.get? provider.id) h).symm.trans get?_imported

theorem importedRow_imported :
    importedRow (t.putProvider (importedRow t provider)) provider = importedRow t provider := by
  have hupserted :
      upsertedRow (t.putProvider (importedRow t provider)) provider = importedRow t provider := by
    simp only [upsertedRow, get?_imported, Option.getD_some]
    rfl
  have hinventories :
      (importedInventories provider).rows.foldl Table.put (importedRow t provider).inventories
        = (importedRow t provider).inventories := by
    refine Table.ext_get? (fun k => ?_)
    show _ = Table.get? ((importedInventories provider).rows.foldl Table.put _) k
    rw [Table.get?_foldl_put_rows, importedRow, ProviderRow.withInventories_inventories,
      Table.get?_foldl_put_rows]
    cases (importedInventories provider).get? k <;> rfl
  rw [importedRow, hupserted, hinventories]
  rfl

theorem importProvider_imported :
    (importProvider (providerToRecord provider) (t.putProvider (importedRow t provider))).2
      = t.putProvider (importedRow t provider) := by
  unfold importProvider
  cases hbody : importProviderBody (providerToRecord provider)
      (t.putProvider (importedRow t provider)) with
  | error e => rw [atomically_of_error hbody]
  | ok outcome =>
    rw [atomically_of_ok hbody, (importProviderBody_eq_ok_iff.mp hbody).2, importedRow_imported]
    exact PlacementTables.putProvider_self get?_imported

theorem getProvider_imported :
    (t.putProvider (importedRow t provider)).getProvider asU64 provider.id
      = some ((t.putProvider (importedRow t provider)).providerRecord asU64
          (importedRow t provider)) := by
  rw [getProvider, get?_imported]
  rfl

theorem importedInventory_record (hfit : QuantitiesFit provider) {row : InventoryRow Nat R}
    (hrow : row ∈ provider.inventories.rows) :
    (importedInventory (row.record id)).record asU64 = row.record id := by
  obtain ⟨htotal, hreserved, hused⟩ := hfit.2 row hrow
  simp only [importedInventory, InventoryRow.record, asU64_asI64, id, Nat.mod_eq_of_lt htotal,
    Nat.mod_eq_of_lt hreserved, Nat.mod_eq_of_lt hused]

theorem lossFree_of_stored (hfit : QuantitiesFit provider) (hstored : AllocationsStored t provider)
    (hkept : RowKept t provider) :
    LossFree asU64 (providerToRecord provider) t (t.putProvider (importedRow t provider))
      ((t.putProvider (importedRow t provider)).providerRecord asU64 (importedRow t provider)) where
  stored := getProvider_imported
  metadata := ⟨rfl, rfl, rfl, rfl⟩
  inventories := by
    intro inventory hinventory
    obtain ⟨row, hrow, rfl⟩ := List.mem_map.mp hinventory
    rw [← importedInventory_record hfit hrow]
    refine List.mem_map_of_mem (Table.mem_of_get? _ (k := row.resourceClass) ?_)
    have hview := provider.inventories.get?_view (g := @InventoryRow.resourceClass Int R)
      (fun row => importedInventory (row.record id)) (fun _ => rfl) row.resourceClass
    rw [provider.inventories.get?_key_of_mem hrow] at hview
    show Table.get? ((importedInventories provider).rows.foldl Table.put _) _ = _
    rw [Table.get?_foldl_put_rows, importedInventories, hview]
    rfl
  allocations := hstored
  new := fun _ =>
    ⟨rfl, rfl, by
      show asU64 (asI64 provider.generation) = provider.generation
      rw [asU64_asI64, Nat.mod_eq_of_lt hfit.1]⟩
  kept := by
    intro before hbefore
    obtain ⟨hstate, hgeneration⟩ := hkept before hbefore
    obtain ⟨row, hget, rfl⟩ := Option.map_eq_some_iff.mp hbefore
    refine ⟨hstate.symm, ?_, ?_⟩
    · rw [hgeneration]
      show asU64 (asI64 provider.generation) = provider.generation
      rw [asU64_asI64, Nat.mod_eq_of_lt hfit.1]
    · intro allocation hallocation
      have hid : row.id = provider.id := t.providers.key_of_get? hget
      rw [providerRecord, hid] at hallocation
      rw [providerRecord, importedRow_id]
      exact hallocation

theorem lossFree_iff (hfit : QuantitiesFit provider) :
    (∃ after,
        LossFree asU64 (providerToRecord provider) t (t.putProvider (importedRow t provider)) after)
      ↔
    AllocationsStored t provider ∧ RowKept t provider := by
  refine ⟨?_, fun h => ⟨_, lossFree_of_stored hfit h.1 h.2⟩⟩
  rintro ⟨after, h⟩
  refine ⟨h.allocations, ?_⟩
  intro before hbefore
  obtain ⟨hstate, hgeneration, _⟩ := h.kept before hbefore
  obtain rfl := Option.some.inj (h.stored.symm.trans getProvider_imported)
  refine ⟨hstate.symm, hgeneration.symm.trans ?_⟩
  show asU64 (asI64 provider.generation) = provider.generation
  rw [asU64_asI64, Nat.mod_eq_of_lt hfit.1]

theorem record_of_empty (hfit : QuantitiesFit provider) (hproviders : t.providers = ∅)
    (hallocations : t.allocations = ∅) (hstored : AllocationsStored t provider) :
    (t.putProvider (importedRow t provider)).getProvider asU64 provider.id
      = some (providerToRecord provider) := by
  have hnone : (providerToRecord provider).allocations = [] := by
    refine List.eq_nil_iff_forall_not_mem.mpr (fun allocation hallocation => ?_)
    have h := hstored allocation hallocation
    rw [storedAllocation, hallocations] at h
    cases h
  have hupserted : (upsertedRow t provider).inventories = ∅ := by
    rw [upsertedRow, hproviders]
    rfl
  have hinventories :
      (importedRow t provider).inventories.rows.map (InventoryRow.record asU64)
        = inventoryRecords provider.inventories := by
    rw [importedRow, ProviderRow.withInventories_inventories, hupserted]
    show (Table.ofList (importedInventories provider).rows).rows.map _ = _
    rw [Table.ofList_rows]
    show (provider.inventories.rows.map _).map _ = _
    rw [List.map_map]
    exact List.map_congr_left (fun row hrow => importedInventory_record hfit hrow)
  have hgeneration : asU64 (importedRow t provider).generation = provider.generation := by
    show asU64 (asI64 provider.generation) = provider.generation
    rw [asU64_asI64, Nat.mod_eq_of_lt hfit.1]
  have hrows : (t.putProvider (importedRow t provider)).allocationsOf provider.id = [] := by
    rw [allocationsOf, PlacementTables.putProvider_allocations, hallocations]
    rfl
  rw [getProvider_imported, providerRecord, importedRow_id, hinventories,
    hgeneration, hrows, List.map_nil, ← hnone]
  rfl

theorem importSafe_iff (hfit : QuantitiesFit provider) :
    ImportSafe asU64 importProvider t (providerToRecord provider) ↔ ImportsAll t provider := by
  by_cases hrefuses : RefusesImport t provider
  · refine iff_of_true ?_ (Or.inl hrefuses)
    cases hbody : importProviderBody (providerToRecord provider) t with
    | ok outcome => exact absurd hrefuses (importProviderBody_eq_ok_iff.mp hbody).1
    | error e =>
      have hrun : importProvider (providerToRecord provider) t = (.error e, t) :=
        atomically_of_error hbody
      exact
        { lossFree := Or.inl (by rw [hrun])
          idempotent := by rw [hrun]; exact congrArg Prod.snd hrun
          exact := fun _ _ hok => by rw [hrun] at hok; cases hok }
  · have hrun : importProvider (providerToRecord provider) t
        = (.ok (), t.putProvider (importedRow t provider)) :=
      atomically_of_ok (importProviderBody_eq_ok_iff.mpr ⟨hrefuses, rfl⟩)
    constructor
    · intro hsafe
      have hlossFree := hsafe.lossFree
      rw [hrun] at hlossFree
      rcases hlossFree with hsame | hstored
      · exact Or.inr (Or.inl (imported_eq_iff.mp hsame))
      · exact Or.inr (Or.inr ((lossFree_iff hfit).mp hstored))
    · intro himports
      have hstored := himports.resolve_left hrefuses
      refine
        { lossFree := ?_
          idempotent := by rw [hrun]; exact importProvider_imported
          exact := ?_ }
      · rw [hrun]
        exact hstored.imp imported_eq_iff.mpr (lossFree_iff hfit).mpr
      · intro hproviders hallocations _
        rw [hrun]
        rcases hstored with hsame | hstored
        · rw [hproviders] at hsame
          cases hsame
        · exact record_of_empty hfit hproviders hallocations hstored.1

end Import

end Postgres

/-- Imports of a ledger provider, on either repository. -/
theorem import_provider_safe_iff (provider : ResourceProvider R)
    (hown : ∀ entry ∈ provider.allocations.rows, entry.2.providerId = provider.id)
    (hfit : Postgres.QuantitiesFit provider) :
    (∀ t : Sqlite.Tables R, ImportSafe id Sqlite.importProvider t (providerToRecord provider) ↔
        Sqlite.ImportsAll t provider) ∧
      (∀ t : Postgres.Tables R,
        ImportSafe Postgres.asU64 Postgres.importProvider t (providerToRecord provider) ↔
        Postgres.ImportsAll t provider) :=
  ⟨fun _ => Sqlite.importSafe_iff hown, fun _ => Postgres.importSafe_iff hfit⟩

def drainingNode : ResourceProvider Nat where
  id := "compute-3"
  nodeId := "compute-3"
  state := .draining
  generation := 42
  inventories := Table.put ∅ ⟨"VCPU", 4, 0, 1, 1⟩
  allocations :=
    Table.put ∅ ("imp-a", ⟨"compute-3", "consumer-a", Table.put ∅ ⟨"VCPU", 1⟩⟩)
  parentProviderId := none
  traits := ∅
  failureDomains := ∅
  location := none

theorem import_provider_safe_iff_drainingNode :
    ImportSafe id Sqlite.importProvider .empty (providerToRecord drainingNode) ↔
    Sqlite.ImportsAll .empty drainingNode :=
  (import_provider_safe_iff drainingNode
    (fun entry hentry => by rw [List.mem_singleton.mp hentry]; rfl)
    ⟨by decide, by decide⟩).1 .empty

/-- PostgreSQL loses the allocation. -/
theorem import_provider_postgres_loses_allocations :
    ¬ ImportSafe Postgres.asU64 Postgres.importProvider .empty (providerToRecord drainingNode) := by
  rw [Postgres.importSafe_iff ⟨by decide, by decide⟩]
  rintro (hrefuses | hsame | ⟨hstored, _⟩)
  · rcases hrefuses with ⟨row, hrow, _⟩ | hparent
    · cases hrow
    · exact hparent (fun _ h => by cases h)
  · cases hsame
  · cases hstored _ (List.mem_cons_self ..)

end Placement
end O3k
