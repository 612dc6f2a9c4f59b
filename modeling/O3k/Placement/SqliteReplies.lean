import O3k.Placement.Ledger
import O3k.Placement.SqliteEffects

/-!
# What the SQLite repository replies

Allocations and intents cross the repository as records.  A row is known from
its record, so a reply that gives a record back names the stored row.
-/

namespace O3k
namespace Placement

open Relational Relational.Transaction

variable {R : Type}

def AllocationRow.allocation (row : AllocationRow Nat) : Allocation :=
  ⟨row.providerId, row.consumerId, row.resources⟩

def AllocationIntent.row (intent : AllocationIntent) : AllocationRow Nat :=
  ⟨intent.allocationId, intent.providerId, intent.consumerId, intent.resources⟩

@[simp] theorem allocationFromRecord_record (row : AllocationRow Nat) :
    allocationFromRecord (row.record id) = row.allocation := by
  simp [allocationFromRecord, AllocationRow.record, AllocationRow.allocation, resourceMap_record]

@[simp] theorem id_of_record (row : AllocationRow Nat) : (row.record id).id = row.id := rfl

theorem intentToRecord_eq (intent : AllocationIntent) :
    intentToRecord intent = intent.row.record id :=
  rfl

@[simp] theorem intentFromRecord_record (intent : AllocationIntent) :
    intentFromRecord (intent.row.record id) = intent := by
  simp [intentFromRecord, AllocationRow.record, AllocationIntent.row, resourceMap_record]

theorem record_injective : Function.Injective (AllocationRow.record (id : Nat → Nat)) := by
  intro row row' h
  have hallocation := congrArg allocationFromRecord h
  simp only [allocationFromRecord_record, AllocationRow.allocation, Allocation.mk.injEq]
    at hallocation
  have hid := congrArg PlacementAllocationRecord.id h
  cases row
  cases row'
  simp_all [AllocationRow.record]

namespace Sqlite

def readAllocations (t : Tables R) (providerId : String) : AllocationMap :=
  Table.ofList ((t.allocationsOf providerId).map (fun row => (row.id, row.allocation)))

theorem get?_readAllocations (t : Tables R) (providerId k : String) :
    (readAllocations t providerId).get? k =
    ((t.allocations.get? k).filter (fun row => row.providerId = providerId)).map
      (fun row => (row.id, row.allocation)) := by
  have hnodup :
      (((t.allocationsOf providerId).map (fun row => (row.id, row.allocation))).map
        Prod.fst).Nodup := by
    rw [List.map_map]
    exact (List.filter_sublist.map AllocationRow.id).nodup t.allocations.keys_nodup
  refine Option.ext ?_
  rintro ⟨id, allocation⟩
  rw [readAllocations, Table.get?_eq_some_iff, Table.mem_ofList hnodup]
  simp only [PlacementTables.allocationsOf, List.mem_map, List.mem_filter, Option.map_eq_some_iff,
    Option.filter_eq_some_iff, Table.get?_eq_some_iff, Prod.mk.injEq]
  constructor
  · rintro ⟨⟨row, ⟨hrow, howner⟩, rfl, rfl⟩, rfl⟩
    exact ⟨row, ⟨⟨hrow, rfl⟩, howner⟩, rfl, rfl⟩
  · rintro ⟨row, ⟨⟨hrow, rfl⟩, howner⟩, rfl, rfl⟩
    exact ⟨⟨row, ⟨hrow, howner⟩, rfl, rfl⟩, rfl⟩

variable {t : Tables R}

theorem providerFromRecord_ok {row : ProviderRow Nat R} {provider : ResourceProvider R}
    (h : providerFromRecord (t.providerRecord id row) = .ok provider) :
    provider.id = row.id ∧ providerStateFromStr row.state = some provider.state ∧
      provider.generation = row.generation ∧
      provider.inventories = row.inventories ∧
      provider.allocations = readAllocations t row.id := by
  unfold providerFromRecord at h
  split at h
  · cases h
  · rename_i state hstate
    cases h
    refine ⟨rfl, hstate, rfl, inventoryMap_record row.inventories, ?_⟩
    simp [readAllocations, PlacementTables.providerRecord, List.map_map, Function.comp_def]

theorem insertResources_resourceRecords {resources rows : Resources Nat}
    (h : insertResources (resourceRecords resources) ∅ = .ok rows) :
    rows = resources := by
  obtain ⟨_, _, hmem⟩ := insertResources_ok h
  refine Table.ext_mem ?_
  intro row
  rw [hmem]
  constructor
  · rintro (hempty | ⟨record, hrecord, rfl⟩)
    · exact absurd hempty List.not_mem_nil
    · obtain ⟨row, hrow, rfl⟩ := List.mem_map.mp hrecord
      exact hrow
  · intro hrow
    exact Or.inr ⟨_, List.mem_map_of_mem hrow, rfl⟩

variable {row : AllocationRow Nat}

theorem commitAllocation_ok {t' : Tables R} {generation : Nat}
    {committed : PlacementAllocationRecord}
    (h :
      exec
          (.commitAllocation row.providerId generation
            ⟨row.id, row.providerId, row.consumerId, resourceRecords row.resources⟩) t
        = (.ok committed, t')) :
    committed = row.record id ∧ row ∈ t'.allocations.rows := by
  change commitAllocation row.providerId generation (row.record id) t = _ at h
  unfold commitAllocation at h
  split at h
  · cases h
  · obtain ⟨rfl, hstored⟩ := commitAllocationBody_ok (atomically_ok_iff.mp h)
    refine ⟨rfl, ?_⟩
    rcases hstored with ⟨existing, hget, hrecord, rfl⟩ | ⟨old, resources, _, _, _, hrows, rfl⟩
    · obtain rfl := record_injective hrecord
      exact Table.mem_of_get? _ hget
    · obtain rfl := insertResources_resourceRecords hrows
      exact t.allocations.mem_put.mpr (Or.inl rfl)

theorem placementI64_of_le {value : Nat} (h : value ≤ i64Max) : placementI64 value = .ok value := by
  simp [placementI64, h]

theorem insertResources_of_fits {resources : Resources Nat}
    (hfits : ∀ row ∈ resources.rows, row.amount ≤ i64Max) :
    insertResources (resourceRecords resources) ∅ = .ok resources := by
  suffices hgeneral :
      ∀ (rows : List (ResourceRow Nat)) (u : Resources Nat),
        (∀ row ∈ rows, row.amount ≤ i64Max) →
        (rows.map ResourceRow.resourceClass).Nodup →
        (∀ row ∈ rows, u.get? row.resourceClass = none) →
          insertResources (rows.map (fun row => ⟨row.resourceClass, row.amount⟩)) u
            = .ok (rows.foldl Table.put u) by
    rw [resourceRecords, hgeneral _ _ hfits resources.keys_nodup (fun _ _ => rfl)]
    exact congrArg Except.ok resources.ofList_rows
  intro rows
  induction rows with
  | nil =>
    intro u _ _ _
    rfl
  | cons row rest ih =>
    intro u hfits hnodup hfresh
    obtain ⟨hrow, hrest⟩ := List.forall_mem_cons.mp hfits
    obtain ⟨hother, hnodup⟩ := List.nodup_cons.mp hnodup
    obtain ⟨habsent, hfresh⟩ := List.forall_mem_cons.mp hfresh
    have hnext : u.insert? row = some (u.put row) := u.insert?_of_absent habsent
    have hkept : ∀ r ∈ rest, (u.put row).get? r.resourceClass = none := by
      intro r hr
      rw [u.get?_put_of_ne, hfresh r hr]
      intro hclass
      exact hother (hclass ▸ List.mem_map_of_mem hr)
    rw [List.map_cons, insertResources, placementI64_of_le hrow]
    dsimp only [bind, Except.bind]
    rw [hnext]
    exact ih _ hrest hnodup hkept

theorem insertOrIgnoreResources_of_insertResources {records : List PlacementResourceRecord}
    {rows rows' : Resources Nat} (h : insertResources records rows = .ok rows') :
    insertOrIgnoreResources records rows = .ok rows' := by
  induction records generalizing rows with
  | nil => exact h
  | cons record rest ih =>
    obtain ⟨amount, hamount, hinsert⟩ := except_bind_eq_ok.mp h
    refine except_bind_eq_ok.mpr ⟨amount, hamount, ?_⟩
    cases hnext : rows.insert? ⟨record.resourceClass, amount⟩ with
    | none =>
      rw [hnext] at hinsert
      cases hinsert
    | some next =>
      rw [hnext] at hinsert
      exact ih hinsert

theorem upsertIntent_ok {t' : Tables R} {intent : AllocationIntent} {stored : PlacementIntentRecord}
    (h : exec (.upsertIntent (intentToRecord intent)) t = (.ok stored, t')) :
    t' = t.putIntent intent.row ∧ ∀ row ∈ intent.resources.rows, row.amount ≤ i64Max := by
  change upsertIntent (intentToRecord intent) t = _ at h
  unfold upsertIntent at h
  split at h
  · cases h
  · obtain ⟨row, hrecord, _, rfl, _, hamounts⟩ := upsertIntentBody_ok (atomically_ok_iff.mp h)
    obtain rfl : row = intent.row := record_injective (hrecord.trans (intentToRecord_eq intent))
    exact ⟨rfl, fun row hrow => hamounts _ (List.mem_map_of_mem hrow)⟩

theorem upsertIntent_error {t' : Tables R} {intent : PlacementIntentRecord} {e : StoreError}
    (h : exec (.upsertIntent intent) t = (.error e, t')) :
    t' = t := by
  change upsertIntent intent t = _ at h
  unfold upsertIntent at h
  split at h
  · cases h
    rfl
  · have hsame := atomically_error_snd (congrArg Prod.fst h)
    rw [h] at hsame
    exact hsame

variable {provider : ProviderRow Nat R}

theorem upsertIntent_accepted {intent : AllocationIntent}
    (hvalid : invalidAllocation (intentToRecord intent) = false)
    (habsent : t.intents.get? intent.allocationId = none)
    (hprovider : t.providers.get? intent.providerId = some provider)
    (hfits : ∀ row ∈ intent.resources.rows, row.amount ≤ i64Max) :
    exec (.upsertIntent (intentToRecord intent)) t
      = (.ok (intentToRecord intent), t.putIntent intent.row) := by
  show upsertIntent (intentToRecord intent) t = _
  have hresources := insertOrIgnoreResources_of_insertResources (insertResources_of_fits hfits)
  have hbase :
      insertOrIgnoreIntent (intentToRecord intent) t
        = .ok (⟨intent.allocationId, intent.providerId, intent.consumerId, ∅⟩, t) := by
    simp only [insertOrIgnoreIntent, get_bind_apply, intentToRecord, habsent, hprovider]
    rfl
  rw [upsertIntent, if_neg (by simp [hvalid])]
  refine atomically_of_ok ?_
  rw [upsertIntentBody, bind_of_ok hbase]
  show ((fromExcept (insertOrIgnoreResources (resourceRecords intent.resources) ∅) >>= _ :
    Body R _) t) = _
  rw [hresources, fromExcept_ok_bind, require_bind_of_pos _ _ (by rfl)]
  rfl

theorem commitAllocation_existing (hvalid : invalidAllocation (row.record id) = false)
    (hget : t.allocations.get? row.id = some row) (generation : Nat) :
    exec (.commitAllocation row.providerId generation (row.record id)) t
      = (.ok (row.record id), t) := by
  show commitAllocation row.providerId generation (row.record id) t = _
  rw [commitAllocation, if_neg (by simp [hvalid])]
  refine atomically_of_ok ?_
  simp only [commitAllocationBody, get_bind_apply, id_of_record, hget]
  exact require_bind_of_pos _ _ rfl

theorem commitAllocation_stale {generation : Nat}
    (hvalid : invalidAllocation (row.record id) = false)
    (habsent : t.allocations.get? row.id = none)
    (hprovider : t.providers.get? row.providerId = some provider)
    (hgeneration : provider.generation ≠ generation) (hfits : generation ≤ i64Max) :
    exec (.commitAllocation row.providerId generation (row.record id)) t
      = (.error .placementStaleGeneration, t) := by
  show commitAllocation row.providerId generation (row.record id) t = _
  rw [commitAllocation, if_neg (by simp [hvalid])]
  refine atomically_of_error ?_
  simp only [commitAllocationBody, get_bind_apply, id_of_record, habsent, hprovider,
    orFail_some_bind]
  refine bind_of_error ?_
  simp [fenceGeneration, placementI64_of_le hfits, hprovider, Option.filter, hgeneration]

theorem commitAllocation_accepted (hvalid : invalidAllocation (row.record id) = false)
    (habsent : t.allocations.get? row.id = none)
    (hprovider : t.providers.get? row.providerId = some provider)
    (hfits : provider.generation ≤ i64Max)
    (hamounts : ∀ r ∈ row.resources.rows, r.amount ≤ i64Max) :
    ∃ t',
      exec (.commitAllocation row.providerId provider.generation (row.record id)) t
        = (.ok (row.record id), t') := by
  have hid : provider.id = row.providerId := t.providers.key_of_get? hprovider
  have hfence :
      fenceGeneration row.providerId provider.generation t
        = .ok ((), t.putProvider provider.bump) := by
    simp [fenceGeneration, placementI64_of_le hfits, hprovider, Option.filter]
  have hbumped :
      (t.putProvider provider.bump).providers.get? row.providerId = some provider.bump :=
    t.get?_putProvider hid
  obtain ⟨t₁, hused⟩ :
      ∃ t₁,
        forEach (addUsed row.providerId) (row.record id).resources
            (t.putProvider provider.bump)
          = .ok ((), t₁) := by
    refine forEach_of_forall ?_ _
    intro record hrecord s
    obtain ⟨r, hr, rfl⟩ := List.mem_map.mp hrecord
    refine ⟨_, bind_eq_ok.mpr ⟨r.amount, s, ?_, rfl⟩⟩
    exact fromExcept_eq_ok.mpr ⟨_, placementI64_of_le (hamounts r hr), rfl⟩
  have howner : ∃ owner, t₁.providers.get? row.providerId = some owner := by
    rw [forEach_addUsed_ok hbumped hused]
    exact ⟨_, PlacementTables.get?_putProvider _ (by simpa using hid)⟩
  have hinsert : insertAllocation (row.record id) t₁ = .ok ((), t₁.putAllocation row) := by
    obtain ⟨owner, howner⟩ := howner
    have hresources := insertResources_of_fits hamounts
    show (((get : Body R (Tables R)) >>= _) t₁) = _
    rw [get_bind_apply]
    show ((orFail (t₁.providers.get? row.providerId) _ >>= _ : Body R Unit) t₁) = _
    rw [howner, orFail_some_bind]
    show ((fromExcept (insertResources (resourceRecords row.resources) ∅) >>= _ :
      Body R Unit) t₁) = _
    rw [hresources, fromExcept_ok_bind]
    rfl
  refine ⟨t₁.putAllocation row, ?_⟩
  show commitAllocation row.providerId provider.generation (row.record id) t = _
  rw [commitAllocation, if_neg (by simp [hvalid])]
  refine atomically_of_ok ?_
  simp only [commitAllocationBody, get_bind_apply, id_of_record, habsent, hprovider,
    orFail_some_bind]
  rw [bind_of_ok hfence, bind_of_ok hused, bind_of_ok hinsert]
  rfl

end Sqlite

end Placement
end O3k
