import O3k.Placement.Postgres

/-!
# What a call does to the PostgreSQL placement tables

The counterpart of the SQLite effects.  A provider row is written under a
larger generation, with the reported inventories upserted into the stored
ones; a reconciliation subtracts from `used` and leaves the generations alone.
-/

namespace O3k
namespace Placement
namespace Postgres

open Relational Relational.Transaction
open PlacementTables (inventoriesOf modifyProvider modifyProvider_of_none modifyProvider_of_some modifyProvider_putAllocation providerState putProvider_self thenProvider_snd)

variable {R : Type}

def NodesNamed (t : Tables R) : Prop := ∀ row ∈ t.providers.rows, row.nodeId = row.id

/-- The state that a call which writes the provider row alone leaves in it,
given the state stored before. -/
def writtenState (c : RepositoryCall R) (stored : Option String) : String :=
  match c with
  | .registerProvider _ _ => "Enabled"
  | .registerProviderMetadata _ _ _ => "Enabled"
  | .syncProvider _ state _ => syncedState (stored.getD state) state
  | .setProviderState _ state => state
  | _ => stored.getD ""

def resourceRows (resources : List PlacementResourceRecord) : List (ResourceRow Int) :=
  resources.map (fun resource => ⟨resource.resourceClass, asI64 resource.amount⟩)

/-- What a reconciliation takes off the `used` columns of a provider. -/
def orphanedResources (t : Tables R) (durableConsumerIds : List String) (providerId : String) :
    List (ResourceRow Int) :=
  ((orphaned t durableConsumerIds).filter (fun row => row.providerId = providerId)).flatMap
    (fun row => row.resources.rows)

/-- What a call that writes a provider row alone has been checked for. -/
def Accepted (t : Tables R) : RepositoryCall R → Prop
  | .registerProvider _ _ => True
  | .registerProviderMetadata nodeId _ metadata =>
    invalidMetadata nodeId metadata = false ∧
      checkHierarchy t nodeId metadata.parentProviderId = .ok ()
  | .refreshInventories providerId generation _ =>
    ∃ row, t.providers.get? providerId = some row ∧ row.generation = asI64 generation
  | .updateProviderMetadata _ _ _ => True
  | .syncProvider _ _ _ => True
  | .setProviderState _ _ => True
  | _ => False

inductive Effect (t : Tables R) : RepositoryCall R → Tables R → Prop
  | unchanged (c : RepositoryCall R) :
      Effect t c t
  | provider {c : RepositoryCall R} (row : ProviderRow Int R) (htarget : c.provider? = some row.id)
      (haccepted : Accepted t c) (hnode : row.nodeId = row.id)
      (hnewer : ∀ old, t.providers.get? row.id = some old → old.generation < row.generation)
      (hinventories : row.inventories = upsertInventories (t.inventoriesOf row.id) c.reported)
      (hstate : row.state = writtenState c (t.providerState row.id)) :
      Effect t c (t.putProvider row)
  | committed {providerId : String} {generation : Nat} {allocation : PlacementAllocationRecord}
      (old : ProviderRow Int R) (habsent : t.allocations.get? allocation.id = none)
      (hold : t.providers.get? providerId = some old)
      (hgeneration : asU64 old.generation = generation) :
      Effect t (.commitAllocation providerId generation allocation)
        ((t.putProvider
            (old.applyUsed (· + ·) (resourceRows allocation.resources)).bump).putAllocation
          ⟨allocation.id, providerId, allocation.consumerId,
            Table.ofList (resourceRows allocation.resources)⟩)
  | released {allocationId : String} (old : ProviderRow Int R) (existing : AllocationRow Int)
      (hold : t.providers.get? existing.providerId = some old)
      (hexisting : t.allocations.get? allocationId = some existing) :
      Effect t (.releaseAllocation existing.providerId allocationId)
        ((t.putProvider (old.applyUsed (· - ·) existing.resources.rows).bump).deleteAllocation
          allocationId)
  | intentStored {intent : PlacementIntentRecord} (row : AllocationRow Int) :
      Effect t (.upsertIntent intent) (t.putIntent row)
  | intentDeleted (allocationId : String) :
      Effect t (.deleteIntent allocationId) (t.deleteIntent allocationId)
  | reconciled {durableConsumerIds : List String} (t' : Tables R)
      (hallocations :
        t'.allocations =
          t.allocations.deleteWhere (fun row => row.consumerId ∉ durableConsumerIds))
      (hresources : t'.resources = t.resources)
      (hproviders :
        ∀ k, t'.providers.get? k =
          (t.providers.get? k).map (fun row =>
            row.applyUsed (· - ·) (orphanedResources t durableConsumerIds k))) :
      Effect t (.reconcileConsumers durableConsumerIds) t'

variable {t t' : Tables R} {row : ProviderRow Int R}

theorem writeProvider_ok (h : writeProvider row t = .ok ((), t')) : t' = t.putProvider row := by
  obtain ⟨_, hput⟩ := require_bind_eq_ok.mp h
  cases hput
  rfl

variable {providerId : String}

theorem updateProvider_ok {f : ProviderRow Int R → ProviderRow Int R}
    (h : updateProvider providerId f t = .ok ((), t')) :
    t' = t.modifyProvider providerId f := by
  simp only [updateProvider, get_bind_apply] at h
  unfold modifyProvider
  cases hget : t.providers.get? providerId with
  | none =>
    rw [hget] at h
    cases h
    rfl
  | some row =>
    rw [hget] at h
    exact writeProvider_ok h

/-- The row that a registration or report starts from. -/
def upserted (t : Tables R) (nodeId state : String) (onConflict : String → String) :
    ProviderRow Int R :=
  match t.providers.get? nodeId with
  | some row => (row.withState (onConflict row.state)).bump
  | none => .fresh nodeId state 1

/-- Writing a provider row that came from the stored one, or is the first. -/
structure Published (t : Tables R) (c : RepositoryCall R) (nodeId : String)
    (row : ProviderRow Int R) : Prop where
  id : row.id = nodeId
  node : row.nodeId = nodeId
  newer : ∀ old, t.providers.get? nodeId = some old → old.generation < row.generation
  inventories : row.inventories = upsertInventories (t.inventoriesOf nodeId) c.reported
  state : row.state = writtenState c (t.providerState nodeId)

variable {c : RepositoryCall R} {t : Tables R} {nodeId : String}

theorem Published.effect (h : Published t c nodeId row) (htarget : c.provider? = some nodeId)
    (haccepted : Accepted t c) :
    Effect t c (t.putProvider row) := by
  obtain ⟨hid, hnode, hnewer, hinventories, hstate⟩ := h
  subst hid
  exact Effect.provider row htarget haccepted hnode hnewer hinventories hstate

theorem find?_nodeId (h : NodesNamed t) (nodeId : String) :
    t.providers.rows.find? (fun row => row.nodeId = nodeId) = t.providers.get? nodeId := by
  refine t.providers.find?_eq_get? ?_
  intro row hrow
  rw [h row hrow]

variable {onConflict : String → String}

theorem upsertProvider_ok (hnodes : NodesNamed t) {state id : String}
    (h : upsertProvider nodeId state onConflict t = .ok (id, t')) :
    id = nodeId ∧ t' = t.putProvider (upserted t nodeId state onConflict) := by
  simp only [upsertProvider, get_bind_apply, find?_nodeId hnodes] at h
  unfold upserted
  cases hget : t.providers.get? nodeId with
  | some row =>
    rw [hget] at h
    obtain ⟨_, t₁, hwrite, hpure⟩ := bind_eq_ok.mp h
    cases hpure
    exact ⟨t.providers.key_of_get? hget, writeProvider_ok hwrite⟩
  | none =>
    rw [hget] at h
    obtain ⟨_, hrest⟩ := require_bind_eq_ok.mp h
    obtain ⟨_, t₁, hwrite, hpure⟩ := bind_eq_ok.mp hrest
    cases hpure
    exact ⟨rfl, writeProvider_ok hwrite⟩

theorem upserted_id (t : Tables R) (nodeId state : String) (onConflict : String → String) :
    (upserted t nodeId state onConflict).id = nodeId := by
  unfold upserted
  cases hget : t.providers.get? nodeId with
  | none => rfl
  | some row =>
    have hid : row.id = nodeId := t.providers.key_of_get? hget
    exact hid

/-- The transaction of a registration or report up to the inventories. -/
def publish (nodeId state : String) (onConflict : String → String)
    (inventories : List (PlacementInventoryRecord R)) :
    Body R String := do
  let id ← upsertProvider nodeId state onConflict
  writeInventories id inventories
  return id

variable {inventories : List (PlacementInventoryRecord R)}

theorem publish_ok (hnodes : NodesNamed t) {state id : String}
    (h : publish nodeId state onConflict inventories t = .ok (id, t')) :
    id = nodeId ∧
      t' = t.putProvider
        ((upserted t nodeId state onConflict).withInventories
          (upsertInventories (t.inventoriesOf nodeId) inventories)) := by
  obtain ⟨stored, t₁, hupsert, hrest⟩ := bind_eq_ok.mp h
  obtain ⟨_, t₂, hwrite, hpure⟩ := bind_eq_ok.mp hrest
  cases hpure
  obtain ⟨hstored, ht₁⟩ := upsertProvider_ok hnodes hupsert
  subst hstored ht₁
  have hid := upserted_id t id state onConflict
  have hinventories :
      (upserted t id state onConflict).inventories = t.inventoriesOf id := by
    unfold upserted inventoriesOf
    cases t.providers.get? id <;> rfl
  refine ⟨rfl, ?_⟩
  cases hwrite
  simp only [modifyProvider_of_some (t.get?_putProvider hid)]
  rw [hinventories]
  exact t.putProvider_putProvider rfl

variable {old : ProviderRow Int R}

theorem published_of_stored
    (hnodes : NodesNamed t) (hget : t.providers.get? providerId = some old) (hid : row.id = old.id)
    (hnode : row.nodeId = old.nodeId) (hnewer : old.generation < row.generation)
    (hinventories : row.inventories = upsertInventories old.inventories c.reported)
    (hstate : row.state = writtenState c (some old.state)) :
    Published t c providerId row := by
  have hkey : old.id = providerId := t.providers.key_of_get? hget
  constructor
  · exact hid.trans hkey
  · exact (hnode.trans (hnodes old (t.providers.mem_of_get? hget))).trans hkey
  · intro old' hold'
    rw [hget] at hold'
    cases hold'
    exact hnewer
  · rw [inventoriesOf, hget]
    exact hinventories
  · rw [providerState, hget]
    exact hstate

theorem published_of_publish (hnodes : NodesNamed t) {state : String}
    (hstate :
      ((t.providerState nodeId).map onConflict).getD state =
      writtenState c (t.providerState nodeId)) :
    Published t c nodeId
      ((upserted t nodeId state onConflict).withInventories
        (upsertInventories (t.inventoriesOf nodeId) c.reported)) := by
  rw [providerState] at hstate
  cases hget : t.providers.get? nodeId with
  | none =>
    simp only [hget, Option.map_none, Option.getD_none] at hstate
    have hrow : upserted t nodeId state onConflict = .fresh nodeId state 1 := by
      simp [upserted, hget]
    rw [hrow]
    constructor
    · rfl
    · rfl
    · exact fun old hold => by cases hold.symm.trans hget
    · rfl
    · rw [providerState, hget]
      exact hstate
  | some row =>
    simp only [hget, Option.map_some, Option.getD_some] at hstate
    have hrow :
        upserted t nodeId state onConflict = (row.withState (onConflict row.state)).bump := by
      simp [upserted, hget]
    have hinventories : t.inventoriesOf nodeId = row.inventories := by
      simp [inventoriesOf, hget]
    rw [hrow]
    refine published_of_stored hnodes hget rfl rfl ?_ ?_ hstate
    · simp
    · simp [hinventories]

variable {metadata : ProviderMetadata}

theorem writeMetadata_ok {generation : Int}
    (h : writeMetadata providerId generation metadata t = .ok ((), t')) :
    ∃ row,
      t.providers.get? providerId = some row ∧
        t' = t.putProvider (row.withMetadata metadata).bump := by
  simp only [writeMetadata, get_bind_apply] at h
  cases hfilter :
      (t.providers.get? providerId).filter (fun row => row.generation = generation) with
  | none =>
    rw [hfilter] at h
    cases h
  | some row =>
    rw [hfilter] at h
    exact ⟨row, (Option.filter_eq_some_iff.mp hfilter).1, writeProvider_ok h⟩

theorem registerProviderMetadataBody_ok {id : String} (hnodes : NodesNamed t)
    (h : registerProviderMetadataBody nodeId inventories metadata t = .ok (id, t')) :
    ∃ row,
      Published t (.registerProviderMetadata nodeId inventories metadata) nodeId row ∧
        (metadata.parentProviderId ≠ some nodeId →
          checkHierarchy t nodeId metadata.parentProviderId = .ok ()) ∧
        t' = t.putProvider row := by
  obtain ⟨stored, t₁, hupsert, h₁⟩ := bind_eq_ok.mp h
  obtain ⟨_, t₂, hwrite, h₂⟩ := bind_eq_ok.mp h₁
  have hpublish : publish nodeId "Enabled" registeredState inventories t = .ok (stored, t₂) :=
    bind_eq_ok.mpr ⟨stored, t₁, hupsert, bind_eq_ok.mpr ⟨_, t₂, hwrite, rfl⟩⟩
  obtain ⟨rfl, rfl⟩ := publish_ok hnodes hpublish
  have hpublished :
      Published t (.registerProviderMetadata stored inventories metadata) stored
        ((upserted t stored "Enabled" registeredState).withInventories
          (upsertInventories (t.inventoriesOf stored) inventories)) :=
    published_of_publish hnodes (by cases t.providerState stored <;> rfl)
  generalize
    (upserted t stored "Enabled" registeredState).withInventories
      (upsertInventories (t.inventoriesOf stored) inventories) = row at hpublished h₂
  rw [get_bind_apply] at h₂
  obtain ⟨_, _, h₃⟩ := orFail_bind_eq_ok.mp h₂
  obtain ⟨_, haccepted, h₄⟩ := fromExcept_bind_eq_ok.mp h₃
  obtain ⟨_, t₃, hmetadata, hpure⟩ := bind_eq_ok.mp h₄
  cases hpure
  obtain ⟨row', hget', rfl⟩ := writeMetadata_ok hmetadata
  rw [t.get?_putProvider hpublished.id] at hget'
  cases hget'
  refine ⟨(row.withMetadata metadata).bump, ?_, ?_, t.putProvider_putProvider (by simp)⟩
  rotate_left
  · intro hparent
    rw [← hpublished.id] at hparent haccepted ⊢
    rw [← checkHierarchy_putProvider t hparent]
    exact haccepted
  constructor
  · simpa using hpublished.id
  · simpa using hpublished.node
  · intro old hold
    have hnewer := hpublished.newer old hold
    simp only [ProviderRow.bump_generation, ProviderRow.withMetadata_generation]
    omega
  · simpa using hpublished.inventories
  · simpa using hpublished.state

variable {generation : Nat}

theorem updateProviderMetadataBody_ok
    (h : updateProviderMetadataBody providerId generation metadata t = .ok ((), t')) :
    ∃ row,
      t.providers.get? providerId = some row ∧
        t' = t.putProvider (row.withMetadata metadata).bump := by
  simp only [updateProviderMetadataBody, get_bind_apply] at h
  obtain ⟨_, _, h₁⟩ := orFail_bind_eq_ok.mp h
  obtain ⟨_, h₂⟩ := require_bind_eq_ok.mp h₁
  obtain ⟨_, _, h₃⟩ := fromExcept_bind_eq_ok.mp h₂
  obtain ⟨_, h₄⟩ := require_bind_eq_ok.mp h₃
  exact writeMetadata_ok h₄

theorem refreshInventoriesBody_ok
    (h : refreshInventoriesBody providerId generation inventories t = .ok ((), t')) :
    ∃ row,
      t.providers.get? providerId = some row ∧ row.generation = asI64 generation ∧
        t' = t.putProvider
          (row.bump.withInventories (upsertInventories row.inventories inventories)) := by
  simp only [refreshInventoriesBody, get_bind_apply] at h
  obtain ⟨row, hget, h₁⟩ := orFail_bind_eq_ok.mp h
  obtain ⟨hgeneration, h₂⟩ := require_bind_eq_ok.mp h₁
  obtain ⟨_, t₁, hbump, hwrite⟩ := bind_eq_ok.mp h₂
  have ht₁ := writeProvider_ok hbump
  subst ht₁
  have hid : row.id = providerId := t.providers.key_of_get? hget
  have hid' : row.bump.id = providerId := hid
  refine ⟨row, hget, hgeneration, ?_⟩
  cases hwrite
  simp only [modifyProvider_of_some (t.get?_putProvider hid')]
  exact t.putProvider_putProvider rfl

theorem setProviderStateBody_ok {providerId state : String}
    (h : setProviderStateBody providerId state t = .ok ((), t')) :
    ∃ row,
      t.providers.get? providerId = some row ∧ t' = t.putProvider (row.withState state).bump := by
  simp only [setProviderStateBody, get_bind_apply] at h
  obtain ⟨row, hget, h₁⟩ := orFail_bind_eq_ok.mp h
  exact ⟨row, hget, writeProvider_ok h₁⟩

theorem updateUsed_ok {op : Int → Int → Int} {resource : ResourceRow Int}
    (h : updateUsed op providerId resource t = .ok ((), t')) :
    t' = t.modifyProvider providerId (fun row => row.applyUsed op [resource]) :=
  updateProvider_ok h

theorem forEach_updateUsed_ok {op : Int → Int → Int} {resources : List (ResourceRow Int)}
    (h : forEach (updateUsed op providerId) resources t = .ok ((), t')) :
    t' = t.modifyProvider providerId (fun row => row.applyUsed op resources) := by
  induction resources generalizing t with
  | nil =>
    have hsame : t' = t := by
      cases h
      rfl
    subst hsame
    cases hget : t'.providers.get? providerId with
    | none => rw [modifyProvider_of_none hget]
    | some row =>
      rw [modifyProvider_of_some hget]
      exact (putProvider_self hget).symm
  | cons resource rest ih =>
    obtain ⟨_, t₁, hone, hrest⟩ := bind_eq_ok.mp h
    have ht₁ := updateUsed_ok hone
    have ht' := ih hrest
    cases hget : t.providers.get? providerId with
    | none =>
      rw [modifyProvider_of_none hget] at ht₁
      subst ht₁
      rw [ht', modifyProvider_of_none hget, modifyProvider_of_none hget]
    | some row =>
      rw [modifyProvider_of_some hget] at ht₁
      subst ht₁
      have hid : (row.applyUsed op [resource]).id = providerId := by
        simpa using t.providers.key_of_get? hget
      rw [ht', t.modifyProvider_putProvider hid (by simp), modifyProvider_of_some hget]
      rfl

theorem commitResource_ok {resource : PlacementResourceRecord} {row : AllocationRow Int}
    (hold : old.id = providerId)
    (h :
      commitResource providerId row.id resource
        ((t.putProvider old).putAllocation row) = .ok ((), t')) :
    t' =
      (t.putProvider
        (old.applyUsed (· + ·) [⟨resource.resourceClass, asI64 resource.amount⟩])).putAllocation
        (row.putResource ⟨resource.resourceClass, asI64 resource.amount⟩) := by
  obtain ⟨_, t₁, hupsert, hused⟩ := bind_eq_ok.mp h
  have ht' := updateUsed_ok hused
  cases hupsert
  simp only [PlacementTables.get?_putAllocation _ (rfl : row.id = row.id)] at ht'
  rw [ht', PlacementTables.putAllocation_putAllocation _ (by simp),
    modifyProvider_putAllocation, t.modifyProvider_putProvider hold (by simp)]

theorem forEach_commitResource_ok {resources : List PlacementResourceRecord}
    (row : AllocationRow Int) (hold : old.id = providerId)
    (h :
      forEach (commitResource providerId row.id) resources
        ((t.putProvider old).putAllocation row) = .ok ((), t')) :
    t' =
      (t.putProvider (old.applyUsed (· + ·) (resourceRows resources))).putAllocation
        ((resourceRows resources).foldl AllocationRow.putResource row) := by
  induction resources generalizing old row with
  | nil =>
    cases h
    rfl
  | cons resource rest ih =>
    obtain ⟨_, t₁, hone, hrest⟩ := bind_eq_ok.mp h
    have ht₁ := commitResource_ok hold hone
    subst ht₁
    exact ih _ (by simpa using hold) hrest

theorem foldl_putResource (row : AllocationRow Int) (resources : List (ResourceRow Int)) :
    resources.foldl AllocationRow.putResource row =
    { row with resources := resources.foldl Table.put row.resources } := by
  induction resources generalizing row with
  | nil => rfl
  | cons resource rest ih => exact ih _

theorem commitAllocationBody_ok {allocation committed : PlacementAllocationRecord}
    (h : commitAllocationBody providerId generation allocation t = .ok (committed, t')) :
    Effect t (.commitAllocation providerId generation allocation) t' := by
  simp only [commitAllocationBody, get_bind_apply] at h
  cases hexisting : t.allocations.get? allocation.id with
  | some existing =>
    rw [hexisting] at h
    obtain ⟨_, hpure⟩ := require_bind_eq_ok.mp h
    cases hpure
    exact Effect.unchanged _
  | none =>
    rw [hexisting] at h
    obtain ⟨old, hget, h₁⟩ := orFail_bind_eq_ok.mp h
    obtain ⟨hgeneration, h₂⟩ := require_bind_eq_ok.mp h₁
    rw [set_bind_apply] at h₂
    obtain ⟨_, t₁, hloop, h₃⟩ := bind_eq_ok.mp h₂
    obtain ⟨_, t₂, hbump, hpure⟩ := bind_eq_ok.mp h₃
    cases hpure
    have hid : old.id = providerId := t.providers.key_of_get? hget
    rw [← putProvider_self hget] at hloop
    have ht₁ :=
      forEach_commitResource_ok
        ⟨allocation.id, providerId, allocation.consumerId, ∅⟩ hid hloop
    rw [foldl_putResource] at ht₁
    subst ht₁
    have hid' :
        (old.applyUsed (· + ·) (resourceRows allocation.resources)).id = providerId := by
      simpa using hid
    have ht' := updateProvider_ok hbump
    rw [modifyProvider_putAllocation, t.modifyProvider_putProvider hid' (by simp)] at ht'
    rw [ht']
    exact Effect.committed old hexisting hget hgeneration

theorem releaseAllocationBody_ok {providerId allocationId : String}
    (h : releaseAllocationBody providerId allocationId t = .ok ((), t')) :
    Effect t (.releaseAllocation providerId allocationId) t' := by
  simp only [releaseAllocationBody, get_bind_apply] at h
  obtain ⟨old, hget, h₁⟩ := orFail_bind_eq_ok.mp h
  cases hfilter :
      (t.allocations.get? allocationId).filter
        (fun row => row.providerId = providerId && !row.resources.rows.isEmpty) with
  | none =>
    rw [hfilter] at h₁
    cases h₁
    exact Effect.unchanged _
  | some existing =>
    rw [hfilter] at h₁
    obtain ⟨hexisting, hkept⟩ := Option.filter_eq_some_iff.mp hfilter
    obtain ⟨rfl, _⟩ : existing.providerId = providerId ∧ _ := by
      simpa using hkept
    obtain ⟨_, t₁, hloop, h₂⟩ := bind_eq_ok.mp h₁
    have hid : old.id = existing.providerId := t.providers.key_of_get? hget
    have ht₁ := forEach_updateUsed_ok hloop
    rw [modifyProvider_of_some hget] at ht₁
    subst ht₁
    rw [modify_bind_apply] at h₂
    have ht' := updateProvider_ok h₂
    rw [PlacementTables.modifyProvider_deleteAllocation,
      t.modifyProvider_putProvider (by simpa using hid) (by simp)] at ht'
    rw [ht']
    exact Effect.released old existing hget hexisting

theorem upsertIntentBody_ok {intent stored : PlacementIntentRecord}
    (h : upsertIntentBody intent t = .ok (stored, t')) :
    ∃ row, t' = t.putIntent row := by
  simp only [upsertIntentBody, get_bind_apply] at h
  obtain ⟨_, _, h₁⟩ := orFail_bind_eq_ok.mp h
  obtain ⟨_, _, h₂⟩ := fromExcept_bind_eq_ok.mp h₁
  cases h₂
  exact ⟨_, rfl⟩

def released (row : AllocationRow Int) (t : Tables R) : Tables R :=
  (t.modifyProvider row.providerId
    (fun provider => provider.applyUsed (· - ·) row.resources.rows)).deleteAllocation row.id

theorem releaseOrphan_ok {row : AllocationRow Int} (h : releaseOrphan row t = .ok ((), t')) :
    t' = released row t := by
  obtain ⟨_, t₁, hloop, hdelete⟩ := bind_eq_ok.mp h
  have ht₁ := forEach_updateUsed_ok hloop
  subst ht₁
  cases hdelete
  rfl

theorem foldl_released (rows : List (AllocationRow Int)) (t : Tables R) :
    let t' := rows.foldl (fun t row => released row t) t
    t'.allocations
        = rows.foldl
            (fun allocations row =>
              allocations.deleteWhere (fun r => decide (r.id = row.id)))
            t.allocations ∧
      t'.intents = t.intents ∧
      t'.resources = t.resources ∧
      ∀ k, t'.providers.get? k =
        (t.providers.get? k).map (fun provider =>
          provider.applyUsed (· - ·)
            ((rows.filter (fun row => row.providerId = k)).flatMap
              (fun row => row.resources.rows))) := by
  induction rows generalizing t with
  | nil =>
    refine ⟨rfl, rfl, rfl, ?_⟩
    intro k
    exact Option.map_id'.symm
  | cons row rest ih =>
    obtain ⟨hallocations, hintents, hresources, hproviders⟩ := ih (released row t)
    have htables := t.modifyProvider_tables row.providerId
      (fun provider => provider.applyUsed (· - ·) row.resources.rows)
    refine ⟨?_, ?_, ?_, ?_⟩
    · rw [List.foldl_cons, List.foldl_cons, hallocations, released,
        PlacementTables.deleteAllocation_allocations, htables.1]
    · rw [List.foldl_cons, hintents]
      exact htables.2.1
    · rw [List.foldl_cons, hresources]
      exact htables.2.2
    · intro k
      rw [List.foldl_cons, hproviders k, released,
        PlacementTables.deleteAllocation_providers,
        t.get?_modifyProvider row.providerId (by simp), Option.map_map]
      cases hget : t.providers.get? k with
      | none => rfl
      | some provider =>
        have hid : provider.id = k := t.providers.key_of_get? hget
        by_cases hk : row.providerId = k
        · simp [hid, hk, ProviderRow.applyUsed_append]
        · simp [hid, hk, Ne.symm hk]

theorem reconcileConsumersBody_ok {durableConsumerIds : List String}
    {report : PlacementReconcileRecord}
    (h : reconcileConsumersBody durableConsumerIds t = .ok (report, t')) :
    report.orphanedAllocations = (orphaned t durableConsumerIds).map (AllocationRow.record asU64) ∧
      Effect t (.reconcileConsumers durableConsumerIds) t' := by
  simp only [reconcileConsumersBody, get_bind_apply] at h
  obtain ⟨_, t₁, hloop, h₁⟩ := bind_eq_ok.mp h
  obtain ⟨_, t₂, hintents, hpure⟩ := bind_eq_ok.mp h₁
  rw [forEach_modify] at hintents
  cases hpure
  have ht₁ := forEach_ok released (fun _ _ _ => releaseOrphan_ok) hloop
  subst ht₁
  obtain ⟨hallocations, _, hresources, hproviders⟩ :=
    foldl_released (orphaned t durableConsumerIds) t
  have hkept := PlacementTables.foldl_deleteIntent_tables (abandoned t durableConsumerIds)
    ((orphaned t durableConsumerIds).foldl (fun t row => released row t) t)
  cases hintents
  refine ⟨rfl, Effect.reconciled _ ?_ ?_ ?_⟩
  · rw [hkept.2.1, hallocations, t.allocations.foldl_delete, orphaned,
      t.allocations.deleteWhere_mem_keys]
  · rw [hkept.2.2, hresources]
  · intro k
    rw [hkept.1, hproviders k]
    rfl

theorem effect_atomically {α : Type} {t : Tables R} {c : RepositoryCall R} {body : Body R α}
    (h : ∀ a t', body t = .ok (a, t') → Effect t c t') :
    Effect t c (atomically body t).2 :=
  atomically_rel (Effect t c) (Effect.unchanged _) h

/-- **Inversion**: every call leaves one of the listed effects behind. -/
theorem effect_step (hnodes : NodesNamed t) (c : RepositoryCall R) : Effect t c (step t c) := by
  cases c with
  | getProvider | listProviders | getIntent => exact Effect.unchanged _
  | registerProvider nodeId inventories =>
    simp only [step, exec, registerProvider, thenProviderOf_snd]
    refine effect_atomically fun id t' h => ?_
    obtain ⟨rfl, rfl⟩ := publish_ok hnodes h
    refine Published.effect (published_of_publish hnodes ?_) rfl trivial
    cases t.providerState id <;> rfl
  | registerProviderMetadata nodeId inventories metadata =>
    simp only [step, exec, registerProviderMetadata]
    split
    · exact Effect.unchanged _
    · rw [thenProviderOf_snd]
      refine effect_atomically fun id t' h => ?_
      rename_i hvalid
      obtain ⟨row, hpublished, haccepted, rfl⟩ := registerProviderMetadataBody_ok hnodes h
      refine hpublished.effect rfl ⟨Bool.not_eq_true _ ▸ hvalid, haccepted ?_⟩
      intro hparent
      simp [invalidMetadata, hparent] at hvalid
  | updateProviderMetadata providerId generation metadata =>
    simp only [step, exec, updateProviderMetadata]
    split
    · exact Effect.unchanged _
    · rw [thenProvider_snd]
      refine effect_atomically fun _ t' h => ?_
      obtain ⟨row, hget, rfl⟩ := updateProviderMetadataBody_ok h
      exact Published.effect
        (published_of_stored hnodes hget rfl rfl (Int.lt_succ _) rfl rfl) rfl trivial
  | syncProvider nodeId state inventories =>
    simp only [step, exec, syncProvider, thenProviderOf_snd]
    refine effect_atomically fun id t' h => ?_
    obtain ⟨rfl, rfl⟩ := publish_ok hnodes h
    refine Published.effect (published_of_publish hnodes ?_) rfl trivial
    cases t.providerState id with
    | none => simp [writtenState, syncedState]
    | some stored => rfl
  | refreshInventories providerId generation inventories =>
    simp only [step, exec, refreshInventories, thenProvider_snd]
    refine effect_atomically fun _ t' h => ?_
    obtain ⟨row, hget, hgeneration, rfl⟩ := refreshInventoriesBody_ok h
    exact Published.effect
      (published_of_stored hnodes hget rfl rfl (Int.lt_succ _) rfl rfl) rfl
      ⟨row, hget, hgeneration⟩
  | setProviderState providerId state =>
    refine effect_atomically fun _ t' h => ?_
    obtain ⟨row, hget, rfl⟩ := setProviderStateBody_ok h
    exact Published.effect
      (published_of_stored hnodes hget rfl rfl (Int.lt_succ _) rfl rfl) rfl trivial
  | commitAllocation providerId generation allocation =>
    exact effect_atomically fun _ _ h => commitAllocationBody_ok h
  | releaseAllocation providerId allocationId =>
    exact effect_atomically fun _ _ h => releaseAllocationBody_ok h
  | upsertIntent intent =>
    refine effect_atomically fun _ t' h => ?_
    obtain ⟨row, rfl⟩ := upsertIntentBody_ok h
    exact Effect.intentStored row
  | deleteIntent allocationId => exact Effect.intentDeleted allocationId
  | reconcileConsumers durableConsumerIds =>
    exact effect_atomically fun _ _ h => (reconcileConsumersBody_ok h).2

theorem Effect.nodesNamed (hnodes : NodesNamed t) (h : Effect t c t') : NodesNamed t' := by
  have hput :
      ∀ row : ProviderRow Int R, row.nodeId = row.id → NodesNamed (t.putProvider row) := by
    intro row hrow row' hrow'
    rcases t.providers.mem_put.mp hrow' with rfl | ⟨hmem, _⟩
    · exact hrow
    · exact hnodes row' hmem
  cases h with
  | unchanged | intentStored | intentDeleted => exact hnodes
  | provider row htarget haccepted hnode hnewer hinventories hstate => exact hput row hnode
  | committed old habsent hold hgeneration =>
    exact hput _ (by simpa using hnodes old (t.providers.mem_of_get? hold))
  | released old existing hold hexisting =>
    exact hput _ (by simpa using hnodes old (t.providers.mem_of_get? hold))
  | reconciled t' hallocations hresources hproviders =>
    intro row' hrow'
    have hget := hproviders row'.id
    rw [t'.providers.get?_key_of_mem hrow'] at hget
    obtain ⟨row, hrow, heq⟩ := Option.map_eq_some_iff.mp hget.symm
    rw [← heq]
    simpa using hnodes row (t.providers.mem_of_get? hrow)

theorem nodesNamed_act (hnodes : NodesNamed t) (a : StoreAction R) : NodesNamed (act a t) := by
  cases a with
  | call c => exact (effect_step hnodes c).nodesNamed hnodes
  | writeResources rows => exact hnodes

end Postgres
end Placement
end O3k
