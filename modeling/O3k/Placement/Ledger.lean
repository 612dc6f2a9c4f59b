import O3k.Placement.Hierarchy
import O3k.Semantics.Program

/-!
# The placement ledger

`PlacementLedger` holds no state of its own: its methods are programs over the
repository, with the checks made between the calls.  The capacity of an
inventory is the floor of a floating-point product in the source; here it is a
given function of the total and the allocation ratio.
-/

namespace O3k
namespace Placement

open Relational Semantics

variable {R : Type}

inductive ProviderState
  | enabled
  | draining
  | unavailable
  | deleted
  deriving DecidableEq

inductive PlacementError
  | notFound
  | staleGeneration
  | notSchedulable
  | overCapacity
  | invalidAllocation
  | corrupt
  | constraintLimit
  | store (error : StoreError)
  deriving DecidableEq

/-- A `BTreeMap<String, u64>` of requested amounts. -/
abbrev ResourceMap := Resources Nat

structure Allocation where
  providerId : String
  consumerId : String
  resources : ResourceMap
  deriving DecidableEq

structure AllocationIntent where
  providerId : String
  allocationId : String
  consumerId : String
  resources : ResourceMap
  deriving DecidableEq

/-- A `BTreeMap<String, Allocation>`. -/
abbrev AllocationMap := Table (Prod.fst : String × Allocation → String)

structure ResourceProvider (R : Type) where
  id : String
  nodeId : String
  state : ProviderState
  generation : Nat
  inventories : Inventories Nat R
  allocations : AllocationMap
  parentProviderId : Option String
  traits : StringSet
  failureDomains : StringSet
  location : Option String

def mapStoreError : StoreError → PlacementError
  | .placementProviderNotFound => .notFound
  | .placementStaleGeneration => .staleGeneration
  | .placementAllocationConflict => .invalidAllocation
  | .placementIntentConflict => .invalidAllocation
  | other => .store other

def providerStateAsStr : ProviderState → String
  | .enabled => "Enabled"
  | .draining => "Draining"
  | .unavailable => "Unavailable"
  | .deleted => "Deleted"

def providerStateFromStr (value : String) : Option ProviderState :=
  if value = "Enabled" then some .enabled
  else if value = "Draining" then some .draining
  else if value = "Unavailable" then some .unavailable
  else if value = "Deleted" then some .deleted
  else none

theorem providerStateFromStr_asStr (state : ProviderState) :
    providerStateFromStr (providerStateAsStr state) = some state := by
  cases state <;> decide

theorem providerStateFromStr_eq_some_iff {value : String} {state : ProviderState} :
    providerStateFromStr value = some state ↔ value = providerStateAsStr state := by
  constructor
  · intro h
    unfold providerStateFromStr at h
    split_ifs at h with h₁ h₂ h₃ h₄
    · cases h
      exact h₁
    · cases h
      exact h₂
    · cases h
      exact h₃
    · cases h
      exact h₄
  · rintro rfl
    exact providerStateFromStr_asStr state

def inventoryMap (records : List (PlacementInventoryRecord R)) : Inventories Nat R :=
  Table.ofList
    (records.map (fun record =>
      ⟨record.resourceClass, record.total, record.reserved, record.allocationRatio, record.used⟩))

def resourceMap (records : List PlacementResourceRecord) : ResourceMap :=
  Table.ofList (records.map (fun record => ⟨record.resourceClass, record.amount⟩))

def resourceRecords (resources : ResourceMap) : List PlacementResourceRecord :=
  resources.rows.map (fun row => ⟨row.resourceClass, row.amount⟩)

def allocationFromRecord (record : PlacementAllocationRecord) : Allocation :=
  ⟨record.providerId, record.consumerId, resourceMap record.resources⟩

def intentFromRecord (record : PlacementIntentRecord) : AllocationIntent :=
  ⟨record.providerId, record.id, record.consumerId, resourceMap record.resources⟩

def intentToRecord (intent : AllocationIntent) : PlacementIntentRecord :=
  ⟨intent.allocationId, intent.providerId, intent.consumerId, resourceRecords intent.resources⟩

theorem inventoryMap_record (inventories : Inventories Nat R) :
    inventoryMap (inventories.rows.map (InventoryRow.record id)) = inventories := by
  rw [inventoryMap, List.map_map]
  exact (congrArg Table.ofList (List.map_id _)).trans inventories.ofList_rows

theorem resourceMap_record (resources : ResourceMap) :
    resourceMap (resources.rows.map (ResourceRow.record id)) = resources := by
  rw [resourceMap, List.map_map]
  exact (congrArg Table.ofList (List.map_id _)).trans resources.ofList_rows

def providerFromRecord (record : PlacementProviderRecord R) :
    Except PlacementError (ResourceProvider R) :=
  match providerStateFromStr record.state with
  | none => .error .corrupt
  | some state =>
    .ok
      { id := record.id
        nodeId := record.nodeId
        state := state
        generation := record.generation
        inventories := inventoryMap record.inventories
        allocations :=
          Table.ofList
            (record.allocations.map (fun allocation =>
              (allocation.id, allocationFromRecord allocation)))
        parentProviderId := record.parentProviderId
        traits := StringSet.ofList record.traits
        failureDomains := StringSet.ofList record.failureDomains
        location := record.location }

abbrev LedgerProgram (R : Type) : Type → Type := Program (RepositoryCall R) RepositoryCall.Reply

abbrev ask (c : RepositoryCall R) : LedgerProgram R c.Reply := Program.perform c

/-- The conditions on a request that need no store. -/
def invalidRequest (allocationId consumerId : String) (resources : ResourceMap) : Bool :=
  allocationId.isEmpty || consumerId.isEmpty || resources.rows.isEmpty ||
    resources.rows.any (fun row => row.amount = 0)

namespace PlacementLedger

def provider (providerId : String) : LedgerProgram R (Except PlacementError (ResourceProvider R)) := do
  match ← ask (.getProvider providerId) with
  | .error e => return .error (mapStoreError e)
  | .ok none => return .error .notFound
  | .ok (some record) => return providerFromRecord record

def providers : LedgerProgram R (Except PlacementError (List (ResourceProvider R))) := do
  match ← ask .listProviders with
  | .error e => return .error (mapStoreError e)
  | .ok records => return records.mapM providerFromRecord

def beginAllocationIntent (providerId allocationId consumerId : String) (resources : ResourceMap) :
    LedgerProgram R (Except PlacementError AllocationIntent) := do
  if providerId.isEmpty || invalidRequest allocationId consumerId resources then
    return .error .invalidAllocation
  else
    let intent := ⟨providerId, allocationId, consumerId, resources⟩
    match ← ask (.upsertIntent (intentToRecord intent)) with
    | .error e => return .error (mapStoreError e)
    | .ok _ => return .ok intent

def allocationIntent (allocationId : String) : LedgerProgram R (Except PlacementError (Option AllocationIntent)) := do
  match ← ask (.getIntent allocationId) with
  | .error e => return .error (mapStoreError e)
  | .ok stored => return .ok (stored.map intentFromRecord)

section Capacity

variable (capacity : Nat → R → Nat)

/-- `Inventory::available`. -/
def available (inventory : InventoryRow Nat R) : Nat :=
  capacity inventory.total inventory.allocationRatio - inventory.reserved - inventory.used

/-- The decision of `allocate` on the provider it has read: give back an equal
allocation, refuse, or (`none`) go on to the commit. -/
def allocateDecision (record : PlacementProviderRecord R) (allocationId consumerId : String)
    (resources : ResourceMap) (generation : Nat) :
    Except PlacementError (Option Allocation) :=
  match record.allocations.find? (fun allocation => allocation.id = allocationId) with
  | some existing =>
    let allocation := allocationFromRecord existing
    if allocation.consumerId = consumerId ∧ allocation.resources = resources then
      .ok (some allocation)
    else
      .error .invalidAllocation
  | none =>
    if record.generation ≠ generation then
      .error .staleGeneration
    else if providerStateFromStr record.state ≠ some .enabled then
      .error .notSchedulable
    else if
      resources.rows.any (fun row =>
        ((inventoryMap record.inventories).get? row.resourceClass).all (fun inventory =>
          decide (available capacity inventory < row.amount)))
    then
      .error .overCapacity
    else
      .ok none

variable {record : PlacementProviderRecord R} {resources : ResourceMap}

theorem allocateDecision_eq_ok_none_iff {allocationId consumerId : String} {generation : Nat} :
    allocateDecision capacity record allocationId consumerId resources generation = .ok none ↔
    (∀ allocation ∈ record.allocations, allocation.id ≠ allocationId) ∧
      record.generation = generation ∧
      record.state = "Enabled" ∧
      ∀ row ∈ resources.rows, ∃ inventory,
        (inventoryMap record.inventories).get? row.resourceClass = some inventory ∧
          row.amount ≤ available capacity inventory := by
  have henabled :
      providerStateFromStr record.state = some .enabled ↔ record.state = "Enabled" :=
    providerStateFromStr_eq_some_iff
  unfold allocateDecision
  cases hfind :
      record.allocations.find? (fun allocation => allocation.id = allocationId) with
  | some existing =>
    have hid := List.find?_some hfind
    have hmem := List.mem_of_find?_eq_some hfind
    constructor
    · intro h
      simp only at h
      split at h
      · cases h
      · cases h
    · rintro ⟨habsent, _⟩
      exact absurd (of_decide_eq_true hid) (habsent existing hmem)
  | none =>
    have habsent :
        ∀ allocation ∈ record.allocations, allocation.id ≠ allocationId := by
      simpa using hfind
    simp only
    split_ifs with hgeneration hstate hfits
    · simp [hgeneration]
    · simp [henabled.not.mp hstate]
    · obtain ⟨row, hrow, hover⟩ := List.any_eq_true.mp hfits
      constructor
      · exact fun h => by cases h
      · rintro ⟨_, _, _, hroom⟩
        obtain ⟨inventory, hget, hamount⟩ := hroom row hrow
        rw [hget] at hover
        exact absurd (of_decide_eq_true hover) (not_lt.mpr hamount)
    · refine ⟨fun _ => ⟨habsent, not_not.mp hgeneration, ?_, ?_⟩, fun _ => rfl⟩
      · exact henabled.mp (not_not.mp hstate)
      · intro row hrow
        have hroom := List.any_eq_false.mp (Bool.not_eq_true _ ▸ hfits) row hrow
        cases hget : (inventoryMap record.inventories).get? row.resourceClass with
        | none =>
          rw [hget] at hroom
          exact absurd rfl hroom
        | some inventory =>
          rw [hget] at hroom
          refine ⟨inventory, rfl, not_lt.mp ?_⟩
          simpa using hroom

theorem allocateDecision_eq_ok_some {allocationId consumerId : String} {generation : Nat}
    {allocation : Allocation}
    (h :
      allocateDecision capacity record allocationId consumerId resources generation
        = .ok (some allocation)) :
    ∃ existing ∈ record.allocations,
      existing.id = allocationId ∧ allocation = allocationFromRecord existing ∧
        allocation.consumerId = consumerId ∧
        allocation.resources = resources := by
  unfold allocateDecision at h
  split at h
  · rename_i existing hfind
    simp only at h
    split at h
    · rename_i hequal
      cases h
      have hid := List.find?_some hfind
      exact ⟨existing, List.mem_of_find?_eq_some hfind, of_decide_eq_true hid, rfl, hequal⟩
    · cases h
  · split_ifs at h
    cases h

/-- Without another allocation under the id, an allocation is refused for its
generation, the state or the capacity. -/
theorem allocateDecision_eq_error {allocationId consumerId : String} {generation : Nat}
    {e : PlacementError}
    (hequal :
      ∀ existing ∈ record.allocations, existing.id = allocationId →
        (allocationFromRecord existing).consumerId = consumerId ∧
          (allocationFromRecord existing).resources = resources)
    (h : allocateDecision capacity record allocationId consumerId resources generation = .error e) :
    e = .staleGeneration ∨ e = .notSchedulable ∨ e = .overCapacity := by
  unfold allocateDecision at h
  split at h
  · rename_i existing hfind
    have hid := List.find?_some hfind
    have hmem := List.mem_of_find?_eq_some hfind
    simp only [if_pos (hequal existing hmem (of_decide_eq_true hid))] at h
    cases h
  · split_ifs at h
    · cases h
      exact Or.inl rfl
    · cases h
      exact Or.inr (Or.inl rfl)
    · cases h
      exact Or.inr (Or.inr rfl)

def allocate
    (providerId allocationId consumerId : String) (resources : ResourceMap) (generation : Nat) :
    LedgerProgram R (Except PlacementError Allocation) := do
  if invalidRequest allocationId consumerId resources then
    return .error .invalidAllocation
  else
    match ← ask (.getProvider providerId) with
    | .error e => return .error (mapStoreError e)
    | .ok none => return .error .notFound
    | .ok (some record) =>
      match allocateDecision capacity record allocationId consumerId resources generation with
      | .error e => return .error e
      | .ok (some allocation) => return .ok allocation
      | .ok none =>
        match ← ask
            (.commitAllocation providerId generation
              ⟨allocationId, providerId, consumerId, resourceRecords resources⟩) with
        | .error e => return .error (mapStoreError e)
        | .ok committed => return .ok (allocationFromRecord committed)

/-- The intent that `commit_allocation_intent` goes on with: the stored one, or
its own where the allocation is already there without an intent. -/
def pendingIntent (intent : AllocationIntent) : LedgerProgram R (Except PlacementError AllocationIntent) := do
  match ← allocationIntent intent.allocationId with
  | .error e => return .error e
  | .ok (some stored) => return .ok stored
  | .ok none =>
    match ← provider intent.providerId with
    | .error _ => return .error .invalidAllocation
    | .ok provider =>
      match provider.allocations.get? intent.allocationId with
      | none => return .error .invalidAllocation
      | some (_, allocation) =>
        if allocation.consumerId = intent.consumerId ∧
            allocation.resources = intent.resources then
          return .ok intent
        else
          return .error .invalidAllocation

def commitAllocationIntent (intent : AllocationIntent) (generation : Nat) :
    LedgerProgram R (Except PlacementError Allocation) := do
  match ← pendingIntent intent with
  | .error e => return .error e
  | .ok stored =>
    if stored ≠ intent then
      return .error .invalidAllocation
    else
      match ← allocate capacity intent.providerId intent.allocationId intent.consumerId
          intent.resources generation with
      | .error e => return .error e
      | .ok allocation =>
        match ← ask (.deleteIntent intent.allocationId) with
        | .error e => return .error (mapStoreError e)
        | .ok () => return .ok allocation

end Capacity

def abandonAllocationIntent (intent : AllocationIntent) : LedgerProgram R (Except PlacementError Unit) := do
  match ← allocationIntent intent.allocationId with
  | .error e => return .error e
  | .ok none => return .ok ()
  | .ok (some stored) =>
    if stored ≠ intent then
      return .error .invalidAllocation
    else
      match ← ask (.deleteIntent intent.allocationId) with
      | .error e => return .error (mapStoreError e)
      | .ok () => return .ok ()

end PlacementLedger

/-- The arguments of `allocate`. -/
structure AllocateRequest where
  providerId : String
  allocationId : String
  consumerId : String
  resources : ResourceMap
  generation : Nat
  deriving DecidableEq

/-- Everything but a commit: those are made by the ledger. -/
abbrev OtherAction (R : Type) :=
  {a : StoreAction R // a.isCommit = false}

/-- What happens to a store that is allocated from through the ledger only. -/
inductive LedgerCall (R : Type)
  | other (a : OtherAction R)
  | allocate (request : AllocateRequest)

section Callers

variable {Q : Type} (capacity : Nat → R → Nat)
variable (exec : (c : RepositoryCall R) → PlacementTables Q R → c.Reply × PlacementTables Q R)

def AllocateRequest.program (request : AllocateRequest) :
    LedgerProgram R (Except PlacementError Allocation) :=
  PlacementLedger.allocate capacity request.providerId request.allocationId
    request.consumerId request.resources request.generation

def AllocateRequest.commit (request : AllocateRequest) : RepositoryCall R :=
  .commitAllocation request.providerId request.generation
    ⟨request.allocationId, request.providerId, request.consumerId,
      resourceRecords request.resources⟩

def LedgerCall.apply (t : PlacementTables Q R) : LedgerCall R → PlacementTables Q R
  | .other a => a.val.apply exec t
  | .allocate request => (Program.alone exec (request.program capacity) t).2

/-- An allocation changes nothing, or commits on a provider that is enabled. -/
theorem alone_allocate {exec} (toU64 : Q → Nat)
    (hread :
      ∀ providerId t, exec (.getProvider providerId) t = (.ok (t.getProvider toU64 providerId), t))
    (request : AllocateRequest) (t : PlacementTables Q R) :
    (Program.alone exec (request.program capacity) t).2 = t ∨
      (t.providerState request.providerId = some "Enabled" ∧
        (Program.alone exec (request.program capacity) t).2 = (exec request.commit t).2) := by
  unfold AllocateRequest.program PlacementLedger.allocate
  split_ifs with hvalid
  · exact Or.inl rfl
  · rw [Program.alone_perform_bind, hread, PlacementTables.getProvider]
    cases hget : t.providers.get? request.providerId with
    | none => exact Or.inl rfl
    | some row =>
      simp only [Option.map_some]
      cases hdecided :
          PlacementLedger.allocateDecision capacity (t.providerRecord toU64 row) request.allocationId
            request.consumerId request.resources request.generation with
      | error e => exact Or.inl rfl
      | ok decision =>
        cases decision with
        | some allocation => exact Or.inl rfl
        | none =>
          obtain ⟨_, _, hstate, _⟩ :=
            (PlacementLedger.allocateDecision_eq_ok_none_iff capacity).mp hdecided
          refine Or.inr ⟨?_, ?_⟩
          · rw [PlacementTables.providerState, hget]
            exact congrArg some hstate
          · rw [Program.alone_perform_bind]
            cases (exec (.commitAllocation _ _ _) t).1 <;> rfl

end Callers

end Placement
end O3k
