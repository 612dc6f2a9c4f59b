import O3k.Placement.Sqlite
import O3k.Semantics.Program

/-!
# The statements of the SQLite placement repository

The methods that read make several `SELECT`s on the pool, outside a transaction,
and others may write in between: what such a method returns need not have been
in the store at any one time.  Every other method is one step.
-/

namespace O3k
namespace Placement
namespace Sqlite

open Relational Semantics

variable {R : Type}

/-- A `SELECT` of the methods that read. -/
inductive Select
  | provider (providerId : String)
  | providers
  | inventories (providerId : String)
  | allocations (providerId : String)
  | allocationResources (allocationId : String)
  | traits (providerId : String)
  | failureDomains (providerId : String)
  | intent (allocationId : String)
  | intentResources (intentId : String)

/-- The rows, as records without what other tables hold of them. -/
abbrev Select.Reply (R : Type) : Select → Type
  | .provider _ => Option (PlacementProviderRecord R)
  | .providers => List (PlacementProviderRecord R)
  | .inventories _ => List (PlacementInventoryRecord R)
  | .allocations _ => List PlacementAllocationRecord
  | .allocationResources _ => List PlacementResourceRecord
  | .traits _ => List String
  | .failureDomains _ => List String
  | .intent _ => Option PlacementIntentRecord
  | .intentResources _ => List PlacementResourceRecord

/-- What happens at the store in one step: a method that is a transaction or a
single statement, or a `SELECT` of the method `reader`, outside a transaction. -/
inductive Statement (R : Type)
  | call (c : RepositoryCall R)
  | select (reader : RepositoryCall R) (s : Select)

abbrev Statement.Reply : Statement R → Type
  | .call c => c.Reply
  | .select _ s => s.Reply R

def placementProviderFromRow (row : ProviderRow Nat R) : PlacementProviderRecord R :=
  ⟨row.id, row.nodeId, row.state, row.generation, [], [], row.parentProviderId, [], [],
    row.location⟩

def placementAllocationFromRow (row : AllocationRow Nat) : PlacementAllocationRecord :=
  ⟨row.id, row.providerId, row.consumerId, []⟩

def resourcesIn (rows : Table (@AllocationRow.id Nat)) (key : String) :
    List PlacementResourceRecord :=
  ((rows.get? key).map (fun row => (row.record id).resources)).getD []

/-- A text column of a table under the provider. -/
def textsOf (t : Tables R) (column : ProviderRow Nat R → StringSet) (providerId : String) :
    List String :=
  ((t.providers.get? providerId).map (fun row => (column row).rows)).getD []

def execSelect : (s : Select) → Tables R → s.Reply R
  | .provider providerId, t => (t.providers.get? providerId).map placementProviderFromRow
  | .providers, t => t.providers.rows.map placementProviderFromRow
  | .inventories providerId, t => (t.inventoriesOf providerId).rows.map (InventoryRow.record id)
  | .allocations providerId, t => (t.allocationsOf providerId).map placementAllocationFromRow
  | .allocationResources allocationId, t => resourcesIn t.allocations allocationId
  | .traits providerId, t => textsOf t ProviderRow.traits providerId
  | .failureDomains providerId, t => textsOf t ProviderRow.failureDomains providerId
  | .intent allocationId, t => (t.intents.get? allocationId).map placementAllocationFromRow
  | .intentResources intentId, t => resourcesIn t.intents intentId

def execStatement : (s : Statement R) → Tables R → s.Reply × Tables R
  | .call c, t => exec c t
  | .select _ s, t => (execSelect s t, t)

abbrev StatementProgram (R : Type) : Type → Type := Program (Statement R) Statement.Reply

section Reads

variable (reader : RepositoryCall R)

def select (s : Select) : StatementProgram R (s.Reply R) :=
  Program.perform (Statement.select reader s)

/-- The loop of `load_placement_allocations` over the rows. -/
def loadAllocationResources :
    List PlacementAllocationRecord → StatementProgram R (List PlacementAllocationRecord)
  | [] => pure []
  | row :: rest => do
    let resources ← select reader (.allocationResources row.id)
    let allocations ← loadAllocationResources rest
    pure ({ row with resources := resources } :: allocations)

def loadPlacementAllocations (providerId : String) :
    StatementProgram R (List PlacementAllocationRecord) := do
  let rows ← select reader (.allocations providerId)
  loadAllocationResources reader rows

/-- What `get_provider` and `list_providers` read for a row. -/
def loadProvider (provider : PlacementProviderRecord R) :
    StatementProgram R (PlacementProviderRecord R) := do
  let inventories ← select reader (.inventories provider.id)
  let allocations ← loadPlacementAllocations reader provider.id
  let traits ← select reader (.traits provider.id)
  let failureDomains ← select reader (.failureDomains provider.id)
  pure
    { provider with
      inventories := inventories
      allocations := allocations
      traits := traits
      failureDomains := failureDomains }

def loadProviders :
    List (PlacementProviderRecord R) → StatementProgram R (List (PlacementProviderRecord R))
  | [] => pure []
  | row :: rest => do
    let provider ← loadProvider reader row
    let providers ← loadProviders rest
    pure (provider :: providers)

end Reads

def statements : (c : RepositoryCall R) → StatementProgram R c.Reply
  | .getProvider providerId => do
    let row ← select (.getProvider providerId) (.provider providerId)
    match row with
    | none => pure (.ok none)
    | some row => do
      let provider ← loadProvider (.getProvider providerId) row
      pure (.ok (some provider))
  | .listProviders => do
    let rows ← select .listProviders .providers
    let providers ← loadProviders .listProviders rows
    pure (.ok providers)
  | .getIntent allocationId => do
    let row ← select (.getIntent allocationId) (.intent allocationId)
    match row with
    | none => pure (.ok none)
    | some row => do
      let resources ← select (.getIntent allocationId) (.intentResources row.id)
      pure (.ok (some { row with resources := resources }))
  | c => Program.perform (Statement.call c)

/-- The statements of a method that reads are its own `SELECT`s; any other is one. -/
theorem calls_statements {K : Statement R → Prop} (c : RepositoryCall R)
    (hselect : ∀ s, K (.select c s)) (hcall : K (.call c)) :
    (statements c).Calls K := by
  have hresources : ∀ rows, (loadAllocationResources c rows).Calls K := by
    intro rows
    induction rows with
    | nil => trivial
    | cons row rest ih => exact ⟨hselect _, fun _ => ih.bind (fun _ => trivial)⟩
  have hallocations : ∀ providerId, (loadPlacementAllocations c providerId).Calls K :=
    fun _ => ⟨hselect _, hresources⟩
  have hprovider : ∀ row, (loadProvider c row).Calls K := by
    intro row
    unfold loadProvider
    refine Program.calls_perform_bind (hselect _) (fun _ => ?_)
    refine (hallocations _).bind (fun _ => ?_)
    exact ⟨hselect _, fun _ => ⟨hselect _, fun _ => trivial⟩⟩
  have hproviders : ∀ rows, (loadProviders c rows).Calls K := by
    intro rows
    induction rows with
    | nil => trivial
    | cons row rest ih => exact (hprovider row).bind (fun _ => ih.bind (fun _ => trivial))
  cases c with
  | getProvider providerId =>
    refine ⟨hselect _, fun row => ?_⟩
    cases row with
    | none => trivial
    | some row => exact (hprovider row).bind (fun _ => trivial)
  | listProviders =>
    exact ⟨hselect _, fun rows => (hproviders rows).bind (fun _ => trivial)⟩
  | getIntent allocationId =>
    refine ⟨hselect _, fun row => ?_⟩
    cases row with
    | none => trivial
    | some row => exact ⟨hselect _, fun _ => trivial⟩
  | _ => exact ⟨hcall, fun _ => trivial⟩

variable {t : Tables R}

theorem resourcesIn_of_get? {rows : Table (@AllocationRow.id Nat)} {row : AllocationRow Nat}
    {key : String} (h : rows.get? key = some row) :
    resourcesIn rows key = (row.record id).resources := by
  rw [resourcesIn, h]
  rfl

theorem alone_select_bind {α : Type} (reader : RepositoryCall R) (s : Select)
    (f : s.Reply R → StatementProgram R α) (t : Tables R) :
    Program.alone execStatement (select reader s >>= f) t
      = Program.alone execStatement (f (execSelect s t)) t :=
  rfl

theorem alone_loadAllocationResources (reader : RepositoryCall R) (rows : List (AllocationRow Nat))
    (hrows : ∀ row ∈ rows, row ∈ t.allocations.rows) :
    Program.alone execStatement
        (loadAllocationResources reader (rows.map placementAllocationFromRow)) t
      = (rows.map (AllocationRow.record id), t) := by
  induction rows with
  | nil => rfl
  | cons row rest ih =>
    have hget := t.allocations.get?_key_of_mem (hrows row List.mem_cons_self)
    have hrest := ih (fun row hmem => hrows row (List.mem_cons_of_mem _ hmem))
    have hresources :
        execSelect (R := R) (.allocationResources (placementAllocationFromRow row).id) t
          = (row.record id).resources := resourcesIn_of_get? hget
    rw [List.map_cons, loadAllocationResources, alone_select_bind, Program.alone_bind, hrest,
      hresources]
    rfl

theorem alone_loadProvider (reader : RepositoryCall R) {row : ProviderRow Nat R}
    (hrow : row ∈ t.providers.rows) :
    Program.alone execStatement (loadProvider reader (placementProviderFromRow row)) t
      = (t.providerRecord id row, t) := by
  have hget : t.providers.get? (placementProviderFromRow row).id = some row :=
    t.providers.get?_key_of_mem hrow
  have hallocations :
      Program.alone execStatement
          (loadPlacementAllocations reader (placementProviderFromRow row).id) t
        = ((t.allocationsOf row.id).map (AllocationRow.record id), t) :=
    alone_loadAllocationResources reader _ (fun _ hmem => (List.mem_filter.mp hmem).1)
  rw [loadProvider, alone_select_bind, Program.alone_bind, hallocations, alone_select_bind,
    alone_select_bind]
  simp only [execSelect, PlacementTables.inventoriesOf, textsOf, hget]
  rfl

theorem alone_loadProviders (reader : RepositoryCall R) (rows : List (ProviderRow Nat R))
    (hrows : ∀ row ∈ rows, row ∈ t.providers.rows) :
    Program.alone execStatement (loadProviders reader (rows.map placementProviderFromRow)) t
      = (rows.map (t.providerRecord id), t) := by
  induction rows with
  | nil => rfl
  | cons row rest ih =>
    have hfirst := alone_loadProvider reader (hrows row List.mem_cons_self)
    have hrest := ih (fun row hmem => hrows row (List.mem_cons_of_mem _ hmem))
    rw [List.map_cons, loadProviders, Program.alone_bind, hfirst, Program.alone_bind, hrest]
    rfl

/-- **Alone**, the steps of a method do what the method does. -/
theorem alone_statements (c : RepositoryCall R) (t : Tables R) :
    Program.alone execStatement (statements c) t = exec c t := by
  cases c with
  | getProvider providerId =>
    rw [statements, alone_select_bind (.getProvider providerId) (.provider providerId),
      exec_getProvider, PlacementTables.getProvider]
    cases hget : t.providers.get? providerId with
    | none => simp only [execSelect, hget, Option.map_none, Program.pure_eq, Program.alone_done]
    | some row =>
      simp only [execSelect, hget, Option.map_some]
      rw [Program.alone_bind, alone_loadProvider _ (t.providers.mem_of_get? hget)]
      rfl
  | listProviders =>
    rw [statements, alone_select_bind .listProviders .providers, Program.alone_bind]
    simp only [execSelect]
    rw [alone_loadProviders _ _ (fun _ h => h)]
    rfl
  | getIntent allocationId =>
    rw [statements, alone_select_bind (.getIntent allocationId) (.intent allocationId)]
    simp only [exec, PlacementTables.getIntent]
    cases hget : t.intents.get? allocationId with
    | none => simp only [execSelect, hget, Option.map_none, Program.pure_eq, Program.alone_done]
    | some row =>
      have hid : row.id = allocationId := t.intents.key_of_get? hget
      have hresources : resourcesIn t.intents row.id = (row.record id).resources :=
        resourcesIn_of_get? (hid ▸ hget)
      simp only [execSelect, hget, Option.map_some]
      rw [alone_select_bind (.getIntent allocationId) (.intentResources _)]
      simp only [execSelect, placementAllocationFromRow, hresources]
      rfl
  | _ => rfl

end Sqlite
end Placement
end O3k
