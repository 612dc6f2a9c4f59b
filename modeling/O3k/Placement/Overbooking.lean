import O3k.Placement.Ledger
import O3k.Placement.SqliteEffects
import O3k.Semantics.Fence

/-!
# No overbooking through the placement ledger

`PlacementLedger::allocate` decides on a snapshot that it reads outside the
commit's transaction.  What makes the decision still right at the commit is the
provider's generation: every call that writes a provider row, whatever it
writes, leaves a larger generation behind.  A commit that finds the expected
generation therefore finds the very row the capacity was checked on.
-/

namespace O3k
namespace Placement

open Relational Semantics Sqlite

variable {R : Type}

/-- Provider rows are kept as they are or replaced under a larger generation. -/
abbrev ProvidersFenced : Tables R → Tables R → Prop :=
  Fenced (fun t k => t.providers.get? k) ProviderRow.generation

theorem providersFenced_of_providers_eq {t t' : Tables R} (h : t'.providers = t.providers) :
    ProvidersFenced t t' := by
  intro k row hrow
  refine ⟨row, ?_, Or.inl rfl⟩
  show t'.providers.get? k = some row
  rw [h]
  exact hrow

theorem providersFenced_put {t t' : Tables R} (row : ProviderRow Nat R)
    (hproviders : t'.providers = t.providers.put row)
    (hnewer : ∀ old, t.providers.get? row.id = some old → old.generation < row.generation) :
    ProvidersFenced t t' := by
  intro k old hold
  show ∃ row', t'.providers.get? k = some row' ∧ _
  rw [hproviders]
  by_cases hk : row.id = k
  · subst hk
    exact ⟨row, Table.get?_put_self _ _, Or.inr (hnewer old hold)⟩
  · exact ⟨old, (t.providers.get?_put_of_ne hk).trans hold, Or.inl rfl⟩

theorem Sqlite.Effect.providersFenced {t t' : Tables R} {c : RepositoryCall R} (h : Effect t c t') :
    ProvidersFenced t t' := by
  cases h with
  | unchanged => exact Fenced.refl t
  | provider row htarget hnewer hinventories hstate => exact providersFenced_put row rfl hnewer
  | committed old resources habsent hold hresources =>
    have hid := t.providers.key_of_get? hold
    refine providersFenced_put (old.bump.applyUsed _ _) rfl ?_
    intro old' hold'
    rw [ProviderRow.applyUsed_id, ProviderRow.bump_id, hid, hold] at hold'
    cases hold'
    simp
  | released old existing hold hexisting =>
    have hid := t.providers.key_of_get? hold
    refine providersFenced_put (old.applyUsed minusUsed existing.resources.rows).bump rfl ?_
    intro old' hold'
    rw [ProviderRow.bump_id, ProviderRow.applyUsed_id, hid, hold] at hold'
    cases hold'
    simp
  | intentStored | intentDeleted => exact providersFenced_of_providers_eq rfl
  | reconciled t' hallocations hintents hresources hproviders =>
    intro k row (hrow : t.providers.get? k = some row)
    show ∃ row', t'.providers.get? k = some row' ∧ _
    rw [hproviders k, hrow]
    refine ⟨_, rfl, ?_⟩
    split_ifs with hreleased
    · exact Or.inr (Nat.lt_succ_self _)
    · exact Or.inl rfl

theorem Sqlite.providersFenced_act (a : StoreAction R) (t : Tables R) :
    ProvidersFenced t (act a t) := by
  cases a with
  | call c => exact (effect_step t c).providersFenced
  | writeResources rows => exact providersFenced_of_providers_eq rfl

/-- Only a commit adds an allocation: the one it was given, under a provider
row that still has the expected generation. -/
theorem Sqlite.Effect.of_new_allocation {t t' : Tables R} {c : RepositoryCall R}
    (h : Effect t c t') {row : AllocationRow Nat} (hrow : row ∈ t'.allocations.rows)
    (hnew : t.allocations.get? row.id = none) :
    ∃ providerId generation allocation provider,
      c = .commitAllocation providerId generation allocation ∧
        t.providers.get? providerId = some provider ∧
        provider.generation = generation ∧
        row.id = allocation.id ∧
        row.providerId = allocation.providerId ∧
        row.consumerId = allocation.consumerId ∧
        insertResources allocation.resources ∅ = .ok row.resources := by
  have hold : row ∉ t.allocations.rows :=
    fun hmem => t.allocations.get?_eq_none_iff.mp hnew row hmem rfl
  cases h with
  | unchanged | provider | intentStored | intentDeleted => exact absurd hrow hold
  | released old existing hget hexisting =>
    exact absurd (t.allocations.mem_deleteWhere.mp hrow).1 hold
  | reconciled t' hallocations hintents hresources hproviders =>
    rw [hallocations] at hrow
    exact absurd (t.allocations.mem_deleteWhere.mp hrow).1 hold
  | @committed providerId allocation old resources habsent hget hresources =>
    rcases t.allocations.mem_put.mp hrow with rfl | ⟨hmem, _⟩
    · exact ⟨providerId, _, allocation, old, rfl, hget, rfl, rfl, rfl, rfl, hresources⟩
    · exact absurd hmem hold

variable (capacity : Nat → R → Nat)

/-- The provider is enabled and has room for what an allocation takes. -/
def HasRoom (provider : ProviderRow Nat R) (resources : List (ResourceRow Nat)) : Prop :=
  provider.state = "Enabled" ∧
    ∀ resource ∈ resources, ∃ inventory,
      provider.inventories.get? resource.resourceClass = some inventory ∧
        inventory.used + resource.amount
          ≤
        capacity inventory.total inventory.allocationRatio - inventory.reserved

/-- Every allocation that is in `t'` and not in `t` had room in `t`. -/
def NoOverbooking (t t' : Tables R) : Prop :=
  ∀ row ∈ t'.allocations.rows,
    t.allocations.get? row.id = none →
      ∃ provider,
        t.providers.get? row.providerId = some provider ∧
          HasRoom capacity provider row.resources.rows

theorem noOverbooking_of_not_commit {a : StoreAction R} (ha : a.isCommit = false) (t : Tables R) :
    NoOverbooking capacity t (act a t) := by
  intro row hrow hnew
  cases a with
  | call c =>
    obtain ⟨_, _, _, _, rfl, _⟩ := (effect_step t c).of_new_allocation hrow hnew
    cases ha
  | writeResources rows => exact absurd rfl (t.allocations.get?_eq_none_iff.mp hnew row hrow)

theorem hasRoom_of_decision {t : Tables R} {provider : ProviderRow Nat R}
    {allocationId consumerId : String} {resources : ResourceMap} {generation : Nat}
    (hvalid : invalidRequest allocationId consumerId resources = false)
    (hdecided :
      PlacementLedger.allocateDecision capacity (t.providerRecord id provider) allocationId consumerId
        resources generation = .ok none) :
    provider.generation = generation ∧ HasRoom capacity provider resources.rows := by
  obtain ⟨_, hgeneration, hstate, hroom⟩ :=
    (PlacementLedger.allocateDecision_eq_ok_none_iff capacity).mp hdecided
  refine ⟨hgeneration, hstate, ?_⟩
  intro resource hresource
  obtain ⟨inventory, hget, hamount⟩ := hroom resource hresource
  have hpositive : resource.amount ≠ 0 := by
    intro hzero
    have hany : resources.rows.any (fun row => row.amount = 0) = true :=
      List.any_eq_true.mpr ⟨resource, hresource, by simp [hzero]⟩
    simp [invalidRequest, hany] at hvalid
  refine ⟨inventory, ?_, ?_⟩
  · rwa [PlacementTables.providerRecord, inventoryMap_record] at hget
  · unfold PlacementLedger.available at hamount
    omega

theorem noOverbooking_commit {t₁ t₂ : Tables R} {providerId allocationId consumerId : String}
    {resources : ResourceMap} {generation : Nat} {snapshot : ProviderRow Nat R}
    (hget : t₁.providers.get? providerId = some snapshot) (hfenced : ProvidersFenced t₁ t₂)
    (hadmitted : snapshot.generation = generation ∧ HasRoom capacity snapshot resources.rows) :
    NoOverbooking capacity t₂
      (step t₂
        (.commitAllocation providerId generation
          ⟨allocationId, providerId, consumerId, resourceRecords resources⟩)) := by
  intro row hrow hnew
  obtain ⟨_, _, _, provider, hcall, hprovider, hgeneration, _, hrowProvider, _, hresources⟩ :=
    (effect_step t₂ _).of_new_allocation hrow hnew
  cases hcall
  obtain ⟨hsnapshot, hstate, hroom⟩ := hadmitted
  have hsame : provider = snapshot :=
    hfenced.eq_of_version_eq hget hprovider (hgeneration.trans hsnapshot.symm)
  subst hsame
  refine ⟨provider, by rw [hrowProvider, hprovider], hstate, ?_⟩
  intro resource hresource
  obtain ⟨_, _, hmem⟩ := insertResources_ok hresources
  rcases (hmem resource).mp hresource with hempty | ⟨requested, hrequested, rfl⟩
  · exact absurd hempty List.not_mem_nil
  · obtain ⟨r, hr, rfl⟩ := List.mem_map.mp hrequested
    exact hroom r hr

/-- Whatever the others do between its two calls, a call of `allocate` commits
only what there is room for. -/
theorem ensures_allocate (request : AllocateRequest) (t : Tables R) :
    Program.Ensures exec ProvidersFenced (fun _ => True)
      (fun c t => NoOverbooking capacity t (step t c)) (fun _ _ => True)
      (request.program capacity) t := by
  unfold AllocateRequest.program PlacementLedger.allocate
  split_ifs with hvalid
  · trivial
  · rw [Program.ensures_perform_bind]
    intro t₁ _ _
    refine ⟨noOverbooking_of_not_commit capacity (a := .call (.getProvider _)) rfl t₁, ?_⟩
    simp only [exec, PlacementTables.getProvider]
    cases hget : t₁.providers.get? request.providerId with
    | none => trivial
    | some snapshot =>
      simp only [Option.map_some]
      cases hdecided :
          PlacementLedger.allocateDecision capacity (t₁.providerRecord id snapshot) request.allocationId
            request.consumerId request.resources request.generation with
      | error e => trivial
      | ok decision =>
        cases decision with
        | some allocation => trivial
        | none =>
          rw [Program.ensures_perform_bind]
          intro t₂ hfenced _
          have hadmitted := hasRoom_of_decision capacity (Bool.not_eq_true _ ▸ hvalid) hdecided
          refine ⟨noOverbooking_commit capacity hget hfenced hadmitted, ?_⟩
          cases (exec (.commitAllocation _ _ _) t₂).1 <;> trivial

section Run

variable {ι : Type} [DecidableEq ι]

/-- Any number of `allocate` calls, other repository calls and writes to the
`resources` table, step by step in any order. -/
def LedgerWorld.step :
    Concurrent (Tables R) ι (RepositoryCall R) RepositoryCall.Reply
      (Except PlacementError Allocation) →
    Event ι AllocateRequest (OtherAction R) →
    Concurrent (Tables R) ι (RepositoryCall R) RepositoryCall.Reply
      (Except PlacementError Allocation) :=
  Concurrent.step exec (AllocateRequest.program capacity) (fun a => act a.val)

/-- **No overbooking**: in every interleaving, whatever a step adds to the
allocations had room, at that instant, on an enabled provider. -/
theorem no_overbooking (t : Tables R) (events : List (Event ι AllocateRequest (OtherAction R))) :
    EachStep (LedgerWorld.step capacity)
      (fun w e => NoOverbooking capacity w.store (LedgerWorld.step capacity w e).store)
      (Concurrent.initial t) events := by
  refine eachStep_of_invariant
    (I := Concurrent.OnTrack exec ProvidersFenced (fun _ => True)
      (fun c t => NoOverbooking capacity t (Sqlite.step t c)) (fun _ _ => True))
    ?_ ?_ _ events ⟨trivial, fun _ _ hp => by cases hp⟩
  · intro w e h
    refine h.step_meets (G := fun _ _ => True) Fenced.refl (fun _ _ _ => Fenced.trans)
      (fun _ _ _ h _ => h) ?_ ?_ ?_ trivial (Concurrent.meets_true e)
    · exact fun w _ request _ _ => ensures_allocate capacity request w.store
    · exact fun w a _ _ => ⟨providersFenced_act a.val w.store, trivial⟩
    · exact fun c t _ _ _ => ⟨(effect_step t c).providersFenced, trivial⟩
  · intro w e h
    refine h.guarantee (N := NoOverbooking capacity) Fenced.refl ?_ (fun _ _ _ h => h) ?_ e
    · intro t row hrow hnew
      exact absurd rfl (t.allocations.get?_eq_none_iff.mp hnew row hrow)
    · exact fun a => noOverbooking_of_not_commit capacity a.property w.store

end Run

end Placement
end O3k
