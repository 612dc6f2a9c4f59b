import O3k.Placement.Overbooking
import O3k.Placement.PostgresEffects

/-!
# Reconciliation and live servers

`reconcile_consumers` releases what the caller's snapshot of consumers does not
name.  The snapshot is taken before the transaction, so a server that became
durable in between looks like an orphan.  The SQLite adapter reads the compute
resources again inside the transaction and moves the generation of every
provider it takes an allocation from; the PostgreSQL adapter does neither.
-/

namespace O3k
namespace Placement

open Relational Relational.Transaction Semantics

variable {Q R : Type}

/-- A compute instance that is durable and not deleted. -/
def LiveConsumer (t : PlacementTables Q R) (consumerId : String) : Prop :=
  ∃ resource ∈ t.resources.rows,
    resource.id = consumerId ∧
      resource.kind = "compute_instance" ∧
      resource.observedState ≠ "DELETED"

instance (t : PlacementTables Q R) (consumerId : String) : Decidable (LiveConsumer t consumerId) :=
  inferInstanceAs (Decidable (∃ resource ∈ t.resources.rows, _))

/-- An allocation of the provider is in `t` and no longer in `t'`. -/
def LosesAllocation (t t' : PlacementTables Q R) (providerId : String) : Prop :=
  ∃ row ∈ t.allocations.rows, row.providerId = providerId ∧ row ∉ t'.allocations.rows

section Safety

variable [LT Q]
variable (exec : (c : RepositoryCall R) → PlacementTables Q R → c.Reply × PlacementTables Q R)
variable (toU64 : Q → Nat)

/-- What a reconciliation from `t` to `t'` may not do: free capacity under a
live server, or leave the generation of a provider it takes from as it was, so
that a later commit with that generation could succeed. -/
structure ReconcileSafe (t t' : PlacementTables Q R) : Prop where
  spared :
    ∀ row ∈ t.allocations.rows, LiveConsumer t row.consumerId → row ∈ t'.allocations.rows
  moved :
    ∀ providerId old,
      LosesAllocation t t' providerId →
      t.providers.get? providerId = some old →
        ∃ new, t'.providers.get? providerId = some new ∧ old.generation < new.generation
  stale :
    ∀ providerId old,
      LosesAllocation t t' providerId →
      t.providers.get? providerId = some old →
        ∀ (later : List (StoreAction R)) (allocation : PlacementAllocationRecord),
          (run (fun t a => a.apply exec t) t' later).allocations.get? allocation.id = none →
            ∃ e,
              exec (.commitAllocation providerId (toU64 old.generation) allocation)
                  (run (fun t a => a.apply exec t) t' later)
                = (.error e, run (fun t a => a.apply exec t) t' later)

variable {exec toU64}

theorem reconcileSafe_of_kept {t t' : PlacementTables Q R}
    (h : ∀ row ∈ t.allocations.rows, row ∈ t'.allocations.rows) :
    ReconcileSafe exec toU64 t t' := by
  have hnone : ∀ providerId, ¬ LosesAllocation t t' providerId := by
    rintro providerId ⟨row, hrow, _, hlost⟩
    exact hlost (h row hrow)
  constructor
  · exact fun row hrow _ => h row hrow
  · exact fun providerId _ hlost => absurd hlost (hnone providerId)
  · exact fun providerId _ hlost => absurd hlost (hnone providerId)

end Safety

def ReconcilesSafely [LT Q]
    (exec : (c : RepositoryCall R) → PlacementTables Q R → c.Reply × PlacementTables Q R)
    (toU64 : Q → Nat) (t : PlacementTables Q R) :
    StoreAction R → Prop
  | .call (.reconcileConsumers ids) =>
    ReconcileSafe exec toU64 t (exec (.reconcileConsumers ids) t).2
  | _ => True

namespace Sqlite

theorem mem_liveConsumerIds_of_liveConsumer {t : Tables R} {consumerId : String}
    (durableConsumerIds : List String) (h : LiveConsumer t consumerId) :
    consumerId ∈ liveConsumerIds t durableConsumerIds := by
  obtain ⟨resource, hresource, rfl, hkind, hstate⟩ := h
  by_cases hknown : resource.id ∈ durableConsumerIds
  · exact List.mem_append_left _ hknown
  · refine List.mem_append_right _ (List.mem_filter.mpr ⟨?_, by simpa using hknown⟩)
    refine List.mem_map_of_mem (List.mem_filter.mpr ⟨hresource, ?_⟩)
    simp [hkind, hstate]

theorem commit_refused {t : Tables R} {providerId : String} {generation : Nat}
    {allocation : PlacementAllocationRecord} (habsent : t.allocations.get? allocation.id = none)
    (hstale : ∀ row, t.providers.get? providerId = some row → row.generation ≠ generation) :
    ∃ e, exec (.commitAllocation providerId generation allocation) t = (.error e, t) := by
  show ∃ e, commitAllocation providerId generation allocation t = (.error e, t)
  unfold commitAllocation
  split_ifs with hinvalid
  · exact ⟨_, rfl⟩
  · cases hbody : commitAllocationBody providerId generation allocation t with
    | error e => exact ⟨e, atomically_of_error hbody⟩
    | ok result =>
      exfalso
      simp only [commitAllocationBody, get_bind_apply, habsent] at hbody
      obtain ⟨_, _, h₁⟩ := orFail_bind_eq_ok.mp hbody
      obtain ⟨_, _, hfence, _⟩ := bind_eq_ok.mp h₁
      obtain ⟨row, hget, hgeneration, _⟩ := fenceGeneration_ok hfence
      exact hstale row hget hgeneration

theorem providersFenced_run (t : Tables R) (actions : List (StoreAction R)) :
    ProvidersFenced t (run (fun t a => a.apply exec t) t actions) :=
  (always_of_invariant
    (fun s a h => h.trans (providersFenced_act a s)) t actions (Fenced.refl t)).last

/-- **One reconciliation** spares the live consumers and moves the generation of
every provider that it takes an allocation from. -/
theorem reconcileSafe_step (t : Tables R) (durableConsumerIds : List String) :
    ReconcileSafe exec id t (step t (.reconcileConsumers durableConsumerIds)) := by
  have heffect := effect_step t (.reconcileConsumers durableConsumerIds)
  generalize step t (.reconcileConsumers durableConsumerIds) = t' at heffect
  cases heffect with
  | unchanged => exact reconcileSafe_of_kept (fun _ hrow => hrow)
  | provider row htarget hnewer hinventories hstate => cases htarget
  | reconciled t' hallocations hintents hresources hproviders =>
    have hmoved :
        ∀ providerId old,
          LosesAllocation t t' providerId →
          t.providers.get? providerId = some old →
            ∃ new, t'.providers.get? providerId = some new ∧
              old.generation < new.generation := by
      rintro providerId old ⟨row, hrow, hprovider, hlost⟩ hold
      have horphan : row ∈ orphaned t durableConsumerIds := by
        refine List.mem_filter.mpr ⟨hrow, ?_⟩
        by_contra hlive
        rw [hallocations, t.allocations.mem_deleteWhere] at hlost
        exact hlost ⟨hrow, Bool.not_eq_true _ ▸ hlive⟩
      refine ⟨_, by rw [hproviders, hold]; rfl, ?_⟩
      simp only [if_pos (⟨row, horphan, hprovider⟩ :
        ∃ released ∈ orphaned t durableConsumerIds, released.providerId = providerId)]
      exact Nat.lt_succ_self _
    refine ⟨?_, hmoved, ?_⟩
    · intro row hrow hlive
      rw [hallocations, t.allocations.mem_deleteWhere]
      refine ⟨hrow, ?_⟩
      simpa using mem_liveConsumerIds_of_liveConsumer durableConsumerIds hlive
    · intro providerId old hlost hold later allocation habsent
      obtain ⟨new, hnew, hlt⟩ := hmoved providerId old hlost hold
      obtain ⟨row, hrow, hkept⟩ := providersFenced_run t' later providerId new hnew
      refine commit_refused habsent ?_
      intro row' hrow'
      cases hrow.symm.trans hrow'
      rcases hkept with rfl | hgt
      · exact hlt.ne'
      · exact (hlt.trans hgt).ne'

/-- **A stale snapshot allocates nothing**: when an action has changed a
provider's row, a commit under the generation read before it is refused, however
much later it comes. -/
theorem stale_generation_refused
    (t : Tables R) (a : StoreAction R) (later : List (StoreAction R)) {providerId : String}
    {old : ProviderRow Nat R} (hold : t.providers.get? providerId = some old)
    (hchanged : (act a t).providers.get? providerId ≠ some old)
    (allocation : PlacementAllocationRecord)
    (habsent : (run (fun t a => act a t) (act a t) later).allocations.get? allocation.id = none) :
    ∃ e,
      exec (.commitAllocation providerId old.generation allocation)
          (run (fun t a => act a t) (act a t) later)
        = (.error e, run (fun t a => act a t) (act a t) later) := by
  obtain ⟨new, hnew, hstep⟩ := providersFenced_act a t providerId old hold
  have hlt : old.generation < new.generation := by
    rcases hstep with rfl | hlt
    · exact absurd hnew hchanged
    · exact hlt
  obtain ⟨row, hrow, hkept⟩ := providersFenced_run (act a t) later providerId new hnew
  refine commit_refused habsent ?_
  intro row' hrow'
  cases hrow.symm.trans hrow'
  rcases hkept with rfl | hgt
  · exact hlt.ne'
  · exact (hlt.trans hgt).ne'

/-- The first of two commits that were decided on one snapshot. -/
def firstCommit : StoreAction Unit :=
  .call (.commitAllocation "node" 1 ⟨"first", "node", "server", [⟨"VCPU", 3⟩]⟩)

def oneNode : Tables Unit :=
  act (.call (.registerProvider "node" [⟨"VCPU", 8, 0, (), 0⟩])) PlacementTables.empty

theorem second_commit_refused :
    ∃ e,
      exec (.commitAllocation "node" 1 ⟨"second", "node", "other", [⟨"VCPU", 3⟩]⟩)
          (act firstCommit oneNode)
        = (.error e, act firstCommit oneNode) := by
  have hold : oneNode.providers.get? "node" = some ⟨"node", "node", "Enabled", 1, _, _, _, _, _⟩ := rfl
  exact stale_generation_refused oneNode firstCommit [] hold (by decide)
    ⟨"second", "node", "other", [⟨"VCPU", 3⟩]⟩ (by decide)

end Sqlite

namespace Postgres

/-- The snapshot of a reconciliation names the consumer of every allocation that
is stored when it runs. -/
def CoversConsumers (t : Tables R) : StoreAction R → Prop
  | .call (.reconcileConsumers ids) => ∀ row ∈ t.allocations.rows, row.consumerId ∈ ids
  | _ => True

instance (t : Tables R) : DecidablePred (CoversConsumers t) := by
  intro a
  rcases a with c | rows
  · apply @RepositoryCall.casesOn R (fun c => Decidable (CoversConsumers t (.call c))) c <;>
      intros <;> simp only [CoversConsumers] <;> infer_instance
  · exact isTrue trivial

theorem reconcileSafe_step {t : Tables R} (hnodes : NodesNamed t) {durableConsumerIds : List String}
    (hcovers : ∀ row ∈ t.allocations.rows, row.consumerId ∈ durableConsumerIds) :
    ReconcileSafe exec asU64 t (step t (.reconcileConsumers durableConsumerIds)) := by
  have heffect := effect_step hnodes (.reconcileConsumers durableConsumerIds)
  generalize step t (.reconcileConsumers durableConsumerIds) = t' at heffect
  refine reconcileSafe_of_kept ?_
  intro row hrow
  cases heffect with
  | unchanged => exact hrow
  | provider row htarget => cases htarget
  | reconciled t' hallocations hresources hproviders =>
    rw [hallocations, t.allocations.mem_deleteWhere]
    exact ⟨hrow, by simpa using hcovers row hrow⟩

end Postgres

/-- **Safe reconciliation**: from the empty store, in any order with other calls
and changes of the `resources` table, every SQLite reconciliation is safe, and
every PostgreSQL one is when each covers the consumers stored at its time. -/
theorem reconciles_safely_of_covers (actions : List (StoreAction R)) :
    EachStep (fun t a => Sqlite.act a t) (ReconcilesSafely Sqlite.exec id)
        PlacementTables.empty actions ∧
      (EachStep (fun t a => Postgres.act a t) Postgres.CoversConsumers
          PlacementTables.empty actions →
        EachStep (fun t a => Postgres.act a t) (ReconcilesSafely Postgres.exec Postgres.asU64)
          PlacementTables.empty actions) := by
  constructor
  · refine eachStep_of_invariant (I := fun _ => True) (fun _ _ _ => trivial) ?_ _ actions trivial
    intro t a _
    unfold ReconcilesSafely
    split
    · exact Sqlite.reconcileSafe_step t _
    · trivial
  · refine eachStep_of_guarded (I := Postgres.NodesNamed)
      (fun _ a hnodes _ => Postgres.nodesNamed_act hnodes a) ?_ _ actions
      (fun row hrow => absurd hrow List.not_mem_nil)
    intro t a hnodes hcovers
    unfold ReconcilesSafely
    split
    · exact Postgres.reconcileSafe_step hnodes hcovers
    · trivial

/-- A server is scheduled, becomes durable, and a snapshot that predates it is
reconciled. -/
def staleSnapshot : List (StoreAction Unit) :=
  [.call (.registerProvider "node" [⟨"VCPU", 8, 0, (), 0⟩]),
    .call (.commitAllocation "node" 1 ⟨"allocation", "node", "server", [⟨"VCPU", 3⟩]⟩),
    .writeResources (Table.ofList [⟨"server", "compute_instance", "ACTIVE"⟩]),
    .call (.reconcileConsumers [])]

theorem live_server_loses_allocation :
    ¬ EachStep (fun t a => Postgres.act a t) (ReconcilesSafely Postgres.exec Postgres.asU64)
        PlacementTables.empty staleSnapshot := by
  rintro ⟨_, _, _, hsafe, _⟩
  have hspared :=
    hsafe.spared ⟨"allocation", "node", "server", Table.ofList [⟨"VCPU", 3⟩]⟩
      (by decide) (by decide)
  revert hspared
  decide

/-- The same snapshot with the server in it. -/
def currentSnapshot : List (StoreAction Unit) :=
  staleSnapshot.take 3 ++ [.call (.reconcileConsumers ["server"])]

theorem current_snapshot_reconciles_safely :
    EachStep (fun t a => Postgres.act a t) Postgres.CoversConsumers
        PlacementTables.empty currentSnapshot ∧
      EachStep (fun t a => Postgres.act a t) (ReconcilesSafely Postgres.exec Postgres.asU64)
        PlacementTables.empty currentSnapshot := by
  have hcovers :
      EachStep (fun t a => Postgres.act a t) Postgres.CoversConsumers
        PlacementTables.empty currentSnapshot := by
    decide
  exact ⟨hcovers, (reconciles_safely_of_covers currentSnapshot).2 hcovers⟩

end Placement
end O3k
