import O3k.Placement.Overbooking
import O3k.Placement.PostgresEffects

/-!
# Operator drains

An operator closes a provider by setting its state.  Agents write the same
column: a report of `Enabled` keeps a stored `Draining` or `Deleted`, but any
other reported state replaces it, and in PostgreSQL a registration always writes
`Enabled`.
-/

namespace O3k
namespace Placement

open Relational Semantics

variable {Q R : Type}

/-- The operator has closed the provider. -/
def Drained (t : PlacementTables Q R) (providerId : String) : Prop :=
  t.providerState providerId = some "Draining" ∨ t.providerState providerId = some "Deleted"

instance (t : PlacementTables Q R) (providerId : String) : Decidable (Drained t providerId) :=
  inferInstanceAs (Decidable (_ ∨ _))

/-- The provider is there, and not enabled. -/
def Closed (t : PlacementTables Q R) (providerId : String) : Prop :=
  ∃ state, t.providerState providerId = some state ∧ state ≠ "Enabled"

theorem Drained.closed {t : PlacementTables Q R} {providerId : String} (h : Drained t providerId) :
    Closed t providerId := by
  rcases h with h | h
  · exact ⟨_, h, by decide⟩
  · exact ⟨_, h, by decide⟩

theorem Closed.of_same {t t' : PlacementTables Q R} {providerId : String}
    (h : Closed t providerId) (hsame : t'.providerState providerId = t.providerState providerId) :
    Closed t' providerId := by
  obtain ⟨state, hstate, hclosed⟩ := h
  exact ⟨state, hsame.trans hstate, hclosed⟩

theorem Closed.putProvider {t : PlacementTables Q R} {providerId : String}
    (h : Closed t providerId) {row : ProviderRow Q R}
    (hrow : row.id = providerId → row.state ≠ "Enabled") :
    Closed (t.putProvider row) providerId := by
  by_cases hid : row.id = providerId
  · exact ⟨row.state, congrArg _ (t.get?_putProvider hid), hrow hid⟩
  · exact h.of_same (congrArg _ (t.providers.get?_put_of_ne hid))

/-- No allocation on the provider is new in `t'`. -/
def AcceptsNothing (t t' : PlacementTables Q R) (providerId : String) : Prop :=
  ∀ row ∈ t'.allocations.rows,
    t.allocations.get? row.id = none → row.providerId ≠ providerId

def SetsState (providerId : String) : RepositoryCall R → Prop
  | .setProviderState id _ => id = providerId
  | _ => False

instance (providerId : String) : DecidablePred (SetsState (R := R) providerId) := by
  intro c
  cases c <;> simp only [SetsState] <;> infer_instance

def LedgerCall.call? : LedgerCall R → Option (RepositoryCall R)
  | .other ⟨.call c, _⟩ => some c
  | _ => none

section Lifting

variable (capacity : Nat → R → Nat)
variable {exec : (c : RepositoryCall R) → PlacementTables Q R → c.Reply × PlacementTables Q R}

/-- **Lifting**: when repository calls that meet `Keeps` keep the provider closed,
ledger calls do, and accept no allocation on it. -/
theorem closed_ledgerCall (toU64 : Q → Nat)
    (hread :
      ∀ providerId t, exec (.getProvider providerId) t = (.ok (t.getProvider toU64 providerId), t))
    {I : PlacementTables Q R → Prop} {providerId : String}
    (Keeps : PlacementTables Q R → RepositoryCall R → Prop)
    (hclosed : ∀ t c, I t → Closed t providerId → Keeps t c → Closed (exec c t).2 providerId)
    (hcommit : ∀ t id generation allocation, Keeps t (.commitAllocation id generation allocation))
    (hnew :
      ∀ t c row, I t → row ∈ (exec c t).2.allocations.rows →
        t.allocations.get? row.id = none →
          ∃ id generation allocation,
            c = .commitAllocation id generation allocation ∧
              (allocation.providerId = id → row.providerId = id))
    {t : PlacementTables Q R} (ht : I t) (h : Closed t providerId) {call : LedgerCall R}
    (hcall : ∀ c ∈ call.call?, Keeps t c) :
    Closed (call.apply capacity exec t) providerId ∧
      AcceptsNothing t (call.apply capacity exec t) providerId := by
  have hsame : AcceptsNothing t t providerId :=
    fun row hrow habsent => absurd rfl (t.allocations.get?_eq_none_iff.mp habsent row hrow)
  cases call with
  | other a =>
    obtain ⟨a, ha⟩ := a
    cases a with
    | writeResources rows => exact ⟨h, hsame⟩
    | call c =>
      refine ⟨hclosed t c ht h (hcall c rfl), ?_⟩
      intro row hrow habsent
      obtain ⟨_, _, _, rfl, _⟩ := hnew t c row ht hrow habsent
      cases ha
  | allocate request =>
    rcases alone_allocate capacity toU64 hread request t with hnone | ⟨henabled, hstore⟩
    · rw [LedgerCall.apply, hnone]
      exact ⟨h, hsame⟩
    · rw [LedgerCall.apply, hstore]
      refine ⟨hclosed t _ ht h (hcommit t _ _ _), ?_⟩
      intro row hrow habsent hprovider
      obtain ⟨id, _, _, hrequest, howner⟩ := hnew t _ row ht hrow habsent
      cases hrequest
      obtain ⟨state, hstate, hne⟩ := h
      rw [← hprovider, howner rfl, henabled] at hstate
      exact hne (Option.some.inj hstate).symm

/-- From any reachable state in which the provider is drained, over any calls
that do not set its state and that meet `Keeps`, it is never enabled and accepts
no allocation. -/
def DrainSticky
    (exec : (c : RepositoryCall R) → PlacementTables Q R → c.Reply × PlacementTables Q R)
    (Keeps : PlacementTables Q R → RepositoryCall R → Prop) (providerId : String) : Prop :=
  ∀ (before : List (StoreAction R)) (calls : List (LedgerCall R)),
    Drained (run (fun t a => a.apply exec t) PlacementTables.empty before) providerId →
    EachStep (LedgerCall.apply capacity exec)
      (fun t call => ∀ c ∈ call.call?, ¬ SetsState providerId c ∧ Keeps t c)
      (run (fun t a => a.apply exec t) PlacementTables.empty before) calls →
    Always (LedgerCall.apply capacity exec)
        (fun t => t.providerState providerId ≠ some "Enabled")
        (run (fun t a => a.apply exec t) PlacementTables.empty before) calls ∧
      EachStep (LedgerCall.apply capacity exec)
        (fun t call => AcceptsNothing t (call.apply capacity exec t) providerId)
        (run (fun t a => a.apply exec t) PlacementTables.empty before) calls

theorem drainSticky_of_step {Keeps : PlacementTables Q R → RepositoryCall R → Prop}
    {providerId : String} {I : PlacementTables Q R → Prop} (hempty : I PlacementTables.empty)
    (haction : ∀ t (a : StoreAction R), I t → I (a.apply exec t))
    (hcall : ∀ t call, I t → I (LedgerCall.apply capacity exec t call))
    (hstep :
      ∀ t call, I t → Closed t providerId →
        (∀ c ∈ LedgerCall.call? call, ¬ SetsState providerId c ∧ Keeps t c) →
          Closed (call.apply capacity exec t) providerId ∧
            AcceptsNothing t (call.apply capacity exec t) providerId) :
    DrainSticky capacity exec Keeps providerId := by
  intro before calls hdrained hguard
  have hreached : I (run (fun t a => a.apply exec t) PlacementTables.empty before) :=
    (always_of_invariant haction PlacementTables.empty before hempty).last
  have hkept :
      ∀ t call, (I t ∧ Closed t providerId) →
        (∀ c ∈ LedgerCall.call? call, ¬ SetsState providerId c ∧ Keeps t c) →
          I (call.apply capacity exec t) ∧ Closed (call.apply capacity exec t) providerId :=
    fun t call h hkeeps => ⟨hcall t call h.1, (hstep t call h.1 h.2 hkeeps).1⟩
  constructor
  · refine (always_of_guarded hkept _ calls ⟨hreached, hdrained.closed⟩ hguard).imp ?_
    rintro t ⟨_, state, hstate, hclosed⟩ henabled
    rw [hstate] at henabled
    exact hclosed (Option.some.inj henabled)
  · exact eachStep_of_guarded hkept
      (fun t call h hkeeps => (hstep t call h.1 h.2 hkeeps).2)
      _ calls ⟨hreached, hdrained.closed⟩ hguard

end Lifting

theorem syncedState_ne_enabled {t : PlacementTables Q R} {providerId state reported : String}
    (hstate : t.providerState providerId = some state) (hclosed : state ≠ "Enabled")
    (hreport : ¬ (reported = "Enabled" ∧ ¬ Drained t providerId)) :
    syncedState state reported ≠ "Enabled" := by
  unfold syncedState
  split_ifs with hdrained
  · exact hclosed
  · intro henabled
    refine hreport ⟨henabled, ?_⟩
    rintro (h | h)
    · rw [hstate] at h
      exact hdrained ⟨Or.inl (Option.some.inj h), henabled⟩
    · rw [hstate] at h
      exact hdrained ⟨Or.inr (Option.some.inj h), henabled⟩

namespace Sqlite

/-- The call that reopens the provider: a report of `Enabled` when the stored
state is no longer the operator's. -/
def Reopens (providerId : String) (t : Tables R) : RepositoryCall R → Prop
  | .syncProvider nodeId state _ => nodeId = providerId ∧ state = "Enabled" ∧ ¬ Drained t providerId
  | _ => False

instance (providerId : String) (t : Tables R) : DecidablePred (Reopens providerId t) := by
  intro c
  cases c <;> simp only [Reopens] <;> infer_instance

theorem writtenState_ne_enabled {t : Tables R} {c : RepositoryCall R} {providerId state : String}
    (htarget : c.provider? = some providerId) (hstate : t.providerState providerId = some state)
    (hclosed : state ≠ "Enabled") (hoperator : ¬ SetsState providerId c)
    (hkeeps : ¬ Reopens providerId t c) :
    writtenState c (t.providerState providerId) ≠ "Enabled" := by
  rw [hstate]
  cases c with
  | syncProvider nodeId reported inventories =>
    obtain rfl : nodeId = providerId := Option.some.inj htarget
    exact syncedState_ne_enabled hstate hclosed (fun h => hkeeps ⟨rfl, h⟩)
  | setProviderState id new => exact absurd (Option.some.inj htarget) hoperator
  | _ => exact hclosed

theorem closed_step {t : Tables R} {c : RepositoryCall R} {providerId : String}
    (h : Closed t providerId) (hoperator : ¬ SetsState providerId c)
    (hkeeps : ¬ Reopens providerId t c) :
    Closed (step t c) providerId := by
  have heffect := effect_step t c
  generalize step t c = t' at heffect
  cases heffect with
  | unchanged | intentStored | intentDeleted => exact h
  | provider row htarget hnewer hinventories hrow =>
    refine h.putProvider ?_
    rintro rfl
    obtain ⟨state, hstate, hclosed⟩ := h
    rw [hrow]
    exact writtenState_ne_enabled htarget hstate hclosed hoperator hkeeps
  | committed old resources habsent hold hresources =>
    exact h.of_same (t.providerState_putProvider hold (by simp) (by simp) _)
  | released old existing hold hexisting =>
    exact h.of_same (t.providerState_putProvider hold (by simp) (by simp) _)
  | reconciled t' hallocations hintents hresources hproviders =>
    refine h.of_same ?_
    rw [PlacementTables.providerState, hproviders, Option.map_map]
    unfold PlacementTables.providerState
    congr 1
    funext row
    simp only [Function.comp_apply]
    split_ifs <;> rfl

end Sqlite

namespace Postgres

/-- The calls that reopen the provider: besides a late report of `Enabled`, every
registration of its node that gets to write. -/
def Reopens (providerId : String) (t : Tables R) : RepositoryCall R → Prop
  | .registerProvider nodeId _ => nodeId = providerId
  | .registerProviderMetadata nodeId _ metadata =>
    nodeId = providerId ∧
      invalidMetadata nodeId metadata = false ∧
      checkHierarchy t nodeId metadata.parentProviderId = .ok ()
  | .syncProvider nodeId state _ => nodeId = providerId ∧ state = "Enabled" ∧ ¬ Drained t providerId
  | _ => False

instance (providerId : String) (t : Tables R) : DecidablePred (Reopens providerId t) := by
  intro c
  cases c <;> simp only [Reopens] <;> infer_instance

variable {c : RepositoryCall R}

theorem writtenState_ne_enabled {t : Tables R} {providerId state : String}
    (htarget : c.provider? = some providerId) (haccepted : Accepted t c)
    (hstate : t.providerState providerId = some state) (hclosed : state ≠ "Enabled")
    (hoperator : ¬ SetsState providerId c) (hkeeps : ¬ Reopens providerId t c) :
    writtenState c (t.providerState providerId) ≠ "Enabled" := by
  rw [hstate]
  cases c with
  | registerProvider nodeId inventories => exact absurd (Option.some.inj htarget) hkeeps
  | registerProviderMetadata nodeId inventories metadata =>
    exact absurd ⟨Option.some.inj htarget, haccepted⟩ hkeeps
  | syncProvider nodeId reported inventories =>
    obtain rfl : nodeId = providerId := Option.some.inj htarget
    exact syncedState_ne_enabled hstate hclosed (fun h => hkeeps ⟨rfl, h⟩)
  | setProviderState id new => exact absurd (Option.some.inj htarget) hoperator
  | _ => exact hclosed

theorem closed_step {t : Tables R}
    (hnodes : NodesNamed t) {providerId : String} (h : Closed t providerId)
    (hoperator : ¬ SetsState providerId c) (hkeeps : ¬ Reopens providerId t c) :
    Closed (step t c) providerId := by
  have heffect := effect_step hnodes c
  generalize step t c = t' at heffect
  cases heffect with
  | unchanged | intentStored | intentDeleted => exact h
  | provider row htarget haccepted hnode hnewer hinventories hrow =>
    refine h.putProvider ?_
    rintro rfl
    obtain ⟨state, hstate, hclosed⟩ := h
    rw [hrow]
    exact writtenState_ne_enabled htarget haccepted hstate hclosed hoperator hkeeps
  | committed old habsent hold hgeneration =>
    exact h.of_same (t.providerState_putProvider hold (by simp) (by simp) _)
  | released old existing hold hexisting =>
    exact h.of_same (t.providerState_putProvider hold (by simp) (by simp) _)
  | reconciled t' hallocations hresources hproviders =>
    refine h.of_same ?_
    rw [PlacementTables.providerState, hproviders, Option.map_map]
    unfold PlacementTables.providerState
    congr 1
    funext row
    simp

theorem Effect.of_new_allocation {t t' : Tables R}
    (h : Effect t c t') {row : AllocationRow Int} (hrow : row ∈ t'.allocations.rows)
    (hnew : t.allocations.get? row.id = none) :
    ∃ providerId generation allocation,
      c = .commitAllocation providerId generation allocation ∧ row.providerId = providerId := by
  have hold : row ∉ t.allocations.rows :=
    fun hmem => t.allocations.get?_eq_none_iff.mp hnew row hmem rfl
  cases h with
  | unchanged | provider | intentStored | intentDeleted => exact absurd hrow hold
  | released old existing hget hexisting =>
    exact absurd (t.allocations.mem_deleteWhere.mp hrow).1 hold
  | reconciled t' hallocations hresources hproviders =>
    rw [hallocations] at hrow
    exact absurd (t.allocations.mem_deleteWhere.mp hrow).1 hold
  | @committed providerId generation allocation old habsent hget hgeneration =>
    rcases t.allocations.mem_put.mp hrow with rfl | ⟨hmem, _⟩
    · exact ⟨providerId, generation, allocation, rfl, rfl⟩
    · exact absurd hmem hold

end Postgres

section Both

variable (capacity : Nat → R → Nat)

theorem Sqlite.drainSticky (providerId : String) :
    DrainSticky capacity Sqlite.exec (fun t c => ¬ Sqlite.Reopens providerId t c) providerId := by
  refine drainSticky_of_step capacity (I := fun _ => True) trivial
    (fun _ _ _ => trivial) (fun _ _ _ => trivial) ?_
  intro t call _ h hkeeps
  refine closed_ledgerCall capacity id Sqlite.exec_getProvider (I := fun _ => True)
    (fun t c => ¬ SetsState providerId c ∧ ¬ Sqlite.Reopens providerId t c)
    ?_ ?_ ?_ trivial h hkeeps
  · exact fun t c _ h hc => Sqlite.closed_step h hc.1 hc.2
  · exact fun _ _ _ _ => ⟨not_false, not_false⟩
  · intro t c row _ hrow hnew
    obtain ⟨id, generation, allocation, _, rfl, _, _, _, howner, _⟩ :=
      (Sqlite.effect_step t c).of_new_allocation hrow hnew
    exact ⟨id, generation, allocation, rfl, howner.trans⟩

theorem Postgres.drainSticky (providerId : String) :
    DrainSticky capacity Postgres.exec
      (fun t c => ¬ Postgres.Reopens providerId t c) providerId := by
  refine drainSticky_of_step capacity (I := Postgres.NodesNamed) ?_
    (fun t a ht => Postgres.nodesNamed_act ht a) ?_ ?_
  · exact fun row hrow => absurd hrow List.not_mem_nil
  · intro t call ht
    cases call with
    | other a => exact Postgres.nodesNamed_act ht a.val
    | allocate request =>
      rcases alone_allocate capacity Postgres.asU64 Postgres.exec_getProvider request t with
        hnone | ⟨_, hstore⟩
      · rw [LedgerCall.apply, hnone]
        exact ht
      · rw [LedgerCall.apply, hstore]
        exact (Postgres.effect_step ht _).nodesNamed ht
  · intro t call ht h hkeeps
    refine closed_ledgerCall capacity Postgres.asU64 Postgres.exec_getProvider
      (I := Postgres.NodesNamed)
      (fun t c => ¬ SetsState providerId c ∧ ¬ Postgres.Reopens providerId t c)
      ?_ ?_ ?_ ht h hkeeps
    · exact fun t c ht h hc => Postgres.closed_step ht h hc.1 hc.2
    · exact fun _ _ _ _ => ⟨not_false, not_false⟩
    · intro t c row ht hrow hnew
      obtain ⟨id, generation, allocation, rfl, howner⟩ :=
        (Postgres.effect_step ht c).of_new_allocation hrow hnew
      exact ⟨id, generation, allocation, rfl, fun _ => howner⟩

/-- **Sticky drains**: in both repositories a drained provider is never enabled
and accepts nothing over any calls none of which reopens it. -/
theorem drain_sticky_of_not_reopened (providerId : String) :
    DrainSticky capacity Sqlite.exec (fun t c => ¬ Sqlite.Reopens providerId t c) providerId ∧
      DrainSticky capacity Postgres.exec
        (fun t c => ¬ Postgres.Reopens providerId t c) providerId :=
  ⟨Sqlite.drainSticky capacity providerId, Postgres.drainSticky capacity providerId⟩

end Both

def drainedNode : List (StoreAction Unit) :=
  [.call (.registerProvider "node" [⟨"VCPU", 8, 0, (), 0⟩]),
    .call (.setProviderState "node" "Draining")]

/-- The agent reports the node as enabled and a server asks for room on it. -/
def heartbeatAndRequest : List (LedgerCall Unit) :=
  [.other ⟨.call (.syncProvider "node" "Enabled" [⟨"VCPU", 8, 0, (), 0⟩]), rfl⟩,
    .allocate
      ⟨"node", "allocation", "server", Table.ofList [⟨"VCPU", 1⟩], 3⟩]

theorem drain_sticky_over_heartbeat :
    Drained (run (fun t a => a.apply Postgres.exec t) PlacementTables.empty drainedNode) "node" ∧
      Always (LedgerCall.apply (fun total (_ : Unit) => total) Postgres.exec)
        (fun t => t.providerState "node" ≠ some "Enabled")
        (run (fun t a => a.apply Postgres.exec t) PlacementTables.empty drainedNode)
        heartbeatAndRequest := by
  have hdrained :
      Drained (run (fun t a => a.apply Postgres.exec t) PlacementTables.empty drainedNode)
        "node" := by
    decide
  have hsticky := (drain_sticky_of_not_reopened (fun total (_ : Unit) => total) "node").2
  exact ⟨hdrained, (hsticky drainedNode heartbeatAndRequest hdrained (by decide)).1⟩

/-- The agent fails to reach the node and reaches it again. -/
def outageReports : List (LedgerCall Unit) :=
  [.other ⟨.call (.syncProvider "node" "Unavailable" []), rfl⟩,
    .other ⟨.call (.syncProvider "node" "Enabled" []), rfl⟩]

/-- In PostgreSQL the agent's registration is enough. -/
def registrationReport : List (LedgerCall Unit) :=
  [.other ⟨.call (.registerProvider "node" []), rfl⟩]

theorem drain_reopened_by_agent :
    ¬ DrainSticky (fun total (_ : Unit) => total) Sqlite.exec (fun _ _ => True) "node" ∧
      ¬ DrainSticky (fun total (_ : Unit) => total) Postgres.exec (fun _ _ => True) "node" := by
  constructor
  · intro h
    have hsticky := (h drainedNode outageReports (by decide) (by decide)).1
    revert hsticky
    decide
  · intro h
    have hsticky := (h drainedNode registrationReport (by decide) (by decide)).1
    revert hsticky
    decide

end Placement
end O3k
