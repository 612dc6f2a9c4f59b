import O3k.Placement.SqliteEffects
import O3k.Relational.Forest
import O3k.Semantics.Run

/-!
# The provider hierarchy

Only the two metadata methods write a parent, and only after the walk up from it
has ended without meeting the provider.  The stored parent relation is therefore
a forest in every run.
-/

namespace O3k
namespace Placement

open Relational Relational.Transaction Semantics

variable {Q R : Type}

namespace PlacementTables

def parents (t : PlacementTables Q R) (id : String) : Option String :=
  (t.providers.get? id).bind ProviderRow.parentProviderId

theorem parents_putProvider (t : PlacementTables Q R) (row : ProviderRow Q R) :
    (t.putProvider row).parents = Function.update t.parents row.id row.parentProviderId := by
  funext id
  by_cases hid : id = row.id
  · subst hid
    simp [parents, putProvider]
  · simp [parents, putProvider, hid, t.providers.get?_put_of_ne (Ne.symm hid)]

theorem parents_of_get? {t : PlacementTables Q R} {row : ProviderRow Q R} {id : String}
    (hget : t.providers.get? id = some row) :
    t.parents id = row.parentProviderId := by
  simp [parents, hget]

theorem parents_putProvider_of_same {t : PlacementTables Q R} {old row : ProviderRow Q R}
    {id : String} (hget : t.providers.get? id = some old) (hid : row.id = old.id)
    (hparent : row.parentProviderId = old.parentProviderId) :
    (t.putProvider row).parents = t.parents := by
  have hkey : old.id = id := t.providers.key_of_get? hget
  rw [parents_putProvider, hid, hkey, hparent, ← parents_of_get? hget, Function.update_eq_self]

theorem parents_modifyProvider
    (t : PlacementTables Q R) (id : String) {f : ProviderRow Q R → ProviderRow Q R}
    (hid : ∀ row, (f row).id = row.id)
    (hparent : ∀ row, (f row).parentProviderId = row.parentProviderId) :
    (t.modifyProvider id f).parents = t.parents := by
  cases hget : t.providers.get? id with
  | none => rw [modifyProvider_of_none hget]
  | some row =>
    rw [modifyProvider_of_some hget]
    exact parents_putProvider_of_same hget (hid row) (hparent row)

end PlacementTables

theorem ProviderRow.applyUsed_parentProviderId
    (row : ProviderRow Q R) (op : Q → Q → Q) (resources : List (ResourceRow Q)) :
    (row.applyUsed op resources).parentProviderId = row.parentProviderId := by
  induction resources generalizing row with
  | nil => rfl
  | cons resource rest ih => exact ih _

theorem avoidedFrom_of_walkHierarchy {parentOf : String → Option String} {providerId : String}
    {fuel : Nat} {seen : List String} {cursor : Option String}
    (h : walkHierarchy parentOf providerId fuel seen cursor = .ok ()) :
    AvoidedFrom parentOf providerId cursor := by
  induction fuel generalizing seen cursor with
  | zero =>
    cases cursor with
    | none => exact avoidedFrom_none _ _
    | some id => cases h
  | succ fuel ih =>
    cases cursor with
    | none => exact avoidedFrom_none _ _
    | some id =>
      simp only [walkHierarchy] at h
      split at h
      · cases h
      · rename_i hcontinue
        exact avoidedFrom_some (fun hid => hcontinue (Or.inr hid)) (ih h)

theorem avoidedFrom_of_checkHierarchy {t : PlacementTables Q R} {providerId : String}
    {parentProviderId : Option String} (h : checkHierarchy t providerId parentProviderId = .ok ()) :
    AvoidedFrom t.parents providerId parentProviderId := by
  unfold checkHierarchy at h
  split at h
  · exact avoidedFrom_none _ _
  · split at h
    · cases h
    · exact avoidedFrom_of_walkHierarchy h

namespace Sqlite

/-- A body that leaves every parent as it is. -/
def KeepsParents {α : Type} (body : Body R α) : Prop :=
  ∀ t a t', body t = .ok (a, t') → t'.parents = t.parents

theorem KeepsParents.bind {α β : Type} {body : Body R α} {rest : α → Body R β}
    (hbody : KeepsParents body) (hrest : ∀ a, KeepsParents (rest a)) :
    KeepsParents (body >>= rest) := by
  intro t b t' h
  obtain ⟨a, t₁, hfirst, hsecond⟩ := bind_eq_ok.mp h
  rw [hrest a t₁ b t' hsecond, hbody t a t₁ hfirst]

theorem keepsParents_of_modifyProvider
    (providerId : String) {f : ProviderRow Nat R → ProviderRow Nat R}
    (hid : ∀ row, (f row).id = row.id)
    (hparent : ∀ row, (f row).parentProviderId = row.parentProviderId) :
    KeepsParents (modify (fun t => t.modifyProvider providerId f) : Body R Unit) := by
  intro t _ t' h
  cases h
  exact t.parents_modifyProvider providerId hid hparent

theorem keepsParents_bumpGeneration (providerId : String) :
    KeepsParents (bumpGeneration providerId : Body R Unit) :=
  keepsParents_of_modifyProvider providerId (fun _ => rfl) (fun _ => rfl)

theorem keepsParents_insertOrIgnoreProvider (nodeId state : String) :
    KeepsParents (insertOrIgnoreProvider nodeId state : Body R Unit) := by
  intro t _ t' h
  simp only [insertOrIgnoreProvider, get_bind_apply] at h
  split at h
  · cases h
    rfl
  · rename_i habsent
    cases h
    have hget : t.providers.get? nodeId = none := by
      refine t.providers.get?_eq_none_iff.mpr ?_
      intro row hrow hid
      exact habsent (List.any_eq_true.mpr ⟨row, hrow, by simp [hid]⟩)
    have hroot : t.parents nodeId = none := by
      simp [PlacementTables.parents, hget]
    show (t.putProvider (.fresh nodeId state 0)).parents = t.parents
    rw [PlacementTables.parents_putProvider]
    show Function.update t.parents nodeId none = t.parents
    rw [← hroot, Function.update_eq_self]

theorem keepsParents_writeInventories
    (nodeId : String) (inventories : List (PlacementInventoryRecord R)) :
    KeepsParents (writeInventories nodeId inventories) := by
  intro t _ t' h
  rcases writeInventories_ok h with ⟨_, rfl⟩ | ⟨row, rows, hget, _, rfl⟩
  · rfl
  · exact PlacementTables.parents_putProvider_of_same hget rfl rfl

theorem keepsParents_registerProviderBody
    (nodeId : String) (inventories : List (PlacementInventoryRecord R)) :
    KeepsParents (registerProviderBody nodeId inventories) := by
  refine (keepsParents_insertOrIgnoreProvider nodeId _).bind ?_
  intro _
  refine (keepsParents_writeInventories nodeId inventories).bind ?_
  intro _
  exact keepsParents_bumpGeneration nodeId

theorem keepsParents_syncProviderBody
    (nodeId state : String) (inventories : List (PlacementInventoryRecord R)) :
    KeepsParents (syncProviderBody nodeId state inventories) := by
  refine (keepsParents_insertOrIgnoreProvider nodeId _).bind ?_
  intro _
  refine
    (keepsParents_of_modifyProvider nodeId
      (f := fun row => row.withState (syncedState row.state state))
      (fun _ => rfl) (fun _ => rfl)).bind ?_
  intro _
  refine (keepsParents_writeInventories nodeId inventories).bind ?_
  intro _
  exact keepsParents_bumpGeneration nodeId

theorem keepsParents_refreshInventoriesBody
    (providerId : String) (generation : Nat) (inventories : List (PlacementInventoryRecord R)) :
    KeepsParents (refreshInventoriesBody providerId generation inventories) := by
  intro t _ t' h
  obtain ⟨row, rows, hget, _, _, rfl⟩ := refreshInventoriesBody_ok h
  exact PlacementTables.parents_putProvider_of_same hget rfl rfl

theorem keepsParents_setProviderStateBody (providerId state : String) :
    KeepsParents (setProviderStateBody providerId state : Body R Unit) := by
  intro t _ t' h
  obtain ⟨row, hget, rfl⟩ := setProviderStateBody_ok h
  exact PlacementTables.parents_putProvider_of_same hget rfl rfl

theorem keepsParents_commitAllocationBody
    (providerId : String) (generation : Nat) (allocation : PlacementAllocationRecord) :
    KeepsParents (commitAllocationBody providerId generation allocation : Body R _) := by
  intro t _ t' h
  obtain ⟨_, ⟨_, _, _, rfl⟩ | ⟨old, resources, _, hget, _, _, rfl⟩⟩ := commitAllocationBody_ok h
  · rfl
  · exact PlacementTables.parents_putProvider_of_same hget (by simp)
      (ProviderRow.applyUsed_parentProviderId _ _ _)

theorem keepsParents_releaseAllocationBody (providerId allocationId : String) :
    KeepsParents (releaseAllocationBody providerId allocationId : Body R Unit) := by
  intro t _ t' h
  rcases releaseAllocationBody_ok h with rfl | ⟨old, existing, _, _, hget, rfl⟩
  · rfl
  · exact PlacementTables.parents_putProvider_of_same
      (t := t.deleteAllocation allocationId) hget (by simp)
      (ProviderRow.applyUsed_parentProviderId _ _ _)

theorem keepsParents_upsertIntentBody (intent : PlacementIntentRecord) :
    KeepsParents (upsertIntentBody intent : Body R _) := by
  intro t _ t' h
  obtain ⟨_, _, _, rfl, _⟩ := upsertIntentBody_ok h
  rfl

theorem keepsParents_reconcileConsumersBody (durableConsumerIds : List String) :
    KeepsParents (reconcileConsumersBody durableConsumerIds : Body R _) := by
  intro t _ t' h
  cases (reconcileConsumersBody_ok h).2 with
  | unchanged => rfl
  | provider _ htarget => cases htarget
  | reconciled _ _ _ _ hproviders =>
    funext id
    simp only [PlacementTables.parents, hproviders]
    cases t.providers.get? id with
    | none => rfl
    | some row =>
      simp only [Option.map_some, Option.bind_some]
      split <;> rfl

/-- A metadata write that was accepted: the hierarchy allowed the parent, and
the provider has it now. -/
structure Reparented (t : Tables R) (providerId : String) (metadata : ProviderMetadata)
    (t' : Tables R) : Prop where
  checked : checkHierarchy t providerId metadata.parentProviderId = .ok ()
  parents : t'.parents = Function.update t.parents providerId metadata.parentProviderId
  stored : ∃ row, t'.providers.get? providerId = some row

variable {t : Tables R} {providerId : String} {metadata : ProviderMetadata}

theorem reparented_of_writeMetadata {t' : Tables R} {generation : Nat}
    (hcheck : checkHierarchy t providerId metadata.parentProviderId = .ok ())
    (h : writeMetadata providerId generation metadata t = .ok ((), t')) :
    Reparented t providerId metadata t' := by
  obtain ⟨row, hget, rfl⟩ := writeMetadata_ok h
  obtain rfl : row.id = providerId := t.providers.key_of_get? hget
  refine ⟨hcheck, t.parents_putProvider _, _, t.get?_putProvider rfl⟩

theorem reparented_of_updateProviderMetadataBody {t' : Tables R} {generation : Nat}
    (h : updateProviderMetadataBody providerId generation metadata t = .ok ((), t')) :
    Reparented t providerId metadata t' := by
  simp only [updateProviderMetadataBody, get_bind_apply] at h
  obtain ⟨_, _, h⟩ := orFail_bind_eq_ok.mp h
  obtain ⟨_, h⟩ := require_bind_eq_ok.mp h
  obtain ⟨_, hchecked, h⟩ := fromExcept_bind_eq_ok.mp h
  exact reparented_of_writeMetadata hchecked h

/-- The registration checks the hierarchy after it has written the provider's
own row, which the walk never looks at. -/
theorem reparented_of_registerProviderMetadataBody {t' : Tables R} {nodeId : String}
    {inventories : List (PlacementInventoryRecord R)}
    (hparent : metadata.parentProviderId ≠ some nodeId)
    (h : registerProviderMetadataBody nodeId inventories metadata t = .ok ((), t')) :
    Reparented t nodeId metadata t' := by
  obtain ⟨_, t₁, hinsert, h⟩ := bind_eq_ok.mp h
  obtain ⟨_, t₂, hwrite, h⟩ := bind_eq_ok.mp h
  obtain ⟨_, t₃, hbump, h⟩ := bind_eq_ok.mp h
  rw [get_bind_apply] at h
  obtain ⟨_, _, hfetch, h⟩ := bind_eq_ok.mp h
  obtain ⟨row, hget, hsame⟩ := orFail_eq_ok.mp hfetch
  cases hsame
  obtain ⟨_, hchecked, h⟩ := fromExcept_bind_eq_ok.mp h
  have hregistered : registerProviderBody nodeId inventories t = .ok ((), t₃) :=
    bind_eq_ok.mpr ⟨_, t₁, hinsert, bind_eq_ok.mpr ⟨_, t₂, hwrite, hbump⟩⟩
  obtain ⟨_, hparents, hstored⟩ := reparented_of_writeMetadata hchecked h
  refine ⟨?_, ?_, hstored⟩
  · rcases registerProviderBody_ok hregistered with ⟨_, rfl⟩ | ⟨row₀, hpublished, _, rfl⟩
    · exact hchecked
    · have hid := hpublished.id
      subst hid
      rwa [checkHierarchy_putProvider t hparent] at hchecked
  · rw [hparents, keepsParents_registerProviderBody nodeId inventories t () t₃ hregistered]

theorem parents_atomically {α : Type} {body : Body R α} (hbody : KeepsParents body) (t : Tables R) :
    (atomically body t).2.parents = t.parents :=
  atomically_rel (fun t' : Tables R => t'.parents = t.parents) rfl (hbody t)

/-- The provider whose parent a call writes, and the parent. -/
def reparents? : RepositoryCall R → Option (String × Option String)
  | .registerProviderMetadata nodeId _ metadata => some (nodeId, metadata.parentProviderId)
  | .updateProviderMetadata providerId _ metadata => some (providerId, metadata.parentProviderId)
  | _ => none

/-- The only parent that a call changes is the one it writes, and only when the
hierarchy allows it. -/
def ParentWritten (t : Tables R) (c : RepositoryCall R) (t' : Tables R) : Prop :=
  t'.parents = t.parents ∨
    ∃ providerId parentProviderId,
      reparents? c = some (providerId, parentProviderId) ∧
        checkHierarchy t providerId parentProviderId = .ok () ∧
        t'.parents = Function.update t.parents providerId parentProviderId

theorem parentWritten_step (t : Tables R) (c : RepositoryCall R) :
    ParentWritten t c (step t c) := by
  cases c with
  | getProvider | listProviders | getIntent | deleteIntent => exact Or.inl rfl
  | registerProvider nodeId inventories =>
    left
    simp only [step, exec, registerProvider, PlacementTables.thenProvider_snd]
    exact parents_atomically (keepsParents_registerProviderBody nodeId inventories) t
  | syncProvider nodeId state inventories =>
    left
    simp only [step, exec, syncProvider]
    split
    · rfl
    · rw [PlacementTables.thenProvider_snd]
      exact parents_atomically (keepsParents_syncProviderBody nodeId state inventories) t
  | refreshInventories providerId generation inventories =>
    left
    simp only [step, exec, refreshInventories, PlacementTables.thenProvider_snd]
    exact parents_atomically
      (keepsParents_refreshInventoriesBody providerId generation inventories) t
  | setProviderState providerId state =>
    left
    simp only [step, exec, setProviderState]
    split
    · rfl
    · exact parents_atomically (keepsParents_setProviderStateBody providerId state) t
  | commitAllocation providerId generation allocation =>
    left
    simp only [step, exec, commitAllocation]
    split
    · rfl
    · exact parents_atomically
        (keepsParents_commitAllocationBody providerId generation allocation) t
  | releaseAllocation providerId allocationId =>
    left
    exact parents_atomically (keepsParents_releaseAllocationBody providerId allocationId) t
  | upsertIntent intent =>
    left
    simp only [step, exec, upsertIntent]
    split
    · rfl
    · exact parents_atomically (keepsParents_upsertIntentBody intent) t
  | reconcileConsumers durableConsumerIds =>
    left
    exact parents_atomically (keepsParents_reconcileConsumersBody durableConsumerIds) t
  | registerProviderMetadata nodeId inventories metadata =>
    simp only [step, exec, registerProviderMetadata]
    split
    · exact Or.inl rfl
    · rename_i hvalid
      have hparent : metadata.parentProviderId ≠ some nodeId := by
        intro hself
        exact hvalid (by simp [invalidMetadata, hself])
      rw [PlacementTables.thenProvider_snd]
      refine atomically_rel (ParentWritten t _) (Or.inl rfl) ?_
      intro _ t' h
      have hreparented := reparented_of_registerProviderMetadataBody hparent h
      exact Or.inr ⟨nodeId, _, rfl, hreparented.checked, hreparented.parents⟩
  | updateProviderMetadata providerId generation metadata =>
    simp only [step, exec, updateProviderMetadata]
    split
    · exact Or.inl rfl
    · rw [PlacementTables.thenProvider_snd]
      refine atomically_rel (ParentWritten t _) (Or.inl rfl) ?_
      intro _ t' h
      have hreparented := reparented_of_updateProviderMetadataBody h
      exact Or.inr ⟨providerId, _, rfl, hreparented.checked, hreparented.parents⟩

/-- At most one provider has a new parent, one that the hierarchy allowed. -/
def HierarchyKept (t t' : Tables R) : Prop :=
  t'.parents = t.parents ∨
    ∃ providerId parentProviderId,
      checkHierarchy t providerId parentProviderId = .ok () ∧
        t'.parents = Function.update t.parents providerId parentProviderId

theorem hierarchyKept_step (t : Tables R) (c : RepositoryCall R) : HierarchyKept t (step t c) := by
  rcases parentWritten_step t c with hsame | ⟨providerId, parentProviderId, _, hcheck, hparents⟩
  · exact Or.inl hsame
  · exact Or.inr ⟨providerId, parentProviderId, hcheck, hparents⟩

/-- The forest is kept by every call. -/
theorem acyclic_step (h : Acyclic t.parents) (c : RepositoryCall R) :
    Acyclic (step t c).parents := by
  rcases hierarchyKept_step t c with hsame | ⟨providerId, parent, hcheck, hparents⟩
  · rwa [hsame]
  · rw [hparents]
    exact h.update (avoidedFrom_of_checkHierarchy hcheck)

/-- A metadata call that the repository answers with an error. -/
def MetadataRejected (t : Tables R) : RepositoryCall R → Prop
  | .registerProviderMetadata nodeId inventories metadata =>
    ∃ e, (registerProviderMetadata nodeId inventories metadata t).1 = .error e
  | .updateProviderMetadata providerId generation metadata =>
    ∃ e, (updateProviderMetadata providerId generation metadata t).1 = .error e
  | _ => False

theorem thenProvider_error {body : Body R Unit} {e : StoreError}
    (hstored : ∀ t', body t = .ok ((), t') → ∃ row, t'.providers.get? providerId = some row)
    (h : (PlacementTables.thenProvider id providerId (atomically body t)).1 = .error e) :
    (PlacementTables.thenProvider id providerId (atomically body t)).2 = t := by
  rw [PlacementTables.thenProvider_snd]
  cases hbody : body t with
  | error e' => rw [atomically_of_error hbody]
  | ok outcome =>
    obtain ⟨_, t'⟩ := outcome
    obtain ⟨row, hget⟩ := hstored t' hbody
    rw [atomically_of_ok hbody] at h
    simp [PlacementTables.thenProvider, PlacementTables.getProvider, hget] at h

theorem unchanged_of_metadataRejected {c : RepositoryCall R} (h : MetadataRejected t c) :
    step t c = t := by
  cases c with
  | registerProviderMetadata nodeId inventories metadata =>
    obtain ⟨e, h⟩ := h
    simp only [step, exec]
    unfold registerProviderMetadata at h ⊢
    split
    · rfl
    · rename_i hvalid
      rw [if_neg hvalid] at h
      refine thenProvider_error ?_ h
      intro t' hbody
      have hparent : metadata.parentProviderId ≠ some nodeId := by
        intro hself
        exact hvalid (by simp [invalidMetadata, hself])
      exact (reparented_of_registerProviderMetadataBody hparent hbody).stored
  | updateProviderMetadata providerId generation metadata =>
    obtain ⟨e, h⟩ := h
    simp only [step, exec]
    unfold updateProviderMetadata at h ⊢
    split
    · rfl
    · rename_i hvalid
      rw [if_neg hvalid] at h
      refine thenProvider_error ?_ h
      intro t' hbody
      exact (reparented_of_updateProviderMetadataBody hbody).stored
  | _ => exact absurd h not_false

/-- **The provider hierarchy stays a forest**: from any forest, in every run
of repository calls, the stored parent relation has no cycle, and a metadata
call that is rejected leaves the tables as they were. -/
theorem provider_hierarchy_forest {t : Tables R}
    (hstart : Acyclic t.parents) (calls : List (RepositoryCall R)) :
    Always step (fun t => Acyclic t.parents) t calls ∧
      EachStep step (fun t c => MetadataRejected t c → step t c = t) t calls := by
  constructor
  · exact always_of_invariant (fun _ c h => acyclic_step h c) t calls hstart
  · exact eachStep_of_invariant (I := fun _ => True) (fun _ _ _ => trivial)
      (fun t c _ => unchanged_of_metadataRejected (t := t) (c := c)) t calls trivial

/-- From the empty store: a root, a child of it, and the refused attempt to
hang the root under its child. -/
theorem provider_hierarchy_forest_of_empty :
    let calls : List (RepositoryCall Unit) :=
      [.registerProviderMetadata "root" [] ⟨none, [], [], none⟩,
        .registerProviderMetadata "leaf" [] ⟨some "root", [], [], none⟩,
        .updateProviderMetadata "root" 2 ⟨some "leaf", [], [], none⟩]
    Always step (fun t => Acyclic t.parents) PlacementTables.empty calls ∧
      EachStep step (fun t c => MetadataRejected t c → step t c = t)
        PlacementTables.empty calls :=
  provider_hierarchy_forest (acyclic_of_roots (fun _ => rfl)) _

end Sqlite
end Placement
end O3k
