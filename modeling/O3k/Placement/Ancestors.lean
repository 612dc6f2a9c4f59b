import O3k.Placement.ProviderForest
import O3k.Placement.SqliteReplies

/-!
# The ancestors of a provider

Candidates are only taken from below enabled providers.  `ancestors_enabled`
follows the parents of a provider for 64 rounds and needs one round to see that
there is no further parent, so it is exact for providers with fewer than 64
ancestors.  The stored hierarchy admits more: the check of a new parent counts
the rows above the provider, not those below it.
-/

namespace O3k
namespace Placement

open Relational Relational.Transaction Semantics

variable {R : Type}

/-- The providers by id, collected into a map: of several with one id the last
stays. -/
def providerById (providers : List (ResourceProvider R)) (id : String) :
    Option (ResourceProvider R) :=
  providers.reverse.find? (fun provider => provider.id = id)

/-- The loop of `ancestors_enabled`. -/
def climbEnabled (byId : String → Option (ResourceProvider R)) :
    (rounds : Nat) → (seen : List String) → (cursor : Option String) → Bool
  | 0, _, _ => false
  | _ + 1, _, none => true
  | rounds + 1, seen, some id =>
    if id ∈ seen then
      false
    else
      match byId id with
      | none => false
      | some parent =>
        if parent.state ≠ .enabled then
          false
        else
          climbEnabled byId rounds (id :: seen) parent.parentProviderId

def ancestorsEnabled (provider : ResourceProvider R)
    (byId : String → Option (ResourceProvider R)) : Bool :=
  climbEnabled byId 64 [] provider.parentProviderId

section Climb

variable (byId : String → Option (ResourceProvider R))

def namedParent (id : String) : Option String := (byId id).bind ResourceProvider.parentProviderId

def IsEnabled (id : String) : Prop :=
  ∃ provider, byId id = some provider ∧ provider.state = .enabled

/-- The ids on the way up from the parent of a provider. -/
def IsAncestor (provider : ResourceProvider R) (id : String) : Prop :=
  ∃ parent, provider.parentProviderId = some parent ∧
    Relation.ReflTransGen (Climbs (namedParent byId)) parent id

def EveryAncestorEnabled (provider : ResourceProvider R) : Prop :=
  ∀ id, IsAncestor byId provider id → IsEnabled byId id

def HasFewAncestors (provider : ResourceProvider R) : Prop :=
  ∀ parent, provider.parentProviderId = some parent →
    ∃ n < 64, HasDepth (namedParent byId) parent n

variable {byId}

theorem namedParent_of_byId {id : String} {provider : ResourceProvider R}
    (h : byId id = some provider) :
    namedParent byId id = provider.parentProviderId := by
  simp [namedParent, h]

theorem enabled_of_climbEnabled {rounds : Nat} {seen : List String} {cursor : Option String}
    (h : climbEnabled byId rounds seen cursor = true) :
    0 < rounds ∧
      ∀ id, cursor = some id →
        (∀ a, Relation.ReflTransGen (Climbs (namedParent byId)) id a → IsEnabled byId a) ∧
          ∃ n < rounds, HasDepth (namedParent byId) id n := by
  induction rounds generalizing seen cursor with
  | zero => cases h
  | succ rounds ih =>
    refine ⟨Nat.succ_pos rounds, ?_⟩
    rintro id rfl
    simp only [climbEnabled] at h
    split_ifs at h
    split at h
    · cases h
    · rename_i parent hparent
      split_ifs at h with hstate
      have hnamed := namedParent_of_byId hparent
      obtain ⟨hpos, habove⟩ := ih h
      have hself : IsEnabled byId id := ⟨parent, hparent, not_not.mp hstate⟩
      cases hnext : parent.parentProviderId with
      | none =>
        rw [hnext] at hnamed
        refine ⟨?_, 1, Nat.succ_lt_succ hpos, .root hnamed⟩
        intro a hclimb
        rcases Relation.ReflTransGen.cases_head hclimb with rfl | ⟨next, hstep, _⟩
        · exact hself
        · cases hnamed.symm.trans hstep
      | some next =>
        rw [hnext] at hnamed
        obtain ⟨henabled, n, hn, hdepth⟩ := habove next hnext
        refine ⟨?_, n + 1, Nat.succ_lt_succ hn, .nested hnamed hdepth⟩
        intro a hclimb
        rcases Relation.ReflTransGen.cases_head hclimb with rfl | ⟨next', hstep, hrest⟩
        · exact hself
        · cases hnamed.symm.trans hstep
          exact henabled a hrest

theorem climbEnabled_of_depth {id : String} {n : Nat}
    (hdepth : HasDepth (namedParent byId) id n) {rounds : Nat} {seen : List String}
    (hrounds : n < rounds) (hseen : ∀ s ∈ seen, Relation.TransGen (Climbs (namedParent byId)) s id)
    (henabled : ∀ a, Relation.ReflTransGen (Climbs (namedParent byId)) id a → IsEnabled byId a) :
    climbEnabled byId rounds seen (some id) = true := by
  induction hdepth generalizing rounds seen with
  | @root id hroot =>
    obtain ⟨parent, hparent, hstate⟩ := henabled id .refl
    have hnew : id ∉ seen := fun hmem => (HasDepth.root hroot).not_on_cycle (hseen id hmem)
    obtain ⟨rest, rfl⟩ := Nat.exists_eq_add_of_lt hrounds
    rw [namedParent_of_byId hparent] at hroot
    simp only [climbEnabled, if_neg hnew, hparent, hstate, hroot, ne_eq, not_true_eq_false,
      if_false, Nat.add_comm 1]
  | @nested id next n hnext hdepth ih =>
    obtain ⟨parent, hparent, hstate⟩ := henabled id .refl
    have hnew : id ∉ seen :=
      fun hmem => (HasDepth.nested hnext hdepth).not_on_cycle (hseen id hmem)
    obtain ⟨rounds, rfl⟩ : ∃ k, rounds = k + 1 := Nat.exists_eq_add_one.mpr (by omega)
    have hrest : climbEnabled byId rounds (id :: seen) (some next) = true := by
      refine ih (Nat.lt_of_succ_lt_succ hrounds) ?_ ?_
      · intro s hs
        rcases List.mem_cons.mp hs with rfl | hs
        · exact .single hnext
        · exact (hseen s hs).tail hnext
      · exact fun a hclimb => henabled a (.head hnext hclimb)
    rw [namedParent_of_byId hparent] at hnext
    simp only [climbEnabled, if_neg hnew, hparent, hstate, hnext, ne_eq, not_true_eq_false,
      if_false, hrest]

/-- **What `ancestors_enabled` decides.** -/
theorem ancestorsEnabled_iff (provider : ResourceProvider R) :
    ancestorsEnabled provider byId = true ↔
    EveryAncestorEnabled byId provider ∧ HasFewAncestors byId provider := by
  unfold ancestorsEnabled
  cases hparent : provider.parentProviderId with
  | none =>
    refine iff_of_true rfl ⟨?_, ?_⟩
    · rintro id ⟨parent, hsome, _⟩
      cases hparent.symm.trans hsome
    · intro parent hsome
      cases hparent.symm.trans hsome
  | some parent =>
    constructor
    · intro h
      obtain ⟨henabled, hdepth⟩ := (enabled_of_climbEnabled h).2 parent rfl
      refine ⟨?_, ?_⟩
      · rintro id ⟨parent', hsome, hclimb⟩
        cases hparent.symm.trans hsome
        exact henabled id hclimb
      · intro parent' hsome
        cases hparent.symm.trans hsome
        exact hdepth
    · rintro ⟨henabled, hfew⟩
      obtain ⟨n, hn, hdepth⟩ := hfew parent hparent
      exact climbEnabled_of_depth hdepth hn (fun s hs => absurd hs List.not_mem_nil)
        (fun a hclimb => henabled a ⟨parent, hparent, hclimb⟩)

end Climb

theorem providerById_eq_some_iff {providers : List (ResourceProvider R)}
    (hnodup : (providers.map ResourceProvider.id).Nodup)
    {id : String} {provider : ResourceProvider R} :
    providerById providers id = some provider ↔ provider ∈ providers ∧ provider.id = id := by
  unfold providerById
  constructor
  · intro h
    have hid := List.find?_some h
    exact ⟨List.mem_reverse.mp (List.mem_of_find?_eq_some h), of_decide_eq_true hid⟩
  · rintro ⟨hmem, rfl⟩
    cases hfind : providers.reverse.find? (fun p => p.id = provider.id) with
    | none =>
      have hother := List.find?_eq_none.mp hfind provider (List.mem_reverse.mpr hmem)
      exact absurd (decide_eq_true rfl) hother
    | some found =>
      have hfound := List.mem_reverse.mp (List.mem_of_find?_eq_some hfind)
      have hid := List.find?_some hfind
      rw [List.inj_on_of_nodup_map hnodup hfound hmem (of_decide_eq_true hid)]

namespace Sqlite

variable {t : Tables R}

theorem providerFromRecord_parent {row : ProviderRow Nat R} {provider : ResourceProvider R}
    (h : providerFromRecord (t.providerRecord id row) = .ok provider) :
    provider.parentProviderId = row.parentProviderId := by
  unfold providerFromRecord at h
  split at h
  · cases h
  · cases h
    rfl

section Providers

variable {t : Tables R} {providers : List (ResourceProvider R)}

theorem ids_of_providers (h : (Program.alone exec PlacementLedger.providers t).1 = .ok providers) :
    providers.map ResourceProvider.id = t.providers.rows.map ProviderRow.id := by
  have hread : (t.providers.rows.map (t.providerRecord id)).mapM providerFromRecord
      = .ok providers := h
  have heach :
      List.Forall₂ (fun record provider => record.id = provider.id)
        (t.providers.rows.map (t.providerRecord id)) providers := by
    refine except_mapM_forall₂ ?_ hread
    intro record hrecord provider hprovider
    obtain ⟨row, _, rfl⟩ := List.mem_map.mp hrecord
    exact (providerFromRecord_ok hprovider).1.symm
  have hids :
      (t.providers.rows.map (t.providerRecord id)).map PlacementProviderRecord.id
        =
      providers.map ResourceProvider.id := by
    rw [← List.forall₂_eq_eq_eq, List.forall₂_map_left_iff, List.forall₂_map_right_iff]
    exact heach
  rw [← hids, List.map_map]
  rfl

theorem nodup_providers (h : (Program.alone exec PlacementLedger.providers t).1 = .ok providers) :
    (providers.map ResourceProvider.id).Nodup := by
  rw [ids_of_providers h]
  exact t.providers.keys_nodup

theorem mem_providers_iff (h : (Program.alone exec PlacementLedger.providers t).1 = .ok providers)
    {provider : ResourceProvider R} :
    provider ∈ providers ↔ ∃ row, t.providers.get? provider.id = some row ∧
      providerFromRecord (t.providerRecord id row) = .ok provider := by
  rw [mem_of_except_mapM h]
  constructor
  · rintro ⟨record, hrecord, hread⟩
    obtain ⟨row, hrow, rfl⟩ := List.mem_map.mp hrecord
    refine ⟨row, ?_, hread⟩
    rw [(providerFromRecord_ok hread).1]
    exact t.providers.get?_key_of_mem hrow
  · rintro ⟨row, hget, hread⟩
    exact ⟨_, List.mem_map_of_mem (t.providers.mem_of_get? hget), hread⟩

theorem providerById_iff (h : (Program.alone exec PlacementLedger.providers t).1 = .ok providers)
    {id' : String} {provider : ResourceProvider R} :
    providerById providers id' = some provider ↔ ∃ row, t.providers.get? id' = some row ∧
      providerFromRecord (t.providerRecord id row) = .ok provider := by
  rw [providerById_eq_some_iff (nodup_providers h), mem_providers_iff h]
  constructor
  · rintro ⟨⟨row, hget, hread⟩, rfl⟩
    exact ⟨row, hget, hread⟩
  · rintro ⟨row, hget, hread⟩
    have hid : provider.id = id' := by
      rw [(providerFromRecord_ok hread).1, t.providers.key_of_get? hget]
    exact ⟨⟨row, hid ▸ hget, hread⟩, hid⟩

theorem namedParent_providerById
    (h : (Program.alone exec PlacementLedger.providers t).1 = .ok providers) :
    namedParent (providerById providers) = t.parents := by
  funext id'
  cases hget : t.providers.get? id' with
  | none =>
    have hnone : providerById providers id' = none := by
      cases hfound : providerById providers id' with
      | none => rfl
      | some provider =>
        obtain ⟨row, hrow, _⟩ := (providerById_iff h).mp hfound
        cases hget.symm.trans hrow
    simp [namedParent, PlacementTables.parents, hget, hnone]
  | some row =>
    obtain ⟨provider, _, hread⟩ :=
      except_mapM_ok_of_mem h (List.mem_map_of_mem (t.providers.mem_of_get? hget))
    have hfound := (providerById_iff h).mpr ⟨row, hget, hread⟩
    rw [namedParent_of_byId hfound, PlacementTables.parents_of_get? hget,
      providerFromRecord_parent hread]

end Providers

theorem providers_of_enabled (h : ∀ row ∈ t.providers.rows, row.state = "Enabled") :
    ∃ providers, (Program.alone exec PlacementLedger.providers t).1 = .ok providers := by
  refine except_mapM_of_forall ?_
  intro record hrecord
  obtain ⟨row, hrow, rfl⟩ := List.mem_map.mp hrecord
  have hstate : providerStateFromStr row.state = some .enabled :=
    providerStateFromStr_eq_some_iff.mpr (h row hrow)
  simp only [providerFromRecord, PlacementTables.providerRecord, hstate]
  exact ⟨_, rfl⟩

/-- Every provider has at most 64 rows on its way up, itself included. -/
def Shallow (t : Tables R) : Prop := ∀ id, ∃ n ≤ 64, HasDepth t.parents id n

/-- A parent that the call writes lies high enough for everything below the
provider. -/
def StaysShallow (t : Tables R) (c : RepositoryCall R) : Prop :=
  ∀ providerId parent,
    reparents? c = some (providerId, some parent) →
      (step t c).parents providerId = some parent →
        ∀ n, HasDepth t.parents parent n →
          ∀ id k, ClimbsIn t.parents k id providerId → k + n < 64

/-- `ancestors_enabled` answers, for every provider that the ledger reads,
whether every ancestor is enabled. -/
def AncestorsAgree (t : Tables R) : Prop :=
  ∀ providers, (Program.alone exec PlacementLedger.providers t).1 = .ok providers →
    ∀ provider ∈ providers,
      (ancestorsEnabled provider (providerById providers) = true ↔
      EveryAncestorEnabled (providerById providers) provider)

theorem shallow_step (h : Shallow t) {c : RepositoryCall R} (hguard : StaysShallow t c) :
    Shallow (step t c) := by
  rcases parentWritten_step t c with hsame | ⟨providerId, parent, hcall, hcheck, hparents⟩
  · rw [Shallow, hsame]
    exact h
  · rw [Shallow, hparents]
    intro id
    obtain ⟨m, hm, hdepth⟩ := h id
    cases parent with
    | none =>
      obtain ⟨m', hle, hnew⟩ := hdepth.update_none providerId
      exact ⟨m', Nat.le_trans hle hm, hnew⟩
    | some parent =>
      obtain ⟨n, _, hparent⟩ := h parent
      rcases hparent.update (avoidedFrom_of_checkHierarchy hcheck) hdepth with
        hold | ⟨k, hclimb, hnew⟩
      · exact ⟨m, hm, hold⟩
      · have hwritten : (step t c).parents providerId = some parent := by
          rw [hparents, Function.update_self]
        have := hguard providerId parent hcall hwritten n hparent id k hclimb
        exact ⟨k + (n + 1), by omega, hnew⟩

theorem Shallow.ancestorsAgree (h : Shallow t) : AncestorsAgree t := by
  intro providers hproviders provider hmem
  have hnamed := namedParent_providerById hproviders
  have hfew : HasFewAncestors (providerById providers) provider := by
    intro parent hparent
    obtain ⟨row, hget, hread⟩ := (mem_providers_iff hproviders).mp hmem
    rw [providerFromRecord_parent hread] at hparent
    obtain ⟨n, hn, hdepth⟩ := h provider.id
    rw [hnamed]
    cases hdepth with
    | root hroot => cases (PlacementTables.parents_of_get? hget ▸ hroot).symm.trans hparent
    | @nested _ next m hnext hdepth =>
      rw [PlacementTables.parents_of_get? hget] at hnext
      cases hnext.symm.trans hparent
      exact ⟨m, by omega, hdepth⟩
  rw [ancestorsEnabled_iff]
  exact ⟨And.left, fun henabled => ⟨henabled, hfew⟩⟩

/-- **Ancestor eligibility**: while no metadata write leaves a provider with 64
or more ancestors, `ancestors_enabled` is right about every provider. -/
theorem ancestors_enabled_exact_while_shallow (calls : List (RepositoryCall R))
    (hshallow : EachStep step StaysShallow PlacementTables.empty calls) :
    Always step AncestorsAgree PlacementTables.empty calls := by
  have hstart : Shallow (PlacementTables.empty : Tables R) :=
    fun id => ⟨1, by omega, .root rfl⟩
  have halways :=
    always_of_guarded (I := Shallow) (fun _ _ h hguard => shallow_step h hguard)
      _ calls hstart hshallow
  exact halways.imp (fun _ => Shallow.ancestorsAgree)

theorem ancestors_enabled_exact_while_shallow_leaf :
    let calls : List (RepositoryCall Unit) :=
      [.registerProviderMetadata "root" [] ⟨none, [], [], none⟩,
        .registerProviderMetadata "leaf" [] ⟨some "root", [], [], none⟩]
    Always step AncestorsAgree PlacementTables.empty calls := by
  refine ancestors_enabled_exact_while_shallow _ ⟨?_, ?_, trivial⟩
  · exact fun _ _ hcall => by cases congrArg (Option.map Prod.snd) hcall
  · have hflat : ∀ id, (step PlacementTables.empty
        (.registerProviderMetadata "root" [] ⟨none, [], [], none⟩ :
          RepositoryCall Unit)).parents id = none := by
      intro id
      rcases parentWritten_step PlacementTables.empty
        (.registerProviderMetadata "root" [] ⟨none, [], [], none⟩ :
          RepositoryCall Unit) with hsame | ⟨_, _, hcall, _, hparents⟩
      · rw [hsame]
        rfl
      · cases hcall
        rw [hparents]
        simp [Function.update_apply, PlacementTables.parents, PlacementTables.empty]
    intro providerId parent _ _ n hdepth id k hclimb
    have hn := hdepth.unique (.root (hflat parent))
    cases hclimb with
    | refl => omega
    | step hnext _ => cases (hflat _).symm.trans hnext

variable {n : Nat}

theorem walkHierarchy_of_depth {parentOf : String → Option String} {providerId id : String}
    (hdepth : HasDepth parentOf id n) (havoided : AvoidedFrom parentOf providerId (some id))
    {fuel : Nat} {seen : List String} (hfuel : n ≤ fuel)
    (hseen : ∀ s ∈ seen, Relation.TransGen (Climbs parentOf) s id) :
    walkHierarchy parentOf providerId fuel seen (some id) = .ok () := by
  induction hdepth generalizing fuel seen with
  | @root id hroot =>
    obtain ⟨rest, rfl⟩ : ∃ k, fuel = k + 1 := Nat.exists_eq_add_one.mpr (by omega)
    have hnew : id ∉ seen := fun hmem => (HasDepth.root hroot).not_on_cycle (hseen id hmem)
    have hother : id ≠ providerId := havoided id rfl id .refl
    simp only [walkHierarchy, hnew, hother, or_self, if_false, hroot]
  | @nested id next n hnext hdepth ih =>
    obtain ⟨rest, rfl⟩ : ∃ k, fuel = k + 1 := Nat.exists_eq_add_one.mpr (by omega)
    have hnew : id ∉ seen :=
      fun hmem => (HasDepth.nested hnext hdepth).not_on_cycle (hseen id hmem)
    have hother : id ≠ providerId := havoided id rfl id .refl
    simp only [walkHierarchy, hnew, hother, or_self, if_false, hnext]
    refine ih ?_ (Nat.le_of_succ_le_succ hfuel) ?_
    · rintro s hs b hclimb
      cases hs
      exact havoided id rfl b (.head hnext hclimb)
    · intro s hs
      rcases List.mem_cons.mp hs with rfl | hs
      · exact .single hnext
      · exact (hseen s hs).tail hnext

theorem step_registerProviderMetadata_fresh {nodeId : String} {parent : Option String}
    (habsent : ∀ row ∈ t.providers.rows, row.id ≠ nodeId ∧ row.nodeId ≠ nodeId)
    (hparent : parent ≠ some nodeId) (hcheck : checkHierarchy t nodeId parent = .ok ()) :
    step t (.registerProviderMetadata nodeId [] ⟨parent, [], [], none⟩) =
    t.putProvider ⟨nodeId, nodeId, "Enabled", 2, parent, none, ∅, ∅, ∅⟩ := by
  have hnone :
      (t.providers.rows.any fun row => row.id = nodeId || row.nodeId = nodeId) = false := by
    refine List.any_eq_false.mpr ?_
    intro row hrow
    simp [habsent row hrow]
  have hbody :
      registerProviderMetadataBody nodeId ([] : List (PlacementInventoryRecord R))
          ⟨parent, [], [], none⟩ t
        =
      .ok ((), t.putProvider ⟨nodeId, nodeId, "Enabled", 2, parent, none, ∅, ∅, ∅⟩) := by
    unfold registerProviderMetadataBody
    have hfresh : insertOrIgnoreProvider nodeId "Enabled" t
        = .ok ((), t.putProvider (.fresh nodeId "Enabled" 0 : ProviderRow Nat R)) := by
      simp only [insertOrIgnoreProvider, get_bind_apply, hnone]
      rfl
    rw [bind_of_ok hfresh]
    have hget : ∀ row : ProviderRow Nat R, row.id = nodeId →
        (t.putProvider row).providers.get? nodeId = some row :=
      fun _ hid => t.get?_putProvider hid
    have hchecked : ∀ row : ProviderRow Nat R, row.id = nodeId →
        checkHierarchy (t.putProvider row) nodeId parent = .ok () := by
      rintro row rfl
      rw [checkHierarchy_putProvider t hparent, hcheck]
    have hsmall :
        ((ProviderRow.fresh nodeId "Enabled" 0 : ProviderRow Nat R).withInventories ∅).bump.generation
          ≤ i64Max :=
      show 1 ≤ i64Max by decide
    simp only [writeInventories, recomputePlacementUsed, replacePlacementInventories,
      bumpGeneration, bind_assoc, get_bind_apply, pure_bind, hget _ (ProviderRow.fresh_id _ _ _),
      List.map_nil, List.zip_nil_left, insertInventories, fromExcept_ok_bind, set_bind_apply,
      modify_bind_apply]
    rw [t.putProvider_putProvider (by rfl), t.modifyProvider_putProvider (by rfl) (by rfl),
      hget _ (by rfl), orFail_some_bind, hchecked _ (by rfl), fromExcept_ok_bind, writeMetadata,
      require_bind_of_pos _ _ hsmall, get_bind_apply, hget _ (by rfl)]
    show Except.ok ((), (t.putProvider _).putProvider _) = _
    rw [t.putProvider_putProvider (by rfl)]
    rfl
  have hvalid : invalidMetadata nodeId ⟨parent, [], [], none⟩ = false := by
    simpa [invalidMetadata] using hparent
  simp only [step, exec, registerProviderMetadata, hvalid, Bool.false_eq_true, if_false,
    PlacementTables.thenProvider_snd, atomically_of_ok hbody]

/-- The names of the chain. -/
def link (i : Nat) : String := String.ofList (List.replicate (i + 1) 'p')

theorem link_injective : Function.Injective link := by
  intro i j h
  have hlength := congrArg (fun s : String => s.toList.length) h
  simpa [link] using hlength

def linkParent : Nat → Option String
  | 0 => none
  | i + 1 => some (link i)

def registerLink (i : Nat) : RepositoryCall Unit :=
  .registerProviderMetadata (link i) [] ⟨linkParent i, [], [], none⟩

def linkRow (i : Nat) : ProviderRow Nat Unit :=
  ⟨link i, link i, "Enabled", 2, linkParent i, none, ∅, ∅, ∅⟩

def linked : Nat → Tables Unit
  | 0 => PlacementTables.empty
  | n + 1 => (linked n).putProvider (linkRow n)

theorem get?_linked {id : String} {row : ProviderRow Nat Unit} :
    (linked n).providers.get? id = some row ↔ ∃ i < n, link i = id ∧ row = linkRow i := by
  induction n with
  | zero => simp [linked, PlacementTables.empty]
  | succ n ih =>
    by_cases hid : link n = id
    · subst hid
      rw [linked, PlacementTables.get?_putProvider _ (by rfl), Option.some.injEq]
      constructor
      · rintro rfl
        exact ⟨n, Nat.lt_succ_self n, rfl, rfl⟩
      · rintro ⟨i, _, hlink, rfl⟩
        rw [link_injective hlink]
    · have hother : (linked (n + 1)).providers.get? id = (linked n).providers.get? id :=
        (linked n).providers.get?_put_of_ne hid
      rw [hother, ih]
      constructor
      · rintro ⟨i, hi, hlink, hrow⟩
        exact ⟨i, Nat.lt_succ_of_lt hi, hlink, hrow⟩
      · rintro ⟨i, hi, hlink, hrow⟩
        rcases Nat.lt_succ_iff_lt_or_eq.mp hi with hlt | rfl
        · exact ⟨i, hlt, hlink, hrow⟩
        · exact absurd hlink hid

theorem parents_linked {i : Nat} (h : i < n) : (linked n).parents (link i) = linkParent i :=
  PlacementTables.parents_of_get? (get?_linked.mpr ⟨i, h, rfl, rfl⟩)

theorem depth_linked {i : Nat} (h : i < n) : HasDepth (linked n).parents (link i) (i + 1) := by
  induction i with
  | zero => exact .root (parents_linked h)
  | succ i ih => exact .nested (parents_linked h) (ih (by omega))

theorem climbs_linked {i : Nat} (h : i < n) {b : String}
    (hclimb : Relation.ReflTransGen (Climbs (linked n).parents) (link i) b) :
    ∃ j < n, b = link j := by
  induction hclimb with
  | refl => exact ⟨i, h, rfl⟩
  | tail _ hstep ih =>
    obtain ⟨j, hj, rfl⟩ := ih
    rw [Climbs, parents_linked hj] at hstep
    cases j with
    | zero => cases hstep
    | succ j =>
      cases hstep
      exact ⟨j, by omega, rfl⟩

theorem step_registerLink (h : n ≤ 64) : step (linked n) (registerLink n) = linked (n + 1) := by
  have hparent : linkParent n ≠ some (link n) := by
    cases n with
    | zero => exact fun hnone => by cases hnone
    | succ n =>
      intro hself
      have := link_injective (Option.some.inj hself)
      omega
  have hnew : (linked n).providers.get? (link n) = none := by
    cases hget : (linked n).providers.get? (link n) with
    | none => rfl
    | some row =>
      obtain ⟨i, hi, hlink, _⟩ := get?_linked.mp hget
      have := link_injective hlink
      omega
  have hcheck : checkHierarchy (linked n) (link n) (linkParent n) = .ok () := by
    cases n with
    | zero => rfl
    | succ n =>
      have hdepth := depth_linked (Nat.lt_succ_self n)
      have havoided :
          AvoidedFrom (linked (n + 1)).parents (link (n + 1)) (some (link n)) := by
        rintro s hs b hclimb hlink
        cases hs
        obtain ⟨j, hj, rfl⟩ := climbs_linked (Nat.lt_succ_self n) hclimb
        have := link_injective hlink
        omega
      simp only [checkHierarchy, linkParent, get?_linked.mpr ⟨n, Nat.lt_succ_self n, rfl, rfl⟩]
      exact walkHierarchy_of_depth hdepth havoided (by omega)
        (fun s hs => absurd hs List.not_mem_nil)
  refine step_registerProviderMetadata_fresh ?_ hparent hcheck
  intro row hrow
  have hget := (linked n).providers.get?_key_of_mem hrow
  obtain ⟨i, hi, _, rfl⟩ := get?_linked.mp hget
  have hne : link i ≠ link n := fun hlink => by have := link_injective hlink; omega
  exact ⟨hne, hne⟩

theorem run_registerLink (h : n ≤ 65) :
    run step PlacementTables.empty ((List.range n).map registerLink) = linked n := by
  induction n with
  | zero => rfl
  | succ n ih =>
    rw [List.range_succ, List.map_append, List.map_singleton, run_snoc, ih (by omega),
      step_registerLink (by omega)]

theorem provider_of_linked {i : Nat} (h : i < n) {providers : List (ResourceProvider Unit)}
    (hproviders : (Program.alone exec PlacementLedger.providers (linked n)).1 = .ok providers) :
    ∃ provider,
      providerById providers (link i) = some provider ∧
        provider.state = .enabled ∧ provider.parentProviderId = linkParent i :=
  ⟨_, (providerById_iff hproviders).mpr ⟨linkRow i, get?_linked.mpr ⟨i, h, rfl, rfl⟩, rfl⟩,
    rfl, rfl⟩

/-- A provider with 64 ancestors, all of them enabled, is accepted and then
counts as one below a provider that is not enabled. -/
theorem ancestors_enabled_wrong_at_64 :
    ¬ Always step AncestorsAgree PlacementTables.empty ((List.range 65).map registerLink) := by
  intro halways
  have hagree := halways.last
  rw [run_registerLink (Nat.le_refl 65)] at hagree
  have hstates : ∀ row ∈ (linked 65).providers.rows, row.state = "Enabled" := by
    intro row hrow
    obtain ⟨i, _, _, rfl⟩ := get?_linked.mp ((linked 65).providers.get?_key_of_mem hrow)
    rfl
  obtain ⟨providers, hproviders⟩ := providers_of_enabled hstates
  have hnamed := namedParent_providerById hproviders
  obtain ⟨last, hlast, _, hparent⟩ := provider_of_linked (i := 64) (by omega) hproviders
  have hmem := ((providerById_eq_some_iff (nodup_providers hproviders)).mp hlast).1
  have henabled : EveryAncestorEnabled (providerById providers) last := by
    rintro id ⟨parent, hsome, hclimb⟩
    cases hparent.symm.trans hsome
    rw [hnamed] at hclimb
    obtain ⟨j, hj, rfl⟩ := climbs_linked (i := 63) (by omega) hclimb
    obtain ⟨provider, hfound, hstate, _⟩ := provider_of_linked hj hproviders
    exact ⟨provider, hfound, hstate⟩
  obtain ⟨_, hfew⟩ :=
    (ancestorsEnabled_iff last).mp ((hagree providers hproviders last hmem).mpr henabled)
  obtain ⟨n, hn, hdepth⟩ := hfew _ hparent
  rw [hnamed] at hdepth
  have := hdepth.unique (depth_linked (n := 65) (i := 63) (by omega))
  omega

end Sqlite

end Placement
end O3k
