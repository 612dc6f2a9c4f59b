import O3k.Placement.Ancestors
import O3k.Relational.Sorting
import Mathlib.Data.Prod.Lex

/-!
# Candidates

`candidates` reads the providers once and keeps those that suit a request, in
the order of locality, spread, free amount and id, up to a limit.  The method
answers what a request asks for unless a provider that belongs into the answer
has 64 ancestors or more.
-/

namespace O3k
namespace Placement

open Relational Semantics

variable {R : Type}

namespace StringSet

/-- `BTreeSet::contains`. -/
def has (s : StringSet) (x : String) : Bool := (s.get? x).isSome

def isSubset (s t : StringSet) : Bool := s.rows.all t.has

def isDisjoint (s t : StringSet) : Bool :=
  s.rows.all (fun x => !t.has x)

theorem has_iff {s : StringSet} {x : String} : s.has x = true ↔ x ∈ s.rows := by
  rw [has, Option.isSome_iff_exists]
  constructor
  · rintro ⟨y, hget⟩
    obtain rfl : y = x := s.key_of_get? hget
    exact s.mem_of_get? hget
  · exact fun hmem => ⟨x, s.get?_key_of_mem hmem⟩

theorem isSubset_iff {s t : StringSet} : s.isSubset t = true ↔ ∀ x ∈ s.rows, x ∈ t.rows := by
  simp [isSubset, has_iff]

theorem isDisjoint_iff {s t : StringSet} : s.isDisjoint t = true ↔ ∀ x ∈ s.rows, x ∉ t.rows := by
  simp [isDisjoint, ← has_iff]

end StringSet

def maxCandidateLimit : Nat := 256

def maxConstraintSet : Nat := 64

structure CandidateRequest where
  resources : ResourceMap
  requiredTraits : StringSet
  forbiddenTraits : StringSet
  locations : StringSet
  forbiddenLocations : StringSet
  preferredLocations : StringSet
  failureDomains : StringSet
  forbiddenFailureDomains : StringSet
  spreadAwayFrom : StringSet
  limit : Nat

structure PlacementCandidate where
  providerId : String
  generation : Nat
  deriving DecidableEq

def candidateOf (provider : ResourceProvider R) : PlacementCandidate :=
  ⟨provider.id, provider.generation⟩

namespace CandidateRequest

variable (request : CandidateRequest)

/-- The bounds that are checked before anything is read. -/
def exceedsLimits : Bool :=
  request.resources.rows.isEmpty ||
    request.resources.rows.any (fun row => row.amount = 0) ||
    decide (request.limit > maxCandidateLimit) ||
    decide (request.limit = 0) ||
    [request.requiredTraits, request.forbiddenTraits, request.locations,
      request.forbiddenLocations, request.preferredLocations, request.failureDomains,
      request.forbiddenFailureDomains, request.spreadAwayFrom].any
        (fun s => decide (s.rows.length > maxConstraintSet))

/-- A provider without a location counts as one at the empty location. -/
def isLocal (provider : ResourceProvider R) : Bool :=
  request.preferredLocations.has (provider.location.getD "")

def isSpread (provider : ResourceProvider R) : Bool :=
  provider.failureDomains.isDisjoint request.spreadAwayFrom

def rank (free : ResourceProvider R → Nat) (provider : ResourceProvider R) :
    Bool ×ₗ Bool ×ₗ Natᵒᵈ ×ₗ String :=
  toLex (!request.isLocal provider,
    toLex (!request.isSpread provider, toLex (OrderDual.toDual (free provider), provider.id)))

variable (capacity : Nat → R → Nat)

/-- The conditions of the filter on the provider alone. -/
def suits (provider : ResourceProvider R) : Bool :=
  decide (provider.state = .enabled) &&
    request.resources.rows.all (fun row =>
      (provider.inventories.get? row.resourceClass).any (fun inventory =>
        decide (PlacementLedger.available capacity inventory ≥ row.amount))) &&
    request.requiredTraits.isSubset provider.traits &&
    request.forbiddenTraits.isDisjoint provider.traits &&
    (request.locations.rows.isEmpty || provider.location.any request.locations.has) &&
    request.forbiddenLocations.rows.all (fun location =>
      decide (provider.location ≠ some location)) &&
    request.failureDomains.isSubset provider.failureDomains &&
    request.forbiddenFailureDomains.isDisjoint provider.failureDomains

end CandidateRequest

section Capacity

variable (capacity : Nat → R → Nat)

/-- What is left of all inventories. -/
def freeTotal (provider : ResourceProvider R) : Nat :=
  provider.inventories.sumBy (PlacementLedger.available capacity)

def freeSum (provider : ResourceProvider R) : Nat := freeTotal capacity provider % 2 ^ 64

/-- What `candidates` makes of the providers it has read. -/
def selectCandidates (request : CandidateRequest) (providers : List (ResourceProvider R)) :
    List PlacementCandidate :=
  let suitable := providers.filter (fun provider =>
    request.suits capacity provider && ancestorsEnabled provider (providerById providers))
  ((sortBy (request.rank (freeSum capacity)) suitable).take request.limit).map candidateOf

def PlacementLedger.candidates (request : CandidateRequest) :
    LedgerProgram R (Except PlacementError (List PlacementCandidate)) := do
  if request.exceedsLimits then
    return .error .constraintLimit
  else
    match ← PlacementLedger.providers with
    | .error e => return .error e
    | .ok providers => return .ok (selectCandidates capacity request providers)

structure Eligible (request : CandidateRequest) (providers : List (ResourceProvider R))
    (provider : ResourceProvider R) : Prop where
  listed : provider ∈ providers
  enabled : provider.state = .enabled
  room :
    ∀ row ∈ request.resources.rows, ∃ inventory,
      provider.inventories.get? row.resourceClass = some inventory ∧
        row.amount ≤ PlacementLedger.available capacity inventory
  traits : ∀ x ∈ request.requiredTraits.rows, x ∈ provider.traits.rows
  notForbidden : ∀ x ∈ request.forbiddenTraits.rows, x ∉ provider.traits.rows
  located :
    request.locations.rows ≠ [] →
      ∃ location ∈ request.locations.rows, provider.location = some location
  notLocated : ∀ location ∈ request.forbiddenLocations.rows, provider.location ≠ some location
  domains : ∀ x ∈ request.failureDomains.rows, x ∈ provider.failureDomains.rows
  notDomains : ∀ x ∈ request.forbiddenFailureDomains.rows, x ∉ provider.failureDomains.rows
  ancestors : EveryAncestorEnabled (providerById providers) provider

/-- The eligible providers, in their order. -/
structure ExactOrder (request : CandidateRequest)
    (providers order : List (ResourceProvider R)) : Prop where
  members : ∀ provider, provider ∈ order ↔ Eligible capacity request providers provider
  sorted : StrictlySorted (request.rank (freeTotal capacity)) order

/-- The answer is the first part of the eligible providers, up to the limit; a
request beyond the bounds is refused. -/
def AnswersExactly (request : CandidateRequest) (providers : List (ResourceProvider R))
    (answer : Except PlacementError (List PlacementCandidate)) : Prop :=
  if request.exceedsLimits then
    answer = .error .constraintLimit
  else
    ∃ order, ExactOrder capacity request providers order ∧
      answer = .ok ((order.take request.limit).map candidateOf)

/-- No provider that belongs into the answer has 64 ancestors or more. -/
def AnswerIsShallow (request : CandidateRequest) (providers : List (ResourceProvider R)) : Prop :=
  ∀ order, ExactOrder capacity request providers order →
    ∀ provider ∈ order.take request.limit, HasFewAncestors (providerById providers) provider

theorem suits_iff {request : CandidateRequest} {provider : ResourceProvider R} :
    request.suits capacity provider = true ↔ (provider.state = .enabled) ∧
      (∀ row ∈ request.resources.rows, ∃ inventory,
        provider.inventories.get? row.resourceClass = some inventory ∧
          row.amount ≤ PlacementLedger.available capacity inventory) ∧
      (∀ x ∈ request.requiredTraits.rows, x ∈ provider.traits.rows) ∧
      (∀ x ∈ request.forbiddenTraits.rows, x ∉ provider.traits.rows) ∧
      (request.locations.rows ≠ [] →
        ∃ location ∈ request.locations.rows, provider.location = some location) ∧
      (∀ location ∈ request.forbiddenLocations.rows, provider.location ≠ some location) ∧
      (∀ x ∈ request.failureDomains.rows, x ∈ provider.failureDomains.rows) ∧
      (∀ x ∈ request.forbiddenFailureDomains.rows, x ∉ provider.failureDomains.rows) := by
  have hlocated :
      (request.locations.rows.isEmpty || provider.location.any request.locations.has) = true
        ↔
      (request.locations.rows ≠ [] →
        ∃ location ∈ request.locations.rows, provider.location = some location) := by
    cases provider.location with
    | none => simp
    | some location =>
      simp only [Option.any_some, Bool.or_eq_true, List.isEmpty_iff, StringSet.has_iff,
        Option.some.injEq, exists_eq_right', or_iff_not_imp_left, ne_eq]
  unfold CandidateRequest.suits
  simp only [Bool.and_eq_true, hlocated, StringSet.isSubset_iff, StringSet.isDisjoint_iff,
    decide_eq_true_eq, List.all_eq_true, Option.any_eq_true, ge_iff_le, and_assoc]

theorem eligible_iff {request : CandidateRequest} {providers : List (ResourceProvider R)}
    {provider : ResourceProvider R} :
    Eligible capacity request providers provider ↔
    provider ∈ providers ∧ request.suits capacity provider = true ∧
      EveryAncestorEnabled (providerById providers) provider := by
  rw [suits_iff]
  constructor
  · rintro ⟨hlisted, henabled, hroom, h₁, h₂, h₃, h₄, h₅, h₆, hancestors⟩
    exact ⟨hlisted, ⟨henabled, hroom, h₁, h₂, h₃, h₄, h₅, h₆⟩, hancestors⟩
  · rintro ⟨hlisted, ⟨henabled, hroom, h₁, h₂, h₃, h₄, h₅, h₆⟩, hancestors⟩
    exact ⟨hlisted, henabled, hroom, h₁, h₂, h₃, h₄, h₅, h₆, hancestors⟩

section Order

variable {capacity} {request : CandidateRequest} {providers : List (ResourceProvider R)}

theorem rank_injOn (hnodup : (providers.map ResourceProvider.id).Nodup)
    (free : ResourceProvider R → Nat) {p q : ResourceProvider R} (hp : p ∈ providers)
    (hq : q ∈ providers) (h : request.rank free p = request.rank free q) :
    p = q := by
  have hid : p.id = q.id :=
    congrArg (fun key => (ofLex (ofLex (ofLex key).2).2).2) h
  exact List.inj_on_of_nodup_map hnodup hp hq hid

theorem strictlySorted_sortBy_rank (hnodup : (providers.map ResourceProvider.id).Nodup)
    (free : ResourceProvider R → Nat) (keep : ResourceProvider R → Bool) :
    StrictlySorted (request.rank free) (sortBy (request.rank free) (providers.filter keep)) := by
  refine strictlySorted_sortBy ?_
  refine (hnodup.of_map.filter keep).map_on ?_
  intro p hp q hq
  exact rank_injOn hnodup free (List.mem_of_mem_filter hp) (List.mem_of_mem_filter hq)

theorem exists_exactOrder (hnodup : (providers.map ResourceProvider.id).Nodup) :
    ∃ order, ExactOrder capacity request providers order := by
  classical
  let keep := fun provider =>
    request.suits capacity provider &&
      decide (EveryAncestorEnabled (providerById providers) provider)
  refine ⟨sortBy (request.rank (freeTotal capacity)) (providers.filter keep), ?_,
    strictlySorted_sortBy_rank hnodup _ keep⟩
  intro provider
  simp [keep, eligible_iff]

variable {order : List (ResourceProvider R)}

theorem ExactOrder.unique {order' : List (ResourceProvider R)}
    (h : ExactOrder capacity request providers order)
    (h' : ExactOrder capacity request providers order') :
    order = order' :=
  h.sorted.eq_of_mem_iff h'.sorted
    (fun provider => (h.members provider).trans (h'.members provider).symm)

/-- The method sorts those that have fewer than 64 ancestors. -/
theorem selectCandidates_eq (hnodup : (providers.map ResourceProvider.id).Nodup)
    (hfits : ∀ provider ∈ providers, freeTotal capacity provider < 2 ^ 64)
    (horder : ExactOrder capacity request providers order) :
    selectCandidates capacity request providers = ((order.filter (fun provider =>
        ancestorsEnabled provider (providerById providers))).take request.limit).map
      candidateOf := by
  let keep := fun provider =>
    request.suits capacity provider && ancestorsEnabled provider (providerById providers)
  have hmem :
      ∀ provider, provider ∈ sortBy (request.rank (freeSum capacity)) (providers.filter keep)
        ↔
      provider ∈ order.filter (fun provider =>
        ancestorsEnabled provider (providerById providers)) := by
    intro provider
    rw [mem_sortBy, List.mem_filter, List.mem_filter, horder.members, eligible_iff,
      Bool.and_eq_true, ancestorsEnabled_iff]
    tauto
  have hsorted :
      StrictlySorted (request.rank (freeTotal capacity))
        (sortBy (request.rank (freeSum capacity)) (providers.filter keep)) := by
    refine (strictlySorted_sortBy_rank hnodup (freeSum capacity) keep).imp_of_mem ?_
    intro p q hp hq hlt
    have hsame :
        ∀ x ∈ sortBy (request.rank (freeSum capacity)) (providers.filter keep),
          request.rank (freeSum capacity) x = request.rank (freeTotal capacity) x := by
      intro x hx
      have hlisted := List.mem_of_mem_filter (mem_sortBy.mp hx)
      simp only [CandidateRequest.rank, freeSum, Nat.mod_eq_of_lt (hfits x hlisted)]
    rwa [hsame p hp, hsame q hq] at hlt
  rw [selectCandidates, hsorted.eq_of_mem_iff (horder.sorted.filter _) hmem]

theorem selectCandidates_exact_iff (hnodup : (providers.map ResourceProvider.id).Nodup)
    (hfits : ∀ provider ∈ providers, freeTotal capacity provider < 2 ^ 64)
    (horder : ExactOrder capacity request providers order) :
    selectCandidates capacity request providers = (order.take request.limit).map candidateOf ↔
    ∀ provider ∈ order.take request.limit, HasFewAncestors (providerById providers) provider := by
  rw [selectCandidates_eq hnodup hfits horder]
  have hlisted : ∀ provider ∈ order, provider ∈ providers :=
    fun provider hmem => ((horder.members provider).mp hmem).listed
  constructor
  · intro h provider hmem
    have hanswered := h ▸ List.mem_map_of_mem hmem
    obtain ⟨found, hfound, hsame⟩ := List.mem_map.mp hanswered
    obtain ⟨hfound, henabled⟩ := List.mem_filter.mp (List.mem_of_mem_take hfound)
    have heq := List.inj_on_of_nodup_map hnodup (hlisted found hfound)
      (hlisted provider (List.mem_of_mem_take hmem)) (congrArg PlacementCandidate.providerId hsame)
    subst heq
    exact ((ancestorsEnabled_iff found).mp henabled).2
  · intro h
    rw [take_filter_of_forall]
    intro provider hmem
    have heligible := (horder.members provider).mp (List.mem_of_mem_take hmem)
    exact (ancestorsEnabled_iff provider).mpr ⟨heligible.ancestors, h provider hmem⟩

end Order

namespace Sqlite

theorem alone_candidates {capacity : Nat → R → Nat} {request : CandidateRequest}
    (hlimits : request.exceedsLimits = false) {t : Tables R} {providers : List (ResourceProvider R)}
    (hproviders : (Program.alone exec PlacementLedger.providers t).1 = .ok providers) :
    (Program.alone exec (PlacementLedger.candidates capacity request) t).1 =
    .ok (selectCandidates capacity request providers) := by
  rw [PlacementLedger.candidates, hlimits, if_neg Bool.false_ne_true, Program.alone_bind,
    hproviders]
  rfl

/-- **What `candidates` answers**: exactly what was asked for, unless a
provider that belongs into the answer has 64 ancestors or more. -/
theorem candidates_exact_iff
    (request : CandidateRequest) {t : Tables R} {providers : List (ResourceProvider R)}
    (hproviders : (Program.alone exec PlacementLedger.providers t).1 = .ok providers)
    (hfits : ∀ provider ∈ providers, freeTotal capacity provider < 2 ^ 64) :
    AnswersExactly capacity request providers
        (Program.alone exec (PlacementLedger.candidates capacity request) t).1
      ↔
    request.exceedsLimits = true ∨ AnswerIsShallow capacity request providers := by
  have hnodup := nodup_providers hproviders
  unfold AnswersExactly
  cases hlimits : request.exceedsLimits with
  | true =>
    refine iff_of_true ?_ (Or.inl rfl)
    rw [if_pos rfl, PlacementLedger.candidates, hlimits, if_pos rfl]
    rfl
  | false =>
    obtain ⟨order, horder⟩ := exists_exactOrder hnodup
    have hexact := selectCandidates_exact_iff hnodup hfits horder
    simp only [Bool.false_eq_true, if_false, false_or]
    rw [alone_candidates hlimits hproviders]
    constructor
    · rintro ⟨order', horder', hanswer⟩ order'' horder''
      obtain rfl := horder.unique horder'
      obtain rfl := horder.unique horder''
      exact hexact.mp (Except.ok.inj hanswer)
    · intro hshallow
      exact ⟨order, horder, congrArg Except.ok (hexact.mpr (hshallow order horder))⟩

def oneVcpu : CandidateRequest := ⟨Table.ofList [⟨"VCPU", 1⟩], ∅, ∅, ∅, ∅, ∅, ∅, ∅, ∅, 1⟩

/-- A provider with an inventory below another one. -/
def hostRow (id parent location : String) (total : Nat) : ProviderRow Nat Unit :=
  ⟨id, id, "Enabled", 1, some parent, some location, Table.ofList [⟨"VCPU", total, 0, (), 0⟩], ∅, ∅⟩

/-- A provider for others to be below. -/
def rackRow (id state : String) (parent : Option String) : ProviderRow Nat Unit :=
  ⟨id, id, state, 1, parent, none, ∅, ∅, ∅⟩

/-- Two racks in a cell, one of them draining, and their hosts. -/
def cellTables : Tables Unit :=
  [rackRow "cell" "Enabled" none, rackRow "rack-1" "Enabled" (some "cell"),
    rackRow "rack-2" "Draining" (some "cell"), hostRow "host-1" "rack-1" "az-2" 8,
    hostRow "host-2" "rack-1" "az-1" 4, hostRow "host-3" "rack-2" "az-1" 16,
    hostRow "host-4" "rack-1" "az-1" 6, hostRow "host-5" "rack-1" "az-1" 1].foldl
      PlacementTables.putProvider PlacementTables.empty

def cellProviders : List (ResourceProvider Unit) :=
  (Program.alone exec PlacementLedger.providers cellTables).1.toOption.getD []

/-- Two virtual processors, in the first zone if possible. -/
def twoVcpus : CandidateRequest :=
  ⟨Table.ofList [⟨"VCPU", 2⟩], ∅, ∅, ∅, ∅, Table.ofList ["az-1"], ∅, ∅, ∅, 2⟩

/-- The zone comes before the room, the host below the draining rack is passed
over, and the limit cuts the roomiest one off. -/
theorem candidates_exact_iff_cell :
    AnswersExactly (fun total _ => total) twoVcpus cellProviders
        (Program.alone exec (PlacementLedger.candidates (fun total _ => total) twoVcpus)
          cellTables).1 ∧
      (Program.alone exec (PlacementLedger.candidates (fun total _ => total) twoVcpus) cellTables).1
        =
      .ok [⟨"host-4", 1⟩, ⟨"host-2", 1⟩] := by
  have hproviders :
      (Program.alone exec PlacementLedger.providers cellTables).1 = .ok cellProviders := by
    rfl
  refine ⟨(candidates_exact_iff (fun total _ => total) twoVcpus hproviders ?_).mpr (Or.inr ?_), rfl⟩
  · decide +kernel
  · intro order horder found hfound parent hparent
    have hlisted := ((horder.members found).mp (List.mem_of_mem_take hfound)).listed
    have hparents :
        ∀ provider ∈ cellProviders, ∀ parent ∈ provider.parentProviderId,
          parent = "cell" ∨ namedParent (providerById cellProviders) parent = some "cell" := by
      decide +kernel
    have hroot : namedParent (providerById cellProviders) "cell" = none := by
      decide +kernel
    rcases hparents found hlisted parent hparent with rfl | hbelow
    · exact ⟨1, by omega, .root hroot⟩
    · exact ⟨2, by omega, .nested hbelow (.root hroot)⟩

/-- The last provider of the chain, with an inventory. -/
def host : ProviderRow Nat Unit :=
  (linkRow 64).withInventories (Table.ofList [⟨"VCPU", 8, 0, (), 0⟩])

def deepTables : Tables Unit := (linked 65).putProvider host

/-- A provider with room, 64 ancestors and every one of them enabled, is not
answered to the request. -/
theorem candidates_pass_over_deep_provider :
    ∃ providers,
      (Program.alone exec PlacementLedger.providers deepTables).1 = .ok providers ∧
        ¬ AnswersExactly (fun total _ => total) oneVcpu providers
          (Program.alone exec
            (PlacementLedger.candidates (fun total _ => total) oneVcpu) deepTables).1 := by
  have hrows :
      ∀ id row, deepTables.providers.get? id = some row →
        row = host ∨ ∃ i < 65, link i = id ∧ row = linkRow i := by
    intro id row hget
    by_cases hid : link 64 = id
    · rw [deepTables, PlacementTables.get?_putProvider _ hid] at hget
      exact Or.inl (Option.some.inj hget).symm
    · rw [deepTables, show ((linked 65).putProvider host).providers.get? id = _ from
        (linked 65).providers.get?_put_of_ne hid] at hget
      exact Or.inr (get?_linked.mp hget)
  have hparents : deepTables.parents = (linked 65).parents :=
    PlacementTables.parents_putProvider_of_same
      (get?_linked.mpr ⟨64, by omega, rfl, rfl⟩) rfl rfl
  obtain ⟨providers, hproviders⟩ : ∃ providers,
      (Program.alone exec PlacementLedger.providers deepTables).1 = .ok providers := by
    refine providers_of_enabled ?_
    intro row hrow
    rcases hrows _ row (deepTables.providers.get?_key_of_mem hrow) with rfl | ⟨_, _, _, rfl⟩ <;> rfl
  refine ⟨providers, hproviders, ?_⟩
  have hread :
      ∀ i < 65, ∃ provider, providerById providers (link i) = some provider ∧
        provider.state = .enabled := by
    intro i hi
    by_cases hlast : link 64 = link i
    · exact ⟨_, (providerById_iff hproviders).mpr ⟨host,
        PlacementTables.get?_putProvider _ hlast, rfl⟩, rfl⟩
    · have hget : deepTables.providers.get? (link i) = some (linkRow i) :=
        ((linked 65).providers.get?_put_of_ne hlast).trans (get?_linked.mpr ⟨i, hi, rfl, rfl⟩)
      exact ⟨_, (providerById_iff hproviders).mpr ⟨linkRow i, hget, rfl⟩, rfl⟩
  obtain ⟨last, hlast, hsuits, hfree, hparent⟩ :
      ∃ last, providerById providers (link 64) = some last ∧
        oneVcpu.suits (fun total _ => total) last = true ∧
        freeTotal (fun total _ => total) last = 8 ∧
        last.parentProviderId = some (link 63) :=
    ⟨_, (providerById_iff hproviders).mpr ⟨host, PlacementTables.get?_putProvider _ rfl, rfl⟩,
      rfl, rfl, rfl⟩
  have hnodup := nodup_providers hproviders
  obtain ⟨hmem, hid⟩ := (providerById_eq_some_iff hnodup).mp hlast
  have hempty : ∀ provider ∈ providers, provider ≠ last → provider.inventories = ∅ := by
    intro provider hprovider hne
    obtain ⟨row, hget, hrow⟩ := (mem_providers_iff hproviders).mp hprovider
    rcases hrows _ row hget with rfl | ⟨i, _, _, rfl⟩
    · have hsame : provider.id = last.id := (providerFromRecord_ok hrow).1.trans hid.symm
      exact absurd (List.inj_on_of_nodup_map hnodup hprovider hmem hsame) hne
    · rw [(providerFromRecord_ok hrow).2.2.2.1]
      rfl
  have hfits : ∀ provider ∈ providers, freeTotal (fun total _ => total) provider < 2 ^ 64 := by
    intro provider hprovider
    by_cases hne : provider = last
    · subst hne
      omega
    · rw [freeTotal, hempty provider hprovider hne]
      exact Nat.two_pow_pos 64
  have henabled : EveryAncestorEnabled (providerById providers) last := by
    rintro id ⟨parent, hsome, hclimb⟩
    cases hparent.symm.trans hsome
    rw [namedParent_providerById hproviders, hparents] at hclimb
    obtain ⟨i, hi, rfl⟩ := climbs_linked (i := 63) (by omega) hclimb
    exact hread i hi
  intro hanswers
  obtain ⟨order, horder, hanswer⟩ := hanswers
  rw [alone_candidates rfl hproviders] at hanswer
  have hfew := (selectCandidates_exact_iff hnodup hfits horder).mp (Except.ok.inj hanswer)
  have hlisted : last ∈ order :=
    (horder.members last).mpr ((eligible_iff _).mpr ⟨hmem, hsuits, henabled⟩)
  have honly : ∀ provider ∈ order, provider = last := by
    intro provider hprovider
    by_contra hne
    have heligible := (horder.members provider).mp hprovider
    obtain ⟨inventory, hget, _⟩ := heligible.room ⟨"VCPU", 1⟩ List.mem_cons_self
    rw [hempty provider heligible.listed hne] at hget
    cases hget
  obtain ⟨first, rest, rfl⟩ := List.exists_cons_of_ne_nil (List.ne_nil_of_mem hlisted)
  obtain rfl := honly first List.mem_cons_self
  obtain ⟨n, hn, hdepth⟩ := hfew first List.mem_cons_self _ hparent
  rw [namedParent_providerById hproviders, hparents] at hdepth
  have := hdepth.unique (depth_linked (n := 65) (i := 63) (by omega))
  omega

end Sqlite

end Capacity

end Placement
end O3k
