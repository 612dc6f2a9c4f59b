import O3k.Scheduler.Rescheduling

/-!
# Scheduling with constraints

`schedule_with_constraints` takes the candidates of the ledger, leaves out a
disk of size zero, and fails where `schedule` converges on the allocation that
is there.  A call that runs alone loses no race: what it ends with is decided
by the first candidate.
-/

namespace O3k
namespace Scheduler

open Relational Relational.Transaction Semantics Placement Placement.Sqlite
open Program (alone alone_bind)

variable {R : Type}

def constraintResources (flavor : Flavor) : ResourceMap :=
  let resources := Table.ofList [⟨"VCPU", flavor.vcpus⟩, ⟨"MEMORY_MB", flavor.memoryMb⟩]
  if flavor.diskGb > 0 then resources.put ⟨"DISK_GB", flavor.diskGb⟩ else resources

/-- `CandidateRequest::default`. -/
def emptyConstraints : CandidateRequest := ⟨∅, ∅, ∅, ∅, ∅, ∅, ∅, ∅, ∅, maxCandidateLimit⟩

/-- A request for the resources alone. -/
def unconstrained (resources : ResourceMap) : CandidateRequest :=
  { emptyConstraints with resources := resources }

section Schedule

variable (capacity : Nat → R → Nat)

/-- The loop over the candidates of the ledger. -/
def tryInTurn (serverId : String) (resources : ResourceMap) :
    List PlacementCandidate → LedgerProgram R (Except SchedulerError ScheduleDecision)
  | [] => return .error .noValidHost
  | candidate :: rest => do
    match ← PlacementLedger.beginAllocationIntent candidate.providerId (allocationId serverId)
        serverId resources with
    | .error e => return .error (.placement e)
    | .ok intent =>
      match ← PlacementLedger.commitAllocationIntent capacity intent
          candidate.generation with
      | .ok allocation => return .ok ⟨candidate.providerId, intent.allocationId, allocation⟩
      | .error e =>
        if lostRace e then
          match ← PlacementLedger.abandonAllocationIntent intent with
          | .error e => return .error (.placement e)
          | .ok () => tryInTurn serverId resources rest
        else
          return .error (.placement e)

def scheduleWithConstraints (serverId : String) (flavor : Flavor) (constraints : CandidateRequest) :
    LedgerProgram R (Except SchedulerError ScheduleDecision) := do
  if serverId.isEmpty || flavor.vcpus = 0 || flavor.memoryMb = 0 then
    return .error .invalidFlavor
  else
    let constraints :=
      { constraints with
        resources := constraintResources flavor
        limit := if constraints.limit = 0 then maxCandidateLimit else constraints.limit }
    match ← PlacementLedger.candidates capacity constraints with
    | .error e => return .error (.placement e)
    | .ok candidates => tryInTurn capacity serverId constraints.resources candidates

end Schedule

/-- The same provider and the same resources, or the same error. -/
def Agree : Except SchedulerError ScheduleDecision → Except SchedulerError ScheduleDecision → Prop
  | .ok d, .ok d' => d.providerId = d'.providerId ∧ d.allocation.resources = d'.allocation.resources
  | .error e, .error e' => e = e'
  | _, _ => False

section Candidates

variable (capacity : Nat → R → Nat) (resources : ResourceMap)

/-- Those with room, in the order in which they are tried. -/
def ranked (providers : List (ResourceProvider R)) : List (ResourceProvider R) :=
  (providers.filter (hasRoom capacity resources)).insertionSort (precedes capacity)

variable {capacity resources} {providers : List (ResourceProvider R)}

theorem mem_ranked {provider : ResourceProvider R} :
    provider ∈ ranked capacity resources providers ↔
    provider ∈ providers ∧ hasRoom capacity resources provider = true := by
  rw [ranked, List.mem_insertionSort, List.mem_filter]

theorem candidates_eq_ranked (flavor : Flavor) :
    candidates capacity flavor none providers
      = ranked capacity (flavorResources flavor) providers := by
  have hsame : isCandidate capacity flavor none = hasRoom capacity (flavorResources flavor) := by
    funext provider
    rw [Bool.eq_iff_iff]
    simp only [isCandidate, hasRoom, isSelected, Option.all_none, Bool.true_and,
      Bool.and_eq_true, List.all_eq_true, mem_flavorResources, forall_eq_or_imp, forall_eq,
      and_assoc]
  rw [candidates, hsame]
  rfl

theorem insertionSort_congr {ρ : Type} {r s : ρ → ρ → Prop} [DecidableRel r] [DecidableRel s]
    (h : ∀ a b, r a b ↔ s a b) (xs : List ρ) :
    xs.insertionSort r = xs.insertionSort s := by
  obtain rfl : r = s := funext₂ (fun a b => propext (h a b))
  congr!

theorem isSpread_unconstrained (provider : ResourceProvider R) :
    (unconstrained resources).isSpread provider = true := by
  simp [CandidateRequest.isSpread, StringSet.isDisjoint, StringSet.has, unconstrained,
    emptyConstraints]

theorem isLocal_unconstrained (provider : ResourceProvider R) :
    (unconstrained resources).isLocal provider = false := by
  simp [CandidateRequest.isLocal, StringSet.has, unconstrained, emptyConstraints]

theorem rank_unconstrained_le_iff {a b : ResourceProvider R} :
    (unconstrained resources).rank (freeSum capacity) a
        ≤ (unconstrained resources).rank (freeSum capacity) b ↔ precedes capacity a b := by
  have hfree : ∀ provider : ResourceProvider R,
      freeSum capacity provider = free capacity provider := fun _ => rfl
  simp only [CandidateRequest.rank, isSpread_unconstrained, isLocal_unconstrained, hfree,
    Prod.Lex.toLex_le_toLex, lt_self_iff_false, false_or, true_and, precedes,
    OrderDual.toDual_lt_toDual, EmbeddingLike.apply_eq_iff_eq, eq_comm (a := free capacity a)]

/-- Without a hierarchy, the ledger has the same candidates in the same order. -/
theorem selectCandidates_eq_ranked
    (hflat : ∀ provider ∈ providers, provider.parentProviderId = none)
    (hfew : providers.length ≤ maxCandidateLimit) :
    selectCandidates capacity (unconstrained resources) providers
      = (ranked capacity resources providers).map candidateOf := by
  have hkept :
      providers.filter (fun provider =>
          (unconstrained resources).suits capacity provider &&
            ancestorsEnabled provider (providerById providers))
        = providers.filter (hasRoom capacity resources) := by
    refine List.filter_congr (fun provider hmem => ?_)
    have hroot : ancestorsEnabled provider (providerById providers) = true := by
      rw [ancestorsEnabled, hflat provider hmem]
      rfl
    rw [hroot, Bool.and_true]
    simp [CandidateRequest.suits, hasRoom, unconstrained, emptyConstraints, offers,
      StringSet.isSubset, StringSet.isDisjoint]
  have hlength : (ranked capacity resources providers).length ≤ maxCandidateLimit := by
    rw [ranked, List.length_insertionSort]
    exact (List.length_filter_le _ _).trans hfew
  simp only [selectCandidates, hkept]
  rw [sortBy, insertionSort_congr (fun _ _ => rank_unconstrained_le_iff)]
  exact congrArg (List.map candidateOf) (List.take_of_length_le hlength)

end Candidates

section Agreement

variable (capacity : Nat → R → Nat) (serverId : String)

/-- The allocation that `schedule` converges on is stored. -/
def Held (t : Tables R) (resources : ResourceMap) : Prop :=
  ∃ row ∈ allocatedFor serverId t,
    row.consumerId = serverId ∧ row.resources = resources ∧
      (t.providers.get? row.providerId).isSome

/-- When both schedulers agree. With a disk, a stored allocation has to be one
that the first candidate holds. Without one, nothing may be stored that
`schedule` converges on, and the first candidate of the ledger has to be refused
as `schedule` refuses its own. -/
def AgreeWhen (t : Tables R) (flavor : Flavor) (providers : List (ResourceProvider R)) : Prop :=
  if flavor.diskGb = 0 then
    ¬ Held serverId t (flavorResources flavor) ∧
      ∀ first ∈ (ranked capacity (constraintResources flavor) providers).head?,
        ranked capacity (flavorResources flavor) providers ≠ [] ∧
          Contested t serverId (constraintResources flavor) first
  else
    Held serverId t (flavorResources flavor) →
      ∃ first ∈ (ranked capacity (flavorResources flavor) providers).head?,
        Claimable t serverId (flavorResources flavor) first

/-- What `schedule` makes of an error. -/
def converge
    (resources : ResourceMap) (providers : List (ResourceProvider R)) (error : SchedulerError) :
    Except SchedulerError ScheduleDecision :=
  match providers.findSome? (decisionOn serverId resources none) with
  | some decision => .ok decision
  | none => .error error

variable {capacity serverId}
variable {t : Tables R} {resources : ResourceMap} {providers : List (ResourceProvider R)}

theorem decisionOn_eq_some_iff
    (hproviders : (alone exec PlacementLedger.providers t).1 = .ok providers)
    {provider : ResourceProvider R} (hmem : provider ∈ providers) {decision : ScheduleDecision} :
    decisionOn serverId resources none provider = some decision ↔ ∃ row ∈ allocatedFor serverId t,
      row.providerId = provider.id ∧ row.consumerId = serverId ∧ row.resources = resources ∧
        decision = ⟨provider.id, allocationId serverId, row.allocation⟩ := by
  obtain ⟨row, hrow, hread⟩ := (mem_providers_iff hproviders).mp hmem
  obtain ⟨hid, _, _, _, hallocations⟩ := providerFromRecord_ok hread
  simp only [decisionOn, isSelected, Option.all_none, if_true, hallocations, ← hid,
    get?_readAllocations, allocatedFor]
  cases t.allocations.get? (allocationId serverId) with
  | none => simp
  | some stored =>
    by_cases howner : stored.providerId = provider.id
    · by_cases hequal : stored.consumerId = serverId ∧ stored.resources = resources
      · simp [Option.filter, howner, AllocationRow.allocation, hequal, eq_comm]
      · simp [Option.filter, howner, AllocationRow.allocation, hequal]
        tauto
    · simp [Option.filter, howner]

theorem exists_decision_iff_held
    (hproviders : (alone exec PlacementLedger.providers t).1 = .ok providers) :
    (∃ provider ∈ providers, ∃ decision,
        decisionOn serverId resources none provider = some decision)
      ↔
    Held serverId t resources := by
  constructor
  · rintro ⟨provider, hmem, decision, hdecision⟩
    obtain ⟨stored, hstored, howner, hconsumer, hequal, _⟩ :=
      (decisionOn_eq_some_iff hproviders hmem).mp hdecision
    obtain ⟨row, hrow, _⟩ := (mem_providers_iff hproviders).mp hmem
    exact ⟨stored, hstored, hconsumer, hequal, by rw [howner, hrow]; rfl⟩
  · rintro ⟨stored, hstored, hconsumer, hequal, hlisted⟩
    obtain ⟨row, hrow⟩ := Option.isSome_iff_exists.mp hlisted
    have hids := ids_of_providers hproviders
    have hin : stored.providerId ∈ providers.map ResourceProvider.id := by
      rw [hids, ← t.providers.key_of_get? hrow]
      exact List.mem_map_of_mem (t.providers.mem_of_get? hrow)
    obtain ⟨provider, hmem, hid⟩ := List.mem_map.mp hin
    exact ⟨provider, hmem, _,
      (decisionOn_eq_some_iff hproviders hmem).mpr
        ⟨stored, hstored, hid.symm, hconsumer, hequal, rfl⟩⟩

theorem agree_converge_error_iff
    (hproviders : (alone exec PlacementLedger.providers t).1 = .ok providers)
    {e e' : SchedulerError} :
    Agree (converge serverId resources providers e) (.error e') ↔
    ¬ Held serverId t resources ∧ e = e' := by
  rw [← exists_decision_iff_held hproviders]
  unfold converge
  cases hfound : providers.findSome? (decisionOn serverId resources none) with
  | none =>
    have hnone := List.findSome?_eq_none_iff.mp hfound
    refine (and_iff_right ?_).symm
    rintro ⟨provider, hmem, decision, hdecision⟩
    cases (hnone provider hmem).symm.trans hdecision
  | some decision =>
    obtain ⟨provider, hmem, hdecision⟩ := List.exists_of_findSome?_eq_some hfound
    exact iff_of_false id (fun h => h.1 ⟨provider, hmem, decision, hdecision⟩)

theorem not_agree_converge_ok
    (hproviders : (alone exec PlacementLedger.providers t).1 = .ok providers)
    {e : SchedulerError} {decision : ScheduleDecision}
    (hother : decision.allocation.resources ≠ resources) :
    ¬ Agree (converge serverId resources providers e) (.ok decision) := by
  unfold converge
  cases hfound : providers.findSome? (decisionOn serverId resources none) with
  | none => exact id
  | some found =>
    obtain ⟨provider, hmem, hdecision⟩ := List.exists_of_findSome?_eq_some hfound
    obtain ⟨stored, _, _, _, hequal, rfl⟩ :=
      (decisionOn_eq_some_iff hproviders hmem).mp hdecision
    exact fun h => hother (h.2.symm.trans hequal)

theorem alone_existingOr (hproviders : (alone exec PlacementLedger.providers t).1 = .ok providers)
    (error : SchedulerError) :
    (alone exec (existingOr serverId resources none error) t).1
      = converge serverId resources providers error := by
  rw [existingOr, alone_bind, existingAllocation, alone_bind, hproviders]
  dsimp only
  unfold converge
  cases providers.findSome? (decisionOn serverId resources none) <;> rfl

variable {outcome : Except PlacementError Allocation}

theorem tryInTurn_of_claimRuns {candidate : PlacementCandidate} {rest : List PlacementCandidate}
    (h : ClaimRuns capacity serverId resources t candidate outcome)
    (hlost : ∀ e, outcome = .error e → lostRace e = false) :
    (alone exec (tryInTurn capacity serverId resources (candidate :: rest)) t).1 =
    match outcome with
    | .ok allocation => .ok ⟨candidate.providerId, allocationId serverId, allocation⟩
    | .error e => .error (.placement e) := by
  rw [tryInTurn, alone_bind]
  cases h with
  | refused e hbegin =>
    rw [hbegin]
    rfl
  | begun outcome t' hbegin hcommit hkept =>
    rw [hbegin]
    simp only
    rw [alone_bind, hcommit]
    cases outcome with
    | ok allocation => rfl
    | error e =>
      simp only [hlost e rfl]
      rfl

theorem tryCandidates_of_claimRuns
    (hproviders : (alone exec PlacementLedger.providers t).1 = .ok providers)
    {candidate : ResourceProvider R} {rest : List (ResourceProvider R)}
    (h : ClaimRuns capacity serverId resources t (candidateOf candidate) outcome)
    (hlost : ∀ e, outcome = .error e → lostRace e = false) :
    (alone exec (tryCandidates capacity serverId resources none (candidate :: rest)) t).1 =
    match outcome with
    | .ok allocation => .ok ⟨candidate.id, allocationId serverId, allocation⟩
    | .error e => converge serverId resources providers (.placement e) := by
  rw [tryCandidates, alone_bind]
  cases h with
  | refused e hbegin =>
    simp only [candidateOf] at hbegin
    rw [hbegin]
    exact alone_existingOr hproviders _
  | begun outcome t' hbegin hcommit hkept =>
    simp only [candidateOf] at hbegin hcommit hkept
    rw [hbegin]
    simp only
    rw [alone_bind, hcommit]
    cases outcome with
    | ok allocation => rfl
    | error e =>
      obtain rfl := hkept e rfl
      simp only [hlost e rfl]
      exact alone_existingOr (t := t.putIntent _) hproviders _

variable {flavor : Flavor}

theorem constraintResources_of_disk (h : flavor.diskGb ≠ 0) :
    constraintResources flavor = flavorResources flavor :=
  if_pos (Nat.pos_of_ne_zero h)

theorem mem_constraintResources_of_diskless (h : flavor.diskGb = 0) {row : ResourceRow Nat} :
    row ∈ (constraintResources flavor).rows ↔
    row = ⟨"VCPU", flavor.vcpus⟩ ∨ row = ⟨"MEMORY_MB", flavor.memoryMb⟩ := by
  have hnodup :
      (([⟨"VCPU", flavor.vcpus⟩, ⟨"MEMORY_MB", flavor.memoryMb⟩] : List (ResourceRow Nat)).map
        ResourceRow.resourceClass).Nodup := by
    simp
  rw [constraintResources, if_neg (by simp [h]), Table.mem_ofList hnodup]
  simp

theorem exists_claimRuns_first
    (hproviders : (alone exec PlacementLedger.providers t).1 = .ok providers)
    (hvalid : invalidRequest (allocationId serverId) serverId resources = false)
    {first : ResourceProvider R} {rest : List (ResourceProvider R)}
    (hfirst : ranked capacity resources providers = first :: rest) :
    ∃ outcome, ClaimRuns capacity serverId resources t (candidateOf first) outcome ∧
      ((Claimable t serverId resources first ∧ outcome = .ok ⟨first.id, serverId, resources⟩) ∨
        (Contested t serverId resources first ∧ outcome = .error .invalidAllocation) ∨
        (¬ Claimable t serverId resources first ∧
          ¬ Contested t serverId resources first ∧ ∃ e, outcome = .error (.store e))) := by
  obtain ⟨hmem, hroom⟩ := mem_ranked.mp (hfirst ▸ List.mem_cons_self)
  obtain ⟨row, hrow, hread⟩ := (mem_providers_iff hproviders).mp hmem
  exact exists_claimRuns hvalid hrow hread hroom

/-- With a disk, both claim the same candidates for the same resources. -/
theorem agree_with_disk_iff
    (hproviders : (alone exec PlacementLedger.providers t).1 = .ok providers)
    (hvalid : invalidRequest (allocationId serverId) serverId resources = false) :
    Agree
        (alone exec
          (tryCandidates capacity serverId resources none (ranked capacity resources providers)) t).1
        (alone exec
          (tryInTurn capacity serverId resources
            ((ranked capacity resources providers).map candidateOf)) t).1
      ↔
    (Held serverId t resources →
      ∃ first ∈ (ranked capacity resources providers).head?,
        Claimable t serverId resources first) := by
  cases hranked : ranked capacity resources providers with
  | nil =>
    have hrun : (alone exec (tryCandidates capacity serverId resources none []) t).1
        = converge serverId resources providers .noValidHost :=
      alone_existingOr hproviders _
    rw [hrun]
    refine (agree_converge_error_iff hproviders).trans ?_
    simp
  | cons first rest =>
    obtain ⟨outcome, hclaim, hcases⟩ := exists_claimRuns_first hproviders hvalid hranked
    have hlost : ∀ e, outcome = .error e → lostRace e = false := by
      rintro e rfl
      rcases hcases with ⟨_, h⟩ | ⟨_, h⟩ | ⟨_, _, _, h⟩ <;> cases h <;> rfl
    rw [List.map_cons, tryInTurn_of_claimRuns hclaim hlost,
      tryCandidates_of_claimRuns hproviders hclaim hlost]
    rcases hcases with ⟨hclaimable, rfl⟩ | ⟨hcontested, rfl⟩ | ⟨hnot, _, e, rfl⟩
    · exact iff_of_true ⟨rfl, rfl⟩ (fun _ => ⟨first, rfl, hclaimable⟩)
    · refine (agree_converge_error_iff hproviders).trans ?_
      simp [hcontested.not_claimable]
    · refine (agree_converge_error_iff hproviders).trans ?_
      simp [hnot]

theorem agree_without_disk_iff
    (hproviders : (alone exec PlacementLedger.providers t).1 = .ok providers)
    (hdisk : flavor.diskGb = 0)
    (hvalid :
      invalidRequest (allocationId serverId) serverId (constraintResources flavor) = false) :
    Agree
        (alone exec
          (tryCandidates capacity serverId (flavorResources flavor) none
            (ranked capacity (flavorResources flavor) providers)) t).1
        (alone exec
          (tryInTurn capacity serverId (constraintResources flavor)
            ((ranked capacity (constraintResources flavor) providers).map candidateOf)) t).1
      ↔
    ¬ Held serverId t (flavorResources flavor) ∧
      ∀ first ∈ (ranked capacity (constraintResources flavor) providers).head?,
        ranked capacity (flavorResources flavor) providers ≠ [] ∧
          Contested t serverId (constraintResources flavor) first := by
  have hinvalid :
      invalidRequest (allocationId serverId) serverId (flavorResources flavor) = true := by
    have hzero : (flavorResources flavor).rows.any (fun row => row.amount = 0) = true :=
      List.any_eq_true.mpr
        ⟨⟨"DISK_GB", flavor.diskGb⟩, mem_flavorResources.mpr (Or.inr (Or.inr rfl)), by simp [hdisk]⟩
    simp [invalidRequest, hzero]
  have hschedule :
      (alone exec
        (tryCandidates capacity serverId (flavorResources flavor) none
          (ranked capacity (flavorResources flavor) providers)) t).1
        =
      converge serverId (flavorResources flavor) providers
        (if ranked capacity (flavorResources flavor) providers = [] then
          .noValidHost
        else
          .placement .invalidAllocation) := by
    cases hranked : ranked capacity (flavorResources flavor) providers with
    | nil =>
      rw [if_pos rfl]
      exact alone_existingOr hproviders _
    | cons first rest =>
      rw [if_neg (List.cons_ne_nil _ _)]
      refine tryCandidates_of_claimRuns hproviders (.refused _ ?_) (by rintro e ⟨⟩; rfl)
      rw [PlacementLedger.beginAllocationIntent, if_pos (by simp [hinvalid])]
      rfl
  have hsubset :
      ranked capacity (constraintResources flavor) providers = [] →
        ranked capacity (flavorResources flavor) providers = [] := by
    intro hnone
    refine List.eq_nil_iff_forall_not_mem.mpr (fun provider hmem => ?_)
    obtain ⟨hlisted, hroom⟩ := mem_ranked.mp hmem
    refine List.eq_nil_iff_forall_not_mem.mp hnone provider (mem_ranked.mpr ⟨hlisted, ?_⟩)
    simp only [hasRoom, Bool.and_eq_true, List.all_eq_true] at hroom ⊢
    refine ⟨hroom.1, fun row hrow => hroom.2 row (mem_flavorResources.mpr ?_)⟩
    exact ((mem_constraintResources_of_diskless hdisk).mp hrow).imp_right Or.inl
  have hother : constraintResources flavor ≠ flavorResources flavor := by
    intro h
    have hmem := (mem_constraintResources_of_diskless hdisk).mp
      (h ▸ mem_flavorResources.mpr (Or.inr (Or.inr rfl)))
    simp at hmem
  rw [hschedule]
  cases hranked : ranked capacity (constraintResources flavor) providers with
  | nil =>
    rw [if_pos (hsubset hranked)]
    refine (agree_converge_error_iff hproviders).trans ?_
    simp
  | cons first rest =>
    obtain ⟨outcome, hclaim, hcases⟩ := exists_claimRuns_first hproviders hvalid hranked
    have hlost : ∀ e, outcome = .error e → lostRace e = false := by
      rintro e rfl
      rcases hcases with ⟨_, h⟩ | ⟨_, h⟩ | ⟨_, _, _, h⟩ <;> cases h <;> rfl
    rw [List.map_cons, tryInTurn_of_claimRuns hclaim hlost]
    rcases hcases with ⟨hclaimable, rfl⟩ | ⟨hcontested, rfl⟩ | ⟨_, hnot, e, rfl⟩
    · refine iff_of_false (not_agree_converge_ok hproviders hother) (fun h => ?_)
      exact (h.2 first rfl).2.not_claimable hclaimable
    · refine (agree_converge_error_iff hproviders).trans (and_congr_right (fun _ => ?_))
      by_cases hnone : ranked capacity (flavorResources flavor) providers = []
      · simp [hnone]
      · simp [hnone, hcontested]
    · refine (agree_converge_error_iff hproviders).trans (and_congr_right (fun _ => ?_))
      by_cases hnone : ranked capacity (flavorResources flavor) providers = []
      · simp [hnone]
      · simp [hnone, hnot]

variable (capacity serverId)

/-- **Both schedulers agree** exactly when nothing that is stored for the server
sets them apart. -/
theorem schedulers_agree_iff
    (t : Tables R) (hflat : ∀ row ∈ t.providers.rows, row.parentProviderId = none)
    (hfew : t.providers.rows.length ≤ maxCandidateLimit) (flavor : Flavor)
    (hvcpus : 0 < flavor.vcpus) (hmemory : 0 < flavor.memoryMb) :
    Agree (alone exec (schedule capacity serverId flavor) t).1
        (alone exec (scheduleWithConstraints capacity serverId flavor emptyConstraints) t).1
      ↔
    (serverId = "" ∨
      ∀ providers, (alone exec PlacementLedger.providers t).1 = .ok providers →
        AgreeWhen capacity serverId t flavor providers) := by
  by_cases hserver : serverId = ""
  · refine iff_of_true ?_ (Or.inl hserver)
    rw [schedule, scheduleInternal, scheduleWithConstraints, if_pos (by simp [hserver]),
      if_pos (by simp [hserver])]
    rfl
  have hguard : ¬ ((serverId.isEmpty || decide (flavor.vcpus = 0) ||
      decide (flavor.memoryMb = 0)) = true) := by
    simp [String.isEmpty_iff, hserver, hvcpus.ne', hmemory.ne']
  have hamounts : ∀ row ∈ (constraintResources flavor).rows, row.amount ≠ 0 := by
    intro row hrow
    by_cases hdisk : flavor.diskGb = 0
    · rcases (mem_constraintResources_of_diskless hdisk).mp hrow with rfl | rfl
      · exact hvcpus.ne'
      · exact hmemory.ne'
    · rw [constraintResources_of_disk hdisk] at hrow
      rcases mem_flavorResources.mp hrow with rfl | rfl | rfl
      · exact hvcpus.ne'
      · exact hmemory.ne'
      · exact hdisk
  have hnonempty : (constraintResources flavor).rows ≠ [] := by
    by_cases hdisk : flavor.diskGb = 0
    · exact List.ne_nil_of_mem ((mem_constraintResources_of_diskless hdisk).mpr (Or.inl rfl))
    · rw [constraintResources_of_disk hdisk]
      exact List.ne_nil_of_mem (mem_flavorResources.mpr (Or.inl rfl))
  have hvalid := invalidRequest_eq_false hserver hnonempty hamounts
  have hlimits : (unconstrained (constraintResources flavor)).exceedsLimits = false := by
    have hnonzero :
        (constraintResources flavor).rows.any (fun row => row.amount = 0) = false :=
      List.any_eq_false.mpr (fun row hrow => by simpa using hamounts row hrow)
    simp only [CandidateRequest.exceedsLimits, unconstrained, hnonzero, Bool.or_false]
    rw [List.isEmpty_eq_false_iff.mpr hnonempty]
    rfl
  cases hread : (alone exec PlacementLedger.providers t).1 with
  | error e =>
    have hproviders : alone exec PlacementLedger.providers t = (.error e, t) := Prod.ext hread rfl
    refine iff_of_true ?_ (Or.inr (fun _ h => by cases h))
    rw [schedule, scheduleInternal, if_neg hguard, alone_bind, hproviders,
      scheduleWithConstraints, if_neg hguard]
    show Agree _ (alone exec
      (PlacementLedger.candidates capacity (unconstrained (constraintResources flavor)) >>= _)
      t).1
    rw [PlacementLedger.candidates, hlimits, if_neg Bool.false_ne_true, alone_bind,
      alone_bind, hproviders]
    rfl
  | ok providers =>
    have hproviders : alone exec PlacementLedger.providers t = (.ok providers, t) :=
      Prod.ext hread rfl
    have hroots : ∀ provider ∈ providers, provider.parentProviderId = none := by
      intro provider hmem
      obtain ⟨row, hrow, hrecord⟩ := (mem_providers_iff hread).mp hmem
      rw [providerFromRecord_parent hrecord]
      exact hflat row (t.providers.mem_of_get? hrow)
    have hlength : providers.length ≤ maxCandidateLimit := by
      have hids := congrArg List.length (ids_of_providers hread)
      rw [List.length_map, List.length_map] at hids
      exact hids ▸ hfew
    have hschedule : alone exec (schedule capacity serverId flavor) t
        = alone exec
          (tryCandidates capacity serverId (flavorResources flavor) none
            (ranked capacity (flavorResources flavor) providers)) t := by
      rw [schedule, scheduleInternal, if_neg hguard, alone_bind, hproviders, ← candidates_eq_ranked]
    have hconstrained :
        alone exec
            (scheduleWithConstraints capacity serverId flavor emptyConstraints) t
        = alone exec
          (tryInTurn capacity serverId (constraintResources flavor)
            ((ranked capacity (constraintResources flavor) providers).map candidateOf)) t := by
      rw [scheduleWithConstraints, if_neg hguard]
      show alone exec
        (PlacementLedger.candidates capacity (unconstrained (constraintResources flavor)) >>= _)
        t = _
      rw [PlacementLedger.candidates, hlimits, if_neg Bool.false_ne_true, alone_bind,
        alone_bind, hproviders, ← selectCandidates_eq_ranked hroots hlength]
      rfl
    rw [hschedule, hconstrained, or_iff_right hserver]
    simp only [Except.ok.injEq, forall_eq', AgreeWhen]
    split_ifs with hdisk
    · exact agree_without_disk_iff hread hdisk hvalid
    · rw [constraintResources_of_disk hdisk] at hvalid ⊢
      exact agree_with_disk_iff hread hvalid

end Agreement

/-- A node with room for four VCPUs. -/
def smallNode : Tables Unit :=
  (exec (.registerProvider "node"
    [⟨"VCPU", 4, 0, (), 0⟩, ⟨"MEMORY_MB", 64, 0, (), 0⟩, ⟨"DISK_GB", 9, 0, (), 0⟩]) .empty).2

/-- A flavor with a disk finds the node on both paths. -/
theorem schedulers_agree_iff_smallNode :
    Agree (alone exec (schedule (fun total _ => total) "server" ⟨1, 16, 2⟩) smallNode).1
      (alone exec
        (scheduleWithConstraints (fun total _ => total) "server" ⟨1, 16, 2⟩ emptyConstraints)
        smallNode).1 :=
  (schedulers_agree_iff (fun total (_ : Unit) => total) "server" smallNode (by decide)
    (by decide) ⟨1, 16, 2⟩ (by decide) (by decide)).mpr
    (Or.inr (fun _ _ => fun ⟨_, hstored, _⟩ => by cases hstored))

/-- A flavor without a disk does not. -/
theorem schedulers_differ_without_disk :
    ¬ Agree (alone exec (schedule (fun total _ => total) "server" ⟨1, 16, 0⟩) smallNode).1
        (alone exec
          (scheduleWithConstraints (fun total _ => total) "server" ⟨1, 16, 0⟩ emptyConstraints)
          smallNode).1 :=
  fun h => h

end Scheduler
end O3k
