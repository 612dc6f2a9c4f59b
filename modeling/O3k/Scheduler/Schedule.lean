import Mathlib.Data.List.Sort
import O3k.Placement.Overbooking

/-!
# The scheduler

`Scheduler::schedule` reads the providers once, orders those that have room,
and tries them in turn: an intent, a commit under the generation it has read,
and on a lost race the next one.  What it cannot place it looks for among the
allocations, since another call for the same server may have placed it.
-/

namespace O3k
namespace Scheduler

open Relational Semantics Placement

variable {R : Type}

structure Flavor where
  vcpus : Nat
  memoryMb : Nat
  diskGb : Nat
  deriving DecidableEq

structure ScheduleDecision where
  providerId : String
  allocationId : String
  allocation : Allocation
  deriving DecidableEq

inductive SchedulerError
  | noValidHost
  | conflict
  | allocationMismatch
  | invalidFlavor
  | placement (error : PlacementError)
  deriving DecidableEq

variable (serverId : String)

/-- `format!("allocation-{server_id}")`. -/
def allocationId : String := "allocation-" ++ serverId

def flavorResources (flavor : Flavor) : ResourceMap :=
  Table.ofList
    [⟨"VCPU", flavor.vcpus⟩, ⟨"MEMORY_MB", flavor.memoryMb⟩, ⟨"DISK_GB", flavor.diskGb⟩]

/-- `selected_providers.is_none_or(|selected| selected.contains(id))`. -/
def isSelected (selected : Option StringSet) (providerId : String) : Bool :=
  selected.all (fun ids => (ids.get? providerId).isSome)

section Candidates

variable (capacity : Nat → R → Nat)

/-- The provider has an inventory of the class with enough left. -/
def offers (provider : ResourceProvider R) (resourceClass : String) (amount : Nat) : Bool :=
  (provider.inventories.get? resourceClass).any (fun inventory =>
    decide (amount ≤ PlacementLedger.available capacity inventory))

def isCandidate (flavor : Flavor) (selected : Option StringSet)
    (provider : ResourceProvider R) : Bool :=
  isSelected selected provider.id &&
    decide (provider.state = .enabled) &&
    offers capacity provider "VCPU" flavor.vcpus &&
    offers capacity provider "MEMORY_MB" flavor.memoryMb &&
    offers capacity provider "DISK_GB" flavor.diskGb

/-- The sum over the inventories, in 64 bits. -/
def free (provider : ResourceProvider R) : Nat :=
  provider.inventories.sumBy (PlacementLedger.available capacity) % 2 ^ 64

/-- The order of the candidates: more free first, then by id. -/
def precedes (left right : ResourceProvider R) : Prop :=
  free capacity right < free capacity left ∨
    (free capacity right = free capacity left ∧ left.id ≤ right.id)

instance : DecidableRel (precedes (R := R) capacity) :=
  fun _ _ => inferInstanceAs (Decidable (_ ∨ _))

def candidates (flavor : Flavor) (selected : Option StringSet)
    (providers : List (ResourceProvider R)) : List (ResourceProvider R) :=
  (providers.filter (isCandidate capacity flavor selected)).insertionSort (precedes capacity)

theorem mem_candidates {flavor : Flavor} {selected : Option StringSet}
    {providers : List (ResourceProvider R)} {provider : ResourceProvider R} :
    provider ∈ candidates capacity flavor selected providers ↔
    provider ∈ providers ∧ isCandidate capacity flavor selected provider = true := by
  unfold candidates
  rw [List.mem_insertionSort, List.mem_filter]

end Candidates

/-- The decision that a provider's allocations already hold for the server. -/
def decisionOn
    (resources : ResourceMap) (selected : Option StringSet) (provider : ResourceProvider R) :
    Option ScheduleDecision :=
  if isSelected selected provider.id then
    match provider.allocations.get? (allocationId serverId) with
    | none => none
    | some (_, allocation) =>
      if allocation.consumerId = serverId ∧ allocation.resources = resources then
        some ⟨provider.id, allocationId serverId, allocation⟩
      else
        none
  else
    none

def existingAllocation (resources : ResourceMap) (selected : Option StringSet) :
    LedgerProgram R (Except SchedulerError (Option ScheduleDecision)) := do
  match ← PlacementLedger.providers with
  | .error e => return .error (.placement e)
  | .ok providers => return .ok (providers.findSome? (decisionOn serverId resources selected))

/-- Converge on the allocation that is there, or fail with the error. -/
def existingOr (resources : ResourceMap) (selected : Option StringSet) (error : SchedulerError) :
    LedgerProgram R (Except SchedulerError ScheduleDecision) := do
  match ← existingAllocation serverId resources selected with
  | .error e => return .error e
  | .ok (some decision) => return .ok decision
  | .ok none => return .error error

/-- The errors after which the next candidate is tried. -/
def lostRace : PlacementError → Bool
  | .staleGeneration => true
  | .overCapacity => true
  | .notSchedulable => true
  | _ => false

section Schedule

variable (capacity : Nat → R → Nat)

/-- The loop over the candidates and what comes after it. -/
def tryCandidates (serverId : String) (resources : ResourceMap) (selected : Option StringSet) :
    List (ResourceProvider R) →
    LedgerProgram R (Except SchedulerError ScheduleDecision)
  | [] => existingOr serverId resources selected .noValidHost
  | candidate :: rest => do
    match ← PlacementLedger.beginAllocationIntent candidate.id (allocationId serverId)
        serverId resources with
    | .error e => existingOr serverId resources selected (.placement e)
    | .ok intent =>
      match ← PlacementLedger.commitAllocationIntent capacity intent
          candidate.generation with
      | .ok allocation => return .ok ⟨candidate.id, intent.allocationId, allocation⟩
      | .error e =>
        if lostRace e then
          match ← PlacementLedger.abandonAllocationIntent intent with
          | .error e => existingOr serverId resources selected (.placement e)
          | .ok () => tryCandidates serverId resources selected rest
        else
          existingOr serverId resources selected (.placement e)

def scheduleInternal (serverId : String) (flavor : Flavor) (selected : Option StringSet) :
    LedgerProgram R (Except SchedulerError ScheduleDecision) := do
  if serverId.isEmpty || flavor.vcpus = 0 || flavor.memoryMb = 0 then
    return .error .invalidFlavor
  else
    match ← PlacementLedger.providers with
    | .error e => return .error (.placement e)
    | .ok providers =>
      tryCandidates capacity serverId (flavorResources flavor) selected
        (candidates capacity flavor selected providers)

def schedule (serverId : String) (flavor : Flavor) :
    LedgerProgram R (Except SchedulerError ScheduleDecision) :=
  scheduleInternal capacity serverId flavor none

end Schedule

/-- The calls that change no allocation and store no intent. -/
def Minor : RepositoryCall R → Prop
  | .getProvider _ => True
  | .listProviders => True
  | .getIntent _ => True
  | .deleteIntent _ => True
  | _ => False

/-- The calls that store no intent. -/
def Quiet : RepositoryCall R → Prop
  | .commitAllocation _ _ _ => True
  | c => Minor c

theorem quiet_of_minor (c : RepositoryCall R) (h : Minor c) : Quiet c := by
  cases c with
  | commitAllocation => trivial
  | _ => exact h

theorem calls_providers : (PlacementLedger.providers (R := R)).Calls Minor := by
  refine Program.calls_perform_bind trivial (fun reply => ?_)
  cases reply <;> trivial

theorem calls_existingOr
    (resources : ResourceMap) (selected : Option StringSet) (error : SchedulerError) :
    (existingOr (R := R) serverId resources selected error).Calls Minor := by
  refine Program.Calls.bind (calls_providers.bind (fun providers => ?_)) (fun result => ?_)
  · cases providers <;> trivial
  · rcases result with e | _ | decision <;> trivial

theorem calls_allocationIntent (id : String) :
    (PlacementLedger.allocationIntent (R := R) id).Calls Minor := by
  refine Program.calls_perform_bind trivial (fun reply => ?_)
  cases reply <;> trivial

theorem calls_pendingIntent (intent : AllocationIntent) :
    (PlacementLedger.pendingIntent (R := R) intent).Calls Minor := by
  refine (calls_allocationIntent _).bind (fun stored => ?_)
  rcases stored with e | _ | stored
  · trivial
  · refine Program.Calls.bind (Program.calls_perform_bind trivial (fun reply => ?_))
      (fun provider => ?_)
    · rcases reply with e | _ | record <;> trivial
    · cases provider with
      | error e => trivial
      | ok provider =>
        simp only
        cases provider.allocations.get? intent.allocationId with
        | none => trivial
        | some entry =>
          simp only
          split_ifs <;> trivial
  · trivial

theorem calls_abandonAllocationIntent (intent : AllocationIntent) :
    (PlacementLedger.abandonAllocationIntent (R := R) intent).Calls Minor := by
  refine (calls_allocationIntent _).bind (fun stored => ?_)
  rcases stored with e | _ | stored
  · trivial
  · trivial
  · simp only
    split_ifs
    · trivial
    · refine Program.calls_perform_bind trivial (fun reply => ?_)
      cases reply <;> trivial

theorem calls_allocate (capacity : Nat → R → Nat) (providerId allocationId consumerId : String)
    (resources : ResourceMap) (generation : Nat) :
    (PlacementLedger.allocate capacity providerId allocationId consumerId resources
      generation).Calls Quiet := by
  unfold PlacementLedger.allocate
  split_ifs
  · trivial
  · refine Program.calls_perform_bind trivial (fun reply => ?_)
    rcases reply with e | _ | record
    · trivial
    · trivial
    · simp only
      rcases PlacementLedger.allocateDecision capacity record allocationId consumerId resources
        generation with e | _ | allocation
      · trivial
      · refine Program.calls_perform_bind trivial (fun reply => ?_)
        cases reply <;> trivial
      · trivial

theorem calls_commitAllocationIntent
    (capacity : Nat → R → Nat) (intent : AllocationIntent) (generation : Nat) :
    (PlacementLedger.commitAllocationIntent capacity intent generation).Calls Quiet := by
  refine ((calls_pendingIntent intent).mono quiet_of_minor).bind (fun stored => ?_)
  cases stored with
  | error e => trivial
  | ok stored =>
    simp only
    split_ifs
    · trivial
    · refine (calls_allocate capacity _ _ _ _ generation).bind (fun result => ?_)
      cases result with
      | error e => trivial
      | ok allocation =>
        refine Program.calls_perform_bind trivial (fun reply => ?_)
        cases reply <;> trivial

end Scheduler
end O3k

/-!
# What the scheduler can rely on

Every stored provider can be read back and every intent has one.  Providers are
never removed, so both stay true.
-/

namespace O3k
namespace Scheduler

open Relational Semantics Placement Placement.Sqlite

variable {R : Type}

/-- A state that the ledger can read back. -/
def KnownState (state : String) : Prop := (providerStateFromStr state).isSome = true

instance : DecidablePred KnownState :=
  fun _ => inferInstanceAs (Decidable (_ = true))

variable {t : Tables R}

theorem providerFromRecord_of_known {row : ProviderRow Nat R} (h : KnownState row.state) :
    ∃ provider, providerFromRecord (t.providerRecord id row) = .ok provider := by
  obtain ⟨state, hstate⟩ := Option.isSome_iff_exists.mp h
  unfold providerFromRecord
  split
  · rename_i hunknown
    cases hstate.symm.trans hunknown
  · exact ⟨_, rfl⟩

/-- What the ledger checks, or fixes by its types, before it calls. -/
def FromLedger : RepositoryCall R → Prop
  | .registerProvider nodeId _ => nodeId ≠ ""
  | .registerProviderMetadata nodeId _ _ => nodeId ≠ ""
  | .syncProvider nodeId state _ => nodeId ≠ "" ∧ KnownState state
  | .setProviderState _ state => KnownState state
  | _ => True

instance : DecidablePred (FromLedger (R := R)) := by
  intro c
  apply @RepositoryCall.casesOn R (fun c => Decidable (FromLedger c)) c <;> intros <;>
    unfold FromLedger <;> infer_instance

/-- Providers can be read back and tried, and intents have theirs. -/
structure Sound (t : Tables R) : Prop where
  readable : ∀ row ∈ t.providers.rows, row.id ≠ "" ∧ KnownState row.state
  placed :
    ∀ intent ∈ t.intents.rows, ∃ provider, t.providers.get? intent.providerId = some provider

theorem sound_empty : Sound (PlacementTables.empty : Tables R) :=
  ⟨fun _ h => absurd h List.not_mem_nil, fun _ h => absurd h List.not_mem_nil⟩

variable {c : RepositoryCall R}

theorem knownState_writtenState
    (hreadable : ∀ row ∈ t.providers.rows, row.id ≠ "" ∧ KnownState row.state)
    (hledger : FromLedger c) {id : String}
    (hstored : c.registered? = some id ∨ ∃ old, t.providers.get? id = some old) :
    KnownState (writtenState c (t.providerState id)) := by
  have henabled : KnownState "Enabled" := by decide
  cases hget : t.providers.get? id with
  | some old =>
    have hold : KnownState old.state := (hreadable old (t.providers.mem_of_get? hget)).2
    rw [PlacementTables.providerState, hget]
    cases c with
    | syncProvider nodeId state inventories =>
      simp only [writtenState, syncedState]
      split_ifs
      · exact hold
      · exact hledger.2
    | setProviderState id state => exact hledger
    | _ => exact hold
  | none =>
    rw [PlacementTables.providerState, hget]
    have hregistered : c.registered? = some id := by
      rcases hstored with h | ⟨old, hold⟩
      · exact h
      · cases hget.symm.trans hold
    cases c with
    | syncProvider nodeId state inventories =>
      simp only [writtenState, syncedState]
      split_ifs
      · exact hledger.2
      · exact hledger.2
    | registerProvider | registerProviderMetadata => exact henabled
    | _ => cases hregistered

theorem readable_step
    (hledger : FromLedger c) (h : ∀ row ∈ t.providers.rows, row.id ≠ "" ∧ KnownState row.state) :
    ∀ row ∈ (step t c).providers.rows, row.id ≠ "" ∧ KnownState row.state := by
  have heffect := effect_step t c
  generalize step t c = t' at heffect
  cases heffect with
  | unchanged | intentStored | intentDeleted => exact h
  | provider row htarget hnewer hinventories hstate hstored =>
    intro row' hrow'
    rcases t.providers.mem_put.mp hrow' with rfl | ⟨hmem, _⟩
    · refine ⟨?_, hstate ▸ knownState_writtenState h hledger hstored⟩
      rcases hstored with hregistered | ⟨old, hold⟩
      · cases c with
        | registerProvider | registerProviderMetadata =>
          exact Option.some.inj hregistered ▸ hledger
        | syncProvider => exact Option.some.inj hregistered ▸ hledger.1
        | _ => cases hregistered
      · rw [← t.providers.key_of_get? hold]
        exact (h old (t.providers.mem_of_get? hold)).1
    · exact h row' hmem
  | committed old resources habsent hold hresources =>
    intro row' hrow'
    rcases t.providers.mem_put.mp hrow' with rfl | ⟨hmem, _⟩
    · simpa using h old (t.providers.mem_of_get? hold)
    · exact h row' hmem
  | released old existing hold hexisting =>
    intro row' hrow'
    rcases t.providers.mem_put.mp hrow' with rfl | ⟨hmem, _⟩
    · simpa using h old (t.providers.mem_of_get? hold)
    · exact h row' hmem
  | reconciled t' hallocations hintents hresources hproviders =>
    intro row' hrow'
    have hget := hproviders row'.id
    rw [t'.providers.get?_key_of_mem hrow'] at hget
    obtain ⟨row, hrow, heq⟩ := Option.map_eq_some_iff.mp hget.symm
    have hread := h row (t.providers.mem_of_get? hrow)
    rw [← heq]
    split_ifs
    · simpa using hread
    · exact hread

theorem intent_of_step {id : String} {row : AllocationRow Nat}
    (hother : ∀ intent, c = .upsertIntent intent → intent.id ≠ id)
    (h : (step t c).intents.get? id = some row) :
    t.intents.get? id = some row := by
  have heffect := effect_step t c
  generalize step t c = t' at heffect h
  cases heffect with
  | unchanged | provider | committed | released => exact h
  | intentStored stored hplaced =>
    have hne : stored.id ≠ id := hother _ rfl
    rwa [PlacementTables.putIntent_intents, t.intents.get?_put_of_ne hne] at h
  | intentDeleted id' =>
    rw [PlacementTables.deleteIntent_intents, Table.get?_deleteWhere] at h
    exact (Option.filter_eq_some_iff.mp h).1
  | reconciled t' hallocations hintents hresources hproviders =>
    rw [hintents, Table.get?_deleteWhere] at h
    exact (Option.filter_eq_some_iff.mp h).1

theorem sound_step (hledger : FromLedger c) (h : Sound t) : Sound (step t c) := by
  refine ⟨readable_step hledger h.readable, ?_⟩
  have heffect := effect_step t c
  have hpersists :
      ∀ k provider, t.providers.get? k = some provider →
        ∃ provider', (step t c).providers.get? k = some provider' := by
    intro k provider hprovider
    obtain ⟨provider', hget, _⟩ := heffect.providersFenced k provider hprovider
    exact ⟨provider', hget⟩
  have hkept :
      ∀ intent, intent ∈ t.intents.rows →
        ∃ provider, (step t c).providers.get? intent.providerId = some provider := by
    intro intent hintent
    obtain ⟨provider, hprovider⟩ := h.placed intent hintent
    exact hpersists _ provider hprovider
  generalize step t c = t' at heffect hpersists hkept
  cases heffect with
  | unchanged | provider | committed | released => exact hkept
  | intentStored row hplaced =>
    intro intent hintent
    rcases t.intents.mem_put.mp hintent with rfl | ⟨hmem, _⟩
    · rcases hplaced with hprovider | ⟨stored, hstored, hsame⟩
      · exact hprovider
      · rw [← hsame]
        exact h.placed stored (t.intents.mem_of_get? hstored)
    · exact hkept intent hmem
  | intentDeleted id =>
    intro intent hintent
    exact hkept intent (t.intents.mem_deleteWhere.mp hintent).1
  | reconciled t' hallocations hintents hresources hproviders =>
    intro intent hintent
    rw [hintents] at hintent
    exact hkept intent (t.intents.mem_deleteWhere.mp hintent).1

end Scheduler
end O3k
