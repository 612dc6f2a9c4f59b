import O3k.Stateful.Calls

/-!
# Endpoints that a call does not name

A snapshot is of one endpoint, and a removal names the endpoints of its intents
and those it is given.  What is emitted for any other endpoint is to stay as it
is.
-/

namespace O3k
namespace Stateful

open Relational Semantics
open Network hiding PolicyIntent
open Fabric hiding NetworkPlanError LinuxFabricError
open Planning hiding NetworkPlanError

def ProviderWorld.emittedFor (w : ProviderWorld) (id : Uuid) : List (List NftMatch × NftVerdict) :=
  (w.memory.map (·.emittedFor id)).getD []

/-- The call is about other endpoints. -/
def ProviderMethod.leavesAlone (id : Uuid) : ProviderMethod → Bool
  | .applyEndpointSnapshot endpointId _ _ => id ≠ endpointId
  | .removeForPlan intents endpoints => !isTarget intents endpoints id
  | _ => false

/-- The call brings nothing for the endpoints that it is not about, and removes
the whole table only where no other endpoint has a default that denies. -/
def ProviderMethod.Spares (w : ProviderWorld) : ProviderMethod → Prop
  | .applyEndpointSnapshot endpointId intents known =>
    ∀ id, id ≠ endpointId →
      policiesFor (intents.filterMap policyOf) id = [] ∧
        denials (intents.filterMap defaultOf) id = 0 ∧
        (w.emittedFor id ≠ [] → ∀ address, addressOf known id = some address →
          addressOf (recordedEndpoints w.memory) id = some address)
  | .removeForPlan intents endpoints =>
    namesNothing intents endpoints = true ∨
      (∃ p ∈ recordedPolicies w.memory, isTarget intents endpoints p.endpointId = false) ∨
      ∀ d ∈ recordedDefaults w.memory,
        d.unmatchedAction = .deny → isTarget intents endpoints d.endpointId = true
  | _ => True

namespace ProviderEvent

variable (lib : ProviderLibrary) (w : ProviderWorld)

/-- The event is a call that succeeds. -/
def Succeeds : ProviderEvent → Prop
  | .call method answers => (w.perform lib method answers).1 = .ok ()
  | _ => False

/-- All its commands are executed. -/
def IsExecuted : ProviderEvent → Prop
  | .call _ answers => ∀ n, answers n = .executed
  | _ => False

def leavesAlone (id : Uuid) : ProviderEvent → Bool
  | .call method _ => method.leavesAlone id
  | _ => false

/-- **The frame**: the same is emitted for the endpoints that the call is not
about. -/
def KeepsOthers (e : ProviderEvent) : Prop :=
  ∀ id, e.leavesAlone id = true → (w.step lib e).emittedFor id = w.emittedFor id

def Spares : ProviderEvent → Prop
  | .call method _ => method.Spares w
  | _ => True

end ProviderEvent

section Emitted

variable {w : ProviderWorld} {memory : Option Ownership} {id : Uuid}
variable {intents : List NetworkPlanIntent} {endpoints : List PolicyEndpoint} {next : Ownership}

theorem emittedFor_eq_emission :
    w.emittedFor id = (addressOf (recordedEndpoints w.memory) id).elim [] fun address =>
      emission address (policiesFor (recordedPolicies w.memory) id)
        (denials (recordedDefaults w.memory) id) := by
  rw [ProviderWorld.emittedFor]
  cases w.memory with
  | none => rfl
  | some o => exact emittedFor_eq

theorem length_emitted (hw : RecordIsWellFormed w.memory) :
    (w.emittedFor id).length = (policiesFor (recordedPolicies w.memory) id).length
      + 2 * denials (recordedDefaults w.memory) id := by
  rw [ProviderWorld.emittedFor]
  cases hmemory : w.memory with
  | none => rfl
  | some o => exact length_emittedFor (hw o hmemory)

theorem policiesFor_of_addressless
    (hw : RecordIsWellFormed memory) (hnone : addressOf (recordedEndpoints memory) id = none) :
    policiesFor (recordedPolicies memory) id = [] := by
  refine List.filter_eq_nil_iff.mpr (fun p hp hid => ?_)
  have hsome := hw.policies p hp
  rw [of_decide_eq_true hid, hnone] at hsome
  cases hsome

theorem denials_of_addressless
    (hw : RecordIsWellFormed memory) (hnone : addressOf (recordedEndpoints memory) id = none) :
    denials (recordedDefaults memory) id = 0 := by
  refine denials_eq_zero_iff.mpr (fun d hd hid => ?_)
  have hsome := hw.defaults d hd
  rw [hid, hnone] at hsome
  cases hsome

theorem policiesFor_append (policies others : List PolicyIntent) :
    policiesFor (policies ++ others) id = policiesFor policies id ++ policiesFor others id :=
  List.filter_append ..

theorem denials_append (defaults others : List PolicyDefaultIntent) :
    denials (defaults ++ others) id = denials defaults id + denials others id :=
  List.countP_append

theorem policiesFor_filter (policies : List PolicyIntent) (keep : Uuid → Bool) :
    policiesFor (policies.filter (fun p => keep p.endpointId)) id
      = if keep id = true then policiesFor policies id else [] := by
  induction policies with
  | nil => simp [policiesFor]
  | cons p rest ih =>
    rw [List.filter_cons, policiesFor_cons]
    by_cases hid : p.endpointId = id
    · subst hid
      by_cases hkeep : keep p.endpointId = true
      · rw [if_pos hkeep, policiesFor_cons, ih, if_pos rfl, if_pos hkeep, if_pos hkeep, if_pos rfl]
      · rw [if_neg hkeep, ih, if_neg hkeep, if_neg hkeep]
    · split_ifs at ih ⊢
      · rw [policiesFor_cons, if_neg hid, ih]
      · rw [policiesFor_cons, if_neg hid, ih]
      · exact ih
      · exact ih

theorem denials_filter (defaults : List PolicyDefaultIntent) (keep : Uuid → Bool) :
    denials (defaults.filter (fun d => keep d.endpointId)) id
      = if keep id = true then denials defaults id else 0 := by
  induction defaults with
  | nil => simp [denials]
  | cons d rest ih =>
    rw [List.filter_cons]
    by_cases hid : d.endpointId = id
    · subst hid
      rw [denials_cons]
      by_cases hkeep : keep d.endpointId = true
      · rw [if_pos hkeep, denials_cons, ih, if_pos hkeep, if_pos hkeep]
      · rw [if_neg hkeep, ih, if_neg hkeep, if_neg hkeep]
    · have hother : ∀ others, denials (d :: others) id = denials others id := by
        intro others
        rw [denials_cons, if_neg (fun h => hid h.1), Nat.add_zero]
      rw [hother]
      split_ifs at ih ⊢
      · rw [hother, ih]
      · rw [hother, ih]
      · exact ih
      · exact ih

/-- **The policies of an endpoint after a call.** -/
theorem Realizes.policiesFor (h : Realizes memory intents endpoints next) :
    Stateful.policiesFor next.policies id = sortBy recordKey
      ((if isCurrent endpoints id = true then []
        else Stateful.policiesFor (recordedPolicies memory) id) ++
          Stateful.policiesFor (intents.filterMap policyOf) id) := by
  rw [h.policies, Stateful.policiesFor, filter_sortBy]
  congr 1
  rw [List.filter_append]
  congr 1
  refine (policiesFor_filter (recordedPolicies memory) (fun id => !isCurrent endpoints id)).trans ?_
  cases isCurrent endpoints id with
  | true => rfl
  | false => rfl

theorem Realizes.denials (h : Realizes memory intents endpoints next) :
    Stateful.denials next.defaults id = (if isCurrent endpoints id = true then 0
      else Stateful.denials (recordedDefaults memory) id) +
        Stateful.denials (intents.filterMap defaultOf) id := by
  rw [h.defaults, Stateful.denials, (sortBy_perm _).countP_eq, List.countP_append]
  congr 1
  refine (denials_filter (recordedDefaults memory) (fun id => !isCurrent endpoints id)).trans ?_
  cases isCurrent endpoints id with
  | true => rfl
  | false => rfl

theorem sortBy_policiesFor (hmemory : RecordIsWellFormed memory) :
    sortBy recordKey (policiesFor (recordedPolicies memory) id)
      = policiesFor (recordedPolicies memory) id :=
  List.Pairwise.insertionSort_eq (hmemory.sorted.filter _)

end Emitted

section Calls

variable {w w' : ProviderWorld} {id : Uuid}
variable {intents : List NetworkPlanIntent} {endpoints : List PolicyEndpoint} {next : Ownership}

theorem emittedFor_grown_iff {policies : List PolicyIntent} {added : Nat}
    (known : List PolicyEndpoint) (hw : RecordIsWellFormed w.memory)
    (hw' : RecordIsWellFormed w'.memory)
    (hpolicies :
      policiesFor (recordedPolicies w'.memory) id =
        sortBy recordKey (policiesFor (recordedPolicies w.memory) id ++ policies))
    (hdenials :
      denials (recordedDefaults w'.memory) id = denials (recordedDefaults w.memory) id + added)
    (haddress :
      addressOf (recordedEndpoints w'.memory) id =
        (addressOf known id).or (addressOf (recordedEndpoints w.memory) id)) :
    w'.emittedFor id = w.emittedFor id ↔ policies = [] ∧ added = 0 ∧
      (w.emittedFor id ≠ [] → ∀ address, addressOf known id = some address →
        addressOf (recordedEndpoints w.memory) id = some address) := by
  constructor
  · intro h
    have hlength := congrArg List.length h
    rw [length_emitted hw', length_emitted hw, hpolicies, hdenials,
      (sortBy_perm _).length_eq, List.length_append] at hlength
    have hnone : policies = [] := List.length_eq_zero_iff.mp (by omega)
    have hzero : added = 0 := by omega
    refine ⟨hnone, hzero, fun hne address hknown => ?_⟩
    subst hnone hzero
    rw [List.append_nil, sortBy_policiesFor hw] at hpolicies
    rw [hknown, Option.some_or] at haddress
    rw [emittedFor_eq_emission, haddress, hpolicies, hdenials] at h
    rw [emittedFor_eq_emission] at h hne
    cases hold : addressOf (recordedEndpoints w.memory) id with
    | none =>
      rw [hold] at hne
      exact absurd rfl hne
    | some old =>
      rw [hold] at h hne
      rw [address_eq_of_emission_eq h.symm hne]
  · rintro ⟨rfl, rfl, hsame⟩
    rw [List.append_nil, sortBy_policiesFor hw] at hpolicies
    rw [Nat.add_zero] at hdenials
    by_cases hnil : w.emittedFor id = []
    · rw [hnil]
      refine List.length_eq_zero_iff.mp ?_
      have hlength := congrArg List.length hnil
      rw [length_emitted hw, List.length_nil] at hlength
      rw [length_emitted hw', hpolicies, hdenials]
      exact hlength
    · have hold : addressOf (recordedEndpoints w'.memory) id
          = addressOf (recordedEndpoints w.memory) id := by
        rw [haddress]
        cases hknown : addressOf known id with
        | none => rfl
        | some address => exact (hsame hnil address hknown).symm
      rw [emittedFor_eq_emission, emittedFor_eq_emission, hold, hpolicies, hdenials]

theorem policies_aggregateIntents (memory : Option Ownership) (endpointId : Uuid) :
    (aggregateIntents memory endpointId intents).filterMap policyOf =
    (recordedPolicies memory).filter (·.endpointId ≠ endpointId) ++ intents.filterMap policyOf := by
  simp [aggregateIntents, List.filterMap_append, List.filterMap_map, Function.comp_def, policyOf]

theorem defaults_aggregateIntents (memory : Option Ownership) (endpointId : Uuid) :
    (aggregateIntents memory endpointId intents).filterMap defaultOf =
    (recordedDefaults memory).filter (·.endpointId ≠ endpointId) ++ intents.filterMap defaultOf := by
  simp [aggregateIntents, List.filterMap_append, List.filterMap_map, Function.comp_def, defaultOf]

theorem addressOf_of_not_isCurrent (h : ¬ isCurrent endpoints id = true) :
    addressOf endpoints id = none :=
  addressOf_eq_none_iff.mpr (fun e he heq => h (List.any_eq_true.mpr ⟨e, he, by simpa using heq⟩))

/-- **A snapshot** that leaves a record. -/
theorem emittedFor_snapshot_iff {endpointId : Uuid} {known : List PolicyEndpoint}
    (hw : RecordIsWellFormed w.memory)
    (hnext :
      Realizes w.memory (aggregateIntents w.memory endpointId intents)
        (mergeEndpoints (recordedEndpoints w.memory) known) next)
    (hmemory : w'.memory = some (next.rebind endpointId)) (hid : id ≠ endpointId) :
    w'.emittedFor id = w.emittedFor id ↔ policiesFor (intents.filterMap policyOf) id = [] ∧
      denials (intents.filterMap defaultOf) id = 0 ∧
      (w.emittedFor id ≠ [] → ∀ address, addressOf known id = some address →
        addressOf (recordedEndpoints w.memory) id = some address) := by
  have hmerged : addressOf (mergeEndpoints (recordedEndpoints w.memory) known) id
      = (addressOf known id).or (addressOf (recordedEndpoints w.memory) id) :=
    addressOf_mergeEndpoints hw.nodup
  -- all that is recorded is in the inventory, so that nothing else is retained
  have hunknown :
      ¬ isCurrent (mergeEndpoints (recordedEndpoints w.memory) known) id = true →
        addressOf (recordedEndpoints w.memory) id = none := by
    intro hcurrent
    have hnone := addressOf_of_not_isCurrent hcurrent
    rw [hmerged, Option.or_eq_none_iff] at hnone
    exact hnone.2
  have hothers : ∀ i, decide (i ≠ endpointId) = true ↔ i ≠ endpointId :=
    fun i => decide_eq_true_iff
  refine emittedFor_grown_iff known hw ?_ ?_ ?_ ?_
  · rw [hmemory]
    exact recordIsWellFormed_some ((hnext.wellFormed hw).rebind endpointId)
  · rw [hmemory]
    refine hnext.policiesFor.trans ?_
    rw [policies_aggregateIntents, policiesFor_append,
      policiesFor_filter (recordedPolicies w.memory) (fun i => decide (i ≠ endpointId)),
      if_pos ((hothers id).mpr hid)]
    split_ifs with hcurrent
    · rfl
    · rw [policiesFor_of_addressless hw (hunknown hcurrent)]
      rfl
  · rw [hmemory]
    refine hnext.denials.trans ?_
    rw [defaults_aggregateIntents, denials_append,
      denials_filter (recordedDefaults w.memory) (fun i => decide (i ≠ endpointId)),
      if_pos ((hothers id).mpr hid)]
    split_ifs with hcurrent
    · rw [Nat.zero_add]
    · rw [denials_of_addressless hw (hunknown hcurrent)]
      simp
  · rw [hmemory]
    show addressOf next.endpoints id = _
    rw [hnext.merged, addressOf_mergeEndpoints hw.nodup, hmerged, Option.or_assoc, Option.or_self]

/-- **A snapshot** after which nothing is left. -/
theorem emittedFor_snapshot_of_nothing {endpointId : Uuid}
    (hw : RecordIsWellFormed w.memory) (hempty : aggregateIntents w.memory endpointId intents = [])
    (hid : id ≠ endpointId) :
    w.emittedFor id = [] ∧ intents = [] := by
  rw [aggregateIntents, List.append_eq_nil_iff, List.append_eq_nil_iff, List.map_eq_nil_iff,
    List.map_eq_nil_iff] at hempty
  obtain ⟨⟨hpolicies, hdefaults⟩, hintents⟩ := hempty
  refine ⟨List.length_eq_zero_iff.mp ?_, hintents⟩
  have hnoPolicies : policiesFor (recordedPolicies w.memory) id = [] := by
    refine List.filter_eq_nil_iff.mpr (fun p hp hpid => ?_)
    have hself := List.filter_eq_nil_iff.mp hpolicies p hp
    simp only [ne_eq, decide_not, Bool.not_eq_eq_eq_not, Bool.not_true, decide_eq_false_iff_not,
      not_not] at hself
    exact hid ((of_decide_eq_true hpid).symm.trans hself)
  have hnoDenials : denials (recordedDefaults w.memory) id = 0 := by
    refine denials_eq_zero_iff.mpr (fun d hd hdid => ?_)
    have hself := List.filter_eq_nil_iff.mp hdefaults d hd
    simp only [ne_eq, decide_not, Bool.not_eq_eq_eq_not, Bool.not_true, decide_eq_false_iff_not,
      not_not] at hself
    exact absurd (hdid.symm.trans hself) hid
  rw [length_emitted hw, hnoPolicies, hnoDenials]
  rfl

/-- **A removal** that rebuilds the table keeps what is emitted for the others. -/
theorem emittedFor_rebuilt
    (hw : RecordIsWellFormed w.memory) (hnext : Realizes w.memory [] endpoints next)
    (hmemory : w'.memory = some next) (hid : isTarget intents endpoints id = false) :
    w'.emittedFor id = w.emittedFor id := by
  have hcurrent : ¬ isCurrent endpoints id = true := by
    intro h
    rw [isTarget, show endpoints.any (fun e => decide (e.endpointId = id)) = true from h,
      Bool.or_true] at hid
    cases hid
  refine (emittedFor_grown_iff [] hw ?_ ?_ ?_ ?_).mpr
    ⟨rfl, rfl, fun _ address h => by cases h⟩
  · rw [hmemory]
    exact recordIsWellFormed_some (hnext.wellFormed hw)
  · rw [hmemory]
    refine hnext.policiesFor.trans ?_
    rw [if_neg hcurrent]
    rfl
  · rw [hmemory]
    refine hnext.denials.trans ?_
    rw [if_neg hcurrent]
    rfl
  · rw [hmemory]
    show addressOf next.endpoints id = _
    rw [hnext.merged, addressOf_mergeEndpoints hw.nodup, addressOf_of_not_isCurrent hcurrent]
    rfl

/-- **A removal** of the table takes the defaults of the others with it. -/
theorem emittedFor_removed_iff (hw : RecordIsWellFormed w.memory) (hmemory : w'.memory = none)
    (hall : ∀ p ∈ recordedPolicies w.memory, isTarget intents endpoints p.endpointId = true) :
    (∀ id, isTarget intents endpoints id = false → w'.emittedFor id = w.emittedFor id) ↔
    ∀ d ∈ recordedDefaults w.memory,
      d.unmatchedAction = .deny → isTarget intents endpoints d.endpointId = true := by
  have hemitted : ∀ id, isTarget intents endpoints id = false →
      (w'.emittedFor id = w.emittedFor id ↔ denials (recordedDefaults w.memory) id = 0) := by
    intro id hid
    have hpolicies : policiesFor (recordedPolicies w.memory) id = [] := by
      refine List.filter_eq_nil_iff.mpr (fun p hp hpid => ?_)
      have htarget := hall p hp
      rw [of_decide_eq_true hpid, hid] at htarget
      cases htarget
    have hlength :
        (w.emittedFor id).length =
          (policiesFor (recordedPolicies w.memory) id).length +
            2 * denials (recordedDefaults w.memory) id :=
      length_emitted hw
    rw [hpolicies, List.length_nil, Nat.zero_add] at hlength
    have hnothing : w'.emittedFor id = [] := by
      rw [ProviderWorld.emittedFor, hmemory]
      rfl
    rw [hnothing, eq_comm, ← List.length_eq_zero_iff, hlength]
    omega
  constructor
  · intro h d hd hdeny
    by_contra hnot
    have htarget : isTarget intents endpoints d.endpointId = false := Bool.not_eq_true _ ▸ hnot
    exact denials_eq_zero_iff.mp ((hemitted _ htarget).mp (h _ htarget)) d hd rfl hdeny
  · intro h id hid
    refine (hemitted id hid).mpr (denials_eq_zero_iff.mpr (fun d hd hdid hdeny => ?_))
    have htarget := h d hd hdeny
    rw [hdid, hid] at htarget
    cases htarget

end Calls

section Runs

variable {lib : ProviderLibrary} {w : ProviderWorld}

theorem goes_program {E : Prop} (method : ProviderMethod) (hw : w.WellFormed) :
    Goes E
      (fun _ w' =>
        ((∀ id, method.leavesAlone id = true → w'.emittedFor id = w.emittedFor id)
          ↔ method.Spares w) ∧
          (E → w.Realized → w'.Realized))
      (method.program lib) w := by
  cases method with
  | apply intents endpoints =>
    refine (goes_apply hw).mono (fun _ w' h => ?_)
    obtain ⟨_, _, _, hrealized⟩ := h
    exact ⟨iff_of_true (fun _ hid => by cases hid) trivial, hrealized⟩
  | recordEndpointFingerprint endpointId fingerprint =>
    exact (goes_recordEndpointFingerprint hw).mono
      (fun _ w' h => ⟨iff_of_true (fun _ hid => by cases hid) trivial, fun _ => h⟩)
  | remove =>
    exact (goes_remove hw).mono
      (fun _ w' h => ⟨iff_of_true (fun _ hid => by cases hid) trivial, h.2⟩)
  | applyEndpointSnapshot endpointId intents known =>
    refine (goes_applyEndpointSnapshot hw).mono (fun _ w' h => ⟨?_, h.2⟩)
    refine forall_congr' (fun id => ?_)
    rw [ProviderMethod.leavesAlone, decide_eq_true_iff]
    refine imp_congr_right (fun hid => ?_)
    rcases h.1 with ⟨hempty, hmemory⟩ | ⟨next, hnext, hmemory⟩
    · obtain ⟨hnothing, rfl⟩ := emittedFor_snapshot_of_nothing hw.memory hempty hid
      refine iff_of_true ?_ ⟨rfl, rfl, fun hne => absurd hnothing hne⟩
      rw [hnothing, ProviderWorld.emittedFor, hmemory]
      rfl
    · exact emittedFor_snapshot_iff hw.memory hnext hmemory hid
  | removeForPlan intents endpoints =>
    refine (goes_removeForPlan hw).mono (fun _ w' h => ⟨?_, h.2⟩)
    simp only [ProviderMethod.leavesAlone, Bool.not_eq_true', ProviderMethod.Spares]
    rcases h.1 with ⟨hnothing, hmemory⟩ | ⟨hnamed, hall, hmemory⟩ | ⟨hsome, next, hnext, hmemory⟩
    · refine iff_of_true (fun id _ => ?_) ?_
      · rw [ProviderWorld.emittedFor, hmemory]
        rfl
      · rcases hnothing with hnothing | hnone
        · exact .inl hnothing
        · refine .inr (.inr (fun d hd => ?_))
          rw [hnone] at hd
          exact absurd hd List.not_mem_nil
    · rw [emittedFor_removed_iff hw.memory hmemory hall, or_iff_right hnamed, or_iff_right]
      rintro ⟨p, hp, hnot⟩
      cases (hall p hp).symm.trans hnot
    · exact iff_of_true (fun id hid => emittedFor_rebuilt hw.memory hnext hmemory hid)
        (.inr (.inl hsome))

theorem wellFormed_step (e : ProviderEvent) (hw : w.WellFormed) : (w.step lib e).WellFormed := by
  have hgoes (method : ProviderMethod) :
      Goes False (fun _ _ => True) (method.program lib) w :=
    (goes_program method hw).mono (fun _ _ _ => trivial)
  cases e with
  | call method answers =>
    exact Program.Survives.leaves (fun _ => rfl) answers (fun _ _ _ h => by cases h) hw
      (hgoes method)
  | crash method answers steps =>
    have hreached := Program.Survives.interrupted (fun _ => rfl) answers
      (fun _ _ _ h => by cases h) steps hw (hgoes method)
    exact ⟨hreached.file, hreached.file⟩
  | host table => exact ⟨hw.memory, hw.file⟩

theorem wellFormed_opened (table : Option PolicyTable) :
    (ProviderWorld.opened table).WellFormed where
  memory := fun _ h => by cases h
  file := fun _ h => by cases h

/-- What a call that succeeds does for the endpoints that it is not about. -/
theorem keepsOthers_iff {e : ProviderEvent} (hw : w.WellFormed) (hsucceeds : e.Succeeds lib w) :
    (e.KeepsOthers lib w ↔ e.Spares w) ∧ (e.IsExecuted → w.Realized → (w.step lib e).Realized) := by
  cases e with
  | call method answers =>
    have hgoes :
        Goes (∀ n, answers n = .executed) _ (method.program lib) w :=
      goes_program method hw
    exact Program.Survives.answered (fun _ => rfl) answers (fun n _ _ hE => hE n) hw hgoes ()
      hsucceeds
  | crash method answers steps => exact hsucceeds.elim
  | host table => exact hsucceeds.elim

end Runs

/-- **Policy calls touch only their targets** exactly when a snapshot brings
nothing for the others, and a removal that names the endpoints of all recorded
policies leaves no other default that denies. In every run, with any answers of
the host, crashes and changes of its table, this holds of every call that
succeeds; and a table that holds what is recorded does so after it. -/
theorem untouched_endpoints_iff
    (lib : ProviderLibrary) (table : Option PolicyTable) (events : List ProviderEvent) :
    EachStep (ProviderWorld.step lib)
      (fun w e =>
        e.Succeeds lib w →
          (e.KeepsOthers lib w ↔ e.Spares w) ∧
            (e.IsExecuted → w.Realized → (w.step lib e).Realized))
      (ProviderWorld.opened table) events := by
  refine eachStep_of_invariant (I := ProviderWorld.WellFormed) ?_ ?_ _ events
    (wellFormed_opened table)
  · exact fun w e hw => wellFormed_step e hw
  · exact fun w e hw hsucceeds => keepsOthers_iff hw hsucceeds

/-- **What is recorded fits together** in memory and in the file, in every run:
whoever has a policy or a default has an address, and nobody has two. -/
theorem records_stay_well_formed
    (lib : ProviderLibrary) (table : Option PolicyTable) (events : List ProviderEvent) :
    Always (ProviderWorld.step lib) ProviderWorld.WellFormed (ProviderWorld.opened table) events :=
  always_of_invariant (fun _ e hw => wellFormed_step e hw) _ events (wellFormed_opened table)

section Lost

def firstEndpoint : PolicyEndpoint := ⟨"00000000-0000-0000-0000-000000000001", 0x0a000002⟩

def secondEndpoint : PolicyEndpoint := ⟨"00000000-0000-0000-0000-000000000002", 0x0a000003⟩

/-- A rule of the first endpoint. -/
def firstPolicy : NetworkPlanIntent :=
  .policy
    ⟨"00000000-0000-0000-0000-00000000000a", firstEndpoint.endpointId, .ingress, .tcp,
      some ⟨22, 22⟩, none, none, .deny⟩

def secondDefault : NetworkPlanIntent :=
  .policyDefault
    ⟨"00000000-0000-0000-0000-00000000000b", secondEndpoint.endpointId, .deny, .stateful, 1⟩

def plainDigest : ProviderLibrary where
  fingerprint policies defaults := toString (policies.length + 10 * defaults.length)

def bothApplied : List ProviderEvent :=
  [.call (.applyEndpointSnapshot firstEndpoint.endpointId [firstPolicy] [firstEndpoint])
      (fun _ => .executed),
    .call (.applyEndpointSnapshot secondEndpoint.endpointId [secondDefault] [secondEndpoint])
      (fun _ => .executed)]

def removeFirst : ProviderEvent :=
  .call (.removeForPlan [firstPolicy] [firstEndpoint]) (fun _ => .executed)

/-- The removal for one endpoint deletes the table, and with it the drops of
another one. -/
theorem removal_opens_denied_endpoint :
    let w := run (ProviderWorld.step plainDigest) (ProviderWorld.opened none) bothApplied
    removeFirst.Succeeds plainDigest w ∧
      w.emittedFor secondEndpoint.endpointId
        = [([.daddr secondEndpoint.address], .drop), ([.saddr secondEndpoint.address], .drop)] ∧
      (w.step plainDigest removeFirst).emittedFor secondEndpoint.endpointId = [] ∧
      (w.step plainDigest removeFirst).table = none ∧
      ¬ removeFirst.KeepsOthers plainDigest w := by
  intro w
  have hbefore :
      w.emittedFor secondEndpoint.endpointId
        = [([.daddr secondEndpoint.address], .drop), ([.saddr secondEndpoint.address], .drop)] := by
    decide +kernel
  have hafter : (w.step plainDigest removeFirst).emittedFor secondEndpoint.endpointId = [] := by
    decide +kernel
  refine ⟨?_, hbefore, hafter, by decide +kernel, fun hkeeps => ?_⟩
  · show (w.perform plainDigest _ _).1 = .ok ()
    decide +kernel
  · have hsame := hkeeps secondEndpoint.endpointId (by decide)
    rw [hbefore, hafter] at hsame
    cases hsame

end Lost

end Stateful
end O3k
