import O3k.Placement.Candidates
import O3k.Placement.IntentProtection
import O3k.Scheduler.Intents

/-!
# A claim on one candidate

Both schedulers store an intent on a candidate and commit it.  Alone at the
store, where nothing changes in between, this ends in one of three ways.
-/

namespace O3k
namespace Scheduler

open Relational Relational.Transaction Semantics Placement Placement.Sqlite
open Program (alone alone_bind alone_perform_bind)

variable {R : Type}

/-- No intent is stored for the server but a part of this one. -/
def IntentOpen (t : Tables R) (serverId : String) (resources : ResourceMap)
    (providerId : String) : Prop :=
  ∀ row ∈ pendingFor serverId t,
    row.providerId = providerId ∧ row.consumerId = serverId ∧
      ∀ resource ∈ row.resources.rows, resource ∈ resources.rows

/-- No allocation is stored for the server but this one. -/
def AllocationOpen (t : Tables R) (serverId : String) (resources : ResourceMap)
    (providerId : String) : Prop :=
  ∀ row ∈ allocatedFor serverId t,
    row.providerId = providerId ∧ row.consumerId = serverId ∧ row.resources = resources

/-- Columns can hold the amounts. -/
def Storable (resources : ResourceMap) : Prop := ∀ row ∈ resources.rows, row.amount ≤ Sqlite.i64Max

/-- The server can be placed on the provider, or is there already. -/
structure Claimable (t : Tables R) (serverId : String) (resources : ResourceMap)
    (provider : ResourceProvider R) : Prop where
  named : provider.id ≠ ""
  storable : Storable resources
  intent : IntentOpen t serverId resources provider.id
  allocation : AllocationOpen t serverId resources provider.id
  generation : allocatedFor serverId t = none → provider.generation ≤ Sqlite.i64Max

/-- Something else is stored for the server. -/
def Contested (t : Tables R) (serverId : String) (resources : ResourceMap)
    (provider : ResourceProvider R) : Prop :=
  provider.id = "" ∨
    (Storable resources ∧
      ¬ (IntentOpen t serverId resources provider.id ∧
        AllocationOpen t serverId resources provider.id))

theorem Contested.not_claimable {t : Tables R} {serverId : String} {resources : ResourceMap}
    {provider : ResourceProvider R} (h : Contested t serverId resources provider) :
    ¬ Claimable t serverId resources provider := by
  intro hclaimable
  rcases h with hnamed | ⟨_, hother⟩
  · exact hclaimable.named hnamed
  · exact hother ⟨hclaimable.intent, hclaimable.allocation⟩

section Claim

variable (capacity : Nat → R → Nat) (serverId : String) (resources : ResourceMap)

/-- An enabled provider with room for the resources. -/
def hasRoom (provider : ResourceProvider R) : Bool :=
  decide (provider.state = .enabled) &&
    resources.rows.all (fun row => offers capacity provider row.resourceClass row.amount)

def intentOn (providerId : String) : AllocationIntent :=
  ⟨providerId, allocationId serverId, serverId, resources⟩

/-- An intent and a commit, run alone, and what they end with. -/
inductive ClaimRuns (t : Tables R) (candidate : PlacementCandidate) :
    Except PlacementError Allocation → Prop
  | refused (e : PlacementError)
      (hbegin :
        alone exec
            (PlacementLedger.beginAllocationIntent candidate.providerId (allocationId serverId)
              serverId resources) t
          = (.error e, t)) :
      ClaimRuns t candidate (.error e)
  | begun (outcome : Except PlacementError Allocation) (t' : Tables R)
      (hbegin :
        alone exec
            (PlacementLedger.beginAllocationIntent candidate.providerId (allocationId serverId)
              serverId resources) t
          = (.ok (intentOn serverId resources candidate.providerId),
            t.putIntent (intentOn serverId resources candidate.providerId).row))
      (hcommit :
        alone exec
            (PlacementLedger.commitAllocationIntent capacity
              (intentOn serverId resources candidate.providerId) candidate.generation)
            (t.putIntent (intentOn serverId resources candidate.providerId).row)
          = (outcome, t'))
      (hkept :
        ∀ e, outcome = .error e →
          t' = t.putIntent (intentOn serverId resources candidate.providerId).row) :
      ClaimRuns t candidate outcome

variable {capacity serverId resources} {t : Tables R}

theorem insertOrIgnoreResources_of_not_fits {records : List PlacementResourceRecord}
    (h : ∃ record ∈ records, ¬ record.amount ≤ Sqlite.i64Max) (rows : Resources Nat) :
    insertOrIgnoreResources records rows
      = .error (.corrupt "placement value exceeds SQLite range") := by
  induction records generalizing rows with
  | nil =>
    obtain ⟨_, hmem, _⟩ := h
    cases hmem
  | cons record rest ih =>
    rw [insertOrIgnoreResources, placementI64]
    by_cases hfits : record.amount ≤ Sqlite.i64Max
    · rw [if_pos hfits]
      obtain ⟨other, hmem, hother⟩ := h
      rcases List.mem_cons.mp hmem with rfl | hmem
      · exact absurd hfits hother
      · exact ih ⟨other, hmem, hother⟩ _
    · rw [if_neg hfits]
      rfl

variable {intent : AllocationIntent} {row : ProviderRow Nat R}

theorem exec_upsertIntent (hvalid : invalidAllocation (intentToRecord intent) = false)
    (hrow : t.providers.get? intent.providerId = some row)
    (hid : intent.allocationId = allocationId serverId) (hconsumer : intent.consumerId = serverId) :
    (Storable intent.resources ∧ IntentOpen t serverId intent.resources intent.providerId ∧
        exec (.upsertIntent (intentToRecord intent)) t
          = (.ok (intentToRecord intent), t.putIntent intent.row)) ∨
      (Storable intent.resources ∧ ¬ IntentOpen t serverId intent.resources intent.providerId ∧
        exec (.upsertIntent (intentToRecord intent)) t = (.error .placementIntentConflict, t)) ∨
      (¬ Storable intent.resources ∧
        exec (.upsertIntent (intentToRecord intent)) t
          = (.error (.corrupt "placement value exceeds SQLite range"), t)) := by
  have hpending : t.intents.get? intent.allocationId = pendingFor serverId t := by
    rw [hid, pendingFor]
  by_cases hstorable : Storable intent.resources
  · have hvalid' : ValidIntent (intentToRecord intent) := by
      refine ⟨hvalid, fun resource hresource => ?_⟩
      obtain ⟨r, hr, rfl⟩ := List.mem_map.mp hresource
      exact hstorable r hr
    cases hget : t.intents.get? intent.allocationId with
    | none =>
      refine Or.inl ⟨hstorable, fun row hrow => ?_, ?_⟩
      · cases hget.symm.trans (hpending.trans hrow)
      · exact upsertIntent_accepted hvalid hget hrow hstorable
    | some before =>
      have hextends :
          Extends (before.record id) (intentToRecord intent)
            ↔
          IntentOpen t serverId intent.resources intent.providerId := by
        have hrecord : ∀ rows : Resources Nat, ∀ r : ResourceRow Nat,
            r.record id ∈ rows.rows.map (ResourceRow.record id) ↔ r ∈ rows.rows := by
          intro rows r
          refine List.mem_map_of_injective (fun a b h => ?_)
          cases a
          cases b
          simpa [ResourceRow.record] using h
        rw [IntentOpen, ← hpending, hget]
        simp only [Option.mem_def, Option.some.injEq, forall_eq']
        constructor
        · rintro ⟨hprovider, hsame, _, hsubset⟩
          refine ⟨hprovider, hsame.trans hconsumer, fun r hr => ?_⟩
          exact (hrecord intent.resources r).mp (hsubset _ ((hrecord before.resources r).mpr hr))
        · rintro ⟨hprovider, hsame, hsubset⟩
          refine ⟨hprovider, hsame.trans hconsumer.symm,
            inOrder_record id intent.row, fun resource hresource => ?_⟩
          obtain ⟨r, hr, rfl⟩ := List.mem_map.mp hresource
          exact (hrecord intent.resources r).mpr (hsubset r hr)
      rcases upsertIntent_of_stored hvalid' hget with ⟨hopen, hok⟩ | ⟨hopen, hconflict⟩
      · have hexec : exec (.upsertIntent (intentToRecord intent)) t
            = (.ok (intentToRecord intent), (upsertIntent (intentToRecord intent) t).2) :=
          Prod.ext hok rfl
        rw [(upsertIntent_ok hexec).1] at hexec
        exact Or.inl ⟨hstorable, hextends.mp hopen, hexec⟩
      · exact Or.inr (Or.inl ⟨hstorable, hextends.not.mp hopen, hconflict⟩)
  · refine Or.inr (Or.inr ⟨hstorable, ?_⟩)
    have hunfit : ∃ record ∈ resourceRecords intent.resources, ¬ record.amount ≤ Sqlite.i64Max := by
      unfold Storable at hstorable
      push Not at hstorable
      obtain ⟨r, hr, hlarge⟩ := hstorable
      exact ⟨_, List.mem_map_of_mem hr, not_le.mpr hlarge⟩
    show upsertIntent (intentToRecord intent) t = _
    rw [upsertIntent, if_neg (by simp [hvalid])]
    refine atomically_of_error ?_
    have hbase : ∃ base, insertOrIgnoreIntent (intentToRecord intent) t = .ok (base, t) := by
      simp only [insertOrIgnoreIntent, get_bind_apply, intentToRecord, hrow]
      cases t.intents.get? intent.allocationId <;> exact ⟨_, rfl⟩
    obtain ⟨base, hbase⟩ := hbase
    rw [upsertIntentBody, bind_of_ok hbase]
    show ((fromExcept (insertOrIgnoreResources (resourceRecords intent.resources) _) >>= _ :
      Body R _) t) = _
    rw [insertOrIgnoreResources_of_not_fits hunfit, fromExcept_error_bind]

theorem alone_allocate_of_read
    (hbegun : Begun serverId intent) (hrow : t.providers.get? intent.providerId = some row)
    (generation : Nat) :
    alone exec
        (PlacementLedger.allocate capacity intent.providerId intent.allocationId
          intent.consumerId intent.resources generation) t
      =
    match PlacementLedger.allocateDecision capacity (t.providerRecord id row)
        intent.allocationId intent.consumerId intent.resources generation with
    | .error e => (.error e, t)
    | .ok (some allocation) => (.ok allocation, t)
    | .ok none =>
      match exec (.commitAllocation intent.providerId generation (intent.row.record id)) t with
      | (.error e, t') => (.error (mapStoreError e), t')
      | (.ok committed, t') => (.ok (allocationFromRecord committed), t') := by
  have hget : exec (.getProvider intent.providerId) t
      = (.ok (some (t.providerRecord id row)), t) := by
    rw [exec_getProvider, PlacementTables.getProvider, hrow]
    rfl
  rw [PlacementLedger.allocate, if_neg (by simp [hbegun.valid.2]), alone_perform_bind, hget]
  simp only
  rcases PlacementLedger.allocateDecision capacity (t.providerRecord id row) intent.allocationId
    intent.consumerId intent.resources generation with e | _ | allocation
  · rfl
  · have hcall :
        exec (.commitAllocation intent.providerId generation (intent.row.record id)) t
          =
        exec (.commitAllocation intent.providerId generation
          ⟨intent.allocationId, intent.providerId, intent.consumerId,
            resourceRecords intent.resources⟩) t := rfl
    rw [hcall]
    simp only [alone_perform_bind]
    rcases exec (.commitAllocation intent.providerId generation
      ⟨intent.allocationId, intent.providerId, intent.consumerId,
        resourceRecords intent.resources⟩) t with ⟨_ | _, t'⟩ <;> rfl
  · rfl

theorem exec_commitAllocation_cases
    (hbegun : Begun serverId intent) (hrow : t.providers.get? intent.providerId = some row)
    (hother : ∀ stored ∈ allocatedFor serverId t, stored.providerId ≠ intent.providerId) :
    let commit := exec (.commitAllocation intent.providerId row.generation (intent.row.record id)) t
    (allocatedFor serverId t = none ∧ row.generation ≤ Sqlite.i64Max ∧
        ∃ t', commit = (.ok (intent.row.record id), t')) ∨
      ((allocatedFor serverId t).isSome ∧ commit = (.error .placementAllocationConflict, t)) ∨
      (allocatedFor serverId t = none ∧ ¬ row.generation ≤ Sqlite.i64Max ∧
        commit = (.error (.corrupt "placement value exceeds SQLite range"), t)) := by
  intro commit
  have hallocated : t.allocations.get? (intent.row.record (id : Nat → Nat)).id
      = allocatedFor serverId t := by
    show t.allocations.get? intent.allocationId = _
    rw [hbegun.named, allocatedFor]
  have hbody : ∀ e,
      commitAllocationBody intent.providerId row.generation (intent.row.record id) t = .error e →
        commit = (.error e, t) := by
    intro e he
    show commitAllocation intent.providerId row.generation (intent.row.record id) t = _
    rw [commitAllocation, if_neg (by simp [hbegun.invalidAllocation_eq_false])]
    exact atomically_of_error he
  cases hget : allocatedFor serverId t with
  | some stored =>
    refine Or.inr (Or.inl ⟨rfl, hbody _ ?_⟩)
    simp only [commitAllocationBody, get_bind_apply, hallocated, hget]
    refine require_bind_of_neg _ _ (fun h => hother stored hget ?_)
    exact congrArg PlacementAllocationRecord.providerId h
  | none =>
    by_cases hfits : row.generation ≤ Sqlite.i64Max
    · exact Or.inl ⟨rfl, hfits,
        commitAllocation_accepted hbegun.invalidAllocation_eq_false (hallocated.trans hget) hrow
          hfits hbegun.fits⟩
    · refine Or.inr (Or.inr ⟨rfl, hfits, hbody _ ?_⟩)
      simp only [commitAllocationBody, get_bind_apply, hallocated, hget, hrow, orFail_some_bind]
      refine bind_of_error ?_
      simp only [fenceGeneration, placementI64, if_neg hfits, fromExcept_error_bind]

theorem alone_allocate_cases
    (hbegun : Begun serverId intent) (hconsumer : intent.consumerId = serverId)
    (hrow : t.providers.get? intent.providerId = some row) {provider : ResourceProvider R}
    (hread : providerFromRecord (t.providerRecord id row) = .ok provider)
    (hroom : hasRoom capacity intent.resources provider = true) :
    let allocate :=
      alone exec
        (PlacementLedger.allocate capacity intent.providerId intent.allocationId
          intent.consumerId intent.resources provider.generation) t
    (AllocationOpen t serverId intent.resources intent.providerId ∧
        (allocatedFor serverId t = none → provider.generation ≤ Sqlite.i64Max) ∧
        ∃ t', allocate = (.ok intent.row.allocation, t')) ∨
      (¬ AllocationOpen t serverId intent.resources intent.providerId ∧
        allocate = (.error .invalidAllocation, t)) ∨
      ((allocatedFor serverId t = none ∧ ¬ provider.generation ≤ Sqlite.i64Max) ∧
        AllocationOpen t serverId intent.resources intent.providerId ∧
        ∃ e, allocate = (.error (.store e), t)) := by
  intro allocate
  obtain ⟨_, hstate, hgeneration, hinventories, _⟩ := providerFromRecord_ok hread
  have hid : row.id = intent.providerId := t.providers.key_of_get? hrow
  have hallocate : allocate = _ := alone_allocate_of_read hbegun hrow provider.generation
  have howned : ∀ stored ∈ allocatedFor serverId t, stored.providerId = intent.providerId →
      stored.record id ∈ (t.providerRecord id row).allocations := by
    intro stored hstored howner
    refine List.mem_map_of_mem (List.mem_filter.mpr ⟨t.allocations.mem_of_get? hstored, ?_⟩)
    exact decide_eq_true (howner.trans hid.symm)
  by_cases hother : ∀ stored ∈ allocatedFor serverId t, stored.providerId ≠ intent.providerId
  · have hdecided :
        PlacementLedger.allocateDecision capacity (t.providerRecord id row) intent.allocationId
          intent.consumerId intent.resources provider.generation = .ok none := by
      simp only [hasRoom, Bool.and_eq_true, decide_eq_true_eq, List.all_eq_true] at hroom
      refine (PlacementLedger.allocateDecision_eq_ok_none_iff capacity).mpr
        ⟨?_, hgeneration.symm, providerStateFromStr_eq_some_iff.mp (hroom.1 ▸ hstate), ?_⟩
      · intro allocation hmem hsame
        obtain ⟨stored, hstored, rfl⟩ := List.mem_map.mp hmem
        obtain ⟨hmem, howner⟩ := List.mem_filter.mp hstored
        refine hother stored ?_ ((of_decide_eq_true howner).trans hid)
        rw [allocatedFor, ← hbegun.named, ← hsame]
        exact t.allocations.get?_key_of_mem hmem
      · intro resource hresource
        obtain ⟨inventory, hget, hfits⟩ := (Option.any_eq_true _ _).mp (hroom.2 resource hresource)
        refine ⟨inventory, ?_, of_decide_eq_true hfits⟩
        rw [PlacementTables.providerRecord, inventoryMap_record, ← hinventories]
        exact hget
    rw [hdecided] at hallocate
    rw [hgeneration] at hallocate ⊢
    rcases exec_commitAllocation_cases hbegun hrow hother with
      ⟨hnone, hfits, t', hcommit⟩ | ⟨hsome, hcommit⟩ | ⟨hnone, hlarge, hcommit⟩
    · rw [hcommit] at hallocate
      refine Or.inl ⟨fun stored h => (by cases hnone.symm.trans h), fun _ => hfits, t',
        hallocate.trans ?_⟩
      simp only [allocationFromRecord_record]
    · rw [hcommit] at hallocate
      obtain ⟨stored, hstored⟩ := Option.isSome_iff_exists.mp hsome
      exact Or.inr (Or.inl ⟨fun h => hother stored hstored (h stored hstored).1, hallocate⟩)
    · rw [hcommit] at hallocate
      exact Or.inr (Or.inr ⟨⟨hnone, hlarge⟩, fun stored h => (by cases hnone.symm.trans h), _,
        hallocate⟩)
  · push Not at hother
    obtain ⟨stored, hstored, howner⟩ := hother
    have hfind :
        (t.providerRecord id row).allocations.find? (fun a => a.id = intent.allocationId)
          = some (stored.record id) := by
      have hmem := howned stored hstored howner
      have hkey : stored.id = intent.allocationId :=
        (t.allocations.key_of_get? hstored).trans hbegun.named.symm
      cases hfind : (t.providerRecord id row).allocations.find?
          (fun a => a.id = intent.allocationId) with
      | none => exact absurd (decide_eq_true hkey) (List.find?_eq_none.mp hfind _ hmem)
      | some found =>
        obtain ⟨other, hother, rfl⟩ := List.mem_map.mp (List.mem_of_find?_eq_some hfind)
        have hfound := List.find?_some hfind
        rw [t.allocations.eq_of_mem_of_key_eq (List.mem_of_mem_filter hother)
          (t.allocations.mem_of_get? hstored) ((of_decide_eq_true hfound).trans hkey.symm)]
    have hopen : AllocationOpen t serverId intent.resources intent.providerId
        ↔
        stored.consumerId = serverId ∧ stored.resources = intent.resources := by
      constructor
      · exact fun h => (h stored hstored).2
      · intro h other hmem
        obtain rfl := Option.some.inj (hstored.symm.trans hmem)
        exact ⟨howner, h⟩
    rw [PlacementLedger.allocateDecision, hfind] at hallocate
    simp only [allocationFromRecord_record, AllocationRow.allocation, hconsumer] at hallocate
    by_cases hequal : stored.consumerId = serverId ∧ stored.resources = intent.resources
    · rw [if_pos hequal] at hallocate
      refine Or.inl ⟨hopen.mpr hequal, fun hnone => (by cases hnone.symm.trans hstored), t, ?_⟩
      rw [hallocate]
      simp only [AllocationRow.allocation, AllocationIntent.row, howner, hequal.1, hequal.2,
        hconsumer]
    · rw [if_neg hequal] at hallocate
      exact Or.inr (Or.inl ⟨hopen.not.mpr hequal, hallocate⟩)

theorem alone_pendingIntent (hpending : t.intents.get? intent.allocationId = some intent.row) :
    alone exec (PlacementLedger.pendingIntent intent) t = (.ok intent, t) := by
  have hread : t.getIntent id intent.allocationId = some (intent.row.record id) := by
    rw [PlacementTables.getIntent, hpending]
    rfl
  have halone :
      alone exec (PlacementLedger.allocationIntent intent.allocationId) t
        = (.ok (some intent), t) := by
    show (Except.ok (Option.map intentFromRecord (t.getIntent id intent.allocationId)), t) = _
    rw [hread, Option.map_some, intentFromRecord_record]
  rw [PlacementLedger.pendingIntent, alone_bind, halone]
  rfl

theorem alone_commitAllocationIntent
    (hpending : t.intents.get? intent.allocationId = some intent.row)
    {generation : Nat} {outcome : Except PlacementError Allocation} {t' : Tables R}
    (hallocate :
      alone exec
          (PlacementLedger.allocate capacity intent.providerId intent.allocationId
            intent.consumerId intent.resources generation) t
        = (outcome, t')) :
    ∃ t'',
      alone exec (PlacementLedger.commitAllocationIntent capacity intent generation) t
          = (outcome, t'') ∧
        ∀ e, outcome = .error e → t'' = t' := by
  rw [PlacementLedger.commitAllocationIntent, alone_bind, alone_pendingIntent hpending]
  simp only [ne_eq, not_true_eq_false, if_false]
  rw [alone_bind, hallocate]
  cases outcome with
  | error e => exact ⟨t', rfl, fun _ _ => rfl⟩
  | ok allocation => exact ⟨t'.deleteIntent intent.allocationId, rfl, fun _ h => by cases h⟩

/-- **A claim that runs alone** succeeds, meets what is stored for the server, or
meets a number that is too large. -/
theorem exists_claimRuns
    (hvalid : invalidRequest (allocationId serverId) serverId resources = false)
    {provider : ResourceProvider R} (hrow : t.providers.get? provider.id = some row)
    (hread : providerFromRecord (t.providerRecord id row) = .ok provider)
    (hroom : hasRoom capacity resources provider = true) :
    ∃ outcome, ClaimRuns capacity serverId resources t (candidateOf provider) outcome ∧
      ((Claimable t serverId resources provider ∧
          outcome = .ok ⟨provider.id, serverId, resources⟩) ∨
        (Contested t serverId resources provider ∧ outcome = .error .invalidAllocation) ∨
        (¬ Claimable t serverId resources provider ∧
          ¬ Contested t serverId resources provider ∧ ∃ e, outcome = .error (.store e))) := by
  let intent := intentOn serverId resources provider.id
  by_cases hnamed : provider.id = ""
  · refine ⟨.error .invalidAllocation, .refused _ ?_, Or.inr (Or.inl ⟨Or.inl hnamed, rfl⟩)⟩
    rw [PlacementLedger.beginAllocationIntent, if_pos (by simp [candidateOf, hnamed])]
    rfl
  have hbegin : ∀ reply t', exec (.upsertIntent (intentToRecord intent)) t = (reply, t') →
      alone exec
          (PlacementLedger.beginAllocationIntent provider.id (allocationId serverId) serverId
            resources) t
        = ((reply.mapError mapStoreError).map (fun _ => intent), t') := by
    intro reply t' hreply
    rw [PlacementLedger.beginAllocationIntent,
      if_neg (by simp [hvalid, String.isEmpty_iff, hnamed]), alone_perform_bind]
    rw [show (⟨provider.id, allocationId serverId, serverId, resources⟩ : AllocationIntent)
      = intent from rfl, hreply]
    cases reply <;> rfl
  have hinvalid : invalidAllocation (intentToRecord intent) = false := by
    have hparts := hvalid
    simp only [invalidRequest, Bool.or_eq_false_iff] at hparts
    obtain ⟨⟨⟨hid, hconsumer⟩, hresources⟩, hamounts⟩ := hparts
    simp only [invalidAllocation, intentToRecord, Bool.or_eq_false_iff]
    refine ⟨⟨⟨⟨hid, ?_⟩, hconsumer⟩, ?_⟩, ?_⟩
    · simpa [intent, intentOn, String.isEmpty_iff] using hnamed
    · simpa [intent, intentOn, resourceRecords] using hresources
    · rw [resourceRecords, List.any_map]
      exact hamounts
  rcases exec_upsertIntent hinvalid hrow rfl rfl with
    ⟨hstorable, hopen, hexec⟩ | ⟨hstorable, hopen, hexec⟩ | ⟨hstorable, hexec⟩
  · have hbegun : Begun serverId intent := ⟨rfl, ⟨hnamed, hvalid⟩, hstorable⟩
    have hallocate := alone_allocate_cases (t := t.putIntent intent.row) hbegun rfl hrow hread hroom
    have hruns : ∀ outcome t', alone exec
          (PlacementLedger.allocate capacity intent.providerId intent.allocationId
            intent.consumerId intent.resources provider.generation) (t.putIntent intent.row)
            = (outcome, t') →
        (∀ e, outcome = .error e → t' = t.putIntent intent.row) →
          ClaimRuns capacity serverId resources t (candidateOf provider) outcome := by
      intro outcome t' hrun hkept
      obtain ⟨t'', hcommit, hsame⟩ :=
        alone_commitAllocationIntent (Table.get?_put_self _ _) hrun
      exact .begun outcome t'' (hbegin _ _ hexec) hcommit
        (fun e he => (hsame e he).trans (hkept e he))
    rcases hallocate with ⟨hfree, hfits, t', hrun⟩ | ⟨hfree, hrun⟩ | ⟨hlarge, hfree, e, hrun⟩
    · exact ⟨_, hruns _ _ hrun (fun _ h => by cases h),
        Or.inl ⟨⟨hnamed, hstorable, hopen, hfree, hfits⟩, rfl⟩⟩
    · exact ⟨_, hruns _ _ hrun (fun _ _ => rfl),
        Or.inr (Or.inl ⟨Or.inr ⟨hstorable, fun h => hfree h.2⟩, rfl⟩)⟩
    · refine ⟨_, hruns _ _ hrun (fun _ _ => rfl), Or.inr (Or.inr ⟨?_, ?_, e, rfl⟩)⟩
      · exact fun h => hlarge.2 (h.generation hlarge.1)
      · rintro (h | ⟨_, h⟩)
        · exact hnamed h
        · exact h ⟨hopen, hfree⟩
  · exact ⟨_, .refused _ (hbegin _ _ hexec),
      Or.inr (Or.inl ⟨Or.inr ⟨hstorable, fun h => hopen h.1⟩, rfl⟩)⟩
  · refine ⟨_, .refused _ (hbegin _ _ hexec), Or.inr (Or.inr ⟨?_, ?_, _, rfl⟩)⟩
    · exact fun h => hstorable h.storable
    · rintro (h | ⟨h, _⟩)
      · exact hnamed h
      · exact hstorable h

end Claim

end Scheduler
end O3k
