import O3k.Scheduler.Claims

/-!
# Scheduling again

Alone at a store that holds neither an intent nor an allocation of the server,
a scheduling call takes the first candidate: nothing it has read can have
changed when it commits.
-/

namespace O3k
namespace Scheduler

open Relational Relational.Transaction Semantics Placement Placement.Sqlite

variable {R : Type}

theorem mem_flavorResources {flavor : Flavor} {row : ResourceRow Nat} :
    row ∈ (flavorResources flavor).rows ↔
    row = ⟨"VCPU", flavor.vcpus⟩ ∨ row = ⟨"MEMORY_MB", flavor.memoryMb⟩ ∨
      row = ⟨"DISK_GB", flavor.diskGb⟩ := by
  have hnodup :
      (([⟨"VCPU", flavor.vcpus⟩, ⟨"MEMORY_MB", flavor.memoryMb⟩,
        ⟨"DISK_GB", flavor.diskGb⟩] : List (ResourceRow Nat)).map
          ResourceRow.resourceClass).Nodup := by
    simp
  rw [flavorResources, Table.mem_ofList hnodup]
  simp

theorem invalidRequest_eq_false {serverId : String} {resources : ResourceMap}
    (hserver : serverId ≠ "") (hnonempty : resources.rows ≠ [])
    (hamounts : ∀ row ∈ resources.rows, row.amount ≠ 0) :
    invalidRequest (allocationId serverId) serverId resources = false := by
  have hid : allocationId serverId ≠ "" := by
    simp [allocationId]
  simp only [invalidRequest, Bool.or_eq_false_iff]
  refine ⟨⟨⟨?_, ?_⟩, ?_⟩, ?_⟩
  · simpa [String.isEmpty_iff] using hid
  · simpa [String.isEmpty_iff] using hserver
  · simpa using hnonempty
  · simpa using hamounts

section Capacity

variable (capacity : Nat → R → Nat)

/-- A server and a flavor that can be scheduled at all, and a provider that can
take it. -/
structure Schedulable (serverId : String) (flavor : Flavor) (selected : Option StringSet)
    (t : Tables R) : Prop where
  server : serverId ≠ ""
  amounts :
    ∀ row ∈ (flavorResources flavor).rows, row.amount ≠ 0 ∧ row.amount ≤ Sqlite.i64Max
  generations : ∀ row ∈ t.providers.rows, row.generation ≤ Sqlite.i64Max
  eligible :
    ∃ row ∈ t.providers.rows, ∃ provider,
      providerFromRecord (t.providerRecord id row) = .ok provider ∧
        isCandidate capacity flavor selected provider = true

variable {capacity} {serverId : String} {t : Tables R}

theorem hasRoom_of_isCandidate {flavor : Flavor} {selected : Option StringSet}
    {provider : ResourceProvider R} (h : isCandidate capacity flavor selected provider = true) :
    hasRoom capacity (flavorResources flavor) provider = true := by
  simp only [isCandidate, Bool.and_eq_true, decide_eq_true_eq] at h
  simp [hasRoom, mem_flavorResources, h]

theorem tryCandidates_of_claimed {resources : ResourceMap} {selected : Option StringSet}
    {candidate : ResourceProvider R} {rest : List (ResourceProvider R)} {allocation : Allocation}
    (h : ClaimRuns capacity serverId resources t (candidateOf candidate) (.ok allocation)) :
    ∃ t',
      Program.alone exec (tryCandidates capacity serverId resources selected (candidate :: rest)) t
        = (.ok ⟨candidate.id, allocationId serverId, allocation⟩, t') := by
  cases h with
  | begun _ t' hbegin hcommit hkept =>
    simp only [candidateOf] at hbegin hcommit
    refine ⟨t', ?_⟩
    rw [tryCandidates, Program.alone_bind, hbegin]
    simp only
    rw [Program.alone_bind, hcommit]
    rfl

/-- **Scheduling alone** succeeds on the first candidate. -/
theorem alone_scheduleInternal_ok (hsound : Sound t) (hpending : pendingFor serverId t = none)
    (hallocated : allocatedFor serverId t = none) {flavor : Flavor} {selected : Option StringSet}
    (h : Schedulable capacity serverId flavor selected t) :
    ∃ decision t',
      Program.alone exec (scheduleInternal capacity serverId flavor selected) t
        = (.ok decision, t') := by
  have hserver : serverId.isEmpty = false := by
    simpa [String.isEmpty_iff] using h.server
  have hvcpus : flavor.vcpus ≠ 0 := (h.amounts _ (mem_flavorResources.mpr (Or.inl rfl))).1
  have hmemory : flavor.memoryMb ≠ 0 :=
    (h.amounts _ (mem_flavorResources.mpr (Or.inr (Or.inl rfl)))).1
  have hvalid :
      invalidRequest (allocationId serverId) serverId (flavorResources flavor) = false :=
    invalidRequest_eq_false h.server
      (List.ne_nil_of_mem (mem_flavorResources.mpr (Or.inl rfl)))
      (fun row hrow => (h.amounts row hrow).1)
  -- every provider can be read back, so the snapshot is there
  obtain ⟨providers, hproviders⟩ :
      ∃ providers, (t.listProviders id).mapM providerFromRecord = .ok providers := by
    refine except_mapM_of_forall ?_
    intro record hrecord
    obtain ⟨row, hrow, rfl⟩ := List.mem_map.mp hrecord
    exact providerFromRecord_of_known (hsound.readable row hrow).2
  have hlist :
      Program.alone exec PlacementLedger.providers t = (.ok providers, t) := by
    show ((t.listProviders id).mapM providerFromRecord, t) = _
    rw [hproviders]
  cases hcandidates : candidates capacity flavor selected providers with
  | nil =>
    obtain ⟨row, hrow, provider, hread, hcandidate⟩ := h.eligible
    have hmem : provider ∈ providers :=
      (mem_of_except_mapM hproviders).mpr ⟨_, List.mem_map_of_mem hrow, hread⟩
    have hcandidate := (mem_candidates capacity).mpr ⟨hmem, hcandidate⟩
    rw [hcandidates] at hcandidate
    cases hcandidate
  | cons candidate rest =>
    have hfirst : candidate ∈ candidates capacity flavor selected providers := by
      rw [hcandidates]
      exact List.mem_cons_self
    obtain ⟨hmem, hcandidate⟩ := (mem_candidates capacity).mp hfirst
    obtain ⟨_, hrecord, hread⟩ := (mem_of_except_mapM hproviders).mp hmem
    obtain ⟨row, hrow, rfl⟩ := List.mem_map.mp hrecord
    obtain ⟨hid, _, hgeneration, _, _⟩ := providerFromRecord_ok hread
    have hprovider : t.providers.get? candidate.id = some row := by
      rw [hid]
      exact t.providers.get?_key_of_mem hrow
    have hclaimable : Claimable t serverId (flavorResources flavor) candidate := by
      refine ⟨?_, fun row hrow => (h.amounts row hrow).2, ?_, ?_, fun _ => ?_⟩
      · rw [hid]
        exact (hsound.readable row hrow).1
      · exact fun _ hmem => by cases hpending.symm.trans hmem
      · exact fun _ hmem => by cases hallocated.symm.trans hmem
      · rw [hgeneration]
        exact h.generations row hrow
    obtain ⟨outcome, hruns, ⟨_, rfl⟩ | ⟨hcontested, _⟩ | ⟨hother, _⟩⟩ :=
      exists_claimRuns hvalid hprovider hread (hasRoom_of_isCandidate hcandidate)
    · obtain ⟨t', hdecided⟩ :=
        tryCandidates_of_claimed hruns
      have hschedule :
          Program.alone exec (scheduleInternal capacity serverId flavor selected) t
            =
          Program.alone exec
            (tryCandidates capacity serverId (flavorResources flavor) selected
              (candidate :: rest)) t := by
        rw [scheduleInternal, if_neg (by simp [hserver, hvcpus, hmemory]),
          Program.alone_bind, hlist]
        simp only [hcandidates]
      exact ⟨_, t', hschedule.trans hdecided⟩
    · exact absurd hclaimable hcontested.not_claimable
    · exact absurd hclaimable hother

end Capacity

section Run

variable {ι : Type} [DecidableEq ι]
variable (capacity : Nat → R → Nat) (serverId : String)

/-- The scheduling calls of one server, each at one of its statements, and the
store they share. -/
abbrev StatementWorld (ι R : Type) :=
  Concurrent (Tables R) ι (Statement R) Statement.Reply (Except SchedulerError ScheduleDecision)

def ScheduleRequest.statements (request : ScheduleRequest) :
    StatementProgram R (Except SchedulerError ScheduleDecision) :=
  (request.program capacity serverId).expand Sqlite.statements

/-- The next statement of one of the calls, or any action of the environment. -/
def StatementWorld.step :
    StatementWorld ι R →
    Event ι ScheduleRequest (StoreAction R) →
    StatementWorld ι R :=
  Concurrent.step execStatement (ScheduleRequest.statements capacity serverId) act

/-- The environment calls through the ledger, and stores no intent of the server. -/
def OtherServers : Event ι ScheduleRequest (StoreAction R) → Prop
  | .other (.call (.upsertIntent intent)) => intent.id ≠ allocationId serverId
  | .other (.call c) => FromLedger c
  | _ => True

instance : DecidablePred (OtherServers (ι := ι) (R := R) serverId) := by
  rintro (_ | _ | (c | _))
  · exact isTrue trivial
  · exact isTrue trivial
  · apply @RepositoryCall.casesOn R
      (fun c => Decidable (OtherServers (ι := ι) serverId (.other (.call c)))) c <;> intros <;>
      unfold OtherServers <;> infer_instance
  · exact isTrue trivial

/-- When no call for the server is in progress, no intent of it is stored; and
once its allocation is released it can be scheduled again. -/
structure NoDanglingIntent (w : StatementWorld ι R) : Prop where
  settled :
    (∀ call, ¬ w.InProgress call) → pendingFor serverId w.store = none
  schedulable :
    (∀ call, ¬ w.InProgress call) → allocatedFor serverId w.store = none →
      ∀ flavor selected,
        Schedulable capacity serverId flavor selected w.store →
          ∃ decision t',
            Program.alone execStatement
                (ScheduleRequest.statements capacity serverId ⟨flavor, selected⟩) w.store
              = (.ok decision, t')

/-- The calls in flight are accounted for. -/
abbrev IntentsAccounted (w : StatementWorld ι R) : Prop :=
  w.Accounted execStatement Sound LedgerStatement (fun s t => Unobstructed serverId t s)
    (pendingFor serverId)

variable {capacity serverId}

omit [DecidableEq ι] in
theorem noDanglingIntent_of_accounted {w : StatementWorld ι R} (h : IntentsAccounted serverId w) :
    NoDanglingIntent capacity serverId w := by
  refine ⟨fun hidle => h.debt_eq_none hidle, ?_⟩
  intro hidle hallocated flavor selected hschedulable
  obtain ⟨decision, t', halone⟩ :=
    alone_scheduleInternal_ok h.store (h.debt_eq_none hidle) hallocated hschedulable
  exact ⟨decision, t', (Program.alone_expand alone_statements _ _).trans halone⟩

theorem intentsAccounted_step {w : StatementWorld ι R} {e : Event ι ScheduleRequest (StoreAction R)}
    (h : IntentsAccounted serverId w) (hothers : OtherServers serverId e)
    (hmeets : w.Meets (fun s t => Unobstructed serverId t s) e) :
    IntentsAccounted serverId (StatementWorld.step capacity serverId w e) := by
  refine h.step (E := fun _ a => OtherServers (ι := ι) serverId (.other a)) ?_ ?_ ?_ hmeets ?_
  · exact fun request => pays_scheduleInternal capacity request.flavor request.selected
  · intro s t hsound hledger
    cases s with
    | call c => exact sound_step hledger hsound
    | select reader s => exact hsound
  · intro w a hsound hothers
    cases a with
    | writeResources rows => exact ⟨⟨hsound.readable, hsound.placed⟩, fun _ hrow => hrow⟩
    | call c =>
      have hledger : FromLedger c := by
        cases c with
        | upsertIntent => trivial
        | _ => exact hothers
      refine ⟨sound_step hledger hsound, fun row hrow => ?_⟩
      refine intent_of_step ?_ hrow
      rintro intent rfl
      exact hothers
  · rintro a rfl
    exact hothers

variable (capacity serverId)

/-- **No dangling intents**: in every interleaving of statements in which no
call for the server meets another allocation of it, or reads one that is being
released, while its own intent is stored. -/
theorem no_dangling_intent_of_unobstructed (events : List (Event ι ScheduleRequest (StoreAction R)))
    (hunobstructed :
      EachStep (StatementWorld.step capacity serverId)
        (fun w e =>
          OtherServers serverId e ∧ w.Meets (fun s t => Unobstructed serverId t s) e)
        (Concurrent.initial PlacementTables.empty) events) :
    Always (StatementWorld.step capacity serverId) (NoDanglingIntent capacity serverId)
      (Concurrent.initial PlacementTables.empty) events := by
  have hinitial :
      IntentsAccounted serverId
        (Concurrent.initial PlacementTables.empty : StatementWorld ι R) := by
    refine ⟨sound_empty, ?_, ?_⟩
    · exact fun _ _ h => by cases h
    · exact fun _ h => by cases h
  exact
    (always_of_guarded (fun _ _ h hguard => intentsAccounted_step h hguard.1 hguard.2)
      _ events hinitial hunobstructed).imp (fun _ h => noDanglingIntent_of_accounted h)

end Run

def roomyNode : List (Event Bool ScheduleRequest (StoreAction Unit)) :=
  [.other (.call (.registerProvider "node-a"
      [⟨"VCPU", 8, 0, (), 0⟩, ⟨"MEMORY_MB", 64, 0, (), 0⟩, ⟨"DISK_GB", 9, 0, (), 0⟩])),
    .other (.call (.registerProvider "node-b" []))]

/-- A scheduling call, which makes so many statements. -/
def scheduleOnce (call : Bool) (statements : Nat) :
    List (Event Bool ScheduleRequest (StoreAction Unit)) :=
  .start call ⟨⟨2, 16, 1⟩, none⟩ :: List.replicate statements (.advance call)

/-- The server is scheduled, released and scheduled again. -/
def scheduledAfterRelease : List (Event Bool ScheduleRequest (StoreAction Unit)) :=
  roomyNode ++ scheduleOnce false 19 ++
    [.other (.call (.releaseAllocation "node-a" "allocation-server"))] ++ scheduleOnce true 19

theorem no_dangling_intent_after_call :
    let w :=
      run (StatementWorld.step (fun total (_ : Unit) => total) "server")
        (Concurrent.initial PlacementTables.empty) scheduledAfterRelease
    NoDanglingIntent (fun total (_ : Unit) => total) "server" w ∧
      w.Returned false (.ok lockstepDecision) ∧ w.Returned true (.ok lockstepDecision) := by
  refine ⟨?_, by decide +kernel, by decide +kernel⟩
  exact
    (no_dangling_intent_of_unobstructed (fun total (_ : Unit) => total) "server"
      scheduledAfterRelease (by decide +kernel)).last

/-- The server is scheduled, the other node is reported with more room, and the
server is scheduled again. -/
def scheduledTwice : List (Event Bool ScheduleRequest (StoreAction Unit)) :=
  roomyNode ++ scheduleOnce false 19 ++
    [.other (.call (.syncProvider "node-b" "Enabled"
      [⟨"VCPU", 9, 0, (), 0⟩, ⟨"MEMORY_MB", 99, 0, (), 0⟩, ⟨"DISK_GB", 9, 0, (), 0⟩]))] ++
    scheduleOnce true 29

theorem second_call_leaves_intent :
    EachStep (StatementWorld.step (fun total (_ : Unit) => total) "server")
        (fun _ e => OtherServers "server" e)
        (Concurrent.initial PlacementTables.empty) scheduledTwice ∧
      ¬ Always (StatementWorld.step (fun total (_ : Unit) => total) "server")
        (NoDanglingIntent (fun total (_ : Unit) => total) "server")
        (Concurrent.initial PlacementTables.empty) scheduledTwice := by
  refine ⟨by decide +kernel, fun h => ?_⟩
  have hfirst :
      (run (StatementWorld.step (fun total (_ : Unit) => total) "server")
        (Concurrent.initial PlacementTables.empty) scheduledTwice).Returned false
          (.ok lockstepDecision) := by
    decide +kernel
  have hsecond :
      (run (StatementWorld.step (fun total (_ : Unit) => total) "server")
        (Concurrent.initial PlacementTables.empty) scheduledTwice).Returned true
          (.ok lockstepDecision) := by
    decide +kernel
  have hidle := h.last.settled ?_
  · revert hidle
    decide +kernel
  · rintro (_ | _) ⟨c, next, hcall⟩
    · cases hfirst.symm.trans hcall
    · cases hsecond.symm.trans hcall

/-- The second call has listed the server's allocation and not yet read its
resources when the allocation is released. -/
def releasedWithinRead : List (Event Bool ScheduleRequest (StoreAction Unit)) :=
  roomyNode ++ scheduleOnce false 19 ++ scheduleOnce true 16 ++
    [.other (.call (.releaseAllocation "node-a" "allocation-server"))] ++
    List.replicate 12 (.advance true)

example :
    let w :=
      run (StatementWorld.step (fun total (_ : Unit) => total) "server")
        (Concurrent.initial PlacementTables.empty) releasedWithinRead
    w.Returned true (.error (.placement .invalidAllocation)) ∧
      (pendingFor "server" w.store).isSome := by
  decide +kernel

end Scheduler
end O3k
