import O3k.Placement.SqliteReplies
import O3k.Scheduler.Schedule

/-!
# Scheduling one server is exactly-once

Every call that schedules a server uses the same allocation id, and ids are
unique over all providers.  One commit inserts the allocation, and every
decision a call returns has been read from a stored allocation of the server, so
all of them are the same.
-/

namespace O3k
namespace Scheduler

open Relational Relational.Transaction Semantics Placement Placement.Sqlite

variable {R : Type}

section Server

variable (serverId : String)

/-- The server's allocations go by its allocation id. -/
def OwnId (t : Tables R) : Prop :=
  ∀ row ∈ t.allocations.rows, row.consumerId = serverId → row.id = allocationId serverId

/-- The server's allocations are still there. -/
def Kept (t t' : Tables R) : Prop :=
  ∀ row ∈ t.allocations.rows, row.consumerId = serverId → row ∈ t'.allocations.rows

/-- A call that does not release the server's allocation, and commits nothing
for the server under another id. -/
def Respects (t : Tables R) : RepositoryCall R → Prop
  | .commitAllocation _ _ allocation =>
    allocation.consumerId = serverId → allocation.id = allocationId serverId
  | .releaseAllocation _ id => ∀ row, t.allocations.get? id = some row → row.consumerId ≠ serverId
  | .reconcileConsumers ids =>
    ∀ row ∈ t.allocations.rows,
      row.consumerId = serverId → serverId ∈ liveConsumerIds t ids
  | _ => True

/-- The decision is a stored allocation of the server. -/
def Decides (decision : ScheduleDecision) (t : Tables R) : Prop :=
  ∃ row ∈ t.allocations.rows,
    row.consumerId = serverId ∧ decision = ⟨row.providerId, row.id, row.allocation⟩

instance (t : Tables R) : Decidable (OwnId serverId t) := by
  unfold OwnId
  infer_instance

instance (t : Tables R) : DecidablePred (Respects serverId t) := by
  intro c
  apply @RepositoryCall.casesOn R (fun c => Decidable (Respects serverId t c)) c <;> intros
  case releaseAllocation providerId id =>
    cases hget : t.allocations.get? id with
    | none => exact isTrue (by simp [Respects, hget])
    | some row =>
      refine decidable_of_iff (row.consumerId ≠ serverId) ?_
      simp [Respects, hget]
  all_goals
    unfold Respects
    infer_instance

variable {serverId} {t : Tables R}

theorem OwnId.eq
    (h : OwnId serverId t) {row row' : AllocationRow Nat} (hrow : row ∈ t.allocations.rows)
    (hrow' : row' ∈ t.allocations.rows) (hconsumer : row.consumerId = serverId)
    (hconsumer' : row'.consumerId = serverId) :
    row = row' :=
  t.allocations.eq_of_mem_of_key_eq hrow hrow'
    ((h row hrow hconsumer).trans (h row' hrow' hconsumer').symm)

theorem Kept.refl (t : Tables R) : Kept serverId t t :=
  fun _ hrow _ => hrow

theorem Kept.trans {t₁ t₂ t₃ : Tables R} (h : Kept serverId t₁ t₂) (h' : Kept serverId t₂ t₃) :
    Kept serverId t₁ t₃ :=
  fun row hrow hconsumer => h' row (h row hrow hconsumer) hconsumer

theorem Decides.kept {decision : ScheduleDecision} {t' : Tables R}
    (h : Decides serverId decision t) (hkept : Kept serverId t t') :
    Decides serverId decision t' := by
  obtain ⟨row, hrow, hconsumer, hdecision⟩ := h
  exact ⟨row, hkept row hrow hconsumer, hconsumer, hdecision⟩

/-- **One call** that respects the server keeps its allocation and its id. -/
theorem kept_step {c : RepositoryCall R}
    (hown : OwnId serverId t) (hrespects : Respects serverId t c) :
    Kept serverId t (step t c) ∧ OwnId serverId (step t c) := by
  have heffect := effect_step t c
  generalize step t c = t' at heffect
  cases heffect with
  | unchanged | provider | intentStored | intentDeleted => exact ⟨fun _ hrow _ => hrow, hown⟩
  | @committed providerId allocation old resources habsent hold hresources =>
    constructor
    · intro row hrow _
      have hne : row.id ≠ allocation.id := t.allocations.get?_eq_none_iff.mp habsent row hrow
      exact t.allocations.mem_put.mpr (Or.inr ⟨hrow, hne⟩)
    · intro row hrow hconsumer
      rcases t.allocations.mem_put.mp hrow with rfl | ⟨hmem, _⟩
      · exact hrespects hconsumer
      · exact hown row hmem hconsumer
  | @released id old existing hold hexisting =>
    constructor
    · intro row hrow hconsumer
      refine t.allocations.mem_deleteWhere.mpr ⟨hrow, decide_eq_false ?_⟩
      rintro rfl
      exact hrespects row (t.allocations.get?_key_of_mem hrow) hconsumer
    · intro row hrow
      exact hown row (t.allocations.mem_deleteWhere.mp hrow).1
  | @reconciled ids t' hallocations hintents hresources hproviders =>
    constructor
    · intro row hrow hconsumer
      rw [hallocations, t.allocations.mem_deleteWhere]
      refine ⟨hrow, decide_eq_false (not_not.mpr ?_)⟩
      rw [hconsumer]
      exact hrespects row hrow hconsumer
    · intro row hrow
      rw [hallocations] at hrow
      exact hown row (t.allocations.mem_deleteWhere.mp hrow).1

variable (serverId) in
/-- The program respects the server and ends with `Q`, whatever other calls that
respect it are made in between. -/
abbrev Among {α : Type} (Q : α → Tables R → Prop) (p : LedgerProgram R α) (t : Tables R) : Prop :=
  Program.Ensures exec (Kept serverId) (OwnId serverId) (fun c t => Respects serverId t c) Q p t

theorem among_providers (t : Tables R) :
    Among serverId
      (fun result t =>
        ∀ providers, result = .ok providers →
          ∀ provider ∈ providers, ∃ row,
            providerFromRecord (t.providerRecord id row) = .ok provider)
      PlacementLedger.providers t := by
  unfold PlacementLedger.providers
  refine Program.ensures_perform_bind.mpr (fun t _ _ => ⟨trivial, ?_⟩)
  intro providers hproviders provider hprovider
  obtain ⟨record, hrecord, hread⟩ := (mem_of_except_mapM hproviders).mp hprovider
  obtain ⟨row, _, rfl⟩ := List.mem_map.mp hrecord
  exact ⟨row, hread⟩

theorem decides_of_decisionOn {row : ProviderRow Nat R} {provider : ResourceProvider R}
    {resources : ResourceMap} {selected : Option StringSet} {decision : ScheduleDecision}
    (hread : providerFromRecord (t.providerRecord id row) = .ok provider)
    (h : decisionOn serverId resources selected provider = some decision) :
    Decides serverId decision t := by
  obtain ⟨hid, _, _, _, hallocations⟩ := providerFromRecord_ok hread
  unfold decisionOn at h
  rw [hallocations, get?_readAllocations] at h
  split_ifs at h
  split at h
  · cases h
  · rename_i id allocation hget
    split_ifs at h with hequal
    cases h
    obtain ⟨stored, hstored, heq⟩ := Option.map_eq_some_iff.mp hget
    obtain ⟨hmem, howner⟩ := Option.filter_eq_some_iff.mp hstored
    cases heq
    refine ⟨stored, t.allocations.mem_of_get? hmem, hequal.1, ?_⟩
    rw [t.allocations.key_of_get? hmem, of_decide_eq_true howner, hid]

theorem among_existingOr
    (resources : ResourceMap) (selected : Option StringSet) (error : SchedulerError)
    (t : Tables R) :
    Among serverId (fun result t => ∀ decision, result = .ok decision → Decides serverId decision t)
      (existingOr serverId resources selected error) t := by
  unfold existingOr existingAllocation
  refine Program.Ensures.bind
    (P := fun result t => ∀ decision, result = .ok (some decision) → Decides serverId decision t)
    ?_ ?_
  · refine (among_providers t).bind ?_
    intro result t hproviders
    cases result with
    | error e => exact fun _ h => by cases h
    | ok providers =>
      intro decision h
      obtain ⟨provider, hprovider, hdecision⟩ :=
        List.exists_of_findSome?_eq_some (Except.ok.inj h)
      obtain ⟨row, hread⟩ := hproviders providers rfl provider hprovider
      exact decides_of_decisionOn hread hdecision
  · intro result t h
    rcases result with e | _ | decision
    · exact fun _ h => by cases h
    · exact fun _ h => by cases h
    · intro decision' h'
      cases h'
      exact h decision rfl

theorem among_allocate
    (capacity : Nat → R → Nat) (row : AllocationRow Nat) (hid : row.id = allocationId serverId)
    (generation : Nat) (t : Tables R) :
    Among serverId
      (fun result t =>
        ∀ allocation, result = .ok allocation →
          row ∈ t.allocations.rows ∧ allocation = row.allocation)
      (PlacementLedger.allocate capacity row.providerId row.id row.consumerId row.resources
        generation) t := by
  unfold PlacementLedger.allocate
  split_ifs with hvalid
  · exact fun _ h => by cases h
  · refine Program.ensures_perform_bind.mpr (fun t₁ _ _ => ⟨trivial, ?_⟩)
    simp only [exec, PlacementTables.getProvider]
    cases hget : t₁.providers.get? row.providerId with
    | none => exact fun _ h => by cases h
    | some provider =>
      simp only [Option.map_some]
      cases hdecided :
          PlacementLedger.allocateDecision capacity (t₁.providerRecord id provider) row.id
            row.consumerId row.resources generation with
      | error e => exact fun _ h => by cases h
      | ok decision =>
        cases decision with
        | some allocation =>
          obtain ⟨existing, hmem, hexisting, rfl, hconsumer, hresources⟩ :=
            PlacementLedger.allocateDecision_eq_ok_some capacity hdecided
          obtain ⟨stored, hstored, rfl⟩ := List.mem_map.mp hmem
          obtain ⟨hrow, howner⟩ := List.mem_filter.mp hstored
          rw [allocationFromRecord_record] at hconsumer hresources ⊢
          have hprovider : stored.providerId = row.providerId :=
            (of_decide_eq_true howner).trans (t₁.providers.key_of_get? hget)
          obtain rfl : stored = row := by
            cases stored
            cases row
            simp_all [AllocationRow.record, AllocationRow.allocation]
          intro allocation h
          cases h
          exact ⟨hrow, rfl⟩
        | none =>
          refine Program.ensures_perform_bind.mpr (fun t₂ _ _ => ⟨fun _ => hid, ?_⟩)
          rcases hcommit :
              exec
                (.commitAllocation row.providerId generation
                  ⟨row.id, row.providerId, row.consumerId, resourceRecords row.resources⟩) t₂ with
            ⟨reply, t₃⟩
          cases reply with
          | error e => exact fun _ h => by cases h
          | ok committed =>
            obtain ⟨rfl, hrow⟩ := commitAllocation_ok hcommit
            intro allocation h
            cases h
            exact ⟨hrow, allocationFromRecord_record row⟩

theorem among_of_calls {α : Type} {p : LedgerProgram R α} (h : p.Calls Minor) (t : Tables R) :
    Among serverId (fun _ _ => True) p t := by
  refine Program.Ensures.of_calls ?_ h t
  intro c t hc
  cases c with
  | commitAllocation | releaseAllocation | reconcileConsumers => exact hc.elim
  | _ => trivial

theorem among_commitAllocationIntent (capacity : Nat → R → Nat) (intent : AllocationIntent)
    (hid : intent.allocationId = allocationId serverId) (hconsumer : intent.consumerId = serverId)
    (generation : Nat) (t : Tables R) :
    Among serverId
      (fun result t =>
        ∀ allocation, result = .ok allocation →
          intent.row ∈ t.allocations.rows ∧ allocation = intent.row.allocation)
      (PlacementLedger.commitAllocationIntent capacity intent generation) t := by
  unfold PlacementLedger.commitAllocationIntent
  refine (among_of_calls (calls_pendingIntent intent) t).bind ?_
  intro stored t _
  cases stored with
  | error e => exact fun _ h => by cases h
  | ok stored =>
    simp only
    split_ifs with hdiffers
    · exact fun _ h => by cases h
    · refine (among_allocate capacity intent.row hid generation t).bind ?_
      intro result t hallocated
      cases result with
      | error e => exact fun _ h => by cases h
      | ok allocation =>
        obtain ⟨hrow, rfl⟩ := hallocated allocation rfl
        refine Program.ensures_perform_bind.mpr (fun t' hkept _ => ⟨trivial, ?_⟩)
        intro allocation h
        cases h
        exact ⟨hkept intent.row hrow hconsumer, rfl⟩

theorem among_beginAllocationIntent
    (providerId allocationId consumerId : String) (resources : ResourceMap) (t : Tables R) :
    Among serverId
      (fun result _ =>
        ∀ intent, result = .ok intent → intent = ⟨providerId, allocationId, consumerId, resources⟩)
      (PlacementLedger.beginAllocationIntent providerId allocationId consumerId resources)
      t := by
  unfold PlacementLedger.beginAllocationIntent
  split_ifs with hinvalid
  · exact fun _ h => by cases h
  · refine Program.ensures_perform_bind.mpr (fun t _ _ => ⟨trivial, ?_⟩)
    cases (exec (.upsertIntent _) t).1 with
    | error e => exact fun _ h => by cases h
    | ok stored =>
      intro intent h
      cases h
      rfl

variable (serverId) in
/-- Every decision is a stored allocation of the server. -/
abbrev Decided (result : Except SchedulerError ScheduleDecision) (t : Tables R) : Prop :=
  ∀ decision, result = .ok decision → Decides serverId decision t

/-- The induction is on the candidates: each is decided, given up for the next
one, or left for the allocation that is already there. -/
theorem among_tryCandidates
    (capacity : Nat → R → Nat) (resources : ResourceMap) (selected : Option StringSet)
    (candidates : List (ResourceProvider R)) (t : Tables R) :
    Among serverId (Decided serverId)
      (tryCandidates capacity serverId resources selected candidates) t := by
  induction candidates generalizing t with
  | nil => exact among_existingOr resources selected _ t
  | cons candidate rest ih =>
    unfold tryCandidates
    refine (among_beginAllocationIntent _ _ _ _ t).bind ?_
    intro begun t hbegun
    cases begun with
    | error e => exact among_existingOr resources selected _ t
    | ok intent =>
      obtain ⟨hprovider, hid, hconsumer⟩ :
          intent.providerId = candidate.id ∧
            intent.allocationId = allocationId serverId ∧
            intent.consumerId = serverId := by
        rw [hbegun intent rfl]
        exact ⟨rfl, rfl, rfl⟩
      refine (among_commitAllocationIntent capacity intent hid hconsumer
        candidate.generation t).bind ?_
      intro committed t hcommitted
      cases committed with
      | ok allocation =>
        intro decision h
        cases h
        obtain ⟨hrow, rfl⟩ := hcommitted allocation rfl
        exact ⟨intent.row, hrow, hconsumer, by rw [← hprovider]; rfl⟩
      | error e =>
        simp only
        split_ifs with hlost
        · refine (among_of_calls (calls_abandonAllocationIntent intent) t).bind ?_
          intro abandoned t _
          cases abandoned with
          | error e => exact among_existingOr resources selected _ t
          | ok _ => exact ih t
        · exact among_existingOr resources selected _ t

theorem among_scheduleInternal
    (capacity : Nat → R → Nat) (flavor : Flavor) (selected : Option StringSet) (t : Tables R) :
    Among serverId (Decided serverId) (scheduleInternal capacity serverId flavor selected) t := by
  unfold scheduleInternal
  split_ifs with hinvalid
  · exact fun _ h => by cases h
  · refine (among_providers t).bind ?_
    intro providers t _
    cases providers with
    | error e => exact fun _ h => by cases h
    | ok providers => exact among_tryCandidates capacity _ selected _ t

end Server

/-- The arguments of a scheduling call for a given server: `schedule` selects no
providers, `schedule_for_agents` selects the agents'. -/
structure ScheduleRequest where
  flavor : Flavor
  selected : Option StringSet

section Run

variable {ι : Type} [DecidableEq ι]
variable (capacity : Nat → R → Nat) (serverId : String)

/-- The scheduling calls of one server and the store they share. -/
abbrev SchedulerWorld (ι R : Type) :=
  Concurrent (Tables R) ι (RepositoryCall R) RepositoryCall.Reply
    (Except SchedulerError ScheduleDecision)

def ScheduleRequest.program (request : ScheduleRequest) :
    LedgerProgram R (Except SchedulerError ScheduleDecision) :=
  scheduleInternal capacity serverId request.flavor request.selected

/-- The next step of one of the calls, or any action of the environment. -/
def SchedulerWorld.step :
    SchedulerWorld ι R →
    Event ι ScheduleRequest (StoreAction R) →
    SchedulerWorld ι R :=
  Concurrent.step exec (ScheduleRequest.program capacity serverId) act

def LeavesServer (w : SchedulerWorld ι R) : Event ι ScheduleRequest (StoreAction R) → Prop
  | .other (.call c) => Respects serverId w.store c
  | _ => True

instance (w : SchedulerWorld ι R) : DecidablePred (LeavesServer serverId w) := by
  rintro (_ | _ | (c | _))
  · exact isTrue trivial
  · exact isTrue trivial
  · exact inferInstanceAs (Decidable (Respects serverId w.store c))
  · exact isTrue trivial

/-- At most one allocation of the server, and every call that has returned `Ok`
has returned it. -/
structure ExactlyOnce (w : SchedulerWorld ι R) : Prop where
  single :
    ∀ row ∈ w.store.allocations.rows, ∀ row' ∈ w.store.allocations.rows,
      row.consumerId = serverId → row'.consumerId = serverId → row = row'
  stored :
    ∀ call decision, w.Returned call (.ok decision) → Decides serverId decision w.store
  agreed :
    ∀ call call' decision decision',
      w.Returned call (.ok decision) →
      w.Returned call' (.ok decision') →
        decision = decision'

variable {capacity serverId}

omit [DecidableEq ι] in
theorem exactlyOnce_of_onTrack {w : SchedulerWorld ι R}
    (h :
      w.OnTrack exec (Kept serverId) (OwnId serverId)
        (fun c t => Respects serverId t c) (Decided serverId)) :
    ExactlyOnce serverId w := by
  have hstored :
      ∀ call decision, w.Returned call (.ok decision) → Decides serverId decision w.store :=
    fun call decision hreturned => h.calls call _ hreturned decision rfl
  refine ⟨?_, hstored, ?_⟩
  · intro row hrow row' hrow' hconsumer hconsumer'
    exact h.store.eq hrow hrow' hconsumer hconsumer'
  · intro call call' decision decision' hreturned hreturned'
    obtain ⟨row, hrow, hconsumer, rfl⟩ := hstored call decision hreturned
    obtain ⟨row', hrow', hconsumer', rfl⟩ := hstored call' decision' hreturned'
    rw [h.store.eq hrow hrow' hconsumer hconsumer']

variable (capacity serverId)

/-- **Exactly once**: in every interleaving of scheduling calls for the server
with whatever leaves its allocation alone. -/
theorem scheduled_exactly_once (t : Tables R) (hown : OwnId serverId t)
    (events : List (Event ι ScheduleRequest (StoreAction R)))
    (hleaves :
      EachStep (SchedulerWorld.step capacity serverId) (LeavesServer serverId)
        (Concurrent.initial t) events) :
    Always (SchedulerWorld.step capacity serverId) (ExactlyOnce serverId)
      (Concurrent.initial t) events := by
  refine Always.imp (fun w => exactlyOnce_of_onTrack)
    (Concurrent.onTrack_run (R := Kept serverId) (I := OwnId serverId)
      (A := fun c t => Respects serverId t c) (Q := Decided serverId)
      Kept.refl (fun _ _ _ => Kept.trans) ?_ ?_ ?_ ?_ hown events hleaves)
  · exact fun result s s' h hkept decision hok => (h decision hok).kept hkept
  · exact fun w _ request _ _ =>
      among_scheduleInternal capacity request.flavor request.selected w.store
  · intro w a hown hrespects
    cases a with
    | call c => exact kept_step hown hrespects
    | writeResources rows => exact ⟨Kept.refl _, hown⟩
  · exact fun c s hown hrespects => kept_step hown hrespects

end Run

def twoNodes : Tables Unit :=
  run (fun t a => act a t) PlacementTables.empty
    [.call (.registerProvider "node-a"
      [⟨"VCPU", 8, 0, (), 0⟩, ⟨"MEMORY_MB", 64, 0, (), 0⟩, ⟨"DISK_GB", 9, 0, (), 0⟩]),
      .call (.registerProvider "node-b"
        [⟨"VCPU", 8, 0, (), 0⟩, ⟨"MEMORY_MB", 64, 0, (), 0⟩, ⟨"DISK_GB", 9, 0, (), 0⟩])]

/-- Two calls for one server in lockstep, while the other node is synchronised. -/
def lockstep : List (Event Bool ScheduleRequest (StoreAction Unit)) :=
  [.start false ⟨⟨2, 16, 1⟩, none⟩, .start true ⟨⟨2, 16, 1⟩, none⟩,
    .advance false, .advance true, .advance false, .advance true,
    .other (.call (.syncProvider "node-b" "Enabled" [])),
    .advance false, .advance true, .advance false, .advance true,
    .advance false, .advance true, .advance false, .advance true]

def lockstepDecision : ScheduleDecision :=
  ⟨"node-a", "allocation-server", ⟨"node-a", "server", flavorResources ⟨2, 16, 1⟩⟩⟩

theorem lockstep_scheduled_once :
    let w :=
      run (SchedulerWorld.step (fun total (_ : Unit) => total) "server")
        (Concurrent.initial twoNodes) lockstep
    ExactlyOnce "server" w ∧
      w.Returned false (.ok lockstepDecision) ∧
      w.Returned true (.ok lockstepDecision) := by
  refine ⟨?_, rfl, rfl⟩
  exact
    (scheduled_exactly_once (fun total (_ : Unit) => total) "server" twoNodes (by decide)
      lockstep (by decide)).last

end Scheduler
end O3k
