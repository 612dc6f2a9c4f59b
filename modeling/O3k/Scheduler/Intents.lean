import O3k.Placement.Statements
import O3k.Scheduler.ExactlyOnce
import O3k.Semantics.Debt

/-!
# The intents of scheduling calls

A scheduling call stores an intent before it commits, and takes it out again
when the commit succeeds or loses a race.  When the commit is refused because
another allocation has the id, it converges on that allocation and leaves its
intent behind.  The same happens where it reads the provider while the server's
allocation is released, and sees the row without the resources.
-/

namespace O3k
namespace Scheduler

open Relational Relational.Transaction Semantics Placement Placement.Sqlite

variable {R : Type}

section Server

variable (serverId : String)

/-- The intent stored for the server, if there is one. -/
def pendingFor (t : Tables R) : Option (AllocationRow Nat) := t.intents.get? (allocationId serverId)

/-- The allocation stored under the server's id, if there is one. -/
def allocatedFor (t : Tables R) : Option (AllocationRow Nat) :=
  t.allocations.get? (allocationId serverId)

/-- A call that is about to commit the stored intent, or reads the allocations
of the provider to commit it on, meets no allocation other than the one it
announces; and the one whose resources it reads then is still there. -/
def Unobstructed (t : Tables R) : Statement R → Prop
  | .select (.getProvider providerId) (.allocations _) =>
    ∀ intent ∈ pendingFor serverId t, ∀ row ∈ allocatedFor serverId t,
      intent.providerId = providerId → row.providerId = providerId → row = intent
  | .select (.getProvider providerId) (.allocationResources id) =>
    ∀ intent ∈ pendingFor serverId t,
      intent.providerId = providerId → id = allocationId serverId →
        allocatedFor serverId t = some intent
  | .call (.commitAllocation _ generation allocation) =>
    generation ≤ Sqlite.i64Max ∧
      ∀ intent ∈ pendingFor serverId t, ∀ row ∈ allocatedFor serverId t,
        intent.record id = allocation → row = intent
  | _ => True

instance (s : Statement R) (t : Tables R) : Decidable (Unobstructed serverId t s) := by
  unfold Unobstructed
  split <;> infer_instance

variable {serverId}

/-- The intent is one that `begin_allocation_intent` has stored for the server. -/
structure Begun (serverId : String) (intent : AllocationIntent) : Prop where
  named : intent.allocationId = allocationId serverId
  valid :
    intent.providerId ≠ "" ∧
      invalidRequest intent.allocationId intent.consumerId intent.resources = false
  fits : ∀ row ∈ intent.resources.rows, row.amount ≤ Sqlite.i64Max

variable {intent : AllocationIntent}

theorem Begun.invalidAllocation_eq_false (h : Begun serverId intent) :
    invalidAllocation (intent.row.record id) = false := by
  obtain ⟨hprovider, hvalid⟩ := h.valid
  simp only [invalidRequest, Bool.or_eq_false_iff] at hvalid
  obtain ⟨⟨⟨hid, hconsumer⟩, hresources⟩, hamounts⟩ := hvalid
  simp only [invalidAllocation, AllocationRow.record, AllocationIntent.row, Bool.or_eq_false_iff]
  refine ⟨⟨⟨⟨hid, ?_⟩, hconsumer⟩, ?_⟩, ?_⟩
  · simpa [String.isEmpty_iff] using hprovider
  · simpa using hresources
  · rw [List.any_map]
    exact hamounts

variable (serverId) in
/-- As long as the intent is stored, the statements end only with a result in `Q`. -/
abbrev StatementsOweIntent {α : Type} (Q : α → Prop) (intent : AllocationIntent)
    (p : StatementProgram R α) : Prop :=
  Program.Owes execStatement Sound (fun s t => Unobstructed serverId t s) (pendingFor serverId) Q
    intent.row p

variable (serverId) in
abbrev OwesIntent {α : Type} (Q : α → Prop) (intent : AllocationIntent)
    (p : LedgerProgram R α) : Prop :=
  StatementsOweIntent serverId Q intent (p.expand statements)

theorem owes_getIntent (hid : intent.allocationId = allocationId serverId) :
    StatementsOweIntent (R := R) serverId
      (fun reply => reply = .ok (some (intent.row.record id))) intent
      (statements (.getIntent intent.allocationId)) := by
  have hread :
      ∀ t : Tables R, pendingFor serverId t = some intent.row →
        t.intents.get? intent.allocationId = some intent.row := by
    intro t hpending
    rwa [pendingFor, ← hid] at hpending
  refine Program.owes_perform_bind.mpr (fun t _ _ hpending _ => ?_)
  simp only [execStatement, execSelect, hread t hpending, Option.map_some]
  refine Program.owes_perform_bind.mpr (fun t _ _ hpending _ => ?_)
  show Except.ok (some
    { placementAllocationFromRow intent.row with
      resources := resourcesIn t.intents intent.allocationId }) = _
  rw [resourcesIn_of_get? (hread t hpending)]
  rfl

theorem owes_allocationIntent (hid : intent.allocationId = allocationId serverId) :
    OwesIntent (R := R) serverId (fun result => result = .ok (some intent)) intent
      (PlacementLedger.allocationIntent intent.allocationId) := by
  refine (owes_getIntent hid).expand_perform_bind ?_
  rintro _ rfl
  show Except.ok (some (intentFromRecord (intent.row.record id))) = _
  rw [intentFromRecord_record]

/-- What the intent's own allocation looks like on a provider that was read. -/
def Announced (intent : AllocationIntent) (allocations : List PlacementAllocationRecord) : Prop :=
  ∀ existing ∈ allocations, existing.id = intent.allocationId →
    (allocationFromRecord existing).consumerId = intent.consumerId ∧
      (allocationFromRecord existing).resources = intent.resources

/-- The induction is on the rows that were listed: one that has the server's id
is the intent's, and so are the resources that are read for it. -/
theorem owes_loadAllocationResources (hid : intent.allocationId = allocationId serverId)
    (rows : List PlacementAllocationRecord)
    (hrows : ∀ row ∈ rows, row.id = intent.allocationId → row.consumerId = intent.consumerId) :
    StatementsOweIntent (R := R) serverId (Announced intent) intent
      (loadAllocationResources (.getProvider intent.providerId) rows) := by
  induction rows with
  | nil => exact fun _ h => by cases h
  | cons row rest ih =>
    refine Program.owes_perform_bind.mpr (fun t _ hunobstructed hpending _ => ?_)
    refine (ih (fun row hmem => hrows row (List.mem_cons_of_mem _ hmem))).bind ?_
    intro allocations hrest existing hexisting hnamed
    rcases List.mem_cons.mp hexisting with rfl | hmem
    · have hstored : t.allocations.get? row.id = some intent.row := by
        have hrow : row.id = allocationId serverId := hnamed.trans hid
        rw [hrow]
        exact hunobstructed intent.row hpending rfl hrow
      refine ⟨hrows row List.mem_cons_self hnamed, ?_⟩
      show resourceMap (resourcesIn t.allocations row.id) = _
      rw [resourcesIn_of_get? hstored]
      exact resourceMap_record _
    · exact hrest existing hmem hnamed

theorem owes_getProvider (hid : intent.allocationId = allocationId serverId) :
    StatementsOweIntent (R := R) serverId
      (fun reply => ∃ record, reply = .ok (some record) ∧ Announced intent record.allocations)
      intent (statements (.getProvider intent.providerId)) := by
  refine Program.owes_perform_bind.mpr (fun t hsound _ hpending _ => ?_)
  obtain ⟨provider, hprovider⟩ := hsound.placed intent.row (t.intents.mem_of_get? hpending)
  have hkey : provider.id = intent.providerId := t.providers.key_of_get? hprovider
  have hread : t.providers.get? intent.providerId = some provider := hprovider
  simp only [execStatement, execSelect, hread, Option.map_some]
  refine Program.Owes.bind
    (P := fun record : PlacementProviderRecord R => Announced intent record.allocations) ?_ ?_
  · refine Program.owes_perform_bind.mpr (fun _ _ _ _ _ => ?_)
    refine Program.Owes.bind (P := Announced intent) ?_ ?_
    · refine Program.owes_perform_bind.mpr (fun t _ hunobstructed hpending _ => ?_)
      refine owes_loadAllocationResources hid _ ?_
      intro record hrecord hnamed
      obtain ⟨row, hrow, rfl⟩ := List.mem_map.mp hrecord
      obtain ⟨hstored, howner⟩ := List.mem_filter.mp hrow
      have hallocated : row ∈ allocatedFor serverId t :=
        t.allocations.get?_eq_some_iff.mpr ⟨hstored, hnamed.trans hid⟩
      have hprovided : row.providerId = intent.providerId := (of_decide_eq_true howner).trans hkey
      obtain rfl := hunobstructed intent.row hpending row hallocated rfl hprovided
      rfl
    · intro allocations hannounced
      refine Program.owes_perform_bind.mpr (fun _ _ _ _ _ => ?_)
      exact Program.owes_perform_bind.mpr (fun _ _ _ _ _ => hannounced)
  · exact fun record hannounced => ⟨record, rfl, hannounced⟩

theorem owes_pendingIntent (hid : intent.allocationId = allocationId serverId) :
    OwesIntent (R := R) serverId (fun result => result = .ok intent) intent
      (PlacementLedger.pendingIntent intent) := by
  refine (owes_allocationIntent hid).expand_bind ?_
  rintro _ rfl
  rfl

theorem lostRace_of_commit_error {t t' : Tables R}
    (hsound : Sound t) (hbegun : Begun serverId intent)
    (hpending : pendingFor serverId t = some intent.row) {generation : Nat}
    (hunobstructed :
      Unobstructed serverId t
        (.call (.commitAllocation intent.providerId generation (intent.row.record id))))
    {e : StoreError}
    (h :
      exec (.commitAllocation intent.providerId generation (intent.row.record id)) t
        = (.error e, t')) :
    lostRace (mapStoreError e) = true := by
  obtain ⟨hgeneration, hsame⟩ := hunobstructed
  have hvalid := hbegun.invalidAllocation_eq_false
  have hmem : intent.row ∈ t.intents.rows := t.intents.mem_of_get? hpending
  obtain ⟨provider, hprovider⟩ := hsound.placed intent.row hmem
  cases hget : t.allocations.get? intent.row.id with
  | some row =>
    have hallocated : row ∈ allocatedFor serverId t := by
      rw [allocatedFor, ← hbegun.named]
      exact hget
    obtain rfl := hsame intent.row hpending row hallocated rfl
    have hok := commitAllocation_existing hvalid hget generation
    cases h.symm.trans hok
  | none =>
    by_cases hcurrent : provider.generation = generation
    · subst hcurrent
      obtain ⟨_, hok⟩ :=
        commitAllocation_accepted hvalid hget hprovider hgeneration hbegun.fits
      cases h.symm.trans hok
    · have hstale := commitAllocation_stale hvalid hget hprovider hcurrent hgeneration
      cases h.symm.trans hstale
      rfl

theorem owes_commitAllocation (hbegun : Begun serverId intent) (generation : Nat) :
    StatementsOweIntent (R := R) serverId
      (fun reply => ∀ e, reply = .error e → lostRace (mapStoreError e) = true) intent
      (statements (.commitAllocation intent.providerId generation (intent.row.record id))) := by
  intro t hsound hunobstructed hpending _ e h
  exact lostRace_of_commit_error hsound hbegun hpending hunobstructed (Prod.ext h rfl)

variable (capacity : Nat → R → Nat)

theorem owes_allocate (hbegun : Begun serverId intent) (generation : Nat) :
    OwesIntent serverId (fun result => ∀ e, result = .error e → lostRace e = true) intent
      (PlacementLedger.allocate capacity intent.providerId intent.allocationId
        intent.consumerId intent.resources generation) := by
  unfold PlacementLedger.allocate
  rw [if_neg (by simp [hbegun.valid.2])]
  refine (owes_getProvider hbegun.named).expand_perform_bind ?_
  rintro _ ⟨record, rfl, hannounced⟩
  simp only
  cases hdecided :
      PlacementLedger.allocateDecision capacity record intent.allocationId intent.consumerId
        intent.resources generation with
  | error e =>
    intro e' h
    cases h
    rcases PlacementLedger.allocateDecision_eq_error capacity hannounced hdecided with
      rfl | rfl | rfl
    · rfl
    · rfl
    · rfl
  | ok decision =>
    cases decision with
    | some allocation => exact fun _ h => by cases h
    | none =>
      refine (owes_commitAllocation hbegun generation).expand_perform_bind ?_
      intro reply hlost
      cases reply with
      | ok committed => exact fun _ h => by cases h
      | error e =>
        intro e' h
        cases h
        exact hlost e rfl

theorem pendingFor_deleteIntent {id : String}
    (hid : id = allocationId serverId) (t : Tables R) {row : AllocationRow Nat} :
    pendingFor serverId (t.deleteIntent id) ≠ some row := by
  rw [pendingFor, PlacementTables.deleteIntent_intents, Table.get?_deleteWhere, ← hid]
  intro h
  obtain ⟨hget, hkept⟩ := Option.filter_eq_some_iff.mp h
  simp [t.intents.key_of_get? hget] at hkept

theorem owes_commitAllocationIntent (hbegun : Begun serverId intent) (generation : Nat) :
    OwesIntent serverId (fun result => ∃ e, result = .error e ∧ lostRace e = true) intent
      (PlacementLedger.commitAllocationIntent capacity intent generation) := by
  refine (owes_pendingIntent hbegun.named).expand_bind ?_
  rintro _ rfl
  simp only [ne_eq, not_true_eq_false, if_false]
  refine (owes_allocate capacity hbegun generation).expand_bind ?_
  intro result hlost
  cases result with
  | error e => exact ⟨e, rfl, hlost e rfl⟩
  | ok allocation =>
    refine Program.owes_perform_bind.mpr (fun t _ _ _ hafter => ?_)
    exact absurd hafter (pendingFor_deleteIntent hbegun.named t)

theorem owes_abandonAllocationIntent (hid : intent.allocationId = allocationId serverId) :
    OwesIntent (R := R) serverId (fun _ => False) intent
      (PlacementLedger.abandonAllocationIntent intent) := by
  refine (owes_allocationIntent hid).expand_bind ?_
  rintro _ rfl
  simp only [ne_eq, not_true_eq_false, if_false]
  refine Program.owes_perform_bind.mpr (fun t _ _ _ hafter => ?_)
  exact absurd hafter (pendingFor_deleteIntent hid t)

/-- What the ledger calls for, and any `SELECT`. -/
def LedgerStatement : Statement R → Prop
  | .call c => FromLedger c
  | .select _ _ => True

variable (serverId) in
/-- The program owes every intent of the server that it stores, up to those that
`Q` leaves to who goes on. -/
abbrev PaysIntents {α : Type} (Q : AllocationRow Nat → α → Prop) (p : LedgerProgram R α) : Prop :=
  Program.Pays execStatement Sound LedgerStatement (fun s t => Unobstructed serverId t s)
    (pendingFor serverId) Q (p.expand statements)

theorem pays_of_calls {α : Type} {Q : AllocationRow Nat → α → Prop} {p : LedgerProgram R α}
    (h : p.Calls Quiet) :
    PaysIntents serverId Q p := by
  let QuietStatement : Statement R → Prop := fun s =>
    match s with
    | .call c => Quiet c
    | .select _ _ => True
  refine Program.Pays.of_calls (K := QuietStatement) ?_ ?_
    (h.expand (fun c hquiet => calls_statements c (fun _ => trivial) hquiet))
  · intro s hquiet
    cases s with
    | select reader s => trivial
    | call c =>
      cases c with
      | registerProvider | registerProviderMetadata | syncProvider | setProviderState =>
        exact hquiet.elim
      | _ => trivial
  · intro s hquiet t d hafter
    cases s with
    | select reader s => exact hafter
    | call c =>
      refine intent_of_step ?_ hafter
      rintro intent rfl
      exact hquiet.elim

theorem pays_beginAllocationIntent (providerId consumerId : String) (resources : ResourceMap) :
    PaysIntents (R := R) serverId
      (fun row result =>
        ∃ intent, result = .ok intent ∧ row = intent.row ∧ Begun serverId intent)
      (PlacementLedger.beginAllocationIntent providerId (allocationId serverId) consumerId
        resources) := by
  unfold PlacementLedger.beginAllocationIntent
  split_ifs with hinvalid
  · trivial
  · refine ⟨trivial, fun t _ _ => ?_⟩
    rcases hupsert :
        execStatement
          (.call (.upsertIntent
            (intentToRecord ⟨providerId, allocationId serverId, consumerId, resources⟩))) t with
      ⟨reply, t'⟩
    cases reply with
    | error e =>
      obtain rfl := upsertIntent_error hupsert
      exact ⟨fun row hafter hbefore => absurd hafter hbefore, trivial⟩
    | ok stored =>
      obtain ⟨rfl, hfits⟩ := upsertIntent_ok hupsert
      refine ⟨fun row hafter _ => ⟨_, rfl, ?_, rfl, ?_, hfits⟩, trivial⟩
      · exact (Option.some.inj (hafter.symm.trans (Table.get?_put_self _ _)))
      · simpa [String.isEmpty_iff] using hinvalid

/-- The induction is on the candidates: an intent that is left pending is given
up before the next candidate is tried. -/
theorem pays_tryCandidates (resources : ResourceMap) (selected : Option StringSet)
    (candidates : List (ResourceProvider R)) :
    PaysIntents serverId (fun _ _ => False)
      (tryCandidates capacity serverId resources selected candidates) := by
  have hexisting :
      ∀ e, PaysIntents (R := R) serverId (fun _ _ => False)
        (existingOr serverId resources selected e) :=
    fun e => pays_of_calls ((calls_existingOr _ _ _ e).mono quiet_of_minor)
  induction candidates with
  | nil => exact hexisting _
  | cons candidate rest ih =>
    unfold tryCandidates
    refine (pays_beginAllocationIntent _ _ _).expand_bind ?_ ?_
    · intro begun
      cases begun with
      | error e => exact hexisting _
      | ok intent =>
        refine Program.Pays.expand_bind_of_clear
          (pays_of_calls (calls_commitAllocationIntent capacity intent _)) ?_
        intro committed
        cases committed with
        | ok allocation => trivial
        | error e =>
          simp only
          split_ifs with hlost
          · refine Program.Pays.expand_bind_of_clear
              (pays_of_calls ((calls_abandonAllocationIntent intent).mono quiet_of_minor)) ?_
            intro abandoned
            cases abandoned with
            | error e => exact hexisting _
            | ok _ => exact ih
          · exact hexisting _
    · rintro _ _ ⟨intent, rfl, rfl, hbegun⟩
      refine (owes_commitAllocationIntent capacity hbegun _).expand_bind ?_
      rintro _ ⟨e, rfl, hlost⟩
      simp only [hlost, if_true]
      exact (owes_abandonAllocationIntent hbegun.named).expand_bind (fun _ h => h.elim)

theorem pays_scheduleInternal (flavor : Flavor) (selected : Option StringSet) :
    PaysIntents serverId (fun _ _ => False)
      (scheduleInternal capacity serverId flavor selected) := by
  unfold scheduleInternal
  split_ifs
  · trivial
  · refine Program.Pays.expand_bind_of_clear (pays_of_calls (calls_providers.mono quiet_of_minor)) ?_
    intro providers
    cases providers with
    | error e => trivial
    | ok providers => exact pays_tryCandidates capacity _ selected _

end Server

end Scheduler
end O3k
