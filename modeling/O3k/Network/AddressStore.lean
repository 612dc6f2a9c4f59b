import O3k.Network.AddressAllocation

/-!
# The address store over its pool of connections

Any number of allocations and releases run on the connections of a pool, one
step at a time.  An allocation that fails after it has opened its transaction
leaves it open; the connection becomes idle again only after the release hook
has rolled it back.
-/

namespace O3k
namespace Network

open Relational Semantics

/-- The connections of the store, with the table of allocations. -/
abbrev AddressStore (κ : Type) := Connections κ AddressAllocations AddressCall

namespace AddressStore

variable {κ : Type} [DecidableEq κ] (overflowChecks : Bool)

def step : AddressStore κ → ConnectionEvent κ AddressCall → AddressStore κ :=
  Connections.step (AddressCall.job overflowChecks)

def reply : AddressStore κ → ConnectionEvent κ AddressCall → Option (Outcome AddressAnswer) :=
  Connections.reply (AddressCall.job overflowChecks)

/-- What a reachable store satisfies. -/
def WellRun (w : AddressStore κ) : Prop :=
  w.Tidy (AddressCall.job overflowChecks) ∧ WellKept w.committed

variable {overflowChecks} {w : AddressStore κ} {t : AddressAllocations}

omit [DecidableEq κ] in
theorem wellRun_fresh (hkept : WellKept t) :
    WellRun overflowChecks (Connections.fresh t : AddressStore κ) :=
  ⟨Connections.tidy_fresh _ t, hkept⟩

theorem wellRun_step (h : WellRun overflowChecks w) (e : ConnectionEvent κ AddressCall) :
    WellRun overflowChecks (step overflowChecks w e) :=
  Connections.invariant_step (fun call _ hkept => hkept.effect overflowChecks call) h e

variable (overflowChecks) in
/-- What a call has answered with `Ok` is in the committed table. -/
def Durable (w : AddressStore κ) (e : ConnectionEvent κ AddressCall) : Prop :=
  ∀ found, reply overflowChecks w e = some (.answered (some (.ok found))) →
    match w.request e with
    | some (.allocate request) =>
      ∃ row ∈ (step overflowChecks w e).committed.rows, request.Owns row ∧
        ∃ record, found = some record ∧ row.record = .ok record
    | some (.release projectId endpointId) =>
      ∀ row ∈ (step overflowChecks w e).committed.rows,
        ¬ (row.projectId = projectId ∧ row.endpointId = endpointId)
    | none => False

theorem durable_of_wellRun (h : WellRun overflowChecks w) (e : ConnectionEvent κ AddressCall) :
    Durable overflowChecks w e := by
  intro found hok
  rcases Connections.advance_cases h.1 e with ⟨call, hcall, hreply, hcommitted⟩ | ⟨hnone, _⟩
  · have hanswer : ((call.job overflowChecks).effect w.committed).1 = some (.ok found) := by
      simpa using hreply.symm.trans hok
    rw [hcall]
    simp only [step, hcommitted]
    cases call with
    | allocate request =>
      rcases allocate_effect overflowChecks request h.2 with
        ⟨⟨_, heffect⟩, _⟩ | ⟨_, _, _, _, hallocates⟩
      · rw [heffect] at hanswer
        cases hanswer
      · generalize ((AddressCall.allocate request).job overflowChecks).effect w.committed = r
          at hallocates hanswer
        cases hallocates with
        | replayed mem owns read =>
          cases hanswer
          exact ⟨_, mem, owns, _, rfl, read⟩
        | allocated new usable free =>
          cases hanswer
          exact ⟨_, (w.committed.mem_put).mpr (.inl rfl), ⟨rfl, rfl, rfl, rfl⟩, _, rfl,
            record_row _⟩
        | _ => cases hanswer
    | release projectId endpointId =>
      intro row hrow hsame
      have hkept := ((w.committed.mem_deleteWhere).mp hrow).2
      simp [hsame] at hkept
  · exact absurd hok (hnone _)

variable (overflowChecks) in
/-- After an exhausted allocation, the release of an address of its prefix and
then an allocation under a new identity succeed, on whatever idle connections. -/
def Recovers (w : AddressStore κ) : Prop :=
  ∀ k request row a request' k₂ k₃,
    w.doing k = .running (.allocate request) →
    reply overflowChecks w (.finish k) =
      some (.answered (some (.error .networkAddressExhausted))) →
    row ∈ w.committed.rows → row.realmId = request.realmId → row.address = Ipv4Addr.toText a →
    Usable request.prefixText a →
    request'.realmId = request.realmId → request'.prefixText = request.prefixText →
    isBlank request'.projectId = false → isBlank request'.operationId = false →
    (∀ row' ∈ w.committed.rows, request'.Reuses row' → row' = row) →
    let returned := run (step overflowChecks) w [.finish k, .hook k]
    returned.doing k₂ = .idle →
    let release := ConnectionEvent.start k₂ (.release row.projectId row.endpointId)
    let released := run (step overflowChecks) returned [release, .hook k₂]
    released.doing k₃ = .idle →
      reply overflowChecks returned release = some (.answered (some (.ok none))) ∧
      ∃ record,
        reply overflowChecks (step overflowChecks released (.start k₃ (.allocate request')))
          (.finish k₃) = some (.answered (some (.ok (some record))))

theorem exhausted_of_answer {request : AddressRequest} (hkept : WellKept t)
    (h : (((AddressCall.allocate request).job overflowChecks).effect t).1 =
      some (.error .networkAddressExhausted)) :
    (((AddressCall.allocate request).job overflowChecks).effect t).2 = t ∧
      (∃ network prefixLen, request.Admitted network prefixLen ∧
        (overflowChecks && boundsOverflow network prefixLen) = false) ∧
      (∀ row ∈ t.rows, row.realmId = request.realmId → Ipv4Addr.parse row.address ≠ none) ∧
      ∀ a, Usable request.prefixText a →
        ∃ row ∈ t.rows, row.realmId = request.realmId ∧ row.address = a.toText := by
  rcases allocate_effect overflowChecks request hkept with
    ⟨⟨_, heffect⟩, _⟩ | ⟨network, prefixLen, _, hadmitted, hallocates⟩
  · rw [heffect] at h
    cases h
  · generalize ((AddressCall.allocate request).job overflowChecks).effect t = r
      at hallocates h ⊢
    cases hallocates with
    | exhausted new inside legible taken =>
      exact ⟨rfl, ⟨network, prefixLen, hadmitted, inside⟩, legible, taken⟩
    | _ => cases h

theorem allocates_of_free {request : AddressRequest} {network a : Ipv4Addr} {prefixLen : Nat}
    (hkept : WellKept t) (hadmitted : request.Admitted network prefixLen)
    (hinside : (overflowChecks && boundsOverflow network prefixLen) = false)
    (hnew : ∀ row ∈ t.rows, ¬ request.Reuses row)
    (hlegible : ∀ row ∈ t.rows, row.realmId = request.realmId → Ipv4Addr.parse row.address ≠ none)
    (husable : Usable request.prefixText a)
    (hfree : ∀ row ∈ t.rows, row.realmId = request.realmId → row.address ≠ a.toText) :
    ∃ record, (((AddressCall.allocate request).job overflowChecks).effect t).1 =
      some (.ok (some record)) := by
  rcases allocate_effect overflowChecks request hkept with
    ⟨_, hrefused⟩ | ⟨network', prefixLen', _, hadmitted', hallocates⟩
  · exact absurd hadmitted (hrefused network prefixLen)
  · obtain ⟨rfl, rfl⟩ :=
      Prod.mk.inj (Except.ok.inj (hadmitted.2.symm.trans hadmitted'.2))
    generalize ((AddressCall.allocate request).job overflowChecks).effect t = r at hallocates ⊢
    cases hallocates with
    | replayed mem owns read => exact ⟨_, rfl⟩
    | corrupt mem unread seen =>
      rcases seen with howns | hrealm
      · exact absurd (.inl howns.2.2.1) (hnew _ mem)
      · exact absurd unread (hlegible _ mem hrealm)
    | conflict mem reuses foreign => exact absurd reuses (hnew _ mem)
    | panicked new overflow => cases hinside.symm.trans overflow
    | exhausted new inside legible taken =>
      obtain ⟨row, hrow, hrealm, haddress⟩ := taken a husable
      exact absurd haddress (hfree row hrow hrealm)
    | allocated new usable free => exact ⟨_, rfl⟩

theorem recovers_of_wellRun (h : WellRun overflowChecks w) : Recovers overflowChecks w := by
  intro k request row a request' k₂ k₃ hdoing hexhausted hrow hrealm haddress husable hrealm'
    hprefix hproject hoperation hown returned hidle₂ release released hidle₃
  -- the exhausted call, and the hook on its connection
  obtain ⟨hreply, hcommitted, hreturning, hwriter⟩ := Connections.finish_of_running h.1 hdoing
  obtain ⟨hsame, ⟨network, prefixLen, hadmitted, hinside⟩, hlegible, _⟩ :=
    exhausted_of_answer h.2 (by simpa using hreply.symm.trans hexhausted)
  have hreturned : returned =
      { (step overflowChecks w (.finish k)).set k .idle with writer := none } :=
    Connections.hook_of_returning hreturning hwriter
  have htable : returned.committed = w.committed := by
    rw [hreturned]
    exact hcommitted.trans hsame
  -- the release, and the hook on its connection
  have hrelease : Connections.advance (AddressCall.job overflowChecks) returned release = _ :=
    Connections.start_statement hidle₂ (by rw [hreturned]) rfl
  have hstep : step overflowChecks returned release = { returned.set k₂ .returning with
      committed := w.committed.deleteWhere (fun r =>
        r.projectId = row.projectId && r.endpointId = row.endpointId) } := by
    rw [← htable]
    exact congrArg Prod.snd hrelease
  have hreleased : released =
      { (step overflowChecks returned release).set k₂ .idle with writer := none } := by
    refine Connections.hook_of_returning ?_ fun p hp => ?_
    · rw [hstep]
      simp
    · rw [hstep] at hp
      simp [hreturned] at hp
  refine ⟨congrArg Prod.fst hrelease, ?_⟩
  -- the second allocation
  have hwell : WellRun overflowChecks (step overflowChecks released (.start k₃ (.allocate request'))) :=
    wellRun_step (wellRun_step (wellRun_step (wellRun_step (wellRun_step h _) _) _) _) _
  have hadmitted' : request'.Admitted network prefixLen :=
    ⟨⟨hproject, hoperation⟩, by rw [ hprefix]; exact hadmitted.2⟩
  have hjob : (AddressCall.allocate request').job overflowChecks =
      .transaction (allocateBody overflowChecks request' network prefixLen) := by
    simp [AddressCall.job, allocateNetworkAddress, hproject, hoperation, hadmitted'.2]
  have hstart : step overflowChecks released (.start k₃ (.allocate request')) = _ :=
    Connections.start_transaction hidle₃ (by rw [hreleased]) hjob
  have hfinal : (step overflowChecks released (.start k₃ (.allocate request'))).committed =
      w.committed.deleteWhere (fun r =>
        r.projectId = row.projectId && r.endpointId = row.endpointId) := by
    refine (congrArg Connections.committed hstart).trans ?_
    rw [hreleased]
    exact congrArg Connections.committed hstep
  have hrunning :
      (step overflowChecks released (.start k₃ (.allocate request'))).doing k₃ =
        .running (.allocate request') :=
    (congrArg (Connections.doing · k₃) hstart).trans (by simp)
  obtain ⟨hanswer, _⟩ := Connections.finish_of_running hwell.1 hrunning
  have hgone : ∀ row' ∈ (step overflowChecks released
      (.start k₃ (.allocate request'))).committed.rows, row' ∈ w.committed.rows ∧ row' ≠ row := by
    intro row' hrow'
    rw [hfinal] at hrow'
    obtain ⟨hmem, hkeep⟩ := (w.committed.mem_deleteWhere).mp hrow'
    refine ⟨hmem, ?_⟩
    rintro rfl
    simp at hkeep
  obtain ⟨record, hrecord⟩ := allocates_of_free hwell.2 hadmitted' hinside
    (fun row' hrow' hreuses => (hgone row' hrow').2 (hown row' (hgone row' hrow').1 hreuses))
    (fun row' hrow' hsame' => hlegible row' (hgone row' hrow').1 (hsame'.trans hrealm'))
    (by rw [ hprefix]; exact husable)
    (fun row' hrow' hsame' haddress' => (hgone row' hrow').2
      (h.2.addresses row' (hgone row' hrow').1 row hrow
        ((hsame'.trans hrealm').trans hrealm.symm) (haddress'.trans haddress.symm)))
  exact ⟨record, by rw [← hrecord]; exact hanswer⟩

/-- **In every run**, of any number of calls on any number of connections, no
idle connection has a transaction open, what is answered with `Ok` is
committed, and an exhausted prefix can be allocated from again. -/
theorem failed_allocation_leaves_store_usable
    (overflowChecks : Bool) (t : AddressAllocations) (hkept : WellKept t)
    (events : List (ConnectionEvent κ AddressCall)) :
    Always (step overflowChecks)
        (fun w => (∀ k open', w.writer = some (k, open') → w.doing k ≠ .idle) ∧
          Recovers overflowChecks w)
        (Connections.fresh t) events ∧
      EachStep (step overflowChecks) (Durable overflowChecks) (Connections.fresh t) events :=
  ⟨(always_of_invariant (I := WellRun overflowChecks) (fun _ e h => wellRun_step h e) _ events
      (wellRun_fresh hkept)).imp fun _ h => ⟨h.1.idle, recovers_of_wellRun h⟩,
    eachStep_of_invariant (I := WellRun overflowChecks) (fun _ e h => wellRun_step h e)
      (fun _ e h => durable_of_wellRun h e) _ events (wellRun_fresh hkept)⟩

/-- Three allocations from a prefix with two usable addresses, on one
connection. -/
def exhausting : List (ConnectionEvent Unit AddressCall) :=
  let request name : AddressCall := .allocate ⟨"realm", "project", name, name, "10.0.0.0/30"⟩
  [.start () (request "a"), .finish (), .hook (), .start () (request "b"), .finish (), .hook (),
    .start () (request "c")]

theorem failed_allocation_leaves_store_usable_exhausting :
    Always (step true)
        (fun w => (∀ k open', w.writer = some (k, open') → w.doing k ≠ .idle) ∧ Recovers true w)
        (Connections.fresh ∅) (exhausting ++ [.finish (), .hook ()]) ∧
      EachStep (step true) (Durable true) (Connections.fresh ∅)
        (exhausting ++ [.finish (), .hook ()]) :=
  failed_allocation_leaves_store_usable true ∅ wellKept_empty _

/-- When the third call has returned, its transaction is still open. -/
theorem exhausted_allocation_returns_in_transaction :
    let w := run (step true) (Connections.fresh ∅) exhausting
    reply true w (.finish ()) =
        some (.answered (some (.error .networkAddressExhausted))) ∧
      ((step true w (.finish ())).openOn ()).isSome = true := by
  decide +kernel

/-- What an allocation answers and leaves behind, in a table of allocations. -/
structure AllocatesRight (request : AddressRequest) (t : AddressAllocations)
    (answer : AddressAnswer) (t' : AddressAllocations) : Prop where
  served :
    ∀ record, answer = some (.ok (some record)) → request.Owns record.row ∧ record.row ∈ t'.rows
  inRange :
    ∀ row ∈ t'.rows, row ∉ t.rows →
      ∃ a, Usable request.prefixText a ∧ row = (request.record a).row
  kept : ∀ row ∈ t.rows, row ∈ t'.rows
  replayed :
    ∀ a network prefixLen, (request.record a).row ∈ t.rows →
      parseIpv4Prefix request.prefixText = .ok (network, prefixLen) →
        answer = some (.ok (some (request.record a))) ∧ t' = t
  refused :
    ∀ row ∈ t.rows, request.Reuses row → ¬ request.Owns row → ∀ network prefixLen,
      parseIpv4Prefix request.prefixText = .ok (network, prefixLen) →
        t' = t ∧
          if isBlank request.projectId || isBlank request.operationId then
            ∃ detail, answer = some (.error (.corrupt detail))
          else
            answer = some (.error .networkAddressConflict)
  exhausted :
    answer = some (.error .networkAddressExhausted) → ∀ a, Usable request.prefixText a →
      ∃ row ∈ t.rows, row.realmId = request.realmId ∧ row.address = a.toText

/-- What the calls leave in a table that was empty. -/
structure Live (t : AddressAllocations) : Prop where
  kept : WellKept t
  written : ∀ row ∈ t.rows, ∃ a, row.address = Ipv4Addr.toText a
  named : ∀ row ∈ t.rows, isBlank row.projectId = false ∧ isBlank row.operationId = false

theorem Live.row_of_record
    (h : Live t) {row : NetworkAddressAllocationRow} {record : NetworkAddressAllocationRecord}
    (hrow : row ∈ t.rows) (hread : row.record = .ok record) :
    record.row = row := by
  obtain ⟨a, ha⟩ := h.written row hrow
  have hsame : (NetworkAddressAllocationRecord.mk row.realmId row.projectId row.endpointId
      row.operationId a).row = row := by
    simp [NetworkAddressAllocationRecord.row, ← ha]
  rw [← hsame, record_row] at hread
  rw [← Except.ok.inj hread]
  exact hsame

/-- **One allocation**, run alone: what holds of its answer, by what it does. -/
theorem allocatesRight_of_live (h : Live t) (request : AddressRequest) :
    AllocatesRight request t (((AddressCall.allocate request).job overflowChecks).effect t).1
        (((AddressCall.allocate request).job overflowChecks).effect t).2 ∧
      Live (((AddressCall.allocate request).job overflowChecks).effect t).2 := by
  have howns : ∀ a, request.Owns (request.record a).row := fun a => ⟨rfl, rfl, rfl, rfl⟩
  have hreuses : ∀ a, request.Reuses (request.record a).row := fun a => .inl rfl
  rcases allocate_effect overflowChecks request h.kept with
    ⟨⟨detail, heffect⟩, hrefused⟩ | ⟨network, prefixLen, _, hadmitted, hallocates⟩
  · rw [heffect]
    refine ⟨⟨(fun _ hok => by cases hok), fun row hrow hnew => absurd hrow hnew, fun _ hrow => hrow,
      ?_, ?_, (fun hexhausted => by cases hexhausted)⟩, h⟩
    · intro a network prefixLen hrow hparse
      exact absurd ⟨h.named _ hrow, hparse⟩ (hrefused network prefixLen)
    · intro row _ _ _ network prefixLen hparse
      refine ⟨rfl, ?_⟩
      split
      · exact ⟨detail, rfl⟩
      · rename_i hnamed
        exact absurd ⟨by simpa using hnamed, hparse⟩ (hrefused network prefixLen)
  · have hnamed : ¬ (isBlank request.projectId || isBlank request.operationId) = true := by
      simp [hadmitted.1]
    generalize ((AddressCall.allocate request).job overflowChecks).effect t = r at hallocates ⊢
    cases hallocates with
    | @replayed row record mem owns read =>
      have hrecord := h.row_of_record mem read
      refine ⟨⟨?_, fun row hrow hnew => absurd hrow hnew, fun _ hrow => hrow, ?_, ?_,
        (fun hexhausted => by cases hexhausted)⟩, h⟩
      · intro record' hok
        cases hok
        rw [hrecord]
        exact ⟨owns, mem⟩
      · intro a _ _ hrow _
        rw [← h.kept.owns_unique mem hrow owns (hreuses a), record_row] at read
        rw [Except.ok.inj read]
        exact ⟨rfl, rfl⟩
      · intro row' hrow' hreuses' hforeign
        rw [h.kept.owns_unique mem hrow' owns hreuses'] at hforeign
        exact absurd owns hforeign
    | @corrupt row detail mem unread seen =>
      obtain ⟨a, ha⟩ := h.written row mem
      rw [ha, parse_toText] at unread
      cases unread
    | @conflict row mem reuses foreign =>
      refine ⟨⟨(fun _ hok => by cases hok), fun row hrow hnew => absurd hrow hnew,
        fun _ hrow => hrow, ?_, fun _ _ _ _ _ _ _ => ⟨rfl, by simp [hnamed]⟩,
        (fun hexhausted => by cases hexhausted)⟩, h⟩
      intro a _ _ hrow _
      rw [h.kept.owns_unique hrow mem (howns a) reuses] at foreign
      exact absurd (howns a) foreign
    | panicked new overflow =>
      exact ⟨⟨(fun _ hok => by cases hok), fun row hrow hnew => absurd hrow hnew,
        fun _ hrow => hrow, fun a _ _ hrow _ => absurd (hreuses a) (new _ hrow),
        fun row hrow hreuses' => absurd hreuses' (new row hrow),
        (fun hexhausted => by cases hexhausted)⟩, h⟩
    | exhausted new inside legible taken =>
      exact ⟨⟨(fun _ hok => by cases hok), fun row hrow hnew => absurd hrow hnew,
        fun _ hrow => hrow, fun a _ _ hrow _ => absurd (hreuses a) (new _ hrow),
        fun row hrow hreuses' => absurd hreuses' (new row hrow), fun _ => taken⟩, h⟩
    | @allocated a new usable free =>
      have hrows := fun row => t.mem_put (r := (request.record a).row) (x := row)
      refine ⟨⟨?_, ?_, ?_, fun a _ _ hrow _ => absurd (hreuses a) (new _ hrow),
        fun row hrow hreuses' => absurd hreuses' (new row hrow),
        (fun hexhausted => by cases hexhausted)⟩, h.kept.put new free, ?_, ?_⟩
      · intro record hok
        cases hok
        exact ⟨howns a, (hrows _).mpr (.inl rfl)⟩
      · intro row hrow hnew
        rcases (hrows row).mp hrow with rfl | ⟨hrow, _⟩
        · exact ⟨a, usable, rfl⟩
        · exact absurd hrow hnew
      · exact fun row hrow => (hrows row).mpr (.inr ⟨hrow, fun hkey => new row hrow (.inl hkey)⟩)
      · intro row hrow
        rcases (hrows row).mp hrow with rfl | ⟨hrow, _⟩
        · exact ⟨a, rfl⟩
        · exact h.written row hrow
      · intro row hrow
        rcases (hrows row).mp hrow with rfl | ⟨hrow, _⟩
        · exact hadmitted.1
        · exact h.named row hrow

/-- **Every call**, run alone, keeps the table live. -/
theorem Live.effect (h : Live t) (call : AddressCall) :
    Live ((call.job overflowChecks).effect t).2 := by
  cases call with
  | allocate request => exact (allocatesRight_of_live h request).2
  | release projectId endpointId =>
    exact ⟨h.kept.effect overflowChecks (.release projectId endpointId),
      fun row hrow => h.written row ((t.mem_deleteWhere).mp hrow).1,
      fun row hrow => h.named row ((t.mem_deleteWhere).mp hrow).1⟩

variable (overflowChecks) in
/-- **In every run** from an empty table, the live addresses of a realm differ,
and every allocation that is answered is answered right. -/
theorem addresses_unique_in_range_replayed (events : List (ConnectionEvent κ AddressCall)) :
    Always (step overflowChecks)
        (fun w => ∀ row ∈ w.committed.rows, ∀ row' ∈ w.committed.rows,
          row.realmId = row'.realmId → row.address = row'.address → row = row')
        (Connections.fresh ∅) events ∧
      EachStep (step overflowChecks)
        (fun w e => ∀ request answer, w.request e = some (.allocate request) →
          reply overflowChecks w e = some (.answered answer) →
            AllocatesRight request w.committed answer (step overflowChecks w e).committed)
        (Connections.fresh ∅) events := by
  have hstep : ∀ (w : AddressStore κ) e,
      w.Tidy (AddressCall.job overflowChecks) ∧ Live w.committed →
        (step overflowChecks w e).Tidy (AddressCall.job overflowChecks) ∧
          Live (step overflowChecks w e).committed :=
    fun w e h => Connections.invariant_step (fun call _ hlive => hlive.effect call) h e
  have hstart : (Connections.fresh ∅ : AddressStore κ).Tidy (AddressCall.job overflowChecks) ∧
      Live (Connections.fresh ∅ : AddressStore κ).committed :=
    ⟨Connections.tidy_fresh _ ∅, wellKept_empty, (fun _ h => by cases h), (fun _ h => by cases h)⟩
  refine ⟨(always_of_invariant hstep _ events hstart).imp fun _ h => h.2.kept.addresses,
    eachStep_of_invariant hstep ?_ _ events hstart⟩
  intro w e h request answer hrequest hanswer
  rcases Connections.advance_cases h.1 e with ⟨call, hcall, hreply, hcommitted⟩ | ⟨hnone, _⟩
  · cases hrequest.symm.trans hcall
    cases hreply.symm.trans hanswer
    rw [show (step overflowChecks w e).committed = _ from hcommitted]
    exact (allocatesRight_of_live h.2 request).1
  · exact absurd hanswer (hnone answer)

/-- A call without a project that names a live endpoint is refused, though not
as a conflict. -/
theorem unnamed_reuse_is_no_conflict :
    let w := run (step false) (Connections.fresh ∅)
      [.start () (.allocate ⟨"realm", "project", "endpoint", "operation", "10.0.0.0/30"⟩),
        .finish (), .hook ()]
    w.committed.rows.map (·.endpointId) = ["endpoint"] ∧
      reply false w (.start () (.allocate ⟨"realm", "", "endpoint", "other", "10.0.0.0/30"⟩)) =
        some (.answered
          (some (.error (.corrupt "network address allocation has empty identity")))) := by
  decide +kernel

end AddressStore

end Network
end O3k
