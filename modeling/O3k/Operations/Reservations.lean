import O3k.Operations.Acceptance
import O3k.Operations.Finality

/-!
# Acceptance is exactly-once

`Accepted` says once what a transaction of the four entry points can do: answer
from the stored reservation and leave the tables alone, or store the proposed
rows under a key that was free.  The reservations therefore only grow, and what
a call answers is decided by the one under its key.

Other writers may come in between: the four writers of an operation's state, and
whoever changes the resources and the service-owned tables.
-/

namespace O3k
namespace Operations

open Relational Relational.Transaction Semantics

/-- One row more, where there was none. -/
def Inserted {ρ κ : Type} [LinearOrder κ] {key : ρ → κ} (t t' : Table key) (row : ρ) : Prop :=
  t.get? (key row) = none ∧ ∀ k, t'.get? k = if key row = k then some row else t.get? k

theorem inserted_put {ρ κ : Type} [LinearOrder κ] {key : ρ → κ} {t : Table key} {row : ρ}
    (h : t.get? (key row) = none) : Inserted t (t.put row) row :=
  ⟨h, t.get?_put row⟩

namespace AcceptanceCall

def resource? : AcceptanceCall → Option ResourceRecord
  | resourceOperation resource _ _ _ _ => some resource
  | _ => none

/-- None of the rows that the call proposes has another one in its place. -/
structure Fresh (c : AcceptanceCall) (t : OperationTables) : Prop where
  reservation : t.reservations.get? c.request.row.key = none
  operation : t.operations.get? c.operation.id = none
  metadata : t.metadata.get? c.canonical.metadata.operationId = none
  resource : ∀ resource ∈ c.resource?, t.resources.get? resource.id = none

/-- Precisely the proposed rows are new. -/
structure Adds (c : AcceptanceCall) (t t' : OperationTables) : Prop where
  reservations : Inserted t.reservations t'.reservations c.request.row
  operations : Inserted t.operations t'.operations c.operation
  metadata : Inserted t.metadata t'.metadata c.canonical.metadata
  resources : ∀ resource ∈ c.resource?, Inserted t.resources t'.resources resource
  otherResources : c.resource? = none → t'.resources = t.resources
  canonicalNetworks : t'.canonicalNetworks = t.canonicalNetworks
  canonicalAddressRealms : t'.canonicalAddressRealms = t.canonicalAddressRealms
  placementAllocations : t'.placementAllocations = t.placementAllocations

/-- The tables with the rows that the call proposes. -/
def accepted (c : AcceptanceCall) (t : OperationTables) : OperationTables :=
  let t :=
    match c with
    | resourceOperation resource _ _ _ _ => t.putResource resource
    | _ => t
  ((t.putOperation c.operation).putMetadata c.canonical.metadata).putReservation c.request.row

@[simp] theorem reservations_accepted (c : AcceptanceCall) (t : OperationTables) :
    (c.accepted t).reservations = t.reservations.put c.request.row := by
  cases c <;> rfl

@[simp] theorem operations_accepted (c : AcceptanceCall) (t : OperationTables) :
    (c.accepted t).operations = t.operations.put c.operation := by
  cases c <;> rfl

@[simp] theorem metadata_accepted (c : AcceptanceCall) (t : OperationTables) :
    (c.accepted t).metadata = t.metadata.put c.canonical.metadata := by
  cases c <;> rfl

theorem adds_accepted {c : AcceptanceCall} {t : OperationTables} (h : c.Fresh t) :
    c.Adds t (c.accepted t) where
  reservations := by
    rw [reservations_accepted]
    exact inserted_put h.reservation
  operations := by
    rw [operations_accepted]
    exact inserted_put h.operation
  metadata := by
    rw [metadata_accepted]
    exact inserted_put h.metadata
  resources := by
    intro resource hresource
    have hfresh := h.resource resource hresource
    cases c with
    | resourceOperation =>
      cases hresource
      exact inserted_put hfresh
    | _ => cases hresource
  otherResources := by
    intro hnone
    cases c with
    | resourceOperation => cases hnone
    | _ => rfl
  canonicalNetworks := by
    cases c <;> rfl
  canonicalAddressRealms := by
    cases c <;> rfl
  placementAllocations := by
    cases c <;> rfl

end AcceptanceCall

variable {t t' : OperationTables}

theorem insertCanonicalAcceptance_ok {operation : OperationRecord}
    {canonical : CanonicalOperationRecord} {request : IdempotencyReservationRequest}
    {onDuplicate : StoreError}
    (h : insertCanonicalAcceptance operation canonical request onDuplicate t = .ok ((), t')) :
    t.operations.get? operation.id = none ∧ t.metadata.get? canonical.metadata.operationId = none ∧
      t' =
        ((t.putOperation operation).putMetadata canonical.metadata).putReservation request.row := by
  unfold insertCanonicalAcceptance at h
  obtain ⟨_, t₁, hoperation, h⟩ := bind_eq_ok.mp h
  obtain ⟨_, t₂, hmetadata, hreservation⟩ := bind_eq_ok.mp h
  simp only [insertOperation, get_bind_apply] at hoperation
  obtain ⟨_, hoperation⟩ := require_bind_eq_ok.mp hoperation
  obtain ⟨operations, hinsert, hset⟩ := orFail_bind_eq_ok.mp hoperation
  obtain ⟨hfresh, rfl⟩ := (t.operations.insert?_eq_some_iff operations).mp hinsert
  cases hset
  simp only [insertMetadata, get_bind_apply] at hmetadata
  obtain ⟨metadata, hinsert, hmetadata⟩ := orFail_bind_eq_ok.mp hmetadata
  obtain ⟨hunknown, rfl⟩ := (Table.insert?_eq_some_iff _ metadata).mp hinsert
  obtain ⟨_, hset⟩ := require_bind_eq_ok.mp hmetadata
  cases hset
  simp only [insertReservation, get_bind_apply] at hreservation
  obtain ⟨_, hreservation⟩ := require_bind_eq_ok.mp hreservation
  obtain ⟨_, hreservation⟩ := require_bind_eq_ok.mp hreservation
  obtain ⟨reservations, hinsert, hset⟩ := orFail_bind_eq_ok.mp hreservation
  obtain ⟨_, rfl⟩ := (Table.insert?_eq_some_iff _ reservations).mp hinsert
  cases hset
  exact ⟨hfresh, hunknown, rfl⟩

/-- The outcomes of a transaction that succeeds. -/
inductive Accepted (t : OperationTables) (c : AcceptanceCall) :
    IdempotencyReservation → OperationTables → Prop
  | conflict (row : ReservationRow) (hstored : t.reservations.get? c.request.row.key = some row)
      (hdiffers : row.fingerprint ≠ c.request.fingerprint) :
      Accepted t c .conflict t
  | replayed (row : ReservationRow) (hstored : t.reservations.get? c.request.row.key = some row)
      (hagrees : row.fingerprint = c.request.fingerprint) :
      Accepted t c (.existingEquivalent row.operationId) t
  | created (hfresh : c.Fresh t) :
      Accepted t c (.created c.operation.id) (c.accepted t)

section Calls

variable {lib : TextLibrary} {request : IdempotencyReservationRequest} {t t' : OperationTables}

variable {outcome : CanonicalAcceptanceOutcome}

theorem replayAcceptance_ok {reservation : ReservationRow}
    (h : replayAcceptance lib reservation request t = .ok (outcome, t')) :
    t' = t ∧
      ((reservation.fingerprint ≠ request.fingerprint ∧ outcome.reservation = .conflict) ∨
        (reservation.fingerprint = request.fingerprint ∧
          outcome.reservation = .existingEquivalent reservation.operationId)) := by
  simp only [replayAcceptance, get_bind_apply] at h
  split at h
  · rename_i hdiffers
    cases h
    exact ⟨rfl, Or.inl ⟨hdiffers, rfl⟩⟩
  · rename_i hagrees
    obtain ⟨_, _, h⟩ := orFail_bind_eq_ok.mp h
    obtain ⟨_, _, h⟩ := orFail_bind_eq_ok.mp h
    obtain ⟨_, _, h⟩ := fromExcept_bind_eq_ok.mp h
    obtain ⟨_, _, h⟩ := orFail_bind_eq_ok.mp h
    obtain ⟨_, _, h⟩ := fromExcept_bind_eq_ok.mp h
    cases h
    exact ⟨rfl, Or.inr ⟨not_not.mp hagrees, rfl⟩⟩

variable {canonical : CanonicalOperationRecord} {operation : OperationRecord}

theorem accepted_idempotent {outcome : IdempotencyReservation}
    (h : createOrReplayCanonicalIdempotentOperationBody lib operation canonical request t
      = .ok (outcome, t')) :
    Accepted t (.idempotentOperation operation canonical request) outcome t' := by
  simp only [createOrReplayCanonicalIdempotentOperationBody, get_bind_apply] at h
  cases hstored : t.reservations.get? request.row.key with
  | some row =>
    simp only [hstored] at h
    split at h
    · rename_i hdiffers
      cases h
      exact Accepted.conflict row hstored hdiffers
    · rename_i hagrees
      obtain ⟨_, _, h⟩ := orFail_bind_eq_ok.mp h
      obtain ⟨_, _, h⟩ := orFail_bind_eq_ok.mp h
      obtain ⟨_, _, h⟩ := fromExcept_bind_eq_ok.mp h
      obtain ⟨_, _, h⟩ := fromExcept_bind_eq_ok.mp h
      obtain ⟨_, _, h⟩ := orFail_bind_eq_ok.mp h
      obtain ⟨_, h⟩ := require_bind_eq_ok.mp h
      cases h
      exact Accepted.replayed row hstored (not_not.mp hagrees)
  | none =>
    simp only [hstored] at h
    obtain ⟨_, _, h⟩ := orFail_bind_eq_ok.mp h
    obtain ⟨_, h⟩ := require_bind_eq_ok.mp h
    obtain ⟨_, t₁, hinsert, h⟩ := bind_eq_ok.mp h
    obtain ⟨hfresh, hunknown, rfl⟩ := insertCanonicalAcceptance_ok hinsert
    cases h
    exact Accepted.created ⟨hstored, hfresh, hunknown, fun _ hnone => by cases hnone⟩

theorem accepted_scoped {outcome : IdempotencyReservation}
    (h : createOrReplayCanonicalScopedOperationBody operation canonical request t
      = .ok (outcome, t')) :
    Accepted t (.scopedOperation operation canonical request) outcome t' := by
  simp only [createOrReplayCanonicalScopedOperationBody, get_bind_apply] at h
  cases hstored : t.reservations.get? request.row.key with
  | some row =>
    simp only [hstored] at h
    split at h
    · rename_i hdiffers
      cases h
      exact Accepted.conflict row hstored hdiffers
    · rename_i hagrees
      obtain ⟨_, _, h⟩ := orFail_bind_eq_ok.mp h
      obtain ⟨_, _, h⟩ := orFail_bind_eq_ok.mp h
      obtain ⟨_, h⟩ := require_bind_eq_ok.mp h
      cases h
      exact Accepted.replayed row hstored (not_not.mp hagrees)
  | none =>
    simp only [hstored] at h
    obtain ⟨_, _, h⟩ := fromExcept_bind_eq_ok.mp h
    obtain ⟨_, h⟩ := require_bind_eq_ok.mp h
    obtain ⟨_, t₁, hinsert, h⟩ := bind_eq_ok.mp h
    obtain ⟨hfresh, hunknown, rfl⟩ := insertCanonicalAcceptance_ok hinsert
    cases h
    exact Accepted.created ⟨hstored, hfresh, hunknown, fun _ hnone => by cases hnone⟩

theorem accepted_resource {resource : ResourceRecord} {allocation : Option String}
    (h : createOrReplayCanonicalResourceOperationBody lib resource operation canonical request
      allocation t = .ok (outcome, t')) :
    Accepted t (.resourceOperation resource operation canonical request allocation)
      outcome.reservation t' := by
  simp only [createOrReplayCanonicalResourceOperationBody, get_bind_apply] at h
  cases hstored : t.reservations.get? request.row.key with
  | some row =>
    simp only [hstored] at h
    obtain ⟨rfl, ⟨hdiffers, houtcome⟩ | ⟨hagrees, houtcome⟩⟩ := replayAcceptance_ok h
    · rw [houtcome]
      exact Accepted.conflict row hstored hdiffers
    · rw [houtcome]
      exact Accepted.replayed row hstored hagrees
  | none =>
    simp only [hstored] at h
    obtain ⟨_, h⟩ := require_bind_eq_ok.mp h
    obtain ⟨_, t₁, hresource, h⟩ := bind_eq_ok.mp h
    simp only [insertResource, get_bind_apply] at hresource
    obtain ⟨_, hresource⟩ := require_bind_eq_ok.mp hresource
    obtain ⟨resources, hinsert, hset⟩ := orFail_bind_eq_ok.mp hresource
    obtain ⟨habsent, rfl⟩ := (t.resources.insert?_eq_some_iff resources).mp hinsert
    cases hset
    obtain ⟨_, t₂, hinsert, h⟩ := bind_eq_ok.mp h
    obtain ⟨hfresh, hunknown, rfl⟩ := insertCanonicalAcceptance_ok hinsert
    cases h
    exact Accepted.created ⟨hstored, hfresh, hunknown, fun _ hproposed => by cases hproposed; exact habsent⟩

theorem accepted_lifecycle {seen : Option ResourceRecord}
    (h : createOrReplayCanonicalLifecycleOperationBody lib operation canonical request t
      = .ok (outcome, t')) :
    Accepted t (.lifecycleOperation seen operation canonical request) outcome.reservation t' := by
  simp only [createOrReplayCanonicalLifecycleOperationBody, get_bind_apply] at h
  cases hstored : t.reservations.get? request.row.key with
  | some row =>
    simp only [hstored] at h
    obtain ⟨rfl, ⟨hdiffers, houtcome⟩ | ⟨hagrees, houtcome⟩⟩ := replayAcceptance_ok h
    · rw [houtcome]
      exact Accepted.conflict row hstored hdiffers
    · rw [houtcome]
      exact Accepted.replayed row hstored hagrees
  | none =>
    simp only [hstored] at h
    obtain ⟨_, _, h⟩ := orFail_bind_eq_ok.mp h
    obtain ⟨_, _, h⟩ := fromExcept_bind_eq_ok.mp h
    obtain ⟨_, t₁, hinsert, h⟩ := bind_eq_ok.mp h
    obtain ⟨hfresh, hunknown, rfl⟩ := insertCanonicalAcceptance_ok hinsert
    cases h
    exact Accepted.created ⟨hstored, hfresh, hunknown, fun _ hnone => by cases hnone⟩

variable {c : AcceptanceCall}

theorem accepted_body {outcome : IdempotencyReservation} (h : c.body lib t = .ok (outcome, t')) :
    Accepted t c outcome t' := by
  cases c with
  | idempotentOperation operation canonical request => exact accepted_idempotent h
  | scopedOperation operation canonical request => exact accepted_scoped h
  | resourceOperation resource operation canonical request allocation =>
    obtain ⟨outcome, _, hbody, hpure⟩ := map_eq_ok.mp h
    cases hpure
    exact accepted_resource hbody
  | lifecycleOperation seen operation canonical request =>
    obtain ⟨outcome, _, hbody, hpure⟩ := map_eq_ok.mp h
    cases hpure
    exact accepted_lifecycle hbody

theorem ids_of_precheck (h : c.precheck lib = .ok ()) :
    c.operation.id = c.canonical.id ∧ c.operation.id = c.request.operationId := by
  have hidentity :
      ∀ {operation canonical request},
        validateCanonicalIdempotentOperationIdentity lib operation canonical request = .ok () →
        operation.id = canonical.id ∧ operation.id = request.operationId := by
    intro operation canonical request h
    unfold validateCanonicalIdempotentOperationIdentity at h
    split at h
    · cases h
    · rename_i hids
      exact not_or.mp hids |>.imp not_not.mp not_not.mp
  have hacceptance :
      ∀ {resource operation canonical request},
        validateCanonicalResourceAcceptance lib resource operation canonical request = .ok () →
        operation.id = canonical.id ∧ operation.id = request.operationId := by
    intro resource operation canonical request h
    obtain ⟨_, hvalid, _⟩ := except_bind_eq_ok.mp h
    exact hidentity hvalid
  cases c with
  | idempotentOperation operation canonical request =>
    simp only [AcceptanceCall.precheck] at h
    split at h
    · cases h
    · exact hidentity h
  | resourceOperation resource operation canonical request allocation => exact hacceptance h
  | lifecycleOperation seen operation canonical request =>
    cases seen with
    | none => cases h
    | some resource => exact hacceptance h
  | scopedOperation operation canonical request =>
    simp only [AcceptanceCall.precheck] at h
    split at h
    · cases h
    · exact hidentity h

/-- **Inversion** of a call. -/
theorem exec_cases (c : AcceptanceCall) (t : OperationTables) :
    (∃ e, c.exec lib t = (.error e, t)) ∨
      (∃ outcome t', c.precheck lib = .ok () ∧ Accepted t c outcome t' ∧
        c.exec lib t = (.ok outcome, t')) := by
  unfold AcceptanceCall.exec
  cases hcheck : c.precheck lib with
  | error e => exact Or.inl ⟨e, rfl⟩
  | ok =>
    cases hbody : c.body lib t with
    | error e => exact Or.inl ⟨e, atomically_of_error hbody⟩
    | ok result =>
      exact Or.inr ⟨result.1, result.2, rfl, accepted_body hbody, atomically_of_ok hbody⟩

theorem exec_of_differs {t : OperationTables} {row : ReservationRow}
    (hstored : t.reservations.get? c.request.row.key = some row)
    (hdiffers : row.fingerprint ≠ c.request.fingerprint) (hcheck : c.precheck lib = .ok ()) :
    (c.exec lib t).1 = .ok .conflict := by
  have hbody : c.body lib t = .ok (.conflict, t) := by
    cases c <;>
      simp_all [AcceptanceCall.body, AcceptanceCall.request,
        createOrReplayCanonicalIdempotentOperationBody,
        createOrReplayCanonicalResourceOperationBody,
        createOrReplayCanonicalLifecycleOperationBody,
        createOrReplayCanonicalScopedOperationBody, replayAcceptance,
        CanonicalAcceptanceOutcome.reservation]
  unfold AcceptanceCall.exec
  rw [hcheck]
  exact congrArg Prod.fst (atomically_of_ok hbody)

end Calls

/-- Every reservation has its operation and the metadata of that operation. -/
def Backed (t : OperationTables) : Prop :=
  ∀ row ∈ t.reservations.rows,
    (t.operations.get? row.operationId).isSome ∧ (t.metadata.get? row.operationId).isSome

/-- The reservations stay as they are and nothing they rest on is taken away. -/
structure Keeps (t t' : OperationTables) : Prop where
  reservations : t'.reservations = t.reservations
  operations : ∀ id, (t.operations.get? id).isSome → (t'.operations.get? id).isSome
  metadata : ∀ id, (t.metadata.get? id).isSome → (t'.metadata.get? id).isSome

theorem Keeps.refl (t : OperationTables) : Keeps t t :=
  ⟨rfl, fun _ h => h, fun _ h => h⟩

theorem Keeps.trans {t t' t'' : OperationTables} (h : Keeps t t') (h' : Keeps t' t'') :
    Keeps t t'' where
  reservations := h'.reservations.trans h.reservations
  operations := fun id hid => h'.operations id (h.operations id hid)
  metadata := fun id hid => h'.metadata id (h.metadata id hid)

theorem isSome_get?_put {ρ κ : Type} [LinearOrder κ] {key : ρ → κ} (t : Table key) (r : ρ) {k : κ}
    (h : (t.get? k).isSome) :
    ((t.put r).get? k).isSome := by
  rw [Table.get?_put]
  split
  · rfl
  · exact h

theorem keeps_putOperation (t : OperationTables) (row : OperationRecord) :
    Keeps t (t.putOperation row) :=
  ⟨rfl, fun _ h => isSome_get?_put _ _ h, fun _ h => h⟩

theorem keeps_modifyMetadata
    (t : OperationTables) (id : Uuid) (f : CanonicalMetadata → CanonicalMetadata) :
    Keeps t (t.modifyMetadata id f) := by
  unfold OperationTables.modifyMetadata
  split
  · exact Keeps.refl t
  · exact ⟨rfl, fun _ h => h, fun _ h => isSome_get?_put _ _ h⟩

theorem keeps_putResource (t : OperationTables) (row : ResourceRecord) :
    Keeps t (t.putResource row) :=
  ⟨rfl, fun _ h => h, fun _ h => h⟩

theorem keeps_wrote {w : OperationWrite} (h : Wrote t w t') : Keeps t t' := by
  have hwrite :
      ∀ (t : OperationTables) row id f, Keeps t ((t.putOperation row).modifyMetadata id f) :=
    fun t row id f => (keeps_putOperation t row).trans (keeps_modifyMetadata _ id f)
  cases h with
  | dropped => exact Keeps.refl t
  | repeated | replayed => exact keeps_putOperation t _
  | updated | projected => exact hwrite t _ _ _
  | completed => exact (keeps_putResource t _).trans (hwrite _ _ _ _)
  | terminalized => exact (hwrite t _ _ _).trans (keeps_putResource _ _)

theorem Keeps.backed (h : Keeps t t') (hbacked : Backed t) : Backed t' := by
  intro row hrow
  rw [h.reservations] at hrow
  exact (hbacked row hrow).imp (h.operations _) (h.metadata _)

/-- A call of one of the four entry points, a write of an operation's state,
or a change of the tables that an operation may refer to. -/
inductive AcceptanceEvent
  | call (c : AcceptanceCall)
  | write (w : OperationWrite)
  | environment (resources : Table ResourceRecord.id)
      (canonicalNetworks canonicalAddressRealms : Table ScopedResource.id)
      (placementAllocations : List String)

section Runs

variable (lib : TextLibrary)

def AcceptanceEvent.apply (t : OperationTables) : AcceptanceEvent → OperationTables
  | .call c => (c.exec lib t).2
  | .write w => Operations.write lib.isRfc3339 t w
  | .environment resources canonicalNetworks canonicalAddressRealms placementAllocations =>
    { t with
      resources := resources
      canonicalNetworks := canonicalNetworks
      canonicalAddressRealms := canonicalAddressRealms
      placementAllocations := placementAllocations }

variable {lib}

/-- **Step**: an event keeps the reservations, or adds the one of a call whose
key was free. -/
theorem apply_cases (t : OperationTables) (e : AcceptanceEvent) :
    Keeps t (e.apply lib t) ∨
      ∃ c, e = .call c ∧ c.precheck lib = .ok () ∧
        t.reservations.get? c.request.row.key = none ∧ e.apply lib t = c.accepted t := by
  cases e with
  | call c =>
    rcases @exec_cases lib c t with ⟨e, hexec⟩ | ⟨outcome, t', hcheck, haccepted, hexec⟩
    · left
      rw [AcceptanceEvent.apply, hexec]
      exact Keeps.refl t
    · rw [AcceptanceEvent.apply, hexec]
      cases haccepted with
      | conflict | replayed => exact Or.inl (Keeps.refl t)
      | created hfresh => exact Or.inr ⟨c, rfl, hcheck, hfresh.reservation, rfl⟩
  | write w =>
    left
    show Keeps t (write lib.isRfc3339 t w)
    rcases write_cases lib.isRfc3339 t w with hsame | ⟨_, hwrote⟩
    · rw [hsame]
      exact Keeps.refl t
    · exact keeps_wrote hwrote
  | environment resources canonicalNetworks canonicalAddressRealms placementAllocations =>
    exact Or.inl ⟨rfl, fun _ h => h, fun _ h => h⟩

theorem backed_apply (t : OperationTables) (e : AcceptanceEvent) (h : Backed t) :
    Backed (e.apply lib t) := by
  rcases @apply_cases lib t e with hkeeps | ⟨c, rfl, hcheck, hfree, happly⟩
  · exact hkeeps.backed h
  · obtain ⟨hcanonical, hrequest⟩ := ids_of_precheck hcheck
    rw [happly]
    intro row hrow
    rw [AcceptanceCall.operations_accepted, AcceptanceCall.metadata_accepted]
    rw [AcceptanceCall.reservations_accepted] at hrow
    rcases t.reservations.mem_put.mp hrow with rfl | ⟨hold, _⟩
    · have hoperation : c.operation.id = c.request.row.operationId := hrequest
      have hmetadata : c.canonical.metadata.operationId = c.request.row.operationId :=
        hcanonical.symm.trans hrequest
      rw [Table.get?_put, if_pos hoperation, Table.get?_put, if_pos hmetadata]
      exact ⟨rfl, rfl⟩
    · exact (h row hold).imp (isSome_get?_put _ _) (isSome_get?_put _ _)

theorem reservation_kept {t : OperationTables} {row : ReservationRow}
    (h : row ∈ t.reservations.rows) (e : AcceptanceEvent) :
    row ∈ (e.apply lib t).reservations.rows := by
  rcases @apply_cases lib t e with hkeeps | ⟨c, rfl, _, hfree, happly⟩
  · rw [hkeeps.reservations]
    exact h
  · rw [happly, AcceptanceCall.reservations_accepted]
    exact t.reservations.mem_put.mpr (Or.inr ⟨h, t.reservations.get?_eq_none_iff.mp hfree row h⟩)

/-- What a call answers and what it does to the tables, `checked` being what
has to hold for the answer to a reuse of a key to be a conflict. -/
structure ExactlyOnce (lib : TextLibrary) (checked : AcceptanceCall → Prop) (t : OperationTables)
    (c : AcceptanceCall) : Prop where
  created :
    ∀ id, (c.exec lib t).1 = .ok (.created id) →
      id = c.request.operationId ∧ c.Adds t (c.exec lib t).2
  unchanged :
    (∀ id, (c.exec lib t).1 ≠ .ok (.created id)) → (c.exec lib t).2 = t
  replayed :
    ∀ row, t.reservations.get? c.request.row.key = some row →
      row.fingerprint = c.request.fingerprint →
        ∀ outcome, (c.exec lib t).1 = .ok outcome →
          outcome = .existingEquivalent row.operationId
  conflict :
    ∀ row, t.reservations.get? c.request.row.key = some row →
      row.fingerprint ≠ c.request.fingerprint →
        checked c → (c.exec lib t).1 = .ok .conflict

theorem exactlyOnce_call (t : OperationTables) (c : AcceptanceCall) :
    ExactlyOnce lib (fun c => c.precheck lib = .ok ()) t c := by
  refine ⟨?_, ?_, ?_, fun row hstored hdiffers hcheck => exec_of_differs hstored hdiffers hcheck⟩
  all_goals
    rcases @exec_cases lib c t with ⟨e, hexec⟩ | ⟨outcome, t', hcheck, haccepted, hexec⟩
    all_goals rw [hexec]
  · intro id h
    cases h
  · intro id h
    cases haccepted with
    | conflict | replayed => cases h
    | created hfresh =>
      cases h
      exact ⟨(ids_of_precheck hcheck).2, AcceptanceCall.adds_accepted hfresh⟩
  · exact fun _ => rfl
  · intro hother
    cases haccepted with
    | conflict | replayed => rfl
    | created hfresh => exact absurd rfl (hother c.operation.id)
  · intro row _ _ outcome h
    cases h
  · intro row hstored hagrees outcome' h
    cases h
    cases haccepted with
    | conflict row' hstored' hdiffers =>
      cases hstored.symm.trans hstored'
      exact absurd hagrees hdiffers
    | replayed row' hstored' _ =>
      cases hstored.symm.trans hstored'
      rfl
    | created hfresh => cases hstored.symm.trans hfresh.reservation

theorem reservation_kept_run {row : ReservationRow} (events : List AcceptanceEvent)
    {t : OperationTables} (h : row ∈ t.reservations.rows) :
    row ∈ (run (AcceptanceEvent.apply lib) t events).reservations.rows := by
  induction events generalizing t with
  | nil => exact h
  | cons e events ih => exact ih (reservation_kept h e)

variable (lib)

/-- **Acceptance is exactly-once**, in every run and among all other writers:
a stored reservation never changes, it always has its one operation and its one
metadata row, and every call answers and writes as `ExactlyOnce` says; one that
fails its checks is refused with their error. -/
theorem acceptance_exactly_once (events : List AcceptanceEvent) :
    (∀ before after, events = before ++ after →
      ∀ row ∈ (run (AcceptanceEvent.apply lib) .empty before).reservations.rows,
        (run (AcceptanceEvent.apply lib) .empty events).reservations.get? row.key = some row) ∧
      Always (AcceptanceEvent.apply lib) Backed .empty events ∧
      EachStep (AcceptanceEvent.apply lib)
        (fun t e =>
          ∀ c, e = .call c → ExactlyOnce lib (fun c => c.precheck lib = .ok ()) t c ∧
            ∀ error, c.precheck lib = .error error → (c.exec lib t).1 = .error error)
        .empty events := by
  refine ⟨?_, ?_, ?_⟩
  · rintro before after rfl row hrow
    rw [run_append]
    exact Table.get?_key_of_mem _ (reservation_kept_run after hrow)
  · exact always_of_invariant backed_apply _ _ (fun _ h => absurd h List.not_mem_nil)
  · rw [eachStep_iff_split]
    refine fun _ _ _ _ c _ => ⟨exactlyOnce_call _ c, fun error hcheck => ?_⟩
    rw [AcceptanceCall.exec, hcheck]

end Runs

namespace ReusedKey

def textLibrary : TextLibrary :=
  ⟨fun _ => true, id, id, fun _ => ""⟩

def server : ResourceRecord :=
  ⟨"server", "compute:server", "project", 1, 1, "active", "active", none⟩

def deletion (id : Uuid) : OperationRecord :=
  ⟨id, "server", "lifecycle:delete", .pending, none, none, none⟩

def canonicalDeletion (id : Uuid) : CanonicalOperationRecord where
  id := id
  service := "compute"
  action := "compute:DeleteServer"
  actor := "user"
  ownerScope := "project"
  resourceType := "compute:server"
  resourceId := some "server"
  state := .pending
  attempt := 0
  createdAt := "2026-01-01T00:00:00Z"
  startedAt := none
  finishedAt := none
  error := none
  requestId := none

def request (fingerprint : String) (operationId : Uuid) : IdempotencyReservationRequest :=
  ⟨"project", "compute:DeleteServer", "compute:server", "key", fingerprint, operationId⟩

/-- The second proposal names one operation in its request and another in its
records. -/
def events : List AcceptanceEvent :=
  [.environment (Table.ofList [server]) ∅ ∅ [],
    .call (.idempotentOperation (deletion "first") (canonicalDeletion "first")
      (request "one" "first")),
    .call (.idempotentOperation (deletion "second") (canonicalDeletion "second")
      (request "two" "third"))]

end ReusedKey

open ReusedKey in
/-- Not every reuse of a key under another fingerprint is answered with a
conflict: a proposal that contradicts itself is an error. -/
theorem reuse_refused_before_lookup :
    ¬ ∀ (lib : TextLibrary) (events : List AcceptanceEvent),
      EachStep (AcceptanceEvent.apply lib)
        (fun t e => ∀ c, e = .call c → ExactlyOnce lib (fun _ => True) t c)
        .empty events := by
  intro h
  obtain ⟨_, _, hthird, _⟩ := h textLibrary events
  have hconflict := (hthird _ rfl).conflict (request "one" "first").row (by decide) (by decide)
    trivial
  have herror :
      ((AcceptanceCall.idempotentOperation (deletion "second") (canonicalDeletion "second")
          (request "two" "third")).exec textLibrary
        (run (AcceptanceEvent.apply textLibrary) .empty (events.take 2))).1
        =
      .error (.corrupt "durable, canonical, and idempotency operation identities differ") := by
    decide
  cases herror.symm.trans hconflict

/-!
# The plain acceptance

`create_or_replay_idempotent_operation` inserts the operation, then the
reservation, and does not look which row a unique violation of either is about.
-/

/-- The proposal that was inserted has lost. -/
def IdempotencyReservation.loses (operationId : Uuid) : IdempotencyReservation → Bool
  | conflict => true
  | created _ => false
  | existingEquivalent id => id ≠ operationId

/-- The insert of the reservation, answered from the row under its key when a
unique index refuses it. -/
def reserveOrRead (request : IdempotencyReservationRequest) : Body IdempotencyReservation := do
  let t ← get
  require (1 ≤ request.key.utf8ByteSize ∧ request.key.utf8ByteSize ≤ 128)
    (.database .checkViolation)
  if (∃ r ∈ t.reservations.rows, r.operationId = request.operationId) ∨
      (t.reservations.get? request.row.key).isSome then
    let row ← orFail (t.reservations.get? request.row.key) .idempotencyConflict
    if row.fingerprint ≠ request.fingerprint then
      return .conflict
    else
      return .existingEquivalent row.operationId
  else
    set (t.putReservation request.row)
    return .created request.operationId

/-- `DELETE FROM operations`, of a proposal that was inserted and has lost. -/
def OperationTables.withdrawIf (t : OperationTables) (lost : Bool) (id : Uuid) : OperationTables :=
  if lost then { t with operations := t.operations.deleteWhere (fun row => row.id = id) } else t

def createOrReplayIdempotentOperationBody
    (operation : OperationRecord) (request : IdempotencyReservationRequest) :
    Body IdempotencyReservation := do
  require (operation.id = request.operationId)
    (.corrupt "operation and idempotency identities differ")
  let t ← get
  require (t.hasResource operation.resourceId)
    (.database (.raisedAbort "operation resource not found"))
  let inserted := (t.operations.get? operation.id).isNone
  set (if inserted then t.putOperation operation else t)
  let outcome ← reserveOrRead request
  modify (fun t => t.withdrawIf (inserted && outcome.loses operation.id) operation.id)
  let t ← get
  match outcome with
  | .existingEquivalent id =>
    require (t.operations.get? id).isSome
      (.corrupt "idempotency reservation references missing operation")
  | _ => pure ()
  return outcome

section Plain

variable {operation : OperationRecord} {request : IdempotencyReservationRequest}
  {outcome : IdempotencyReservation}

/-- The reservation is new, and refers to a stored operation that is not the
proposed one. -/
structure Attaches
    (t : OperationTables) (operation : OperationRecord) (request : IdempotencyReservationRequest) :
    Prop where
  identity : operation.id = request.operationId
  resource : t.hasResource operation.resourceId = true
  key : 1 ≤ request.key.utf8ByteSize ∧ request.key.utf8ByteSize ≤ 128
  unreserved : ∀ r ∈ t.reservations.rows, r.operationId ≠ request.operationId
  free : t.reservations.get? request.row.key = none
  differs : ∃ stored, t.operations.get? operation.id = some stored ∧ stored ≠ operation

structure StoresProposal
    (t : OperationTables) (operation : OperationRecord) (request : IdempotencyReservationRequest)
    (result : Except StoreError IdempotencyReservation × OperationTables) :
    Prop where
  created :
    ∀ id, result.1 = .ok (.created id) →
      result.2.operations.get? id = some operation ∧
        ∃ row, result.2.reservations.get? request.row.key = some row ∧ row.operationId = id
  lost :
    ∀ outcome, result.1 = .ok outcome → outcome.loses operation.id = true → result.2 = t

theorem reserveOrRead_ok (h : reserveOrRead request t = .ok (outcome, t')) :
    (t' = t ∧ ∀ id, outcome ≠ .created id) ∨
      (1 ≤ request.key.utf8ByteSize ∧ request.key.utf8ByteSize ≤ 128) ∧
        (∀ r ∈ t.reservations.rows, r.operationId ≠ request.operationId) ∧
        t.reservations.get? request.row.key = none ∧
        t' = t.putReservation request.row ∧ outcome = .created request.operationId := by
  simp only [reserveOrRead, get_bind_apply] at h
  obtain ⟨hkey, h⟩ := require_bind_eq_ok.mp h
  split at h
  · obtain ⟨row, _, h⟩ := orFail_bind_eq_ok.mp h
    split at h <;> cases h <;> exact Or.inl ⟨rfl, fun _ hcreated => by cases hcreated⟩
  · rename_i hfree
    cases h
    obtain ⟨hunreserved, hnone⟩ := not_or.mp hfree
    exact Or.inr ⟨hkey, by simpa using hunreserved, by simpa using hnone, rfl, rfl⟩

theorem body_of_attaches (h : Attaches t operation request) :
    createOrReplayIdempotentOperationBody operation request t
      = .ok (.created request.operationId, t.putReservation request.row) := by
  obtain ⟨stored, hget, _⟩ := h.differs
  have hfree :
      ¬ ((∃ r ∈ t.reservations.rows, r.operationId = request.operationId) ∨
        (t.reservations.get? request.row.key).isSome = true) := by
    rintro (⟨r, hr, hsame⟩ | hsome)
    · exact h.unreserved r hr hsame
    · rw [h.free] at hsome
      cases hsome
  have hreserve : reserveOrRead request t
      = .ok (.created request.operationId, t.putReservation request.row) := by
    simp only [reserveOrRead, get_bind_apply]
    rw [require_bind_of_pos _ _ h.key, if_neg hfree]
    rfl
  unfold createOrReplayIdempotentOperationBody
  rw [require_bind_of_pos _ _ h.identity, get_bind_apply, require_bind_of_pos _ _ h.resource]
  simp only [hget, Option.isNone_some, Bool.false_eq_true, if_false, set_bind_apply]
  rw [bind_of_ok hreserve]
  rfl

theorem delete_inserted (habsent : t.operations.get? operation.id = none) :
    (t.operations.put operation).deleteWhere (fun row => row.id = operation.id) = t.operations := by
  refine Table.ext_get? (fun k => ?_)
  rw [Table.get?_deleteWhere, Table.get?_put]
  split_ifs with hkey
  · rw [← hkey, habsent]
    simp
  · cases hget : t.operations.get? k with
    | none => rfl
    | some row =>
      have hid : row.id = k := t.operations.key_of_get? hget
      simp [hid, Ne.symm hkey]

/-- **The plain acceptance stores what was proposed** exactly when it does not
attach a new reservation to another operation that is stored under the id. -/
theorem plain_acceptance_stores_proposal_iff
    (t : OperationTables) (operation : OperationRecord) (request : IdempotencyReservationRequest) :
    StoresProposal t operation request
        (atomically (createOrReplayIdempotentOperationBody operation request) t)
      ↔
    ¬ Attaches t operation request := by
  constructor
  · intro hstores hattaches
    obtain ⟨stored, hget, hdiffers⟩ := hattaches.differs
    have hcreated := hstores.created
    rw [atomically_of_ok (body_of_attaches hattaches)] at hcreated
    have hsame := (hcreated _ rfl).1
    rw [← hattaches.identity] at hsame
    exact hdiffers (Option.some.inj (hget.symm.trans hsame))
  · intro hnot
    cases hbody : createOrReplayIdempotentOperationBody operation request t with
    | error e =>
      rw [atomically_of_error hbody]
      exact ⟨(fun _ h => by cases h), (fun _ h => by cases h)⟩
    | ok result =>
      obtain ⟨outcome, t'⟩ := result
      rw [atomically_of_ok hbody]
      unfold createOrReplayIdempotentOperationBody at hbody
      obtain ⟨hid, hbody⟩ := require_bind_eq_ok.mp hbody
      rw [get_bind_apply] at hbody
      obtain ⟨hresource, hbody⟩ := require_bind_eq_ok.mp hbody
      simp only [set_bind_apply] at hbody
      obtain ⟨reserved, t₁, hreserve, hbody⟩ := bind_eq_ok.mp hbody
      rw [modify_bind_apply, get_bind_apply] at hbody
      have hfinal :
          outcome = reserved ∧
            t' = t₁.withdrawIf ((t.operations.get? operation.id).isNone &&
              reserved.loses operation.id) operation.id := by
        cases reserved with
        | existingEquivalent id =>
          obtain ⟨_, hbody⟩ := require_bind_eq_ok.mp hbody
          cases hbody
          exact ⟨rfl, rfl⟩
        | conflict | created =>
          cases hbody
          exact ⟨rfl, rfl⟩
      obtain ⟨rfl, rfl⟩ := hfinal
      rcases reserveOrRead_ok hreserve with
        ⟨rfl, hno⟩ | ⟨hkey, hunreserved, hfree, rfl, rfl⟩
      · refine ⟨fun id h => absurd (Except.ok.inj h) (hno id), fun _ h hloses => ?_⟩
        cases h
        cases hget : t.operations.get? operation.id with
        | none => simp [OperationTables.withdrawIf, hloses, delete_inserted hget]
        | some stored => simp [OperationTables.withdrawIf]
      · refine ⟨fun id h => ?_, fun _ h hloses => by cases h; cases hloses⟩
        cases h
        simp only [IdempotencyReservation.loses, Bool.and_false, OperationTables.withdrawIf,
          Bool.false_eq_true, if_false]
        refine ⟨?_, request.row, Table.get?_put_self _ _, rfl⟩
        rw [← hid]
        cases hget : t.operations.get? operation.id with
        | none => exact Table.get?_put_self _ _
        | some stored =>
          rw [hget] at hunreserved hfree
          by_contra hdiffers
          exact hnot ⟨hid, hresource, hkey, hunreserved, hfree, stored, hget,
            fun hsame => hdiffers (hsame ▸ hget)⟩

end Plain

open ReusedKey in
/-- A reservation for a new operation is attached to a stored deletion that has
failed. -/
theorem plain_acceptance_attaches_to_stored_operation :
    let stored : OperationRecord := { deletion "op" with state := .failed }
    let t : OperationTables :=
      { OperationTables.empty with
        resources := Table.ofList [server]
        operations := Table.ofList [stored] }
    let result :=
      atomically (createOrReplayIdempotentOperationBody (deletion "op") (request "one" "op")) t
    result.1 = .ok (.created "op") ∧ result.2.operations.get? "op" = some stored ∧
      stored ≠ deletion "op" := by
  decide

end Operations
end O3k
