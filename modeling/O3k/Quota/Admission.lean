import O3k.Quota.Effects
import O3k.Semantics.Run

/-!
# Quota admission under interleaving

Any number of clients reserve, create the row behind a reservation, commit it
or release it, in any order; somebody else may raise limits.  On SQLite a
reserve is one transaction that excludes every other writer.  On PostgreSQL it
is a sequence of statements between which everybody else may act, except that
the advisory lock leaves one reserve at a time in a scope.

The machine keeps, beside the store, what no table holds: the reservations
whose row exists, the answers the clients have, and the limit that stood when
a dimension was last admitted.  A reservation whose row exists is counted as
that row and no longer as a reservation.
-/

namespace O3k
namespace Quota

open Relational Semantics

inductive Backend
  | sqlite
  | postgres
  deriving DecidableEq

/-- An open reserve of a scope, with the reservations whose row existed when it
last asked for the usage. -/
structure Reserving where
  tx : PgReserve
  seen : List String
  deriving DecidableEq

structure AdmissionState where
  store : QuotaStore
  reserving : OwnershipScope → Option Reserving
  backed : List String
  grants : List Reservation
  lastLimit : OwnershipScope → LimitKey → Option LimitValue

/-- What happens next, and who does it. -/
inductive Label
  | reserve (request : ReserveRequest)
  | proceed (scope : OwnershipScope)
  | disconnect (scope : OwnershipScope)
  | createResource (reservationId : String) (resources : ResourceTables)
  | commitReservation (reservationId : String)
  | releaseReservation (reservationId : String)
  | releaseReservationForOperation (operationId : String)
  | setLimit (scope : OwnershipScope) (key : LimitKey) (limit : LimitValue)

/-- What a pending reservation without its row adds to a key of a scope. -/
def outstandingAmount
    (backed : List String) (scope : OwnershipScope) (key : LimitKey) (r : Reservation) :
    Nat :=
  if r.id ∈ backed then 0 else pendingAmount scope key r

namespace AdmissionState

/-- Before any call: no reservation, whatever is consumed. -/
def initial (store : QuotaStore) : AdmissionState where
  store := store
  reserving := fun _ => none
  backed := []
  grants := []
  lastLimit := fun _ _ => none

variable (st : AdmissionState)

def consumed (scope : OwnershipScope) (key : LimitKey) : Nat :=
  st.store.resources.consumed scope key

def outstanding (scope : OwnershipScope) (key : LimitKey) : Nat :=
  st.store.reservations.sumBy (outstandingAmount st.backed scope key)

/-- What is consumed or outstanding, each reservation counted once. -/
def load (scope : OwnershipScope) (key : LimitKey) : Nat :=
  st.consumed scope key + st.outstanding scope key

/-- **No over-allocation**: what is consumed or outstanding is within the limit
that stood when the key was last admitted in the scope. -/
def WithinLastLimit : Prop :=
  ∀ scope key limit,
    st.lastLimit scope key = some limit →
    limit.Allows (st.load scope key)

def answered (reply : Except StoreError Reservation) (store : QuotaStore) : AdmissionState :=
  match reply with
  | .error _ => { st with store := store }
  | .ok r =>
    { st with
      store := store
      grants := r :: st.grants
      lastLimit := fun scope key =>
        if st.store.reservations.get? r.id = none ∧ scope = r.scope ∧
            key ∈ r.amounts.map ResourceAmount.key then
          some (st.store.queryLimit scope key)
        else
          st.lastLimit scope key }

/-- Take or give back the advisory lock of a scope. -/
def setReserving (scope : OwnershipScope) (reserving : Option Reserving) : AdmissionState :=
  { st with reserving := Function.update st.reserving scope reserving }

def proceed (scope : OwnershipScope) : AdmissionState :=
  match st.reserving scope with
  | none => st
  | some r =>
    match r.tx.statement st.store with
    | .next tx =>
      let seen :=
        match r.tx.phase with
        | .inUse .. => st.backed
        | _ => r.seen
      st.setReserving scope (some ⟨tx, seen⟩)
    | .finished reply store => (st.answered reply store).setReserving scope none

end AdmissionState

open AdmissionState

def step (backend : Backend) (st : AdmissionState) : Label → AdmissionState
  | .reserve request =>
    match backend with
    | .sqlite =>
      let (reply, store) := reserveQuota request st.store
      st.answered reply store
    | .postgres =>
      -- a second reserve of the scope waits for the lock
      match beginReserve request, st.reserving request.scope with
      | .ok tx, none => st.setReserving request.scope (some ⟨tx, []⟩)
      | _, _ => st
  | .proceed scope => st.proceed scope
  | .disconnect scope => st.setReserving scope none
  | .createResource reservationId resources =>
    { st with
      store := { st.store with resources := resources }
      backed := reservationId :: st.backed }
  | .commitReservation reservationId =>
    { st with store := (st.store.commitReservation reservationId).2 }
  | .releaseReservation reservationId =>
    { st with store := (st.store.releaseReservation reservationId).2 }
  | .releaseReservationForOperation operationId =>
    { st with store := (st.store.releaseReservationForOperation operationId).2 }
  | .setLimit scope key limit => { st with store := (st.store.setLimit scope key limit).2 }

/-- What the clients promise: the row of a reservation is created once, by a
client that was granted it, in the scope and within the amounts granted, and not
after its release; it is committed only when its row exists and released only
when not. Limits are not lowered. -/
def ClientRules (st : AdmissionState) : Label → Prop
  | .createResource reservationId resources =>
    ∃ grant ∈ st.grants,
      grant.id = reservationId ∧
      reservationId ∉ st.backed ∧
      (∀ r, st.store.reservations.get? reservationId = some r → r.state ≠ .released) ∧
      ∀ scope key,
        resources.consumed scope key
          ≤
        st.consumed scope key +
          if scope = grant.scope then amountOf grant.amounts key else 0
  | .commitReservation reservationId => reservationId ∈ st.backed
  | .releaseReservation reservationId => reservationId ∉ st.backed
  | .releaseReservationForOperation operationId =>
    ∀ r, st.store.queryReservationByOp operationId = some r → r.id ∉ st.backed
  | .setLimit scope key limit => (st.store.queryLimit scope key).NotAbove limit
  | _ => True

/-- The steps of a PostgreSQL deployment that do no harm: a reservation is not
committed between the two reads of a reserve in its scope when its row was
missing at the first, and an operation is not reserved in a second scope. -/
def ReadsOneInstant (st : AdmissionState) : Label → Prop
  | .commitReservation reservationId =>
    ∀ r reserving req rest max inUse,
      st.store.reservations.get? reservationId = some r →
      r.state = .pending →
      st.reserving r.scope = some reserving →
      reserving.tx.phase = .reserved req rest max inUse →
      amountOf r.amounts req.key ≠ 0 →
      reservationId ∈ reserving.seen
  | .proceed scope =>
    ∀ reserving existing,
      st.reserving scope = some reserving →
      reserving.tx.phase = .lookup →
      st.store.queryReservationByOp reserving.tx.request.operationId = some existing →
      existing.state ≠ .released →
      amountsMatch existing.amounts reserving.tx.request.amounts = true →
      existing.scope = scope
  | _ => True

end Quota
end O3k
