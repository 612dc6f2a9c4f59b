import Mathlib.Data.Prod.Lex
import Mathlib.Data.String.Basic
import O3k.Quota.Consumption
import O3k.Relational.Transaction

/-!
# The quota store

Limits and reservations, and the SQLite repository over them: `reserveQuota`
runs `reserveQuotaInner` in a `BEGIN IMMEDIATE` transaction, committing and
releasing a reservation are single statements.  A reservation and its amounts
are written together and its amounts never change, so they are one row here;
`amountsMatch` compares them up to order.

A new reservation takes its id and its time of creation from the caller.
-/

namespace O3k
namespace Quota

open Relational Relational.Transaction

/-- A row of `quota_limits`; a missing `limit_value` is no ceiling. -/
structure QuotaLimitRow where
  scope : OwnershipScope
  limitKey : LimitKey
  limitValue : LimitValue
  generation : Nat
  deriving DecidableEq

/-- The primary key `(scope_id, scope_kind, namespace, resource)`. -/
def limitRowKey (scope : OwnershipScope) (key : LimitKey) : String ×ₗ String ×ₗ String ×ₗ String :=
  toLex (scope.id, toLex (scope.kind.asStr, toLex (key.ns, key.resource)))

def QuotaLimitRow.key (row : QuotaLimitRow) : String ×ₗ String ×ₗ String ×ₗ String :=
  limitRowKey row.scope row.limitKey

@[ext] structure QuotaStore where
  limits : Table QuotaLimitRow.key
  reservations : Table Reservation.id
  resources : ResourceTables
  deriving DecidableEq

/-- What a reserve call asks for, and what its new reservation would carry. -/
structure ReserveRequest where
  scope : OwnershipScope
  operationId : String
  amounts : List ResourceAmount
  reservationId : String
  createdAt : String
  deriving DecidableEq

variable (request : ReserveRequest)

/-- `Reservation::new`. -/
def ReserveRequest.reservation : Reservation where
  id := request.reservationId
  scope := request.scope
  operationId := request.operationId
  amounts := request.amounts
  state := .pending
  createdAt := request.createdAt

def amountsMatch (a b : List ResourceAmount) : Bool := a.isPerm b

namespace QuotaStore

/-- `query_limit_in_tx` of a known key. -/
def queryLimit (s : QuotaStore) (scope : OwnershipScope) (key : LimitKey) : LimitValue :=
  ((s.limits.get? (limitRowKey scope key)).map QuotaLimitRow.limitValue).getD .unlimited

end QuotaStore

/-- What a reservation adds to the reserved amount of a key in a scope. -/
def pendingAmount (scope : OwnershipScope) (key : LimitKey) (r : Reservation) : Nat :=
  if r.scope = scope ∧ r.state = .pending then amountOf r.amounts key else 0

/-- `u64::MAX`. -/
def u64Max : Nat := 18446744073709551615

/-- `u64::checked_add`. -/
def checkedAdd (a b : Nat) (e : StoreError) : Except StoreError Nat :=
  if a + b ≤ u64Max then .ok (a + b) else .error e

/-- Step 0 of `reserve_quota_inner`: known keys, amounts that fit the column, no
key twice. -/
def validateAmounts : List LimitKey → List ResourceAmount → Except StoreError Unit
  | _, [] => .ok ()
  | seen, req :: rest =>
    if !req.key.isKnown then
      .error
        (.corrupt
          ("unknown or unregistered limit key '" ++ req.key.text ++ "' in reservation request"))
    else if integerMax < req.amount then
      .error
        (.corrupt
          ("reservation amount " ++ toString req.amount ++ " for '" ++ req.key.text ++
            "' exceeds maximum supported signed 64-bit integer"))
    else if req.key ∈ seen then
      .error
        (.corrupt ("duplicate limit key '" ++ req.key.text ++ "' in reservation request"))
    else
      validateAmounts (req.key :: seen) rest

/-- The sum of what is used and what is requested, within the limit. -/
def evaluateLimit (req : ResourceAmount) (max inUse reserved : Nat) : Except StoreError Unit := do
  let used ←
    checkedAdd inUse reserved
      (.corrupt ("quota usage overflow for '" ++ req.key.text ++ "' in durable storage"))
  let total ←
    checkedAdd used req.amount
      (.corrupt ("quota usage overflow for '" ++ req.key.text ++ "' in reservation"))
  if total ≤ max then
    .ok ()
  else
    .error (.quotaExceeded req.key (.maximum max) used req.amount)

namespace QuotaStore

def queryReservedUsage
    (s : QuotaStore) (scope : OwnershipScope) (key : LimitKey) (excludeOp : Option String) :
    Except StoreError Nat :=
  let reserved :=
    s.reservations.sumBy fun r =>
      if excludeOp = some r.operationId then 0 else pendingAmount scope key r
  if reserved ≤ integerMax then .ok reserved else .error (.database .valueOutOfRange)

/-- `query_reservation_by_op`; the operation id is unique. -/
def queryReservationByOp (s : QuotaStore) (operationId : String) : Option Reservation :=
  s.reservations.rows.find? fun r => r.operationId = operationId

/-- `INSERT INTO quota_reservations`. -/
def insertReservation? (s : QuotaStore) (r : Reservation) : Option QuotaStore :=
  if (s.queryReservationByOp r.operationId).isSome then
    none
  else
    (s.reservations.insert? r).map fun reservations =>
      { s with reservations := reservations }

/-- Step 2 of `reserve_quota_inner`, for one dimension. -/
def checkHeadroom (s : QuotaStore) (scope : OwnershipScope) (req : ResourceAmount) :
    Except StoreError Unit :=
  match s.queryLimit scope req.key with
  | .unlimited => .ok ()
  | .maximum max => do
    let inUse ← s.resources.queryInUseUsage scope req.key
    let reserved ← s.queryReservedUsage scope req.key none
    evaluateLimit req max inUse reserved

end QuotaStore

/-- What SQLite answers when the operation has a reservation already. -/
def replayReservation (existing : Reservation) (request : ReserveRequest) :
    Except StoreError Reservation :=
  if existing.state = .released then
    .error
      (.reservationConflict
        ("operation '" ++ request.operationId ++
          "' has already been released and cannot be re-reserved"))
  else if existing.scope.id = request.scope.id ∧
      existing.scope.kind = request.scope.kind ∧
      amountsMatch existing.amounts request.amounts then
    .ok existing
  else
    .error (.reservationConflict request.operationId)

abbrev QuotaBody (α : Type) := Transaction QuotaStore StoreError α

def reserveQuotaInner : QuotaBody Reservation := do
  fromExcept (validateAmounts [] request.amounts)
  let s ← get
  match s.queryReservationByOp request.operationId with
  | some existing => fromExcept (replayReservation existing request)
  | none =>
    forEach
      (fun req => fromExcept (s.checkHeadroom request.scope req))
      request.amounts
    let s' ←
      orFail (s.insertReservation? request.reservation) (.database .uniqueViolation)
    set s'
    pure request.reservation

/-- `reserve_quota` of SQLite. -/
def reserveQuota : QuotaStore → Except StoreError Reservation × QuotaStore :=
  atomically (reserveQuotaInner request)

namespace QuotaStore

variable (s : QuotaStore)

/-- `UPDATE quota_reservations SET state = ? WHERE id = ?`. -/
def setState (r : Reservation) (state : ReservationState) : QuotaStore :=
  { s with reservations := s.reservations.put { r with state := state } }

def commitReservation (id : String) : Except StoreError Unit × QuotaStore :=
  match s.reservations.get? id with
  | none => (.error .reservationNotFound, s)
  | some r => (.ok (), if r.state = .pending then s.setState r .committed else s)

def releaseReservation (id : String) : Except StoreError Unit × QuotaStore :=
  match s.reservations.get? id with
  | none => (.error .reservationNotFound, s)
  | some r => (.ok (), if r.state ≠ .released then s.setState r .released else s)

def releaseReservationForOperation (operationId : String) : Except StoreError Unit × QuotaStore :=
  match s.queryReservationByOp operationId with
  | none => (.ok (), s)
  | some r => (.ok (), if r.state ≠ .released then s.setState r .released else s)

/-- `INSERT INTO quota_limits … ON CONFLICT … DO UPDATE`. -/
def upsertLimit (scope : OwnershipScope) (key : LimitKey) (limit : LimitValue) : QuotaStore :=
  let generation := ((s.limits.get? (limitRowKey scope key)).map QuotaLimitRow.generation).getD 0
  { s with limits := s.limits.put ⟨scope, key, limit, generation + 1⟩ }

def setLimit (scope : OwnershipScope) (key : LimitKey) (limit : LimitValue) :
    Except StoreError Unit × QuotaStore :=
  if !key.isKnown then
    (.error (.corrupt ("unknown or unregistered limit key '" ++ key.text ++ "'")), s)
  else
    match limit with
    | .unlimited => (.ok (), s.upsertLimit scope key limit)
    | .maximum max =>
      if integerMax < max then
        (.error
          (.corrupt
            ("limit maximum " ++ toString max ++ " for '" ++ key.text ++
              "' exceeds maximum supported signed 64-bit integer")),
          s)
      else
        (.ok (), s.upsertLimit scope key limit)

end QuotaStore

/-!
# Reserving on PostgreSQL

Each statement of `reserve_quota` sees what is committed when it runs.  A
`PgReserve` is such a transaction between two statements, and `statement` runs
the next one; the advisory lock of the scope is held from `beginReserve` until
the transaction is over.
-/

/-- Where the transaction stands. -/
inductive PgReservePhase
  /-- Before the lookup of a reservation of the operation. -/
  | lookup
  /-- Before the limit of the next dimension, or before the insert. -/
  | evaluate (rest : List ResourceAmount)
  /-- The limit is read; the usage query comes next. -/
  | inUse (req : ResourceAmount) (rest : List ResourceAmount) (max : Nat)
  /-- The usage query is answered; the reserved amounts come next. -/
  | reserved (req : ResourceAmount) (rest : List ResourceAmount) (max inUse : Nat)
  deriving DecidableEq

structure PgReserve where
  request : ReserveRequest
  phase : PgReservePhase
  deriving DecidableEq

/-- What a statement leaves: an open transaction, or an answer and the store. -/
inductive PgOutcome
  | next (tx : PgReserve)
  | finished (reply : Except StoreError Reservation) (store : QuotaStore)

/-- The check of the keys, and the advisory lock. -/
def beginReserve : Except StoreError PgReserve :=
  match request.amounts.find? fun amount => !amount.key.isKnown with
  | some amount =>
    .error (.corrupt ("unknown or unregistered limit key '" ++ amount.key.text ++ "'"))
  | none => .ok ⟨request, .lookup⟩

/-- What PostgreSQL answers when the operation has a reservation already. -/
def replayPgReservation (existing : Reservation) (request : ReserveRequest) :
    Except StoreError Reservation :=
  if existing.state = .released then
    .error
      (.reservationConflict
        ("operation '" ++ request.operationId ++
          "' has already been released and cannot be re-reserved"))
  else if amountsMatch existing.amounts request.amounts then
    .ok { existing with scope := request.scope }
  else
    .error (.reservationConflict request.operationId)

/-- `INSERT INTO quota_reservation_amounts`, one amount after the other. -/
def insertPgAmounts : List LimitKey → List ResourceAmount → Except StoreError Unit
  | _, [] => .ok ()
  | seen, amount :: rest =>
    if integerMax < amount.amount then
      .error
        (.corrupt
          ("reservation amount " ++ toString amount.amount ++ " for '" ++ amount.key.text ++
            "' exceeds maximum supported signed 64-bit integer"))
    else if amount.key ∈ seen then
      .error (.database .uniqueViolation)
    else
      insertPgAmounts (amount.key :: seen) rest

def insertPgReservation : QuotaBody Reservation := do
  let s ← get
  let s' ← orFail (s.insertReservation? request.reservation) (.database .uniqueViolation)
  fromExcept (insertPgAmounts [] request.amounts)
  set s'
  pure request.reservation

def PgReserve.statement (tx : PgReserve) (s : QuotaStore) : PgOutcome :=
  match tx.phase with
  | .lookup =>
    match s.queryReservationByOp tx.request.operationId with
    | some existing => .finished (replayPgReservation existing tx.request) s
    | none => .next { tx with phase := .evaluate tx.request.amounts }
  | .evaluate [] =>
    let (reply, s') := atomically (insertPgReservation tx.request) s
    .finished reply s'
  | .evaluate (req :: rest) =>
    match s.queryLimit tx.request.scope req.key with
    | .unlimited => .next { tx with phase := .evaluate rest }
    | .maximum max => .next { tx with phase := .inUse req rest max }
  | .inUse req rest max =>
    match s.resources.queryInUseUsage tx.request.scope req.key with
    | .ok inUse => .next { tx with phase := .reserved req rest max inUse }
    | .error e => .finished (.error e) s
  | .reserved req rest max inUse =>
    match s.queryReservedUsage tx.request.scope req.key (some tx.request.operationId) with
    | .ok reserved =>
      match evaluateLimit req max inUse reserved with
      | .ok () => .next { tx with phase := .evaluate rest }
      | .error e => .finished (.error e) s
    | .error e => .finished (.error e) s

end Quota
end O3k
