import O3k.Relational.Table
import O3k.Relational.Transaction
import O3k.Semantics.Run
import O3k.Store.Values
import Mathlib.Data.String.Basic

/-!
# Work leases

The two tables of the coordination migration and the four operations of
`CoordinationRepository` that write them.  The SQLite and the PostgreSQL
adapter run the same statements; they differ in how a timestamp is written, so
each operation takes the adapter's `LeaseClock` and the instant at which its
transaction reads the clock.

An instant is a number of clock units (milliseconds for SQLite, microseconds
for PostgreSQL) and a `Duration` is a number of nanoseconds.
-/

namespace O3k
namespace Coordination

open Relational Relational.Transaction

abbrev Time := Int

abbrev Duration := Nat

/-- `(controller_id, controller_epoch)`: one controller session. -/
structure ControllerIdentity where
  controllerId : String
  controllerEpoch : String
  deriving DecidableEq

/-- A row of `work_leases`, and the `WorkLease` read back from it. -/
structure WorkLease where
  workKey : String
  workKind : String
  owner : ControllerIdentity
  fencingToken : Nat
  leaseUntil : Time
  createdAt : Time
  updatedAt : Time
  deriving DecidableEq

namespace WorkLease

/-- The row a first acquisition inserts. -/
def first (workKey workKind : String) (session : ControllerIdentity) (fencingToken : Nat)
    (leaseUntil stamp : Time) :
    WorkLease :=
  ⟨workKey, workKind, session, fencingToken, leaseUntil, stamp, stamp⟩

/-- The row after an update that keeps its owner and its token. -/
def extend (lease : WorkLease) (leaseUntil stamp : Time) : WorkLease :=
  { lease with leaseUntil := leaseUntil, updatedAt := stamp }

/-- The row after another session took the expired lease over. -/
def takeOver (lease : WorkLease) (session : ControllerIdentity) (leaseUntil stamp : Time) :
    WorkLease :=
  { lease with
    owner := session
    fencingToken := lease.fencingToken + 1
    leaseUntil := leaseUntil
    updatedAt := stamp }

end WorkLease

/-- A row of `work_lease_fence_counters`. -/
structure FenceCounter where
  workKey : String
  fencingToken : Nat
  deriving DecidableEq

structure LeaseTables where
  workLeases : Table WorkLease.workKey
  fenceCounters : Table FenceCounter.workKey
  deriving DecidableEq

namespace LeaseTables

def empty : LeaseTables := ⟨∅, ∅⟩

/-- The durable counter of a key, zero before the first lease. -/
def fence (t : LeaseTables) (workKey : String) : Nat :=
  ((t.fenceCounters.get? workKey).map FenceCounter.fencingToken).getD 0

end LeaseTables

/-- How an adapter writes timestamps. -/
structure LeaseClock where
  /-- `now + ttl`; an instant the database cannot represent fails the statement. -/
  leaseUntil : Time → Duration → Except StoreError Time
  /-- The timestamp of `created_at` and `updated_at`. -/
  stamp : Time → Time
  /-- The `lease_until` that relinquishing stores. -/
  relinquished : Time → Time

/-- `sqlite_lease_ttl_modifier`: the duration rounded up to milliseconds. -/
def sqliteLeaseTtlMillis (ttl : Duration) : Nat :=
  let ttlMillis := ttl / 1000000
  let fractionalMillisecond := if ttl % 1000000 = 0 then 0 else 1
  ttlMillis + fractionalMillisecond

def sqliteLastInstant : Time := 253402300799999

/-- `strftime('%Y-%m-%d %H:%M:%f', 'now', …)` keeps milliseconds, `datetime`
keeps seconds, and both yield `NULL` beyond the last instant. -/
def sqliteLeaseClock : LeaseClock where
  leaseUntil now ttl :=
    if now + sqliteLeaseTtlMillis ttl ≤ sqliteLastInstant then
      .ok (now + sqliteLeaseTtlMillis ttl)
    else
      .error (.database .notNullViolation)
  stamp now := now / 1000 * 1000
  relinquished now := (now - 1000) / 1000 * 1000

/-- `NOW() + $n::interval`, for the interval the server reads from the
formatted duration. -/
def postgresLeaseClock (interval : Duration → Option Nat) : LeaseClock where
  leaseUntil now ttl :=
    match interval ttl with
    | some micros => .ok (now + micros)
    | none => .error (.database .valueOutOfRange)
  stamp now := now
  relinquished now := now - 1000000

inductive LeaseAcquireOutcome
  | acquired (lease : WorkLease)
  | busy (owner : ControllerIdentity) (fencingToken : Nat) (leaseCreatedAt : Time)
      (leaseUntil : Time)
  deriving DecidableEq

section Operations

variable (clock : LeaseClock) (now : Time)

/-- `INSERT INTO work_lease_fence_counters … ON CONFLICT DO UPDATE … RETURNING`. -/
def nextFencingToken (workKey : String) : Transaction LeaseTables StoreError Nat := do
  let tables ← get
  let fencingToken := tables.fence workKey + 1
  set { tables with
    fenceCounters := tables.fenceCounters.put ⟨workKey, fencingToken⟩ }
  return fencingToken

/-- Write a lease row back and report it as acquired. -/
def storeLease (lease : WorkLease) : Transaction LeaseTables StoreError LeaseAcquireOutcome := do
  modify fun tables =>
    { tables with workLeases := tables.workLeases.put lease }
  return .acquired lease

def acquireWorkLeaseOnce
    (workKey workKind : String) (session : ControllerIdentity) (ttl : Duration) :
    Transaction LeaseTables StoreError LeaseAcquireOutcome := do
  let tables ← get
  match tables.workLeases.get? workKey with
  | none =>
    let fencingToken ← nextFencingToken workKey
    let leaseUntil ← fromExcept (clock.leaseUntil now ttl)
    storeLease
      (.first workKey workKind session fencingToken leaseUntil (clock.stamp now))
  | some existing =>
    if existing.owner = session ∧ ¬ existing.leaseUntil < now then
      -- the same session re-acquires: renewed without a new token
      let leaseUntil ← fromExcept (clock.leaseUntil now ttl)
      storeLease (existing.extend leaseUntil (clock.stamp now))
    else if existing.leaseUntil < now then
      -- take-over: the token in the row advances, the counter does not
      let leaseUntil ← fromExcept (clock.leaseUntil now ttl)
      storeLease (existing.takeOver session leaseUntil (clock.stamp now))
    else
      return .busy existing.owner existing.fencingToken
        existing.createdAt existing.leaseUntil

/-- The fenced `WHERE` clause: the stored row, if it carries the full triple. -/
def fencedLease
    (tables : LeaseTables) (workKey : String) (session : ControllerIdentity) (fencingToken : Nat) :
    Option WorkLease :=
  (tables.workLeases.get? workKey).filter
    (fun lease => lease.owner = session ∧ lease.fencingToken = fencingToken)

def renewWorkLease
    (workKey : String) (session : ControllerIdentity) (fencingToken : Nat) (ttl : Duration) :
    Transaction LeaseTables StoreError Bool := do
  let tables ← get
  match fencedLease tables workKey session fencingToken with
  | none => return false
  | some lease =>
    if now ≤ lease.leaseUntil then
      let leaseUntil ← fromExcept (clock.leaseUntil now ttl)
      set { tables with
        workLeases := tables.workLeases.put
          (lease.extend leaseUntil (clock.stamp now)) }
      return true
    else
      return false

def releaseWorkLease (workKey : String) (session : ControllerIdentity) (fencingToken : Nat) :
    Transaction LeaseTables StoreError Bool := do
  let tables ← get
  match fencedLease tables workKey session fencingToken with
  | none => return false
  | some _ =>
    set { tables with
      workLeases := tables.workLeases.deleteWhere
        (fun lease => lease.workKey = workKey) }
    return true

def relinquishWorkLeasePreservingFence
    (workKey : String) (session : ControllerIdentity) (fencingToken : Nat) :
    Transaction LeaseTables StoreError Bool := do
  let tables ← get
  match fencedLease tables workKey session fencingToken with
  | none => return false
  | some lease =>
    set { tables with
      workLeases := tables.workLeases.put
        (lease.extend (clock.relinquished now) (clock.stamp now)) }
    return true

end Operations

structure LeaseWorld where
  tables : LeaseTables
  now : Time
  deriving DecidableEq

inductive LeaseStep
  | advance (elapsed : Nat)
  | acquire (workKey workKind : String) (session : ControllerIdentity) (ttl : Duration)
  | renew (workKey : String) (session : ControllerIdentity) (fencingToken : Nat) (ttl : Duration)
  | release (workKey : String) (session : ControllerIdentity) (fencingToken : Nat)
  | relinquish (workKey : String) (session : ControllerIdentity) (fencingToken : Nat)
  deriving DecidableEq

inductive LeaseReply
  | elapsed
  | acquired (result : Except StoreError LeaseAcquireOutcome)
  | fenced (result : Except StoreError Bool)
  deriving DecidableEq

/-- The key a call is about. -/
def LeaseStep.workKey? : LeaseStep → Option String
  | .advance _ => none
  | .acquire workKey _ _ _ => some workKey
  | .renew workKey _ _ _ => some workKey
  | .release workKey _ _ => some workKey
  | .relinquish workKey _ _ => some workKey

namespace LeaseWorld

/-- No lease was ever taken; the clock shows any instant. -/
def initial (now : Time) : LeaseWorld := ⟨LeaseTables.empty, now⟩

/-- One call, made as one transaction at the current instant, or time passing. -/
def exec (clock : LeaseClock) (w : LeaseWorld) :
    LeaseStep → LeaseReply × LeaseWorld
  | .advance elapsed => (.elapsed, { w with now := w.now + elapsed })
  | .acquire workKey workKind session ttl =>
    let (result, tables) :=
      atomically
        (acquireWorkLeaseOnce clock w.now workKey workKind session ttl)
        w.tables
    (.acquired result, { w with tables := tables })
  | .renew workKey session fencingToken ttl =>
    let (result, tables) :=
      atomically
        (renewWorkLease clock w.now workKey session fencingToken ttl)
        w.tables
    (.fenced result, { w with tables := tables })
  | .release workKey session fencingToken =>
    let (result, tables) :=
      atomically
        (releaseWorkLease workKey session fencingToken)
        w.tables
    (.fenced result, { w with tables := tables })
  | .relinquish workKey session fencingToken =>
    let (result, tables) :=
      atomically
        (relinquishWorkLeasePreservingFence clock w.now workKey session fencingToken)
        w.tables
    (.fenced result, { w with tables := tables })

def reply (clock : LeaseClock) (w : LeaseWorld) (s : LeaseStep) : LeaseReply := (w.exec clock s).1

def step (clock : LeaseClock) (w : LeaseWorld) (s : LeaseStep) : LeaseWorld := (w.exec clock s).2

end LeaseWorld

/-- The row and the durable counter of one key. -/
structure KeyState where
  row : Option WorkLease
  fence : Nat
  deriving DecidableEq

def LeaseTables.keyState (t : LeaseTables) (workKey : String) : KeyState :=
  ⟨t.workLeases.get? workKey, t.fence workKey⟩

/-- Everything one call can do to one key, with what it reports: the lease
protocol, free of tables and transactions. -/
inductive KeyChange (now : Time) (workKey : String) :
    LeaseStep → LeaseReply → KeyState → KeyState → Prop
  /-- Time passes, or the call is about another key. -/
  | elsewhere {s : LeaseStep} (reply : LeaseReply) (k : KeyState)
      (hkey : s.workKey? ≠ some workKey) :
      KeyChange now workKey s reply k k
  /-- The new lease ends at an instant the database cannot represent. -/
  | rejected {s : LeaseStep} {reply : LeaseReply} (e : StoreError) (k : KeyState)
      (hreply : reply = .acquired (.error e) ∨ reply = .fenced (.error e)) :
      KeyChange now workKey s reply k k
  | inserted {workKind : String} {session : ControllerIdentity} {ttl : Duration} (lease : WorkLease)
      (fence : Nat) (howner : lease.owner = session) (htoken : lease.fencingToken = fence + 1) :
      KeyChange now workKey
        (.acquire workKey workKind session ttl)
        (.acquired (.ok (.acquired lease)))
        ⟨none, fence⟩
        ⟨some lease, fence + 1⟩
  | reacquired {workKind : String} {session : ControllerIdentity} {ttl : Duration}
      (existing lease : WorkLease) (fence : Nat) (hlive : now ≤ existing.leaseUntil)
      (hexisting : existing.owner = session) (howner : lease.owner = session)
      (htoken : lease.fencingToken = existing.fencingToken) :
      KeyChange now workKey
        (.acquire workKey workKind session ttl)
        (.acquired (.ok (.acquired lease)))
        ⟨some existing, fence⟩
        ⟨some lease, fence⟩
  | takenOver {workKind : String} {session : ControllerIdentity} {ttl : Duration}
      (existing lease : WorkLease) (fence : Nat) (hexpired : existing.leaseUntil < now)
      (howner : lease.owner = session) (htoken : lease.fencingToken = existing.fencingToken + 1) :
      KeyChange now workKey
        (.acquire workKey workKind session ttl)
        (.acquired (.ok (.acquired lease)))
        ⟨some existing, fence⟩
        ⟨some lease, fence⟩
  | busy {workKind : String} {session : ControllerIdentity} {ttl : Duration} (existing : WorkLease)
      (fence : Nat) (hlive : now ≤ existing.leaseUntil) (hother : existing.owner ≠ session) :
      KeyChange now workKey
        (.acquire workKey workKind session ttl)
        (.acquired (.ok (.busy existing.owner existing.fencingToken
          existing.createdAt existing.leaseUntil)))
        ⟨some existing, fence⟩
        ⟨some existing, fence⟩
  | renewed {ttl : Duration} (existing lease : WorkLease) (fence : Nat)
      (hlive : now ≤ existing.leaseUntil) (howner : lease.owner = existing.owner)
      (htoken : lease.fencingToken = existing.fencingToken) :
      KeyChange now workKey
        (.renew workKey existing.owner existing.fencingToken ttl)
        (.fenced (.ok true))
        ⟨some existing, fence⟩
        ⟨some lease, fence⟩
  | released (existing : WorkLease) (fence : Nat) :
      KeyChange now workKey
        (.release workKey existing.owner existing.fencingToken)
        (.fenced (.ok true))
        ⟨some existing, fence⟩
        ⟨none, fence⟩
  | relinquished (existing lease : WorkLease) (fence : Nat) (howner : lease.owner = existing.owner)
      (htoken : lease.fencingToken = existing.fencingToken) :
      KeyChange now workKey
        (.relinquish workKey existing.owner existing.fencingToken)
        (.fenced (.ok true))
        ⟨some existing, fence⟩
        ⟨some lease, fence⟩
  /-- The triple is not the stored one, or a renewal came too late. -/
  | refused {s : LeaseStep} (k : KeyState) :
      KeyChange now workKey s (.fenced (.ok false)) k k

theorem KeyChange.eq_of_elsewhere {now : Time} {workKey : String} {s : LeaseStep}
    {reply : LeaseReply} {k k' : KeyState} (h : KeyChange now workKey s reply k k')
    (hkey : s.workKey? ≠ some workKey) :
    k' = k := by
  cases h with
  | elsewhere | rejected | refused => rfl
  | inserted | reacquired | takenOver | busy | renewed | released | relinquished =>
    exact absurd rfl hkey

namespace LeaseTables

variable (t : LeaseTables)

theorem keyState_put (lease : WorkLease) (workKey key : String) (hlease : lease.workKey = workKey) :
    (⟨t.workLeases.put lease, t.fenceCounters⟩ : LeaseTables).keyState key = if workKey = key then
      ⟨some lease, t.fence workKey⟩
    else
      t.keyState key := by
  by_cases hkey : workKey = key
  · simp [keyState, fence, Table.get?_put, hlease, hkey]
  · simp [keyState, fence, Table.get?_put, hlease, hkey]

theorem keyState_delete (workKey key : String) :
    (⟨t.workLeases.deleteWhere (fun lease => lease.workKey = workKey),
        t.fenceCounters⟩ : LeaseTables).keyState key
      =
    if workKey = key then
      ⟨none, t.fence workKey⟩
    else
      t.keyState key := by
  by_cases hkey : workKey = key
  · subst hkey
    cases hrow : t.workLeases.get? workKey with
    | none => simp [keyState, fence, Table.get?_deleteWhere, hrow]
    | some lease =>
      have hlease : lease.workKey = workKey := t.workLeases.key_of_get? hrow
      simp [keyState, fence, Table.get?_deleteWhere, hrow, hlease]
  · cases hrow : t.workLeases.get? key with
    | none => simp [keyState, fence, Table.get?_deleteWhere, hrow, hkey]
    | some lease =>
      have hlease : lease.workKey = key := t.workLeases.key_of_get? hrow
      simp [keyState, fence, Table.get?_deleteWhere, hrow, hlease, hkey, Ne.symm hkey]

theorem keyState_insert
    (lease : WorkLease) (workKey key : String) (n : Nat) (hlease : lease.workKey = workKey) :
    (⟨t.workLeases.put lease, t.fenceCounters.put ⟨workKey, n⟩⟩ : LeaseTables).keyState key =
    if workKey = key then
      ⟨some lease, n⟩
    else
      t.keyState key := by
  by_cases hkey : workKey = key
  · simp [keyState, fence, Table.get?_put, hlease, hkey]
  · simp [keyState, fence, Table.get?_put, hlease, hkey]

end LeaseTables

theorem fencedLease_eq_some_iff {t : LeaseTables} {workKey : String} {session : ControllerIdentity}
    {fencingToken : Nat} {lease : WorkLease} :
    fencedLease t workKey session fencingToken = some lease ↔
    t.workLeases.get? workKey = some lease ∧ lease.owner = session ∧
      lease.fencingToken = fencingToken := by
  simp [fencedLease, Option.filter_eq_some_iff]

section Refinement

variable (clock : LeaseClock) (now : Time) (t : LeaseTables) (key : String)

variable {workKey : String}

theorem KeyChange.at_key {now : Time} {t : LeaseTables} {s : LeaseStep} {reply : LeaseReply}
    {k' : KeyState} (hs : s.workKey? = some workKey)
    (h : KeyChange now workKey s reply (t.keyState workKey) k') :
    KeyChange now key s reply (t.keyState key)
      (if workKey = key then k' else t.keyState key) := by
  by_cases hkey : workKey = key
  · subst hkey
    simpa using h
  · have hother : s.workKey? ≠ some key := by
      rw [hs]
      simpa using hkey
    simpa [hkey] using KeyChange.elsewhere reply (t.keyState key) hother

theorem KeyChange.at_key_of_same {now : Time} {t : LeaseTables} {s : LeaseStep} {reply : LeaseReply}
    (hs : s.workKey? = some workKey)
    (h : KeyChange now workKey s reply (t.keyState workKey) (t.keyState workKey)) :
    KeyChange now key s reply (t.keyState key) (t.keyState key) := by
  have hchange := h.at_key key hs
  by_cases hkey : workKey = key
  · subst hkey
    exact h
  · simpa [hkey] using hchange

theorem keyState_of_row {row : Option WorkLease} (hrow : t.workLeases.get? workKey = row) :
    t.keyState workKey = ⟨row, t.fence workKey⟩ := by
  rw [← hrow]
  rfl

section Acquire

variable {clock now t}
variable
  {workKey : String}
  (workKind : String)
  (session : ControllerIdentity)
  {ttl : Duration}

theorem acquire_failed {e : StoreError} (huntil : clock.leaseUntil now ttl = .error e)
    (hbusy :
      ∀ lease, t.workLeases.get? workKey = some lease →
        lease.owner = session ∨ lease.leaseUntil < now) :
    atomically (acquireWorkLeaseOnce clock now workKey workKind session ttl) t = (.error e, t) := by
  apply atomically_of_error
  cases hrow : t.workLeases.get? workKey with
  | none => simp [acquireWorkLeaseOnce, nextFencingToken, hrow, huntil]
  | some existing =>
    by_cases hexpired : existing.leaseUntil < now
    · have hnot : ¬ now ≤ existing.leaseUntil := Int.not_le.mpr hexpired
      simp [acquireWorkLeaseOnce, hrow, huntil, hexpired, hnot]
    · have hlive : now ≤ existing.leaseUntil := Int.not_lt.mp hexpired
      have howner := (hbusy existing hrow).resolve_right hexpired
      simp [acquireWorkLeaseOnce, hrow, huntil, hlive, howner]

variable {leaseUntil : Time}

theorem acquire_absent
    (huntil : clock.leaseUntil now ttl = .ok leaseUntil) (hrow : t.workLeases.get? workKey = none) :
    let fencingToken := t.fence workKey + 1
    let lease :=
      WorkLease.first workKey workKind session fencingToken leaseUntil
        (clock.stamp now)
    atomically (acquireWorkLeaseOnce clock now workKey workKind session ttl) t
      =
    (.ok (.acquired lease),
      ⟨t.workLeases.put lease, t.fenceCounters.put ⟨workKey, fencingToken⟩⟩) := by
  apply atomically_of_ok
  simp [acquireWorkLeaseOnce, nextFencingToken, storeLease, hrow, huntil]

variable {existing : WorkLease}

theorem acquire_own (huntil : clock.leaseUntil now ttl = .ok leaseUntil)
    (hrow : t.workLeases.get? workKey = some existing) (hlive : now ≤ existing.leaseUntil)
    (howner : existing.owner = session) :
    let lease := existing.extend leaseUntil (clock.stamp now)
    atomically (acquireWorkLeaseOnce clock now workKey workKind session ttl) t
      =
    (.ok (.acquired lease), ⟨t.workLeases.put lease, t.fenceCounters⟩) := by
  apply atomically_of_ok
  simp [acquireWorkLeaseOnce, storeLease, hrow, huntil, hlive, howner]

theorem acquire_expired (huntil : clock.leaseUntil now ttl = .ok leaseUntil)
    (hrow : t.workLeases.get? workKey = some existing) (hexpired : existing.leaseUntil < now) :
    let lease := existing.takeOver session leaseUntil (clock.stamp now)
    atomically (acquireWorkLeaseOnce clock now workKey workKind session ttl) t
      =
    (.ok (.acquired lease), ⟨t.workLeases.put lease, t.fenceCounters⟩) := by
  have hnot : ¬ now ≤ existing.leaseUntil := Int.not_le.mpr hexpired
  apply atomically_of_ok
  simp [acquireWorkLeaseOnce, storeLease, hrow, huntil, hexpired, hnot]

theorem acquire_busy
    (hrow : t.workLeases.get? workKey = some existing) (hlive : now ≤ existing.leaseUntil)
    (hother : existing.owner ≠ session) :
    atomically (acquireWorkLeaseOnce clock now workKey workKind session ttl) t =
    (.ok (.busy existing.owner existing.fencingToken existing.createdAt
      existing.leaseUntil), t) := by
  have hnot : ¬ existing.leaseUntil < now := Int.not_lt.mpr hlive
  apply atomically_of_ok
  simp [acquireWorkLeaseOnce, hrow, hother, hnot]

end Acquire

theorem keyChange_acquire
    (workKey workKind : String) (session : ControllerIdentity) (ttl : Duration) :
    let call := acquireWorkLeaseOnce clock now workKey workKind session ttl
    KeyChange now key
      (.acquire workKey workKind session ttl)
      (.acquired (atomically call t).1)
      (t.keyState key)
      ((atomically call t).2.keyState key) := by
  intro call
  by_cases hbusy :
      ∃ lease, t.workLeases.get? workKey = some lease ∧
        lease.owner ≠ session ∧ now ≤ lease.leaseUntil
  · obtain ⟨existing, hrow, hother, hlive⟩ := hbusy
    have hchange :
        KeyChange now workKey (.acquire workKey workKind session ttl) _ _ _ :=
      KeyChange.busy existing (t.fence workKey) hlive hother
    rw [← keyState_of_row t hrow] at hchange
    rw [acquire_busy workKind session hrow hlive hother]
    exact hchange.at_key_of_same key rfl
  cases huntil : clock.leaseUntil now ttl with
  | error e =>
    have hfree :
        ∀ lease, t.workLeases.get? workKey = some lease →
          lease.owner = session ∨ lease.leaseUntil < now := by
      intro lease hrow
      by_contra hnot
      push Not at hnot
      exact hbusy ⟨lease, hrow, hnot⟩
    rw [acquire_failed workKind session huntil hfree]
    exact KeyChange.rejected e _ (Or.inl rfl)
  | ok leaseUntil =>
    cases hrow : t.workLeases.get? workKey with
    | none =>
      rw [acquire_absent workKind session huntil hrow, t.keyState_insert _ workKey key _ rfl]
      refine KeyChange.at_key key rfl ?_
      rw [keyState_of_row t hrow]
      exact KeyChange.inserted _ _ rfl rfl
    | some existing =>
      have hkey : existing.workKey = workKey := t.workLeases.key_of_get? hrow
      by_cases hexpired : existing.leaseUntil < now
      · rw [acquire_expired workKind session huntil hrow hexpired,
          t.keyState_put
            (existing.takeOver session leaseUntil (clock.stamp now)) workKey key hkey]
        refine KeyChange.at_key key rfl ?_
        rw [keyState_of_row t hrow]
        exact KeyChange.takenOver existing _ _ hexpired rfl rfl
      · have hlive : now ≤ existing.leaseUntil := Int.not_lt.mp hexpired
        have howner : existing.owner = session := by
          by_contra hother
          exact hbusy ⟨existing, hrow, hother, hlive⟩
        rw [acquire_own workKind session huntil hrow hlive howner,
          t.keyState_put (existing.extend leaseUntil (clock.stamp now)) workKey key hkey]
        refine KeyChange.at_key key rfl ?_
        rw [keyState_of_row t hrow]
        exact KeyChange.reacquired existing _ _ hlive howner howner rfl

theorem keyChange_renew
    (workKey : String) (session : ControllerIdentity) (fencingToken : Nat) (ttl : Duration) :
    let call := renewWorkLease clock now workKey session fencingToken ttl
    KeyChange now key
      (.renew workKey session fencingToken ttl)
      (.fenced (atomically call t).1)
      (t.keyState key)
      ((atomically call t).2.keyState key) := by
  intro call
  cases hlease : fencedLease t workKey session fencingToken with
  | none =>
    have hrun : atomically call t = (.ok false, t) :=
      atomically_of_ok (by simp [call, renewWorkLease, hlease])
    rw [hrun]
    exact KeyChange.refused _
  | some lease =>
    obtain ⟨hrow, rfl, rfl⟩ := fencedLease_eq_some_iff.mp hlease
    have hkey : lease.workKey = workKey := t.workLeases.key_of_get? hrow
    by_cases hlive : now ≤ lease.leaseUntil
    · cases huntil : clock.leaseUntil now ttl with
      | error e =>
        have hrun : atomically call t = (.error e, t) :=
          atomically_of_error
            (by simp [call, renewWorkLease, hlease, hlive, huntil])
        rw [hrun]
        exact KeyChange.rejected e _ (Or.inr rfl)
      | ok leaseUntil =>
        have hrun :
            atomically call t = (.ok true,
              ⟨t.workLeases.put (lease.extend leaseUntil (clock.stamp now)), t.fenceCounters⟩) :=
          atomically_of_ok
            (by simp [call, renewWorkLease, hlease, hlive, huntil])
        rw [hrun, t.keyState_put (lease.extend leaseUntil (clock.stamp now)) workKey key hkey]
        refine KeyChange.at_key key rfl ?_
        rw [keyState_of_row t hrow]
        exact KeyChange.renewed lease _ _ hlive rfl rfl
    · have hrun : atomically call t = (.ok false, t) :=
        atomically_of_ok (by simp [call, renewWorkLease, hlease, hlive])
      rw [hrun]
      exact KeyChange.refused _

theorem release_stored {lease : WorkLease} (hrow : t.workLeases.get? workKey = some lease) :
    atomically (releaseWorkLease workKey lease.owner lease.fencingToken) t = (.ok true,
      ⟨t.workLeases.deleteWhere (fun row => row.workKey = workKey), t.fenceCounters⟩) := by
  have hlease := fencedLease_eq_some_iff.mpr ⟨hrow, rfl, rfl⟩
  exact atomically_of_ok (by simp [releaseWorkLease, hlease])

theorem keyChange_release (workKey : String) (session : ControllerIdentity) (fencingToken : Nat) :
    let call := releaseWorkLease workKey session fencingToken
    KeyChange now key
      (.release workKey session fencingToken)
      (.fenced (atomically call t).1)
      (t.keyState key)
      ((atomically call t).2.keyState key) := by
  intro call
  cases hlease : fencedLease t workKey session fencingToken with
  | none =>
    have hrun : atomically call t = (.ok false, t) :=
      atomically_of_ok (by simp [call, releaseWorkLease, hlease])
    rw [hrun]
    exact KeyChange.refused _
  | some lease =>
    obtain ⟨hrow, rfl, rfl⟩ := fencedLease_eq_some_iff.mp hlease
    rw [release_stored t hrow, t.keyState_delete workKey key]
    refine KeyChange.at_key key rfl ?_
    rw [keyState_of_row t hrow]
    exact KeyChange.released lease _

theorem keyChange_relinquish
    (workKey : String) (session : ControllerIdentity) (fencingToken : Nat) :
    let call := relinquishWorkLeasePreservingFence clock now workKey session fencingToken
    KeyChange now key
      (.relinquish workKey session fencingToken)
      (.fenced (atomically call t).1)
      (t.keyState key)
      ((atomically call t).2.keyState key) := by
  intro call
  cases hlease : fencedLease t workKey session fencingToken with
  | none =>
    have hrun : atomically call t = (.ok false, t) :=
      atomically_of_ok (by simp [call, relinquishWorkLeasePreservingFence, hlease])
    rw [hrun]
    exact KeyChange.refused _
  | some lease =>
    obtain ⟨hrow, rfl, rfl⟩ := fencedLease_eq_some_iff.mp hlease
    have hkey : lease.workKey = workKey := t.workLeases.key_of_get? hrow
    have hrun :
        atomically call t = (.ok true,
          ⟨t.workLeases.put (lease.extend (clock.relinquished now) (clock.stamp now)),
            t.fenceCounters⟩) :=
      atomically_of_ok (by simp [call, relinquishWorkLeasePreservingFence, hlease])
    rw [hrun,
      t.keyState_put (lease.extend (clock.relinquished now) (clock.stamp now)) workKey key hkey]
    refine KeyChange.at_key key rfl ?_
    rw [keyState_of_row t hrow]
    exact KeyChange.relinquished lease _ _ rfl rfl

end Refinement

/-- **Refinement**: seen from one key, every step of the store is a step of the
lease protocol. -/
theorem keyChange_step (clock : LeaseClock) (w : LeaseWorld) (s : LeaseStep) (key : String) :
    KeyChange w.now key s (w.reply clock s) (w.tables.keyState key)
      ((w.step clock s).tables.keyState key) := by
  cases s with
  | advance elapsed => exact KeyChange.elsewhere _ _ (by simp [LeaseStep.workKey?])
  | acquire workKey workKind session ttl =>
    exact keyChange_acquire clock w.now w.tables key workKey workKind session ttl
  | renew workKey session fencingToken ttl =>
    exact keyChange_renew clock w.now w.tables key workKey session fencingToken ttl
  | release workKey session fencingToken =>
    exact keyChange_release w.now w.tables key workKey session fencingToken
  | relinquish workKey session fencingToken =>
    exact keyChange_relinquish clock w.now w.tables key workKey session fencingToken

end Coordination
end O3k
