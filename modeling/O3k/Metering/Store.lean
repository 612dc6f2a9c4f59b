import Mathlib.Data.Prod.Lex
import Mathlib.Data.String.Basic
import O3k.Metering.Buckets
import O3k.Relational.Table

/-!
# The metering store

Open and closed intervals, the ingest-bucket aggregates and the anchor of the
metering authority.  `recordObservation` validates an observation and runs
`recordObservationTx` in one write transaction; the two back ends issue the
same statements, except that PostgreSQL learns of a conflicting insert from
`ON CONFLICT DO NOTHING` and SQLite from the driver's error.

`newV5` stands for `Uuid::new_v5` in the URL namespace.
-/

namespace O3k
namespace Metering

open Relational Relational.Transaction

/-- The row of `metering_authority`. -/
structure MeteringAuthority where
  authorityStartedAtMs : Int
  lastObservedAtMs : Int
  deriving DecidableEq

structure MeterIntervalRecord where
  intervalId : Uuid
  series : Series
  quantity : Int
  startedAtMs : Int
  endedAtMs : Option Int
  authority : String
  deriving DecidableEq

structure MeterAggregateRecord where
  series : Series
  bucketStartMs : Int
  bucketWidthMs : Int
  quantityMillis : Int
  deriving DecidableEq

/-- A bucket of a series, as the primary key of `metering_aggregates` orders it. -/
def bucketKey (series : Series) (bucketStartMs : Int) : String ×ₗ String ×ₗ String ×ₗ Int :=
  toLex (series.scope, toLex (series.meterKey, toLex (series.resourceId, bucketStartMs)))

/-- The primary key `(scope, meter_key, resource_id, bucket_start_ms)`. -/
def MeterAggregateRecord.key (row : MeterAggregateRecord) : String ×ₗ String ×ₗ String ×ₗ Int :=
  bucketKey row.series row.bucketStartMs

theorem bucketKey_inj {s s' : Series} {b b' : Int} :
    bucketKey s b = bucketKey s' b' ↔ s = s' ∧ b = b' := by
  obtain ⟨meter, scope, resource⟩ := s
  obtain ⟨meter', scope', resource'⟩ := s'
  simp only [bucketKey, toLex_inj, Prod.mk.injEq, Series.mk.injEq]
  tauto

@[ext] structure MeteringTables where
  authority : Option MeteringAuthority
  intervals : Table MeterIntervalRecord.intervalId
  aggregates : Table MeterAggregateRecord.key
  deriving DecidableEq

abbrev MeteringBody (α : Type) := Transaction MeteringTables KernelError α

namespace MeteringTables

variable (t : MeteringTables)

/-- `INSERT INTO metering_authority … ON CONFLICT (id) DO NOTHING`. -/
def anchorAuthority (nowMs : Int) : MeteringTables :=
  { t with authority := some (t.authority.getD ⟨nowMs, nowMs⟩) }

/-- `SET last_observed_at_ms = MAX(last_observed_at_ms, ?1)`. -/
def advanceWatermark (observedAtMs : Int) : MeteringTables :=
  { t with
    authority := t.authority.map fun a =>
      { a with lastObservedAtMs := max a.lastObservedAtMs observedAtMs } }

/-- The open interval of a series; the partial unique index leaves at most one. -/
def loadOpenInterval (series : Series) : Option MeterIntervalRecord :=
  t.intervals.rows.find? fun row => row.series = series && row.endedAtMs.isNone

/-- `SELECT MAX(ended_at_ms)` of a series. -/
def maxEndedAt (series : Series) : Option Int :=
  ((t.intervals.rows.filter fun row => row.series = series).filterMap
    MeterIntervalRecord.endedAtMs).max?

def insertOpenInterval? (row : MeterIntervalRecord) : Option MeteringTables :=
  if (t.loadOpenInterval row.series).isSome then
    none
  else
    (t.intervals.insert? row).map fun intervals => { t with intervals := intervals }

/-- `SET ended_at_ms = ?1 WHERE interval_id = ?2 AND ended_at_ms IS NULL`, unless
no row matches. -/
def closeInterval? (intervalId : Uuid) (endedAtMs : Int) : Option MeteringTables :=
  ((t.intervals.get? intervalId).filter fun row => row.endedAtMs.isNone).map fun row =>
    { t with intervals := t.intervals.put { row with endedAtMs := some endedAtMs } }

/-- The stored quantity of a bucket, zero when the bucket has no row. -/
def quantityMillisAt (series : Series) (bucketStartMs : Int) : Int :=
  ((t.aggregates.get? (bucketKey series bucketStartMs)).map
    MeterAggregateRecord.quantityMillis).getD 0

end MeteringTables

/-- Read, add and write one bucket. -/
def foldContribution (series : Series) (contribution : Int × Int) : MeteringBody Unit := do
  let t ← get
  let current := t.quantityMillisAt series contribution.1
  let sum ← fromExcept
    (checkedI128 (current + contribution.2) (.meteringCorrupt "metering aggregate overflow"))
  let combined ← fromExcept
    (checkedI64 sum (.meteringCorrupt "metering aggregate overflow"))
  require (0 ≤ combined) (.meteringUnavailable .checkViolation)
  set
    { t with
      aggregates :=
        t.aggregates.put ⟨series, contribution.1, ingestBucketWidthMs, combined⟩ }

/-- Only a vanished interval is corruption. -/
def replayOrCorrupt (existing : MeterIntervalRecord) : MeteringBody Unit := do
  let t ← get
  require (t.intervals.get? existing.intervalId ≠ none)
    (.meteringCorrupt "metering interval disappeared during close")

/-- The contributions of an interval that ends at an instant, none when it is empty. -/
def closingContributions (existing : MeterIntervalRecord) (observedAtMs : Int) :
    Except KernelError (List (Int × Int)) :=
  if observedAtMs ≤ existing.startedAtMs then
    .ok []
  else if existing.quantity < 0 then
    .error (.meteringCorrupt "metering quantity is negative")
  else
    bucketContributions existing.startedAtMs observedAtMs existing.quantity.toNat
      ingestBucketWidthMs

def closeAndFold (existing : MeterIntervalRecord) (observation : MeterObservation) :
    MeteringBody Unit := do
  let t ← get
  match t.closeInterval? existing.intervalId observation.observedAtMs with
  | none => replayOrCorrupt existing
  | some closed => do
    set closed
    let contributions ← fromExcept (closingContributions existing observation.observedAtMs)
    forEach (foldContribution observation.series) contributions

/-- What an observation does to the interval that is open, if there is one. -/
def applyToOpen (observation : MeterObservation) (quantity : Int) :
    Option MeterIntervalRecord → MeteringBody Unit
  | none => pure ()
  | some existing =>
    if observation.observedAtMs < existing.startedAtMs then
      throw (.meteringCorrupt "metering clock regression")
    else if observation.consuming then
      if existing.quantity ≠ quantity then
        throw (.meteringCorrupt "metering quantity changed within an open interval")
      else if existing.authority ≠ observation.authority then
        throw (.meteringCorrupt "metering authority changed within an open interval")
      else
        pure ()
    else
      closeAndFold existing observation

section Recording

variable (newV5 : String → Uuid) (observation : MeterObservation)

def intervalId : Uuid :=
  let series := observation.series
  newV5 s!"o3k:metering:interval:{series.meterKey.utf8ByteSize}:{series.meterKey}:{
    series.scope.utf8ByteSize}:{series.scope}:{series.resourceId.utf8ByteSize}:{
    series.resourceId}:{observation.observedAtMs}"

/-- The open interval an observation asks for. -/
@[simps] def openedBy (observation : MeterObservation) (quantity : Int) :
    MeterIntervalRecord where
  intervalId := intervalId newV5 observation
  series := observation.series
  quantity := quantity
  startedAtMs := observation.observedAtMs
  endedAtMs := none
  authority := observation.authority

/-- `deterministic_interval_matches`: whether the observation's id is taken, by
the same interval. -/
def deterministicIntervalMatches (quantity : Int) : MeteringBody Bool := do
  let t ← get
  match t.intervals.get? (intervalId newV5 observation) with
  | none => pure false
  | some row => do
    require
      (row.series = observation.series ∧ row.quantity = quantity ∧
        row.authority = observation.authority)
      (.meteringCorrupt "metering interval identity conflict")
    pure true

/-- A consuming observation of a series without an open interval. -/
def openInterval (quantity : Int) : MeteringBody Unit := do
  let t ← get
  match t.insertOpenInterval? (openedBy newV5 observation quantity) with
  | some inserted => do
    set inserted
    require (∀ ended ∈ inserted.maxEndedAt observation.series, ended ≤ observation.observedAtMs)
      (.meteringCorrupt "metering interval overlap")
  | none => do
    let replayed ← deterministicIntervalMatches newV5 observation quantity
    if replayed then
      pure ()
    else do
      let t ← get
      applyToOpen observation quantity (t.loadOpenInterval observation.series)

def recordObservationTx : MeteringBody Unit := do
  let quantity ← fromExcept
    (checkedI64 observation.quantity (.invalidIdentifier "meter quantity"))
  modify fun t => t.anchorAuthority observation.observedAtMs
  modify fun t => t.advanceWatermark observation.observedAtMs
  let t ← get
  let authority ← orFail t.authority (.meteringUnavailable .rowNotFound)
  require (authority.authorityStartedAtMs ≤ observation.observedAtMs)
    (.meteringCorrupt "observation predates metering authority")
  if t.loadOpenInterval observation.series = none ∧ observation.consuming then
    openInterval newV5 observation quantity
  else
    applyToOpen observation quantity (t.loadOpenInterval observation.series)

def recordObservation (t : MeteringTables) : Except KernelError Unit × MeteringTables :=
  match observation.validate with
  | .error e => (.error e, t)
  | .ok () => atomically (recordObservationTx newV5 observation) t

end Recording

def ensureAuthority (nowMs : Int) (t : MeteringTables) : MeteringTables := t.anchorAuthority nowMs

end Metering
end O3k
