import O3k.Metering.Store

/-!
# Usage queries

A usage query reads one consistent state of the store.  For each meter it adds
up the aggregate rows of the window and the live part of the open intervals,
in one accumulator keyed by the start of the output bucket.
-/

namespace O3k
namespace Metering

open Relational Relational.Transaction Intervals

def maxUsageRangeMs : Int := 31622400000

def maxUsageBuckets : Int := 1100

def maxUsageMeters : Nat := 8

def maxUsageAggregateRows : Nat := 25000

def maxUsageSeries : Nat := 500

def maxOpenIntervals : Nat := 20000

inductive UsageStatus
  | complete
  | partiallyObserved
  | unavailable
  deriving DecidableEq

structure UsageQuery where
  scope : String
  meterKeys : List String
  startMs : Int
  endMs : Int
  granularity : UsageGranularity
  resourceId : Option String
  evaluatedAtMs : Int
  deriving DecidableEq

namespace UsageQuery

/-- The loop of `validate` over the selected meters; `seen` are those before. -/
def validateMeterKeys (granularity : UsageGranularity) :
    List String → List String → Except KernelError Unit
  | _, [] => .ok ()
  | seen, key :: keys =>
    match meterDefinition key with
    | none => .error (.invalidIdentifier s!"meter {key}")
    | some definition =>
      if granularity ∉ definition.supportedGranularities then
        .error (.invalidIdentifier s!"granularity for meter {key}")
      else if key ∈ seen then
        .error (.invalidIdentifier "duplicate meter")
      else
        validateMeterKeys granularity (key :: seen) keys

def validate (self : UsageQuery) : Except KernelError Unit :=
  if self.scope.isEmpty ∨ 256 < self.scope.utf8ByteSize then
    .error (.invalidScopeId self.scope)
  else if self.meterKeys = [] ∨ maxUsageMeters < self.meterKeys.length then
    .error (.invalidIdentifier "meter selection")
  else do
    validateMeterKeys self.granularity [] self.meterKeys
    let width := self.granularity.widthMs
    if self.startMs < 0 ∨ self.endMs < 0 then
      .error (.invalidIdentifier "usage time range")
    else if self.endMs ≤ self.startMs then
      .error (.invalidIdentifier "usage time range")
    else if maxUsageRangeMs < self.endMs - self.startMs then
      .error (.invalidIdentifier "usage range")
    else if self.startMs % width ≠ 0 ∨ self.endMs % width ≠ 0 then
      .error (.invalidIdentifier "usage bucket alignment")
    else if (self.endMs - self.startMs) / width ≤ 0 ∨
        maxUsageBuckets < (self.endMs - self.startMs) / width then
      .error (.invalidIdentifier "usage bucket count")
    else
      match self.resourceId.filter fun id => id.isEmpty || 256 < id.utf8ByteSize with
      | some id => .error (.invalidResourceId id)
      | none =>
        if self.evaluatedAtMs < 0 then
          .error (.invalidIdentifier "usage evaluation time")
        else
          .ok ()

/-- The series a query reads for one of its meters. -/
def selects (self : UsageQuery) (meterKey : String) (series : Series) : Bool :=
  series.scope = self.scope && series.meterKey = meterKey &&
    self.resourceId.all fun id => series.resourceId = id

end UsageQuery

/-- `UsageAccumulator`: totals by the start of their bucket. -/
abbrev UsageAccumulator := Table (Prod.fst : Int × Int → Int)

namespace UsageAccumulator

def valueAt (self : UsageAccumulator) (b : Int) : Int := ((Table.get? self b).map Prod.snd).getD 0

def add (granularity : UsageGranularity) (self : UsageAccumulator) (contribution : Int × Int) :
    Except KernelError UsageAccumulator :=
  if contribution.2 < 0 then
    .error (.invalidIdentifier "meter aggregate")
  else do
    let aligned := alignDown granularity.widthMs contribution.1
    let total ← checkedI128 (valueAt self aligned + contribution.2)
      (.invalidIdentifier "meter overflow")
    pure (Table.put self (aligned, total))

/-- A loop of `add`. -/
def addAll
    (granularity : UsageGranularity) (self : UsageAccumulator) (contributions : List (Int × Int)) :
    Except KernelError UsageAccumulator :=
  contributions.foldlM (add granularity) self

end UsageAccumulator

def formatQuantityMillis (quantityMillis : Int) : String :=
  let magnitude := quantityMillis.natAbs
  let whole := magnitude / 1000
  let fraction := String.ofList (List.leftpad 3 '0' (toString (magnitude % 1000)).toList)
  if quantityMillis < 0 then s!"-{whole}.{fraction}" else s!"{whole}.{fraction}"

structure UsageBucket where
  bucketStartMs : Int
  bucketWidthMs : Int
  quantity : String
  deriving DecidableEq

structure MeterUsage where
  meterKey : String
  unit : MeterUnit
  granularity : UsageGranularity
  status : UsageStatus
  buckets : List UsageBucket
  total : String
  deriving DecidableEq

structure MeterUsageReport where
  scope : String
  startMs : Int
  endMs : Int
  observedThroughMs : Int
  authorityStartedAtMs : Option Int
  lastObservedAtMs : Option Int
  meters : List MeterUsage
  deriving DecidableEq

def usageStatus (authorityStartedAtMs : Option Int) (startMs endMs evaluatedAtMs : Int) :
    UsageStatus :=
  match authorityStartedAtMs with
  | none => .unavailable
  | some authority =>
    if endMs ≤ authority then
      .unavailable
    else if startMs < authority ∨ evaluatedAtMs < endMs then
      .partiallyObserved
    else
      .complete

/-- A total and the output bucket that shows it. -/
def usageBucket (query : UsageQuery) (bucket : Int × Int) : UsageBucket where
  bucketStartMs := bucket.1
  bucketWidthMs := query.granularity.widthMs
  quantity := formatQuantityMillis bucket.2

def meterUsage (meterKey : String) (query : UsageQuery) (status : UsageStatus)
    (accumulator : UsageAccumulator) :
    Except KernelError MeterUsage :=
  match meterDefinition meterKey with
  | none => .error (.meteringCorrupt "meter definition disappeared")
  | some definition =>
    if status = .unavailable then
      .ok
        { meterKey := meterKey
          unit := definition.unit
          granularity := query.granularity
          status := status
          buckets := []
          total := formatQuantityMillis 0 }
    else do
      let inWindow :=
        (Table.rows accumulator).filter fun bucket =>
          query.startMs ≤ bucket.1 && bucket.1 < query.endMs
      let total ← inWindow.foldlM
        (fun total bucket =>
          checkedI128 (total + bucket.2) (.meteringCorrupt "metering usage overflow"))
        0
      pure
        { meterKey := meterKey
          unit := definition.unit
          granularity := query.granularity
          status := status
          buckets := inWindow.map (usageBucket query)
          total := formatQuantityMillis total }

section Snapshot

variable (t : MeteringTables) (query : UsageQuery) (meterKey : String)

def windowRows : List MeterAggregateRecord :=
  (t.aggregates.rows.filter fun row =>
    query.selects meterKey row.series && query.startMs ≤ row.bucketStartMs &&
      row.bucketStartMs < query.endMs).insertionSort
    fun row row' =>
      toLex (row.bucketStartMs, row.series.resourceId)
        ≤
      toLex (row'.bucketStartMs, row'.series.resourceId)

def loadAggregates : Except KernelError (List (Int × Int)) :=
  let rows := (windowRows t query meterKey).take (maxUsageAggregateRows + 1)
  if maxUsageAggregateRows < rows.length then
    .error (.invalidIdentifier "usage aggregate rows bound")
  else if maxUsageSeries < (rows.map fun row => row.series.resourceId).dedup.length then
    .error (.invalidIdentifier "usage series bound")
  else
    .ok (rows.map fun row => (row.bucketStartMs, row.quantityMillis))

/-- The open intervals that started before the window ends, in the order of the query. -/
def openRows : List MeterIntervalRecord :=
  (t.intervals.rows.filter fun row =>
    query.selects meterKey row.series && row.endedAtMs.isNone &&
      row.startedAtMs < query.endMs).insertionSort
    fun row row' =>
      toLex (row.startedAtMs, row.series.resourceId)
        ≤
      toLex (row'.startedAtMs, row'.series.resourceId)

/-- `load_intervalsintervals`, with the quantity and the start of each. -/
def loadOpenIntervals : List (Int × Int) :=
  ((openRows t query meterKey).take (maxOpenIntervals + 1)).map fun row =>
    (row.quantity, row.startedAtMs)

/-- The part of an open interval that lies in the window and has elapsed. -/
def liveContributions (interval : Int × Int) : Except KernelError (List (Int × Int)) :=
  let observedThroughMs := min query.endMs query.evaluatedAtMs
  let segmentStart := max interval.2 query.startMs
  let segmentEnd := min observedThroughMs query.endMs
  if segmentStart < segmentEnd then
    if interval.1 < 0 then
      .error (.meteringCorrupt "metering quantity is negative")
    else
      bucketContributions segmentStart segmentEnd interval.1.toNat ingestBucketWidthMs
  else
    .ok []

/-- The accumulator of one meter: the stored rows, then the live contributions. -/
def meterAccumulator : Except KernelError UsageAccumulator := do
  let stored ← loadAggregates t query meterKey
  let closed ← UsageAccumulator.addAll query.granularity ∅ stored
  let intervals := loadOpenIntervals t query meterKey
  if maxOpenIntervals < intervals.length then
    .error (.invalidIdentifier "usage interval bound")
  else
    intervals.foldlM
      (fun accumulator interval => do
        let contributions ← liveContributions query interval
        UsageAccumulator.addAll query.granularity accumulator contributions)
      closed

/-- The body of the loop over the selected meters. -/
def usageOfMeter (status : UsageStatus) : Except KernelError MeterUsage := do
  let accumulator ← meterAccumulator t query meterKey
  meterUsage meterKey query status accumulator

def usageSnapshot : Except KernelError MeterUsageReport := do
  let authorityStartedAtMs := t.authority.map MeteringAuthority.authorityStartedAtMs
  let status := usageStatus authorityStartedAtMs query.startMs query.endMs query.evaluatedAtMs
  let meters ← query.meterKeys.mapM fun meterKey => usageOfMeter t query meterKey status
  pure
    { scope := query.scope
      startMs := query.startMs
      endMs := query.endMs
      observedThroughMs := min query.endMs query.evaluatedAtMs
      authorityStartedAtMs := authorityStartedAtMs
      lastObservedAtMs := t.authority.map MeteringAuthority.lastObservedAtMs
      meters := meters }

def usage : Except KernelError MeterUsageReport := do
  query.validate
  usageSnapshot t query

end Snapshot

end Metering
end O3k
