import O3k.Metering.QuantityHistory
import O3k.Metering.Usage

/-!
# Usage is the integral of the quantity

For a query that selects one series, what the report shows for a bucket is the
integral of the quantity of the series over the bucket, ended at the evaluation
time.
-/

namespace O3k
namespace Metering

open Relational Relational.Transaction Semantics Intervals

namespace UsageAccumulator

variable {granularity : UsageGranularity} {self self' : UsageAccumulator}

@[simp] theorem valueAt_empty (b : Int) :
    valueAt (∅ : Table (Prod.fst : Int × Int → Int)) b = 0 := by
  rfl

theorem valueAt_put (self : UsageAccumulator) (b' v b : Int) :
    valueAt (Table.put self (b', v)) b = if b' = b then v else valueAt self b := by
  unfold valueAt
  rw [Table.get?_put]
  split_ifs <;> rfl

theorem add_ok {c : Int × Int} (h : add granularity self c = .ok self') :
    self' =
      Table.put self
        (alignDown granularity.widthMs c.1,
          valueAt self (alignDown granularity.widthMs c.1) + c.2) := by
  unfold add at h
  split at h
  · cases h
  · obtain ⟨total, htotal, h⟩ := except_bind_eq_ok.mp h
    obtain rfl := checkedI128_eq_ok htotal
    cases h
    rfl

theorem valueAt_addAll {contributions : List (Int × Int)}
    (h : addAll granularity self contributions = .ok self') (b : Int) :
    valueAt self' b = valueAt self b + contributed granularity.widthMs contributions b := by
  induction contributions generalizing self with
  | nil =>
    cases h
    simp
  | cons c contributions ih =>
    rw [addAll, List.foldlM_cons] at h
    obtain ⟨self₁, hadd, hrest⟩ := except_bind_eq_ok.mp h
    rw [ih hrest, add_ok hadd, valueAt_put, contributed_cons]
    split_ifs with hsame
    · rw [hsame]
      omega
    · omega

theorem pos_of_addAll {contributions : List (Int × Int)}
    (hself : ∀ row ∈ Table.rows self, 0 < row.2) (hpos : ∀ c ∈ contributions, 0 < c.2)
    (h : addAll granularity self contributions = .ok self') :
    ∀ row ∈ Table.rows self', 0 < row.2 := by
  induction contributions generalizing self with
  | nil =>
    cases h
    exact hself
  | cons c contributions ih =>
    rw [addAll, List.foldlM_cons] at h
    obtain ⟨self₁, hadd, hrest⟩ := except_bind_eq_ok.mp h
    refine ih ?_ (fun c hc => hpos c (List.mem_cons_of_mem _ hc)) hrest
    rw [add_ok hadd]
    intro row hrow
    rcases (Table.mem_put _).mp hrow with rfl | ⟨hrow, _⟩
    · have hc := hpos c List.mem_cons_self
      have hnonneg : 0 ≤ valueAt self (alignDown granularity.widthMs c.1) := by
        unfold valueAt
        cases hget : Table.get? self (alignDown granularity.widthMs c.1) with
        | none => simp
        | some old => simpa using (hself old (Table.mem_of_get? self hget)).le
      show 0 < _ + _
      omega
    · exact hself row hrow

theorem mem_rows_iff (hpos : ∀ row ∈ Table.rows self, 0 < row.2) (b v : Int) :
    (b, v) ∈ Table.rows self ↔ valueAt self b = v ∧ v ≠ 0 := by
  constructor
  · intro hrow
    have hget := Table.get?_key_of_mem self hrow
    refine ⟨?_, (ne_of_gt (hpos _ hrow))⟩
    unfold valueAt
    rw [show Table.get? self b = some (b, v) from hget]
    rfl
  · rintro ⟨hvalue, hne⟩
    unfold valueAt at hvalue
    cases hget : Table.get? self b with
    | none =>
      rw [hget] at hvalue
      exact absurd hvalue.symm hne
    | some row =>
      rw [hget] at hvalue
      have hkey := Table.key_of_get? self hget
      have hrow := Table.mem_of_get? self hget
      obtain ⟨b', v'⟩ := row
      cases hkey
      cases hvalue
      exact hrow

end UsageAccumulator

def bucketStarts (query : UsageQuery) : List Int :=
  (List.range ((query.endMs - query.startMs) / query.granularity.widthMs).toNat).map
    fun i : Nat => query.startMs + i * query.granularity.widthMs

/-- The integral of a quantity over a bucket, ended at the evaluation time. -/
def bucketUsage (query : UsageQuery) (quantityAt : Int → Int) (b : Int) : Int :=
  integral quantityAt b (min (b + query.granularity.widthMs) query.evaluatedAtMs)

/-- The report of a quantity: the buckets in which it is not zero, and the total. -/
def integralUsage (query : UsageQuery) (meterKey : String) (unit : MeterUnit) (status : UsageStatus)
    (quantityAt : Int → Int) :
    MeterUsage where
  meterKey := meterKey
  unit := unit
  granularity := query.granularity
  status := status
  buckets :=
    ((bucketStarts query).filter fun b => bucketUsage query quantityAt b ≠ 0).map
      fun b => usageBucket query (b, bucketUsage query quantityAt b)
  total :=
    formatQuantityMillis
      (integral quantityAt query.startMs (min query.endMs query.evaluatedAtMs))

/-- The window of a query that `validate` accepts. -/
structure UsageQuery.Window (query : UsageQuery) : Prop where
  nonneg : 0 ≤ query.startMs
  lt : query.startMs < query.endMs
  range : query.endMs - query.startMs ≤ maxUsageRangeMs
  startAligned : query.granularity.widthMs ∣ query.startMs
  endAligned : query.granularity.widthMs ∣ query.endMs

theorem UsageQuery.window_of_validate {query : UsageQuery} (h : query.validate = .ok ()) :
    query.Window := by
  rw [validate] at h
  split at h
  · cases h
  split at h
  · cases h
  obtain ⟨_, _, h⟩ := except_bind_eq_ok.mp h
  dsimp only at h
  split_ifs at h with hsign horder hrange haligned hcount
  all_goals exact
    { nonneg := by omega
      lt := by omega
      range := by omega
      startAligned := Int.dvd_of_emod_eq_zero (by omega)
      endAligned := Int.dvd_of_emod_eq_zero (by omega) }

section Window

variable {query : UsageQuery}

theorem mem_bucketStarts_iff (hwindow : query.Window) {b : Int} :
    b ∈ bucketStarts query ↔ query.granularity.widthMs ∣ b ∧ query.startMs ≤ b ∧
      b + query.granularity.widthMs ≤ query.endMs := by
  have hwidth := query.granularity.widthMs_pos
  obtain ⟨n, hn⟩ := hwindow.startAligned
  obtain ⟨m, hm⟩ := hwindow.endAligned
  have hcount : (query.endMs - query.startMs) / query.granularity.widthMs = m - n := by
    rw [hn, hm, ← mul_sub]
    exact Int.mul_ediv_cancel_left _ (ne_of_gt hwidth)
  simp only [bucketStarts, List.mem_map, List.mem_range, hcount]
  constructor
  · rintro ⟨i, hi, rfl⟩
    refine ⟨?_, ?_, ?_⟩
    · exact dvd_add hwindow.startAligned (Dvd.intro_left _ rfl)
    · have := mul_nonneg (Int.natCast_nonneg i) hwidth.le
      omega
    · have hle : (i : Int) + 1 ≤ m - n := by
        omega
      have hmul := mul_le_mul_of_nonneg_left hle hwidth.le
      rw [hn, hm]
      linarith [mul_sub query.granularity.widthMs m n,
        mul_add query.granularity.widthMs (i : Int) 1,
        mul_comm query.granularity.widthMs (i : Int)]
  · rintro ⟨⟨k, rfl⟩, hstart, hend⟩
    have hnk : n ≤ k := by
      refine le_of_mul_le_mul_left ?_ hwidth
      omega
    have hkm : k + 1 ≤ m := by
      refine le_of_mul_le_mul_left ?_ hwidth
      linarith [mul_add query.granularity.widthMs k 1]
    refine ⟨(k - n).toNat, by omega, ?_⟩
    rw [Int.toNat_of_nonneg (by omega), hn]
    ring

theorem bucketStarts_sorted (query : UsageQuery) : (bucketStarts query).Pairwise (· < ·) := by
  have hwidth := query.granularity.widthMs_pos
  refine List.Pairwise.map _ ?_ List.pairwise_lt_range
  intro i j hij
  have hlt : (i : Int) < j := by
    omega
  have := mul_lt_mul_of_pos_right hlt hwidth
  omega

theorem sum_bucketUsage (hwindow : query.Window) (quantityAt : Int → Int) :
    ((bucketStarts query).map (bucketUsage query quantityAt)).sum =
    integral quantityAt query.startMs (min query.endMs query.evaluatedAtMs) := by
  have hwidth := query.granularity.widthMs_pos
  have hend :
      query.startMs +
          ((query.endMs - query.startMs) / query.granularity.widthMs).toNat *
            query.granularity.widthMs = query.endMs := by
    have hdvd := dvd_sub hwindow.endAligned hwindow.startAligned
    have hlt := hwindow.lt
    rw [Int.toNat_of_nonneg (Int.ediv_nonneg (by omega) hwidth.le), Int.ediv_mul_cancel hdvd]
    omega
  have hsum := integral_buckets_clip quantityAt hwidth.le query.startMs query.evaluatedAtMs
    ((query.endMs - query.startMs) / query.granularity.widthMs).toNat
  rw [hend] at hsum
  rw [hsum, bucketStarts, List.map_map]
  rfl

end Window

theorem contributed_append (width : Int) (cs cs' : List (Int × Int)) (b : Int) :
    contributed width (cs ++ cs') b = contributed width cs b + contributed width cs' b := by
  simp [contributed]

theorem contributed_of_not_dvd {width b : Int} (h : ¬ width ∣ b) (cs : List (Int × Int)) :
    contributed width cs b = 0 := by
  refine List.sum_eq_zero ?_
  intro q hq
  obtain ⟨c, _, rfl⟩ := List.mem_map.mp hq
  refine if_neg ?_
  rintro rfl
  exact h (dvd_alignDown width c.1)

section Reading

variable {t : MeteringTables} {query : UsageQuery} {meterKey : String} {series : Series}

/-- The query selects one series of the store. -/
structure SelectsOnly (t : MeteringTables) (query : UsageQuery) (meterKey : String)
    (series : Series) : Prop where
  intervals : ∀ row ∈ t.intervals.rows,
    query.selects meterKey row.series = true ↔ row.series = series
  aggregates : ∀ row ∈ t.aggregates.rows,
    query.selects meterKey row.series = true ↔ row.series = series

theorem loadAggregates_eq_ok {stored : List (Int × Int)}
    (h : loadAggregates t query meterKey = .ok stored) :
    stored =
    (windowRows t query meterKey).map fun row => (row.bucketStartMs, row.quantityMillis) := by
  unfold loadAggregates at h
  dsimp only at h
  split_ifs at h with hrows hseries
  cases h
  rw [List.take_of_length_le]
  rw [List.length_take] at hrows
  omega

variable {b : Int}

theorem contributed_windowRows
    (hwindow : query.Window) (hselects : SelectsOnly t query meterKey series)
    (hb : b ∈ bucketStarts query) :
    contributed query.granularity.widthMs
        ((windowRows t query meterKey).map fun row => (row.bucketStartMs, row.quantityMillis)) b
      =
    t.rolledUp series query.granularity.widthMs b := by
  have hwidth := query.granularity.widthMs_pos
  obtain ⟨hdvd, hstart, hend⟩ := (mem_bucketStarts_iff hwindow).mp hb
  rw [contributed, List.map_map, windowRows,
    ((List.perm_insertionSort _ _).map _).sum_eq, Table.sum_map_filter]
  refine congrArg List.sum (List.map_congr_left fun row hrow => ?_)
  have hiff := hselects.aggregates row hrow
  have halign := alignDown_eq_iff hwidth hdvd row.bucketStartMs
  by_cases hseries : row.series = series
  · by_cases hin : alignDown query.granularity.widthMs row.bucketStartMs = b
    · obtain ⟨hle, hlt⟩ := halign.mp hin
      have hfrom : query.startMs ≤ row.bucketStartMs := by
        omega
      have huntil : row.bucketStartMs < query.endMs := by
        omega
      have hsel : query.selects meterKey series = true := hseries ▸ hiff.mpr hseries
      simp [hsel, hseries, hin, hfrom, huntil]
    · simp [hin]
  · have hno : query.selects meterKey row.series = false :=
      Bool.eq_false_of_not_eq_true fun h => hseries (hiff.mp h)
    simp [hseries, hno]

theorem contributed_windowRows_outside (hwindow : query.Window) (hb : b ∉ bucketStarts query) :
    contributed query.granularity.widthMs
        ((windowRows t query meterKey).map fun row => (row.bucketStartMs, row.quantityMillis)) b
      =
    0 := by
  have hwidth := query.granularity.widthMs_pos
  refine List.sum_eq_zero ?_
  intro q hq
  obtain ⟨c, hc, rfl⟩ := List.mem_map.mp hq
  obtain ⟨row, hrow, rfl⟩ := List.mem_map.mp hc
  have hmem := (List.mem_filter.mp ((List.perm_insertionSort _ _).mem_iff.mp hrow)).2
  simp only [Bool.and_eq_true, decide_eq_true_eq] at hmem
  obtain ⟨⟨_, hfrom⟩, huntil⟩ := hmem
  refine if_neg fun hin => hb ?_
  have hdvd : query.granularity.widthMs ∣ b := hin ▸ dvd_alignDown _ _
  obtain ⟨hle, hlt⟩ := (alignDown_eq_iff hwidth hdvd row.bucketStartMs).mp hin
  refine (mem_bucketStarts_iff hwindow).mpr ⟨hdvd, ?_, ?_⟩
  · -- the start of the window is a bucket start not after the row
    by_contra hbefore
    have := add_width_le_of_lt hwidth hdvd hwindow.startAligned (not_le.mp hbefore)
    omega
  · exact add_width_le_of_lt hwidth hdvd hwindow.endAligned (by omega)

/-- The live part of an open interval in a bucket. -/
def liveUsage (query : UsageQuery) (interval : Int × Int) (b : Int) : Int :=
  interval.1 *
    overlap (max interval.2 query.startMs) (min query.endMs query.evaluatedAtMs) b
      (b + query.granularity.widthMs)

theorem contributed_liveContributions {interval : Int × Int} {live : List (Int × Int)}
    (h : liveContributions query interval = .ok live) (hb : query.granularity.widthMs ∣ b) :
    contributed query.granularity.widthMs live b = liveUsage query interval b := by
  unfold liveContributions at h
  dsimp only at h
  have hmin :
      min (min query.endMs query.evaluatedAtMs) query.endMs
        =
      min query.endMs query.evaluatedAtMs := by
    omega
  rw [hmin] at h
  split_ifs at h with hsegment hnegative
  · rw [contributed_bucketContributions query.granularity.widthMs_pos
      query.granularity.dvd_widthMs hb h, Int.toNat_of_nonneg (not_lt.mp hnegative)]
    rfl
  · cases h
    rw [liveUsage, overlap_of_empty (not_lt.mp hsegment), mul_zero, contributed_nil]

theorem pos_of_liveContributions {interval : Int × Int} {live : List (Int × Int)}
    (hquantity : 0 < interval.1) (h : liveContributions query interval = .ok live) :
    ∀ c ∈ live, 0 < c.2 := by
  unfold liveContributions at h
  dsimp only at h
  split_ifs at h with hsegment hnegative
  · obtain ⟨hwidth, _, hloop⟩ := bucketContributions_eq_ok h
    intro c hc
    exact (mem_bucketContributionsFrom hwidth (by omega) hloop hc).2.2.2.1
  · cases h
    exact fun c hc => absurd hc List.not_mem_nil

theorem liveLoop_ok {intervals : List (Int × Int)} {self self' : UsageAccumulator}
    (hquantity : ∀ interval ∈ intervals, 0 < interval.1)
    (h :
      intervals.foldlM
          (fun accumulator interval => do
            let contributions ← liveContributions query interval
            UsageAccumulator.addAll query.granularity accumulator contributions)
          self = .ok self') :
    ∃ live, UsageAccumulator.addAll query.granularity self live = .ok self' ∧
      (∀ c ∈ live, 0 < c.2) ∧
      ∀ b, query.granularity.widthMs ∣ b → contributed query.granularity.widthMs live b =
        (intervals.map fun interval => liveUsage query interval b).sum := by
  induction intervals generalizing self with
  | nil =>
    cases h
    exact ⟨[], rfl, fun c hc => absurd hc List.not_mem_nil, fun b _ => rfl⟩
  | cons interval intervals ih =>
    rw [List.foldlM_cons] at h
    obtain ⟨self₁, hfirst, hrest⟩ := except_bind_eq_ok.mp h
    obtain ⟨contributions, hcontributions, hadd⟩ := except_bind_eq_ok.mp hfirst
    obtain ⟨live, hlive, hpos, hsum⟩ :=
      ih (fun i hi => hquantity i (List.mem_cons_of_mem _ hi)) hrest
    refine ⟨contributions ++ live, ?_, ?_, ?_⟩
    · rw [UsageAccumulator.addAll, List.foldlM_append]
      exact except_bind_eq_ok.mpr ⟨self₁, hadd, hlive⟩
    · intro c hc
      rcases List.mem_append.mp hc with hc | hc
      · exact pos_of_liveContributions (hquantity interval List.mem_cons_self) hcontributions c hc
      · exact hpos c hc
    · intro b hb
      rw [contributed_append, contributed_liveContributions hcontributions hb, hsum b hb,
        List.map_cons, List.sum_cons]

theorem integral_row (row : MeterIntervalRecord) (lo hi : Int) :
    integral row.quantityAt lo hi =
    row.quantity * overlap row.startedAtMs (row.endedAtMs.getD hi) lo hi := by
  rw [← integral_indicator]
  refine integral_congr fun x _ hhi => ?_
  unfold MeterIntervalRecord.quantityAt
  cases row.endedAtMs with
  | none => simp [hhi]
  | some ended => simp

theorem stored_add_live
    (hwindow : query.Window) (hledger : Ledger t) (hselects : SelectsOnly t query meterKey series)
    (hended : ∀ row ∈ t.intervals.rows, row.series = series →
      ∀ ended, row.endedAtMs = some ended → ended ≤ query.evaluatedAtMs)
    (hb : b ∈ bucketStarts query) :
    t.rolledUp series query.granularity.widthMs b +
        ((openRows t query meterKey).map fun row =>
          liveUsage query (row.quantity, row.startedAtMs) b).sum
      =
    bucketUsage query (t.quantityAt series) b := by
  have hwidth := query.granularity.widthMs_pos
  obtain ⟨hdvd, hstart, hend⟩ := (mem_bucketStarts_iff hwindow).mp hb
  have hintegral :
      bucketUsage query (t.quantityAt series) b = (t.intervals.rows.map fun row =>
        integral (fun x => if row.series = series then row.quantityAt x else 0) b
          (min (b + query.granularity.widthMs) query.evaluatedAtMs)).sum :=
    integral_list_sum _ _ _ _
  rw [hledger.rolledUp series query.granularity b hdvd, hintegral, openRows,
    ((List.perm_insertionSort _ _).map _).sum_eq, Table.sum_map_filter,
    MeteringTables.closedUsage, Table.sumBy, ← List.sum_map_add]
  refine congrArg List.sum (List.map_congr_left fun row hrow => ?_)
  have hiff := hselects.intervals row hrow
  by_cases hseries : row.series = series
  · have hsel := hiff.mpr hseries
    simp only [if_pos hseries]
    rw [show (fun x => row.quantityAt x) = row.quantityAt from rfl, integral_row]
    cases hrowEnded : row.endedAtMs with
    | some ended =>
      have hle := hended row hrow hseries ended hrowEnded
      simp only [MeterIntervalRecord.closedUsage, hrowEnded, Option.isNone_some,
        Bool.and_false, Bool.false_and, Bool.false_eq_true, if_false, add_zero,
        Option.getD_some]
      congr 1
      unfold overlap
      omega
    | none =>
      simp only [MeterIntervalRecord.closedUsage, hrowEnded, zero_add, Option.isNone_none,
        Option.getD_none, hsel, Bool.true_and, decide_eq_true_eq]
      split_ifs with hbefore
      · rw [liveUsage]
        congr 1
        unfold overlap
        omega
      · rw [overlap_eq_zero_of_le (Or.inr (by omega)), mul_zero]
  · have hno : query.selects meterKey row.series = false :=
      Bool.eq_false_of_not_eq_true fun h => hseries (hiff.mp h)
    simp [hseries, hno, integral]

variable {accumulator : UsageAccumulator}

theorem rows_eq_of_valueAt {v : Int → Int} (hpos : ∀ row ∈ Table.rows accumulator, 0 < row.2)
    (hin : ∀ b ∈ bucketStarts query, UsageAccumulator.valueAt accumulator b = v b)
    (hout : ∀ b, b ∉ bucketStarts query → UsageAccumulator.valueAt accumulator b = 0) :
    Table.rows accumulator =
    ((bucketStarts query).filter fun b => v b ≠ 0).map fun b => (b, v b) := by
  have hsorted :
      (((bucketStarts query).filter fun b => v b ≠ 0).map fun b => (b, v b)).Pairwise
        fun x y => x.1 < y.1 :=
    List.Pairwise.map _ (fun _ _ hlt => hlt) ((bucketStarts_sorted query).filter _)
  let expected : UsageAccumulator := ⟨_, hsorted⟩
  suffices hsame : accumulator = expected by
    rw [hsame]
  refine Table.ext_mem ?_
  rintro ⟨b, x⟩
  rw [UsageAccumulator.mem_rows_iff hpos]
  show _ ↔ (b, x) ∈ ((bucketStarts query).filter fun b => v b ≠ 0).map fun b => (b, v b)
  simp only [List.mem_map, List.mem_filter, decide_eq_true_eq, Prod.mk.injEq]
  constructor
  · rintro ⟨rfl, hne⟩
    by_cases hb : b ∈ bucketStarts query
    · exact ⟨b, ⟨hb, hin b hb ▸ hne⟩, rfl, (hin b hb).symm⟩
    · exact absurd (hout b hb) hne
  · rintro ⟨_, ⟨hb, hne⟩, rfl, rfl⟩
    exact ⟨hin _ hb, hne⟩

theorem total_ok {buckets : List (Int × Int)} {e : KernelError} {first total : Int}
    (h : buckets.foldlM (fun total bucket => checkedI128 (total + bucket.2) e) first = .ok total) :
    total = first + (buckets.map Prod.snd).sum := by
  induction buckets generalizing first with
  | nil =>
    cases h
    simp
  | cons bucket buckets ih =>
    rw [List.foldlM_cons] at h
    obtain ⟨next, hnext, hrest⟩ := except_bind_eq_ok.mp h
    rw [ih hrest, checkedI128_eq_ok hnext, List.map_cons, List.sum_cons, add_assoc]

theorem sum_nonzero_buckets (v : Int → Int) (starts : List Int) :
    (((starts.filter fun b => v b ≠ 0).map fun b => (b, v b)).map Prod.snd).sum =
    (starts.map v).sum := by
  rw [List.map_map]
  show ((starts.filter fun b => v b ≠ 0).map v).sum = _
  rw [Table.sum_map_filter]
  refine congrArg List.sum (List.map_congr_left fun b _ => ?_)
  by_cases hzero : v b = 0
  · simp [hzero]
  · simp [hzero]

theorem meterUsage_ok {status : UsageStatus} {quantityAt : Int → Int} {result : MeterUsage}
    (hwindow : query.Window)
    (hrows :
      Table.rows accumulator =
      ((bucketStarts query).filter fun b => bucketUsage query quantityAt b ≠ 0).map
        fun b => (b, bucketUsage query quantityAt b))
    (hunavailable : status = .unavailable → ∀ x, x < query.endMs → quantityAt x = 0)
    (h : meterUsage meterKey query status accumulator = .ok result) :
    ∃ definition, meterDefinition meterKey = some definition ∧
      result = integralUsage query meterKey definition.unit status quantityAt := by
  have hinWindow :
      ((Table.rows accumulator).filter fun bucket =>
          query.startMs ≤ bucket.1 && bucket.1 < query.endMs) = Table.rows accumulator := by
    refine List.filter_eq_self.mpr fun bucket hbucket => ?_
    rw [hrows] at hbucket
    obtain ⟨b, hb, rfl⟩ := List.mem_map.mp hbucket
    obtain ⟨_, hstart, hend⟩ :=
      (mem_bucketStarts_iff hwindow).mp (List.mem_filter.mp hb).1
    have hwidth := query.granularity.widthMs_pos
    have hlt : b < query.endMs := by
      omega
    simp [hstart, hlt]
  unfold meterUsage at h
  cases hdefinition : meterDefinition meterKey with
  | none =>
    rw [hdefinition] at h
    cases h
  | some definition =>
    refine ⟨definition, rfl, ?_⟩
    rw [hdefinition] at h
    dsimp only at h
    split_ifs at h with hstatus
    · cases h
      have hzero : ∀ lo hi, hi ≤ query.endMs → integral quantityAt lo hi = 0 := by
        intro lo hi hhi
        refine Finset.sum_eq_zero fun x hx => ?_
        exact hunavailable hstatus x ((Finset.mem_Ico.mp hx).2.trans_le hhi)
      have hnone :
          ((bucketStarts query).filter fun b => bucketUsage query quantityAt b ≠ 0) = [] := by
        refine List.filter_eq_nil_iff.mpr fun b hb => ?_
        obtain ⟨_, _, hend⟩ := (mem_bucketStarts_iff hwindow).mp hb
        simp [bucketUsage, hzero b _ ((min_le_left _ query.evaluatedAtMs).trans hend)]
      rw [integralUsage, hnone, hzero _ _ (min_le_left _ _)]
      rfl
    · rw [hinWindow] at h
      obtain ⟨total, htotal, h⟩ := except_bind_eq_ok.mp h
      cases h
      rw [total_ok htotal, hrows, sum_nonzero_buckets, sum_bucketUsage hwindow, zero_add,
        List.map_map]
      rfl

/-- The hypotheses under which the accumulator holds the integral. -/
structure Readable (t : MeteringTables) (query : UsageQuery) (meterKey : String)
    (series : Series) : Prop where
  window : query.Window
  ledger : Ledger t
  selects : SelectsOnly t query meterKey series
  ended : ∀ row ∈ t.intervals.rows, row.series = series →
    ∀ ended, row.endedAtMs = some ended → ended ≤ query.evaluatedAtMs

theorem pos_of_windowRows (hledger : Ledger t) :
    ∀ c ∈ (windowRows t query meterKey).map fun row => (row.bucketStartMs, row.quantityMillis),
      0 < c.2 := by
  intro c hc
  obtain ⟨row, hrow, rfl⟩ := List.mem_map.mp hc
  exact hledger.positive row (List.mem_filter.mp ((List.perm_insertionSort _ _).mem_iff.mp hrow)).1

theorem pos_of_openRows (hledger : Ledger t) :
    ∀ interval ∈ (openRows t query meterKey).map fun row => (row.quantity, row.startedAtMs),
      0 < interval.1 := by
  intro interval hinterval
  obtain ⟨row, hrow, rfl⟩ := List.mem_map.mp hinterval
  exact hledger.quantity row (List.mem_filter.mp ((List.perm_insertionSort _ _).mem_iff.mp hrow)).1

theorem outside_of_not_mem_bucketStarts
    (hwindow : query.Window) (hdvd : query.granularity.widthMs ∣ b) (hb : b ∉ bucketStarts query) :
    b + query.granularity.widthMs ≤ query.startMs ∨ query.endMs ≤ b := by
  by_contra hinside
  push Not at hinside
  refine hb ((mem_bucketStarts_iff hwindow).mpr ⟨hdvd, ?_, ?_⟩)
  · by_contra hbefore
    have := add_width_le_of_lt query.granularity.widthMs_pos hdvd
      hwindow.startAligned (not_le.mp hbefore)
    omega
  · exact add_width_le_of_lt query.granularity.widthMs_pos hdvd hwindow.endAligned hinside.2

theorem liveUsage_outside
    (hwindow : query.Window) (hdvd : query.granularity.widthMs ∣ b) (hb : b ∉ bucketStarts query)
    (interval : Int × Int) :
    liveUsage query interval b = 0 := by
  have houtside := outside_of_not_mem_bucketStarts hwindow hdvd hb
  rw [liveUsage, overlap_eq_zero_of_le, mul_zero]
  omega

theorem meterAccumulator_rows (hread : Readable t query meterKey series)
    (h : meterAccumulator t query meterKey = .ok accumulator) :
    Table.rows accumulator =
    ((bucketStarts query).filter fun b => bucketUsage query (t.quantityAt series) b ≠ 0).map
      fun b => (b, bucketUsage query (t.quantityAt series) b) := by
  unfold meterAccumulator at h
  obtain ⟨stored, hstored, h⟩ := except_bind_eq_ok.mp h
  obtain ⟨closed, hclosed, hloop⟩ := except_bind_eq_ok.mp h
  dsimp only at hloop
  split_ifs at hloop with hbound
  obtain rfl := loadAggregates_eq_ok hstored
  have hintervals :
      loadOpenIntervals t query meterKey
        =
      (openRows t query meterKey).map fun row => (row.quantity, row.startedAtMs) := by
    unfold loadOpenIntervals at hbound ⊢
    rw [List.length_map, List.length_take] at hbound
    rw [List.take_of_length_le (by omega)]
  rw [hintervals] at hloop
  obtain ⟨live, hlive, hlivePos, hliveSum⟩ := liveLoop_ok (pos_of_openRows hread.ledger) hloop
  have hpos : ∀ row ∈ Table.rows accumulator, 0 < row.2 := by
    refine UsageAccumulator.pos_of_addAll ?_ hlivePos hlive
    exact UsageAccumulator.pos_of_addAll
      (fun row hrow => absurd hrow List.not_mem_nil) (pos_of_windowRows hread.ledger) hclosed
  have hvalue : ∀ b,
      UsageAccumulator.valueAt accumulator b = contributed query.granularity.widthMs
          ((windowRows t query meterKey).map fun row =>
            (row.bucketStartMs, row.quantityMillis)) b +
        contributed query.granularity.widthMs live b := by
    intro b
    rw [UsageAccumulator.valueAt_addAll hlive, UsageAccumulator.valueAt_addAll hclosed,
      UsageAccumulator.valueAt_empty, zero_add]
  refine rows_eq_of_valueAt hpos ?_ ?_
  · intro b hb
    rw [hvalue, contributed_windowRows hread.window hread.selects hb,
      hliveSum b ((mem_bucketStarts_iff hread.window).mp hb).1, List.map_map,
      ← stored_add_live hread.window hread.ledger hread.selects hread.ended hb]
    rfl
  · intro b hb
    rw [hvalue, contributed_windowRows_outside hread.window hb, zero_add]
    by_cases hdvd : query.granularity.widthMs ∣ b
    · rw [hliveSum b hdvd]
      refine List.sum_eq_zero fun q hq => ?_
      obtain ⟨interval, _, rfl⟩ := List.mem_map.mp hq
      exact liveUsage_outside hread.window hdvd hb interval
    · exact contributed_of_not_dvd hdvd live

theorem usageOfMeter_ok {status : UsageStatus} {result : MeterUsage}
    (hread : Readable t query meterKey series)
    (hunavailable : status = .unavailable → ∀ x, x < query.endMs → t.quantityAt series x = 0)
    (h : usageOfMeter t query meterKey status = .ok result) :
    ∃ definition, meterDefinition meterKey = some definition ∧
      result = integralUsage query meterKey definition.unit status (t.quantityAt series) := by
  obtain ⟨accumulator, haccumulator, hresult⟩ := except_bind_eq_ok.mp h
  exact meterUsage_ok hread.window (meterAccumulator_rows hread haccumulator) hunavailable hresult

end Reading

end Metering
end O3k
