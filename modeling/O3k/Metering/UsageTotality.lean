import O3k.Metering.UsageIntegral

/-!
# A usage query that does not overflow succeeds

When the usage of every hour of the window fits an `i64`, no check of a query
for one series can fail: an hour has at most one aggregate row, and every
partial sum is at most the usage of the window.
-/

namespace O3k
namespace Metering

open Relational Relational.Transaction Semantics Intervals

namespace UsageAccumulator

variable {granularity : UsageGranularity}

theorem valueAt_nonneg {self : UsageAccumulator}
    (hpos : ∀ row ∈ Table.rows self, 0 < row.2) (b : Int) :
    0 ≤ valueAt self b := by
  unfold valueAt
  cases hget : Table.get? self b with
  | none => simp
  | some row => simpa using (hpos row (Table.mem_of_get? self hget)).le

theorem addAll_of_fits {contributions : List (Int × Int)} {self : UsageAccumulator}
    (hself : ∀ row ∈ Table.rows self, 0 < row.2) (hpos : ∀ c ∈ contributions, 0 < c.2)
    (hfits : ∀ b, granularity.widthMs ∣ b →
      valueAt self b + contributed granularity.widthMs contributions b ≤ i128Max) :
    ∃ self', addAll granularity self contributions = .ok self' := by
  induction contributions generalizing self with
  | nil => exact ⟨self, rfl⟩
  | cons c contributions ih =>
    have hc := hpos c List.mem_cons_self
    have hnonneg := valueAt_nonneg hself (alignDown granularity.widthMs c.1)
    have hrestNonneg :
        ∀ b, 0 ≤ contributed granularity.widthMs contributions b := by
      intro b
      refine List.sum_nonneg fun q hq => ?_
      obtain ⟨x, hx, rfl⟩ := List.mem_map.mp hq
      have := hpos x (List.mem_cons_of_mem _ hx)
      split_ifs <;> omega
    have htotal :
        valueAt self (alignDown granularity.widthMs c.1) + c.2 ≤ i128Max := by
      have hbound := hfits _ (dvd_alignDown granularity.widthMs c.1)
      rw [contributed_cons, if_pos rfl] at hbound
      have := hrestNonneg (alignDown granularity.widthMs c.1)
      omega
    have hadd :
        add granularity self c = .ok (Table.put self
          (alignDown granularity.widthMs c.1,
            valueAt self (alignDown granularity.widthMs c.1) + c.2)) := by
      unfold add
      rw [if_neg (not_lt.mpr hc.le)]
      exact except_bind_eq_ok.mpr ⟨_, checkedI128_of_le (by omega) htotal _, rfl⟩
    have hfirst : addAll granularity self [c] = .ok _ := except_bind_eq_ok.mpr ⟨_, hadd, rfl⟩
    obtain ⟨self', hrest⟩ :=
      ih (pos_of_addAll hself (fun x hx => hpos x (by simpa using Or.inl (List.mem_singleton.mp hx)))
          hfirst)
        (fun x hx => hpos x (List.mem_cons_of_mem _ hx))
        (by
          intro b hb
          have hbound := hfits b hb
          rw [contributed_cons] at hbound
          rw [valueAt_addAll hfirst, contributed_cons, contributed_nil]
          omega)
    refine ⟨self', ?_⟩
    rw [addAll, List.foldlM_cons]
    exact except_bind_eq_ok.mpr ⟨_, hadd, hrest⟩

end UsageAccumulator

theorem total_of_fits {buckets : List (Int × Int)} (e : KernelError) {first : Int}
    (hfirst : 0 ≤ first) (hpos : ∀ bucket ∈ buckets, 0 < bucket.2)
    (hfits : first + (buckets.map Prod.snd).sum ≤ i128Max) :
    ∃ total,
      buckets.foldlM (fun total bucket => checkedI128 (total + bucket.2) e) first = .ok total := by
  induction buckets generalizing first with
  | nil => exact ⟨first, rfl⟩
  | cons bucket buckets ih =>
    have hbucket := hpos bucket List.mem_cons_self
    have hrest : ∀ x ∈ buckets, 0 < x.2 :=
      fun x hx => hpos x (List.mem_cons_of_mem _ hx)
    have hnonneg : 0 ≤ (buckets.map Prod.snd).sum := by
      refine List.sum_nonneg fun q hq => ?_
      obtain ⟨x, hx, rfl⟩ := List.mem_map.mp hq
      exact (hrest x hx).le
    rw [List.map_cons, List.sum_cons] at hfits
    have hnext : 0 ≤ first + bucket.2 := by
      omega
    obtain ⟨total, htotal⟩ := ih hnext hrest (by omega)
    refine ⟨total, ?_⟩
    rw [List.foldlM_cons]
    exact except_bind_eq_ok.mpr ⟨_, checkedI128_of_le (by omega) (by omega) e, htotal⟩

section Reading

variable {t : MeteringTables} {query : UsageQuery} {meterKey : String} {series : Series}

abbrev UsageQuery.hourly (query : UsageQuery) : UsageQuery :=
  { query with granularity := .hour }

/-- The usage of every hour of the window fits an `i64`. -/
def HourlyFits (query : UsageQuery) (quantityAt : Int → Int) : Prop :=
  ∀ b ∈ bucketStarts query.hourly, bucketUsage query.hourly quantityAt b ≤ i64Max

theorem UsageQuery.Window.hourly (h : query.Window) :
    query.hourly.Window where
  nonneg := h.nonneg
  lt := h.lt
  range := h.range
  startAligned := query.granularity.dvd_widthMs.trans h.startAligned
  endAligned := query.granularity.dvd_widthMs.trans h.endAligned

theorem Readable.hourly (h : Readable t query meterKey series) :
    Readable t query.hourly meterKey series where
  window := h.window.hourly
  ledger := h.ledger
  selects := ⟨h.selects.intervals, h.selects.aggregates⟩
  ended := h.ended

theorem quantityAt_nonneg (hledger : Ledger t) (series : Series) (x : Int) :
    0 ≤ t.quantityAt series x := by
  refine List.sum_nonneg fun q hq => ?_
  obtain ⟨row, hrow, rfl⟩ := List.mem_map.mp hq
  have hpos := hledger.quantity row hrow
  unfold MeterIntervalRecord.quantityAt
  split_ifs <;> omega

theorem length_bucketStarts_hourly_le (hwindow : query.Window) :
    (bucketStarts query.hourly).length ≤ 8784 := by
  have hrange := hwindow.range
  have hlt := hwindow.lt
  rw [bucketStarts, List.length_map, List.length_range]
  simp only [UsageGranularity.widthMs, ingestBucketWidthMs]
  unfold maxUsageRangeMs at hrange
  omega

theorem window_fits {quantityAt : Int → Int}
    (hwindow : query.Window) (hfits : HourlyFits query quantityAt) :
    integral quantityAt query.startMs (min query.endMs query.evaluatedAtMs) ≤ i128Max := by
  have hlength := length_bucketStarts_hourly_le hwindow
  have hsum :
      ((bucketStarts query.hourly).map (bucketUsage query.hourly quantityAt)).sum
        ≤
      ((bucketStarts query.hourly).map (bucketUsage query.hourly quantityAt)).length • i64Max := by
    refine List.sum_le_card_nsmul _ _ fun q hq => ?_
    obtain ⟨b, hb, rfl⟩ := List.mem_map.mp hq
    exact hfits b hb
  rw [sum_bucketUsage hwindow.hourly, List.length_map, nsmul_eq_mul] at hsum
  have hbound : ((bucketStarts query.hourly).length : Int) ≤ 8784 := by
    omega
  have hmul := mul_le_mul_of_nonneg_right hbound (show 0 ≤ i64Max by decide)
  exact hsum.trans (hmul.trans (by decide))

theorem bucket_fits
    (hread : Readable t query meterKey series) (hfits : HourlyFits query (t.quantityAt series))
    {b : Int} (hb : b ∈ bucketStarts query) :
    bucketUsage query (t.quantityAt series) b ≤ i128Max := by
  obtain ⟨_, hstart, hend⟩ := (mem_bucketStarts_iff hread.window).mp hb
  refine le_trans ?_ (window_fits hread.window hfits)
  exact integral_mono (quantityAt_nonneg hread.ledger series) hstart (by omega)

theorem liveUsage_nonneg {interval : Int × Int} (hquantity : 0 < interval.1) (b : Int) :
    0 ≤ liveUsage query interval b :=
  mul_nonneg hquantity.le (overlap_nonneg _ _ _ _)

theorem rolledUp_nonneg (hledger : Ledger t) (series : Series) (width b : Int) :
    0 ≤ t.rolledUp series width b := by
  refine List.sum_nonneg fun q hq => ?_
  obtain ⟨row, hrow, rfl⟩ := List.mem_map.mp hq
  have hpos := hledger.positive row hrow
  split_ifs <;> omega

theorem live_le_bucketUsage
    (hread : Readable t query meterKey series) {b : Int} (hb : b ∈ bucketStarts query)
    {row : MeterIntervalRecord} (hrow : row ∈ openRows t query meterKey) :
    liveUsage query (row.quantity, row.startedAtMs) b ≤
    bucketUsage query (t.quantityAt series) b := by
  have hsum := stored_add_live hread.window hread.ledger hread.selects hread.ended hb
  have hstored := rolledUp_nonneg hread.ledger series query.granularity.widthMs b
  have hsingle :
      liveUsage query (row.quantity, row.startedAtMs) b
        ≤
      ((openRows t query meterKey).map fun row =>
        liveUsage query (row.quantity, row.startedAtMs) b).sum := by
    refine List.single_le_sum (fun q hq => ?_) _ (List.mem_map_of_mem hrow)
    obtain ⟨x, hx, rfl⟩ := List.mem_map.mp hq
    refine liveUsage_nonneg ?_ b
    exact pos_of_openRows hread.ledger _ (List.mem_map_of_mem hx)
  omega

theorem liveContributions_of_fits
    (hread : Readable t query meterKey series) (hend : query.endMs ≤ i64Max)
    (hfits : HourlyFits query (t.quantityAt series)) {row : MeterIntervalRecord}
    (hrow : row ∈ openRows t query meterKey) :
    ∃ live, liveContributions query (row.quantity, row.startedAtMs) = .ok live := by
  have hquantity : 0 < row.quantity :=
    pos_of_openRows hread.ledger (row.quantity, row.startedAtMs) (List.mem_map_of_mem hrow)
  have hwindow := hread.window.hourly
  have hwidth := ingestBucketWidthMs_pos
  have hnonneg := hread.window.nonneg
  have hrange := hread.window.range
  unfold maxUsageRangeMs at hrange
  have hmin :
      min (min query.endMs query.evaluatedAtMs) query.endMs
        =
      min query.endMs query.evaluatedAtMs := by
    omega
  unfold liveContributions
  dsimp only
  rw [hmin]
  split_ifs with hsegment hnegative
  · omega
  · rw [bucketContributions, if_neg (by omega)]
    refine bucketContributionsFrom_of_fits hwidth ⟨fun b hb hmeets => ?_, ?_⟩
    · have hspan := hmeets
      unfold overlap at hspan
      have hbucket :=
        add_width_le_of_lt hwidth hb hwindow.endAligned (show b < query.endMs by omega)
      refine ⟨by unfold i64Max ingestBucketWidthMs at *; omega, hbucket.trans hend, ?_⟩
      rw [Int.toNat_of_nonneg hquantity.le]
      by_cases hmem : b ∈ bucketStarts query.hourly
      · refine le_trans ?_ (hfits b hmem)
        exact live_le_bucketUsage hread.hourly hmem hrow
      · have hzero := liveUsage_outside hwindow hb hmem (row.quantity, row.startedAtMs)
        rw [liveUsage] at hzero
        refine le_trans (le_of_eq hzero) (by decide)
    · have hfrom :
          query.startMs ≤ alignDown ingestBucketWidthMs (max row.startedAtMs query.startMs) := by
        by_contra hbefore
        have hlt := lt_alignDown_add hwidth (max row.startedAtMs query.startMs)
        have := add_width_le_of_lt hwidth
          (dvd_alignDown ingestBucketWidthMs (max row.startedAtMs query.startMs))
          hwindow.startAligned (not_le.mp hbefore)
        have hsame : query.hourly.startMs = query.startMs := rfl
        omega
      unfold maxIngestBuckets
      have : (96000 : Int) * ingestBucketWidthMs = 345600000000 := by
        decide
      push_cast
      omega
  · exact ⟨[], rfl⟩

theorem loadAggregates_of_window (hread : Readable t query meterKey series) :
    loadAggregates t query meterKey = .ok ((windowRows t query meterKey).map fun row =>
      (row.bucketStartMs, row.quantityMillis)) := by
  have hmem : ∀ row ∈ windowRows t query meterKey,
      row ∈ t.aggregates.rows ∧ row.series = series ∧
        query.startMs ≤ row.bucketStartMs ∧ row.bucketStartMs < query.endMs := by
    intro row hrow
    obtain ⟨hrow, hsel⟩ :=
      List.mem_filter.mp ((List.perm_insertionSort _ _).mem_iff.mp hrow)
    simp only [Bool.and_eq_true, decide_eq_true_eq] at hsel
    exact ⟨hrow, (hread.selects.aggregates row hrow).mp hsel.1.1, hsel.1.2, hsel.2⟩
  have hnodup :
      ((windowRows t query meterKey).map MeterAggregateRecord.bucketStartMs).Nodup := by
    refine List.Nodup.map_on ?_ ?_
    · intro row hrow row' hrow' hstart
      obtain ⟨hrow, hseries, _⟩ := hmem row hrow
      obtain ⟨hrow', hseries', _⟩ := hmem row' hrow'
      exact t.aggregates.eq_of_mem_of_key_eq hrow hrow'
        (bucketKey_inj.mpr ⟨hseries.trans hseries'.symm, hstart⟩)
    · refine ((List.perm_insertionSort _ _).nodup_iff).mpr (List.Nodup.filter _ ?_)
      exact List.Nodup.of_map MeterAggregateRecord.key t.aggregates.keys_nodup
  have hsubset :
      (windowRows t query meterKey).map MeterAggregateRecord.bucketStartMs
        ⊆
      bucketStarts query.hourly := by
    intro b hb
    obtain ⟨row, hrow, rfl⟩ := List.mem_map.mp hb
    obtain ⟨hrow, _, hstart, hend⟩ := hmem row hrow
    have haligned := (hread.ledger.aligned row hrow).1
    exact (mem_bucketStarts_iff hread.window.hourly).mpr
      ⟨haligned, hstart,
        add_width_le_of_lt ingestBucketWidthMs_pos haligned hread.window.hourly.endAligned hend⟩
  have hrows : (windowRows t query meterKey).length ≤ 8784 := by
    have hle := (List.subperm_of_subset hnodup hsubset).length_le
    rw [List.length_map] at hle
    exact hle.trans (length_bucketStarts_hourly_le hread.window)
  have hseries :
      (((windowRows t query meterKey).map fun row => row.series.resourceId).dedup).length
        ≤
      1 := by
    have hsame :
        ((windowRows t query meterKey).map fun row => row.series.resourceId).dedup
          ⊆
        [series.resourceId] := by
      intro id hid
      obtain ⟨row, hrow, rfl⟩ := List.mem_map.mp (List.mem_dedup.mp hid)
      rw [(hmem row hrow).2.1]
      exact List.mem_cons_self
    exact (List.subperm_of_subset (List.nodup_dedup _) hsame).length_le
  have htake :
      (windowRows t query meterKey).take (maxUsageAggregateRows + 1)
        =
      windowRows t query meterKey := by
    refine List.take_of_length_le ?_
    unfold maxUsageAggregateRows
    omega
  unfold loadAggregates
  rw [htake]
  dsimp only
  rw [if_neg, if_neg]
  · unfold maxUsageSeries
    omega
  · unfold maxUsageAggregateRows
    omega

theorem length_openRows_le (hread : Readable t query meterKey series) :
    (openRows t query meterKey).length ≤ 1 := by
  have hmem : ∀ row ∈ openRows t query meterKey,
      row ∈ t.intervals.rows ∧ row.series = series ∧ row.endedAtMs = none := by
    intro row hrow
    obtain ⟨hrow, hsel⟩ :=
      List.mem_filter.mp ((List.perm_insertionSort _ _).mem_iff.mp hrow)
    simp only [Bool.and_eq_true, decide_eq_true_eq, Option.isNone_iff_eq_none] at hsel
    exact ⟨hrow, (hread.selects.intervals row hrow).mp hsel.1.1, hsel.1.2⟩
  have hnodup : (openRows t query meterKey).Nodup := by
    refine ((List.perm_insertionSort _ _).nodup_iff).mpr (List.Nodup.filter _ ?_)
    exact List.Nodup.of_map MeterIntervalRecord.intervalId t.intervals.keys_nodup
  cases hrows : openRows t query meterKey with
  | nil => simp
  | cons first rest =>
    rw [hrows] at hmem hnodup
    have hsame : first :: rest ⊆ [first] := by
      intro row hrow
      obtain ⟨hfirst, hseries, hopen⟩ := hmem first List.mem_cons_self
      obtain ⟨hrow, hseries', hopen'⟩ := hmem row hrow
      rw [hread.ledger.sound.oneOpen row hrow first hfirst (hseries'.trans hseries.symm)
        hopen' hopen]
      exact List.mem_cons_self
    exact (List.subperm_of_subset hnodup hsame).length_le

theorem liveLoop_of_fits {intervals : List (Int × Int)} {self : UsageAccumulator}
    (hself : ∀ row ∈ Table.rows self, 0 < row.2)
    (hquantity : ∀ interval ∈ intervals, 0 < interval.1)
    (hlive : ∀ interval ∈ intervals, ∃ live, liveContributions query interval = .ok live)
    (hfits : ∀ b, query.granularity.widthMs ∣ b →
      UsageAccumulator.valueAt self b +
          (intervals.map fun interval => liveUsage query interval b).sum
        ≤
      i128Max) :
    ∃ self',
      intervals.foldlM
          (fun accumulator interval => do
            let contributions ← liveContributions query interval
            UsageAccumulator.addAll query.granularity accumulator contributions)
          self = .ok self' := by
  induction intervals generalizing self with
  | nil => exact ⟨self, rfl⟩
  | cons interval intervals ih =>
    obtain ⟨live, hcontributions⟩ := hlive interval List.mem_cons_self
    have hrestQuantity : ∀ i ∈ intervals, 0 < i.1 :=
      fun i hi => hquantity i (List.mem_cons_of_mem _ hi)
    have hpos := pos_of_liveContributions (hquantity interval List.mem_cons_self) hcontributions
    have hrestNonneg :
        ∀ b, 0 ≤ (intervals.map fun interval => liveUsage query interval b).sum := by
      intro b
      refine List.sum_nonneg fun q hq => ?_
      obtain ⟨i, hi, rfl⟩ := List.mem_map.mp hq
      exact liveUsage_nonneg (hrestQuantity i hi) b
    obtain ⟨self₁, hadd⟩ := UsageAccumulator.addAll_of_fits hself hpos fun b hb => by
      have hbound := hfits b hb
      have := hrestNonneg b
      rw [List.map_cons, List.sum_cons] at hbound
      rw [contributed_liveContributions hcontributions hb]
      omega
    obtain ⟨self', hrest⟩ := ih (UsageAccumulator.pos_of_addAll hself hpos hadd) hrestQuantity
      (fun i hi => hlive i (List.mem_cons_of_mem _ hi))
      (by
        intro b hb
        have hbound := hfits b hb
        rw [List.map_cons, List.sum_cons] at hbound
        rw [UsageAccumulator.valueAt_addAll hadd, contributed_liveContributions hcontributions hb]
        omega)
    refine ⟨self', ?_⟩
    rw [List.foldlM_cons]
    exact except_bind_eq_ok.mpr
      ⟨self₁, except_bind_eq_ok.mpr ⟨live, hcontributions, hadd⟩, hrest⟩

theorem meterAccumulator_of_fits
    (hread : Readable t query meterKey series) (hend : query.endMs ≤ i64Max)
    (hfits : HourlyFits query (t.quantityAt series)) :
    ∃ accumulator, meterAccumulator t query meterKey = .ok accumulator := by
  have hempty : ∀ row ∈ Table.rows (∅ : UsageAccumulator), 0 < row.2 :=
    fun row hrow => absurd hrow List.not_mem_nil
  have hlive :
      ∀ b, 0 ≤ ((openRows t query meterKey).map fun row =>
        liveUsage query (row.quantity, row.startedAtMs) b).sum := by
    intro b
    refine List.sum_nonneg fun q hq => ?_
    obtain ⟨row, hrow, rfl⟩ := List.mem_map.mp hq
    exact liveUsage_nonneg (pos_of_openRows hread.ledger _ (List.mem_map_of_mem hrow)) b
  have htotal : ∀ b, query.granularity.widthMs ∣ b →
      contributed query.granularity.widthMs
            ((windowRows t query meterKey).map fun row =>
              (row.bucketStartMs, row.quantityMillis)) b +
          ((openRows t query meterKey).map fun row =>
            liveUsage query (row.quantity, row.startedAtMs) b).sum
        ≤
      i128Max := by
    intro b hdvd
    by_cases hb : b ∈ bucketStarts query
    · rw [contributed_windowRows hread.window hread.selects hb,
        stored_add_live hread.window hread.ledger hread.selects hread.ended hb]
      exact bucket_fits hread hfits hb
    · rw [contributed_windowRows_outside hread.window hb, zero_add]
      refine le_trans (le_of_eq ?_) (show 0 ≤ i128Max by decide)
      refine List.sum_eq_zero fun q hq => ?_
      obtain ⟨row, _, rfl⟩ := List.mem_map.mp hq
      exact liveUsage_outside hread.window hdvd hb _
  have hstoredPos :
      ∀ c ∈ (windowRows t query meterKey).map fun row =>
        (row.bucketStartMs, row.quantityMillis), 0 < c.2 :=
    pos_of_windowRows hread.ledger
  obtain ⟨closed, hclosed⟩ := UsageAccumulator.addAll_of_fits hempty hstoredPos
    fun b hb => by
      have := htotal b hb
      have := hlive b
      rw [UsageAccumulator.valueAt_empty]
      omega
  have hlength := length_openRows_le hread
  have hintervals :
      loadOpenIntervals t query meterKey
        =
      (openRows t query meterKey).map fun row => (row.quantity, row.startedAtMs) := by
    unfold loadOpenIntervals maxOpenIntervals
    rw [List.take_of_length_le (by omega)]
  obtain ⟨accumulator, hloop⟩ :=
    liveLoop_of_fits
      (UsageAccumulator.pos_of_addAll hempty hstoredPos hclosed)
      (pos_of_openRows hread.ledger)
      (by
        intro interval hinterval
        obtain ⟨row, hrow, rfl⟩ := List.mem_map.mp hinterval
        exact liveContributions_of_fits hread hend hfits hrow)
      (by
        intro b hb
        rw [UsageAccumulator.valueAt_addAll hclosed, UsageAccumulator.valueAt_empty, zero_add,
          List.map_map]
        exact htotal b hb)
  refine ⟨accumulator, ?_⟩
  unfold meterAccumulator
  refine except_bind_eq_ok.mpr ⟨_, loadAggregates_of_window hread, ?_⟩
  refine except_bind_eq_ok.mpr ⟨closed, hclosed, ?_⟩
  dsimp only
  rw [if_neg, hintervals]
  · exact hloop
  · rw [hintervals, List.length_map]
    unfold maxOpenIntervals
    omega

theorem usageOfMeter_of_fits {definition : MeterDefinition}
    (hread : Readable t query meterKey series) (hend : query.endMs ≤ i64Max)
    (hfits : HourlyFits query (t.quantityAt series))
    (hdefinition : meterDefinition meterKey = some definition) (status : UsageStatus) :
    ∃ result, usageOfMeter t query meterKey status = .ok result := by
  obtain ⟨accumulator, haccumulator⟩ := meterAccumulator_of_fits hread hend hfits
  have hrows := meterAccumulator_rows hread haccumulator
  have hresult : ∃ result, meterUsage meterKey query status accumulator = .ok result := by
    unfold meterUsage
    rw [hdefinition]
    dsimp only
    split_ifs with hstatus
    · exact ⟨_, rfl⟩
    · let inWindow := (Table.rows accumulator).filter fun bucket =>
        query.startMs ≤ bucket.1 && bucket.1 < query.endMs
      have hrowsPos : ∀ bucket ∈ Table.rows accumulator, 0 < bucket.2 := by
        rw [hrows]
        intro bucket hbucket
        obtain ⟨b, hb, rfl⟩ := List.mem_map.mp hbucket
        have hne := of_decide_eq_true (List.mem_filter.mp hb).2
        have hnonneg : 0 ≤ bucketUsage query (t.quantityAt series) b :=
          integral_nonneg (quantityAt_nonneg hread.ledger series) _ _
        exact lt_of_le_of_ne hnonneg (Ne.symm hne)
      have hpos : ∀ bucket ∈ inWindow, 0 < bucket.2 :=
        fun bucket hbucket => hrowsPos bucket (List.mem_filter.mp hbucket).1
      have hsum : 0 + (inWindow.map Prod.snd).sum ≤ i128Max := by
        refine le_trans ?_ (window_fits hread.window hfits)
        rw [zero_add, ← sum_bucketUsage hread.window, ← sum_nonzero_buckets, ← hrows]
        refine List.Sublist.sum_le_sum (List.filter_sublist.map Prod.snd) fun q hq => ?_
        obtain ⟨bucket, hbucket, rfl⟩ := List.mem_map.mp hq
        exact (hrowsPos bucket hbucket).le
      obtain ⟨total, htotal⟩ :=
        total_of_fits (.meteringCorrupt "metering usage overflow") (le_refl 0) hpos hsum
      exact ⟨_, except_bind_eq_ok.mpr ⟨total, htotal, rfl⟩⟩
  obtain ⟨result, hresult⟩ := hresult
  exact ⟨result, except_bind_eq_ok.mpr ⟨accumulator, haccumulator, hresult⟩⟩

end Reading

end Metering
end O3k
