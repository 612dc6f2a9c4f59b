import O3k.Metering.UsageTotality

/-!
# What a usage report says about a run

After any run, the report of a query that selects one series per meter shows the
integral of the quantity the accepted observations determine.
-/

namespace O3k
namespace Metering

open Relational Relational.Transaction Semantics Intervals

variable {newV5 : String → Uuid} {s : MeteringRun} {query : UsageQuery} {meterKey : String}
  {series : Series}

/-- The query selects this series, and no other one that has been observed. -/
def SelectsSeries (accepted : List MeterObservation) (query : UsageQuery) (meterKey : String)
    (series : Series) : Prop :=
  query.selects meterKey series = true ∧
    ∀ o ∈ accepted, query.selects meterKey o.series = true → o.series = series

def ReportsIntegral
    (query : UsageQuery) (status : UsageStatus) (meterKey : String) (quantityAt : Int → Int)
    (result : MeterUsage) : Prop :=
  ∃ definition, meterDefinition meterKey = some definition ∧
    result = integralUsage query meterKey definition.unit status quantityAt

def reportStatus (t : MeteringTables) (query : UsageQuery) : UsageStatus :=
  usageStatus (t.authority.map MeteringAuthority.authorityStartedAtMs) query.startMs
    query.endMs query.evaluatedAtMs

theorem Simulated.readable (h : Simulated s) (hwindow : query.Window)
    (hselects : SelectsSeries s.accepted query meterKey series)
    (hlast : ∀ o ∈ s.accepted, o.series = series → o.observedAtMs ≤ query.evaluatedAtMs) :
    Readable s.tables query meterKey series where
  window := hwindow
  ledger := h.invariant.ledger
  selects := by
    constructor
    · intro row hrow
      obtain ⟨o, ho, hseries, _⟩ := h.provenance.started row hrow
      rw [← hseries]
      exact ⟨hselects.2 o ho, fun heq => heq ▸ hselects.1⟩
    · intro row hrow
      obtain ⟨o, ho, hseries⟩ := h.provenance.stored row hrow
      rw [← hseries]
      exact ⟨hselects.2 o ho, fun heq => heq ▸ hselects.1⟩
  ended := by
    intro row hrow hseries ended hended
    obtain ⟨o, ho, hoSeries, hat⟩ := h.provenance.ended row hrow ended hended
    rw [← hat]
    exact hlast o ho (hoSeries.trans hseries)

theorem Simulated.anchored
    (h : Simulated s) {row : MeterIntervalRecord} (hrow : row ∈ s.tables.intervals.rows) :
    ∃ authority, s.tables.authority = some authority ∧
      authority.authorityStartedAtMs ≤ row.startedAtMs := by
  obtain ⟨o, ho, _, hat⟩ := h.provenance.started row hrow
  obtain ⟨authority, hauthority, hfrom, _⟩ := h.invariant.covered.between o ho
  exact ⟨authority, hauthority, hat ▸ hfrom⟩

theorem Simulated.quantityAt_of_unavailable
    (h : Simulated s) (hstatus : reportStatus s.tables query = .unavailable)
    (series : Series) {x : Int} (hx : x < query.endMs) :
    s.tables.quantityAt series x = 0 := by
  refine List.sum_eq_zero fun q hq => ?_
  obtain ⟨row, hrow, rfl⟩ := List.mem_map.mp hq
  obtain ⟨authority, hauthority, hfrom⟩ := h.anchored hrow
  unfold reportStatus usageStatus at hstatus
  rw [hauthority] at hstatus
  dsimp only [Option.map_some] at hstatus
  split_ifs at hstatus with hbefore
  have hlate : ¬ row.startedAtMs ≤ x := by
    omega
  simp [MeterIntervalRecord.quantityAt, hlate]

theorem Simulated.quantityAt_eq (h : Simulated s) (series : Series) :
    (quantityHistory series s.accepted).quantityAt = s.tables.quantityAt series :=
  funext (h.represents series).quantityAt

theorem Simulated.usage_ok {report : MeterUsageReport}
    (h : Simulated s) (seriesOf : String → Series)
    (hselects : ∀ m ∈ query.meterKeys, SelectsSeries s.accepted query m (seriesOf m))
    (hlast : ∀ m ∈ query.meterKeys, ∀ o ∈ s.accepted, o.series = seriesOf m →
      o.observedAtMs ≤ query.evaluatedAtMs)
    (hreport : usage s.tables query = .ok report) :
    List.Forall₂
      (fun m result =>
        ReportsIntegral query (reportStatus s.tables query) m
          (quantityHistory (seriesOf m) s.accepted).quantityAt result)
      query.meterKeys report.meters := by
  obtain ⟨_, hvalid, hsnapshot⟩ := except_bind_eq_ok.mp hreport
  obtain ⟨meters, hmeters, hresult⟩ := except_bind_eq_ok.mp hsnapshot
  cases hresult
  refine except_mapM_forall₂ (fun m hm result hok => ?_) hmeters
  rw [h.quantityAt_eq]
  exact usageOfMeter_ok
    (h.readable (UsageQuery.window_of_validate hvalid) (hselects m hm) (hlast m hm))
    (fun hstatus x hx => h.quantityAt_of_unavailable hstatus (seriesOf m) hx) hok

theorem UsageQuery.definition_of_validate {query : UsageQuery} (h : query.validate = .ok ()) :
    ∀ m ∈ query.meterKeys, ∃ definition, meterDefinition m = some definition := by
  have hloop :
      ∀ (granularity : UsageGranularity) (keys seen : List String),
        validateMeterKeys granularity seen keys = .ok () →
          ∀ m ∈ keys, ∃ definition, meterDefinition m = some definition := by
    intro granularity keys
    induction keys with
    | nil => exact fun _ _ m hm => absurd hm List.not_mem_nil
    | cons key keys ih =>
      intro seen hok m hm
      rw [validateMeterKeys] at hok
      cases hdefinition : meterDefinition key with
      | none =>
        rw [hdefinition] at hok
        cases hok
      | some definition =>
        rw [hdefinition] at hok
        dsimp only at hok
        split_ifs at hok
        rcases List.mem_cons.mp hm with rfl | hm
        · exact ⟨definition, hdefinition⟩
        · exact ih _ hok m hm
  rw [validate] at h
  split at h
  · cases h
  split at h
  · cases h
  obtain ⟨_, hkeys, _⟩ := except_bind_eq_ok.mp h
  exact hloop _ _ _ hkeys

theorem Simulated.usage_of_fits {seriesOf : String → Series}
    (h : Simulated s) (hvalid : query.validate = .ok ()) (hend : query.endMs ≤ i64Max)
    (hselects : ∀ m ∈ query.meterKeys, SelectsSeries s.accepted query m (seriesOf m))
    (hlast : ∀ m ∈ query.meterKeys, ∀ o ∈ s.accepted, o.series = seriesOf m →
      o.observedAtMs ≤ query.evaluatedAtMs)
    (hfits : ∀ m ∈ query.meterKeys,
      HourlyFits query (quantityHistory (seriesOf m) s.accepted).quantityAt) :
    ∃ report, usage s.tables query = .ok report := by
  have hwindow := UsageQuery.window_of_validate hvalid
  obtain ⟨meters, hmeters⟩ :=
    except_mapM_of_forall
      (f := fun m => usageOfMeter s.tables query m (reportStatus s.tables query))
      (fun m hm => by
        obtain ⟨definition, hdefinition⟩ := UsageQuery.definition_of_validate hvalid m hm
        have hfit := hfits m hm
        rw [h.quantityAt_eq] at hfit
        exact usageOfMeter_of_fits (h.readable hwindow (hselects m hm) (hlast m hm)) hend hfit
          hdefinition _)
  exact ⟨_, except_bind_eq_ok.mpr ⟨(), hvalid, except_bind_eq_ok.mpr ⟨meters, hmeters, rfl⟩⟩⟩

theorem integralUsage_of_stop {history : QuantityHistory} {stop : MeterObservation}
    (hat : stop.observedAtMs = query.evaluatedAtMs) (meterKey : String) (unit : MeterUnit) (status : UsageStatus) :
    integralUsage query meterKey unit status (history.observe stop).quantityAt =
    integralUsage query meterKey unit status history.quantityAt := by
  have hsame : ∀ lo hi, hi ≤ query.evaluatedAtMs →
      integral (history.observe stop).quantityAt lo hi = integral history.quantityAt lo hi := by
    intro lo hi hhi
    refine integral_congr fun x _ hx => ?_
    have hbefore : ¬ stop.observedAtMs ≤ x := by
      omega
    by_cases hnew :
        history.consuming ≠ stop.consuming ∧ history.SettledBy stop.observedAtMs
    · rw [QuantityHistory.observe, if_pos hnew]
      exact if_neg hbefore
    · rw [QuantityHistory.observe, if_neg hnew]
  have hbucket : ∀ b,
      bucketUsage query (history.observe stop).quantityAt b
        =
      bucketUsage query history.quantityAt b :=
    fun b => hsame b _ (min_le_right _ _)
  simp only [integralUsage, hbucket, hsame _ _ (min_le_right query.endMs query.evaluatedAtMs)]

theorem forall₂_unique {α β : Type} {R R' : α → β → Prop} {xs : List α} {ys ys' : List β}
    (hunique : ∀ x ∈ xs, ∀ y y', R x y → R' x y' → y = y') (h : List.Forall₂ R xs ys)
    (h' : List.Forall₂ R' xs ys') :
    ys = ys' := by
  induction h generalizing ys' with
  | nil =>
    cases h'
    rfl
  | cons hxy hrest ih =>
    cases h' with
    | cons hxy' hrest' =>
      rw [hunique _ List.mem_cons_self _ _ hxy hxy',
        ih (fun x hx => hunique x (List.mem_cons_of_mem _ hx)) hrest']

theorem Simulated.usage_of_stop {seriesOf : String → Series} {stop : MeterObservation}
    {report report' : MeterUsageReport} (h : Simulated s)
    (hselects : ∀ m ∈ query.meterKeys, SelectsSeries s.accepted query m (seriesOf m))
    (hlast : ∀ m ∈ query.meterKeys, ∀ o ∈ s.accepted, o.series = seriesOf m →
      o.observedAtMs ≤ query.evaluatedAtMs)
    (hmeter : meterKey ∈ query.meterKeys) (hseries : stop.series = seriesOf meterKey)
    (hstop : stop.consuming = false) (hat : stop.observedAtMs = query.evaluatedAtMs)
    (hconsuming : (quantityHistory (seriesOf meterKey) s.accepted).consuming = true)
    (haccepts : Accepts newV5 s.tables stop) (hreport : usage s.tables query = .ok report)
    (hreport' : usage (meteringStep newV5 s (.recordObservation stop)).tables query = .ok report') :
    report'.meters = report.meters := by
  have hnext : Simulated (meteringStep newV5 s (.recordObservation stop)) := by
    refine h.step _ fun hstart => ?_
    cases hstop.symm.trans hstart
  have haccepted :
      (meteringStep newV5 s (.recordObservation stop)).accepted = s.accepted ++ [stop] := by
    simp only [meteringStep, if_pos haccepts]
  have hkey : ∀ m ∈ query.meterKeys, (seriesOf m).meterKey = m := by
    intro m hm
    have hsel := (hselects m hm).1
    simp only [UsageQuery.selects, Bool.and_eq_true, decide_eq_true_eq] at hsel
    exact hsel.1.2
  have hstatus :
      reportStatus (meteringStep newV5 s (.recordObservation stop)).tables query
        =
      reportStatus s.tables query := by
    obtain ⟨row, hrow, _⟩ := (h.represents (seriesOf meterKey)).consuming.mp hconsuming
    obtain ⟨authority, hauthority, _⟩ := h.anchored hrow
    have hafter := (recordObservation_ok haccepts).authority
    simp only [reportStatus, meteringStep, hafter, hauthority]
    rfl
  have hreports := h.usage_ok seriesOf hselects hlast hreport
  have hreports' := hnext.usage_ok seriesOf ?_ ?_ hreport'
  · refine (forall₂_unique ?_ hreports hreports').symm
    rintro m hm result result' ⟨definition, hdefinition, rfl⟩ ⟨definition', hdefinition', rfl⟩
    obtain rfl : definition = definition' :=
      Option.some.inj (hdefinition.symm.trans hdefinition')
    rw [hstatus, haccepted, quantityHistory_snoc]
    split_ifs with hsame
    · have hmeters : m = meterKey := by
        rw [← hkey m hm, ← hkey meterKey hmeter, ← hseries, hsame]
      subst hmeters
      exact (integralUsage_of_stop hat _ _ _).symm
    · rfl
  · intro m hm
    rw [haccepted]
    refine ⟨(hselects m hm).1, fun o ho hsel => ?_⟩
    rcases List.mem_append.mp ho with ho | ho
    · exact (hselects m hm).2 o ho hsel
    · rw [List.mem_singleton.mp ho, hseries] at hsel ⊢
      simp only [UsageQuery.selects, Bool.and_eq_true, decide_eq_true_eq] at hsel
      rw [← hsel.1.2, hkey meterKey hmeter]
  · intro m hm o ho hoSeries
    rw [haccepted] at ho
    rcases List.mem_append.mp ho with ho | ho
    · exact hlast m hm o ho hoSeries
    · rw [List.mem_singleton.mp ho]
      exact hat.le

theorem bucketUsage_day (query : UsageQuery) (quantityAt : Int → Int) (day : Int) :
    bucketUsage { query with granularity := .day } quantityAt day
      =
    ((List.range 24).map fun hour : Nat =>
      bucketUsage { query with granularity := .hour } quantityAt
        (day + hour * ingestBucketWidthMs)).sum :=
  integral_buckets_clip quantityAt ingestBucketWidthMs_pos.le day query.evaluatedAtMs 24

/-- **Usage is the integral of the quantity.** After any run, a query that
selects one series per meter and evaluates no earlier than its last observation
succeeds when every hour fits, and reports per bucket the integral of the
quantity ended at the evaluation time; closing an open series then first reports
the same, and a day is the sum of its hours. -/
theorem usage_is_integral
    (newV5 : String → Uuid) (s : MeteringRun) (calls : List MeteringCall) (query : UsageQuery)
    (seriesOf : String → Series) (hfresh : Fresh s)
    (hanew : EachStep (meteringStep newV5) (OpensAnew newV5) s calls)
    (hvalid : query.validate = .ok ()) (hend : query.endMs ≤ i64Max)
    (hselects : ∀ m ∈ query.meterKeys,
      SelectsSeries (run (meteringStep newV5) s calls).accepted query m (seriesOf m))
    (hlast : ∀ m ∈ query.meterKeys, ∀ o ∈ (run (meteringStep newV5) s calls).accepted,
      o.series = seriesOf m → o.observedAtMs ≤ query.evaluatedAtMs) :
    let s' := run (meteringStep newV5) s calls
    let history := fun m => quantityHistory (seriesOf m) s'.accepted
    ((∀ m ∈ query.meterKeys, HourlyFits query (history m).quantityAt) →
      ∃ report, usage s'.tables query = .ok report) ∧
    (∀ report, usage s'.tables query = .ok report →
      List.Forall₂
        (fun m result =>
          ReportsIntegral query (reportStatus s'.tables query) m (history m).quantityAt result)
        query.meterKeys report.meters) ∧
    (∀ m ∈ query.meterKeys, ∀ stop, stop.series = seriesOf m → stop.consuming = false →
      stop.observedAtMs = query.evaluatedAtMs → (history m).consuming = true →
        Accepts newV5 s'.tables stop →
          ∀ report report', usage s'.tables query = .ok report →
            usage (meteringStep newV5 s' (.recordObservation stop)).tables query = .ok report' →
              report'.meters = report.meters) ∧
    (∀ m ∈ query.meterKeys, ∀ day,
      bucketUsage { query with granularity := .day } (history m).quantityAt day
        =
      ((List.range 24).map fun hour : Nat =>
        bucketUsage { query with granularity := .hour } (history m).quantityAt
          (day + hour * ingestBucketWidthMs)).sum) := by
  have hsim := simulated_run hfresh hanew
  refine ⟨?_, ?_, ?_, ?_⟩
  · intro hfits
    exact hsim.usage_of_fits hvalid hend hselects hlast hfits
  · intro report hreport
    exact hsim.usage_ok seriesOf hselects hlast hreport
  · intro m hm stop hseries hstop hat hconsuming haccepts report report' hreport hreport'
    exact hsim.usage_of_stop hselects hlast hm hseries hstop hat hconsuming haccepts hreport
      hreport'
  · intro m _ day
    exact bucketUsage_day query _ day

/-- Twenty milliseconds of the first hour of an instance. -/
def firstHour : UsageQuery where
  scope := "project-a"
  meterKeys := ["compute:instance_seconds"]
  startMs := 0
  endMs := 3600000
  granularity := .hour
  resourceId := none
  evaluatedAtMs := 20

def serverSeries : Series := ⟨"compute:instance_seconds", "project-a", "server-1"⟩

theorem usage_is_integral_of_running_instance :
    let calls :=
      [instanceObservation true 2, instanceObservation false 10, instanceObservation true 10]
    let s' := run (meteringStep id) ⟨⟨none, ∅, ∅⟩, []⟩ calls
    ∀ report, usage s'.tables firstHour = .ok report →
      List.Forall₂
        (fun m result =>
          ReportsIntegral firstHour (reportStatus s'.tables firstHour) m
            (quantityHistory serverSeries s'.accepted).quantityAt result)
        firstHour.meterKeys report.meters :=
  (usage_is_integral id ⟨⟨none, ∅, ∅⟩, []⟩
    [instanceObservation true 2, instanceObservation false 10, instanceObservation true 10]
    firstHour (fun _ => serverSeries) ⟨rfl, rfl, rfl⟩ (by decide) (by decide) (by decide)
    (by unfold SelectsSeries; decide) (by decide)).2.1

/-- A start, a stop and a start again at one instant: the ten milliseconds that
follow are in no report. -/
theorem restarted_instance_unreported :
    ¬ ∀ (newV5 : String → Uuid) (s : MeteringRun) (calls : List MeteringCall)
        (query : UsageQuery) (seriesOf : String → Series),
      let s' := run (meteringStep newV5) s calls
      Fresh s → query.validate = .ok () →
        (∀ m ∈ query.meterKeys, SelectsSeries s'.accepted query m (seriesOf m)) →
        (∀ m ∈ query.meterKeys, ∀ o ∈ s'.accepted,
          o.series = seriesOf m → o.observedAtMs ≤ query.evaluatedAtMs) →
        ∀ report, usage s'.tables query = .ok report →
          List.Forall₂
            (fun m result =>
              ReportsIntegral query (reportStatus s'.tables query) m
                (quantityHistory (seriesOf m) s'.accepted).quantityAt result)
            query.meterKeys report.meters := by
  intro hclaim
  have hreports := hclaim id ⟨⟨none, ∅, ∅⟩, []⟩
    [instanceObservation true 10, instanceObservation false 10, instanceObservation true 10]
    firstHour (fun _ => serverSeries) ⟨rfl, rfl, rfl⟩ (by decide)
    (by unfold SelectsSeries; decide) (by decide) _ rfl
  obtain ⟨⟨definition, hdefinition, hresult⟩, _⟩ := List.forall₂_cons.mp hreports
  have htotal :
      formatQuantityMillis 0 = formatQuantityMillis
        (integral (quantityHistory serverSeries (run (meteringStep id) ⟨⟨none, ∅, ∅⟩, []⟩
          [instanceObservation true 10, instanceObservation false 10,
            instanceObservation true 10]).accepted).quantityAt 0 20) :=
    congrArg MeterUsage.total hresult
  revert htotal
  decide

end Metering
end O3k
