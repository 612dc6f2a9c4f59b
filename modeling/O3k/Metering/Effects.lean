import O3k.Metering.Store

/-!
# What an accepted observation does

`Recorded` lists everything a successful `recordObservation` can do to the
store: nothing, open an interval, or close one and fold it into the aggregates.
What folding does is stated through `rolledUp`, the usage stored for a series
in a bucket of any width.
-/

namespace O3k
namespace Metering

open Relational Relational.Transaction Intervals

namespace MeteringTables

/-- The usage stored for a series in the bucket of the given width that starts
at `b`. -/
def rolledUp (t : MeteringTables) (series : Series) (width b : Int) : Int :=
  t.aggregates.sumBy fun row =>
    if row.series = series ∧ alignDown width row.bucketStartMs = b then
      row.quantityMillis
    else
      0

variable {t t' : MeteringTables} {series : Series} {row : MeterIntervalRecord}

theorem of_loadOpenInterval (h : t.loadOpenInterval series = some row) :
    row ∈ t.intervals.rows ∧ row.series = series ∧ row.endedAtMs = none := by
  have hmem := List.mem_of_find?_eq_some h
  have hrow := List.find?_some h
  simp only [Bool.and_eq_true, decide_eq_true_eq, Option.isNone_iff_eq_none] at hrow
  exact ⟨hmem, hrow.1, hrow.2⟩

theorem loadOpenInterval_eq_none_iff :
    t.loadOpenInterval series = none ↔
    ∀ row ∈ t.intervals.rows, row.series = series → row.endedAtMs ≠ none := by
  simp [loadOpenInterval]

theorem maxEndedAt_le_iff {x : Int} :
    (∀ ended ∈ t.maxEndedAt series, ended ≤ x) ↔ ∀ row ∈ t.intervals.rows, row.series = series →
      ∀ ended, row.endedAtMs = some ended → ended ≤ x := by
  unfold maxEndedAt
  constructor
  · intro h row hrow hseries ended hended
    have hmem :
        ended ∈ (t.intervals.rows.filter fun row => row.series = series).filterMap
          MeterIntervalRecord.endedAtMs :=
      List.mem_filterMap.mpr
        ⟨row, List.mem_filter.mpr ⟨hrow, decide_eq_true hseries⟩, hended⟩
    cases hmax :
        ((t.intervals.rows.filter fun row => row.series = series).filterMap
          MeterIntervalRecord.endedAtMs).max? with
    | none =>
      rw [List.max?_eq_none_iff] at hmax
      rw [hmax] at hmem
      exact absurd hmem List.not_mem_nil
    | some greatest =>
      have hle := (List.max?_eq_some_iff.mp hmax).2 ended hmem
      exact hle.trans (h greatest hmax)
  · intro h ended hended
    obtain ⟨row, hrow, hend⟩ :=
      List.mem_filterMap.mp (List.max?_eq_some_iff.mp hended).1
    obtain ⟨hmem, hseries⟩ := List.mem_filter.mp hrow
    exact h row hmem (of_decide_eq_true hseries) ended hend

theorem insertOpenInterval?_eq_some (h : t.insertOpenInterval? row = some t') :
    t.intervals.get? row.intervalId = none ∧ t' = { t with intervals := t.intervals.put row } := by
  unfold insertOpenInterval? at h
  split at h
  · cases h
  · obtain ⟨intervals, hinsert, rfl⟩ := Option.map_eq_some_iff.mp h
    obtain ⟨habsent, rfl⟩ := (t.intervals.insert?_eq_some_iff _).mp hinsert
    exact ⟨habsent, rfl⟩

theorem insertOpenInterval?_of_absent (hopen : t.loadOpenInterval row.series = none)
    (habsent : t.intervals.get? row.intervalId = none) :
    t.insertOpenInterval? row = some { t with intervals := t.intervals.put row } := by
  simp [insertOpenInterval?, hopen, t.intervals.insert?_of_absent habsent]

theorem closeInterval?_of_open
    (hrow : row ∈ t.intervals.rows) (hopen : row.endedAtMs = none) (endedAtMs : Int) :
    t.closeInterval? row.intervalId endedAtMs =
    some { t with intervals := t.intervals.put { row with endedAtMs := some endedAtMs } } := by
  simp [closeInterval?, t.intervals.get?_key_of_mem hrow, hopen, Option.filter]

theorem rolledUp_put (t : MeteringTables) (series' series : Series) (width b start stored : Int) :
    { t with
      aggregates :=
        t.aggregates.put ⟨series, start, ingestBucketWidthMs, stored⟩ }.rolledUp series' width b
      =
    t.rolledUp series' width b +
      if series = series' ∧ alignDown width start = b then
        stored - t.quantityMillisAt series start
      else
        0 := by
  have hsum :=
    t.aggregates.sumBy_put_add
      (fun row =>
        if row.series = series' ∧ alignDown width row.bucketStartMs = b then
          row.quantityMillis
        else
          0)
      ⟨series, start, ingestBucketWidthMs, stored⟩
  have hkey :
      MeterAggregateRecord.key ⟨series, start, ingestBucketWidthMs, stored⟩
        =
      bucketKey series start :=
    rfl
  rw [hkey] at hsum
  unfold rolledUp quantityMillisAt
  cases hget : t.aggregates.get? (bucketKey series start) with
  | none =>
    rw [hget] at hsum
    simp only [Option.elim_none, add_zero] at hsum
    simp only [hsum, Option.map_none, Option.getD_none, sub_zero]
  | some old =>
    obtain ⟨rfl, rfl⟩ := bucketKey_inj.mp (t.aggregates.key_of_get? hget)
    rw [hget] at hsum
    simp only [Option.elim_some] at hsum
    simp only [Option.map_some, Option.getD_some]
    split_ifs at hsum ⊢ <;> omega

end MeteringTables

variable {series : Series}

theorem foldContribution_ok {contribution : Int × Int} {t t' : MeteringTables}
    (h : foldContribution series contribution t = .ok ((), t')) :
    t' =
        { t with
          aggregates :=
            t.aggregates.put
              ⟨series, contribution.1, ingestBucketWidthMs,
                t.quantityMillisAt series contribution.1 + contribution.2⟩ } ∧
      t.quantityMillisAt series contribution.1 + contribution.2 ≤ i64Max := by
  rw [foldContribution, get_bind_apply] at h
  obtain ⟨sum, s₁, hsum, h⟩ := bind_eq_ok.mp h
  obtain ⟨_, hchecked, hsame⟩ := fromExcept_eq_ok.mp hsum
  cases hsame
  obtain rfl := checkedI128_eq_ok hchecked
  obtain ⟨combined, s₁, hcombined, h⟩ := bind_eq_ok.mp h
  obtain ⟨_, hchecked, hsame⟩ := fromExcept_eq_ok.mp hcombined
  cases hsame
  obtain ⟨rfl, hle⟩ := checkedI64_eq_ok hchecked
  obtain ⟨_, s₁, hrequire, h⟩ := bind_eq_ok.mp h
  obtain ⟨_, hsame⟩ := require_eq_ok.mp hrequire
  cases hsame
  cases h
  exact ⟨rfl, hle⟩

/-- The contributions of one series, folded into the aggregates. -/
structure Folded (series : Series) (contributions : List (Int × Int))
    (t t' : MeteringTables) : Prop where
  authority : t'.authority = t.authority
  intervals : t'.intervals = t.intervals
  rolledUp : ∀ series' width b,
    t'.rolledUp series' width b =
      t.rolledUp series' width b +
        if series = series' then contributed width contributions b else 0
  rows : ∀ row ∈ t'.aggregates.rows,
    row ∈ t.aggregates.rows ∨
      (row.series = series ∧ row.bucketWidthMs = ingestBucketWidthMs ∧
        ∃ c ∈ contributions, row.bucketStartMs = c.1)
  positive :
    (∀ row ∈ t.aggregates.rows, 0 < row.quantityMillis) →
    (∀ c ∈ contributions, 0 < c.2) →
      ∀ row ∈ t'.aggregates.rows, 0 < row.quantityMillis

theorem Folded.nil (series : Series) (t : MeteringTables) :
    Folded series [] t t where
  authority := rfl
  intervals := rfl
  rolledUp := by
    simp
  rows := fun _ hrow => Or.inl hrow
  positive := fun hpos _ => hpos

theorem quantityMillisAt_nonneg {t : MeteringTables}
    (hpos : ∀ row ∈ t.aggregates.rows, 0 < row.quantityMillis) (series : Series) (b : Int) :
    0 ≤ t.quantityMillisAt series b := by
  unfold MeteringTables.quantityMillisAt
  cases hget : t.aggregates.get? (bucketKey series b) with
  | none => simp
  | some row => simpa using (hpos row (t.aggregates.mem_of_get? hget)).le

theorem Folded.cons {contribution : Int × Int} {contributions : List (Int × Int)}
    {t t₁ t' : MeteringTables} (hfirst : foldContribution series contribution t = .ok ((), t₁))
    (hrest : Folded series contributions t₁ t') :
    Folded series (contribution :: contributions) t t' := by
  obtain ⟨rfl, hle⟩ := foldContribution_ok hfirst
  refine ⟨hrest.authority, hrest.intervals, ?_, ?_, ?_⟩
  · intro series' width b
    rw [hrest.rolledUp, MeteringTables.rolledUp_put, contributed_cons]
    split_ifs <;> simp_all <;> omega
  · intro row hrow
    rcases hrest.rows row hrow with hmem | ⟨hseries, hwidth, c, hc, hstart⟩
    · rcases (Table.mem_put _).mp hmem with rfl | ⟨hmem, _⟩
      · exact Or.inr ⟨rfl, rfl, contribution, List.mem_cons_self, rfl⟩
      · exact Or.inl hmem
    · exact Or.inr ⟨hseries, hwidth, c, List.mem_cons_of_mem _ hc, hstart⟩
  · intro hpos hcs
    refine hrest.positive ?_ fun c hc => hcs c (List.mem_cons_of_mem _ hc)
    intro row hrow
    rcases (Table.mem_put _).mp hrow with rfl | ⟨hmem, _⟩
    · have hnonneg := quantityMillisAt_nonneg hpos series contribution.1
      have hadded := hcs contribution List.mem_cons_self
      show 0 < _ + _
      omega
    · exact hpos row hmem

theorem folded_of_forEach {contributions : List (Int × Int)} {t t' : MeteringTables}
    (h : forEach (foldContribution series) contributions t = .ok ((), t')) :
    Folded series contributions t t' := by
  induction contributions generalizing t with
  | nil =>
    cases h
    exact Folded.nil series _
  | cons contribution contributions ih =>
    obtain ⟨_, t₁, hfirst, hrest⟩ := bind_eq_ok.mp h
    exact Folded.cons hfirst (ih hrest)

section Recording

variable (newV5 : String → Uuid)

/-- What an accepted observation does to the intervals and the aggregates. -/
inductive Change (o : MeterObservation) (t t' : MeteringTables) : Prop
  /-- Nothing is open and nothing is asked for. -/
  | idle (hopen : t.loadOpenInterval o.series = none) (hstop : o.consuming = false)
      (hintervals : t'.intervals = t.intervals) (haggregates : t'.aggregates = t.aggregates)
  /-- The interval asked for has a row already. -/
  | repeated (row : MeterIntervalRecord) (hopen : t.loadOpenInterval o.series = none)
      (hstart : o.consuming = true) (hget : t.intervals.get? (intervalId newV5 o) = some row)
      (hseries : row.series = o.series) (hintervals : t'.intervals = t.intervals)
      (haggregates : t'.aggregates = t.aggregates)
  /-- A new interval, not before the end of any other of the series. -/
  | opened (hopen : t.loadOpenInterval o.series = none) (hstart : o.consuming = true)
      (habsent : t.intervals.get? (intervalId newV5 o) = none)
      (hafter : ∀ row ∈ t.intervals.rows, row.series = o.series →
        ∀ ended, row.endedAtMs = some ended → ended ≤ o.observedAtMs)
      (hintervals : t'.intervals = t.intervals.put (openedBy newV5 o o.quantity))
      (haggregates : t'.aggregates = t.aggregates)
  /-- The open interval goes on. -/
  | refreshed (row : MeterIntervalRecord) (hopen : t.loadOpenInterval o.series = some row)
      (hle : row.startedAtMs ≤ o.observedAtMs) (hstart : o.consuming = true)
      (hquantity : row.quantity = o.quantity) (hintervals : t'.intervals = t.intervals)
      (haggregates : t'.aggregates = t.aggregates)
  /-- The open interval ends and is folded into the aggregates. -/
  | closed (row : MeterIntervalRecord) (contributions : List (Int × Int))
      (hopen : t.loadOpenInterval o.series = some row) (hle : row.startedAtMs ≤ o.observedAtMs)
      (hstop : o.consuming = false)
      (hcontributions : closingContributions row o.observedAtMs = .ok contributions)
      (hintervals : t'.intervals = t.intervals.put { row with endedAtMs := some o.observedAtMs })
      (hfolded : Folded o.series contributions { t' with aggregates := t.aggregates } t')

variable {newV5} {o : MeterObservation} {t t' : MeteringTables} {quantity : Int}

theorem closeAndFold_ok {row : MeterIntervalRecord}
    (hopen : t.loadOpenInterval o.series = some row) (h : closeAndFold row o t = .ok ((), t')) :
    ∃ contributions, closingContributions row o.observedAtMs = .ok contributions ∧
      t'.authority = t.authority ∧
      t'.intervals = t.intervals.put { row with endedAtMs := some o.observedAtMs } ∧
      Folded o.series contributions { t' with aggregates := t.aggregates } t' := by
  obtain ⟨hmem, _, hnone⟩ := MeteringTables.of_loadOpenInterval hopen
  rw [closeAndFold, get_bind_apply, MeteringTables.closeInterval?_of_open hmem hnone] at h
  simp only [set_bind_apply] at h
  obtain ⟨contributions, t₁, hcontributions, hfold⟩ := bind_eq_ok.mp h
  obtain ⟨_, hok, hsame⟩ := fromExcept_eq_ok.mp hcontributions
  cases hsame
  have hfolded := folded_of_forEach hfold
  refine ⟨contributions, hok, hfolded.authority, hfolded.intervals, ?_⟩
  rw [hfolded.authority, hfolded.intervals]
  exact hfolded

theorem applyToOpen_ok (hrun : t.loadOpenInterval o.series = none → o.consuming = false)
    (hquantity : quantity = o.quantity)
    (h : applyToOpen o quantity (t.loadOpenInterval o.series) t = .ok ((), t')) :
    t'.authority = t.authority ∧ Change newV5 o t t' := by
  cases hopen : t.loadOpenInterval o.series with
  | none =>
    rw [hopen] at h
    cases h
    exact ⟨rfl, .idle hopen (hrun hopen) rfl rfl⟩
  | some row =>
    rw [hopen, applyToOpen] at h
    split_ifs at h with hearly hconsuming hchanged hother
    · cases h
    · cases h
    · cases h
    · cases h
      have hsame : row.quantity = o.quantity := (not_not.mp hchanged).trans hquantity
      exact ⟨rfl, .refreshed row hopen (not_lt.mp hearly) hconsuming hsame rfl rfl⟩
    · obtain ⟨contributions, hok, hauthority, hintervals, hfolded⟩ := closeAndFold_ok hopen h
      exact ⟨hauthority,
        .closed row contributions hopen (not_lt.mp hearly) (Bool.not_eq_true _ ▸ hconsuming)
          hok hintervals hfolded⟩

theorem openInterval_ok (hopen : t.loadOpenInterval o.series = none) (hstart : o.consuming = true)
    (hquantity : quantity = o.quantity) (h : openInterval newV5 o quantity t = .ok ((), t')) :
    t'.authority = t.authority ∧ Change newV5 o t t' := by
  subst hquantity
  rw [openInterval, get_bind_apply] at h
  cases hget : t.intervals.get? (intervalId newV5 o) with
  | none =>
    rw [MeteringTables.insertOpenInterval?_of_absent hopen hget] at h
    simp only [set_bind_apply] at h
    obtain ⟨hafter, hsame⟩ := require_eq_ok.mp h
    cases hsame
    rw [MeteringTables.maxEndedAt_le_iff] at hafter
    refine ⟨rfl, .opened hopen hstart hget ?_ rfl rfl⟩
    intro row hrow
    refine hafter row ((t.intervals.mem_put).mpr (Or.inr ⟨hrow, ?_⟩))
    exact t.intervals.get?_eq_none_iff.mp hget row hrow
  | some row =>
    have hinsert : t.insertOpenInterval? (openedBy newV5 o o.quantity) = none := by
      cases hinsert : t.insertOpenInterval? (openedBy newV5 o o.quantity) with
      | none => rfl
      | some inserted =>
        have habsent := (MeteringTables.insertOpenInterval?_eq_some hinsert).1
        rw [openedBy_intervalId, hget] at habsent
        cases habsent
    rw [hinsert] at h
    simp only [deterministicIntervalMatches, bind_assoc, get_bind_apply, hget] at h
    obtain ⟨_, t₁, hmatch, h⟩ := bind_eq_ok.mp h
    obtain ⟨⟨hseries, _, _⟩, hsame⟩ := require_eq_ok.mp hmatch
    cases hsame
    cases h
    exact ⟨rfl, .repeated row hopen hstart hget hseries rfl rfl⟩

/-- The anchor and watermark after an observation. -/
def authorityAfter (authority : Option MeteringAuthority) (observedAtMs : Int) :
    MeteringAuthority :=
  let anchored := authority.getD ⟨observedAtMs, observedAtMs⟩
  { anchored with lastObservedAtMs := max anchored.lastObservedAtMs observedAtMs }

variable (newV5) in
/-- Everything a successful `recordObservation` does. -/
structure Recorded (o : MeterObservation) (t t' : MeteringTables) : Prop where
  valid : o.validate = .ok ()
  fits : (o.quantity : Int) ≤ i64Max
  authority : t'.authority = some (authorityAfter t.authority o.observedAtMs)
  anchored : (authorityAfter t.authority o.observedAtMs).authorityStartedAtMs ≤ o.observedAtMs
  change : Change newV5 o t t'

theorem Change.of_authority (t₀ : MeteringTables) (hintervals₀ : t₀.intervals = t.intervals)
    (haggregates₀ : t₀.aggregates = t.aggregates) (h : Change newV5 o t₀ t') :
    Change newV5 o t t' := by
  obtain ⟨authority₀, intervals₀, aggregates₀⟩ := t₀
  subst hintervals₀ haggregates₀
  cases h with
  | idle hopen hstop hintervals haggregates => exact .idle hopen hstop hintervals haggregates
  | repeated row hopen hstart hget hseries hintervals haggregates =>
    exact .repeated row hopen hstart hget hseries hintervals haggregates
  | opened hopen hstart habsent hafter hintervals haggregates =>
    exact .opened hopen hstart habsent hafter hintervals haggregates
  | refreshed row hopen hle hstart hquantity hintervals haggregates =>
    exact .refreshed row hopen hle hstart hquantity hintervals haggregates
  | closed row contributions hopen hle hstop hcontributions hintervals hfolded =>
    exact .closed row contributions hopen hle hstop hcontributions hintervals hfolded

theorem recordObservationTx_ok
    (hvalid : o.validate = .ok ()) (h : recordObservationTx newV5 o t = .ok ((), t')) :
    Recorded newV5 o t t' := by
  obtain ⟨_, s₁, hquantity, h⟩ := bind_eq_ok.mp h
  obtain ⟨quantity, hchecked, hsame⟩ := fromExcept_eq_ok.mp hquantity
  cases hsame
  obtain ⟨hquantity, hfits⟩ := checkedI64_eq_ok hchecked
  simp only [modify_bind_apply, get_bind_apply] at h
  obtain ⟨authority, s₁, hauthority, h⟩ := bind_eq_ok.mp h
  obtain ⟨_, hsome, hsame⟩ := orFail_eq_ok.mp hauthority
  cases hsame
  obtain rfl : authorityAfter t.authority o.observedAtMs = authority :=
    Option.some.inj hsome
  obtain ⟨_, s₁, hanchor, hbody⟩ := bind_eq_ok.mp h
  obtain ⟨hanchored, hsame⟩ := require_eq_ok.mp hanchor
  cases hsame
  let observed := (t.anchorAuthority o.observedAtMs).advanceWatermark o.observedAtMs
  have hchange :
      t'.authority = some (authorityAfter t.authority o.observedAtMs) ∧
        Change newV5 o t t' := by
    split_ifs at hbody with hopens
    · obtain ⟨hkept, hchange⟩ := openInterval_ok hopens.1 hopens.2 hquantity hbody
      exact ⟨hkept, hchange.of_authority observed rfl rfl⟩
    · have hidle :
          observed.loadOpenInterval o.series = none → o.consuming = false := by
        intro hnone
        exact Bool.eq_false_of_not_eq_true fun hstart => hopens ⟨hnone, hstart⟩
      obtain ⟨hkept, hchange⟩ := applyToOpen_ok hidle hquantity hbody
      exact ⟨hkept, hchange.of_authority observed rfl rfl⟩
  exact ⟨hvalid, hfits, hchange.1, hanchored, hchange.2⟩

/-- **Effects**: an accepted observation is `Recorded`. -/
theorem recordObservation_ok (h : (recordObservation newV5 o t).1 = .ok ()) :
    Recorded newV5 o t (recordObservation newV5 o t).2 := by
  unfold recordObservation at h ⊢
  cases hvalid : o.validate with
  | error e =>
    rw [hvalid] at h
    cases h
  | ok _ =>
    rw [hvalid] at h
    exact recordObservationTx_ok hvalid (atomically_ok_iff.mp (Prod.ext h rfl))

theorem recordObservation_error {e : KernelError} (h : (recordObservation newV5 o t).1 = .error e) :
    (recordObservation newV5 o t).2 = t := by
  unfold recordObservation at h ⊢
  cases hvalid : o.validate with
  | error _ => rfl
  | ok _ =>
    rw [hvalid] at h
    exact atomically_error_snd h

end Recording

end Metering
end O3k
