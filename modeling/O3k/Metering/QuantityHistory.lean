import O3k.Metering.Resubmission

/-!
# The quantity of a series over time

`QuantityHistory` is what a list of accepted observations says about a series,
with no store and no interval: the quantity at every instant, whether the
series is consuming now, and when that last changed.  An observation that
starts or stops the series sets the quantity from its instant on; one that says
what is known, or comes from before the last change, adds nothing.

The store represents this history as long as every start opens an interval: at
every instant the quantity is that of the interval around it.
-/

namespace O3k
namespace Metering

open Relational Semantics Intervals

/-- A step function of time, and what the next observation may do to it. -/
structure QuantityHistory where
  quantityAt : Int → Int
  consuming : Bool
  changedAt : Option Int

namespace QuantityHistory

def initial : QuantityHistory where
  quantityAt := fun _ => 0
  consuming := false
  changedAt := none

/-- From an instant on, the quantity is `q`. -/
def setFrom (f : Int → Int) (observedAtMs q : Int) : Int → Int :=
  fun x => if observedAtMs ≤ x then q else f x

/-- The series has not changed after the instant. -/
def SettledBy (history : QuantityHistory) (x : Int) : Prop :=
  ∀ changed ∈ history.changedAt, changed ≤ x

instance (history : QuantityHistory) (x : Int) : Decidable (history.SettledBy x) := by
  unfold SettledBy
  infer_instance

def observe (history : QuantityHistory) (o : MeterObservation) : QuantityHistory :=
  if history.consuming ≠ o.consuming ∧ history.SettledBy o.observedAtMs then
    { quantityAt :=
        setFrom history.quantityAt o.observedAtMs (if o.consuming then o.quantity else 0)
      consuming := o.consuming
      changedAt := some o.observedAtMs }
  else
    history

variable {history : QuantityHistory} {o : MeterObservation}

theorem observe_of_same (h : history.consuming = o.consuming) : history.observe o = history :=
  if_neg fun hnew => hnew.1 h

theorem observe_of_late (h : ¬ history.SettledBy o.observedAtMs) : history.observe o = history :=
  if_neg fun hnew => h hnew.2

theorem observe_of_start (hidle : history.consuming = false) (hstart : o.consuming = true)
    (hsettled : history.SettledBy o.observedAtMs) :
    history.observe o =
    { quantityAt := setFrom history.quantityAt o.observedAtMs o.quantity
      consuming := true
      changedAt := some o.observedAtMs } := by
  simp [observe, hidle, hstart, hsettled]

theorem observe_of_stop (hconsuming : history.consuming = true) (hstop : o.consuming = false)
    (hsettled : history.SettledBy o.observedAtMs) :
    history.observe o =
    { quantityAt := setFrom history.quantityAt o.observedAtMs 0
      consuming := false
      changedAt := some o.observedAtMs } := by
  simp [observe, hconsuming, hstop, hsettled]

end QuantityHistory

/-- The history of a series that a list of accepted observations determines. -/
def quantityHistory (series : Series) (accepted : List MeterObservation) : QuantityHistory :=
  (accepted.filter fun o => o.series = series).foldl QuantityHistory.observe
    QuantityHistory.initial

theorem quantityHistory_snoc
    (series : Series) (accepted : List MeterObservation) (o : MeterObservation) :
    quantityHistory series (accepted ++ [o]) = if o.series = series then
      (quantityHistory series accepted).observe o
    else
      quantityHistory series accepted := by
  unfold quantityHistory
  by_cases hseries : o.series = series
  · simp [List.filter_append, hseries]
  · simp [List.filter_append, hseries]

def MeterIntervalRecord.quantityAt (row : MeterIntervalRecord) (x : Int) : Int :=
  if row.startedAtMs ≤ x ∧ ∀ ended ∈ row.endedAtMs, x < ended then row.quantity else 0

/-- The quantity of a series at an instant. -/
def MeteringTables.quantityAt (t : MeteringTables) (series : Series) (x : Int) : Int :=
  t.intervals.sumBy fun row => if row.series = series then row.quantityAt x else 0

structure Represents (t : MeteringTables) (series : Series) (history : QuantityHistory) : Prop where
  quantityAt : ∀ x, history.quantityAt x = t.quantityAt series x
  consuming : history.consuming = true ↔
    ∃ row ∈ t.intervals.rows, row.series = series ∧ row.endedAtMs = none
  settled : ∀ x,
    history.SettledBy x ↔ ∀ row ∈ t.intervals.rows, row.series = series →
      row.startedAtMs ≤ x ∧ ∀ ended ∈ row.endedAtMs, ended ≤ x

theorem Represents.of_fresh {t : MeteringTables} (hintervals : t.intervals = ∅) (series : Series) :
    Represents t series QuantityHistory.initial := by
  obtain ⟨_, intervals, _⟩ := t
  subst hintervals
  have hempty : ∀ row, row ∉ (∅ : Table MeterIntervalRecord.intervalId).rows :=
    fun row => List.not_mem_nil
  refine ⟨fun x => rfl, ?_, fun x => ?_⟩
  · constructor
    · exact fun h => by cases h
    · rintro ⟨row, hrow, _⟩
      exact absurd hrow (hempty row)
  · exact iff_of_true (fun _ h => by cases h) (fun row hrow => absurd hrow (hempty row))

/-- Where the rows come from. -/
structure Provenance (s : MeteringRun) : Prop where
  started : ∀ row ∈ s.tables.intervals.rows, ∃ o ∈ s.accepted,
    o.series = row.series ∧ o.observedAtMs = row.startedAtMs
  ended : ∀ row ∈ s.tables.intervals.rows, ∀ ended, row.endedAtMs = some ended →
    ∃ o ∈ s.accepted, o.series = row.series ∧ o.observedAtMs = ended
  stored : ∀ row ∈ s.tables.aggregates.rows, ∃ o ∈ s.accepted, o.series = row.series

section Step

variable {newV5 : String → Uuid} {s : MeteringRun} {o : MeterObservation}
  {t' : MeteringTables}

theorem Provenance.recorded (h : Provenance s) (hrecorded : Recorded newV5 o s.tables t') :
    Provenance ⟨t', s.accepted ++ [o]⟩ := by
  have hold : ∀ {p : MeterObservation → Prop},
      (∃ o ∈ s.accepted, p o) → ∃ x ∈ s.accepted ++ [o], p x := by
    rintro p ⟨x, hx, hp⟩
    exact ⟨x, List.mem_append_left _ hx, hp⟩
  have hnew : o ∈ s.accepted ++ [o] := List.mem_append_right _ List.mem_cons_self
  have hsame :
      t'.intervals = s.tables.intervals →
      t'.aggregates = s.tables.aggregates →
      Provenance ⟨t', s.accepted ++ [o]⟩ := by
    intro hintervals haggregates
    refine ⟨?_, ?_, ?_⟩
    · exact fun row hrow => hold (h.started row (hintervals ▸ hrow))
    · exact fun row hrow ended hended => hold (h.ended row (hintervals ▸ hrow) ended hended)
    · exact fun row hrow => hold (h.stored row (haggregates ▸ hrow))
  cases hrecorded.change with
  | idle _ _ hintervals haggregates => exact hsame hintervals haggregates
  | repeated _ _ _ _ _ hintervals haggregates => exact hsame hintervals haggregates
  | refreshed _ _ _ _ _ hintervals haggregates => exact hsame hintervals haggregates
  | opened _ _ _ _ hintervals haggregates =>
    refine ⟨?_, ?_, ?_⟩
    · intro row hrow
      rw [hintervals] at hrow
      rcases (Table.mem_put _).mp hrow with rfl | ⟨hrow, _⟩
      · exact ⟨o, hnew, rfl, rfl⟩
      · exact hold (h.started row hrow)
    · intro row hrow ended hended
      rw [hintervals] at hrow
      rcases (Table.mem_put _).mp hrow with rfl | ⟨hrow, _⟩
      · cases hended
      · exact hold (h.ended row hrow ended hended)
    · exact fun row hrow => hold (h.stored row (haggregates ▸ hrow))
  | closed row _ hopen _ _ _ hintervals hfolded =>
    obtain ⟨hmem, hseries, _⟩ := MeteringTables.of_loadOpenInterval hopen
    refine ⟨?_, ?_, ?_⟩
    · intro x hx
      rw [hintervals] at hx
      rcases (Table.mem_put _).mp hx with rfl | ⟨hx, _⟩
      · exact hold (h.started row hmem)
      · exact hold (h.started x hx)
    · intro x hx ended hended
      rw [hintervals] at hx
      rcases (Table.mem_put _).mp hx with rfl | ⟨hx, _⟩
      · cases hended
        exact ⟨o, hnew, hseries.symm, rfl⟩
      · exact hold (h.ended x hx ended hended)
    · intro bucket hbucket
      rcases hfolded.rows bucket hbucket with hmem | ⟨hbucketSeries, _⟩
      · exact hold (h.stored bucket hmem)
      · exact ⟨o, hnew, hbucketSeries.symm⟩

variable {t : MeteringTables} {series : Series} {row : MeterIntervalRecord}

theorem quantityAt_put_other (hother : row.series ≠ series)
    (hold : ∀ old ∈ t.intervals.get? row.intervalId, old.series = row.series)
    (hintervals : t'.intervals = t.intervals.put row) (x : Int) :
    t'.quantityAt series x = t.quantityAt series x := by
  have hsum := t.intervals.sumBy_put_add
    (fun row => if row.series = series then row.quantityAt x else 0) row
  rw [if_neg hother, add_zero] at hsum
  have hzero :
      (t.intervals.get? row.intervalId).elim 0
          (fun row => if row.series = series then row.quantityAt x else 0) = 0 := by
    cases hget : t.intervals.get? row.intervalId with
    | none => rfl
    | some old => exact if_neg (hold old hget ▸ hother)
  rw [hzero, add_zero] at hsum
  rw [MeteringTables.quantityAt, hintervals]
  exact hsum

theorem quantityAt_eq_zero {x : Int}
    (hended : ∀ row ∈ t.intervals.rows, row.series = series →
      ∃ ended, row.endedAtMs = some ended ∧ ended ≤ x) :
    t.quantityAt series x = 0 := by
  refine List.sum_eq_zero ?_
  intro q hq
  obtain ⟨row, hrow, rfl⟩ := List.mem_map.mp hq
  by_cases hseries : row.series = series
  · obtain ⟨ended, hend, hle⟩ := hended row hrow hseries
    rw [if_pos hseries, MeterIntervalRecord.quantityAt, if_neg]
    rintro ⟨_, hlt⟩
    have := hlt ended hend
    omega
  · exact if_neg hseries

variable {history : QuantityHistory}

theorem Represents.of_same
    (hintervals : t'.intervals = t.intervals) (h : Represents t series history) :
    Represents t' series history := by
  refine ⟨?_, ?_, ?_⟩
  · intro x
    rw [h.quantityAt, MeteringTables.quantityAt, MeteringTables.quantityAt, hintervals]
  · rw [hintervals]
    exact h.consuming
  · rw [hintervals]
    exact h.settled

theorem Represents.not_consuming
    (h : Represents t series history) (hopen : t.loadOpenInterval series = none) :
    history.consuming = false := by
  refine Bool.eq_false_of_not_eq_true fun hconsuming => ?_
  obtain ⟨row, hrow, hseries, hnone⟩ := h.consuming.mp hconsuming
  exact MeteringTables.loadOpenInterval_eq_none_iff.mp hopen row hrow hseries hnone

theorem Represents.put_other (h : Represents t series history) (hother : row.series ≠ series)
    (hold : ∀ old ∈ t.intervals.get? row.intervalId, old.series = row.series)
    (hintervals : t'.intervals = t.intervals.put row) :
    Represents t' series history := by
  have hmem : ∀ x, x.series = series → (x ∈ t'.intervals.rows ↔ x ∈ t.intervals.rows) := by
    intro x hx
    rw [hintervals, Table.mem_put]
    constructor
    · rintro (rfl | ⟨hrow, _⟩)
      · exact absurd hx hother
      · exact hrow
    · intro hrow
      refine Or.inr ⟨hrow, fun hid => hother ?_⟩
      have hget := t.intervals.get?_key_of_mem hrow
      rw [hid] at hget
      rw [← hold x hget, hx]
  refine ⟨?_, ?_, ?_⟩
  · intro x
    rw [h.quantityAt, quantityAt_put_other hother hold hintervals]
  · rw [h.consuming]
    constructor
    · rintro ⟨x, hx, hseries, hopen⟩
      exact ⟨x, (hmem x hseries).mpr hx, hseries, hopen⟩
    · rintro ⟨x, hx, hseries, hopen⟩
      exact ⟨x, (hmem x hseries).mp hx, hseries, hopen⟩
  · intro y
    rw [h.settled]
    constructor
    · exact fun hold x hx hseries => hold x ((hmem x hseries).mp hx) hseries
    · exact fun hnew x hx hseries => hnew x ((hmem x hseries).mpr hx) hseries

theorem Represents.opened
    (hledger : Ledger t) (h : Represents t row.series history) (hopen : row.endedAtMs = none)
    (habsent : t.intervals.get? row.intervalId = none)
    (hafter : ∀ x ∈ t.intervals.rows, x.series = row.series → x.EndsBefore row)
    (hintervals : t'.intervals = t.intervals.put row) :
    Represents t' row.series
      { quantityAt := QuantityHistory.setFrom history.quantityAt row.startedAtMs row.quantity
        consuming := true
        changedAt := some row.startedAtMs } := by
  have hmem : row ∈ t'.intervals.rows := by
    rw [hintervals]
    exact (Table.mem_put _).mpr (Or.inl rfl)
  refine ⟨?_, ?_, ?_⟩
  · intro x
    have hsum :
        t'.quantityAt row.series x = row.quantityAt x + t.quantityAt row.series x := by
      rw [MeteringTables.quantityAt, hintervals, Table.sumBy_put_of_absent _ _ habsent,
        if_pos rfl, MeteringTables.quantityAt]
    rw [hsum, ← h.quantityAt]
    by_cases hx : row.startedAtMs ≤ x
    · have hzero : history.quantityAt x = 0 := by
        rw [h.quantityAt]
        refine quantityAt_eq_zero fun y hy hseries => ?_
        obtain ⟨ended, hended, hle⟩ := hafter y hy hseries
        exact ⟨ended, hended, hle.trans hx⟩
      simp [QuantityHistory.setFrom, MeterIntervalRecord.quantityAt, hx, hopen, hzero]
    · simp [QuantityHistory.setFrom, MeterIntervalRecord.quantityAt, hx]
  · exact ⟨fun _ => ⟨row, hmem, rfl, hopen⟩, fun _ => rfl⟩
  · intro x
    constructor
    · intro hsettled y hy hseries
      have hstarted : row.startedAtMs ≤ x := hsettled _ rfl
      rw [hintervals] at hy
      rcases (Table.mem_put _).mp hy with rfl | ⟨hy, _⟩
      · exact ⟨hstarted, fun ended hended => by cases hopen.symm.trans hended⟩
      · obtain ⟨ended, hended, hle⟩ := hafter y hy hseries
        have hspan := hledger.spans y hy ended hended
        refine ⟨hspan.trans (hle.trans hstarted), fun ended' hended' => ?_⟩
        cases hended.symm.trans hended'
        exact hle.trans hstarted
    · intro hrows changed hchanged
      cases hchanged
      exact (hrows row hmem rfl).1

theorem Represents.closed {observedAtMs : Int}
    (hledger : Ledger t) (h : Represents t row.series history) (hrow : row ∈ t.intervals.rows)
    (hopen : row.endedAtMs = none) (hle : row.startedAtMs ≤ observedAtMs)
    (hintervals : t'.intervals = t.intervals.put { row with endedAtMs := some observedAtMs }) :
    Represents t' row.series
      { quantityAt := QuantityHistory.setFrom history.quantityAt observedAtMs 0
        consuming := false
        changedAt := some observedAtMs } := by
  -- every other interval of the series had ended when this one started
  have hended : ∀ x ∈ t'.intervals.rows, x.series = row.series →
      ∃ ended, x.endedAtMs = some ended ∧ ended ≤ observedAtMs := by
    rw [hintervals]
    intro x hx hseries
    rcases (Table.mem_put _).mp hx with rfl | ⟨hx, hid⟩
    · exact ⟨observedAtMs, rfl, le_refl _⟩
    · have hne : x ≠ row := fun heq => hid (heq ▸ rfl)
      obtain ⟨ended, hend, hbefore⟩ := hledger.endsBefore_open hx hrow hseries hne hopen
      exact ⟨ended, hend, hbefore.trans hle⟩
  have hspans : ∀ x ∈ t'.intervals.rows, ∀ ended, x.endedAtMs = some ended →
      x.startedAtMs ≤ ended := by
    rw [hintervals]
    intro x hx ended hend
    rcases (Table.mem_put _).mp hx with rfl | ⟨hx, _⟩
    · cases hend
      exact hle
    · exact hledger.spans x hx ended hend
  refine ⟨?_, ?_, ?_⟩
  · intro x
    by_cases hx : observedAtMs ≤ x
    · have hzero : t'.quantityAt row.series x = 0 := by
        refine quantityAt_eq_zero fun y hy hseries => ?_
        obtain ⟨ended, hend, hbefore⟩ := hended y hy hseries
        exact ⟨ended, hend, hbefore.trans hx⟩
      simp [QuantityHistory.setFrom, hx, hzero]
    · have hsame :
          MeterIntervalRecord.quantityAt { row with endedAtMs := some observedAtMs } x
            =
          row.quantityAt x := by
        simp [MeterIntervalRecord.quantityAt, hopen, not_le.mp hx]
      have hget :
          t.intervals.get?
              (MeterIntervalRecord.intervalId { row with endedAtMs := some observedAtMs })
            =
          some row :=
        t.intervals.get?_key_of_mem hrow
      have hsum := t.intervals.sumBy_put_add
        (fun y => if y.series = row.series then y.quantityAt x else 0)
        { row with endedAtMs := some observedAtMs }
      simp only [hget, Option.elim_some, hsame, if_true] at hsum
      simp only [QuantityHistory.setFrom, if_neg hx, h.quantityAt]
      rw [MeteringTables.quantityAt, MeteringTables.quantityAt, hintervals]
      exact (add_right_cancel hsum).symm
  · constructor
    · exact fun hconsuming => by cases hconsuming
    · rintro ⟨x, hx, hseries, hopen'⟩
      obtain ⟨ended, hend, _⟩ := hended x hx hseries
      rw [hopen'] at hend
      cases hend
  · intro x
    constructor
    · intro hsettled y hy hseries
      have hchanged : observedAtMs ≤ x := hsettled _ rfl
      obtain ⟨ended, hend, hbefore⟩ := hended y hy hseries
      refine ⟨(hspans y hy ended hend).trans (hbefore.trans hchanged), fun ended' hend' => ?_⟩
      cases hend.symm.trans hend'
      exact hbefore.trans hchanged
    · intro hrows changed hchanged
      cases hchanged
      refine (hrows { row with endedAtMs := some observedAtMs } ?_ rfl).2 _ rfl
      rw [hintervals]
      exact (Table.mem_put _).mpr (Or.inl rfl)

/-- **Simulation step**: an accepted observation does to the store what it does
to the history, when a start that is not late opens an interval. -/
theorem Represents.recorded
    (hledger : Ledger s.tables) (hanew : OpensAnew newV5 s (.recordObservation o))
    (h : Represents s.tables series history) (hrecorded : Recorded newV5 o s.tables t') :
    Represents t' series (if o.series = series then history.observe o else history) := by
  cases hrecorded.change with
  | idle hopen hstop hintervals _ =>
    split_ifs with hseries
    · have hidle := h.not_consuming (hseries ▸ hopen)
      rw [QuantityHistory.observe_of_same (hidle.trans hstop.symm)]
      exact h.of_same hintervals
    · exact h.of_same hintervals
  | repeated row hopen hstart hget _ hintervals _ =>
    split_ifs with hseries
    · subst hseries
      have hlate : ¬ history.SettledBy o.observedAtMs := by
        intro hsettled
        cases (hanew hstart ((h.settled _).mp hsettled) hopen).symm.trans hget
      rw [QuantityHistory.observe_of_late hlate]
      exact h.of_same hintervals
    · exact h.of_same hintervals
  | refreshed row hopen _ hstart _ hintervals _ =>
    split_ifs with hseries
    · obtain ⟨hrow, hrowSeries, hnone⟩ := MeteringTables.of_loadOpenInterval hopen
      have hconsuming : history.consuming = true :=
        h.consuming.mpr ⟨row, hrow, hrowSeries.trans hseries, hnone⟩
      rw [QuantityHistory.observe_of_same (hconsuming.trans hstart.symm)]
      exact h.of_same hintervals
    · exact h.of_same hintervals
  | opened hopen hstart habsent hafter hintervals _ =>
    have hended : ∀ x ∈ s.tables.intervals.rows, x.series = o.series →
        x.EndsBefore (openedBy newV5 o o.quantity) := by
      intro x hx hxSeries
      have hclosed := MeteringTables.loadOpenInterval_eq_none_iff.mp hopen x hx hxSeries
      obtain ⟨ended, hended⟩ := Option.ne_none_iff_exists'.mp hclosed
      exact ⟨ended, hended, hafter x hx hxSeries ended hended⟩
    split_ifs with hseries
    · subst hseries
      have hidle := h.not_consuming hopen
      have hsettled : history.SettledBy o.observedAtMs := by
        refine (h.settled _).mpr fun x hx hxSeries => ⟨?_, hafter x hx hxSeries⟩
        obtain ⟨ended, hend, hle⟩ := hended x hx hxSeries
        exact (hledger.spans x hx ended hend).trans hle
      rw [QuantityHistory.observe_of_start hidle hstart hsettled]
      have hrow : Represents s.tables (openedBy newV5 o o.quantity).series history := h
      exact hrow.opened hledger rfl habsent hended hintervals
    · refine h.put_other hseries ?_ hintervals
      intro old hold
      rw [openedBy_intervalId, habsent] at hold
      cases hold
  | closed row _ hopen hle hstop _ hintervals _ =>
    obtain ⟨hrow, hrowSeries, hnone⟩ := MeteringTables.of_loadOpenInterval hopen
    split_ifs with hseries
    · obtain rfl : row.series = series := hrowSeries.trans hseries
      have hconsuming : history.consuming = true := h.consuming.mpr ⟨row, hrow, rfl, hnone⟩
      have hsettled : history.SettledBy o.observedAtMs := by
        refine (h.settled _).mpr fun x hx hxSeries => ?_
        by_cases hsame : x = row
        · subst hsame
          exact ⟨hle, fun ended hend => by cases hnone.symm.trans hend⟩
        · obtain ⟨ended, hend, hbefore⟩ :=
            hledger.endsBefore_open hx hrow hxSeries hsame hnone
          have hbound := hbefore.trans hle
          refine ⟨(hledger.spans x hx ended hend).trans hbound, fun ended' hend' => ?_⟩
          cases hend.symm.trans hend'
          exact hbound
      rw [QuantityHistory.observe_of_stop hconsuming hstop hsettled]
      exact Represents.closed hledger h hrow hnone hle hintervals
    · refine h.put_other ?_ ?_ hintervals
      · exact fun heq => hseries (hrowSeries.symm.trans heq)
      · intro old hold
        rw [s.tables.intervals.get?_key_of_mem hrow] at hold
        cases hold
        rfl

end Step

/-- What is known of the end of a run. -/
structure Simulated (s : MeteringRun) : Prop where
  invariant : RunInvariant s
  provenance : Provenance s
  represents : ∀ series,
    Represents s.tables series (quantityHistory series s.accepted)

variable {newV5 : String → Uuid} {s : MeteringRun}

theorem Simulated.of_fresh (h : Fresh s) : Simulated s := by
  obtain ⟨⟨authority, intervals, aggregates⟩, accepted⟩ := s
  obtain ⟨hintervals, haggregates, haccepted⟩ := h
  simp only at hintervals haggregates haccepted
  subst hintervals haggregates haccepted
  refine ⟨RunInvariant.of_fresh ⟨rfl, rfl, rfl⟩, ⟨?_, ?_, ?_⟩, ?_⟩
  · exact fun row hrow => absurd hrow List.not_mem_nil
  · exact fun row hrow => absurd hrow List.not_mem_nil
  · exact fun row hrow => absurd hrow List.not_mem_nil
  · exact fun series => Represents.of_fresh rfl series

theorem Simulated.step (h : Simulated s) (call : MeteringCall) (hanew : OpensAnew newV5 s call) :
    Simulated (meteringStep newV5 s call) := by
  refine ⟨h.invariant.step call, ?_, ?_⟩
  · cases call with
    | ensureAuthority nowMs => exact ⟨h.provenance.started, h.provenance.ended, h.provenance.stored⟩
    | recordObservation o =>
      by_cases haccepts : Accepts newV5 s.tables o
      · simp only [meteringStep, if_pos haccepts]
        exact h.provenance.recorded (recordObservation_ok haccepts)
      · have hrefusal : RefusalUnchanged newV5 s (.recordObservation o) :=
          refusalUnchanged s _
        have hsame := hrefusal haccepts
        simp only [meteringStep] at hsame
        simp only [meteringStep, if_neg haccepts, hsame]
        exact h.provenance
  · intro series
    cases call with
    | ensureAuthority nowMs => exact Represents.of_same (t := s.tables) rfl (h.represents series)
    | recordObservation o =>
      by_cases haccepts : Accepts newV5 s.tables o
      · simp only [meteringStep, if_pos haccepts, quantityHistory_snoc]
        exact (h.represents series).recorded h.invariant.ledger hanew
          (recordObservation_ok haccepts)
      · have hrefusal : RefusalUnchanged newV5 s (.recordObservation o) :=
          refusalUnchanged s _
        have hsame := hrefusal haccepts
        simp only [meteringStep] at hsame
        simp only [meteringStep, if_neg haccepts, hsame]
        exact h.represents series

/-- **Simulation**: the store represents the history of every series. -/
theorem simulated_run {calls : List MeteringCall} (hfresh : Fresh s)
    (hanew : EachStep (meteringStep newV5) (OpensAnew newV5) s calls) :
    Simulated (run (meteringStep newV5) s calls) :=
  (always_of_guarded (fun _ call h hanew => h.step call hanew) s calls
    (Simulated.of_fresh hfresh) hanew).last

end Metering
end O3k
