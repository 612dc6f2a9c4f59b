import O3k.Metering.Effects
import O3k.Semantics.Run

/-!
# The metering ledger

The intervals of a series never overlap and at most one of them is open, and
what is stored for a bucket is what the closed intervals of its series have in
common with it, hour by hour and day by day.
-/

namespace O3k
namespace Metering

open Relational Relational.Transaction Intervals Semantics

/-- The usage of a closed interval in `[lo, hi)`. -/
def MeterIntervalRecord.closedUsage (row : MeterIntervalRecord) (lo hi : Int) : Int :=
  match row.endedAtMs with
  | some ended => row.quantity * overlap row.startedAtMs ended lo hi
  | none => 0

/-- The usage of the closed intervals of a series in `[lo, hi)`. -/
def MeteringTables.closedUsage (t : MeteringTables) (series : Series) (lo hi : Int) : Int :=
  t.intervals.sumBy fun row => if row.series = series then row.closedUsage lo hi else 0

def MeterIntervalRecord.EndsBefore (row row' : MeterIntervalRecord) : Prop :=
  ∃ ended, row.endedAtMs = some ended ∧ ended ≤ row'.startedAtMs

/-- What is recorded of a series at any time. -/
structure LedgerSound (t : MeteringTables) : Prop where
  oneOpen : ∀ row ∈ t.intervals.rows, ∀ row' ∈ t.intervals.rows,
    row.series = row'.series → row.endedAtMs = none → row'.endedAtMs = none → row = row'
  spans : ∀ row ∈ t.intervals.rows, ∀ ended, row.endedAtMs = some ended →
    row.startedAtMs ≤ ended
  disjoint : ∀ row ∈ t.intervals.rows, ∀ row' ∈ t.intervals.rows,
    row.series = row'.series → row ≠ row' → row.EndsBefore row' ∨ row'.EndsBefore row
  stored : ∀ row ∈ t.aggregates.rows,
    row.bucketWidthMs = ingestBucketWidthMs ∧
      row.quantityMillis
        =
      t.closedUsage row.series row.bucketStartMs (row.bucketStartMs + row.bucketWidthMs)
  rolledUp : ∀ series (granularity : UsageGranularity) b, granularity.widthMs ∣ b →
    t.rolledUp series granularity.widthMs b = t.closedUsage series b (b + granularity.widthMs)

/-- The inductive form of `LedgerSound`. -/
structure Ledger (t : MeteringTables) : Prop where
  spans : ∀ row ∈ t.intervals.rows, ∀ ended, row.endedAtMs = some ended →
    row.startedAtMs ≤ ended
  quantity : ∀ row ∈ t.intervals.rows, 0 < row.quantity
  disjoint : ∀ row ∈ t.intervals.rows, ∀ row' ∈ t.intervals.rows,
    row.series = row'.series → row ≠ row' → row.EndsBefore row' ∨ row'.EndsBefore row
  aligned : ∀ row ∈ t.aggregates.rows,
    ingestBucketWidthMs ∣ row.bucketStartMs ∧ row.bucketWidthMs = ingestBucketWidthMs
  positive : ∀ row ∈ t.aggregates.rows, 0 < row.quantityMillis
  rolledUp : ∀ series (granularity : UsageGranularity) b, granularity.widthMs ∣ b →
    t.rolledUp series granularity.widthMs b = t.closedUsage series b (b + granularity.widthMs)

theorem ingestBucketWidthMs_pos : 0 < ingestBucketWidthMs := by
  decide

theorem Ledger.of_fresh {t : MeteringTables}
    (hintervals : t.intervals = ∅) (haggregates : t.aggregates = ∅) :
    Ledger t := by
  have hnoInterval : ∀ row, row ∉ t.intervals.rows := by
    rw [hintervals]
    exact fun row => List.not_mem_nil
  have hnoBucket : ∀ row, row ∉ t.aggregates.rows := by
    rw [haggregates]
    exact fun row => List.not_mem_nil
  refine ⟨?_, ?_, ?_, ?_, ?_, ?_⟩
  · exact fun row hrow => absurd hrow (hnoInterval row)
  · exact fun row hrow => absurd hrow (hnoInterval row)
  · exact fun row hrow => absurd hrow (hnoInterval row)
  · exact fun row hrow => absurd hrow (hnoBucket row)
  · exact fun row hrow => absurd hrow (hnoBucket row)
  · intro series granularity b _
    rw [MeteringTables.rolledUp, MeteringTables.closedUsage, hintervals, haggregates]
    rfl

namespace Ledger

variable {t t' : MeteringTables} {row : MeterIntervalRecord}

theorem endsBefore_open (h : Ledger t) {row' : MeterIntervalRecord} (hrow : row ∈ t.intervals.rows)
    (hrow' : row' ∈ t.intervals.rows) (hseries : row.series = row'.series) (hne : row ≠ row')
    (hopen : row'.endedAtMs = none) :
    row.EndsBefore row' := by
  rcases h.disjoint row hrow row' hrow' hseries hne with hbefore | ⟨ended, hended, _⟩
  · exact hbefore
  · rw [hopen] at hended
    cases hended

theorem rolledUp_hour (h : Ledger t) {row : MeterAggregateRecord} (hrow : row ∈ t.aggregates.rows) :
    t.rolledUp row.series ingestBucketWidthMs row.bucketStartMs = row.quantityMillis := by
  have hself :
      alignDown ingestBucketWidthMs row.bucketStartMs = row.bucketStartMs :=
    alignDown_of_dvd ingestBucketWidthMs_pos (h.aligned row hrow).1
  have hsingle := t.aggregates.sumBy_eq_single
    (f := fun x =>
      if x.series = row.series ∧
          alignDown ingestBucketWidthMs x.bucketStartMs = row.bucketStartMs then
        x.quantityMillis
      else
        0)
    hrow
    (by
      intro x hx hne
      refine if_neg ?_
      rintro ⟨hseries, halign⟩
      rw [alignDown_of_dvd ingestBucketWidthMs_pos (h.aligned x hx).1] at halign
      exact hne (t.aggregates.eq_of_mem_of_key_eq hx hrow (bucketKey_inj.mpr ⟨hseries, halign⟩)))
  rw [if_pos ⟨rfl, hself⟩] at hsingle
  exact hsingle

theorem sound (h : Ledger t) : LedgerSound t := by
  refine ⟨?_, h.spans, h.disjoint, ?_, h.rolledUp⟩
  · intro row hrow row' hrow' hseries hopen hopen'
    by_contra hne
    obtain ⟨ended, hended, _⟩ := h.endsBefore_open hrow hrow' hseries hne hopen'
    rw [hopen] at hended
    cases hended
  · intro row hrow
    obtain ⟨haligned, hwidth⟩ := h.aligned row hrow
    have hsum := h.rolledUp row.series .hour row.bucketStartMs haligned
    rw [hwidth]
    exact ⟨rfl, (h.rolledUp_hour hrow).symm.trans hsum⟩

theorem of_same
    (hintervals : t'.intervals = t.intervals) (haggregates : t'.aggregates = t.aggregates)
    (h : Ledger t) :
    Ledger t' := by
  obtain ⟨_, intervals', aggregates'⟩ := t'
  subst hintervals haggregates
  exact ⟨h.spans, h.quantity, h.disjoint, h.aligned, h.positive, h.rolledUp⟩

theorem disjoint_put (h : Ledger t)
    (hafter : ∀ x ∈ t.intervals.rows, x.intervalId ≠ row.intervalId →
      x.series = row.series → x.EndsBefore row) :
    ∀ x ∈ (t.intervals.put row).rows, ∀ y ∈ (t.intervals.put row).rows,
      x.series = y.series → x ≠ y → x.EndsBefore y ∨ y.EndsBefore x := by
  intro x hx y hy hseries hne
  rcases (Table.mem_put _).mp hx with rfl | ⟨hxOld, hxid⟩
  · rcases (Table.mem_put _).mp hy with rfl | ⟨hyOld, hyid⟩
    · exact absurd rfl hne
    · exact Or.inr (hafter y hyOld hyid hseries.symm)
  · rcases (Table.mem_put _).mp hy with rfl | ⟨hyOld, hyid⟩
    · exact Or.inl (hafter x hxOld hxid hseries)
    · exact h.disjoint x hxOld y hyOld hseries hne

theorem closedUsage_put_open
    (hopen : row.endedAtMs = none) (habsent : t.intervals.get? row.intervalId = none)
    (hintervals : t'.intervals = t.intervals.put row) (series : Series) (lo hi : Int) :
    t'.closedUsage series lo hi = t.closedUsage series lo hi := by
  rw [MeteringTables.closedUsage, hintervals, Table.sumBy_put_of_absent _ _ habsent]
  simp [MeterIntervalRecord.closedUsage, hopen, MeteringTables.closedUsage]

theorem of_opened (h : Ledger t) (hquantity : 0 < row.quantity) (hopen : row.endedAtMs = none)
    (habsent : t.intervals.get? row.intervalId = none)
    (hafter : ∀ x ∈ t.intervals.rows, x.series = row.series → x.EndsBefore row)
    (hintervals : t'.intervals = t.intervals.put row) (haggregates : t'.aggregates = t.aggregates) :
    Ledger t' where
  spans := by
    rw [hintervals]
    intro x hx ended hended
    rcases (Table.mem_put _).mp hx with rfl | ⟨hx, _⟩
    · rw [hopen] at hended
      cases hended
    · exact h.spans x hx ended hended
  quantity := by
    rw [hintervals]
    intro x hx
    rcases (Table.mem_put _).mp hx with rfl | ⟨hx, _⟩
    · exact hquantity
    · exact h.quantity x hx
  disjoint := by
    rw [hintervals]
    exact h.disjoint_put fun x hx _ hseries => hafter x hx hseries
  aligned := haggregates ▸ h.aligned
  positive := haggregates ▸ h.positive
  rolledUp := by
    intro series granularity b hb
    rw [closedUsage_put_open hopen habsent hintervals, ← h.rolledUp series granularity b hb,
      MeteringTables.rolledUp, MeteringTables.rolledUp, haggregates]

end Ledger

theorem contributed_closingContributions {row : MeterIntervalRecord} {observedAtMs : Int}
    {contributions : List (Int × Int)}
    (h : closingContributions row observedAtMs = .ok contributions)
    (granularity : UsageGranularity) {b : Int} (hb : granularity.widthMs ∣ b) :
    contributed granularity.widthMs contributions b =
    row.quantity * overlap row.startedAtMs observedAtMs b (b + granularity.widthMs) := by
  unfold closingContributions at h
  split_ifs at h with hempty hnegative
  · cases h
    rw [overlap_of_empty hempty, mul_zero, contributed_nil]
  · rw [contributed_bucketContributions granularity.widthMs_pos granularity.dvd_widthMs hb h,
      Int.toNat_of_nonneg (not_lt.mp hnegative)]

theorem mem_closingContributions {row : MeterIntervalRecord} {observedAtMs : Int}
    {contributions : List (Int × Int)} (hquantity : 0 < row.quantity)
    (h : closingContributions row observedAtMs = .ok contributions) {c : Int × Int}
    (hc : c ∈ contributions) :
    ingestBucketWidthMs ∣ c.1 ∧ 0 < c.2 := by
  unfold closingContributions at h
  split_ifs at h with hempty hnegative
  · cases h
    exact absurd hc List.not_mem_nil
  · obtain ⟨hwidth, _, hloop⟩ := bucketContributions_eq_ok h
    obtain ⟨haligned, _, _, hpos, _⟩ :=
      mem_bucketContributionsFrom hwidth (by omega) hloop hc
    exact ⟨haligned, hpos⟩

namespace Ledger

variable {t t' : MeteringTables}

theorem of_closed {row : MeterIntervalRecord} {observedAtMs : Int}
    {contributions : List (Int × Int)} (h : Ledger t) (hrow : row ∈ t.intervals.rows)
    (hopen : row.endedAtMs = none) (hle : row.startedAtMs ≤ observedAtMs)
    (hcontributions : closingContributions row observedAtMs = .ok contributions)
    (hintervals : t'.intervals = t.intervals.put { row with endedAtMs := some observedAtMs })
    (hfolded : Folded row.series contributions { t' with aggregates := t.aggregates } t') :
    Ledger t' where
  spans := by
    rw [hintervals]
    intro x hx ended hended
    rcases (Table.mem_put _).mp hx with rfl | ⟨hx, _⟩
    · cases hended
      exact hle
    · exact h.spans x hx ended hended
  quantity := by
    rw [hintervals]
    intro x hx
    rcases (Table.mem_put _).mp hx with rfl | ⟨hx, _⟩
    · exact h.quantity row hrow
    · exact h.quantity x hx
  disjoint := by
    rw [hintervals]
    refine h.disjoint_put fun x hx hid hseries => ?_
    have hne : x ≠ row := fun heq => hid (heq ▸ rfl)
    have hbefore : x.EndsBefore row := h.endsBefore_open hx hrow hseries hne hopen
    exact hbefore
  aligned := by
    intro bucket hbucket
    rcases hfolded.rows bucket hbucket with hmem | ⟨_, hwidth, c, hc, hstart⟩
    · exact h.aligned bucket hmem
    · rw [hstart]
      exact ⟨(mem_closingContributions (h.quantity row hrow) hcontributions hc).1, hwidth⟩
  positive :=
    hfolded.positive h.positive fun _ hc =>
      (mem_closingContributions (h.quantity row hrow) hcontributions hc).2
  rolledUp := by
    intro series granularity b hb
    have hclosed :
        t'.closedUsage series b (b + granularity.widthMs)
          =
        t.closedUsage series b (b + granularity.widthMs) +
          if row.series = series then
            row.quantity * overlap row.startedAtMs observedAtMs b (b + granularity.widthMs)
          else
            0 := by
      have hsum := t.intervals.sumBy_put_add
        (fun row =>
          if row.series = series then
            row.closedUsage b (b + granularity.widthMs)
          else
            0)
        { row with endedAtMs := some observedAtMs }
      have hget :
          t.intervals.get?
              (MeterIntervalRecord.intervalId { row with endedAtMs := some observedAtMs })
            =
          some row :=
        t.intervals.get?_key_of_mem hrow
      rw [hget, Option.elim_some] at hsum
      simp only [MeterIntervalRecord.closedUsage, hopen, ite_self, add_zero] at hsum
      rw [MeteringTables.closedUsage, hintervals]
      exact hsum
    rw [hfolded.rolledUp, hclosed, ← h.rolledUp series granularity b hb,
      contributed_closingContributions hcontributions granularity hb]
    rfl

/-- **Step**: an accepted observation keeps the ledger. -/
theorem of_recorded {newV5 : String → Uuid} {o : MeterObservation}
    (h : Ledger t) (hrecorded : Recorded newV5 o t t') :
    Ledger t' := by
  cases hrecorded.change with
  | idle _ _ hintervals haggregates => exact h.of_same hintervals haggregates
  | repeated _ _ _ _ _ hintervals haggregates => exact h.of_same hintervals haggregates
  | refreshed _ _ _ _ _ hintervals haggregates => exact h.of_same hintervals haggregates
  | opened hopen hstart habsent hafter hintervals haggregates =>
    have hpos := MeterObservation.quantity_pos_of_validate hrecorded.valid hstart
    refine h.of_opened (Int.natCast_pos.mpr hpos) rfl habsent ?_ hintervals haggregates
    intro x hx hseries
    have hclosed := MeteringTables.loadOpenInterval_eq_none_iff.mp hopen x hx hseries
    obtain ⟨ended, hended⟩ := Option.ne_none_iff_exists'.mp hclosed
    exact ⟨ended, hended, hafter x hx hseries ended hended⟩
  | closed row contributions hopen hle _ hcontributions hintervals hfolded =>
    obtain ⟨hrow, hseries, hnone⟩ := MeteringTables.of_loadOpenInterval hopen
    exact h.of_closed hrow hnone hle hcontributions hintervals (hseries ▸ hfolded)

end Ledger

end Metering
end O3k
