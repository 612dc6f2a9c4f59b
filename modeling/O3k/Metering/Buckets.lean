import O3k.Kernel.Error
import O3k.Relational.Transaction
import O3k.Intervals.Overlap

/-!
# Meters and their observations

The meter catalog, the granularities of a usage query and the observation a
lifecycle authority records.  A series is one meter of one resource of one
scope.
-/

namespace O3k
namespace Metering

open Relational Intervals Relational.Transaction

def ingestBucketWidthMs : Int := 3600000

def maxIngestBuckets : Nat := 96000

inductive UsageGranularity
  | hour
  | day
  deriving DecidableEq

def UsageGranularity.widthMs : UsageGranularity → Int
  | hour => ingestBucketWidthMs
  | day => 86400000

inductive MeterUnit
  | instanceSecond
  | vcpuSecond
  | byteSecond
  deriving DecidableEq

structure MeterDefinition where
  key : String
  unit : MeterUnit
  supportedGranularities : List UsageGranularity
  deriving DecidableEq

def supportedGranularities : List UsageGranularity := [.hour, .day]

def meterCatalog : List MeterDefinition :=
  [⟨"compute:instance_seconds", .instanceSecond, supportedGranularities⟩,
    ⟨"volume:allocated_byte_seconds", .byteSecond, supportedGranularities⟩]

def meterDefinition (key : String) : Option MeterDefinition :=
  meterCatalog.find? fun definition => definition.key = key

/-- One meter of one resource of one scope. -/
structure Series where
  meterKey : String
  scope : String
  resourceId : String
  deriving DecidableEq

/-- `MeterObservation`, with the three parts of its series in one field. -/
structure MeterObservation where
  series : Series
  quantity : Nat
  consuming : Bool
  observedAtMs : Int
  authority : String
  deriving DecidableEq

namespace MeterObservation

def validate (self : MeterObservation) : Except KernelError Unit :=
  if meterDefinition self.series.meterKey = none then
    .error (.invalidIdentifier "meter key")
  else if self.series.scope.isEmpty ∨ 256 < self.series.scope.utf8ByteSize then
    .error (.invalidScopeId self.series.scope)
  else if self.series.resourceId.isEmpty ∨ 256 < self.series.resourceId.utf8ByteSize then
    .error (.invalidResourceId self.series.resourceId)
  else if self.consuming ∧ self.quantity = 0 then
    .error (.invalidIdentifier "meter quantity")
  else if ¬ self.consuming ∧ self.quantity ≠ 0 then
    .error (.invalidIdentifier "meter quantity")
  else if self.observedAtMs < 0 then
    .error (.invalidIdentifier "observation time")
  else if self.authority.isEmpty ∨ 64 < self.authority.utf8ByteSize then
    .error (.invalidIdentifier "meter authority")
  else
    .ok ()

theorem quantity_pos_of_validate {o : MeterObservation}
    (h : o.validate = .ok ()) (hconsuming : o.consuming = true) :
    0 < o.quantity := by
  unfold validate at h
  split_ifs at h with _ _ _ hzero
  exact Nat.pos_of_ne_zero fun hquantity => hzero ⟨hconsuming, hquantity⟩

end MeterObservation

theorem UsageGranularity.dvd_widthMs (granularity : UsageGranularity) :
    ingestBucketWidthMs ∣ granularity.widthMs := by
  cases granularity <;> decide

theorem UsageGranularity.widthMs_pos (granularity : UsageGranularity) :
    0 < granularity.widthMs := by
  cases granularity <;> decide

/-!
# Splitting an interval into ingest buckets

The loop is structural on the number of buckets it may still emit.  Of any
coarser width, the contributions whose bucket lies in a coarse bucket add up to
the quantity times the overlap of the interval with that bucket.
-/

/-- The loop of `bucket_contributions`, with room for `room` more buckets. -/
def bucketContributionsFrom (endMs : Int) (quantity : Nat) (widthMs : Int) :
    Nat → Int → Except KernelError (List (Int × Int))
  | 0, cursor =>
    if cursor < endMs then .error (.invalidIdentifier "meter interval span") else .ok []
  | room + 1, cursor =>
    if cursor < endMs then do
      let bucketStart := alignDown widthMs cursor
      let bucketEnd ← checkedI64 (bucketStart + widthMs) (.invalidIdentifier "meter interval")
      let segmentEnd := min endMs bucketEnd
      let overlap := segmentEnd - cursor
      let product ← checkedI128 (quantity * overlap) (.invalidIdentifier "meter overflow")
      let contribution ← checkedI64 product (.invalidIdentifier "meter overflow")
      let rest ← bucketContributionsFrom endMs quantity widthMs room segmentEnd
      pure ((bucketStart, contribution) :: rest)
    else
      .ok []

def bucketContributions (startMs endMs : Int) (quantity : Nat) (widthMs : Int) :
    Except KernelError (List (Int × Int)) :=
  if widthMs ≤ 0 ∨ endMs ≤ startMs then
    .error (.invalidIdentifier "meter interval")
  else
    bucketContributionsFrom endMs quantity widthMs maxIngestBuckets startMs

/-- What the contributions add to the bucket of the given width that starts at `b`. -/
def contributed (width : Int) (contributions : List (Int × Int)) (b : Int) : Int :=
  (contributions.map fun c => if alignDown width c.1 = b then c.2 else 0).sum

@[simp] theorem contributed_nil (width b : Int) : contributed width [] b = 0 := by
  rfl

@[simp] theorem contributed_cons
    (width : Int) (c : Int × Int) (contributions : List (Int × Int)) (b : Int) :
    contributed width (c :: contributions) b =
    (if alignDown width c.1 = b then c.2 else 0) + contributed width contributions b := by
  rfl

section Loop

variable {endMs : Int} {quantity : Nat} {width : Int} {room : Nat} {cursor : Int}

variable {contributions : List (Int × Int)}

theorem bucketContributionsFrom_done (hdone : ¬ cursor < endMs) :
    bucketContributionsFrom endMs quantity width room cursor = .ok [] := by
  cases room <;> simp [bucketContributionsFrom, hdone]

theorem bucketContributionsFrom_induction {P : Nat → Int → List (Int × Int) → Prop}
    (done : ∀ room cursor, endMs ≤ cursor → P room cursor [])
    (turn : ∀ room cursor rest, cursor < endMs → alignDown width cursor + width ≤ i64Max →
      quantity * (min endMs (alignDown width cursor + width) - cursor) ≤ i64Max →
      P room (min endMs (alignDown width cursor + width)) rest →
      P (room + 1) cursor
        ((alignDown width cursor,
          quantity * (min endMs (alignDown width cursor + width) - cursor)) :: rest))
    (h : bucketContributionsFrom endMs quantity width room cursor = .ok contributions) :
    P room cursor contributions := by
  induction room generalizing cursor contributions with
  | zero =>
    by_cases hmore : cursor < endMs
    · rw [bucketContributionsFrom, if_pos hmore] at h
      cases h
    · rw [bucketContributionsFrom_done hmore] at h
      cases h
      exact done 0 cursor (not_lt.mp hmore)
  | succ room ih =>
    by_cases hmore : cursor < endMs
    · rw [bucketContributionsFrom, if_pos hmore] at h
      obtain ⟨bucketEnd, hend, h⟩ := except_bind_eq_ok.mp h
      obtain ⟨rfl, hendFits⟩ := checkedI64_eq_ok hend
      obtain ⟨product, hproduct, h⟩ := except_bind_eq_ok.mp h
      obtain rfl := checkedI128_eq_ok hproduct
      obtain ⟨contribution, hcontribution, h⟩ := except_bind_eq_ok.mp h
      obtain ⟨rfl, hle⟩ := checkedI64_eq_ok hcontribution
      obtain ⟨rest, hrest, h⟩ := except_bind_eq_ok.mp h
      cases h
      exact turn room cursor rest hmore hendFits hle (ih hrest)
    · rw [bucketContributionsFrom_done hmore] at h
      cases h
      exact done (room + 1) cursor (not_lt.mp hmore)

theorem mul_overlap_of_within_bucket
    (quantity cursor stop : Int) (hwidth : 0 < width) {coarse : Int} (hcoarse : 0 < coarse)
    (hdvd : width ∣ coarse) {b : Int} (hb : coarse ∣ b) (hcursor : cursor ≤ stop)
    (hstop : stop ≤ alignDown width cursor + width) :
    quantity * overlap cursor stop b (b + coarse) =
    if alignDown coarse (alignDown width cursor) = b then quantity * (stop - cursor) else 0 := by
  have hle := alignDown_le hwidth cursor
  by_cases hin : alignDown coarse (alignDown width cursor) = b
  · rw [if_pos hin]
    have hspan := (alignDown_eq_iff hcoarse hb cursor).mp
      ((alignDown_coarser hwidth hcoarse hdvd hb cursor).mp hin)
    have hend : alignDown width cursor + width ≤ b + coarse := by
      refine add_width_le_of_lt hwidth (dvd_alignDown width cursor)
        (dvd_add (hdvd.trans hb) hdvd) ?_
      omega
    rw [overlap_of_within hspan.1 hcursor (hstop.trans hend)]
  · rw [if_neg hin]
    have hout : ¬ (b ≤ alignDown width cursor ∧ alignDown width cursor < b + coarse) :=
      fun h => hin ((alignDown_eq_iff hcoarse hb _).mpr h)
    have hzero : overlap cursor stop b (b + coarse) = 0 := by
      refine overlap_eq_zero_of_le ?_
      by_cases hbefore : b ≤ alignDown width cursor
      · right
        have : b + coarse ≤ alignDown width cursor := by
          omega
        omega
      · left
        have := add_width_le_of_lt hwidth (dvd_alignDown width cursor) (hdvd.trans hb)
          (not_le.mp hbefore)
        omega
    rw [hzero, mul_zero]

theorem contributed_bucketContributionsFrom
    (hwidth : 0 < width) {coarse : Int} (hcoarse : 0 < coarse) (hdvd : width ∣ coarse) {b : Int}
    (hb : coarse ∣ b)
    (h : bucketContributionsFrom endMs quantity width room cursor = .ok contributions) :
    contributed coarse contributions b = quantity * overlap cursor endMs b (b + coarse) := by
  refine bucketContributionsFrom_induction
    (P := fun _ cursor contributions =>
      contributed coarse contributions b = quantity * overlap cursor endMs b (b + coarse))
    ?_ ?_ h
  · intro _ cursor hdone
    rw [overlap_of_empty hdone, mul_zero, contributed_nil]
  · intro _ cursor rest hmore _ _ ih
    have hlt := lt_alignDown_add hwidth cursor
    have hsplit :=
      overlap_split (a := cursor) (m := min endMs (alignDown width cursor + width))
        (b := endMs) (by omega) (by omega) b (b + coarse)
    have hpiece :=
      mul_overlap_of_within_bucket (quantity : Int) cursor
        (min endMs (alignDown width cursor + width)) hwidth hcoarse hdvd hb
        (by omega) (by omega)
    rw [contributed_cons, ih, hsplit, mul_add, hpiece]

/-- Every contribution belongs to an aligned bucket from the cursor's own to the
last one before the end, and is positive and small enough to store. -/
theorem mem_bucketContributionsFrom (hwidth : 0 < width) (hquantity : 0 < quantity)
    (h : bucketContributionsFrom endMs quantity width room cursor = .ok contributions)
    {c : Int × Int} (hc : c ∈ contributions) :
    width ∣ c.1 ∧ alignDown width cursor ≤ c.1 ∧ c.1 < endMs ∧ 0 < c.2 ∧ c.2 ≤ i64Max := by
  refine bucketContributionsFrom_induction
    (P := fun _ cursor contributions => ∀ c ∈ contributions,
      width ∣ c.1 ∧ alignDown width cursor ≤ c.1 ∧ c.1 < endMs ∧ 0 < c.2 ∧ c.2 ≤ i64Max)
    ?_ ?_ h c hc
  · intro _ cursor _ c hc
    exact absurd hc List.not_mem_nil
  · intro _ cursor rest hmore _ hfits ih c hc
    have hle := alignDown_le hwidth cursor
    have hlt := lt_alignDown_add hwidth cursor
    rcases List.mem_cons.mp hc with rfl | hc
    · refine ⟨dvd_alignDown width cursor, le_refl _, by omega, ?_, hfits⟩
      exact mul_pos (Int.natCast_pos.mpr hquantity) (by omega)
    · obtain ⟨halign, hfrom, hrest⟩ := ih c hc
      exact ⟨halign, (alignDown_mono hwidth (by omega)).trans hfrom, hrest⟩

theorem overlap_turn (hwidth : 0 < width) (hmore : cursor < endMs) {b : Int} (hb : width ∣ b) :
    b = alignDown width cursor ∧
        overlap cursor endMs b (b + width) = min endMs (alignDown width cursor + width) - cursor ∧
        overlap (min endMs (alignDown width cursor + width)) endMs b (b + width) = 0 ∨
      b ≠ alignDown width cursor ∧ overlap cursor endMs b (b + width) =
        overlap (min endMs (alignDown width cursor + width)) endMs b (b + width) := by
  have hle := alignDown_le hwidth cursor
  have hlt := lt_alignDown_add hwidth cursor
  have halign := dvd_alignDown width cursor
  rcases lt_trichotomy b (alignDown width cursor) with hbefore | rfl | hafter
  · have := add_width_le_of_lt hwidth hb halign hbefore
    right
    unfold overlap
    omega
  · left
    unfold overlap
    omega
  · have := add_width_le_of_lt hwidth halign hb hafter
    right
    unfold overlap
    omega

/-- The contributions are those of the buckets that the interval meets. -/
structure Splits (width startMs endMs : Int) (quantity : Nat) (contributions : List (Int × Int)) :
    Prop where
  aligned : ∀ c ∈ contributions, width ∣ c.1
  increasing : (contributions.map Prod.fst).Pairwise (· < ·)
  covers : ∀ b, width ∣ b →
    (b ∈ contributions.map Prod.fst ↔ 0 < overlap startMs endMs b (b + width))
  sum : (contributions.map Prod.snd).sum = quantity * (endMs - startMs)

theorem splits_of_bucketContributionsFrom (hwidth : 0 < width) (hle : cursor ≤ endMs)
    (h : bucketContributionsFrom endMs quantity width room cursor = .ok contributions) :
    Splits width cursor endMs quantity contributions := by
  refine bucketContributionsFrom_induction
    (P := fun _ cursor contributions =>
      cursor ≤ endMs → Splits width cursor endMs quantity contributions) ?_ ?_ h hle
  · intro _ cursor hdone hle
    obtain rfl := le_antisymm hle hdone
    refine ⟨by simp, by simp, fun b _ => ?_, by simp⟩
    simp [overlap_of_empty]
  · intro _ cursor rest hmore _ _ ih _
    have hrest := ih (min_le_left _ _)
    refine ⟨?_, ?_, ?_, ?_⟩
    · rintro c (_ | ⟨_, hc⟩)
      · exact dvd_alignDown width cursor
      · exact hrest.aligned c hc
    · refine List.pairwise_cons.mpr ⟨fun b hb => ?_, hrest.increasing⟩
      obtain ⟨c, hc, rfl⟩ := List.mem_map.mp hb
      have hmeets := (hrest.covers c.1 (hrest.aligned c hc)).mp hb
      unfold overlap at hmeets
      omega
    · intro b hb
      rw [List.map_cons, List.mem_cons, hrest.covers b hb]
      have hlt := lt_alignDown_add hwidth cursor
      rcases overlap_turn hwidth hmore hb with ⟨rfl, hcursor, _⟩ | ⟨hne, heq⟩
      · exact ⟨fun _ => by omega, fun _ => Or.inl rfl⟩
      · rw [heq]
        exact or_iff_right hne
    · rw [List.map_cons, List.sum_cons, hrest.sum]
      ring

/-- No sum and no product of the loop leaves its type, and the buckets are no
more than there is room for. -/
structure Fits (width startMs endMs : Int) (quantity room : Nat) : Prop where
  bounded : ∀ b, width ∣ b → 0 < overlap startMs endMs b (b + width) →
    -i64Max - 1 ≤ b ∧ b + width ≤ i64Max ∧
      quantity * overlap startMs endMs b (b + width) ≤ i64Max
  enough : endMs ≤ alignDown width startMs + room * width

theorem fits_of_bucketContributionsFrom
    (hwidth : 0 < width) (hstart : -i64Max - 1 ≤ alignDown width cursor) (hmore : cursor < endMs)
    (h : bucketContributionsFrom endMs quantity width room cursor = .ok contributions) :
    Fits width cursor endMs quantity room := by
  refine bucketContributionsFrom_induction
    (P := fun room cursor _ => -i64Max - 1 ≤ alignDown width cursor → cursor < endMs →
      Fits width cursor endMs quantity room) ?_ ?_ h hstart hmore
  · intro _ cursor hdone _ hmore
    omega
  · intro room cursor rest hmore hend hproduct ih hstart _
    have hnext :
        alignDown width (alignDown width cursor + width) = alignDown width cursor + width :=
      alignDown_of_dvd hwidth (dvd_add (dvd_alignDown width cursor) (dvd_refl width))
    have hroom : 0 ≤ room * width := mul_nonneg (Int.natCast_nonneg room) hwidth.le
    have hturns : ((room + 1 : Nat) : Int) * width = room * width + width := by
      push_cast
      ring
    by_cases hlast : endMs ≤ alignDown width cursor + width
    · refine ⟨fun b hb hmeets => ?_, by omega⟩
      rcases overlap_turn hwidth hmore hb with ⟨rfl, hcursor, _⟩ | ⟨_, heq⟩
      · exact ⟨hstart, hend, hcursor ▸ hproduct⟩
      · rw [heq, min_eq_left hlast, overlap_of_empty le_rfl] at hmeets
        exact absurd hmeets (lt_irrefl 0)
    · rw [min_eq_right (by omega)] at ih
      have hrest := ih (by omega) (by omega)
      refine ⟨fun b hb hmeets => ?_, ?_⟩
      · rcases overlap_turn hwidth hmore hb with ⟨rfl, hcursor, _⟩ | ⟨_, heq⟩
        · exact ⟨hstart, hend, hcursor ▸ hproduct⟩
        · rw [min_eq_right (by omega)] at heq
          rw [heq] at hmeets ⊢
          exact hrest.bounded b hb hmeets
      · have := hrest.enough
        omega

/-- The loop succeeds when nothing of what it computes leaves its bound. -/
theorem bucketContributionsFrom_of_fits
    (hwidth : 0 < width) (hfits : Fits width cursor endMs quantity room) :
    ∃ contributions,
      bucketContributionsFrom endMs quantity width room cursor = .ok contributions := by
  induction room generalizing cursor with
  | zero =>
    have hle := alignDown_le hwidth cursor
    have henough := hfits.enough
    refine ⟨[], bucketContributionsFrom_done ?_⟩
    simp only [Nat.cast_zero, zero_mul] at henough
    omega
  | succ room ih =>
    by_cases hmore : cursor < endMs
    · have hlt := lt_alignDown_add hwidth cursor
      have hdvd := dvd_alignDown width cursor
      obtain ⟨_, hpiece, hgone⟩ :=
        (overlap_turn hwidth hmore hdvd).resolve_right fun h => h.1 rfl
      obtain ⟨hfrom, hend, hproduct⟩ := hfits.bounded (alignDown width cursor) hdvd (by omega)
      rw [hpiece] at hproduct
      have hproductNonneg :
          0 ≤ (quantity : Int) * (min endMs (alignDown width cursor + width) - cursor) :=
        mul_nonneg (Int.natCast_nonneg quantity) (by omega)
      obtain ⟨rest, hrest⟩ :
          ∃ rest,
            bucketContributionsFrom endMs quantity width room
                (min endMs (alignDown width cursor + width)) = .ok rest := by
        by_cases hlast : endMs ≤ alignDown width cursor + width
        · rw [min_eq_left hlast]
          exact ⟨[], bucketContributionsFrom_done (lt_irrefl endMs)⟩
        · refine ih ⟨fun b hb hmeets => ?_, ?_⟩
          · obtain ⟨_, heq⟩ := (overlap_turn hwidth hmore hb).resolve_left fun h => by
              omega
            rw [← heq] at hmeets ⊢
            exact hfits.bounded b hb hmeets
          · have henough := hfits.enough
            rw [min_eq_right (by omega), alignDown_of_dvd hwidth (dvd_add hdvd (dvd_refl width))]
            push_cast at henough
            linarith [add_mul (room : Int) 1 width]
      refine ⟨(alignDown width cursor,
        quantity * (min endMs (alignDown width cursor + width) - cursor)) :: rest, ?_⟩
      rw [bucketContributionsFrom, if_pos hmore]
      refine except_bind_eq_ok.mpr ⟨_, if_pos ⟨by omega, hend⟩, ?_⟩
      refine except_bind_eq_ok.mpr
        ⟨_, checkedI128_of_le hproductNonneg (hproduct.trans (by decide)) _, ?_⟩
      refine except_bind_eq_ok.mpr ⟨_, checkedI64_of_le hproductNonneg hproduct _, ?_⟩
      exact except_bind_eq_ok.mpr ⟨rest, hrest, rfl⟩
    · exact ⟨[], bucketContributionsFrom_done hmore⟩

end Loop

section Whole

variable {startMs endMs : Int} {quantity : Nat} {width : Int}

theorem bucketContributions_eq_ok {contributions : List (Int × Int)}
    (h : bucketContributions startMs endMs quantity width = .ok contributions) :
    0 < width ∧ startMs < endMs ∧
      bucketContributionsFrom endMs quantity width maxIngestBuckets startMs =
      .ok contributions := by
  unfold bucketContributions at h
  split at h
  · cases h
  · rename_i hok
    exact ⟨by omega, by omega, h⟩

/-- **Contributions**: each coarse bucket receives the quantity times the
overlap of the interval with it. -/
theorem contributed_bucketContributions {coarse : Int}
    (hcoarse : 0 < coarse) (hdvd : width ∣ coarse) {b : Int} (hb : coarse ∣ b)
    {contributions : List (Int × Int)}
    (h : bucketContributions startMs endMs quantity width = .ok contributions) :
    contributed coarse contributions b = quantity * overlap startMs endMs b (b + coarse) := by
  obtain ⟨hwidth, _, hloop⟩ := bucketContributions_eq_ok h
  exact contributed_bucketContributionsFrom hwidth hcoarse hdvd hb hloop

end Whole

/-!
# The split in machine arithmetic

Of the operations of the loop, the product that aligns the cursor alone is
neither checked nor in range by itself.  A build with overflow checks panics
where it overflows, any other build wraps it.
-/

/-- `x * y` of two `i64`; `none` is a panic. -/
def timesI64 (overflowChecks : Bool) (x y : Int) : ExceptT KernelError Option Int :=
  if -i64Max - 1 ≤ x * y ∧ x * y ≤ i64Max then pure (x * y)
  else if overflowChecks then ExceptT.mk none
  else pure (Int.bmod (x * y) (2 ^ 64))

def returned {α : Type} (result : Except KernelError α) : ExceptT KernelError Option α :=
  ExceptT.mk (some result)

theorem returned_bind {α β : Type} {result : Except KernelError α}
    {f : α → Except KernelError β} {g : α → ExceptT KernelError Option β}
    (h : ∀ a, result = .ok a → g a = returned (f a)) :
    (returned result >>= g) = returned (result >>= f) := by
  cases result with
  | error error => rfl
  | ok a => exact h a rfl

/-- The loop of `bucket_contributions`, as the machine runs it. -/
def bucketContributionsI64From
    (overflowChecks : Bool) (endMs : Int) (quantity : Nat) (widthMs : Int) :
    Nat → Int → ExceptT KernelError Option (List (Int × Int))
  | 0, cursor =>
    if cursor < endMs then throw (.invalidIdentifier "meter interval span") else pure []
  | room + 1, cursor =>
    if cursor < endMs then do
      let bucketStart ← timesI64 overflowChecks (cursor / widthMs) widthMs
      let bucketEnd ← returned
        (checkedI64 (bucketStart + widthMs) (.invalidIdentifier "meter interval"))
      let segmentEnd := min endMs bucketEnd
      let overlap := segmentEnd - cursor
      let product ← returned
        (checkedI128 (quantity * overlap) (.invalidIdentifier "meter overflow"))
      let contribution ← returned (checkedI64 product (.invalidIdentifier "meter overflow"))
      let rest ← bucketContributionsI64From overflowChecks endMs quantity widthMs room segmentEnd
      pure ((bucketStart, contribution) :: rest)
    else
      pure []

def bucketContributionsI64
    (overflowChecks : Bool) (startMs endMs : Int) (quantity : Nat) (widthMs : Int) :
    Option (Except KernelError (List (Int × Int))) :=
  ExceptT.run
    (if widthMs ≤ 0 ∨ endMs ≤ startMs then throw (.invalidIdentifier "meter interval")
    else
      bucketContributionsI64From overflowChecks endMs quantity widthMs maxIngestBuckets startMs)

section Machine

variable {endMs : Int} {quantity : Nat} {width : Int} {overflowChecks : Bool}

theorem bucketContributionsI64From_eq
    (hwidth : 0 < width) (hend : endMs ≤ i64Max) {room : Nat} {cursor : Int}
    (hstart : -i64Max - 1 ≤ alignDown width cursor) :
    bucketContributionsI64From overflowChecks endMs quantity width room cursor =
    returned (bucketContributionsFrom endMs quantity width room cursor) := by
  induction room generalizing cursor with
  | zero =>
    unfold bucketContributionsI64From bucketContributionsFrom
    split <;> rfl
  | succ room ih =>
    unfold bucketContributionsI64From bucketContributionsFrom
    by_cases hmore : cursor < endMs
    · have hle := alignDown_le hwidth cursor
      have hlt := lt_alignDown_add hwidth cursor
      have hproduct :
          timesI64 overflowChecks (cursor / width) width = pure (alignDown width cursor) :=
        if_pos ⟨hstart, (hle.trans hmore.le).trans hend⟩
      rw [if_pos hmore, if_pos hmore, hproduct, pure_bind]
      refine returned_bind fun bucketEnd hbucketEnd => ?_
      refine returned_bind fun product _ => ?_
      refine returned_bind fun contribution _ => ?_
      obtain ⟨rfl, _⟩ := checkedI64_eq_ok hbucketEnd
      rw [ih (hstart.trans (alignDown_mono hwidth (by omega)))]
      exact returned_bind fun rest _ => rfl
    · rw [if_neg hmore, if_neg hmore]
      rfl

variable {startMs : Int}

theorem bucketContributionsI64_eq (hwidth : 0 < width) (hlt : startMs < endMs) :
    bucketContributionsI64 overflowChecks startMs endMs quantity width =
    bucketContributionsI64From overflowChecks endMs quantity width maxIngestBuckets startMs := by
  unfold bucketContributionsI64
  rw [if_neg (by omega)]
  rfl

theorem bucketContributionsI64_of_overflow
    (hwidth : 0 < width) (hrange : width ≤ i64Max) (hstart : -i64Max - 1 ≤ startMs)
    (hlt : startMs < endMs) (hoverflow : alignDown width startMs < -i64Max - 1) :
    bucketContributionsI64 overflowChecks startMs endMs quantity width =
    if overflowChecks then none else some (.error (.invalidIdentifier "meter interval")) := by
  have hnext := lt_alignDown_add hwidth startMs
  have hroom : maxIngestBuckets = 95999 + 1 := rfl
  rw [bucketContributionsI64_eq hwidth hlt, hroom, bucketContributionsI64From, if_pos hlt,
    timesI64, if_neg fun h => absurd h.1 (not_le.mpr hoverflow)]
  cases overflowChecks with
  | true => rfl
  | false =>
    have hwraps :
        ¬ (-i64Max - 1 ≤ Int.bmod (startMs / width * width) (2 ^ 64) + width ∧
          Int.bmod (startMs / width * width) (2 ^ 64) + width ≤ i64Max) := by
      unfold alignDown at hoverflow hnext
      unfold i64Max at *
      rw [Int.bmod]
      split <;> omega
    have herror :
        checkedI64 (Int.bmod (startMs / width * width) (2 ^ 64) + width)
            (.invalidIdentifier "meter interval")
          =
        .error (.invalidIdentifier "meter interval") :=
      if_neg hwraps
    rw [if_neg Bool.false_ne_true, pure_bind, herror]
    rfl

/-- **Partition**: the call splits the interval exactly, and fails exactly when
something leaves its bound, unless the start of the first bucket is no `i64` and
the build has overflow checks. -/
theorem bucketContributions_partition_iff
    (hwidth : 0 < width) (hrange : width ≤ i64Max) (hstart : -i64Max - 1 ≤ startMs)
    (hlt : startMs < endMs) (hend : endMs ≤ i64Max) :
    (∃ result, bucketContributionsI64 overflowChecks startMs endMs quantity width = some result ∧
      (∀ contributions, result = .ok contributions →
        Splits width startMs endMs quantity contributions) ∧
      ((∃ error, result = .error error) ↔ ¬ Fits width startMs endMs quantity maxIngestBuckets))
      ↔
    overflowChecks = false ∨ -i64Max - 1 ≤ alignDown width startMs := by
  by_cases hfirst : -i64Max - 1 ≤ alignDown width startMs
  · refine iff_of_true ⟨_, (bucketContributionsI64_eq hwidth hlt).trans
      (bucketContributionsI64From_eq hwidth hend hfirst), ?_, ?_⟩ (Or.inr hfirst)
    · exact fun contributions h => splits_of_bucketContributionsFrom hwidth hlt.le h
    · constructor
      · rintro ⟨error, herror⟩ hfits
        obtain ⟨contributions, hok⟩ := bucketContributionsFrom_of_fits hwidth hfits
        cases herror.symm.trans hok
      · intro hunfit
        cases hresult :
            bucketContributionsFrom endMs quantity width maxIngestBuckets startMs with
        | error error => exact ⟨error, rfl⟩
        | ok contributions =>
          exact absurd (fits_of_bucketContributionsFrom hwidth hfirst hlt hresult) hunfit
  · rw [bucketContributionsI64_of_overflow hwidth hrange hstart hlt (not_le.mp hfirst),
      or_iff_left hfirst]
    cases overflowChecks with
    | true => exact iff_of_false (fun ⟨_, h, _⟩ => by cases h) nofun
    | false =>
      refine iff_of_true ⟨_, rfl, fun _ h => (by cases h), ?_⟩ rfl
      refine iff_of_true ⟨_, rfl⟩ fun hfits => hfirst ?_
      have hbucket := alignDown_le hwidth startMs
      have hnext := lt_alignDown_add hwidth startMs
      refine (hfits.bounded _ (dvd_alignDown width startMs) ?_).1
      unfold overlap
      omega

/-- From the smallest instant on, an hour panics with overflow checks. -/
theorem bucketContributions_smallest_instant :
    ¬ ∃ result,
      bucketContributionsI64 true (-i64Max - 1) (-i64Max) 1 ingestBucketWidthMs = some result := by
  rw [bucketContributionsI64_of_overflow (by decide) (by decide) (by decide) (by decide)
    (by decide)]
  exact fun ⟨_, h⟩ => by cases h

theorem bucketContributions_partition_iff_hour :
    (∃ result,
      bucketContributionsI64 true 0 ingestBucketWidthMs 1 ingestBucketWidthMs = some result ∧
      (∀ contributions, result = .ok contributions →
        Splits ingestBucketWidthMs 0 ingestBucketWidthMs 1 contributions) ∧
      ((∃ error, result = .error error) ↔
        ¬ Fits ingestBucketWidthMs 0 ingestBucketWidthMs 1 maxIngestBuckets)) :=
  (bucketContributions_partition_iff (by decide) (by decide) (by decide) (by decide)
    (by decide)).mpr (Or.inr (by decide))

end Machine

end Metering
end O3k
