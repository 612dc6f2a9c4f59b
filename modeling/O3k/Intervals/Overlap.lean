import Mathlib.Algebra.BigOperators.Intervals
import Mathlib.Algebra.BigOperators.Ring.Finset
import Mathlib.Algebra.Order.BigOperators.Group.Finset
import Mathlib.Data.Int.Interval
import Mathlib.Tactic.Linarith
import Mathlib.Tactic.Ring

/-!
# Half-open intervals on a discrete time line

`overlap` is the length of the intersection of two half-open intervals,
`integral` the sum of a function over the instants of one.  Both are additive
when an interval is cut in two.

`alignDown` is the start of the bucket an instant lies in, for buckets of equal
width.
-/

namespace O3k
namespace Intervals

/-- The length of `[a, b) ∩ [c, d)`. -/
def overlap (a b c d : Int) : Int := max 0 (min b d - max a c)

/-- The start of the bucket of the given width that `x` lies in. -/
def alignDown (width x : Int) : Int := x / width * width

theorem overlap_nonneg (a b c d : Int) : 0 ≤ overlap a b c d := by
  unfold overlap
  omega

variable {b : Int}

theorem overlap_eq_zero_of_le {a c d : Int} (h : b ≤ c ∨ d ≤ a) : overlap a b c d = 0 := by
  unfold overlap
  omega

theorem overlap_of_empty {a c d : Int} (h : b ≤ a) : overlap a b c d = 0 := by
  unfold overlap
  omega

theorem overlap_of_within {a c d : Int} (hca : c ≤ a) (hab : a ≤ b) (hbd : b ≤ d) :
    overlap a b c d = b - a := by
  unfold overlap
  omega

theorem overlap_split {a m : Int} (ham : a ≤ m) (hmb : m ≤ b) (c d : Int) :
    overlap a b c d = overlap a m c d + overlap m b c d := by
  unfold overlap
  omega

variable {width : Int}

theorem alignDown_le (hwidth : 0 < width) (x : Int) : alignDown width x ≤ x :=
  Int.ediv_mul_le x (ne_of_gt hwidth)

theorem lt_alignDown_add (hwidth : 0 < width) (x : Int) : x < alignDown width x + width := by
  have h := Int.lt_ediv_add_one_mul_self x hwidth
  unfold alignDown
  rwa [add_mul, one_mul] at h

theorem dvd_alignDown (width x : Int) : width ∣ alignDown width x := Dvd.intro_left _ rfl

theorem alignDown_mono (hwidth : 0 < width) {x y : Int} (h : x ≤ y) :
    alignDown width x ≤ alignDown width y :=
  mul_le_mul_of_nonneg_right (Int.ediv_le_ediv hwidth h) hwidth.le

theorem add_width_le_of_lt
    (hwidth : 0 < width) {x y : Int} (hx : width ∣ x) (hy : width ∣ y) (h : x < y) :
    x + width ≤ y := by
  have hle := Int.le_of_dvd (sub_pos.mpr h) (dvd_sub hy hx)
  omega

/-- The bucket of an instant is the only one that contains it. -/
theorem alignDown_eq_iff (hwidth : 0 < width) (hb : width ∣ b) (x : Int) :
    alignDown width x = b ↔ b ≤ x ∧ x < b + width := by
  obtain ⟨k, rfl⟩ := hb
  constructor
  · intro h
    exact ⟨h ▸ alignDown_le hwidth x, h ▸ lt_alignDown_add hwidth x⟩
  · rintro ⟨hle, hlt⟩
    have hdiv : x / width = k := by
      refine (Int.ediv_eq_iff_of_pos hwidth).mpr ⟨?_, ?_⟩
      · rwa [mul_comm]
      · linarith [mul_comm width k]
    rw [alignDown, hdiv, mul_comm]

theorem alignDown_of_dvd (hwidth : 0 < width) (hb : width ∣ b) : alignDown width b = b :=
  (alignDown_eq_iff hwidth hb b).mpr ⟨le_refl b, by omega⟩

/-- A bucket lies inside one bucket of any coarser width. -/
theorem alignDown_coarser {width coarse : Int}
    (hwidth : 0 < width) (hcoarse : 0 < coarse) (hdvd : width ∣ coarse) (hb : coarse ∣ b)
    (x : Int) :
    alignDown coarse (alignDown width x) = b ↔ alignDown coarse x = b := by
  obtain ⟨k, rfl⟩ := hdvd
  obtain ⟨j, rfl⟩ := hb
  have hstart : width ∣ width * k * j := Dvd.intro _ (mul_assoc width k j).symm
  have hend : width ∣ width * k * j + width * k := dvd_add hstart (Dvd.intro _ rfl)
  rw [alignDown_eq_iff hcoarse (Dvd.intro _ rfl), alignDown_eq_iff hcoarse (Dvd.intro _ rfl)]
  have hle := alignDown_le hwidth x
  have hlt := lt_alignDown_add hwidth x
  have hx := dvd_alignDown width x
  constructor
  · rintro ⟨h₁, h₂⟩
    have := add_width_le_of_lt hwidth hx hend h₂
    exact ⟨by omega, by omega⟩
  · rintro ⟨h₁, h₂⟩
    refine ⟨?_, by omega⟩
    by_contra hbefore
    have := add_width_le_of_lt hwidth hx hstart (not_le.mp hbefore)
    omega

variable (f : Int → Int)

/-- The sum of `f` over the instants of `[lo, hi)`. -/
def integral (lo hi : Int) : Int :=
  ∑ x ∈ @Finset.Ico Int Int.instLinearOrder.toPreorder _ lo hi, f x

theorem integral_split {lo mid hi : Int} (h₁ : lo ≤ mid) (h₂ : mid ≤ hi) :
    integral f lo hi = integral f lo mid + integral f mid hi := by
  unfold integral
  rw [← Finset.Ico_union_Ico_eq_Ico h₁ h₂, Finset.sum_union]
  exact Finset.Ico_disjoint_Ico_consecutive lo mid hi

theorem integral_congr {f g : Int → Int} {lo hi : Int} (h : ∀ x, lo ≤ x → x < hi → f x = g x) :
    integral f lo hi = integral g lo hi := by
  refine Finset.sum_congr rfl ?_
  intro x hx
  obtain ⟨hlo, hhi⟩ := Finset.mem_Ico.mp hx
  exact h x hlo hhi

theorem integral_nonneg {f : Int → Int} (h : ∀ x, 0 ≤ f x) (lo hi : Int) : 0 ≤ integral f lo hi :=
  Finset.sum_nonneg fun x _ => h x

theorem integral_mono {f : Int → Int}
    (h : ∀ x, 0 ≤ f x) {lo hi lo' hi' : Int} (hlo : lo' ≤ lo) (hhi : hi ≤ hi') :
    integral f lo hi ≤ integral f lo' hi' :=
  Finset.sum_le_sum_of_subset_of_nonneg (Finset.Ico_subset_Ico hlo hhi)
    fun x _ _ => h x

/-- What is `q` on `[a, b)` and zero elsewhere integrates to `q` times the overlap. -/
theorem integral_indicator (q a b lo hi : Int) :
    integral (fun x => if a ≤ x ∧ x < b then q else 0) lo hi = q * overlap a b lo hi := by
  unfold integral
  rw [← Finset.sum_filter, Finset.sum_const]
  have hset :
      (Finset.Ico lo hi).filter (fun x => a ≤ x ∧ x < b) = Finset.Ico (max a lo) (min b hi) := by
    ext x
    simp only [Finset.mem_filter, Finset.mem_Ico]
    omega
  rw [hset, Int.card_Ico, overlap, nsmul_eq_mul, mul_comm]
  congr 1
  omega

theorem integral_list_sum {ρ : Type*} (rows : List ρ) (f : ρ → Int → Int) (lo hi : Int) :
    integral (fun x => (rows.map fun r => f r x).sum) lo hi =
    (rows.map fun r => integral (f r) lo hi).sum := by
  induction rows with
  | nil => simp [integral]
  | cons r rows ih =>
    simp only [List.map_cons, List.sum_cons, ← ih]
    exact Finset.sum_add_distrib

theorem integral_clip (lo hi stop : Int) :
    integral f lo (min hi stop) = integral (fun x => if x < stop then f x else 0) lo hi := by
  unfold integral
  rw [← Finset.sum_filter]
  congr 1
  ext x
  simp only [Finset.mem_filter, Finset.mem_Ico]
  omega

theorem integral_buckets (hwidth : 0 ≤ width) (lo : Int) (n : Nat) :
    integral f lo (lo + n * width) = ((List.range n).map fun i : Nat =>
      integral f (lo + i * width) (lo + i * width + width)).sum := by
  induction n with
  | zero => simp [integral]
  | succ n ih =>
    have hn : (0 : Int) ≤ n * width := mul_nonneg (Int.natCast_nonneg n) hwidth
    have hend : lo + ((n + 1 : Nat) : Int) * width = lo + n * width + width := by
      push_cast
      ring
    have hsplit :
        integral f lo (lo + n * width + width) = integral f lo (lo + n * width) +
          integral f (lo + n * width) (lo + n * width + width) :=
      integral_split f (by omega) (by omega)
    rw [List.range_succ, List.map_append, List.sum_append, ← ih, hend, hsplit]
    simp

theorem integral_buckets_clip (hwidth : 0 ≤ width) (lo stop : Int) (n : Nat) :
    integral f lo (min (lo + n * width) stop) = ((List.range n).map fun i : Nat =>
      integral f (lo + i * width) (min (lo + i * width + width) stop)).sum := by
  simp only [integral_clip]
  exact integral_buckets _ hwidth lo n

end Intervals
end O3k
