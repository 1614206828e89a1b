import Mathlib.Algebra.Order.Floor.Ring
import Mathlib.Algebra.Order.Group.MinMax
import Mathlib.Tactic.Linarith
import Mathlib.Tactic.Ring

/-!
# Rounding to an integer, clamping and stretching

`roundHalfEven` rounds to the nearest integer, halves to the even one. It moves a number by at most
one half, keeps integers and does not pass an integer bound. `clamp` brings a number no further from
one within its bounds.

`abs_stretch_sub_lt` is about a coordinate of a length that is stretched to a rounded length, and
taken back by the factor that was rounded away.
-/

namespace EdgeSafety

section Truncate
variable {K : Type} [Field K] [LinearOrder K] [FloorRing K]

/-- `int` of a float. -/
def truncate (x : K) : Int := if 0 ≤ x then ⌊x⌋ else ⌈x⌉

theorem truncate_of_nonneg {x : K} (h : 0 ≤ x) : truncate x = ⌊x⌋ := if_pos h

/-- What is above an integer or at it is so when its fraction is cut off. -/
theorem truncate_nonpos [IsStrictOrderedRing K] {x : K} (h : x ≤ 0) : truncate x ≤ 0 := by
  unfold truncate
  split
  · exact Int.floor_nonpos h
  · exact Int.ceil_le.mpr (by simpa using h)

end Truncate

namespace Rounding

variable {K : Type} [Field K] [LinearOrder K]

section Floor
variable [FloorRing K]

/-- The nearest integer, and of two nearest ones the even one. -/
def roundHalfEven (x : K) : Int :=
  let fraction := x - ⌊x⌋
  if 1 < fraction + fraction ∨ fraction + fraction = 1 ∧ ⌊x⌋ % 2 = 1 then ⌊x⌋ + 1 else ⌊x⌋

theorem roundHalfEven_intCast [IsStrictOrderedRing K] (n : Int) :
    roundHalfEven (n : K) = n := by
  rw [roundHalfEven, Int.floor_intCast, sub_self]
  apply if_neg
  rintro (h | ⟨h, -⟩)
  · linarith
  · linarith

variable [IsStrictOrderedRing K]

/-- Rounding moves a number by at most one half. -/
theorem abs_roundHalfEven_sub_le (x : K) : |(roundHalfEven x : K) - x| ≤ 1 / 2 := by
  have hfloor := Int.floor_le x
  have hnext := Int.lt_floor_add_one x
  rw [abs_le, roundHalfEven]
  split
  · next h =>
    have hfraction : 1 ≤ x - ⌊x⌋ + (x - ⌊x⌋) := by
      rcases h with h | ⟨h, -⟩
      · exact h.le
      · exact h.ge
    push_cast
    constructor
    · linarith
    · linarith
  · next h =>
    have hfraction : x - ⌊x⌋ + (x - ⌊x⌋) ≤ 1 := not_lt.mp fun hlt => h (Or.inl hlt)
    constructor
    · linarith
    · linarith

theorem roundHalfEven_le {x : K} {n : Int} (h : x ≤ n) : roundHalfEven x ≤ n := by
  have hround := (abs_le.mp (abs_roundHalfEven_sub_le x)).2
  have hhalf : (1 : K) / 2 < 1 := by linarith [half_lt_self (one_pos (α := K))]
  have hlt : (roundHalfEven x : K) < n + 1 := by linarith
  exact Int.lt_add_one_iff.mp (by exact_mod_cast hlt)

theorem roundHalfEven_nonneg {x : K} (h : 0 ≤ x) : 0 ≤ roundHalfEven x := by
  have hround := (abs_le.mp (abs_roundHalfEven_sub_le x)).1
  have hhalf : (1 : K) / 2 < 1 := by linarith [half_lt_self (one_pos (α := K))]
  have hlt : (-1 : K) < roundHalfEven x := by linarith
  have hint : (-1 : Int) < roundHalfEven x := by exact_mod_cast hlt
  omega

/-- A rounded number that is kept from 1 to an integer bound is less than one from a positive
number within the bound. -/
theorem abs_max_one_min_sub_lt {x : K} {n : Int} (hpos : 0 < x) (hle : x ≤ n) :
    |((max 1 (min n (roundHalfEven x)) : Int) : K) - x| < 1 := by
  have hround := abs_le.mp (abs_roundHalfEven_sub_le x)
  have hhalf : (1 : K) / 2 < 1 := by linarith [half_lt_self (one_pos (α := K))]
  rw [min_eq_right (roundHalfEven_le hle), abs_lt]
  rcases le_or_gt 1 (roundHalfEven x) with hone | hzero
  · rw [max_eq_right hone]
    constructor
    · linarith
    · linarith
  · have hrounded : roundHalfEven x = 0 := by
      have := roundHalfEven_nonneg hpos.le
      omega
    rw [hrounded] at hround ⊢
    norm_num at hround ⊢
    constructor
    · linarith
    · linarith

theorem max_one_min_intCast {m n : Int} (hpos : 0 < (m : K)) (hle : (m : K) ≤ n) :
    max 1 (min n (roundHalfEven (m : K))) = m := by
  have hone : 1 ≤ m := Int.add_one_le_iff.mpr (by exact_mod_cast hpos)
  have hbound : m ≤ n := by exact_mod_cast hle
  rw [roundHalfEven_intCast, min_eq_right hbound, max_eq_right hone]

end Floor

/-- A number brought between zero and a bound. -/
def clamp (bound x : K) : K := min (max x 0) bound

theorem clamp_eq_self {bound x : K} (h0 : 0 ≤ x) (h1 : x ≤ bound) : clamp bound x = x := by
  rw [clamp, max_eq_left h0, min_eq_left h1]

theorem clamp_nonneg {bound x : K} (h : 0 ≤ bound) : 0 ≤ clamp bound x :=
  le_min (le_max_right _ _) h

theorem clamp_le {bound x : K} : clamp bound x ≤ bound := min_le_right _ _

variable [IsStrictOrderedRing K]

/-- Clamping brings a number no further from one within the bounds. -/
theorem abs_clamp_sub_le {bound x y : K} (h0 : 0 ≤ y) (h1 : y ≤ bound) :
    |clamp bound x - y| ≤ |x - y| := by
  have hmax := abs_max_sub_max_le_abs x y 0
  have hmin := abs_min_sub_min_le_max (max x 0) bound (max y 0) bound
  rw [sub_self, abs_zero, max_eq_left (abs_nonneg (max x 0 - max y 0))] at hmin
  calc |clamp bound x - y| = |clamp bound x - clamp bound y| := by rw [clamp_eq_self h0 h1]
    _ ≤ |max x 0 - max y 0| := hmin
    _ ≤ |x - y| := hmax

/-- A coordinate `x` of a length, stretched to a length less than one from `scale` times the first
and divided by the scale, comes back less than `1 / scale` from where it was. -/
theorem abs_stretch_sub_lt {length stretched scale x : K} (hlength : 0 < length)
    (hscale : 0 < scale) (hnear : |stretched - length * scale| < 1) (h0 : 0 ≤ x)
    (h1 : x ≤ length) : |x * stretched / length / scale - x| < 1 / scale := by
  have herror : x * stretched / length / scale - x =
      x / length * (stretched - length * scale) / scale := by
    field_simp
  have hshare : |x / length| ≤ 1 := by
    rw [abs_of_nonneg (div_nonneg h0 hlength.le)]
    exact (div_le_one hlength).mpr h1
  rw [herror, abs_div, abs_mul, abs_of_pos hscale]
  apply div_lt_div_of_pos_right _ hscale
  calc |x / length| * |stretched - length * scale|
      ≤ 1 * |stretched - length * scale| :=
        mul_le_mul_of_nonneg_right hshare (abs_nonneg _)
    _ < 1 := by rwa [one_mul]

omit [LinearOrder K] [IsStrictOrderedRing K] in
/-- Nothing is lost where the stretched length is not rounded. -/
theorem stretch_eq_self {length scale : K} (x : K) (hlength : length ≠ 0) (hscale : scale ≠ 0) :
    x * (length * scale) / length / scale = x := by
  field_simp

end Rounding

end EdgeSafety
