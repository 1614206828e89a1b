import Mathlib.Algebra.Order.Field.Basic
import Mathlib.Order.Interval.Set.LinearOrder
import Mathlib.Tactic.Linarith

/-!
# Overlap of intervals and of sizes

The length that two intervals share, and the part of two sizes that is common to both.
-/

namespace EdgeSafety.Overlap

variable {K : Type*} [Field K] [LinearOrder K]

/-- The length of what the intervals from `a` to `b` and from `c` to `d` share. -/
def shared (a b c d : K) : K := max 0 (min b d - max a c)

/-- The common part of the sizes `a` and `b`, as a fraction of what they cover together. -/
def fraction (a b common : K) : K :=
  if a + b - common > 0 then common / (a + b - common) else 0

section Shared

variable {a b c d : K}

theorem shared_nonneg : 0 ≤ shared a b c d := le_max_left _ _

theorem shared_comm : shared a b c d = shared c d a b := by
  rw [shared, shared, min_comm, max_comm a c]

variable [IsStrictOrderedRing K]

theorem shared_of_le (h : max a c ≤ min b d) : shared a b c d = min b d - max a c :=
  max_eq_right (sub_nonneg.mpr h)

theorem shared_of_lt (h : min b d < max a c) : shared a b c d = 0 :=
  max_eq_left (sub_nonpos.mpr h.le)

theorem shared_self (hab : a ≤ b) : shared a b a b = b - a := by
  rw [shared_of_le (by simpa using hab), min_self, max_self]

theorem shared_le_left (hab : a ≤ b) : shared a b c d ≤ b - a :=
  max_le (sub_nonneg.mpr hab) (sub_le_sub (min_le_left _ _) (le_max_left _ _))

/-- Two intervals share a length where their interiors meet. -/
theorem shared_pos_iff : 0 < shared a b c d ↔ (Set.Ioo a b ∩ Set.Ioo c d).Nonempty := by
  rw [Set.Ioo_inter_Ioo, Set.nonempty_Ioo, shared, lt_max_iff, sub_pos]
  exact or_iff_right (lt_irrefl 0)

/-- Intervals that are no longer than what they share are the same. -/
theorem eq_of_shared_eq (hpos : 0 < shared a b c d) (hab : shared a b c d = b - a)
    (hcd : shared a b c d = d - c) : a = c ∧ b = d := by
  have hle : max a c ≤ min b d := by
    by_contra h
    exact hpos.ne' (shared_of_lt (not_le.mp h))
  rw [shared_of_le hle] at hab hcd
  have ha := le_max_left a c
  have hc := le_max_right a c
  have hb := min_le_left b d
  have hd := min_le_right b d
  constructor <;> linarith

end Shared

section Fraction

variable {a b common : K}

theorem fraction_comm : fraction a b common = fraction b a common := by
  rw [fraction, fraction, add_comm]

@[simp] theorem fraction_zero : fraction a b 0 = 0 := by
  simp [fraction]

variable [IsStrictOrderedRing K]

theorem fraction_nonneg (hcommon : 0 ≤ common) : 0 ≤ fraction a b common := by
  unfold fraction
  split_ifs with h
  · exact div_nonneg hcommon h.le
  · exact le_rfl

theorem fraction_le_one (ha : common ≤ a) (hb : common ≤ b) : fraction a b common ≤ 1 := by
  unfold fraction
  split_ifs with h
  · rw [div_le_one h]
    linarith
  · exact zero_le_one

theorem fraction_eq_zero_iff (hcommon : 0 ≤ common) (ha : common ≤ a) (hb : common ≤ b) :
    fraction a b common = 0 ↔ common = 0 := by
  constructor
  · intro hzero
    by_contra hne
    have hpos : 0 < common := lt_of_le_of_ne hcommon (Ne.symm hne)
    have htotal : a + b - common > 0 := by linarith
    rw [fraction, if_pos htotal] at hzero
    exact (div_pos hpos htotal).ne' hzero
  · rintro rfl
    exact fraction_zero

/-- Nothing is left over on either side. -/
theorem fraction_eq_one_iff (ha : common ≤ a) (hb : common ≤ b) :
    fraction a b common = 1 ↔ common = a ∧ common = b ∧ 0 < common := by
  unfold fraction
  constructor
  · intro hone
    split_ifs at hone with htotal
    · rw [div_eq_one_iff_eq htotal.ne'] at hone
      refine ⟨?_, ?_, ?_⟩ <;> linarith
    · exact absurd hone zero_ne_one
  · rintro ⟨rfl, rfl, hpos⟩
    rw [add_sub_cancel_right, if_pos hpos, div_self hpos.ne']

end Fraction

end EdgeSafety.Overlap
