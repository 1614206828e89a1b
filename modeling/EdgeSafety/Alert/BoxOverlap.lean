import EdgeSafety.Lib.Overlap
import EdgeSafety.Tracking.Kalman
import EdgeSafety.Alert.Classifier

/-!
# Overlap of boxes

`_iou` of the tracker clamps an empty intersection and `_iou` of the classifier returns early. On
ordered boxes both are the common area as a fraction of the covered area (`iou_eq`,
`toBBox_iou`).
-/

namespace EdgeSafety

variable {K : Type} [Field K] [LinearOrder K]

namespace BoundingBox

/-- The box that the classifier sees. -/
def toBBox (box : BoundingBox K) : BBox K := ⟨box.x1, box.y1, box.x2, box.y2⟩

/-- The points inside a box. Boxes share area where they share such points. -/
def inside (box : BoundingBox K) : Set (K × K) :=
  Set.Ioo box.x1 box.x2 ×ˢ Set.Ioo box.y1 box.y2

/-- The area that two boxes share. -/
def sharedArea (a b : BoundingBox K) : K :=
  Overlap.shared a.x1 a.x2 b.x1 b.x2 * Overlap.shared a.y1 a.y2 b.y1 b.y2

theorem sharedArea_comm (a b : BoundingBox K) : a.sharedArea b = b.sharedArea a := by
  rw [sharedArea, sharedArea, Overlap.shared_comm, Overlap.shared_comm (a := a.y1)]

variable [IsStrictOrderedRing K]

theorem width_nonneg (box : BoundingBox K) : 0 ≤ box.width := sub_nonneg.mpr box.x_ordered

theorem sharedArea_nonneg (a b : BoundingBox K) : 0 ≤ a.sharedArea b :=
  mul_nonneg Overlap.shared_nonneg Overlap.shared_nonneg

theorem sharedArea_le_left (a b : BoundingBox K) : a.sharedArea b ≤ a.area :=
  mul_le_mul (Overlap.shared_le_left a.x_ordered) (Overlap.shared_le_left a.y_ordered)
    Overlap.shared_nonneg a.width_nonneg

theorem sharedArea_le_right (a b : BoundingBox K) : a.sharedArea b ≤ b.area := by
  rw [sharedArea_comm]
  exact b.sharedArea_le_left a

theorem sharedArea_self (a : BoundingBox K) : a.sharedArea a = a.area := by
  rw [sharedArea, Overlap.shared_self a.x_ordered, Overlap.shared_self a.y_ordered, area, width,
    height]

/-- What is shared has an area where it has a width and a height. -/
theorem sides_pos {a b : BoundingBox K} (hpos : 0 < a.sharedArea b) :
    0 < Overlap.shared a.x1 a.x2 b.x1 b.x2 ∧ 0 < Overlap.shared a.y1 a.y2 b.y1 b.y2 :=
  ⟨pos_of_mul_pos_left hpos Overlap.shared_nonneg, pos_of_mul_pos_right hpos Overlap.shared_nonneg⟩

theorem sharedArea_pos_iff (a b : BoundingBox K) :
    0 < a.sharedArea b ↔ (a.inside ∩ b.inside).Nonempty := by
  rw [inside, inside, Set.prod_inter_prod, Set.prod_nonempty_iff, ← Overlap.shared_pos_iff,
    ← Overlap.shared_pos_iff]
  constructor
  · exact sides_pos
  · rintro ⟨hwidth, hheight⟩
    exact mul_pos hwidth hheight

/-- A box that is all shared has the sides of what it shares. -/
theorem sides_of_sharedArea_eq {a b : BoundingBox K} (heq : a.sharedArea b = a.area)
    (hpos : 0 < a.sharedArea b) :
    Overlap.shared a.x1 a.x2 b.x1 b.x2 = a.width ∧
      Overlap.shared a.y1 a.y2 b.y1 b.y2 = a.height := by
  have harea : 0 < a.width * a.height := by
    rw [heq] at hpos
    exact hpos
  exact (mul_eq_mul_iff_eq_and_eq_of_pos (Overlap.shared_le_left a.x_ordered)
    (Overlap.shared_le_left a.y_ordered) (sides_pos hpos).1
    (pos_of_mul_pos_right harea a.width_nonneg)).mp heq

/-- Boxes with nothing left over on either side are the same. -/
theorem eq_of_sharedArea_eq {a b : BoundingBox K} (ha : a.sharedArea b = a.area)
    (hb : a.sharedArea b = b.area) (hpos : 0 < a.sharedArea b) : a = b := by
  obtain ⟨hwidth, hheight⟩ := sides_of_sharedArea_eq ha hpos
  rw [sharedArea_comm] at hb
  obtain ⟨hwidth', hheight'⟩ := sides_of_sharedArea_eq hb (by rwa [sharedArea_comm])
  rw [Overlap.shared_comm] at hwidth' hheight'
  obtain ⟨hx1, hx2⟩ := Overlap.eq_of_shared_eq (sides_pos hpos).1 hwidth hwidth'
  obtain ⟨hy1, hy2⟩ := Overlap.eq_of_shared_eq (sides_pos hpos).2 hheight hheight'
  cases a
  cases b
  simp_all

end BoundingBox

open BoundingBox

/-- The tracker's `_iou`. -/
theorem iou_eq (a b : BoundingBox K) :
    iou a b = Overlap.fraction a.area b.area (a.sharedArea b) := rfl

theorem iou_comm (a b : BoundingBox K) : iou a b = iou b a := by
  rw [iou_eq, iou_eq, Overlap.fraction_comm, sharedArea_comm]

variable [IsStrictOrderedRing K]

/-- The classifier's `_iou`, which returns early exactly where nothing is shared. -/
theorem toBBox_iou (a b : BoundingBox K) :
    a.toBBox.iou b.toBBox = Overlap.fraction a.area b.area (a.sharedArea b) := by
  have hcode : a.toBBox.iou b.toBBox =
      if min a.x2 b.x2 < max a.x1 b.x1 ∨ min a.y2 b.y2 < max a.y1 b.y1 then 0
      else Overlap.fraction a.area b.area
        ((min a.x2 b.x2 - max a.x1 b.x1) * (min a.y2 b.y2 - max a.y1 b.y1)) := rfl
  rw [hcode]
  split_ifs with hempty
  · have hzero : a.sharedArea b = 0 := by
      rcases hempty with hx | hy
      · rw [sharedArea, Overlap.shared_of_lt hx, zero_mul]
      · rw [sharedArea, Overlap.shared_of_lt hy, mul_zero]
    rw [hzero, Overlap.fraction_zero]
  · push Not at hempty
    rw [sharedArea, Overlap.shared_of_le hempty.1, Overlap.shared_of_le hempty.2]

theorem iou_eq_zero_iff (a b : BoundingBox K) : iou a b = 0 ↔ a.inside ∩ b.inside = ∅ := by
  rw [iou_eq, Overlap.fraction_eq_zero_iff (a.sharedArea_nonneg b) (a.sharedArea_le_left b)
    (a.sharedArea_le_right b), ← Set.not_nonempty_iff_eq_empty, ← sharedArea_pos_iff, not_lt]
  exact (a.sharedArea_nonneg b).ge_iff_eq'.symm

theorem iou_eq_one_iff (a b : BoundingBox K) : iou a b = 1 ↔ a = b ∧ 0 < a.area := by
  rw [iou_eq, Overlap.fraction_eq_one_iff (a.sharedArea_le_left b) (a.sharedArea_le_right b)]
  constructor
  · rintro ⟨ha, hb, hpos⟩
    exact ⟨eq_of_sharedArea_eq ha hb hpos, ha ▸ hpos⟩
  · rintro ⟨rfl, hpos⟩
    rw [sharedArea_self]
    exact ⟨rfl, rfl, hpos⟩

/-- The two `_iou`s agree on ordered boxes, and what they return is a symmetric measure of overlap
from nothing in common to the same box. -/
theorem iou_agrees_and_measures (a b : BoundingBox K) :
    a.toBBox.iou b.toBBox = iou a b ∧ 0 ≤ iou a b ∧ iou a b ≤ 1 ∧ iou a b = iou b a ∧
      (iou a b = 0 ↔ a.inside ∩ b.inside = ∅) ∧ (iou a b = 1 ↔ a = b ∧ 0 < a.area) := by
  refine ⟨?_, ?_, ?_, iou_comm a b, iou_eq_zero_iff a b, iou_eq_one_iff a b⟩
  · rw [toBBox_iou, iou_eq]
  · rw [iou_eq]
    exact Overlap.fraction_nonneg (a.sharedArea_nonneg b)
  · rw [iou_eq]
    exact Overlap.fraction_le_one (a.sharedArea_le_left b) (a.sharedArea_le_right b)

/-- Two squares that share a quarter of each, and a point. -/
theorem iou_agrees_on_squares :
    let a : BoundingBox ℚ := ⟨0, 0, 2, 2, by decide, by decide⟩
    let b : BoundingBox ℚ := ⟨1, 1, 3, 3, by decide, by decide⟩
    let point : BoundingBox ℚ := ⟨1, 1, 1, 1, le_rfl, le_rfl⟩
    a.toBBox.iou b.toBBox = 1 / 7 ∧ iou a b ≤ 1 ∧ point.toBBox.iou point.toBBox = 0 ∧
      (iou point point = 1 ↔ point = point ∧ 0 < point.area) := by
  intro a b point
  obtain ⟨hagree, -, hle, -⟩ := iou_agrees_and_measures a b
  obtain ⟨hpoint, -, -, -, -, hone⟩ := iou_agrees_and_measures point point
  refine ⟨?_, hle, ?_, hone⟩
  · rw [hagree]
    decide +kernel
  · rw [hpoint]
    decide +kernel

end EdgeSafety
