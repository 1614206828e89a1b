import EdgeSafety.Detection.RoiChecker
import Mathlib.Data.Rat.Floor
import Mathlib.Order.Bounds.Defs

/-!
# The window of the zones

`compute_roi_bounds` of `gpu/roi_checker.py`: the window that `detect_roi` crops to. In each
direction the corner and the extent lose their fractions separately, so that the window can end
before the zones do. It covers what is in the frame exactly where no vertex is in the part that is
lost (`covers_iff`).
-/

namespace EdgeSafety

variable {K : Type} [Field K] [LinearOrder K]

/-- The vertices of the enabled zones, in the order of `xs` and of `ys`. -/
def enabledPoints (rois : List (RoiRecord K)) : List (K × K) :=
  (rois.filter RoiRecord.isEnabled).flatMap RoiRecord.points

/-- A window: a corner and an extent. -/
structure RoiBounds where
  x : Int
  y : Int
  w : Int
  h : Int
  deriving DecidableEq

/-- `compute_roi_bounds`. -/
def computeRoiBounds [FloorRing K] (rois : List (RoiRecord K)) (margin : K)
    (frameSize : Option (Int × Int)) : Option RoiBounds :=
  match enabledPoints rois with
  | [] => none
  | point :: points =>
    let xs := point.1 :: points.map Prod.fst
    let ys := point.2 :: points.map Prod.snd
    let x1 := max 0 (xs.min (List.cons_ne_nil _ _) - margin)
    let y1 := max 0 (ys.min (List.cons_ne_nil _ _) - margin)
    let x2 := xs.max (List.cons_ne_nil _ _) + margin
    let y2 := ys.max (List.cons_ne_nil _ _) + margin
    let (x2, y2) := match frameSize with
      | none => (x2, y2)
      | some (width, height) => (min (width : K) x2, min (height : K) y2)
    some ⟨truncate x1, truncate y1, truncate (x2 - x1), truncate (y2 - y1)⟩

example : computeRoiBounds [⟨some true, [(100, 100), (300, 100), (300, 300), (100, 300)]⟩] (0 : ℚ)
    (some (640, 480)) = some ⟨100, 100, 200, 200⟩ := by decide +kernel

/-- What cutting the fractions off leaves of an interval has a coordinate in it: it ends at the
integer before the high end, and one before that where the low end has the larger fraction. -/
def Kept [FloorRing K] (low high p : K) : Prop :=
  p ≤ ((if Int.fract low ≤ Int.fract high then ⌊high⌋ else ⌊high⌋ - 1 : Int) : K)

instance [FloorRing K] (low high p : K) : Decidable (Kept low high p) :=
  inferInstanceAs (Decidable (p ≤ _))

section Interval
variable [IsStrictOrderedRing K] [FloorRing K] {low high p : K}

/-- Where an interval ends whose start and length are cut off. -/
theorem floor_add_floor_sub :
    ⌊low⌋ + ⌊high - low⌋ = if Int.fract low ≤ Int.fract high then ⌊high⌋ else ⌊high⌋ - 1 := by
  have hsplit : high - low = Int.fract high - Int.fract low + (⌊high⌋ - ⌊low⌋ : Int) := by
    rw [Int.fract, Int.fract]
    push_cast
    ring
  have hlow := Int.fract_nonneg low
  have hlow' := Int.fract_lt_one low
  have hhigh := Int.fract_nonneg high
  have hhigh' := Int.fract_lt_one high
  rw [hsplit, Int.floor_add_intCast]
  split
  · next hle =>
    have hzero : ⌊Int.fract high - Int.fract low⌋ = 0 := by
      rw [Int.floor_eq_zero_iff]
      exact ⟨sub_nonneg.mpr hle, by linarith⟩
    omega
  · next hlt =>
    have hone : ⌊Int.fract high - Int.fract low⌋ = -1 := by
      rw [Int.floor_eq_iff]
      push_cast
      exact ⟨by linarith, by linarith [not_le.mp hlt]⟩
    omega

/-- A window does not reach beyond an integer that the interval does not pass. -/
theorem window_le {size : Int} (hlow : 0 ≤ low) (hhigh : high ≤ size)
    (hextent : 0 ≤ truncate (high - low)) : truncate low + truncate (high - low) ≤ size := by
  rw [truncate_of_nonneg hlow]
  rcases le_or_gt low high with hle | hlt
  · rw [truncate_of_nonneg (sub_nonneg.mpr hle)]
    have hsum : (⌊low⌋ + ⌊high - low⌋ : K) ≤ size :=
      calc (⌊low⌋ + ⌊high - low⌋ : K) ≤ low + (high - low) :=
            add_le_add (Int.floor_le low) (Int.floor_le _)
        _ = high := add_sub_cancel low high
        _ ≤ size := hhigh
    exact_mod_cast hsum
  · have hceil : 0 ≤ ⌈high - low⌉ := by
      rwa [truncate, if_neg (not_le.mpr (sub_neg.mpr hlt))] at hextent
    have hzero := truncate_nonpos (sub_neg.mpr hlt).le
    have hbelow : ((-1 : Int) : K) < high - low := Int.lt_ceil.mp (by omega)
    have hfloor : ⌊low⌋ < size + 1 := by
      rw [Int.floor_lt]
      push_cast at hbelow ⊢
      linarith
    omega

/-- What the window has of a coordinate between its ends. -/
theorem mem_window_iff (hlow : 0 ≤ low) (hp : low ≤ p) (hp' : p ≤ high) :
    ((truncate low : Int) : K) ≤ p ∧ p ≤ ((truncate low + truncate (high - low) : Int) : K) ↔
      Kept low high p := by
  have hstart : ((⌊low⌋ : Int) : K) ≤ p := (Int.floor_le low).trans hp
  rw [truncate_of_nonneg hlow, truncate_of_nonneg (sub_nonneg.mpr (hp.trans hp')),
    and_iff_right hstart, floor_add_floor_sub, Kept]

end Interval

/-- In the frame, its borders included. -/
def InFrame (width height : Int) (p : K × K) : Prop :=
  (0 ≤ p.1 ∧ p.1 ≤ width) ∧ 0 ≤ p.2 ∧ p.2 ≤ height

instance (width height : Int) (p : K × K) : Decidable (InFrame width height p) :=
  inferInstanceAs (Decidable ((_ ∧ _) ∧ _ ∧ _))

/-- The window is in the frame, and the vertices that are in the frame are in the window. -/
def Covers [FloorRing K] (rois : List (RoiRecord K)) (margin : K) (width height : Int) : Prop :=
  ∀ bounds, computeRoiBounds rois margin (some (width, height)) = some bounds →
    0 ≤ bounds.w → 0 ≤ bounds.h →
    ((0 ≤ bounds.x ∧ bounds.x + bounds.w ≤ width) ∧ 0 ≤ bounds.y ∧ bounds.y + bounds.h ≤ height) ∧
    ∀ p ∈ enabledPoints rois, InFrame width height p →
      ((bounds.x : K) ≤ p.1 ∧ p.1 ≤ ((bounds.x + bounds.w : Int) : K)) ∧
        (bounds.y : K) ≤ p.2 ∧ p.2 ≤ ((bounds.y + bounds.h : Int) : K)

/-- `p` is in what is left of a direction. The vertices have the coordinates `coordinates` in it,
and the frame has the size `size`. -/
def KeptOf [FloorRing K] (coordinates : List K) (margin : K) (size : Int) (p : K) : Prop :=
  ∀ least greatest, IsLeast {q | q ∈ coordinates} least →
    IsGreatest {q | q ∈ coordinates} greatest →
    Kept (max 0 (least - margin)) (min (size : K) (greatest + margin)) p

section Direction
variable [IsStrictOrderedRing K] {coordinates : List K} {margin p : K} {size : Int}

omit [IsStrictOrderedRing K] in
theorem keptOf_iff [FloorRing K] (hne : coordinates ≠ []) :
    KeptOf coordinates margin size p ↔
      Kept (max 0 (coordinates.min hne - margin)) (min (size : K) (coordinates.max hne + margin))
        p := by
  have hleast : IsLeast {q | q ∈ coordinates} (coordinates.min hne) :=
    ⟨List.min_mem hne, fun q hq => List.min_le_of_mem hq⟩
  have hgreatest : IsGreatest {q | q ∈ coordinates} (coordinates.max hne) :=
    ⟨List.max_mem hne, fun q hq => List.le_max_of_mem hq⟩
  constructor
  · intro h
    exact h _ _ hleast hgreatest
  · intro h least greatest hleast' hgreatest'
    rwa [hleast'.unique hleast, hgreatest'.unique hgreatest]

/-- The coordinate of a vertex in the frame is between the ends of the direction. -/
theorem mem_ends (hne : coordinates ≠ []) (hmargin : 0 ≤ margin) (hmem : p ∈ coordinates)
    (hframe : 0 ≤ p ∧ p ≤ size) :
    max 0 (coordinates.min hne - margin) ≤ p ∧
      p ≤ min (size : K) (coordinates.max hne + margin) := by
  have hmin : coordinates.min hne ≤ p := List.min_le_of_mem hmem
  have hmax : p ≤ coordinates.max hne := List.le_max_of_mem hmem
  constructor
  · exact max_le hframe.1 (by linarith)
  · exact le_min hframe.2 (by linarith)

omit [IsStrictOrderedRing K] in
theorem corner_nonneg [FloorRing K] {low : K} (h : 0 ≤ low) : 0 ≤ truncate low := by
  rw [truncate_of_nonneg h]
  exact Int.floor_nonneg.mpr h

theorem extent_nonneg [FloorRing K] {low high : K} (h : low ≤ p ∧ p ≤ high) :
    0 ≤ truncate (high - low) :=
  corner_nonneg (sub_nonneg.mpr (h.1.trans h.2))

/-- What the window has of the coordinate of a vertex in the frame. -/
theorem mem_window_iff_keptOf [FloorRing K] (hne : coordinates ≠ []) (hmargin : 0 ≤ margin)
    (hmem : p ∈ coordinates) (hframe : 0 ≤ p ∧ p ≤ size) :
    ((truncate (max 0 (coordinates.min hne - margin)) : Int) : K) ≤ p ∧
        p ≤ ((truncate (max 0 (coordinates.min hne - margin)) +
          truncate (min (size : K) (coordinates.max hne + margin) -
            max 0 (coordinates.min hne - margin)) : Int) : K) ↔
      KeptOf coordinates margin size p := by
  obtain ⟨hlow, hhigh⟩ := mem_ends hne hmargin hmem hframe
  rw [keptOf_iff hne]
  exact mem_window_iff (le_max_left _ _) hlow hhigh

end Direction

section Window
variable [IsStrictOrderedRing K] [FloorRing K] {margin : K}

/-- The window covers what is in the frame exactly where no vertex is in the part of a direction
that is lost. -/
theorem covers_iff (rois : List (RoiRecord K)) (hmargin : 0 ≤ margin) (width height : Int) :
    Covers rois margin width height ↔
      ∀ p ∈ enabledPoints rois, InFrame width height p →
        KeptOf ((enabledPoints rois).map Prod.fst) margin width p.1 ∧
          KeptOf ((enabledPoints rois).map Prod.snd) margin height p.2 := by
  unfold Covers computeRoiBounds
  cases enabledPoints rois with
  | nil => simp
  | cons point points =>
    have hxs : (point :: points).map Prod.fst ≠ [] := List.cons_ne_nil _ _
    have hys : (point :: points).map Prod.snd ≠ [] := List.cons_ne_nil _ _
    constructor
    · intro h p hp hframe
      have hx := List.mem_map_of_mem (f := Prod.fst) hp
      have hy := List.mem_map_of_mem (f := Prod.snd) hp
      obtain ⟨-, hcover⟩ := h _ rfl (extent_nonneg (mem_ends hxs hmargin hx hframe.1))
        (extent_nonneg (mem_ends hys hmargin hy hframe.2))
      obtain ⟨hwindow, hwindow'⟩ := hcover p hp hframe
      exact ⟨(mem_window_iff_keptOf hxs hmargin hx hframe.1).mp hwindow,
        (mem_window_iff_keptOf hys hmargin hy hframe.2).mp hwindow'⟩
    · intro h bounds hbounds hw hh
      obtain rfl := (Option.some.inj hbounds).symm
      refine ⟨⟨⟨?_, ?_⟩, ?_, ?_⟩, ?_⟩
      · exact corner_nonneg (le_max_left _ _)
      · exact window_le (le_max_left _ _) (min_le_left _ _) hw
      · exact corner_nonneg (le_max_left _ _)
      · exact window_le (le_max_left _ _) (min_le_left _ _) hh
      · intro p hp hframe
        obtain ⟨hkept, hkept'⟩ := h p hp hframe
        exact ⟨(mem_window_iff_keptOf hxs hmargin (List.mem_map_of_mem hp) hframe.1).mpr hkept,
          (mem_window_iff_keptOf hys hmargin (List.mem_map_of_mem hp) hframe.2).mpr hkept'⟩

/-- `test_roi_bounds_crop`. -/
theorem covers_square :
    Covers [⟨some true, [(100, 100), (300, 100), (300, 300), (100, 300)]⟩] (0 : ℚ) 640 480 := by
  refine (covers_iff _ le_rfl 640 480).mpr ?_
  intro p hp _
  rw [keptOf_iff (by decide), keptOf_iff (by decide)]
  revert p
  simp only [enabledPoints]
  decide +kernel

/-- The left border at 30.5, with the default margin: the corner is at 14, the extent of 625.5
becomes 625, and the window ends at 639 while the zone ends at the border of the frame. -/
theorem not_covers_half :
    ¬ Covers [⟨some true, [(61 / 2, 30), (640, 30), (640, 470), (61 / 2, 470)]⟩] (16 : ℚ)
      640 480 := by
  intro h
  obtain ⟨-, hcover⟩ := h ⟨14, 14, 625, 466⟩ (by decide +kernel) (by decide) (by decide)
  obtain ⟨⟨-, hright⟩, -⟩ := hcover (640, 30) (by decide +kernel) (by decide +kernel)
  norm_num at hright

end Window

end EdgeSafety
