import EdgeSafety.Lib.ConvexPolygon
import EdgeSafety.Lib.Rounding
import Mathlib.Analysis.Real.Sqrt
import Mathlib.Tactic.IntervalCases

/-!
# Zones of the desktop application

`compute_roi_bounds`, `point_in_polygon` and `check_person` of `gpu/roi_checker.py`. The test
whether a point is in a polygon takes a square root, so it is over the real numbers; a division by
zero raises. It answers what ray casting does (`pointInPolygon_eq`), so what the library has about
rays holds of it: strictly convex zones are decided (`convex_zones_decided`), and only the zone
matters and not how it was drawn (`only_zone_matters`).
-/

namespace EdgeSafety

/-- A record of `roi_config`, with its `points_json` decoded. -/
structure RoiRecord (K : Type) where
  enabled : Option Bool := none
  points : List (K × K)

/-- `roi.get("enabled", True)`. -/
def RoiRecord.isEnabled {K : Type} (roi : RoiRecord K) : Bool := roi.enabled.getD true

/-- The exception of a division by zero. -/
inductive ZeroDivisionError
  | zeroDivision
  deriving DecidableEq

/-- `/`. -/
noncomputable def divide (a b : ℝ) : Except ZeroDivisionError ℝ :=
  if b = 0 then .error .zeroDivision else .ok (a / b)

/-- The test of `point_in_polygon` for a point on an edge, from the vertex `j` to the vertex `i`. -/
noncomputable def onEdge (x y : ℝ) (i j : ℝ × ℝ) : Except ZeroDivisionError Bool := do
  let edgeDist := |(j.1 - i.1) * (i.2 - y) - (i.1 - x) * (j.2 - i.2)|
  let edgeLen := √((j.1 - i.1) ^ 2 + (j.2 - i.2) ^ 2)
  if edgeLen > 0 then
    let ratio ← divide edgeDist edgeLen
    if ratio < 1 then
      let dot := (x - i.1) * (j.1 - i.1) + (y - i.2) * (j.2 - i.2)
      .ok (0 ≤ dot ∧ dot ≤ edgeLen * edgeLen)
    else .ok false
  else .ok false

/-- The test of `point_in_polygon` for an edge that the ray crosses. -/
noncomputable def crossesEdge (x y : ℝ) (i j : ℝ × ℝ) : Except ZeroDivisionError Bool := do
  if decide (i.2 > y) != decide (j.2 > y) then
    let quotient ← divide ((j.1 - i.1) * (y - i.2)) (j.2 - i.2)
    .ok (x < quotient + i.1)
  else .ok false

/-- The loop of `point_in_polygon`, with the vertex `j` before the vertices that are left. -/
noncomputable def pointInPolygonLoop (x y : ℝ) (j : ℝ × ℝ) :
    List (ℝ × ℝ) → Bool → Except ZeroDivisionError Bool
  | [], inside => .ok inside
  | i :: vertices, inside => do
    if ← onEdge x y i j then .ok true
    else
      let inside := if ← crossesEdge x y i j then !inside else inside
      pointInPolygonLoop x y i vertices inside

/-- `point_in_polygon`. -/
noncomputable def pointInPolygon (point : ℝ × ℝ) (polygon : List (ℝ × ℝ)) :
    Except ZeroDivisionError Bool :=
  match polygon.getLast? with
  | none => .ok false
  | some j => pointInPolygonLoop point.1 point.2 j polygon false

/-- `ROIChecker.check_person`. -/
noncomputable def checkPerson (rois : List (RoiRecord ℝ)) (footPoint : ℝ × ℝ) :
    Except ZeroDivisionError (List (RoiRecord ℝ)) :=
  (rois.filter RoiRecord.isEnabled).filterM fun roi => pointInPolygon footPoint roi.points

section PointInPolygon
open RayCasting PointRing

variable {point : ℝ × ℝ} {polygon : List (ℝ × ℝ)}

open Classical in
theorem onEdge_eq (point i j : ℝ × ℝ) :
    onEdge point.1 point.2 i j = .ok (decide (Near point (j, i))) := by
  have hdist : |(j.1 - i.1) * (i.2 - point.2) - (i.1 - point.1) * (j.2 - i.2)| =
      |cross i j point| := by
    rw [← abs_neg, cross]
    congr 1
    ring
  have hdot : (point.1 - i.1) * (j.1 - i.1) + (point.2 - i.2) * (j.2 - i.2) = dot i j point := by
    simp only [dot, scalar, Prod.fst_sub, Prod.snd_sub]
  have hnear : Near point (j, i) ↔ i ≠ j ∧ cross i j point ^ 2 < lengthSq i j ∧
      0 ≤ dot i j point ∧ dot i j point ≤ lengthSq i j :=
    near_swap.symm.trans near_iff
  rw [onEdge, hdist, hdot, ← lengthSq_eq]
  by_cases hij : i = j
  · have hzero : ¬ √(lengthSq i j) > 0 := by simp [hij, lengthSq_eq]
    have hfar : ¬ Near point (j, i) := fun h => (hnear.mp h).1 hij
    simp only [if_neg hzero, decide_eq_false hfar]
  · have hpos : 0 < lengthSq i j := lengthSq_pos hij
    have hroot : 0 < √(lengthSq i j) := Real.sqrt_pos.mpr hpos
    have hless : |cross i j point| / √(lengthSq i j) < 1 ↔
        cross i j point ^ 2 < lengthSq i j := by
      rw [div_lt_one hroot, Real.lt_sqrt (abs_nonneg _), sq_abs]
    simp only [gt_iff_lt, if_pos hroot, divide, if_neg hroot.ne', bind, Except.bind, hless,
      Real.mul_self_sqrt hpos.le, hnear, ne_eq, hij, not_false_eq_true, true_and]
    split
    · next hclose => simp [hclose]
    · next hclose => simp [hclose]

theorem crossesEdge_eq (point i j : ℝ × ℝ) :
    crossesEdge point.1 point.2 i j = .ok (decide (Crosses point (j, i))) := by
  have hcrosses : Crosses point (j, i) ↔ Crosses point (i, j) := crosses_swap.symm
  have hstraddles : (decide (i.2 > point.2) != decide (j.2 > point.2)) = true ↔
      Straddles point.2 (i, j) := by
    rw [bne_iff_ne, ne_eq, decide_eq_decide]
    exact Iff.rfl
  rw [crossesEdge]
  simp only [hstraddles, hcrosses]
  split
  · next h =>
    have hne : j.2 - i.2 ≠ 0 := sub_ne_zero.mpr h.ne.symm
    simp only [divide, if_neg hne, bind, Except.bind, Crosses, h, true_and]
    rfl
  · next h => simp [Crosses, h]

open Classical in
/-- The loop answers whether an edge is near, or else counts the crossings. -/
theorem pointInPolygonLoop_eq (point j : ℝ × ℝ) (vertices : List (ℝ × ℝ)) (inside : Bool) :
    pointInPolygonLoop point.1 point.2 j vertices inside =
      .ok (decide (∃ e ∈ incoming j vertices, Near point e) ||
        (inside ^^ decide (Odd ((incoming j vertices).countP (Crosses point))))) := by
  induction vertices generalizing j inside with
  | nil => simp [pointInPolygonLoop, incoming]
  | cons i vertices ih =>
    rw [pointInPolygonLoop, onEdge_eq, crossesEdge_eq]
    simp only [bind, Except.bind, incoming_cons, List.exists_mem_cons_iff, List.countP_cons]
    by_cases hnear : Near point (j, i)
    · simp [hnear]
    · by_cases hcrosses : Crosses point (j, i)
      · simp only [hnear, hcrosses, ih, decide_true, decide_false, false_or, if_true,
          Bool.false_eq_true, if_false, Nat.odd_add_one, decide_not]
        cases inside <;> simp
      · simp only [hnear, hcrosses, ih, decide_false, false_or, Bool.false_eq_true, if_false,
          Nat.add_zero]

open Classical in
/-- What `point_in_polygon` answers. -/
theorem pointInPolygon_eq (point : ℝ × ℝ) (polygon : List (ℝ × ℝ)) :
    pointInPolygon point polygon = .ok (decide (Inside point polygon)) := by
  unfold pointInPolygon
  cases hlast : polygon.getLast? with
  | none =>
    rw [List.getLast?_eq_none_iff.mp hlast]
    simp [Inside, edges]
  | some j =>
    have hperm := incoming_perm_edges hlast
    simp only [pointInPolygonLoop_eq, hperm.mem_iff, hperm.countP_eq, Bool.false_xor, Inside]
    exact congrArg Except.ok (Bool.eq_iff_iff.mpr (by simp))

theorem pointInPolygon_of_inside (h : Inside point polygon) :
    pointInPolygon point polygon = .ok true := by
  classical rw [pointInPolygon_eq, decide_eq_true h]

theorem pointInPolygon_of_not_inside (h : ¬ Inside point polygon) :
    pointInPolygon point polygon = .ok false := by
  classical rw [pointInPolygon_eq, decide_eq_false h]

theorem pointInPolygon_congr {point' : ℝ × ℝ} {polygon' : List (ℝ × ℝ)}
    (h : Inside point' polygon' ↔ Inside point polygon) :
    pointInPolygon point' polygon' = pointInPolygon point polygon := by
  rw [pointInPolygon_eq, pointInPolygon_eq]
  exact congrArg Except.ok (decide_eq_decide.mpr h)

/-- No edge makes it divide by zero. -/
theorem pointInPolygon_returns (point : ℝ × ℝ) (polygon : List (ℝ × ℝ)) :
    ∃ answer, pointInPolygon point polygon = .ok answer :=
  ⟨_, pointInPolygon_eq point polygon⟩

/-- The points of a zone are found to be in it, and of the others those that are not near. -/
structure Decides (polygon : List (ℝ × ℝ)) : Prop where
  inside : ∀ point ∈ convexHull ℝ (vertices polygon), pointInPolygon point polygon = .ok true
  outside : ∀ point ∉ convexHull ℝ (vertices polygon),
    (∀ e ∈ edges polygon, ¬ Near point e) → pointInPolygon point polygon = .ok false

/-- No polygon makes `point_in_polygon` divide by zero, and strictly convex ones are decided. -/
theorem convex_zones_decided :
    (∀ polygon point, ∃ answer, pointInPolygon point polygon = .ok answer) ∧
      ∀ polygon, StrictlyConvex polygon → Decides polygon := by
  refine ⟨fun polygon point => pointInPolygon_returns point polygon, ?_⟩
  intro polygon hconvex
  constructor
  · intro point hpoint
    exact pointInPolygon_of_inside (inside_of_mem_convexHull hconvex hpoint)
  · intro point hpoint hfar
    have hout : ¬ Inside point polygon := by
      rintro (⟨e, he, hnear⟩ | hodd)
      · exact hfar e he hnear
      · exact hpoint (mem_convexHull_of_odd hodd)
    exact pointInPolygon_of_not_inside hout

theorem decides_triangle : Decides [(0, 0), (100, 50), (0, 100)] := by
  apply convex_zones_decided.2
  refine ⟨by simp, .inl ?_⟩
  intro i j a b c hji hjnext ha hb hc
  have hi : i < 3 := by simpa using (List.getElem?_eq_some_iff.mp ha).1
  have hj : j < 3 := by simpa using (List.getElem?_eq_some_iff.mp hc).1
  interval_cases i <;> interval_cases j <;> simp at hji hjnext ha hb hc <;>
    norm_num [cross, ← ha, ← hb, ← hc]

/-- The answer for a zone depends neither on the vertex it begins with, nor on the way round, nor on
where the origin is. -/
theorem only_zone_matters (point : ℝ × ℝ) (polygon : List (ℝ × ℝ)) :
    (∀ n, pointInPolygon point (polygon.rotate n) = pointInPolygon point polygon) ∧
      pointInPolygon point polygon.reverse = pointInPolygon point polygon ∧
      ∀ v, pointInPolygon (point + v) (polygon.map (· + v)) = pointInPolygon point polygon := by
  refine ⟨fun n => ?_, ?_, fun v => ?_⟩
  · exact pointInPolygon_congr (inside_rotate n)
  · exact pointInPolygon_congr inside_reverse
  · exact pointInPolygon_congr (inside_translate v)

end PointInPolygon

end EdgeSafety
