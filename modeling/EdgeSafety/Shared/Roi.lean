import EdgeSafety.Lib.PointRing
import Mathlib.Data.Rat.Cast.Defs

/-!
# Region configuration

`ROIConfig` of `shared/schemas/roi.py`, over an ordered field `K`: the polygon of a region is in the
unit square. What its validators accept is kept in the fields, so that a configuration they reject
cannot be built.
-/

namespace EdgeSafety

variable {K : Type} [Field K] [LinearOrder K]

/-- `ROIConfig.validate_polygon`. -/
def validatePolygon (points : List (K × K)) : Except String (List (K × K)) :=
  if points.length < 3 then .error "ROI polygon requires at least three vertices"
  else if points.dedup.length < 3 then
    .error "ROI polygon requires at least three distinct vertices"
  else if |PointRing.shoelace points| < (1e-8 : ℚ) then
    .error "ROI polygon area must be non-zero"
  else .ok points

/-- What the validator accepts, it returns; that has three points and encloses an area. -/
theorem validatePolygon_ok {points accepted : List (K × K)}
    (h : validatePolygon points = .ok accepted) :
    accepted = points ∧ 3 ≤ points.length ∧ ¬ |PointRing.shoelace points| < (1e-8 : ℚ) := by
  unfold validatePolygon at h
  split at h
  · cases h
  · next hlength =>
    split at h
    · cases h
    · split at h
      · cases h
      · next harea => exact ⟨(Except.ok.inj h).symm, Nat.le_of_not_lt hlength, harea⟩

/-- A coordinate as `UnitFloat` has it. -/
def InUnit (x : K) : Prop := 0 ≤ x ∧ x ≤ 1

/-- `ROIConfig`. -/
structure ROIConfig (K : Type) [Field K] [LinearOrder K] where
  roiId : String
  polygon : List (K × K)
  roiId_bounds : 1 ≤ roiId.length ∧ roiId.length ≤ 128
  roiId_pattern : roiId.toList.all fun c => c.isAlphanum || c = '_' || c = '.' || c = '-'
  polygon_unit : ∀ point ∈ polygon, InUnit point.1 ∧ InUnit point.2
  polygon_valid : validatePolygon polygon = .ok polygon

namespace ROIConfig

variable (roi : ROIConfig K)

theorem three_le_length : 3 ≤ roi.polygon.length := (validatePolygon_ok roi.polygon_valid).2.1

/-- The polygon of a region encloses an area, as far as its signed area tells. -/
theorem shoelace_ne_zero [IsStrictOrderedRing K] : PointRing.shoelace roi.polygon ≠ 0 := by
  intro hzero
  apply (validatePolygon_ok roi.polygon_valid).2.2
  rw [hzero, abs_zero]
  exact_mod_cast (by norm_num : (0 : ℚ) < 1e-8)

end ROIConfig

end EdgeSafety
