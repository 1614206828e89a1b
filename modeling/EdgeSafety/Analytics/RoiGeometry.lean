import EdgeSafety.Lib.Loops
import EdgeSafety.Shared.Roi

/-!
# Region geometry

`analytics/roi/geometry.py` and `analytics/roi/evidence.py`: the polygon of a region in pixels, its
intersection with the evidence for a rule, and what a rule makes of them. The geometries are
Shapely's, so a parameter. A region that was accepted where it was configured is refused where it is
used exactly if its ring crosses or touches itself (`usableAt_iff`).
-/

namespace EdgeSafety

/-- What is used of Shapely's polygons. -/
structure ShapelyPolygons (K G : Type) where
  polygon : List (K × K) → G
  isValid : G → Bool
  isEmpty : G → Bool
  area : G → K
  explainValidity : G → String

/-- What is used of Shapely's geometries; `convexHull` is that of a `MultiPoint`. -/
structure ShapelyGeometry (K G : Type) extends ShapelyPolygons K G where
  convexHull : List (K × K) → G
  point : K × K → G
  buffer : G → K → G
  unaryUnion : List G → G
  intersection : G → G → G

/-- `EvidenceKind`. -/
inductive EvidenceKind
  | head
  | torso
  | feet
  | upperBody
  | person
  | bareHeadDetection
  | noVestDetection
  | noShoesDetection
  deriving DecidableEq

/-- The exceptions of the region analytics. -/
inductive RoiError
  | keyError (text : String)
  | valueError (text : String)
  deriving DecidableEq

variable {K G : Type} [Field K] [LinearOrder K]

/-- `EvidenceRegion`: `__post_init__` rejects a geometry that is empty or not valid. -/
structure EvidenceRegion (shapely : ShapelyPolygons K G) where
  kind : EvidenceKind
  geometry : G
  source : String
  not_empty : shapely.isEmpty geometry = false
  valid : shapely.isValid geometry = true

/-- The constructor of `EvidenceRegion`. -/
def EvidenceRegion.make (shapely : ShapelyPolygons K G) (kind : EvidenceKind) (geometry : G)
    (source : String) : Except RoiError (EvidenceRegion shapely) :=
  if h : shapely.isEmpty geometry = false ∧ shapely.isValid geometry = true then
    .ok { kind, geometry, source, not_empty := h.1, valid := h.2 }
  else .error (.valueError "evidence geometry must be non-empty and valid")

/-- `ROIIntersection`. -/
structure ROIIntersection (K : Type) where
  intersects : Bool
  intersectionArea : K
  evidenceOverlapRatio : K
  deriving DecidableEq

/-- The points of the polygon in a frame. -/
def ROIConfig.pixels (roi : ROIConfig K) (frameWidth frameHeight : Int) : List (K × K) :=
  roi.polygon.map (PointRing.scale frameWidth frameHeight)

/-- `roi_polygon_pixels`. -/
def roiPolygonPixels (shapely : ShapelyPolygons K G) (roi : ROIConfig K)
    (frameWidth frameHeight : Int) : Except RoiError G :=
  if frameWidth ≤ 0 ∨ frameHeight ≤ 0 then
    .error (.valueError "frame dimensions must be positive")
  else
    let polygon := shapely.polygon (roi.pixels frameWidth frameHeight)
    if ¬ shapely.isValid polygon then
      .error (.valueError s!"invalid ROI polygon {roi.roiId}: {shapely.explainValidity polygon}")
    else if shapely.isEmpty polygon ∨ shapely.area polygon ≤ 0 then
      .error (.valueError s!"ROI polygon {roi.roiId} has no area")
    else .ok polygon

/-- `intersect_evidence`. -/
def intersectEvidence (shapely : ShapelyGeometry K G) (roiPolygon : G)
    (evidence : EvidenceRegion shapely.toShapelyPolygons) (minimumOverlapRatio : K) :
    Except RoiError (ROIIntersection K) :=
  if ¬ (0 ≤ minimumOverlapRatio ∧ minimumOverlapRatio ≤ 1) then
    .error (.valueError "minimum_overlap_ratio must be in [0, 1]")
  else
    let area := shapely.area (shapely.intersection roiPolygon evidence.geometry)
    let ratio :=
      if shapely.area evidence.geometry > 0 then area / shapely.area evidence.geometry else 0
    .ok
      { intersects := area > 0 ∧ ratio ≥ minimumOverlapRatio
        intersectionArea := area
        evidenceOverlapRatio := ratio }

/-- `RULE_EVIDENCE_KINDS`. -/
def ruleEvidenceKinds (rule : String) : Option (List EvidenceKind) :=
  if rule = "no_helmet" then some [.head, .bareHeadDetection]
  else if rule = "no_vest" then some [.torso, .noVestDetection]
  else if rule = "no_shoes" then some [.feet, .noShoesDetection]
  else if rule = "fall" then some [.upperBody, .person]
  else none

/-- `RuleROIEvidence`. -/
structure RuleROIEvidence (K : Type) where
  rule : String
  verifiable : Bool
  matched : Bool
  intersections : List (ROIIntersection K)
  deriving DecidableEq

/-- `evaluate_rule_roi`. -/
def evaluateRuleRoi (shapely : ShapelyGeometry K G) (rule : String) (roi : ROIConfig K)
    (frameWidth frameHeight : Int)
    (evidenceRegions : List (EvidenceRegion shapely.toShapelyPolygons))
    (minimumOverlapRatio : K) : Except RoiError (RuleROIEvidence K) :=
  match ruleEvidenceKinds rule with
  | none => .error (.keyError s!"unknown ROI evidence rule: {rule}")
  | some allowed =>
    let relevant := evidenceRegions.filter fun region => region.kind ∈ allowed
    if relevant.isEmpty then
      .ok { rule, verifiable := false, matched := false, intersections := [] }
    else do
      let polygon ← roiPolygonPixels shapely.toShapelyPolygons roi frameWidth frameHeight
      let intersections ← relevant.mapM fun region =>
        intersectEvidence shapely polygon region minimumOverlapRatio
      .ok
        { rule
          verifiable := true
          matched := intersections.any ROIIntersection.intersects
          intersections }

namespace ShapelyPolygons

/-- What Shapely documents of the polygon of a ring of three points or more: it is valid if the ring
does not cross or touch itself, and has the area that the ring encloses. -/
structure Documented (shapely : ShapelyPolygons K G) : Prop where
  isValid_polygon : ∀ ring : List (K × K), 3 ≤ ring.length →
    (shapely.isValid (shapely.polygon ring) = true ↔ PointRing.Simple ring)
  isEmpty_polygon : ∀ ring : List (K × K), 3 ≤ ring.length →
    shapely.isEmpty (shapely.polygon ring) = false
  area_polygon : ∀ ring : List (K × K), PointRing.Simple ring →
    shapely.area (shapely.polygon ring) = PointRing.enclosed ring

/-- The region can be used with frames of a size: its polygon in pixels is not refused, and its area
is the normalized one in the units of the frame. -/
structure UsableAt (shapely : ShapelyPolygons K G) (roi : ROIConfig K)
    (frameWidth frameHeight : Int) : Prop where
  returns : ∃ polygon, roiPolygonPixels shapely roi frameWidth frameHeight = .ok polygon ∧
    shapely.area polygon = frameWidth * frameHeight * PointRing.enclosed roi.polygon
  shoelace : PointRing.shoelace (roi.pixels frameWidth frameHeight) =
    frameWidth * frameHeight * PointRing.shoelace roi.polygon
  shoelace_ne_zero : PointRing.shoelace (roi.pixels frameWidth frameHeight) ≠ 0

end ShapelyPolygons

section Pixels
variable (roi : ROIConfig K) {frameWidth frameHeight : Int}

theorem ROIConfig.shoelace_pixels :
    PointRing.shoelace (roi.pixels frameWidth frameHeight) =
      frameWidth * frameHeight * PointRing.shoelace roi.polygon :=
  PointRing.shoelace_scale ..

theorem ROIConfig.three_le_length_pixels : 3 ≤ (roi.pixels frameWidth frameHeight).length := by
  rw [ROIConfig.pixels, List.length_map]
  exact roi.three_le_length

/-- A polygon that Shapely does not find valid is refused. -/
theorem roiPolygonPixels_ne_ok {shapely : ShapelyPolygons K G}
    (hvalid : shapely.isValid (shapely.polygon (roi.pixels frameWidth frameHeight)) ≠ true)
    (polygon : G) : roiPolygonPixels shapely roi frameWidth frameHeight ≠ .ok polygon := by
  unfold roiPolygonPixels
  split
  · exact nofun
  · simp only [if_pos hvalid]
    exact nofun

variable [IsStrictOrderedRing K]

theorem ROIConfig.simple_pixels (hwidth : 0 < frameWidth) (hheight : 0 < frameHeight) :
    PointRing.Simple (roi.pixels frameWidth frameHeight) ↔ PointRing.Simple roi.polygon :=
  PointRing.simple_scale (Int.cast_ne_zero.mpr hwidth.ne') (Int.cast_ne_zero.mpr hheight.ne')

theorem ROIConfig.enclosed_pixels (hwidth : 0 < frameWidth) (hheight : 0 < frameHeight) :
    PointRing.enclosed (roi.pixels frameWidth frameHeight) =
      frameWidth * frameHeight * PointRing.enclosed roi.polygon := by
  have hsize : (0 : K) < frameWidth * frameHeight :=
    mul_pos (Int.cast_pos.mpr hwidth) (Int.cast_pos.mpr hheight)
  rw [PointRing.enclosed, PointRing.enclosed, roi.shoelace_pixels, abs_mul, abs_of_pos hsize,
    mul_div_assoc]

theorem ROIConfig.enclosed_pixels_pos (hwidth : 0 < frameWidth) (hheight : 0 < frameHeight) :
    0 < PointRing.enclosed (roi.pixels frameWidth frameHeight) := by
  rw [roi.enclosed_pixels hwidth hheight]
  exact mul_pos (mul_pos (Int.cast_pos.mpr hwidth) (Int.cast_pos.mpr hheight))
    (div_pos (abs_pos.mpr roi.shoelace_ne_zero) (Nat.cast_pos.mpr two_pos))

/-- A polygon that Shapely finds valid is used. -/
theorem roiPolygonPixels_of_isValid {shapely : ShapelyPolygons K G} (h : shapely.Documented)
    (hwidth : 0 < frameWidth) (hheight : 0 < frameHeight)
    (hvalid : shapely.isValid (shapely.polygon (roi.pixels frameWidth frameHeight)) = true) :
    roiPolygonPixels shapely roi frameWidth frameHeight =
      .ok (shapely.polygon (roi.pixels frameWidth frameHeight)) := by
  have hsize : ¬ (frameWidth ≤ 0 ∨ frameHeight ≤ 0) := by omega
  have hsimple := (h.isValid_polygon _ roi.three_le_length_pixels).mp hvalid
  have harea : ¬ shapely.area (shapely.polygon (roi.pixels frameWidth frameHeight)) ≤ 0 := by
    rw [h.area_polygon _ hsimple]
    exact (roi.enclosed_pixels_pos hwidth hheight).not_ge
  have hlength : 3 ≤ (roi.pixels frameWidth frameHeight).length := roi.three_le_length_pixels
  have hempty := h.isEmpty_polygon _ hlength
  simp only [roiPolygonPixels, if_neg hsize, hvalid, hempty, harea]
  simp

/-- A region can be used with frames of any size if its ring does not cross or touch itself, and
with none if it does. -/
theorem usableAt_iff {shapely : ShapelyPolygons K G} (h : shapely.Documented)
    (hwidth : 0 < frameWidth) (hheight : 0 < frameHeight) :
    shapely.UsableAt roi frameWidth frameHeight ↔ PointRing.Simple roi.polygon := by
  have hvalid : shapely.isValid (shapely.polygon (roi.pixels frameWidth frameHeight)) = true ↔
      PointRing.Simple roi.polygon :=
    (h.isValid_polygon _ roi.three_le_length_pixels).trans (roi.simple_pixels hwidth hheight)
  constructor
  · rintro ⟨⟨polygon, hreturns, -⟩, -, -⟩
    by_contra hcrosses
    exact roiPolygonPixels_ne_ok roi (mt hvalid.mp hcrosses) polygon hreturns
  · intro hsimple
    have hpixels := (roi.simple_pixels hwidth hheight).mpr hsimple
    refine ⟨⟨_, roiPolygonPixels_of_isValid roi h hwidth hheight (hvalid.mpr hsimple), ?_⟩,
      roi.shoelace_pixels, ?_⟩
    · rw [h.area_polygon _ hpixels, roi.enclosed_pixels hwidth hheight]
    · rw [roi.shoelace_pixels]
      exact mul_ne_zero (mul_pos (Int.cast_pos.mpr hwidth) (Int.cast_pos.mpr hheight)).ne'
        roi.shoelace_ne_zero

end Pixels

/-- Shapely's polygons by their rings. -/
noncomputable def rings : ShapelyPolygons ℚ (List (ℚ × ℚ)) where
  polygon ring := ring
  isValid ring := open Classical in decide (PointRing.Simple ring)
  isEmpty ring := ring.isEmpty
  area ring := PointRing.enclosed ring
  explainValidity _ := "Self-intersection"

theorem rings_documented : rings.Documented where
  isValid_polygon ring _ := by simp [rings]
  isEmpty_polygon ring hlength := by
    cases ring with
    | nil => cases hlength
    | cons p ring => rfl
  area_polygon _ _ := rfl

/-- A region whose first and third edge cross. -/
def crossedRoi : ROIConfig ℚ where
  roiId := "zone-1"
  polygon := [(0, 0), (1, 1), (1, 0), (0, 1 / 2)]
  roiId_bounds := by decide
  roiId_pattern := by decide
  polygon_unit := by simp [InUnit]; norm_num
  polygon_valid := by decide +kernel

/-- The region of a whole frame. -/
def frameRoi : ROIConfig ℚ where
  roiId := "zone-2"
  polygon := [(0, 0), (1, 0), (1, 1), (0, 1)]
  roiId_bounds := by decide
  roiId_pattern := by decide
  polygon_unit := by simp [InUnit]
  polygon_valid := by decide +kernel

/-- The validator takes the crossed region, and no frame can be evaluated with it. -/
theorem crossedRoi_refused : ¬ rings.UsableAt crossedRoi 100 100 := by
  rintro ⟨⟨polygon, hreturns, -⟩, -, -⟩
  refine roiPolygonPixels_ne_ok crossedRoi ?_ polygon hreturns
  intro hvalid
  have hpixels : PointRing.Simple (crossedRoi.pixels 100 100) :=
    (rings_documented.isValid_polygon _ (by decide)).mp hvalid
  have hsimple := (crossedRoi.simple_pixels (by decide) (by decide)).mp hpixels
  have hedges : PointRing.properEdges crossedRoi.polygon =
      [((0, 0), (1, 1)), ((1, 1), (1, 0)), ((1, 0), (0, 1 / 2)), ((0, 1 / 2), (0, 0))] := by
    decide +kernel
  have hfirst : ((1 / 3, 1 / 3) : ℚ × ℚ) ∈ segment ℚ ((0, 0) : ℚ × ℚ) (1, 1) :=
    ⟨2 / 3, 1 / 3, by norm_num, by norm_num, by norm_num, by norm_num⟩
  have hthird : ((1 / 3, 1 / 3) : ℚ × ℚ) ∈ segment ℚ ((1, 0) : ℚ × ℚ) (0, 1 / 2) :=
    ⟨1 / 3, 2 / 3, by norm_num, by norm_num, by norm_num, by norm_num⟩
  have hmeet := hsimple.2
  rw [hedges] at hmeet
  rcases hmeet 0 2 (by decide) _ _ rfl rfl _ hfirst hthird with ⟨hnext, -⟩ | ⟨-, hlast, -⟩
  · cases hnext
  · cases hlast

theorem usableAt_frameRoi :
    rings.UsableAt frameRoi 640 480 ↔ PointRing.Simple frameRoi.polygon :=
  usableAt_iff frameRoi rings_documented (by decide) (by decide)

end EdgeSafety
