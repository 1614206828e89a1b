import EdgeSafety.Analytics.RoiGeometry
import EdgeSafety.Lib.Dict
import EdgeSafety.Shared.Vision
import Mathlib.Data.List.ReduceOption

/-!
# Body regions

`analytics/roi/body_regions.py`: the evidence regions of a pose are hulls of its visible keypoints,
enlarged in proportion to the person. A region for which keypoints are missing does not exist.
-/

namespace EdgeSafety

variable {K G : Type} [Field K] [LinearOrder K]

/-- The keypoints of the head. -/
def headNames : List String := ["nose", "left_eye", "right_eye", "left_ear", "right_ear"]

/-- The keypoints of the torso. -/
def torsoNames : List String := ["left_shoulder", "right_shoulder", "left_hip", "right_hip"]

/-- The keypoints of the feet. -/
def ankleNames : List String := ["left_ankle", "right_ankle"]

/-- `_visible_points`. -/
def visiblePoints (pose : PoseResult K) (names : List String) : List (K × K) :=
  pose.keypoints.filterMap fun point =>
    if point.name ∈ names ∧ point.visible then
      match point.x, point.y with
      | some x, some y => some (x, y)
      | _, _ => none
    else none

/-- `_hull_or_buffer`. -/
def hullOrBuffer (shapely : ShapelyGeometry K G) (points : List (K × K)) (radius : K) : Option G :=
  if points.isEmpty then none else some (shapely.buffer (shapely.convexHull points) radius)

/-- `scale` of `pose_evidence_regions`. -/
def PoseResult.scale (pose : PoseResult K) : K := max (max pose.bbox.width pose.bbox.height) 1

/-- `head`. -/
def headGeometry (shapely : ShapelyGeometry K G) (pose : PoseResult K) : Option G :=
  hullOrBuffer shapely (visiblePoints pose headNames) (pose.scale * (0.035 : ℚ))

/-- `torso`. -/
def torsoGeometry (shapely : ShapelyGeometry K G) (pose : PoseResult K) : Option G :=
  let torsoPoints := visiblePoints pose torsoNames
  if torsoPoints.length ≥ 2 then hullOrBuffer shapely torsoPoints (pose.scale * (0.02 : ℚ))
  else none

/-- `feet`. -/
def feetGeometry (shapely : ShapelyGeometry K G) (pose : PoseResult K) : Option G :=
  let anklePoints := visiblePoints pose ankleNames
  if anklePoints.isEmpty then none
  else some (shapely.unaryUnion (anklePoints.map fun point =>
    shapely.buffer (shapely.point point) (pose.scale * (0.04 : ℚ))))

/-- `unary_union(upper_parts)`. -/
def upperGeometry (shapely : ShapelyGeometry K G) (pose : PoseResult K) : Option G :=
  let upperParts := [headGeometry shapely pose, torsoGeometry shapely pose].reduceOption
  if upperParts.isEmpty then none else some (shapely.unaryUnion upperParts)

/-- `regions[kind] = EvidenceRegion(kind, geometry, "pose")`, where there is a geometry. -/
def putRegion (shapely : ShapelyGeometry K G) (kind : EvidenceKind) (geometry : Option G)
    (regions : Dict EvidenceKind (EvidenceRegion shapely.toShapelyPolygons)) :
    Except RoiError (Dict EvidenceKind (EvidenceRegion shapely.toShapelyPolygons)) :=
  match geometry with
  | none => .ok regions
  | some geometry => do
    let region ← EvidenceRegion.make shapely.toShapelyPolygons kind geometry "pose"
    .ok (regions.set kind region)

/-- `pose_evidence_regions`. -/
def poseEvidenceRegions (shapely : ShapelyGeometry K G) (pose : PoseResult K) :
    Except RoiError (Dict EvidenceKind (EvidenceRegion shapely.toShapelyPolygons)) := do
  let regions ← putRegion shapely .head
    ((headGeometry shapely pose).filter fun head => ¬ shapely.isEmpty head) .empty
  let regions ← putRegion shapely .torso
    ((torsoGeometry shapely pose).filter fun torso => ¬ shapely.isEmpty torso) regions
  let regions ← putRegion shapely .feet (feetGeometry shapely pose) regions
  putRegion shapely .upperBody (upperGeometry shapely pose) regions

/-- A rule is evaluated on the regions of a pose. -/
def evaluatePose (shapely : ShapelyGeometry K G) (rule : String) (roi : ROIConfig K)
    (frameWidth frameHeight : Int) (pose : PoseResult K) (minimumOverlapRatio : K) :
    Except RoiError (RuleROIEvidence K) := do
  let regions ← poseEvidenceRegions shapely pose
  evaluateRuleRoi shapely rule roi frameWidth frameHeight (regions.entries.map Prod.snd)
    minimumOverlapRatio

section Points
variable {pose : PoseResult K} {names : List String}

/-- A keypoint of one of the names that is visible. -/
def NamedKeypoint.Shows (names : List String) (point : NamedKeypoint K) : Prop :=
  point.name ∈ names ∧ point.visible = true

instance (names : List String) : DecidablePred (NamedKeypoint.Shows (K := K) names) :=
  fun _ => inferInstanceAs (Decidable (_ ∧ _))

/-- The number of keypoints of the given names that are visible. -/
def PoseResult.visibleCount (pose : PoseResult K) (names : List String) : Nat :=
  pose.keypoints.countP fun point => point.Shows names

/-- The point that a keypoint contributes. -/
def NamedKeypoint.shown (names : List String) (point : NamedKeypoint K) : Option (K × K) :=
  if point.Shows names then
    match point.x, point.y with
    | some x, some y => some (x, y)
    | _, _ => none
  else none

theorem visiblePoints_eq (pose : PoseResult K) (names : List String) :
    visiblePoints pose names = pose.keypoints.filterMap (NamedKeypoint.shown names) := rfl

theorem NamedKeypoint.isSome_shown (point : NamedKeypoint K) :
    (point.shown names).isSome = decide (point.Shows names) := by
  unfold NamedKeypoint.shown
  split
  · next hshows =>
    obtain ⟨x, hx⟩ := Option.isSome_iff_exists.mp (point.x_isSome.trans hshows.2)
    obtain ⟨y, hy⟩ := Option.isSome_iff_exists.mp (point.y_isSome.trans hshows.2)
    simp [hx, hy, hshows]
  · next hshows => simp [hshows]

/-- Every visible keypoint has coordinates. -/
theorem length_visiblePoints : (visiblePoints pose names).length = pose.visibleCount names := by
  rw [visiblePoints_eq, PoseResult.visibleCount]
  induction pose.keypoints with
  | nil => rfl
  | cons point points ih =>
    have hsome : (point.shown names).isSome = decide (point.Shows names) := point.isSome_shown
    rw [List.countP_cons]
    cases hshown : point.shown names with
    | none =>
      rw [List.filterMap_cons_none hshown, ih]
      rw [hshown] at hsome
      simp [← hsome]
    | some p =>
      rw [List.filterMap_cons_some hshown, List.length_cons, ih]
      rw [hshown] at hsome
      simp [← hsome]

end Points

section Geometries
variable {shapely : ShapelyGeometry K G} {pose : PoseResult K}

omit [Field K] [LinearOrder K] in
theorem hullOrBuffer_eq_some {points : List (K × K)} {radius : K} {g : G} :
    hullOrBuffer shapely points radius = some g ↔
      points ≠ [] ∧ shapely.buffer (shapely.convexHull points) radius = g := by
  unfold hullOrBuffer
  cases points with
  | nil => simp
  | cons p points => simp

theorem torsoGeometry_eq_some {g : G} :
    torsoGeometry shapely pose = some g ↔ 2 ≤ pose.visibleCount torsoNames ∧
      shapely.buffer (shapely.convexHull (visiblePoints pose torsoNames))
        (pose.scale * (0.02 : ℚ)) = g := by
  unfold torsoGeometry
  simp only [length_visiblePoints, ge_iff_le]
  split
  · next hcount =>
    rw [hullOrBuffer_eq_some, and_iff_right hcount]
    apply and_iff_right
    intro hnil
    rw [← length_visiblePoints, hnil] at hcount
    cases hcount
  · next hcount => simp [hcount]

theorem feetGeometry_eq_some {g : G} :
    feetGeometry shapely pose = some g ↔ visiblePoints pose ankleNames ≠ [] ∧
      shapely.unaryUnion ((visiblePoints pose ankleNames).map fun point =>
        shapely.buffer (shapely.point point) (pose.scale * (0.04 : ℚ))) = g := by
  unfold feetGeometry
  cases visiblePoints pose ankleNames with
  | nil => simp
  | cons p points => simp

theorem upperGeometry_eq_some {g : G} :
    upperGeometry shapely pose = some g ↔
      [headGeometry shapely pose, torsoGeometry shapely pose].reduceOption ≠ [] ∧
      shapely.unaryUnion [headGeometry shapely pose, torsoGeometry shapely pose].reduceOption =
        g := by
  unfold upperGeometry
  cases [headGeometry shapely pose, torsoGeometry shapely pose].reduceOption with
  | nil => simp
  | cons p points => simp

theorem mem_upperParts {g : G} :
    g ∈ [headGeometry shapely pose, torsoGeometry shapely pose].reduceOption ↔
      headGeometry shapely pose = some g ∨ torsoGeometry shapely pose = some g := by
  rw [List.reduceOption_mem_iff]
  simp only [List.mem_cons, List.not_mem_nil, or_false]
  rw [eq_comm, or_congr_right eq_comm]

end Geometries

end EdgeSafety
