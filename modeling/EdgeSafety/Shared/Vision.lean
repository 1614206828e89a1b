import Mathlib.Algebra.Order.Field.Basic

/-!
# Vision results

The coordinate-safe results of `shared/schemas/vision.py`. Python's floats are elements of an
ordered field `K`, so the arithmetic is exact. A `__post_init__` check that raises is a field of
the structure: a value that the constructor rejects cannot be built.
-/

namespace EdgeSafety

/-- `BoundingBox`: `__post_init__` rejects a box whose coordinates are not ordered. -/
structure BoundingBox (K : Type) [LE K] where
  x1 : K
  y1 : K
  x2 : K
  y2 : K
  x_ordered : x1 ≤ x2
  y_ordered : y1 ≤ y2

/-- `Detection`: `__post_init__` rejects a score outside the unit interval. -/
structure Detection (K : Type) [LE K] [Zero K] [One K] where
  bbox : BoundingBox K
  score : K
  classId : Int
  className : String
  score_nonneg : 0 ≤ score
  score_le_one : score ≤ 1

/-- `TrackedDetection`. -/
structure TrackedDetection (K : Type) [LE K] where
  cameraId : String
  trackId : Nat
  bbox : BoundingBox K
  score : K
  classId : Int
  className : String

/-- `COCO17_KEYPOINT_NAMES`. -/
def coco17KeypointNames : List String :=
  ["nose", "left_eye", "right_eye", "left_ear", "right_ear", "left_shoulder", "right_shoulder",
    "left_elbow", "right_elbow", "left_wrist", "right_wrist", "left_hip", "right_hip", "left_knee",
    "right_knee", "left_ankle", "right_ankle"]

/-- `Keypoint`: `__post_init__` rejects a confidence outside the unit interval, a visible keypoint
without coordinates and an invisible one with some. -/
structure NamedKeypoint (K : Type) [LE K] [Zero K] [One K] where
  name : String
  x : Option K
  y : Option K
  confidence : K
  visible : Bool
  confidence_nonneg : 0 ≤ confidence
  confidence_le_one : confidence ≤ 1
  x_isSome : x.isSome = visible
  y_isSome : y.isSome = visible

/-- `PoseResult`. -/
structure PoseResult (K : Type) [LE K] [Zero K] [One K] where
  cameraId : String
  trackId : Int
  bbox : BoundingBox K
  keypoints : List (NamedKeypoint K)

namespace BoundingBox

variable {K : Type} [Field K] [LinearOrder K]

/-- `BoundingBox.width`. -/
def width (box : BoundingBox K) : K := box.x2 - box.x1

/-- `BoundingBox.height`. -/
def height (box : BoundingBox K) : K := box.y2 - box.y1

/-- `BoundingBox.area`. -/
def area (box : BoundingBox K) : K := box.width * box.height

end BoundingBox

end EdgeSafety
