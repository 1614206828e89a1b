import Mathlib.Algebra.Order.Field.Basic

/-!
# Shared data models

The records of `shared/models.py`. Coordinates and confidences are elements of an ordered field
`K`, so the arithmetic is exact; a `datetime` is a number of microseconds. `BBox` checks nothing,
unlike `BoundingBox` of the edge runtime: its corners may come in any order.
-/

namespace EdgeSafety

/-- `BBox`. -/
structure BBox (K : Type) where
  x1 : K
  y1 : K
  x2 : K
  y2 : K
  deriving DecidableEq

namespace BBox

variable {K : Type} [Field K] [LinearOrder K]

/-- `BBox.width`. -/
def width (box : BBox K) : K := box.x2 - box.x1

/-- `BBox.height`. -/
def height (box : BBox K) : K := box.y2 - box.y1

/-- `BBox.aspect_ratio`. -/
def aspectRatio (box : BBox K) : K :=
  if box.height > 0 then box.width / box.height else 0

end BBox

/-- The values of `DetectedObject.cls`. Inference results may name classes beside the four. -/
inductive ObjectClass where
  | person
  | helmet
  | vest
  | boot
  | other (name : String)
  deriving DecidableEq

/-- `DetectedObject`. -/
structure DetectedObject (K : Type) where
  bbox : BBox K
  cls : ObjectClass
  conf : K

/-- `Keypoint`. -/
structure Keypoint (K : Type) where
  x : K
  y : K
  conf : K

/-- `DetectionResult`. -/
structure DetectionResult (K : Type) where
  cameraId : String
  objects : List (DetectedObject K) := []
  keypoints : Option (List (List (Keypoint K))) := none
  timestampUs : Nat

/-- `ViolationType`, with `FALL`, which the classifier uses although the `Literal` leaves it out. -/
inductive ViolationType where
  | personInZone
  | noHelmet
  | noVest
  | noBoot
  | fall
  deriving DecidableEq

/-- `SeverityLevel`. -/
inductive SeverityLevel where
  | high
  | medium
  | low
  deriving DecidableEq

/-- `Violation`. -/
structure Violation (K : Type) where
  id : Option Nat := none
  cameraId : String
  type : ViolationType
  severity : SeverityLevel
  bbox : BBox K
  timestampUs : Nat

end EdgeSafety
