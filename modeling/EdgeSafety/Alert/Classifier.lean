import Mathlib.Data.Rat.Cast.Defs
import EdgeSafety.Shared.Models

/-!
# Violation classifier

`alert/classifier.py`: from the objects of one frame to its violations. For each confident person,
the checks for helmet, vest and boots look for equipment on the person, and the check for a fall
looks at the box and the pose. The constants are rational numbers.
-/

namespace EdgeSafety

variable {K : Type} [Field K] [LinearOrder K]

/-- `_iou` of `alert/classifier.py`. -/
def BBox.iou (a b : BBox K) : K :=
  let xLeft := max a.x1 b.x1
  let yTop := max a.y1 b.y1
  let xRight := min a.x2 b.x2
  let yBottom := min a.y2 b.y2
  if xRight < xLeft ∨ yBottom < yTop then 0
  else
    let inter := (xRight - xLeft) * (yBottom - yTop)
    let areaA := a.width * a.height
    let areaB := b.width * b.height
    let union := areaA + areaB - inter
    if union > 0 then inter / union else 0

/-- The heights of the visible keypoints among those with the given positions. -/
def visibleYs (keypoints : List (Keypoint K)) (positions : List Nat) : List K :=
  keypoints.zipIdx.filterMap fun (kp, i) =>
    if i ∈ positions ∧ kp.conf > (0.3 : ℚ) then some kp.y else none

/-- `sum(ys) / len(ys)`. -/
def mean (ys : List K) : K := ys.sum / ys.length

/-- `_compute_fall_score`. -/
def computeFallScore (personBox : BBox K) (keypoints : List (Keypoint K)) : K :=
  let ratioScore : K :=
    if personBox.aspectRatio > (1.2 : ℚ) then (0.4 : ℚ)
    else if personBox.aspectRatio > (0.9 : ℚ) then (0.2 : ℚ)
    else 0
  let headYs := visibleYs keypoints [0, 1, 2, 3, 4]
  let hipYs := visibleYs keypoints [11, 12]
  let shoulderYs := visibleYs keypoints [5, 6]
  let headScore : K :=
    if headYs ≠ [] ∧ hipYs ≠ [] then
      if mean headYs > mean hipYs then (0.35 : ℚ)
      else if mean headYs > mean hipYs - (30 : ℚ) then (0.15 : ℚ)
      else 0
    else 0
  let shoulderScore : K :=
    if shoulderYs ≠ [] ∧ hipYs ≠ [] ∧ mean shoulderYs > mean hipYs then (0.25 : ℚ) else 0
  min (if keypoints.length ≥ 17 then ratioScore + headScore + shoulderScore else ratioScore) 1

/-- `ViolationClassifier`. -/
structure ViolationClassifier (K : Type) [Field K] where
  confidenceThreshold : K := (0.4 : ℚ)

namespace ViolationClassifier

/-- `IOU_THRESHOLD`. -/
def iouThreshold : K := (0.1 : ℚ)

/-- The objects of a class that are confident enough. -/
def confident (classifier : ViolationClassifier K) (result : DetectionResult K)
    (cls : ObjectClass) : List (DetectedObject K) :=
  result.objects.filter fun o => o.cls = cls ∧ o.conf ≥ classifier.confidenceThreshold

/-- The pose of the `i`-th person, `none` also when it is empty. -/
def personKeypoints (result : DetectionResult K) (i : Nat) : Option (List (Keypoint K)) := do
  let poses ← result.keypoints
  let keypoints ← poses[i]?
  if keypoints = [] then none else some keypoints

/-- A violation of the person at the given box. -/
def violation (result : DetectionResult K) (type : ViolationType) (severity : SeverityLevel)
    (bbox : BBox K) : Violation K :=
  { cameraId := result.cameraId, type, severity, bbox, timestampUs := result.timestampUs }

/-- The violations of the `i`-th confident person. -/
def classifyPerson (classifier : ViolationClassifier K) (result : DetectionResult K)
    (person : DetectedObject K) (i : Nat) : List (Violation K) :=
  let hasHelmet := (classifier.confident result .helmet).any fun h =>
    person.bbox.iou h.bbox > iouThreshold
  let hasVest := (classifier.confident result .vest).any fun v =>
    person.bbox.iou v.bbox > iouThreshold
  let personLowerY := person.bbox.y1 + person.bbox.height * (0.66 : ℚ)
  let hasBoot := (classifier.confident result .boot).any fun b =>
    b.bbox.y1 ≥ personLowerY ∧ person.bbox.iou b.bbox > iouThreshold
  let fell := (personKeypoints result i).any fun keypoints =>
    computeFallScore person.bbox keypoints > (0.6 : ℚ)
  (if hasHelmet then [] else [violation result .noHelmet .high person.bbox]) ++
    (if hasVest then [] else [violation result .noVest .medium person.bbox]) ++
    (if hasBoot then [] else [violation result .noBoot .medium person.bbox]) ++
    (if fell then [violation result .fall .high person.bbox] else [])

/-- `ViolationClassifier.classify`. -/
def classify (classifier : ViolationClassifier K) (result : DetectionResult K) :
    List (Violation K) :=
  (classifier.confident result .person).zipIdx.flatMap fun (person, i) =>
    classifier.classifyPerson result person i

end ViolationClassifier

end EdgeSafety
