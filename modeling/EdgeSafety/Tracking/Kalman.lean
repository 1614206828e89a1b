import EdgeSafety.Shared.Vision
import Mathlib.LinearAlgebra.Matrix.Adjugate
import Mathlib.LinearAlgebra.Matrix.Notation
import Mathlib.Tactic.Linarith

/-!
# The Kalman filter of the tracker

`KalmanFilterXYAH` and the box helpers of `byte_tracker.py`, in exact arithmetic over an ordered
field. The state of a track is `(cx, cy, aspect, height)` and its velocity, a vector of eight
numbers with an eight by eight covariance.
-/

namespace EdgeSafety
namespace KalmanFilterXYAH
open Matrix

variable {K : Type} [Field K] [LinearOrder K]

/-- `self.motion`: the identity with ones that add the velocity to the position. -/
def motion : Matrix (Fin 8) (Fin 8) K :=
  Matrix.of fun i j => if i = j ∨ (i.val < 4 ∧ j.val = i.val + 4) then 1 else 0

/-- `self.update_matrix = np.eye(4, 8)`. -/
def updateMatrix : Matrix (Fin 4) (Fin 8) K :=
  Matrix.of fun i j => if i.val = j.val then 1 else 0

/-- `np.linalg.solve`, by Cramer's rule. NumPy raises for a singular left-hand side; there this
function returns zero. -/
def linalgSolve {m n : Nat} (a : Matrix (Fin m) (Fin m) K) (b : Matrix (Fin m) (Fin n) K) :
    Matrix (Fin m) (Fin n) K :=
  a.det⁻¹ • (a.adjugate * b)

/-- `KalmanFilterXYAH.initiate`. -/
def initiate (measurement : Fin 4 → K) : (Fin 8 → K) × Matrix (Fin 8) (Fin 8) K :=
  let mean : Fin 8 → K := Fin.append measurement (fun _ : Fin 4 => 0)
  let height := max (measurement 3) 1
  let standardDeviation : Fin 8 → K :=
    ![height / 10, height / 10, 1 / 100, height / 10,
      height / 16, height / 16, 1 / 100000, height / 16]
  (mean, Matrix.diagonal fun i => standardDeviation i ^ 2)

/-- `KalmanFilterXYAH.predict`. -/
def predict (mean : Fin 8 → K) (covariance : Matrix (Fin 8) (Fin 8) K) :
    (Fin 8 → K) × Matrix (Fin 8) (Fin 8) K :=
  let height := max (mean 3) 1
  let deviation : Fin 8 → K :=
    ![height / 20, height / 20, 1 / 100, height / 20,
      height / 160, height / 160, 1 / 100000, height / 160]
  let motionCovariance := Matrix.diagonal fun i => deviation i ^ 2
  let motion : Matrix (Fin 8) (Fin 8) K := motion
  (motion *ᵥ mean, motion * covariance * motionᵀ + motionCovariance)

/-- `KalmanFilterXYAH.update`. -/
def update (mean : Fin 8 → K) (covariance : Matrix (Fin 8) (Fin 8) K) (measurement : Fin 4 → K) :
    (Fin 8 → K) × Matrix (Fin 8) (Fin 8) K :=
  let height := max (mean 3) 1
  let innovationCovariance : Matrix (Fin 4) (Fin 4) K :=
    Matrix.diagonal fun i => ![height / 20, height / 20, 1 / 10, height / 20] i ^ 2
  let updateMatrix : Matrix (Fin 4) (Fin 8) K := updateMatrix
  let projectedMean := updateMatrix *ᵥ mean
  let projectedCovariance := updateMatrix * covariance * updateMatrixᵀ + innovationCovariance
  let gain := (linalgSolve projectedCovariance (updateMatrix * covariance))ᵀ
  let innovation := measurement - projectedMean
  (mean + gain *ᵥ innovation, covariance - gain * projectedCovariance * gainᵀ)

/-- `innovation_covariance` in `update`. -/
def innovationCovariance (mean : Fin 8 → K) : Matrix (Fin 4) (Fin 4) K :=
  let height := max (mean 3) 1
  Matrix.diagonal fun i => ![height / 20, height / 20, 1 / 10, height / 20] i ^ 2

/-- `projected_covariance` in `update`. -/
def projectedCovariance (mean : Fin 8 → K) (covariance : Matrix (Fin 8) (Fin 8) K) :
    Matrix (Fin 4) (Fin 4) K :=
  let updateMatrix : Matrix (Fin 4) (Fin 8) K := updateMatrix
  updateMatrix * covariance * updateMatrixᵀ + innovationCovariance mean

end KalmanFilterXYAH

variable {K : Type} [Field K] [LinearOrder K]

/-- `_xyxy_to_xyah`. -/
def xyxyToXyah (box : BoundingBox K) : Fin 4 → K :=
  let height := max box.height (1 / 1000000)
  ![(box.x1 + box.x2) / 2, (box.y1 + box.y2) / 2, box.width / height, height]

/-- `_xyah_to_bbox`: the clamped width and height order the corners. -/
def xyahToBbox [IsStrictOrderedRing K] (values : Fin 8 → K) : BoundingBox K :=
  let width := max (values 2 * values 3) 0
  let height := max (values 3) 0
  { x1 := values 0 - width / 2
    y1 := values 1 - height / 2
    x2 := values 0 + width / 2
    y2 := values 1 + height / 2
    x_ordered := by
      have : 0 ≤ width := le_max_right _ _
      linarith
    y_ordered := by
      have : 0 ≤ height := le_max_right _ _
      linarith }

/-- `_iou`. -/
def iou (first second : BoundingBox K) : K :=
  let width := max 0 (min first.x2 second.x2 - max first.x1 second.x1)
  let height := max 0 (min first.y2 second.y2 - max first.y1 second.y1)
  let intersection := width * height
  let union := first.area + second.area - intersection
  if union > 0 then intersection / union else 0

end EdgeSafety
