import Mathlib.Data.List.MinMax
import Mathlib.Data.Rat.Cast.Defs
import Mathlib.LinearAlgebra.Matrix.Defs
import EdgeSafety.Lib.Loops
import EdgeSafety.Shared.Models

/-!
# The output of a YOLO model

What `inference/model_manager.py` and `gpu/detector.py` both do with the output of the model: they
read a candidate off each of its rows, and hand the boxes of those that pass their filters to
`cv2.dnn.NMSBoxes`, which returns the indices of those that it keeps.
-/

namespace EdgeSafety

/-- What detecting raises. -/
inductive DetectError
  | valueError (text : String)
  | attributeError (text : String)
  | indexError (text : String)
  /-- The session raises. -/
  | session (text : String)
  deriving DecidableEq

/-- An array of two dimensions. -/
structure Array2 (K : Type) where
  rows : Nat
  columns : Nat
  values : Matrix (Fin rows) (Fin columns) K

namespace Array2

variable {K : Type}

/-- `.T`. -/
def transpose (array : Array2 K) : Array2 K := ⟨array.columns, array.rows, array.values.transpose⟩

/-- What a loop over the array goes through. -/
def toLists (array : Array2 K) : List (List K) :=
  List.ofFn fun row => List.ofFn fun column => array.values row column

end Array2

/-- What the loops read off a row: a box, and the class with the highest score. -/
structure Prediction (K : Type) where
  xc : K
  yc : K
  w : K
  h : K
  clsId : Nat
  score : K
  deriving DecidableEq

/-- A prediction whose box is in some frame. -/
structure Candidate (K : Type) where
  bbox : BBox K
  score : K
  clsId : Nat
  deriving DecidableEq

variable {K : Type} [Field K] [LinearOrder K]

/-- Reading a row. The scores are what follows its first four numbers; of equal scores `np.argmax`
takes the first, and it raises where there is none. -/
def Prediction.ofRow (row : List K) : Except DetectError (Prediction K) :=
  match (row.drop 4).zipIdx.argmax Prod.fst, row with
  | some (score, clsId), xc :: yc :: w :: h :: _ => .ok { xc, yc, w, h, clsId, score }
  | _, _ => .error (.valueError "attempt to get argmax of an empty sequence")

/-- The corners of the box, as the model has them. -/
def Prediction.corners (prediction : Prediction K) : BBox K where
  x1 := prediction.xc - prediction.w / (2 : Nat)
  y1 := prediction.yc - prediction.h / (2 : Nat)
  x2 := prediction.xc + prediction.w / (2 : Nat)
  y2 := prediction.yc + prediction.h / (2 : Nat)

/-- A box with its coordinates multiplied. -/
def BBox.scale (box : BBox K) (scaleX scaleY : K) : BBox K where
  x1 := box.x1 * scaleX
  y1 := box.y1 * scaleY
  x2 := box.x2 * scaleX
  y2 := box.y2 * scaleY

/-- A rectangle of OpenCV. -/
structure Rect (K : Type) where
  x : K
  y : K
  width : K
  height : K
  deriving DecidableEq

/-- The box `[x1, y1, x2, y2]` as `NMSBoxes` reads it. -/
def BBox.asRect {K : Type} (box : BBox K) : Rect K where
  x := box.x1
  y := box.y1
  width := box.x2
  height := box.y2

/-- `cv2.dnn.NMSBoxes`, of boxes, their scores, a score threshold and a threshold for overlaps. -/
abbrev NmsBoxes (K : Type) := List (Rect K) → List K → K → K → List Nat

/-- The indices of the candidates that are kept. -/
def NmsBoxes.kept {K : Type} (nmsBoxes : NmsBoxes K) (scoreThreshold nmsThreshold : K)
    (candidates : List (Candidate K)) : List Nat :=
  nmsBoxes (candidates.map fun candidate => candidate.bbox.asRect)
    (candidates.map Candidate.score) scoreThreshold nmsThreshold

/-- `NMSBoxes` keeps boxes that it was given. -/
def NmsBoxes.InRange {K : Type} (nmsBoxes : NmsBoxes K) : Prop :=
  ∀ boxes scores scoreThreshold nmsThreshold,
    ∀ i ∈ nmsBoxes boxes scores scoreThreshold nmsThreshold, i < boxes.length

theorem NmsBoxes.InRange.lt_of_mem_kept {K : Type} {nmsBoxes : NmsBoxes K}
    (hrange : nmsBoxes.InRange) {scoreThreshold nmsThreshold : K} {candidates : List (Candidate K)}
    {i : Nat} (hi : i ∈ nmsBoxes.kept scoreThreshold nmsThreshold candidates) :
    i < candidates.length := by
  have h := hrange _ _ _ _ i hi
  rwa [List.length_map] at h

/-- `indices.flatten()`. Where it keeps nothing, `NMSBoxes` returns an empty tuple. -/
def flatten (indices : List Nat) : Except DetectError (List Nat) :=
  if indices.isEmpty then .error (.attributeError "'tuple' object has no attribute 'flatten'")
  else .ok indices

theorem flatten_of_ne_nil {indices : List Nat} (h : indices ≠ []) :
    flatten indices = .ok indices :=
  if_neg (by simpa using h)

theorem flatten_nil :
    flatten [] = .error (.attributeError "'tuple' object has no attribute 'flatten'") := rfl

/-- `xs[i]`. -/
def getItem {α : Type} (xs : List α) (i : Nat) : Except DetectError α :=
  match xs[i]? with
  | some x => .ok x
  | none => .error (.indexError "list index out of range")

theorem getItem_of_lt {α : Type} {xs : List α} {i : Nat} (h : i < xs.length) :
    getItem xs i = .ok xs[i] := by
  rw [getItem, List.getElem?_eq_getElem h]

theorem getElem?_of_getItem {α : Type} {xs : List α} {i : Nat} {x : α}
    (h : getItem xs i = .ok x) : xs[i]? = some x := by
  unfold getItem at h
  split at h
  · next y hy =>
    cases h
    exact hy
  · cases h

theorem mem_of_getItem {α : Type} {xs : List α} {i : Nat} {x : α} (h : getItem xs i = .ok x) :
    x ∈ xs :=
  List.mem_of_getElem? (getElem?_of_getItem h)

end EdgeSafety
