import EdgeSafety.Detection.YoloOutput

/-!
# The person detector

`YOLODetector.postprocess` of `gpu/detector.py`. It takes the output of the model in three layouts
and keeps the class `person` alone. The constants are rational numbers.
-/

namespace EdgeSafety
open Loops

/-- The layouts of an output: with a batch of one, or without. -/
inductive YoloOutput (K : Type)
  | batched (output : Array2 K)
  | squeezed (output : Array2 K)

/-- The boxes, one in each row. -/
def YoloOutput.boxes {K : Type} : YoloOutput K → Array2 K
  | batched output | squeezed output =>
    if output.rows = 84 ∧ output.columns ≠ 84 then output.transpose else output

/-- `YOLODetector`, with the input size that it takes from the session. -/
structure YOLODetector where
  inputW : Nat
  inputH : Nat

namespace YOLODetector

variable {K : Type} [Field K] [LinearOrder K]

/-- `CONF_THRESHOLD`. -/
def confThreshold : K := (0.35 : ℚ)

/-- `IOU_THRESHOLD`. -/
def iouThreshold : K := (0.45 : ℚ)

/-- `COCO_PERSON_ID`. -/
def cocoPersonId : Nat := 0

/-- What a row is entered as. -/
def candidate (detector : YOLODetector) (origShape : Nat × Nat) (prediction : Prediction K) :
    Candidate K where
  bbox :=
    { x1 := prediction.corners.x1 / detector.inputW * origShape.2
      y1 := prediction.corners.y1 / detector.inputH * origShape.1
      x2 := prediction.corners.x2 / detector.inputW * origShape.2
      y2 := prediction.corners.y2 / detector.inputH * origShape.1 }
  score := prediction.score
  clsId := prediction.clsId

/-- The loop over the output. -/
def candidates (detector : YOLODetector) (output : YoloOutput K) (origShape : Nat × Nat) :
    Except DetectError (List (Candidate K)) := do
  let predictions ← output.boxes.toLists.mapM Prediction.ofRow
  let persons := predictions.filter fun prediction =>
    ¬ (prediction.clsId ≠ cocoPersonId ∨ prediction.score < confThreshold)
  .ok (persons.map (detector.candidate origShape))

/-- The indices of the candidates that are kept. -/
def kept (nmsBoxes : NmsBoxes K) (candidates : List (Candidate K)) : List Nat :=
  if candidates.isEmpty then []
  else nmsBoxes.kept confThreshold iouThreshold candidates

/-- `postprocess`. -/
def postprocess (nmsBoxes : NmsBoxes K) (detector : YOLODetector) (output : YoloOutput K)
    (origShape : Nat × Nat) : Except DetectError (List (DetectedObject K)) := do
  let candidates ← detector.candidates output origShape
  if candidates.isEmpty then .ok []
  else
    let indices ← flatten (kept nmsBoxes candidates)
    indices.mapM fun i => do
      let candidate ← getItem candidates i
      .ok { bbox := candidate.bbox, cls := .person, conf := candidate.score }

/-- `postprocess` returns the candidates that are kept, in the order of their indices. -/
theorem postprocess_kept {nmsBoxes : NmsBoxes K} {detector : YOLODetector} {output : YoloOutput K}
    {origShape : Nat × Nat} {candidates : List (Candidate K)} (hrange : nmsBoxes.InRange)
    (hcandidates : detector.candidates output origShape = .ok candidates)
    (hkept : kept nmsBoxes candidates ≠ []) :
    ∃ objects, detector.postprocess nmsBoxes output origShape = .ok objects ∧
      ∀ j i : Nat, (kept nmsBoxes candidates)[j]? = some i →
        objects[j]? = candidates[i]?.map fun candidate =>
          { bbox := candidate.bbox, cls := .person, conf := candidate.score } := by
  have hne : candidates ≠ [] := by
    rintro rfl
    exact hkept rfl
  have hempty : ¬ candidates.isEmpty = true := by simpa using hne
  let body := fun i : Nat => getItem candidates i >>= fun candidate =>
    (.ok { bbox := candidate.bbox, cls := .person, conf := candidate.score } :
      Except DetectError (DetectedObject K))
  have hbody : ∀ i ∈ kept nmsBoxes candidates, ∃ object, body i = .ok object := by
    intro i hi
    rw [kept, if_neg hempty] at hi
    simp only [body, getItem_of_lt (hrange.lt_of_mem_kept hi)]
    exact ⟨_, rfl⟩
  obtain ⟨objects, hobjects⟩ := exists_mapM_ok hbody
  refine ⟨objects, ?_, fun j i hj => ?_⟩
  · simp only [postprocess, hcandidates]
    show (if candidates.isEmpty = true then _ else _) = _
    rw [if_neg hempty, flatten_of_ne_nil hkept]
    exact hobjects
  · obtain ⟨object, hobject, hi⟩ := getElem?_mapM hobjects hj
    obtain ⟨candidate, hcandidate, hi⟩ := bind_eq_ok hi
    cases hi
    rw [hobject, getElem?_of_getItem hcandidate]
    rfl

end YOLODetector

end EdgeSafety
