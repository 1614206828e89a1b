import EdgeSafety.Detection.YoloOutput
import EdgeSafety.Shared.NdArray

/-!
# The model manager

`ModelManager` of `inference/model_manager.py`, from a frame or a tensor to detections. OpenCV and
the session are parameters, as is what the lookup of a class name does.
-/

namespace EdgeSafety

/-- What the manager uses of OpenCV and the session. `preprocess` is given the input size. -/
structure InferenceBackend (K T : Type) where
  imdecode : List UInt8 → Except String (Option NdArray)
  preprocess : Nat → Nat → NdArray → T
  session : T → Except String (Array2 K)
  nmsBoxes : NmsBoxes K

/-- `ModelManager`. -/
structure ModelManager (K : Type) where
  inputW : Nat
  inputH : Nat
  confThreshold : K
  nmsThreshold : K
  inputW_pos : 0 < inputW := by decide
  inputH_pos : 0 < inputH := by decide

/-- What `detect` is called with. -/
inductive DetectInput (T : Type)
  /-- A frame, which does not have four dimensions. -/
  | frame (frame : NdArray)
  /-- A tensor that `preprocess` made, which has. -/
  | tensor (tensor : T)

namespace ModelManager

/-- `Detection`. -/
structure Detection (K : Type) where
  bbox : BBox K
  clsId : Nat
  clsName : String
  conf : K

variable {K T : Type} [Field K] [LinearOrder K]

/-- `preprocess`, called with a frame. -/
def preprocess (backend : InferenceBackend K T) (manager : ModelManager K) (frame : NdArray) : T :=
  backend.preprocess manager.inputW manager.inputH frame

/-- `preprocess_jpeg`. -/
def preprocessJpeg (backend : InferenceBackend K T) (manager : ModelManager K)
    (jpegBytes : List UInt8) : Except String (Option T) := do
  match ← backend.imdecode jpegBytes with
  | none => .ok none
  | some frame => .ok (some (manager.preprocess backend frame))

/-- The rows that have the confidence. -/
def confident (manager : ModelManager K) (preds : Array2 K) :
    Except DetectError (List (Prediction K)) := do
  let predictions ← preds.transpose.toLists.mapM Prediction.ofRow
  .ok (predictions.filter fun prediction => ¬ prediction.score < manager.confThreshold)

/-- `sw` and `sh`. -/
def scaleFactors (manager : ModelManager K) : Option (Nat × Nat) → K × K
  | some (origH, origW) => (origW / manager.inputW, origH / manager.inputH)
  | none => (1, 1)

/-- What a row is entered as. -/
def candidate (manager : ModelManager K) (origShape : Option (Nat × Nat))
    (prediction : Prediction K) : Candidate K :=
  let (sw, sh) := manager.scaleFactors origShape
  { bbox := prediction.corners.scale sw sh
    score := prediction.score
    clsId := prediction.clsId }

/-- The end of `_postprocess`: the detections of the indices that are kept. `className` looks up
the name of a class. -/
def detections (className : Nat → Except DetectError String) (candidates : List (Candidate K))
    (indices : List Nat) : Except DetectError (List (Detection K)) :=
  indices.mapM fun i => do
    let clsId := (candidates[i]?.map Candidate.clsId).getD 0
    let candidate ← getItem candidates i
    let clsName ← className clsId
    .ok { bbox := candidate.bbox, clsId, clsName, conf := candidate.score }

/-- `_postprocess`. -/
def postprocess (backend : InferenceBackend K T) (className : Nat → Except DetectError String)
    (manager : ModelManager K) (preds : Array2 K) (origShape : Option (Nat × Nat)) :
    Except DetectError (List (Detection K)) := do
  let predictions ← manager.confident preds
  let candidates := predictions.map (manager.candidate origShape)
  if candidates.isEmpty then .ok []
  else
    let indices ← flatten
      (backend.nmsBoxes.kept manager.confThreshold manager.nmsThreshold candidates)
    detections className candidates indices

/-- `COCO_CLASSES.get`, of a list. -/
def cocoClassesGet (_ : Nat) : Except DetectError String :=
  .error (.attributeError "'list' object has no attribute 'get'")

/-- The shape that `detect` hands on, `frame.shape[:2]` of an array of three dimensions. -/
def origShape : DetectInput T → Option (Nat × Nat)
  | .frame frame => match frame.shape with
    | [height, width, _] => some (height, width)
    | _ => none
  | .tensor _ => none

/-- `detect`. -/
def detect (backend : InferenceBackend K T) (className : Nat → Except DetectError String)
    (manager : ModelManager K) (input : DetectInput T) :
    Except DetectError (List (Detection K)) := do
  let inputTensor := match input with
    | .frame frame => manager.preprocess backend frame
    | .tensor tensor => tensor
  let preds ← (backend.session inputTensor).mapError .session
  manager.postprocess backend className preds (origShape input)

/-- The indices that are kept of the confident rows. -/
def kept (backend : InferenceBackend K T) (manager : ModelManager K)
    (predictions : List (Prediction K)) (origShape : Option (Nat × Nat)) : List Nat :=
  backend.nmsBoxes.kept manager.confThreshold manager.nmsThreshold
    (predictions.map (manager.candidate origShape))

section
variable {backend : InferenceBackend K T} {className : Nat → Except DetectError String}
  {manager : ModelManager K} {preds : Array2 K} {predictions : List (Prediction K)}

theorem detect_frame {frame : NdArray}
    (houtput : backend.session (manager.preprocess backend frame) = .ok preds) :
    manager.detect backend className (.frame frame) =
      manager.postprocess backend className preds (origShape (T := T) (.frame frame)) := by
  simp only [detect, houtput]
  rfl

theorem detect_tensor {tensor : T} (houtput : backend.session tensor = .ok preds) :
    manager.detect backend className (.tensor tensor) =
      manager.postprocess backend className preds none := by
  simp only [detect, houtput]
  rfl

/-- `_postprocess` where there are confident rows. -/
theorem postprocess_eq (hconfident : manager.confident preds = .ok predictions)
    (hne : predictions ≠ []) (origShape : Option (Nat × Nat)) :
    manager.postprocess backend className preds origShape =
      flatten (manager.kept backend predictions origShape) >>=
        detections className (predictions.map (manager.candidate origShape)) := by
  have hcandidates : ¬ (predictions.map (manager.candidate origShape)).isEmpty = true := by
    simpa using hne
  simp only [postprocess, hconfident]
  exact if_neg hcandidates

end

end ModelManager

end EdgeSafety
