import EdgeSafety.Detection.ModelManager
import EdgeSafety.SharedMemory.FrameBuffer

/-!
# Where frames are detected

The two users of `ModelManager.detect`: `step` of `inference/inference_worker.py`, which takes a
frame out of the shared memory and writes the result there, and `run` of `inference/detector.py`,
which takes a JPEG picture. Both go on with no detections where `detect` raises.
-/

namespace EdgeSafety

/-- An object of a result. -/
structure ResultObject (K : Type) where
  cls : String
  conf : K
  bbox : BBox K

/-- The result that `_build_result` makes. -/
structure InferenceResult (K : Type) where
  objects : List (ResultObject K)
  timestamp : String

/-- What a `step` of the worker did; `written` is what it called `write_result` with. -/
structure StepOutcome (layout : FrameBufferLayout) (K : Type) where
  returned : Except String Bool
  memory : FrameBuffer layout
  written : Option (InferenceResult K × Fin 2) := none

variable {K T : Type} [Field K] [LinearOrder K] {layout : FrameBufferLayout}

namespace InferenceWorker

/-- `_build_result`. -/
def buildResult (detections : List (ModelManager.Detection K)) (scaleX scaleY : K)
    (timestamp : String) : InferenceResult K where
  objects := detections.map fun d =>
    { cls := d.clsName, conf := d.conf, bbox := d.bbox.scale scaleX scaleY }
  timestamp

/-- The detections that `step` goes on with: none where `detect` raises. -/
def detections (backend : InferenceBackend K T) (className : Nat → Except DetectError String)
    (model : ModelManager K) (frame : NdArray) : List (ModelManager.Detection K) :=
  match model.detect backend className (.frame frame) with
  | .ok detections => detections
  | .error _ => []

/-- The result for a frame of a height and a width. -/
def result (backend : InferenceBackend K T) (className : Nat → Except DetectError String)
    (model : ModelManager K) (timestamp : String) (frame : NdArray) (inH inW : Nat) :
    InferenceResult K :=
  let scaleX : K := inW / model.inputW
  let scaleY : K := inH / model.inputH
  buildResult (detections backend className model frame) scaleX scaleY timestamp

/-- `step`, without its pause at the end. `dumps` encodes the result as JSON. -/
def step (backend : InferenceBackend K T) (className : Nat → Except DetectError String)
    (model : ModelManager K) (dumps : InferenceResult K → List UInt8) (timestamp : String)
    (buffer : FrameBuffer layout) : StepOutcome layout K :=
  match buffer.findFilled with
  | none => { returned := .ok false, memory := buffer }
  | some bufIdx =>
    let locked := buffer.acquire bufIdx
    match locked.readFrame bufIdx with
    | none => { returned := .ok false, memory := locked.release bufIdx }
    | some frame =>
      match frame.shape with
      | inH :: inW :: _ =>
        let result := result backend className model timestamp frame inH inW
        let (returned, memory) := locked.writeResult (dumps result) bufIdx
        { returned := returned.map fun _ => true, memory, written := some (result, bufIdx) }
      | shape =>
        { returned := .error s!"not enough values to unpack (expected 2, got {shape.length})"
          memory := locked }

end InferenceWorker

/-- The class that a name names. -/
def ObjectClass.ofName (name : String) : ObjectClass :=
  if name = "person" then .person
  else if name = "helmet" then .helmet
  else if name = "vest" then .vest
  else if name = "boot" then .boot
  else .other name

namespace Detector

/-- `run`. -/
def run (backend : InferenceBackend K T) (className : Nat → Except DetectError String)
    (mm : ModelManager K) (timestampUs : Nat) (jpegBytes : List UInt8) (cameraId : String) :
    DetectionResult K :=
  match mm.preprocessJpeg backend jpegBytes with
  | .ok (some frame) =>
    match mm.detect backend className (.tensor frame) with
    | .ok detections =>
      { cameraId
        objects := detections.map fun d =>
          { bbox := d.bbox, cls := ObjectClass.ofName d.clsName, conf := d.conf }
        keypoints := none
        timestampUs }
    | .error _ => { cameraId, timestampUs }
  | .ok none => { cameraId, timestampUs }
  | .error _ => { cameraId, timestampUs }

/-- The objects of a result are the detections. -/
theorem run_objects {backend : InferenceBackend K T} {className : Nat → Except DetectError String}
    {mm : ModelManager K} {jpegBytes : List UInt8} {frame : T}
    {detections : List (ModelManager.Detection K)}
    (hframe : mm.preprocessJpeg backend jpegBytes = .ok (some frame))
    (hdetect : mm.detect backend className (.tensor frame) = .ok detections)
    (timestampUs : Nat) (cameraId : String) :
    (run backend className mm timestampUs jpegBytes cameraId).objects =
      detections.map fun d =>
        { bbox := d.bbox, cls := ObjectClass.ofName d.clsName, conf := d.conf } := by
  simp only [run, hframe, hdetect]

end Detector

/-- What `step` writes on a FILLED buffer. -/
theorem InferenceWorker.step_written (backend : InferenceBackend K T)
    (className : Nat → Except DetectError String) (model : ModelManager K)
    (dumps : InferenceResult K → List UInt8) (timestamp : String) {buffer : FrameBuffer layout}
    {bufIdx : Fin 2} {frame : NdArray} {inH inW : Nat}
    (hfilled : buffer.findFilled = some bufIdx) (hread : buffer.readFrame bufIdx = some frame)
    (hsize : frame.bgrSize = some (inH, inW)) :
    (step backend className model dumps timestamp buffer).written =
      some (result backend className model timestamp frame inH inW, bufIdx) := by
  have hlocked : (buffer.acquire bufIdx).readFrame bufIdx = some frame := by
    rw [FrameBuffer.acquire, FrameBuffer.setState_readFrame, hread]
  simp only [step, hfilled, hlocked, (NdArray.bgrSize_eq_some.mp hsize).2]

end EdgeSafety
