import EdgeSafety.Edge.FrameProcessor
import EdgeSafety.Lib.SharedDevice
import EdgeSafety.SharedMemory.DoubleBuffer

/-!
# The previews of the capture process

`_handle_frame` of `edge/capture_loop.py`, called for the frames of all local cameras. A camera has
its own double buffer (`Channel`), which the inference process works on between the calls; all
cameras share one `FrameProcessor`, which decides whether a preview is sent.
-/

namespace EdgeSafety

/-- What `CaptureDisplay.__init__` is given, and the code that it calls. -/
structure CaptureSetup (Gray Payload : Type) where
  layout : FrameBufferLayout
  maxWidth_pos : 0 < layout.maxWidth
  maxHeight_pos : 0 < layout.maxHeight
  /-- The keys of `buffers`. -/
  cameras : List String
  processor : FrameProcessor
  cv2 : OpenCv Gray
  /-- `json.loads` of a result, where it returns. -/
  loads : List UInt8 → Option Payload
  /-- `_draw_overlay(exact_frame, objects) if objects else exact_frame`. -/
  overlay : NdArray → Payload → NdArray
  /-- Whether `_parse_result_json` returns. -/
  parses : Payload → Bool

/-- A `FrameBuffer` object of the capture process. -/
structure Channel (layout : FrameBufferLayout) where
  memory : FrameBuffer layout
  lastResultSeq : Nat

/-- The calls by which the inference process changes a double buffer. -/
inductive InferenceCall
  | acquire (b : Fin 2)
  | release (b : Fin 2)
  | writeResult (encoded : List UInt8) (b : Fin 2)

/-- What happens to one camera: `_handle_frame` is called with a frame of it, or the inference
process does something to its buffer. -/
inductive CameraEvent
  | frame (frame : NdArray)
  | inference (call : InferenceCall)

/-- The state of `CaptureDisplay`: the buffers and the frame that its processor remembers. -/
structure CaptureDisplay {Gray Payload : Type} (setup : CaptureSetup Gray Payload) where
  buffers : String → Option (Channel setup.layout)
  prevFrameGray : Option Gray

namespace Channel

variable {Gray Payload : Type} {setup : CaptureSetup Gray Payload}

/-- `FrameBuffer(camera_id, ...)`. -/
def create (layout : FrameBufferLayout) : Channel layout := ⟨FrameBuffer.create layout, 0⟩

/-- The first step of `_handle_frame`: the frame goes to a FREE slot, if there is one. -/
def writeFree {layout : FrameBufferLayout} (buf : Channel layout) (frame : NdArray) :
    Except String Unit × Channel layout :=
  match buf.memory.pickFree with
  | some freeIdx =>
    ((buf.memory.writeFrame freeIdx frame).1,
      { buf with memory := (buf.memory.writeFrame freeIdx frame).2 })
  | none => (.ok (), buf)

/-- The rest of what `_handle_frame` does with the buffer: the image of which a preview is due,
which is the exact frame of a new result with its overlay or else the current frame. -/
def readBack (setup : CaptureSetup Gray Payload) (buf : Channel setup.layout) (frame : NdArray) :
    Option NdArray × Channel setup.layout :=
  match buf.memory.readResult setup.loads buf.lastResultSeq with
  | (none, lastResultSeq) => (some frame, { buf with lastResultSeq := lastResultSeq })
  | (some (payload, index), lastResultSeq) =>
    let buf := { buf with lastResultSeq := lastResultSeq }
    match DoubleBuffer.slotOfIndex index with
    | none => (none, buf)
    | some resultBuf =>
      let released := { buf with memory := buf.memory.release resultBuf }
      match buf.memory.readFrame resultBuf with
      | none => (none, released)
      | some exactFrame =>
        -- where `_parse_result_json` raises, the slot is not released
        (some (setup.overlay exactFrame payload),
          if setup.parses payload then released else buf)

/-- One call of `_handle_frame`, as far as the camera's buffer is concerned. -/
def handle (setup : CaptureSetup Gray Payload) (buf : Channel setup.layout) (frame : NdArray) :
    Option NdArray × Channel setup.layout :=
  match buf.writeFree frame with
  | (.error _, buf) => (none, buf)
  | (.ok _, buf) => buf.readBack setup frame

/-- A call of the inference process. -/
def infer {layout : FrameBufferLayout} (buf : Channel layout) : InferenceCall → Channel layout
  | .acquire b => { buf with memory := buf.memory.acquire b }
  | .release b => { buf with memory := buf.memory.release b }
  | .writeResult encoded b => { buf with memory := (buf.memory.writeResult encoded b).2 }

/-- What happens to a camera: its buffer afterwards, and the image of which a preview is due. -/
def update (setup : CaptureSetup Gray Payload) (buf : Channel setup.layout) :
    CameraEvent → Channel setup.layout × Option NdArray
  | .frame frame => ((buf.handle setup frame).2, (buf.handle setup frame).1)
  | .inference call => (buf.infer call, none)

end Channel

namespace CaptureDisplay

variable {Gray Payload : Type} {setup : CaptureSetup Gray Payload}

/-- `CaptureDisplay(...)`, with a buffer for each camera. -/
def init (setup : CaptureSetup Gray Payload) : CaptureDisplay setup where
  buffers camera := if camera ∈ setup.cameras then some (Channel.create setup.layout) else none
  prevFrameGray := none

/-- `_handle_frame`: what `process` returns, if it is called. -/
def handleFrame (s : CaptureDisplay setup) (cameraId : String) (frame : NdArray) :
    Option (Option (List UInt8)) × CaptureDisplay setup :=
  match s.buffers cameraId with
  | none => (none, s)
  | some buf =>
    let buffers := Function.update s.buffers cameraId (some (buf.handle setup frame).2)
    match (buf.handle setup frame).1 with
    | none => (none, { s with buffers := buffers })
    | some image =>
      (some (setup.processor.process setup.cv2 s.prevFrameGray image).1,
        ⟨buffers, (setup.processor.process setup.cv2 s.prevFrameGray image).2⟩)

/-- One step: the call of `_handle_frame` for a camera, or one of the inference process. -/
def step (s : CaptureDisplay setup) (cameraId : String) :
    CameraEvent → Option (Option (List UInt8)) × CaptureDisplay setup
  | .frame frame => s.handleFrame cameraId frame
  | .inference call =>
    match s.buffers cameraId with
    | none => (none, s)
    | some buf =>
      (none, { s with buffers := Function.update s.buffers cameraId (some (buf.infer call)) })

/-- Whether a preview is sent, for each step of a run at which that is decided. -/
def run (s : CaptureDisplay setup) : List (String × CameraEvent) → List (String × Option Bool)
  | [] => []
  | (cameraId, e) :: events =>
    (cameraId, (s.step cameraId e).1.map Option.isSome) :: run (s.step cameraId e).2 events

/-- The decisions for one camera, in order. -/
def decisions (setup : CaptureSetup Gray Payload) (camera : String)
    (events : List (String × CameraEvent)) : List (Option Bool) :=
  Family.ofKey camera ((init setup).run events)

end CaptureDisplay

end EdgeSafety
