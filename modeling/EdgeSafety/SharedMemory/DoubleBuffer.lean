import EdgeSafety.SharedMemory.FrameBuffer

/-!
# The two processes of the double buffer

`CaptureDisplay._handle_frame` of `edge/capture_loop.py` (P1, called for every captured frame) and
`InferenceWorker.step` of `inference/inference_worker.py` (P2, called in a loop) on one
`FrameBuffer`. A step of a process is one call of a `FrameBuffer` method, or the end of what it
does between two of them: drawing and sending the overlay, detecting.

An exception in `_handle_frame` ends that call, and `SourceManager` goes on with the next frame; an
exception in `step` ends the thread of P2.
-/

namespace EdgeSafety.DoubleBuffer

/-- Where `_handle_frame` is. -/
inductive CapturePc (Payload : Type)
  /-- Between two calls. -/
  | idle
  | pickFree (frame : NdArray)
  | writeFrame (frame : NdArray) (freeIdx : Fin 2)
  | readResult
  | readFrame (payload : Payload) (resultBuf : Fin 2)
  /-- Drawing, encoding, sending and checking for violations. -/
  | overlay (payload : Payload) (resultBuf : Fin 2) (exactFrame : NdArray)
  | release (resultBuf : Fin 2)
  deriving DecidableEq

/-- Where `step` of the inference worker is. -/
inductive WorkerPc
  | findFilled
  | acquire (bufIdx : Fin 2)
  | readFrame (bufIdx : Fin 2)
  | release (bufIdx : Fin 2)
  /-- Waiting for `detect` and building the result. -/
  | detect (bufIdx : Fin 2) (frame : NdArray)
  | writeResult (bufIdx : Fin 2) (frame : NdArray) (encoded : List UInt8)
  /-- An exception ended the thread. -/
  | ended
  deriving DecidableEq

/-- The segments and the two processes; `lastResultSeq` is P1's. -/
structure State (layout : FrameBufferLayout) (Payload : Type) where
  memory : FrameBuffer layout
  lastResultSeq : Nat
  capture : CapturePc Payload
  worker : WorkerPc

/-- What happens next. -/
inductive Event
  /-- `_handle_frame` is called. -/
  | handleFrame (frame : NdArray)
  /-- P1 makes its next step. -/
  | capture
  /-- Drawing or sending the overlay raises. -/
  | captureRaises
  /-- P2 makes its next step. -/
  | worker
  /-- `detect` returned, or it raised and the result is empty; `encoded` is the result as JSON. -/
  | detected (encoded : List UInt8)
  /-- Scaling or building the result raises. -/
  | workerRaises

variable {layout : FrameBufferLayout} {Payload : Type}

/-- The slot that a `_buffer_index` names: `result_buf in (0, 1)`. -/
def slotOfIndex (index : Int) : Option (Fin 2) :=
  if index = 0 then some bufA else if index = 1 then some bufB else none

@[simp]
theorem slotOfIndex_val (b : Fin 2) : slotOfIndex b.val = some b := by
  revert b
  decide

theorem slotOfIndex_eq_some {index : Int} {b : Fin 2} :
    slotOfIndex index = some b ↔ index = b.val := by
  constructor
  · intro h
    unfold slotOfIndex at h
    split at h
    · next hindex =>
      obtain rfl := Option.some.inj h
      exact hindex
    · split at h
      · next hindex =>
        obtain rfl := Option.some.inj h
        exact hindex
      · cases h
  · rintro rfl
    exact slotOfIndex_val b

namespace State

/-- Both processes have a `FrameBuffer` on new segments and are about to start. -/
def init (layout : FrameBufferLayout) (Payload : Type) : State layout Payload where
  memory := FrameBuffer.create layout
  lastResultSeq := 0
  capture := .idle
  worker := .findFilled

/-- `pick_free` and the test of what it returns. -/
def pickFree (s : State layout Payload) (frame : NdArray) : State layout Payload :=
  { s with
    capture := match s.memory.pickFree with
      | some freeIdx => .writeFrame frame freeIdx
      | none => .readResult }

/-- `write_frame`. -/
def writeFrame (s : State layout Payload) (frame : NdArray) (freeIdx : Fin 2) :
    State layout Payload :=
  { s with
    memory := (s.memory.writeFrame freeIdx frame).2
    capture := match (s.memory.writeFrame freeIdx frame).1 with
      | .ok _ => .readResult
      | .error _ => .idle }

/-- `read_result` and the tests of what it returns. -/
def readResult (loads : List UInt8 → Option Payload) (s : State layout Payload) :
    State layout Payload :=
  let (result, lastResultSeq) := s.memory.readResult loads s.lastResultSeq
  { s with
    lastResultSeq := lastResultSeq
    capture := match result with
      | some (payload, index) => match slotOfIndex index with
        | some resultBuf => .readFrame payload resultBuf
        | none => .idle
      | none => .idle }

/-- `read_frame` of P1 and the test of what it returns. -/
def readBack (s : State layout Payload) (payload : Payload) (resultBuf : Fin 2) :
    State layout Payload :=
  { s with
    capture := match s.memory.readFrame resultBuf with
      | some exactFrame => .overlay payload resultBuf exactFrame
      | none => .release resultBuf }

/-- `release` of P1. -/
def release (s : State layout Payload) (resultBuf : Fin 2) : State layout Payload :=
  { s with memory := s.memory.release resultBuf, capture := .idle }

/-- `find_filled` and the test of what it returns. -/
def findFilled (s : State layout Payload) : State layout Payload :=
  { s with
    worker := match s.memory.findFilled with
      | some bufIdx => .acquire bufIdx
      | none => .findFilled }

/-- `acquire`. -/
def acquire (s : State layout Payload) (bufIdx : Fin 2) : State layout Payload :=
  { s with memory := s.memory.acquire bufIdx, worker := .readFrame bufIdx }

/-- `read_frame` of P2 and the test of what it returns. -/
def readFrame (s : State layout Payload) (bufIdx : Fin 2) : State layout Payload :=
  { s with
    worker := match s.memory.readFrame bufIdx with
      | some frame => .detect bufIdx frame
      | none => .release bufIdx }

/-- `release` of P2, for a slot without a frame. -/
def releaseEmpty (s : State layout Payload) (bufIdx : Fin 2) : State layout Payload :=
  { s with memory := s.memory.release bufIdx, worker := .findFilled }

/-- `write_result`. -/
def writeResult (s : State layout Payload) (bufIdx : Fin 2) (encoded : List UInt8) :
    State layout Payload :=
  { s with
    memory := (s.memory.writeResult encoded bufIdx).2
    worker := match (s.memory.writeResult encoded bufIdx).1 with
      | .ok _ => .findFilled
      | .error _ => .ended }

/-- One step of P1 within `_handle_frame`. -/
def advanceCapture (loads : List UInt8 → Option Payload) (s : State layout Payload) :
    Option (State layout Payload) :=
  match s.capture with
  | .idle => none
  | .pickFree frame => some (s.pickFree frame)
  | .writeFrame frame freeIdx => some (s.writeFrame frame freeIdx)
  | .readResult => some (s.readResult loads)
  | .readFrame payload resultBuf => some (s.readBack payload resultBuf)
  | .overlay _ resultBuf _ => some { s with capture := .release resultBuf }
  | .release resultBuf => some (s.release resultBuf)

/-- One step of P2, `step` being called again and again. -/
def advanceWorker (s : State layout Payload) : Option (State layout Payload) :=
  match s.worker with
  | .findFilled => some s.findFilled
  | .acquire bufIdx => some (s.acquire bufIdx)
  | .readFrame bufIdx => some (s.readFrame bufIdx)
  | .release bufIdx => some (s.releaseEmpty bufIdx)
  | .detect _ _ => none
  | .writeResult bufIdx _ encoded => some (s.writeResult bufIdx encoded)
  | .ended => none

/-- One step of the system. -/
def step (loads : List UInt8 → Option Payload) (s : State layout Payload) :
    Event → Option (State layout Payload)
  | .handleFrame frame =>
    match s.capture with
    | .idle => some { s with capture := .pickFree frame }
    | _ => none
  | .capture => s.advanceCapture loads
  | .captureRaises =>
    match s.capture with
    | .overlay _ _ _ => some { s with capture := .idle }
    | _ => none
  | .worker => s.advanceWorker
  | .detected encoded =>
    match s.worker with
    | .detect bufIdx frame => some { s with worker := .writeResult bufIdx frame encoded }
    | _ => none
  | .workerRaises =>
    match s.worker with
    | .detect _ _ => some { s with worker := .ended }
    | _ => none

/-- The steps of the system, one constructor for each place a process can be at. -/
inductive Step (loads : List UInt8 → Option Payload) (s : State layout Payload) :
    Event → State layout Payload → Prop
  | handleFrame (frame) (pc : s.capture = .idle) :
    Step loads s (.handleFrame frame) { s with capture := .pickFree frame }
  | pickFree (frame) (pc : s.capture = .pickFree frame) : Step loads s .capture (s.pickFree frame)
  | writeFrame (frame freeIdx) (pc : s.capture = .writeFrame frame freeIdx) :
    Step loads s .capture (s.writeFrame frame freeIdx)
  | readResult (pc : s.capture = .readResult) : Step loads s .capture (s.readResult loads)
  | readBack (payload resultBuf) (pc : s.capture = .readFrame payload resultBuf) :
    Step loads s .capture (s.readBack payload resultBuf)
  | overlay (payload resultBuf exactFrame)
      (pc : s.capture = .overlay payload resultBuf exactFrame) :
    Step loads s .capture { s with capture := .release resultBuf }
  | release (resultBuf) (pc : s.capture = .release resultBuf) :
    Step loads s .capture (s.release resultBuf)
  | captureRaises (payload resultBuf exactFrame)
      (pc : s.capture = .overlay payload resultBuf exactFrame) :
    Step loads s .captureRaises { s with capture := .idle }
  | findFilled (pc : s.worker = .findFilled) : Step loads s .worker s.findFilled
  | acquire (bufIdx) (pc : s.worker = .acquire bufIdx) : Step loads s .worker (s.acquire bufIdx)
  | readFrame (bufIdx) (pc : s.worker = .readFrame bufIdx) :
    Step loads s .worker (s.readFrame bufIdx)
  | releaseEmpty (bufIdx) (pc : s.worker = .release bufIdx) :
    Step loads s .worker (s.releaseEmpty bufIdx)
  | writeResult (bufIdx frame encoded) (pc : s.worker = .writeResult bufIdx frame encoded) :
    Step loads s .worker (s.writeResult bufIdx encoded)
  | detected (bufIdx frame encoded) (pc : s.worker = .detect bufIdx frame) :
    Step loads s (.detected encoded) { s with worker := .writeResult bufIdx frame encoded }
  | workerRaises (bufIdx frame) (pc : s.worker = .detect bufIdx frame) :
    Step loads s .workerRaises { s with worker := .ended }

theorem step_cases {loads : List UInt8 → Option Payload} {s t : State layout Payload} {e : Event}
    (hstep : s.step loads e = some t) : Step loads s e t := by
  cases e with
  | handleFrame frame =>
    simp only [step] at hstep
    split at hstep
    · next pc =>
      obtain rfl := Option.some.inj hstep
      exact .handleFrame frame pc
    · cases hstep
  | capture =>
    simp only [step, advanceCapture] at hstep
    split at hstep <;> simp only [reduceCtorEq, Option.some.injEq] at hstep <;> subst hstep
    · next frame pc => exact .pickFree frame pc
    · next frame freeIdx pc => exact .writeFrame frame freeIdx pc
    · next pc => exact .readResult pc
    · next payload resultBuf pc => exact .readBack payload resultBuf pc
    · next payload resultBuf exactFrame pc => exact .overlay payload resultBuf exactFrame pc
    · next resultBuf pc => exact .release resultBuf pc
  | captureRaises =>
    simp only [step] at hstep
    split at hstep
    · next payload resultBuf exactFrame pc =>
      obtain rfl := Option.some.inj hstep
      exact .captureRaises payload resultBuf exactFrame pc
    · cases hstep
  | worker =>
    simp only [step, advanceWorker] at hstep
    split at hstep <;> simp only [reduceCtorEq, Option.some.injEq] at hstep <;> subst hstep
    · next pc => exact .findFilled pc
    · next bufIdx pc => exact .acquire bufIdx pc
    · next bufIdx pc => exact .readFrame bufIdx pc
    · next bufIdx pc => exact .releaseEmpty bufIdx pc
    · next bufIdx frame encoded pc => exact .writeResult bufIdx frame encoded pc
  | detected encoded =>
    simp only [step] at hstep
    split at hstep
    · next bufIdx frame pc =>
      obtain rfl := Option.some.inj hstep
      exact .detected bufIdx frame encoded pc
    · cases hstep
  | workerRaises =>
    simp only [step] at hstep
    split at hstep
    · next bufIdx frame pc =>
      obtain rfl := Option.some.inj hstep
      exact .workerRaises bufIdx frame pc
    · cases hstep

end State

end EdgeSafety.DoubleBuffer
