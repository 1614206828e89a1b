import Mathlib.Algebra.Order.Field.Rat
import EdgeSafety.Capture.FrameRegister
import EdgeSafety.Shared.Configuration

/-!
# The shared inference scheduler

`SharedInferenceScheduler` of `inference/scheduler.py`, one atomic step at a time. A step of the
scheduler thread makes at most one access to what it shares with others: a locked method of a
frame buffer, an operation on the result queue, a reading of the monotonic clock, the call of the
pipeline. Between two of its steps the capture processes publish, consumers take results and the
clock advances. Cameras are numbered in the order of `_camera_order`.

The clock counts nanoseconds in 64 bits. Milliseconds are rational numbers, so an age is exact.
-/

namespace EdgeSafety

/-- What a `SharedInferenceScheduler` is constructed with, for `n` cameras. -/
structure SchedulerSetup (n : Nat) where
  layout : Fin n → BufferLayout
  cameraId_injective : Function.Injective fun camera => (layout camera).cameraId
  configuration : SchedulerConfig
  analyticsFps : Fin n → Option ℚ
  resultQueueSize : Nat := 64

/-- `_analytics_intervals_ns.get(camera_id, 0)`. -/
def SchedulerSetup.intervalNs {n : Nat} (setup : SchedulerSetup n) (camera : Fin n) : Nat :=
  match setup.analyticsFps camera with
  | some fps => if fps > 0 then (1000000000 / fps).floor.toNat else 0
  | none => 0

/-- `SchedulerMetrics`. -/
structure SchedulerMetrics where
  processedFrames : Nat := 0
  staleFrames : Nat := 0
  failedBatches : Nat := 0
  resultDrops : Nat := 0
  circuitOpenCount : Nat := 0
  lastBatchLatencyMs : ℚ := 0
  maximumBatchLatencyMs : ℚ := 0
  deriving DecidableEq

/-- `ScheduledResult`. -/
structure ScheduledResult (Output : Type) where
  cameraId : String
  frameId : Nat
  capturedAtUnixNs : Nat
  frameAgeMs : ℚ
  output : Output
  frame : Option FramePacket
  deriving DecidableEq

/-- What `infer_frames` does with a batch. -/
inductive PipelineOutcome (Output : Type)
  | raised
  | returned (outputs : List Output) (elapsedMs : ℚ)

namespace SharedInferenceScheduler

/-- The camera `_collect_batch` examines, with its locals `batch` and `checked`. -/
structure Examination (n : Nat) where
  camera : Fin n
  batch : List FramePacket
  checked : Nat
  deriving DecidableEq

/-- Where the scheduler thread is. -/
inductive Pc (n : Nat) (Output : Type)
  /-- Between two calls of `run_once`. -/
  | idle
  /-- At the head of the loop of `_collect_batch`. -/
  | collect (batch : List FramePacket) (checked : Nat)
  /-- About to read `before_stale`. -/
  | beforeStale (x : Examination n)
  /-- About to call `read_latest`. -/
  | read (x : Examination n) (beforeStale : Nat)
  /-- About to read `stale_frames` again. -/
  | afterStale (x : Examination n) (beforeStale : Nat) (packet : Option FramePacket)
  /-- About to read `sequence`. -/
  | resequence (x : Examination n) (packet : Option FramePacket)
  /-- About to read the clock for `_last_scheduled_ns`. -/
  | picked (x : Examination n) (packet : FramePacket)
  /-- Waiting for `infer_frames`. -/
  | inferring (batch : List FramePacket)
  /-- In the exception handler of `run_once`. -/
  | failed
  /-- At the head of the loop over the results; `count` is `len(batch)`. -/
  | deliver (remaining : List (FramePacket × Output)) (count : Nat)
  /-- About to call `full()` of the result queue. -/
  | put (result : ScheduledResult Output) (remaining : List (FramePacket × Output)) (count : Nat)
  /-- About to call `get_nowait()`. -/
  | evict (result : ScheduledResult Output) (remaining : List (FramePacket × Output)) (count : Nat)
  /-- About to call `put_nowait()`. -/
  | enqueue (result : ScheduledResult Output) (remaining : List (FramePacket × Output))
      (count : Nat)
  /-- The thread ended with `queue.Full`. -/
  | crashed

/-- The scheduler and what it shares with the capture processes and the consumers. -/
structure State {n : Nat} (setup : SchedulerSetup n) (Output : Type) where
  clockNs : UInt64
  buffers : (camera : Fin n) → LatestFrameBuffer (setup.layout camera)
  cursor : Nat
  lastSequences : Fin n → Nat
  lastScheduledNs : Fin n → Nat
  results : List (ScheduledResult Output)
  metrics : SchedulerMetrics
  consecutiveFailures : Nat
  circuitOpenUntilNs : Nat
  pc : Pc n Output

/-- What happens next. -/
inductive Event (n : Nat) (Output : Type)
  /-- The clock advances. -/
  | tick (clockNs : UInt64)
  /-- The camera's capture process publishes a frame; `timeNs` is the time of day. -/
  | publish (camera : Fin n) (frame : NdArray) (timeNs : UInt64)
  /-- The scheduler thread takes a step, `run_once` being called again and again. -/
  | scheduler
  /-- The call of `infer_frames` ends. -/
  | pipeline (outcome : PipelineOutcome Output)
  /-- A consumer takes a result. -/
  | getResult

variable {n : Nat} {setup : SchedulerSetup n} {Output : Type}

namespace State

/-- `SharedInferenceScheduler.__init__`, with new buffers. -/
def init (setup : SchedulerSetup n) (Output : Type) (clockNs : UInt64) : State setup Output where
  clockNs := clockNs
  buffers := fun camera => LatestFrameBuffer.empty (setup.layout camera)
  cursor := 0
  lastSequences := fun _ => 0
  lastScheduledNs := fun _ => 0
  results := []
  metrics := {}
  consecutiveFailures := 0
  circuitOpenUntilNs := 0
  pc := .idle

/-- One call on the buffer of a camera. -/
def callBuffer (s : State setup Output) (camera : Fin n) (call : LatestFrameBuffer.Call) :
    State setup Output :=
  { s with buffers := Function.update s.buffers camera ((s.buffers camera).call call) }

/-- The call a capture process makes: `buffer.publish(frame)`. -/
def publishCall (s : State setup Output) (frame : NdArray) (timeNs : UInt64) :
    LatestFrameBuffer.Call :=
  .publish frame none none timeNs.toNat s.clockNs.toNat

/-- The call `_collect_batch` makes: `buffer.read_latest(after_sequence=…, max_age_ms=…)`. -/
def readCall (s : State setup Output) (camera : Fin n) : LatestFrameBuffer.Call :=
  .readLatest (s.lastSequences camera) (some setup.configuration.maxFrameAgeMs) s.clockNs.toNat

/-- What that call returns. -/
def readPacket (s : State setup Output) (camera : Fin n) : Option FramePacket :=
  ((s.buffers camera).readLatest (s.lastSequences camera)
    (some setup.configuration.maxFrameAgeMs) s.clockNs.toNat).1

/-- The first test of `run_once`. -/
def checkCircuit (s : State setup Output) : State setup Output :=
  if s.clockNs.toNat < s.circuitOpenUntilNs then s else { s with pc := .collect [] 0 }

/-- The camera under the cursor is not yet due. -/
def NotDue (s : State setup Output) (camera : Fin n) : Prop :=
  setup.intervalNs camera ≠ 0 ∧
    (s.clockNs.toNat : Int) - s.lastScheduledNs camera < setup.intervalNs camera

instance (s : State setup Output) (camera : Fin n) : Decidable (s.NotDue camera) :=
  inferInstanceAs (Decidable (_ ∧ _))

/-- The head of the loop of `_collect_batch`, to the rate check. The cursor is always below `n`, so
that it is its own remainder. -/
def collect (s : State setup Output) (batch : List FramePacket) (checked : Nat) :
    State setup Output :=
  if h : checked < n ∧ batch.length < setup.configuration.detectorBatchSize then
    let camera : Fin n := ⟨s.cursor % n, Nat.mod_lt _ (Nat.zero_lt_of_lt h.1)⟩
    { s with
      cursor := (s.cursor + 1) % n
      pc := if s.NotDue camera then .collect batch (checked + 1)
        else .beforeStale ⟨camera, batch, checked + 1⟩ }
  else { s with pc := if batch.isEmpty then .idle else .inferring batch }

/-- `if packet is None: continue`. -/
def takePacket (s : State setup Output) (x : Examination n) (packet : Option FramePacket) :
    State setup Output :=
  match packet with
  | none => { s with pc := .collect x.batch x.checked }
  | some packet => { s with pc := .picked x packet }

/-- `if buffer.stale_frames > before_stale`, up to the reading of `buffer.sequence`. -/
def compareStale (s : State setup Output) (x : Examination n) (beforeStale : Nat)
    (packet : Option FramePacket) : State setup Output :=
  if (s.buffers x.camera).stale > beforeStale then
    { s with
      metrics := { s.metrics with staleFrames := s.metrics.staleFrames + 1 }
      pc := .resequence x packet }
  else s.takePacket x packet

/-- `self._last_sequences[camera_id] = buffer.sequence`. -/
def resequence (s : State setup Output) (x : Examination n) (packet : Option FramePacket) :
    State setup Output :=
  takePacket
    { s with
      lastSequences :=
        Function.update s.lastSequences x.camera (s.buffers x.camera).sequence } x packet

/-- The end of the body of the loop of `_collect_batch`. -/
def pick (s : State setup Output) (x : Examination n) (packet : FramePacket) :
    State setup Output :=
  { s with
    lastSequences := Function.update s.lastSequences x.camera packet.frameId
    lastScheduledNs := Function.update s.lastScheduledNs x.camera s.clockNs.toNat
    pc := .collect (x.batch ++ [packet]) x.checked }

/-- The outputs are in time and as many as the packets. -/
def Accepted (setup : SchedulerSetup n) (batch : List FramePacket) (outputs : List Output)
    (elapsedMs : ℚ) : Prop :=
  elapsedMs ≤ setup.configuration.inferenceTimeoutMs ∧ outputs.length = batch.length

instance (batch : List FramePacket) (outputs : List Output) (elapsedMs : ℚ) :
    Decidable (Accepted setup batch outputs elapsedMs) :=
  inferInstanceAs (Decidable (_ ∧ _))

/-- `run_once` from the end of `infer_frames` to the handler or the loop over the results. -/
def receive (s : State setup Output) (batch : List FramePacket) :
    PipelineOutcome Output → State setup Output
  | .raised => { s with pc := .failed }
  | .returned outputs elapsedMs =>
    if Accepted setup batch outputs elapsedMs then
      { s with
        consecutiveFailures := 0
        metrics := { s.metrics with
          lastBatchLatencyMs := elapsedMs
          maximumBatchLatencyMs := max s.metrics.maximumBatchLatencyMs elapsedMs }
        pc := .deliver (batch.zip outputs) batch.length }
    else { s with pc := .failed }

/-- The exception handler of `run_once`. -/
def fail (s : State setup Output) : State setup Output :=
  if s.consecutiveFailures + 1 ≥ setup.configuration.circuitBreakerFailures then
    { s with
      metrics := { s.metrics with
        failedBatches := s.metrics.failedBatches + 1
        circuitOpenCount := s.metrics.circuitOpenCount + 1 }
      circuitOpenUntilNs :=
        s.clockNs.toNat + setup.configuration.circuitBreakerResetMs * 1000000
      consecutiveFailures := 0
      pc := .idle }
  else
    { s with
      metrics := { s.metrics with failedBatches := s.metrics.failedBatches + 1 }
      consecutiveFailures := s.consecutiveFailures + 1
      pc := .idle }

/-- The result of a packet and its output. -/
def result (s : State setup Output) (packet : FramePacket) (output : Output) :
    ScheduledResult Output where
  cameraId := packet.cameraId
  frameId := packet.frameId
  capturedAtUnixNs := packet.capturedAtUnixNs
  frameAgeMs := packet.ageMs s.clockNs.toNat
  output := output
  frame := some packet

/-- The loop over the results, up to the call of `_put_result`. -/
def deliver (s : State setup Output) (remaining : List (FramePacket × Output)) (count : Nat) :
    State setup Output :=
  match remaining with
  | [] =>
    { s with
      metrics := { s.metrics with processedFrames := s.metrics.processedFrames + count }
      pc := .idle }
  | (packet, output) :: rest => { s with pc := .put (s.result packet output) rest count }

/-- `self._results.full()`. -/
def Full (s : State setup Output) : Prop :=
  0 < setup.resultQueueSize ∧ setup.resultQueueSize ≤ s.results.length

instance (s : State setup Output) : Decidable s.Full := inferInstanceAs (Decidable (_ ∧ _))

/-- `self._results.get_nowait()`, and `queue.Empty` caught. -/
def evict (s : State setup Output) (result : ScheduledResult Output)
    (remaining : List (FramePacket × Output)) (count : Nat) : State setup Output :=
  match s.results with
  | [] => { s with pc := .enqueue result remaining count }
  | _ :: rest =>
    { s with
      results := rest
      metrics := { s.metrics with resultDrops := s.metrics.resultDrops + 1 }
      pc := .enqueue result remaining count }

/-- `self._results.put_nowait(result)`. -/
def enqueue (s : State setup Output) (result : ScheduledResult Output)
    (remaining : List (FramePacket × Output)) (count : Nat) : State setup Output :=
  if s.Full then { s with pc := .crashed }
  else { s with results := s.results ++ [result], pc := .deliver remaining count }

/-- One step of the scheduler thread. -/
def advance (s : State setup Output) : Option (State setup Output) :=
  match s.pc with
  | .idle => some s.checkCircuit
  | .collect batch checked => some (s.collect batch checked)
  | .beforeStale x => some { s with pc := .read x (s.buffers x.camera).stale }
  | .read x beforeStale =>
    some { s.callBuffer x.camera (s.readCall x.camera) with
      pc := .afterStale x beforeStale (s.readPacket x.camera) }
  | .afterStale x beforeStale packet => some (s.compareStale x beforeStale packet)
  | .resequence x packet => some (s.resequence x packet)
  | .picked x packet => some (s.pick x packet)
  | .inferring _ => none
  | .failed => some s.fail
  | .deliver remaining count => some (s.deliver remaining count)
  | .put result remaining count =>
    some { s with
      pc := if s.Full then .evict result remaining count else .enqueue result remaining count }
  | .evict result remaining count => some (s.evict result remaining count)
  | .enqueue result remaining count => some (s.enqueue result remaining count)
  | .crashed => none

/-- One step of the system. -/
def step (s : State setup Output) : Event n Output → Option (State setup Output)
  | .tick clockNs => if s.clockNs ≤ clockNs then some { s with clockNs := clockNs } else none
  | .publish camera frame timeNs => some (s.callBuffer camera (s.publishCall frame timeNs))
  | .scheduler => s.advance
  | .pipeline outcome =>
    match s.pc with
    | .inferring batch => some (s.receive batch outcome)
    | _ => none
  | .getResult =>
    match s.results with
    | [] => none
    | _ :: rest => some { s with results := rest }

end State
end SharedInferenceScheduler
end EdgeSafety
