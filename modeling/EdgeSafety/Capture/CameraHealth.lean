import Mathlib.Data.Rat.Defs

/-!
# Camera health

`capture/camera_health.py`: the counters a capture process and the runtime share about one camera.
Every method is one locked section, so it is a function on the whole record; the clock readings it
makes are arguments.
-/

namespace EdgeSafety

/-- `CameraState`. -/
inductive CameraState
  | disabled
  | starting
  | running
  | degraded
  | disconnected
  | stopped
  deriving DecidableEq

/-- `CameraHealthSnapshot`. -/
structure CameraHealthSnapshot where
  state : CameraState
  capturedFrames : Nat
  captureFailures : Nat
  reconnectCount : Nat
  resolutionMismatchCount : Nat
  droppedFrames : Nat
  captureFps : ℚ
  lastSuccessMonotonicNs : Nat
  lastSuccessUnixNs : Nat
  width : Nat
  height : Nat
  deriving DecidableEq

/-- `CameraHealth`, as `__init__` leaves it. -/
structure CameraHealth where
  state : CameraState := .stopped
  captured : Nat := 0
  failures : Nat := 0
  reconnects : Nat := 0
  resolutionMismatches : Nat := 0
  dropped : Nat := 0
  fps : ℚ := 0
  lastMono : Nat := 0
  lastUnix : Nat := 0
  width : Nat := 0
  height : Nat := 0
  deriving DecidableEq

namespace CameraHealth

/-- `set_state`. -/
def setState (health : CameraHealth) (state : CameraState) : CameraHealth :=
  { health with state := state }

/-- `record_success`; `monotonicNs` and `timeNs` are the readings of the two clocks. -/
def recordSuccess (health : CameraHealth) (width height : Nat) (fps : ℚ)
    (monotonicNs timeNs : UInt64) : CameraHealth :=
  { health with
    captured := health.captured + 1
    fps := fps
    lastMono := monotonicNs.toNat
    lastUnix := timeNs.toNat
    width := width
    height := height
    state := .running }

/-- `record_failure`. -/
def recordFailure (health : CameraHealth) : CameraHealth :=
  { health with failures := health.failures + 1, state := .degraded }

/-- `record_reconnect`. -/
def recordReconnect (health : CameraHealth) : CameraHealth :=
  { health with reconnects := health.reconnects + 1, state := .starting }

/-- `record_resolution_mismatch`. -/
def recordResolutionMismatch (health : CameraHealth) : CameraHealth :=
  { health with resolutionMismatches := health.resolutionMismatches + 1, state := .degraded }

/-- `set_dropped_frames`. -/
def setDroppedFrames (health : CameraHealth) (count : Nat) : CameraHealth :=
  { health with dropped := count }

/-- `snapshot`. -/
def snapshot (health : CameraHealth) : CameraHealthSnapshot where
  state := health.state
  capturedFrames := health.captured
  captureFailures := health.failures
  reconnectCount := health.reconnects
  resolutionMismatchCount := health.resolutionMismatches
  droppedFrames := health.dropped
  captureFps := health.fps
  lastSuccessMonotonicNs := health.lastMono
  lastSuccessUnixNs := health.lastUnix
  width := health.width
  height := health.height

/-- A call a capture process makes. -/
inductive Call
  | setState (state : CameraState)
  | recordSuccess (width height : Nat) (fps : ℚ) (timeNs : UInt64)
  | recordFailure
  | recordReconnect
  | recordResolutionMismatch
  | setDroppedFrames (count : Nat)

/-- The record after a call, made at `monotonicNs`. -/
def call (health : CameraHealth) (monotonicNs : UInt64) : Call → CameraHealth
  | .setState state => health.setState state
  | .recordSuccess width height fps timeNs =>
    health.recordSuccess width height fps monotonicNs timeNs
  | .recordFailure => health.recordFailure
  | .recordReconnect => health.recordReconnect
  | .recordResolutionMismatch => health.recordResolutionMismatch
  | .setDroppedFrames count => health.setDroppedFrames count

end CameraHealth

end EdgeSafety
