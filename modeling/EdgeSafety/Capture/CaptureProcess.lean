import EdgeSafety.Capture.CameraHealth
import EdgeSafety.Capture.FrameRegister
import EdgeSafety.Capture.ReconnectPolicy

/-!
# The capture process

`_capture_process_main` of `capture/worker.py`, one access to what it shares at a time: the frame
buffer, which the scheduler reads, the health counters, the stop event, the device and the clock. A
float is a rational, and times are in nanoseconds. `advance_advances` says what each step does and
what it adds to the history of the process; the invariants go through its cases.
-/

namespace EdgeSafety

/-- `CameraConfig`, the fields that a capture process reads. -/
structure CaptureConfig where
  cameraId : String
  resolution : Nat × Nat := (1280, 720)
  captureFps : ℚ := 15
  reconnect : ReconnectDelays := {}
  width_bounds : 160 ≤ resolution.1 ∧ resolution.1 ≤ 7680 := by decide
  height_bounds : 120 ≤ resolution.2 ∧ resolution.2 ≤ 4320 := by decide
  captureFps_bounds : 0 < captureFps ∧ captureFps ≤ 120 := by norm_num

namespace CaptureConfig
variable (config : CaptureConfig)

/-- The buffer that `EdgeSupervisor.__init__` makes for the camera. -/
def layout : BufferLayout where
  cameraId := config.cameraId
  maxWidth := config.resolution.1
  maxHeight := config.resolution.2
  maxWidth_pos := by
    have hwidth := config.width_bounds
    omega
  maxHeight_pos := by
    have hheight := config.height_bounds
    omega
  maxWidth_lt := by
    have hwidth := config.width_bounds
    omega
  maxHeight_lt := by
    have hheight := config.height_bounds
    omega

/-- `frame_interval`. -/
def frameIntervalNs : ℚ := 1000000000 / config.captureFps

/-- A delay of the reconnect policy. -/
def delayNs (n : Nat) : ℚ := 1000000000 * config.reconnect.delay n

end CaptureConfig

namespace CaptureProcess

/-- `window_started` and `window_frames`. -/
structure Window where
  startedNs : Nat
  frames : Nat

/-- A turn of the inner loop: the window, `cycle_started`, and `actual_width`, `actual_height`. -/
structure Cycle where
  window : Window
  startedNs : Nat
  size : Nat × Nat

/-- Where the process is. -/
inductive Pc
  /-- `health.set_state(CameraState.STARTING)`. -/
  | starting
  /-- At the head of the outer loop. -/
  | head
  /-- `cv2.VideoCapture(device)`. -/
  | opening
  /-- The device did not open: `health.record_failure()`. -/
  | refused
  /-- The device is open: from `policy.reset()` to `window_frames = 0`. -/
  | opened
  /-- At the head of the inner loop. -/
  | frames (window : Window)
  /-- `cycle_started = time.monotonic()`. -/
  | timing (window : Window)
  /-- `capture.read()`. -/
  | reading (window : Window) (startedNs : Nat)
  /-- There was no frame: `health.record_failure()`. -/
  | unread
  /-- `buffer.publish(frame)`. -/
  | publishing (cycle : Cycle) (frame : NdArray)
  /-- `publish` raised: `health.record_failure()`. -/
  | rejected
  /-- `health.set_state(CameraState.DEGRADED)`. -/
  | degrading
  /-- `elapsed_window = time.monotonic() - window_started`. -/
  | counting (cycle : Cycle)
  /-- `health.record_success(actual_width, actual_height, fps)`. -/
  | succeeding (cycle : Cycle) (elapsedNs : Nat)
  /-- The comparison of the size of the frame with `config.resolution`. -/
  | comparing (cycle : Cycle) (elapsedNs : Nat)
  /-- `buffer.dropped_frames`. -/
  | dropping (cycle : Cycle) (elapsedNs : Nat)
  /-- `health.set_dropped_frames`. -/
  | reporting (cycle : Cycle) (elapsedNs count : Nat)
  /-- `if elapsed_window >= 2.0`. -/
  | windowing (cycle : Cycle) (elapsedNs : Nat)
  /-- `remaining = frame_interval - (time.monotonic() - cycle_started)`. -/
  | pacing (cycle : Cycle)
  /-- `stop_event.wait(remaining)`: the call, and until it returns. -/
  | pause (window : Window) (remainingNs : ℚ)
  | paused (window : Window) (deadlineNs : ℚ)
  /-- `capture.release()`, with the exception that goes on after it. -/
  | releasing (error : Option String)
  /-- `if not stop_event.is_set()`, after the inner loop. -/
  | broken
  /-- `health.set_state(CameraState.DISCONNECTED)`. -/
  | disconnecting
  /-- `policy.next_delay_seconds()`. -/
  | delaying
  /-- `stop_event.wait` of this delay: the call, and until it returns. -/
  | wait (delayNs : ℚ)
  | waiting (deadlineNs : ℚ)
  /-- `health.record_reconnect()`. -/
  | reconnecting
  /-- `health.set_state(CameraState.STOPPED)`. -/
  | stopping
  /-- The process returned. -/
  | ended
  /-- An exception ended the process. -/
  | raised (error : String)

/-- What the device and `time.time_ns()` answer in a step that asks them. -/
structure Answer where
  isOpened : Bool := true
  frame : Option NdArray := none
  timeNs : UInt64 := 0

/-- What happens next. -/
inductive Event
  /-- The clock advances. -/
  | tick (clockNs : UInt64)
  /-- The process takes a step. -/
  | process (answer : Answer)
  /-- The scheduler reads the buffer. -/
  | readLatest (afterSequence : Int) (maxAgeMs : Option ℚ)
  /-- `CaptureWorker.stop` sets the stop event. -/
  | stop

end CaptureProcess

/-- A capture process, with what it shares with others. -/
structure CaptureProcess (config : CaptureConfig) where
  buffer : LatestFrameBuffer config.layout := .empty config.layout
  health : CameraHealth := {}
  policy : ReconnectPolicy := { config := config.reconnect }
  stopEvent : Bool := false
  clockNs : UInt64
  pc : CaptureProcess.Pc := .starting

namespace CaptureProcess
variable {config : CaptureConfig}

/-- `frame.shape[:2]`, as `(actual_width, actual_height)`. -/
def actualSize (frame : NdArray) : Option (Nat × Nat) :=
  match frame.shape with
  | height :: width :: _ => some (width, height)
  | _ => none

/-- `fps` of a window that ended `elapsedNs` after it started. -/
def fps (frames elapsedNs : Nat) : ℚ :=
  if 0 < elapsedNs then frames * 1000000000 / elapsedNs else 0

/-- `remaining` of a cycle at the time `nowNs`. -/
def remainingNs (config : CaptureConfig) (cycle : Cycle) (nowNs : Nat) : ℚ :=
  config.frameIntervalNs - ((nowNs : ℚ) - cycle.startedNs)

/-- The call that publishes a frame, with the clocks. -/
def publication (s : CaptureProcess config) (frame : NdArray) (timeNs : UInt64) :
    LatestFrameBuffer.Call :=
  .publish frame none none timeNs.toNat s.clockNs.toNat

/-- One step of the process. -/
def advance (s : CaptureProcess config) (answer : Answer) : Option (CaptureProcess config) :=
  match s.pc with
  | .starting => some { s with health := s.health.setState .starting, pc := .head }
  | .head => some { s with pc := if s.stopEvent then .stopping else .opening }
  | .opening => some { s with pc := if answer.isOpened then .opened else .refused }
  | .refused => some { s with health := s.health.recordFailure, pc := .disconnecting }
  | .opened =>
    some { s with policy := s.policy.reset, pc := .frames ⟨s.clockNs.toNat, 0⟩ }
  | .frames window =>
    some { s with pc := if s.stopEvent then .releasing none else .timing window }
  | .timing window => some { s with pc := .reading window s.clockNs.toNat }
  | .reading window startedNs =>
    match answer.frame with
    | none => some { s with pc := .unread }
    | some frame =>
      match actualSize frame with
      | none =>
        some { s with
          pc := .releasing (some
            s!"not enough values to unpack (expected 2, got {frame.shape.length})") }
      | some size => some { s with pc := .publishing ⟨window, startedNs, size⟩ frame }
  | .unread => some { s with health := s.health.recordFailure, pc := .releasing none }
  | .publishing cycle frame =>
    match s.buffer.publish frame none none answer.timeNs.toNat s.clockNs.toNat with
    | (.error _, buffer) => some { s with buffer, pc := .rejected }
    | (.ok _, buffer) => some { s with buffer, pc := .counting cycle }
  | .rejected => some { s with health := s.health.recordFailure, pc := .degrading }
  | .degrading => some { s with health := s.health.setState .degraded, pc := .releasing none }
  | .counting cycle =>
    let window : Window := { cycle.window with frames := cycle.window.frames + 1 }
    some { s with
      pc := .succeeding { cycle with window } (s.clockNs.toNat - window.startedNs) }
  | .succeeding cycle elapsedNs =>
    some { s with
      health := s.health.recordSuccess cycle.size.1 cycle.size.2
        (fps cycle.window.frames elapsedNs) s.clockNs answer.timeNs
      pc := .comparing cycle elapsedNs }
  | .comparing cycle elapsedNs =>
    some { s with
      health :=
        if cycle.size ≠ config.resolution then s.health.recordResolutionMismatch else s.health
      pc := .dropping cycle elapsedNs }
  | .dropping cycle elapsedNs =>
    some { s with pc := .reporting cycle elapsedNs s.buffer.dropped }
  | .reporting cycle elapsedNs count =>
    some { s with
      health := s.health.setDroppedFrames count
      pc := .windowing cycle elapsedNs }
  | .windowing cycle elapsedNs =>
    some { s with
      pc := .pacing (if 2000000000 ≤ elapsedNs then
        { cycle with window := ⟨s.clockNs.toNat, 0⟩ } else cycle) }
  | .pacing cycle =>
    let remainingNs := remainingNs config cycle s.clockNs.toNat
    some { s with
      pc := if 0 < remainingNs then .pause cycle.window remainingNs else .frames cycle.window }
  | .pause window remainingNs =>
    some { s with pc := .paused window (s.clockNs.toNat + remainingNs) }
  | .paused window deadlineNs =>
    if s.stopEvent ∨ deadlineNs ≤ s.clockNs.toNat then some { s with pc := .frames window }
    else none
  | .releasing none => some { s with pc := .broken }
  | .releasing (some error) => some { s with pc := .raised error }
  | .broken => some { s with pc := if s.stopEvent then .head else .disconnecting }
  | .disconnecting =>
    some { s with health := s.health.setState .disconnected, pc := .delaying }
  | .delaying =>
    match s.policy.nextDelaySeconds with
    | (.error error, policy) => some { s with policy, pc := .raised error }
    | (.ok delay, policy) => some { s with policy, pc := .wait (1000000000 * delay) }
  | .wait delayNs => some { s with pc := .waiting (s.clockNs.toNat + delayNs) }
  | .waiting deadlineNs =>
    if s.stopEvent ∨ deadlineNs ≤ s.clockNs.toNat then some { s with pc := .reconnecting }
    else none
  | .reconnecting => some { s with health := s.health.recordReconnect, pc := .head }
  | .stopping => some { s with health := s.health.setState .stopped, pc := .ended }
  | .ended | .raised _ => none

/-- One step of the system. -/
def step (s : CaptureProcess config) : Event → Option (CaptureProcess config)
  | .tick clockNs => if s.clockNs ≤ clockNs then some { s with clockNs } else none
  | .process answer => s.advance answer
  | .readLatest afterSequence maxAgeMs =>
    some { s with
      buffer := s.buffer.call (.readLatest afterSequence maxAgeMs s.clockNs.toNat) }
  | .stop => some { s with stopEvent := true }

/-- What a process did so far: the captures that did not open, that opened and that were released,
the cycles, each with the number of its capture, the reads without a frame, the frames that were
rejected, what was published and consumed, and the back-off waits that ended. -/
structure History where
  refused : Nat := 0
  opened : Nat := 0
  released : Nat := 0
  cycles : List (Nat × Nat) := []
  unread : Nat := 0
  rejected : Nat := 0
  register : FrameRegister := .empty
  waited : Nat := 0

namespace History

/-- What a step of the process adds. -/
def advance (h : History) (s : CaptureProcess config) (answer : Answer) : History :=
  match s.pc with
  | .opening =>
    if answer.isOpened then { h with opened := h.opened + 1 }
    else { h with refused := h.refused + 1 }
  | .timing _ => { h with cycles := h.cycles ++ [(h.opened, s.clockNs.toNat)] }
  | .reading _ _ =>
    match answer.frame with
    | none => { h with unread := h.unread + 1 }
    | some _ => h
  | .publishing _ frame =>
    let register := s.buffer.record h.register (s.publication frame answer.timeNs)
    match (s.buffer.publish frame none none answer.timeNs.toNat s.clockNs.toNat).1 with
    | .error _ => { h with register, rejected := h.rejected + 1 }
    | .ok _ => { h with register }
  | .releasing _ => { h with released := h.released + 1 }
  | .waiting deadlineNs =>
    if s.stopEvent ∨ deadlineNs ≤ s.clockNs.toNat then { h with waited := h.waited + 1 } else h
  | _ => h

/-- What a step from `s` adds. -/
def record (h : History) (s : CaptureProcess config) : Event → History
  | .process answer => h.advance s answer
  | .readLatest afterSequence maxAgeMs =>
    { h with
      register := s.buffer.record h.register
        (.readLatest afterSequence maxAgeMs s.clockNs.toNat) }
  | _ => h

end History

/-- The recorded steps, one constructor for each place where the process can be. -/
inductive RecordedStep (s : CaptureProcess config) (h : History) :
    CaptureProcess config → History → Prop
  | tick (clockNs) (later : s.clockNs ≤ clockNs) : RecordedStep s h { s with clockNs } h
  | readLatest (afterSequence maxAgeMs) :
    RecordedStep s h
      { s with
        buffer := s.buffer.call (.readLatest afterSequence maxAgeMs s.clockNs.toNat) }
      { h with
        register := s.buffer.record h.register
          (.readLatest afterSequence maxAgeMs s.clockNs.toNat) }
  | stop : RecordedStep s h { s with stopEvent := true } h
  | starting (pc : s.pc = .starting) :
    RecordedStep s h { s with health := s.health.setState .starting, pc := .head } h
  | head (pc : s.pc = .head) (goes : s.stopEvent = false) :
    RecordedStep s h { s with pc := .opening } h
  | leave (pc : s.pc = .head) (stopped : s.stopEvent = true) :
    RecordedStep s h { s with pc := .stopping } h
  | opening (pc : s.pc = .opening) :
    RecordedStep s h { s with pc := .opened } { h with opened := h.opened + 1 }
  | notOpening (pc : s.pc = .opening) :
    RecordedStep s h { s with pc := .refused } { h with refused := h.refused + 1 }
  | refused (pc : s.pc = .refused) :
    RecordedStep s h { s with health := s.health.recordFailure, pc := .disconnecting } h
  | opened (pc : s.pc = .opened) :
    RecordedStep s h
      { s with policy := s.policy.reset, pc := .frames ⟨s.clockNs.toNat, 0⟩ } h
  | frames (window) (pc : s.pc = .frames window) (goes : s.stopEvent = false) :
    RecordedStep s h { s with pc := .timing window } h
  | leaveFrames (window) (pc : s.pc = .frames window) (stopped : s.stopEvent = true) :
    RecordedStep s h { s with pc := .releasing none } h
  | timing (window) (pc : s.pc = .timing window) :
    RecordedStep s h { s with pc := .reading window s.clockNs.toNat }
      { h with cycles := h.cycles ++ [(h.opened, s.clockNs.toNat)] }
  | readNothing (window startedNs) (pc : s.pc = .reading window startedNs) :
    RecordedStep s h { s with pc := .unread } { h with unread := h.unread + 1 }
  | readShapeless (window startedNs error) (pc : s.pc = .reading window startedNs) :
    RecordedStep s h { s with pc := .releasing (some error) } h
  | read (window startedNs frame size) (pc : s.pc = .reading window startedNs)
      (sized : actualSize frame = some size) :
    RecordedStep s h { s with pc := .publishing ⟨window, startedNs, size⟩ frame } h
  | unread (pc : s.pc = .unread) :
    RecordedStep s h { s with health := s.health.recordFailure, pc := .releasing none } h
  | publish (cycle frame timeNs sequence buffer) (pc : s.pc = .publishing cycle frame)
      (published : s.buffer.publish frame none none (timeNs : UInt64).toNat s.clockNs.toNat =
        (.ok sequence, buffer)) :
    RecordedStep s h { s with buffer, pc := .counting cycle }
      { h with register := s.buffer.record h.register (s.publication frame timeNs) }
  | reject (cycle frame timeNs error buffer) (pc : s.pc = .publishing cycle frame)
      (published : s.buffer.publish frame none none (timeNs : UInt64).toNat s.clockNs.toNat =
        (.error error, buffer)) :
    RecordedStep s h { s with buffer, pc := .rejected }
      { h with
        register := s.buffer.record h.register (s.publication frame timeNs)
        rejected := h.rejected + 1 }
  | rejected (pc : s.pc = .rejected) :
    RecordedStep s h { s with health := s.health.recordFailure, pc := .degrading } h
  | degrading (pc : s.pc = .degrading) :
    RecordedStep s h { s with health := s.health.setState .degraded, pc := .releasing none } h
  | counting (cycle window elapsedNs) (pc : s.pc = .counting cycle) :
    RecordedStep s h { s with pc := .succeeding { cycle with window } elapsedNs } h
  | succeeding (cycle elapsedNs fps timeNs) (pc : s.pc = .succeeding cycle elapsedNs) :
    RecordedStep s h
      { s with
        health := s.health.recordSuccess cycle.size.1 cycle.size.2 fps s.clockNs timeNs
        pc := .comparing cycle elapsedNs } h
  | comparing (cycle elapsedNs) (pc : s.pc = .comparing cycle elapsedNs) :
    RecordedStep s h
      { s with
        health :=
          if cycle.size ≠ config.resolution then s.health.recordResolutionMismatch else s.health
        pc := .dropping cycle elapsedNs } h
  | dropping (cycle elapsedNs) (pc : s.pc = .dropping cycle elapsedNs) :
    RecordedStep s h { s with pc := .reporting cycle elapsedNs s.buffer.dropped } h
  | reporting (cycle elapsedNs count) (pc : s.pc = .reporting cycle elapsedNs count) :
    RecordedStep s h
      { s with health := s.health.setDroppedFrames count, pc := .windowing cycle elapsedNs } h
  | windowing (cycle elapsedNs window) (pc : s.pc = .windowing cycle elapsedNs) :
    RecordedStep s h { s with pc := .pacing { cycle with window } } h
  | pacing (cycle) (pc : s.pc = .pacing cycle)
      (early : 0 < remainingNs config cycle s.clockNs.toNat) :
    RecordedStep s h
      { s with pc := .pause cycle.window (remainingNs config cycle s.clockNs.toNat) } h
  | late (cycle) (pc : s.pc = .pacing cycle)
      (late : remainingNs config cycle s.clockNs.toNat ≤ 0) :
    RecordedStep s h { s with pc := .frames cycle.window } h
  | pause (window remainingNs) (pc : s.pc = .pause window remainingNs) :
    RecordedStep s h { s with pc := .paused window (s.clockNs.toNat + remainingNs) } h
  | paused (window deadlineNs) (pc : s.pc = .paused window deadlineNs)
      (woken : s.stopEvent = true ∨ deadlineNs ≤ s.clockNs.toNat) :
    RecordedStep s h { s with pc := .frames window } h
  | releasing (pc : s.pc = .releasing none) :
    RecordedStep s h { s with pc := .broken } { h with released := h.released + 1 }
  | raising (error) (pc : s.pc = .releasing (some error)) :
    RecordedStep s h { s with pc := .raised error } { h with released := h.released + 1 }
  | broken (pc : s.pc = .broken) (goes : s.stopEvent = false) :
    RecordedStep s h { s with pc := .disconnecting } h
  | leaveBroken (pc : s.pc = .broken) (stopped : s.stopEvent = true) :
    RecordedStep s h { s with pc := .head } h
  | disconnecting (pc : s.pc = .disconnecting) :
    RecordedStep s h { s with health := s.health.setState .disconnected, pc := .delaying } h
  | overflow (error policy) (pc : s.pc = .delaying)
      (delay : s.policy.nextDelaySeconds = (.error error, policy)) :
    RecordedStep s h { s with policy, pc := .raised error } h
  | delaying (delay policy) (pc : s.pc = .delaying)
      (delays : s.policy.nextDelaySeconds = (.ok delay, policy)) :
    RecordedStep s h { s with policy, pc := .wait (1000000000 * delay) } h
  | wait (delayNs) (pc : s.pc = .wait delayNs) :
    RecordedStep s h { s with pc := .waiting (s.clockNs.toNat + delayNs) } h
  | waiting (deadlineNs) (pc : s.pc = .waiting deadlineNs)
      (woken : s.stopEvent = true ∨ deadlineNs ≤ s.clockNs.toNat) :
    RecordedStep s h { s with pc := .reconnecting } { h with waited := h.waited + 1 }
  | reconnecting (pc : s.pc = .reconnecting) :
    RecordedStep s h { s with health := s.health.recordReconnect, pc := .head } h
  | stopping (pc : s.pc = .stopping) :
    RecordedStep s h { s with health := s.health.setState .stopped, pc := .ended } h

section Recorded
variable {s t : CaptureProcess config} (h : History)

theorem advance_recorded {answer : Answer} (hstep : s.advance answer = some t) :
    RecordedStep s h t (h.advance s answer) := by
  unfold advance at hstep
  unfold History.advance
  cases hpc : s.pc with
  | starting =>
    simp only [hpc, Option.some.injEq] at hstep
    subst hstep
    exact .starting hpc
  | head =>
    simp only [hpc, Option.some.injEq] at hstep
    subst hstep
    by_cases hstop : s.stopEvent = true
    · rw [if_pos hstop]
      exact .leave hpc hstop
    · rw [if_neg hstop]
      exact .head hpc (Bool.eq_false_iff.mpr hstop)
  | opening =>
    simp only [hpc, Option.some.injEq] at hstep
    subst hstep
    by_cases hopened : answer.isOpened = true
    · simp only [if_pos hopened]
      exact .opening hpc
    · simp only [if_neg hopened]
      exact .notOpening hpc
  | refused =>
    simp only [hpc, Option.some.injEq] at hstep
    subst hstep
    exact .refused hpc
  | opened =>
    simp only [hpc, Option.some.injEq] at hstep
    subst hstep
    exact .opened hpc
  | frames window =>
    simp only [hpc, Option.some.injEq] at hstep
    subst hstep
    by_cases hstop : s.stopEvent = true
    · rw [if_pos hstop]
      exact .leaveFrames window hpc hstop
    · rw [if_neg hstop]
      exact .frames window hpc (Bool.eq_false_iff.mpr hstop)
  | timing window =>
    simp only [hpc, Option.some.injEq] at hstep
    subst hstep
    exact .timing window hpc
  | reading window startedNs =>
    simp only [hpc] at hstep
    cases hframe : answer.frame with
    | none =>
      simp only [hframe, Option.some.injEq] at hstep
      subst hstep
      exact .readNothing window startedNs hpc
    | some frame =>
      cases hsize : actualSize frame with
      | none =>
        simp only [hframe, hsize, Option.some.injEq] at hstep
        subst hstep
        exact .readShapeless window startedNs _ hpc
      | some size =>
        simp only [hframe, hsize, Option.some.injEq] at hstep
        subst hstep
        exact .read window startedNs frame size hpc hsize
  | unread =>
    simp only [hpc, Option.some.injEq] at hstep
    subst hstep
    exact .unread hpc
  | publishing cycle frame =>
    simp only [hpc] at hstep
    cases hpublish : s.buffer.publish frame none none answer.timeNs.toNat s.clockNs.toNat with
    | mk result buffer =>
      cases result with
      | error error =>
        simp only [hpublish, Option.some.injEq] at hstep ⊢
        subst hstep
        exact .reject cycle frame answer.timeNs error buffer hpc hpublish
      | ok sequence =>
        simp only [hpublish, Option.some.injEq] at hstep ⊢
        subst hstep
        exact .publish cycle frame answer.timeNs sequence buffer hpc hpublish
  | rejected =>
    simp only [hpc, Option.some.injEq] at hstep
    subst hstep
    exact .rejected hpc
  | degrading =>
    simp only [hpc, Option.some.injEq] at hstep
    subst hstep
    exact .degrading hpc
  | counting cycle =>
    simp only [hpc, Option.some.injEq] at hstep
    subst hstep
    exact .counting cycle _ _ hpc
  | succeeding cycle elapsedNs =>
    simp only [hpc, Option.some.injEq] at hstep
    subst hstep
    exact .succeeding cycle elapsedNs _ _ hpc
  | comparing cycle elapsedNs =>
    simp only [hpc, Option.some.injEq] at hstep
    subst hstep
    exact .comparing cycle elapsedNs hpc
  | dropping cycle elapsedNs =>
    simp only [hpc, Option.some.injEq] at hstep
    subst hstep
    exact .dropping cycle elapsedNs hpc
  | reporting cycle elapsedNs count =>
    simp only [hpc, Option.some.injEq] at hstep
    subst hstep
    exact .reporting cycle elapsedNs count hpc
  | windowing cycle elapsedNs =>
    simp only [hpc, Option.some.injEq] at hstep
    subst hstep
    split
    · exact .windowing cycle elapsedNs _ hpc
    · exact .windowing cycle elapsedNs cycle.window hpc
  | pacing cycle =>
    simp only [hpc, Option.some.injEq] at hstep
    subst hstep
    split
    · next hearly => exact .pacing cycle hpc hearly
    · next hlate => exact .late cycle hpc (not_lt.mp hlate)
  | pause window remainingNs =>
    simp only [hpc, Option.some.injEq] at hstep
    subst hstep
    exact .pause window remainingNs hpc
  | paused window deadlineNs =>
    simp only [hpc] at hstep
    split at hstep
    · next hover =>
      obtain rfl := Option.some.inj hstep
      exact .paused window deadlineNs hpc hover
    · cases hstep
  | releasing error =>
    cases error with
    | none =>
      simp only [hpc, Option.some.injEq] at hstep
      subst hstep
      exact .releasing hpc
    | some error =>
      simp only [hpc, Option.some.injEq] at hstep
      subst hstep
      exact .raising error hpc
  | broken =>
    simp only [hpc, Option.some.injEq] at hstep
    subst hstep
    by_cases hstop : s.stopEvent = true
    · rw [if_pos hstop]
      exact .leaveBroken hpc hstop
    · rw [if_neg hstop]
      exact .broken hpc (Bool.eq_false_iff.mpr hstop)
  | disconnecting =>
    simp only [hpc, Option.some.injEq] at hstep
    subst hstep
    exact .disconnecting hpc
  | delaying =>
    simp only [hpc] at hstep
    cases hdelay : s.policy.nextDelaySeconds with
    | mk result policy =>
      cases result with
      | error error =>
        simp only [hdelay, Option.some.injEq] at hstep
        subst hstep
        exact .overflow error policy hpc hdelay
      | ok delay =>
        simp only [hdelay, Option.some.injEq] at hstep
        subst hstep
        exact .delaying delay policy hpc hdelay
  | wait delayNs =>
    simp only [hpc, Option.some.injEq] at hstep
    subst hstep
    exact .wait delayNs hpc
  | waiting deadlineNs =>
    simp only [hpc] at hstep
    split at hstep
    · next hover =>
      obtain rfl := Option.some.inj hstep
      simp only [if_pos hover]
      exact .waiting deadlineNs hpc hover
    · cases hstep
  | reconnecting =>
    simp only [hpc, Option.some.injEq] at hstep
    subst hstep
    exact .reconnecting hpc
  | stopping =>
    simp only [hpc, Option.some.injEq] at hstep
    subst hstep
    exact .stopping hpc
  | ended => simp [hpc] at hstep
  | raised error => simp [hpc] at hstep

theorem step_recorded {e : Event} (hstep : s.step e = some t) :
    RecordedStep s h t (h.record s e) := by
  cases e with
  | tick clockNs =>
    simp only [step] at hstep
    split at hstep
    · next hlater =>
      obtain rfl := Option.some.inj hstep
      exact .tick clockNs hlater
    · cases hstep
  | process answer => exact advance_recorded h hstep
  | readLatest afterSequence maxAgeMs =>
    obtain rfl := Option.some.inj hstep
    exact .readLatest afterSequence maxAgeMs
  | stop =>
    obtain rfl := Option.some.inj hstep
    exact .stop

end Recorded

/-- The process and its history after a run. -/
def observe (config : CaptureConfig) (clockNs : UInt64) (events : List Event) :
    Transition.Recorded (CaptureProcess config) History :=
  Transition.exec (Transition.recorded step History.record) ⟨{ clockNs }, {}⟩ events

end CaptureProcess
end EdgeSafety
