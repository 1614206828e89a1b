import Mathlib.Data.Fintype.Basic
import EdgeSafety.Capture.CameraHealth
import EdgeSafety.Shared.Configuration

/-!
# The edge supervisor

`EdgeSupervisor` of `supervisor.py` with the workers of `capture/worker.py`: the main thread, which
starts the workers and the watchdog and later stops them, and the watchdog thread. A thread is the
list of what it still has to do; one step performs the first action, which makes at most one access
to what is shared (an event, a process, the health of a camera, the clock) and may put the body of
the method it calls in front of the rest. Between two steps the clock advances and the capture
processes report their health or exit.

A wait with a timeout ends when what it waits for has happened or the clock has reached its
deadline. A terminated process is dead.
-/

namespace EdgeSafety

/-- What an `EdgeSupervisor` is constructed with, for `n` enabled cameras. -/
structure SupervisorSetup (n : Nat) where
  reconnect : Fin n → ReconnectConfig
  watchdogIntervalNs : Nat := 1000000000

namespace EdgeSupervisor

/-- `CaptureWorker._process`: no process yet, a process that is not started, a running one, or one
that has ended. -/
inductive Process
  | absent
  | created
  | alive
  | dead
  deriving DecidableEq

/-- What a thread does next. -/
inductive Action (n : Nat)
  /-- `self._stop.clear()`. -/
  | clearStop
  /-- `self._stop.set()`. -/
  | setStop
  /-- `self._watchdog.start()`. -/
  | startWatchdog
  /-- `self._watchdog.join(timeout=2.0)`: from the call on, and until it returns. -/
  | joinWatchdog
  | joiningWatchdog (deadlineNs : Nat)
  /-- `while not self._stop.wait(self._watchdog_interval)`: from the call on, and until it
  returns. -/
  | loop
  | waiting (deadlineNs : Nat)
  /-- `now_ns = time.monotonic_ns()`. -/
  | tick
  /-- `snapshot = runtime.health.snapshot()` in the tick of `nowNs`. -/
  | visit (nowNs : Nat) (camera : Fin n)
  /-- The rest of the body of the loop over the cameras. -/
  | check (nowNs : Nat) (camera : Fin n) (snapshot : CameraHealthSnapshot)
  /-- `CaptureWorker.start`, to the test of `is_alive()`. -/
  | start (camera : Fin n)
  /-- `self._stop_event.clear()`. -/
  | clearStopEvent (camera : Fin n)
  /-- `self._process = self.context.Process(…)`. -/
  | create (camera : Fin n)
  /-- `self._process.start()`. -/
  | spawn (camera : Fin n)
  /-- `self.started_monotonic_ns = time.monotonic_ns()`. -/
  | stamp (camera : Fin n)
  /-- `CaptureWorker.stop`, to the test of `_process`. -/
  | stop (camera : Fin n)
  /-- `self._stop_event.set()`. -/
  | setStopEvent (camera : Fin n)
  /-- `self._process.join(timeout)`: from the call on, and until it returns. -/
  | join (camera : Fin n) (timeoutNs : Nat)
  | joining (camera : Fin n) (deadlineNs : Nat)
  /-- `if self._process.is_alive()` in `CaptureWorker.stop`. -/
  | ifAlive (camera : Fin n)
  /-- `self._process.terminate()`. -/
  | terminate (camera : Fin n)
  /-- `self.health.set_state(CameraState.STOPPED)`. -/
  | setStopped (camera : Fin n)
  /-- `self.health.record_reconnect()`. -/
  | recordReconnect (camera : Fin n)
  /-- The thread ended with an exception. -/
  | raised
  deriving DecidableEq

/-- The two threads. -/
inductive Thread
  | main
  | watchdog
  deriving DecidableEq

/-- The supervisor and its cameras. -/
structure State (n : Nat) where
  clockNs : UInt64
  stop : Bool
  health : Fin n → CameraHealth
  process : Fin n → Process
  stopEvent : Fin n → Bool
  startedMonotonicNs : Fin n → Nat
  todo : Thread → List (Action n)

variable {n : Nat}

/-- `EdgeSupervisor.start` followed by `EdgeSupervisor.stop`. -/
def mainProgram (n : Nat) : List (Action n) :=
  .clearStop :: (List.finRange n).map .start ++
    (.startWatchdog :: .setStop :: .joinWatchdog :: (List.finRange n).map .stop)

/-- `CaptureWorker.restart`. -/
def restart (camera : Fin n) : List (Action n) :=
  [.stop camera, .recordReconnect camera, .start camera]

/-- What performing an action leads to. -/
inductive Performed (n : Nat)
  /-- The action cannot be performed yet. -/
  | blocked
  /-- It raises. -/
  | raised
  /-- It leaves `s`, and `next` is to be done before the rest of the thread. -/
  | done (s : State n) (next : List (Action n))

namespace State

/-- `EdgeSupervisor.__init__`, and the main thread about to call `start`. -/
def init (n : Nat) (clockNs : UInt64) : State n where
  clockNs := clockNs
  stop := false
  health := fun _ => {}
  process := fun _ => .absent
  stopEvent := fun _ => false
  startedMonotonicNs := fun _ => 0
  todo
    | .main => mainProgram n
    | .watchdog => []

/-- The thread has ended, or was not started. -/
def Ended (s : State n) (thread : Thread) : Prop :=
  s.todo thread = [] ∨ s.todo thread = [.raised]

instance (s : State n) (thread : Thread) : Decidable (s.Ended thread) :=
  inferInstanceAs (Decidable (_ ∨ _))

/-- The clock has reached the deadline. -/
def Expired (s : State n) (deadlineNs : Nat) : Prop := deadlineNs ≤ s.clockNs.toNat

instance (s : State n) (deadlineNs : Nat) : Decidable (s.Expired deadlineNs) :=
  inferInstanceAs (Decidable (_ ≤ _))

/-- `reference_ns` of the watchdog. -/
def referenceNs (s : State n) (camera : Fin n) (snapshot : CameraHealthSnapshot) : Nat :=
  if snapshot.lastSuccessMonotonicNs ≠ 0 then snapshot.lastSuccessMonotonicNs
  else s.startedMonotonicNs camera

/-- `timeout_ns` of the watchdog. -/
def timeoutNs (setup : SupervisorSetup n) (camera : Fin n) : Nat :=
  (setup.reconnect camera).readTimeoutMs * 1000000

/-- The watchdog restarts the worker of the camera it checks. -/
def Restarts (setup : SupervisorSetup n) (s : State n) (nowNs : Nat) (camera : Fin n)
    (snapshot : CameraHealthSnapshot) : Prop :=
  s.process camera ≠ .alive ∨
    snapshot.state ≠ .disconnected ∧ s.referenceNs camera snapshot ≠ 0 ∧
      (nowNs : Int) - s.referenceNs camera snapshot > timeoutNs setup camera

instance (setup : SupervisorSetup n) (s : State n) (nowNs : Nat) (camera : Fin n)
    (snapshot : CameraHealthSnapshot) : Decidable (Restarts setup s nowNs camera snapshot) :=
  inferInstanceAs (Decidable (_ ∨ _ ∧ _ ∧ _))

/-- A new state of the process of a camera. -/
def setProcess (s : State n) (camera : Fin n) (process : Process) : State n :=
  { s with process := Function.update s.process camera process }

/-- A new state of the stop event of a camera. -/
def setStopEvent (s : State n) (camera : Fin n) (value : Bool) : State n :=
  { s with stopEvent := Function.update s.stopEvent camera value }

/-- A new health record of a camera. -/
def setHealth (s : State n) (camera : Fin n) (health : CameraHealth) : State n :=
  { s with health := Function.update s.health camera health }

/-- One action of a thread. -/
def perform (setup : SupervisorSetup n) (s : State n) : Action n → Performed n
  | .clearStop => .done { s with stop := false } []
  | .setStop => .done { s with stop := true } []
  | .startWatchdog => .done { s with todo := Function.update s.todo .watchdog [.loop] } []
  | .joinWatchdog => .done s [.joiningWatchdog (s.clockNs.toNat + 2000000000)]
  | .joiningWatchdog deadlineNs =>
    if s.Ended .watchdog ∨ s.Expired deadlineNs then .done s [] else .blocked
  | .loop => .done s [.waiting (s.clockNs.toNat + setup.watchdogIntervalNs)]
  | .waiting deadlineNs =>
    if s.stop then .done s []
    else if s.Expired deadlineNs then .done s [.tick, .loop]
    else .blocked
  | .tick => .done s ((List.finRange n).map (.visit s.clockNs.toNat))
  | .visit nowNs camera => .done s [.check nowNs camera (s.health camera).snapshot]
  | .check nowNs camera snapshot =>
    .done s (if Restarts setup s nowNs camera snapshot then restart camera else [])
  | .start camera =>
    .done s (if s.process camera = .alive then []
      else [.clearStopEvent camera, .create camera, .spawn camera, .stamp camera])
  | .clearStopEvent camera => .done (s.setStopEvent camera false) []
  | .create camera => .done (s.setProcess camera .created) []
  | .spawn camera => .done (s.setProcess camera .alive) []
  | .stamp camera =>
    .done { s with
      startedMonotonicNs :=
        Function.update s.startedMonotonicNs camera s.clockNs.toNat } []
  | .stop camera =>
    .done s (if s.process camera = .absent then []
      else [.setStopEvent camera, .join camera 3000000000, .ifAlive camera, .setStopped camera])
  | .setStopEvent camera => .done (s.setStopEvent camera true) []
  | .join camera timeoutNs =>
    -- Only a process that was started can be joined.
    if s.process camera = .created then .raised
    else .done s [.joining camera (s.clockNs.toNat + timeoutNs)]
  | .joining camera deadlineNs =>
    if s.process camera ≠ .alive ∨ s.Expired deadlineNs then .done s [] else .blocked
  | .ifAlive camera =>
    .done s (if s.process camera = .alive then [.terminate camera, .join camera 1000000000]
      else [])
  | .terminate camera =>
    if s.process camera = .created then .raised else .done (s.setProcess camera .dead) []
  | .setStopped camera => .done (s.setHealth camera ((s.health camera).setState .stopped)) []
  | .recordReconnect camera => .done (s.setHealth camera (s.health camera).recordReconnect) []
  | .raised => .blocked

/-- The first action of a thread is performed. -/
def stepThread (setup : SupervisorSetup n) (s : State n) (thread : Thread) : Option (State n) :=
  match s.todo thread with
  | [] => none
  | action :: rest =>
    match s.perform setup action with
    | .blocked => none
    | .raised => some { s with todo := Function.update s.todo thread [.raised] }
    | .done t next => some { t with todo := Function.update t.todo thread (next ++ rest) }

end State

/-- What performing an action leads to, if it is performed. -/
def Performed.All (P : State n → List (Action n) → Prop) : Performed n → Prop
  | .blocked | .raised => True
  | .done s next => P s next

/-- What a step of a thread does: its first action raises or is performed. -/
theorem stepThread_cases {setup : SupervisorSetup n} {s t : State n} {thread : Thread}
    (h : s.stepThread setup thread = some t) :
    ∃ action rest, s.todo thread = action :: rest ∧
      (s.perform setup action = .raised ∧
          t = { s with todo := Function.update s.todo thread [.raised] } ∨
        ∃ u next, s.perform setup action = .done u next ∧
          t = { u with todo := Function.update u.todo thread (next ++ rest) }) := by
  unfold State.stepThread at h
  split at h
  · cases h
  · next action rest htodo =>
    refine ⟨action, rest, htodo, ?_⟩
    split at h
    · cases h
    · next hraised => exact Or.inl ⟨hraised, (Option.some.inj h).symm⟩
    · next u next hdone => exact Or.inr ⟨u, next, hdone, (Option.some.inj h).symm⟩

/-- What happens next. -/
inductive Event (n : Nat)
  /-- The clock advances. -/
  | tick (clockNs : UInt64)
  /-- A thread takes a step. -/
  | thread (thread : Thread)
  /-- The capture process of a camera reports. -/
  | capture (camera : Fin n) (call : CameraHealth.Call)
  /-- The capture process of a camera ends. -/
  | exit (camera : Fin n)

/-- So many steps of a thread in a row. -/
def turns (thread : Thread) (count : Nat) : List (Event n) :=
  List.replicate count (.thread thread)

/-- One step of the system. -/
def State.step (setup : SupervisorSetup n) (s : State n) : Event n → Option (State n)
  | .tick clockNs => if s.clockNs ≤ clockNs then some { s with clockNs := clockNs } else none
  | .thread thread => s.stepThread setup thread
  | .capture camera call =>
    if s.process camera = .alive then
      some (s.setHealth camera ((s.health camera).call s.clockNs call))
    else none
  | .exit camera => if s.process camera = .alive then some (s.setProcess camera .dead) else none

end EdgeSupervisor
end EdgeSafety
