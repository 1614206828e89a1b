import Mathlib.Data.Fintype.Basic

/-!
# Locks shared with capture processes

Every method of `LatestFrameBuffer` and `CameraHealth` is one section `with self._lock`, entered by
the capture process of the camera and by the threads of the runtime: the scheduler, the watchdog,
the main thread. A section is taken apart here into acquiring the lock, writing, and releasing it.
`CaptureWorker.stop` terminates a process that is still alive after its timeout, wherever it is.
-/

namespace EdgeSafety.SharedLocks

/-- The locks: `LatestFrameBuffer._lock` and `CameraHealth._lock` of each camera. -/
inductive Lock (n : Nat)
  | buffer (camera : Fin n)
  | health (camera : Fin n)
  deriving DecidableEq

/-- The methods that take one. -/
inductive Method
  | publish
  | readLatest
  | sequence
  | staleFrames
  | droppedFrames
  | setState
  | recordSuccess
  | recordFailure
  | recordReconnect
  | recordResolutionMismatch
  | setDroppedFrames
  | snapshot
  deriving DecidableEq

/-- The lock a method takes. -/
def Method.lock {n : Nat} (camera : Fin n) : Method → Lock n
  | .publish | .readLatest | .sequence | .staleFrames | .droppedFrames => .buffer camera
  | _ => .health camera

/-- The capture process of a camera, or a thread of the runtime. -/
inductive Party (n m : Nat)
  | capture (camera : Fin n)
  | runtime (thread : Fin m)
  deriving DecidableEq

/-- The methods `_capture_process_main` calls on its own camera, and those the runtime calls. -/
def Party.Calls {n m : Nat} (camera : Fin n) : Party n m → Method → Prop
  | .capture own, .publish | .capture own, .droppedFrames | .capture own, .setState
  | .capture own, .recordSuccess | .capture own, .recordFailure
  | .capture own, .recordReconnect | .capture own, .recordResolutionMismatch
  | .capture own, .setDroppedFrames => own = camera
  | .runtime _, .readLatest | .runtime _, .sequence | .runtime _, .staleFrames
  | .runtime _, .snapshot | .runtime _, .setState | .runtime _, .recordReconnect => True
  | _, _ => False

/-- What a party does next in the section it is in. -/
inductive Stage
  | acquire
  | write
  | release
  deriving DecidableEq

/-- A method being called. -/
structure Call (n : Nat) where
  camera : Fin n
  method : Method
  stage : Stage
  deriving DecidableEq

/-- The lock the call is about. -/
def Call.lock {n : Nat} (call : Call n) : Lock n := call.method.lock call.camera

/-- The locks, the parties and the stop events. A capture process that is started again is a new
incarnation of the party; a lock remembers which one took it. -/
structure State (n m : Nat) where
  holder : Lock n → Option (Party n m × Nat)
  call : Party n m → Option (Call n)
  incarnation : Party n m → Nat
  alive : Party n m → Bool
  stopEvent : Fin n → Bool
  terminated : List (Party n m × Nat)

/-- What happens next. -/
inductive Event (n m : Nat)
  /-- A party calls a method. -/
  | begin (party : Party n m) (camera : Fin n) (method : Method)
  /-- A party goes on with the section it is in. -/
  | advance (party : Party n m)
  /-- A capture process returns. -/
  | exit (camera : Fin n)
  /-- `self._stop_event.set()` in `CaptureWorker.stop`. -/
  | setStopEvent (camera : Fin n)
  /-- `self._process.terminate()` in `CaptureWorker.stop`. -/
  | terminate (camera : Fin n)
  /-- `CaptureWorker.start`. -/
  | start (camera : Fin n)

variable {n m : Nat}

instance (camera : Fin n) (party : Party n m) (method : Method) :
    Decidable (party.Calls camera method) := by
  unfold Party.Calls
  split <;> infer_instance

namespace State

/-- No capture process has been started, and the runtime's threads are outside all sections. -/
def init (n m : Nat) : State n m where
  holder := fun _ => none
  call := fun _ => none
  incarnation := fun _ => 0
  alive
    | .capture _ => false
    | .runtime _ => true
  stopEvent := fun _ => false
  terminated := []

/-- One step of a party within a section. -/
def advance (s : State n m) (party : Party n m) : Option (State n m) :=
  match s.call party with
  | none => none
  | some call =>
    match call.stage with
    | .acquire =>
      if s.holder call.lock = none then
        some { s with
          holder := Function.update s.holder call.lock (some (party, s.incarnation party))
          call := Function.update s.call party (some { call with stage := .write }) }
      else none
    | .write =>
      some { s with call := Function.update s.call party (some { call with stage := .release }) }
    | .release =>
      some { s with
        holder := Function.update s.holder call.lock none
        call := Function.update s.call party none }

/-- One step of the system. -/
def step (s : State n m) : Event n m → Option (State n m)
  | .begin party camera method =>
    if s.alive party ∧ s.call party = none ∧ party.Calls camera method then
      some { s with call := Function.update s.call party (some ⟨camera, method, .acquire⟩) }
    else none
  | .advance party => s.advance party
  | .exit camera =>
    if s.alive (.capture camera) ∧ s.call (.capture camera) = none then
      some { s with alive := Function.update s.alive (.capture camera) false }
    else none
  | .setStopEvent camera =>
    some { s with stopEvent := Function.update s.stopEvent camera true }
  | .terminate camera =>
    if s.alive (.capture camera) ∧ s.stopEvent camera then
      some { s with
        alive := Function.update s.alive (.capture camera) false
        call := Function.update s.call (.capture camera) none
        terminated := s.terminated ++ [(.capture camera, s.incarnation (.capture camera))] }
    else none
  | .start camera =>
    if s.alive (.capture camera) then none
    else some { s with
      alive := Function.update s.alive (.capture camera) true
      incarnation := Function.update s.incarnation (.capture camera)
        (s.incarnation (.capture camera) + 1)
      stopEvent := Function.update s.stopEvent camera false }

end State

end EdgeSafety.SharedLocks
