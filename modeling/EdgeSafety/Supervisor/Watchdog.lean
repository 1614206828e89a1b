import EdgeSafety.Lib.Transition
import EdgeSafety.Supervisor.Threads

/-!
# The time a capture process is given

The watchdog restarts a running worker when its reference time is more than the read timeout ago.
The reference is the last success of the camera, which is kept in its health and survives a
restart; only a camera that never delivered a frame is judged by the start of its process. A run
gives every process its time exactly when no check of a young process meets such an old success
(`full_timeout_iff`).
-/

namespace EdgeSafety.EdgeSupervisor

variable {n : Nat}

/-- A restart the watchdog decided on, with what it saw of the worker. -/
structure Restarted (n : Nat) where
  camera : Fin n
  nowNs : Nat
  alive : Bool
  startedMonotonicNs : Nat

/-- The process was started no longer than the read timeout before `nowNs`. -/
def Young (setup : SupervisorSetup n) (camera : Fin n) (nowNs startedMonotonicNs : Nat) : Prop :=
  (nowNs : Int) - startedMonotonicNs ≤ State.timeoutNs setup camera

instance (setup : SupervisorSetup n) (camera : Fin n) (nowNs startedMonotonicNs : Nat) :
    Decidable (Young setup camera nowNs startedMonotonicNs) :=
  inferInstanceAs (Decidable (_ ≤ _))

/-- The supervisor with the restarts decided so far. -/
abbrev Observed (n : Nat) := Transition.Recorded (State n) (List (Restarted n))

namespace Observed

/-- The restart that a step decides on. -/
def decision (setup : SupervisorSetup n) (s : State n) : Event n → List (Restarted n)
  | .thread thread =>
    match s.todo thread with
    | .check nowNs camera snapshot :: _ =>
      if State.Restarts setup s nowNs camera snapshot then
        [⟨camera, nowNs, s.process camera = .alive, s.startedMonotonicNs camera⟩]
      else []
    | _ => []
  | _ => []

/-- One step, with the restart it decides on. -/
def step (setup : SupervisorSetup n) : Observed n → Event n → Option (Observed n) :=
  Transition.recorded (State.step setup) fun restarts s e => restarts ++ decision setup s e

/-- A new supervisor. -/
def init (n : Nat) (clockNs : UInt64) : Observed n := ⟨.init n clockNs, []⟩

end Observed

/-- No restart hit a running process before it had its full read timeout. -/
def FullTimeout (setup : SupervisorSetup n) (o : Observed n) : Prop :=
  ∀ r ∈ o.history, r.alive → ¬ Young setup r.camera r.nowNs r.startedMonotonicNs

instance (setup : SupervisorSetup n) (o : Observed n) : Decidable (FullTimeout setup o) :=
  inferInstanceAs (Decidable (∀ r ∈ o.history, _))

/-- If the step checks a running process that is young, its camera is disconnected, never had a
success, or had the last one within the read timeout. -/
def NoOldSuccess (setup : SupervisorSetup n) (o : Observed n) : Event n → Prop
  | .thread thread =>
    match o.state.todo thread with
    | .check nowNs camera snapshot :: _ =>
      o.state.process camera = .alive →
        Young setup camera nowNs (o.state.startedMonotonicNs camera) →
          snapshot.state = .disconnected ∨ snapshot.lastSuccessMonotonicNs = 0 ∨
            (nowNs : Int) - snapshot.lastSuccessMonotonicNs ≤ State.timeoutNs setup camera
    | _ => True
  | _ => True

section Check
variable {setup : SupervisorSetup n} {s : State n} {nowNs : Nat} {camera : Fin n}
  {snapshot : CameraHealthSnapshot}

/-- A young process is restarted just when its camera is connected and has an old success. -/
theorem restarts_young_iff (halive : s.process camera = .alive)
    (hyoung : Young setup camera nowNs (s.startedMonotonicNs camera)) :
    State.Restarts setup s nowNs camera snapshot ↔
      ¬ (snapshot.state = .disconnected ∨ snapshot.lastSuccessMonotonicNs = 0 ∨
        (nowNs : Int) - snapshot.lastSuccessMonotonicNs ≤ State.timeoutNs setup camera) := by
  unfold Young at hyoung
  unfold State.Restarts State.referenceNs
  by_cases hlast : snapshot.lastSuccessMonotonicNs = 0
  · simp only [halive, hlast, ne_eq, not_true_eq_false, if_false, false_or, true_or, or_true,
      iff_false, not_and, not_lt]
    intro _ _
    exact hyoung
  · simp only [halive, hlast, ne_eq, not_true_eq_false, not_false_eq_true, if_true, false_or,
      true_and, not_or, not_le, gt_iff_lt]

end Check

theorem decision_fullTimeout {setup : SupervisorSetup n} {o : Observed n} {e : Event n}
    (hok : NoOldSuccess setup o e) :
    ∀ r ∈ Observed.decision setup o.state e, r.alive →
      ¬ Young setup r.camera r.nowNs r.startedMonotonicNs := by
  unfold Observed.decision
  cases e with
  | thread thread =>
    simp only [NoOldSuccess] at hok ⊢
    split
    · next nowNs camera snapshot _ htodo =>
      rw [htodo] at hok
      split
      · next hrestarts =>
        intro r hr halive hyoung
        obtain rfl := List.mem_singleton.mp hr
        have halive : o.state.process camera = .alive := of_decide_eq_true halive
        exact (restarts_young_iff halive hyoung).mp hrestarts (hok halive hyoung)
      · intro r hr
        cases hr
    · intro r hr
      cases hr
  | tick clockNs => exact fun _ hr => absurd hr List.not_mem_nil
  | capture camera call => exact fun _ hr => absurd hr List.not_mem_nil
  | exit camera => exact fun _ hr => absurd hr List.not_mem_nil

theorem decision_of_oldSuccess {setup : SupervisorSetup n} {o : Observed n} {e : Event n}
    (hbad : ¬ NoOldSuccess setup o e) :
    ∃ r ∈ Observed.decision setup o.state e, r.alive ∧
      Young setup r.camera r.nowNs r.startedMonotonicNs := by
  cases e with
  | thread thread =>
    simp only [NoOldSuccess] at hbad
    split at hbad
    · next nowNs camera snapshot rest htodo =>
      rw [Classical.not_imp, Classical.not_imp] at hbad
      obtain ⟨halive, hyoung, hold⟩ := hbad
      have hrestarts := (restarts_young_iff halive hyoung).mpr hold
      simp only [Observed.decision, htodo, if_pos hrestarts]
      exact ⟨_, List.mem_singleton_self _, decide_eq_true halive, hyoung⟩
    · exact absurd trivial hbad
  | tick clockNs => exact absurd trivial hbad
  | capture camera call => exact absurd trivial hbad
  | exit camera => exact absurd trivial hbad

/-- A run gives every process its full read timeout exactly when no check of a running process
that is still young meets a success of its camera from before the read timeout. -/
theorem full_timeout_iff (setup : SupervisorSetup n) (clockNs : UInt64) (events : List (Event n)) :
    (∀ x ∈ Transition.steps (Observed.step setup) (Observed.init n clockNs) events,
      FullTimeout setup x.target) ↔
    ∀ x ∈ Transition.steps (Observed.step setup) (Observed.init n clockNs) events,
      NoOldSuccess setup x.source x.event := by
  apply Transition.everyTarget_iff (I := FullTimeout setup)
  · intro o e u ho hok hstep
    obtain ⟨t, -, rfl⟩ := Transition.recorded_cases hstep
    have hu : FullTimeout setup ⟨t, o.history ++ Observed.decision setup o.state e⟩ := by
      intro r hr
      rcases List.mem_append.mp hr with hr | hr
      · exact ho r hr
      · exact decision_fullTimeout hok r hr
    exact ⟨hu, hu⟩
  · intro o e u _ hbad hstep hu
    obtain ⟨t, -, rfl⟩ := Transition.recorded_cases hstep
    obtain ⟨r, hr, halive, hyoung⟩ := decision_of_oldSuccess hbad
    exact hu r (List.mem_append_right _ hr) halive hyoung
  · exact fun _ hr => absurd hr List.not_mem_nil

/-- A camera delivers a frame and hangs. The watchdog waits three seconds for its process to stop,
terminates and restarts it, and one second later checks it again. -/
def hangAndRestart (camera : Fin 1) : List (Event 1) :=
  [turns .main 7, [.capture camera (.recordSuccess 1280 720 15 1)], turns .watchdog 1,
    [.tick 3000000001], turns .watchdog 7, [.tick 6000000001], turns .watchdog 13,
    [.tick 7000000001], turns .watchdog 4].flatten

/-- The restarted process is killed again after one of its two seconds. -/
theorem hangAndRestart_kills :
    let o := Transition.exec (Observed.step {reconnect := fun _ => {}}) (Observed.init 1 1)
      (hangAndRestart 0)
    (o.history.map fun r => (r.alive, r.nowNs, r.startedMonotonicNs)) =
        [(true, 3000000001, 1), (true, 7000000001, 6000000001)] ∧
      ¬ FullTimeout {reconnect := fun _ => {}} o := by
  decide +kernel

end EdgeSafety.EdgeSupervisor
