import EdgeSafety.Lib.Transition
import EdgeSafety.Supervisor.Threads

/-!
# Shutdown

`EdgeSupervisor.stop` waits two seconds for the watchdog and then stops the workers one by one.
Stopping a worker leaves its process dead, and only the watchdog could start another. So shutdown
is final if the watchdog is between two ticks when the wait is over, since it then only has to see
the stop event (`stop_is_final`). A restart, however, waits up to three seconds for the old
process: a watchdog that is still inside one starts a process that nobody stops
(`restartDuringStop_outlives`).
-/

namespace EdgeSafety.EdgeSupervisor

variable {n : Nat}

namespace Action

/-- An action of the main thread on the supervisor itself. -/
def OfMain : Action n → Prop
  | .clearStop | .setStop | .startWatchdog | .joinWatchdog | .joiningWatchdog _ => True
  | _ => False

/-- An action of the watchdog between two ticks. -/
def BetweenTicks : Action n → Prop
  | .loop | .waiting _ | .raised => True
  | _ => False

/-- An action of stopping a worker. -/
def Stops : Action n → Prop
  | .stop _ | .setStopEvent _ | .join _ _ | .joining _ _ | .ifAlive _ | .terminate _
  | .setStopped _ => True
  | _ => False

instance : DecidablePred (BetweenTicks (n := n)) := fun action => by
  cases action <;> unfold BetweenTicks <;> infer_instance

end Action

/-- If the step ends the wait for the watchdog, the watchdog is between two ticks. -/
def JoinsIdle (s : State n) : Event n → Prop
  | .thread .main =>
    match s.todo .main with
    | .joiningWatchdog _ :: _ => ∀ action ∈ s.todo .watchdog, action.BetweenTicks
    | _ => True
  | _ => True

instance (s : State n) (e : Event n) : Decidable (JoinsIdle s e) := by
  unfold JoinsIdle
  split
  · split <;> infer_instance
  · infer_instance

/-- The worker of the camera is still to be stopped. -/
def ToStop (camera : Fin n) (todo : List (Action n)) : Prop :=
  .stop camera ∈ todo ∨ .ifAlive camera ∈ todo ∨ .terminate camera ∈ todo

/-- The main thread is past the wait for the watchdog: the workers that are still running are on
its list, and no thread starts another. -/
structure Closing (s : State n) : Prop where
  stop : s.stop = true
  watchdog : ∀ action ∈ s.todo .watchdog, action.BetweenTicks
  main : ∀ action ∈ s.todo .main, action.Stops
  alive : ∀ camera, s.process camera = .alive → ToStop camera (s.todo .main)

/-- How far the main thread has come. -/
inductive Phase (s : State n) : Prop
  | running (earlier : List (Action n)) (todo : s.todo .main =
      earlier ++ .setStop :: .joinWatchdog :: (List.finRange n).map .stop)
  | stopped (todo : s.todo .main = .joinWatchdog :: (List.finRange n).map .stop)
      (stop : s.stop = true)
  | joining (deadlineNs : Nat)
      (todo : s.todo .main = .joiningWatchdog deadlineNs :: (List.finRange n).map .stop)
      (stop : s.stop = true)
  | closing (closing : Closing s)
  | raised (todo : s.todo .main = [.raised])

/-- The main thread follows its program, and the watchdog leaves it the supervisor's events. -/
structure Followed (s : State n) : Prop where
  phase : Phase s
  watchdog : ∀ action ∈ s.todo .watchdog, ¬ action.OfMain

section Perform
variable (setup : SupervisorSetup n) (s : State n)

/-- What the actions lead to, one by one. -/
inductive Performs : Action n → State n → List (Action n) → Prop
  | clearStop : Performs .clearStop { s with stop := false } []
  | setStop : Performs .setStop { s with stop := true } []
  | startWatchdog : Performs .startWatchdog
      { s with todo := Function.update s.todo .watchdog [.loop] } []
  | joinWatchdog : Performs .joinWatchdog s [.joiningWatchdog (s.clockNs.toNat + 2000000000)]
  | joiningWatchdog (deadlineNs : Nat) : Performs (.joiningWatchdog deadlineNs) s []
  | loop : Performs .loop s [.waiting (s.clockNs.toNat + setup.watchdogIntervalNs)]
  | waitingStopped (deadlineNs : Nat) : Performs (.waiting deadlineNs) s []
  | waitingExpired (deadlineNs : Nat) (running : s.stop = false) :
      Performs (.waiting deadlineNs) s [.tick, .loop]
  | tick : Performs .tick s ((List.finRange n).map (.visit s.clockNs.toNat))
  | visit (nowNs : Nat) (camera : Fin n) :
      Performs (.visit nowNs camera) s [.check nowNs camera (s.health camera).snapshot]
  | checkFailed (nowNs : Nat) (camera : Fin n) (snapshot : CameraHealthSnapshot) :
      Performs (.check nowNs camera snapshot) s (restart camera)
  | checkPassed (nowNs : Nat) (camera : Fin n) (snapshot : CameraHealthSnapshot) :
      Performs (.check nowNs camera snapshot) s []
  | startAlive (camera : Fin n) : Performs (.start camera) s []
  | start (camera : Fin n) : Performs (.start camera) s
      [.clearStopEvent camera, .create camera, .spawn camera, .stamp camera]
  | clearStopEvent (camera : Fin n) :
      Performs (.clearStopEvent camera) (s.setStopEvent camera false) []
  | create (camera : Fin n) : Performs (.create camera) (s.setProcess camera .created) []
  | spawn (camera : Fin n) : Performs (.spawn camera) (s.setProcess camera .alive) []
  | stamp (camera : Fin n) : Performs (.stamp camera)
      { s with
        startedMonotonicNs := Function.update s.startedMonotonicNs camera s.clockNs.toNat } []
  | stopAbsent (camera : Fin n) (absent : s.process camera = .absent) :
      Performs (.stop camera) s []
  | stop (camera : Fin n) : Performs (.stop camera) s
      [.setStopEvent camera, .join camera 3000000000, .ifAlive camera, .setStopped camera]
  | setStopEvent (camera : Fin n) :
      Performs (.setStopEvent camera) (s.setStopEvent camera true) []
  | join (camera : Fin n) (timeoutNs : Nat) : Performs (.join camera timeoutNs) s
      [.joining camera (s.clockNs.toNat + timeoutNs)]
  | joining (camera : Fin n) (deadlineNs : Nat) : Performs (.joining camera deadlineNs) s []
  | ifAlive (camera : Fin n) :
      Performs (.ifAlive camera) s [.terminate camera, .join camera 1000000000]
  | ifDead (camera : Fin n) (dead : s.process camera ≠ .alive) :
      Performs (.ifAlive camera) s []
  | terminate (camera : Fin n) : Performs (.terminate camera) (s.setProcess camera .dead) []
  | setStopped (camera : Fin n) : Performs (.setStopped camera)
      (s.setHealth camera ((s.health camera).setState .stopped)) []
  | recordReconnect (camera : Fin n) : Performs (.recordReconnect camera)
      (s.setHealth camera (s.health camera).recordReconnect) []

theorem perform_performs (action : Action n) :
    (s.perform setup action).All (Performs setup s action) := by
  cases action with
  | clearStop => exact .clearStop
  | setStop => exact .setStop
  | startWatchdog => exact .startWatchdog
  | joinWatchdog => exact .joinWatchdog
  | joiningWatchdog deadlineNs =>
    rw [State.perform]
    split
    · exact .joiningWatchdog deadlineNs
    · exact trivial
  | loop => exact .loop
  | waiting deadlineNs =>
    rw [State.perform]
    split
    · exact .waitingStopped deadlineNs
    · next hrunning =>
      split
      · exact .waitingExpired deadlineNs (Bool.eq_false_iff.mpr hrunning)
      · exact trivial
  | tick => exact .tick
  | visit nowNs camera => exact .visit nowNs camera
  | check nowNs camera snapshot =>
    rw [State.perform]
    split
    · exact .checkFailed nowNs camera snapshot
    · exact .checkPassed nowNs camera snapshot
  | start camera =>
    rw [State.perform]
    split
    · exact .startAlive camera
    · exact .start camera
  | clearStopEvent camera => exact .clearStopEvent camera
  | create camera => exact .create camera
  | spawn camera => exact .spawn camera
  | stamp camera => exact .stamp camera
  | stop camera =>
    rw [State.perform]
    split
    · next habsent => exact .stopAbsent camera habsent
    · exact .stop camera
  | setStopEvent camera => exact .setStopEvent camera
  | join camera timeoutNs =>
    rw [State.perform]
    split
    · exact trivial
    · exact .join camera timeoutNs
  | joining camera deadlineNs =>
    rw [State.perform]
    split
    · exact .joining camera deadlineNs
    · exact trivial
  | ifAlive camera =>
    rw [State.perform]
    split
    · exact .ifAlive camera
    · next hdead => exact .ifDead camera hdead
  | terminate camera =>
    rw [State.perform]
    split
    · exact trivial
    · exact .terminate camera
  | setStopped camera => exact .setStopped camera
  | recordReconnect camera => exact .recordReconnect camera
  | raised => exact trivial

variable {setup s} {t : State n} {action : Action n} {next : List (Action n)}

/-- Only `startWatchdog` gives another thread something to do. -/
theorem Performs.todo (h : Performs setup s action t next) :
    t.todo = s.todo ∨
      action = .startWatchdog ∧ t.todo = Function.update s.todo .watchdog [.loop] := by
  cases h with
  | startWatchdog => exact Or.inr ⟨rfl, rfl⟩
  | _ => exact Or.inl rfl

/-- The supervisor's stop event belongs to the main thread. -/
theorem Performs.stop_eq (h : Performs setup s action t next) (haction : ¬ action.OfMain) :
    t.stop = s.stop := by
  cases h with
  | clearStop | setStop => exact absurd trivial haction
  | _ => rfl

/-- An action of a worker or of the watchdog leads to such actions only. -/
theorem Performs.not_ofMain (h : Performs setup s action t next) (haction : ¬ action.OfMain) :
    ∀ b ∈ next, ¬ b.OfMain := by
  cases h with
  | joinWatchdog => exact absurd trivial haction
  | tick =>
    intro b hb
    obtain ⟨camera, -, rfl⟩ := List.mem_map.mp hb
    exact id
  | _ => simp [Action.OfMain, restart]

/-- Stopping a worker, or waiting for the next tick, starts no process. -/
theorem Performs.process (h : Performs setup s action t next)
    (haction : action.Stops ∨ action.BetweenTicks) :
    ∀ camera, t.process camera = .alive → s.process camera = .alive := by
  cases h with
  | terminate camera =>
    intro other halive
    by_cases hother : other = camera
    · subst hother
      simp [State.setProcess] at halive
    · simpa [State.setProcess, Function.update_of_ne hother] using halive
  | create | spawn => simp [Action.Stops, Action.BetweenTicks] at haction
  | _ => exact fun _ h => h

/-- Stopping a worker goes on as such. -/
theorem Performs.stops (h : Performs setup s action t next) (haction : action.Stops) :
    ∀ b ∈ next, b.Stops := by
  cases h with
  | stop | join | ifAlive => simp [Action.Stops]
  | stopAbsent | setStopEvent | joining | ifDead | terminate | setStopped =>
    exact List.forall_mem_nil _
  | _ => exact absurd haction id

/-- With the stop event set, the watchdog between two ticks does not begin another. -/
theorem Performs.betweenTicks (h : Performs setup s action t next)
    (haction : action.BetweenTicks) (hstop : s.stop = true) : ∀ b ∈ next, b.BetweenTicks := by
  cases h with
  | loop => simp [Action.BetweenTicks]
  | waitingStopped => exact List.forall_mem_nil _
  | waitingExpired deadlineNs running =>
    rw [hstop] at running
    cases running
  | _ => exact absurd haction id

/-- A worker that is running stays on the list until it is stopped. -/
theorem Performs.toStop (h : Performs setup s action t next) (haction : action.Stops)
    (rest : List (Action n)) {other : Fin n} (halive : t.process other = .alive)
    (hlist : s.process other = .alive → ToStop other (action :: rest)) :
    ToStop other (next ++ rest) := by
  cases h with
  | stopAbsent camera absent =>
    have hother : other ≠ camera := by
      rintro rfl
      exact absurd (absent.symm.trans halive) (by decide)
    simpa [ToStop, hother] using hlist halive
  | stop camera | ifAlive camera =>
    by_cases hother : other = camera
    · simp [ToStop, hother]
    · simpa [ToStop, hother] using hlist halive
  | ifDead camera dead =>
    have hother : other ≠ camera := by
      rintro rfl
      exact dead halive
    simpa [ToStop, hother] using hlist halive
  | terminate camera =>
    have hother : other ≠ camera := by
      rintro rfl
      simp [State.setProcess] at halive
    have halive : s.process other = .alive := by
      simpa [State.setProcess, Function.update_of_ne hother] using halive
    simpa [ToStop, hother] using hlist halive
  | join | joining | setStopEvent | setStopped => simpa [ToStop] using hlist halive
  | _ => exact absurd haction id

end Perform

section Step
variable {setup : SupervisorSetup n} {s t : State n}

/-- A change that starts no process and leaves the threads and the stop event alone. -/
theorem Followed.congr (hs : Followed s) (todo : t.todo = s.todo) (stop : t.stop = s.stop)
    (process : ∀ camera, t.process camera = .alive → s.process camera = .alive) :
    Followed t := by
  refine ⟨?_, by rw [todo]; exact hs.watchdog⟩
  cases hs.phase with
  | running earlier htodo => exact .running earlier (todo ▸ htodo)
  | stopped htodo hstop => exact .stopped (todo ▸ htodo) (stop.trans hstop)
  | joining deadlineNs htodo hstop => exact .joining deadlineNs (todo ▸ htodo) (stop.trans hstop)
  | closing h =>
    refine .closing ⟨stop.trans h.stop, ?_, ?_, fun camera halive => ?_⟩
    · rw [todo]
      exact h.watchdog
    · rw [todo]
      exact h.main
    · rw [todo]
      exact h.alive camera (process camera halive)
  | raised htodo => exact .raised (todo ▸ htodo)

/-- A step of the watchdog leaves the main thread in its phase. -/
theorem Followed.watchdog_step (hs : Followed s) (hstep : s.stepThread setup .watchdog = some t) :
    Followed t := by
  obtain ⟨action, rest, htodo, hcases⟩ := stepThread_cases hstep
  have hof : ¬ action.OfMain := hs.watchdog action (htodo ▸ List.mem_cons_self)
  rcases hcases with ⟨-, rfl⟩ | ⟨u, next, hperform, rfl⟩
  · refine ⟨?_, by simp [Action.OfMain]⟩
    cases hs.phase with
    | running earlier h => exact .running earlier h
    | stopped h hstop => exact .stopped h hstop
    | joining deadlineNs h hstop => exact .joining deadlineNs h hstop
    | closing h => exact .closing ⟨h.stop, by simp [Action.BetweenTicks], h.main, h.alive⟩
    | raised h => exact .raised h
  · have hperforms := perform_performs setup s action
    rw [hperform] at hperforms
    have hstop' := hperforms.stop_eq hof
    have hsame : u.todo = s.todo := by
      rcases hperforms.todo with h | ⟨rfl, -⟩
      · exact h
      · exact absurd trivial hof
    have hmain : Function.update u.todo .watchdog (next ++ rest) .main = s.todo .main := by
      rw [hsame]
      rfl
    refine ⟨?_, ?_⟩
    · cases hs.phase with
      | running earlier h => exact .running earlier (hmain.trans h)
      | stopped h hstop => exact .stopped (hmain.trans h) (hstop'.trans hstop)
      | joining deadlineNs h hstop =>
        exact .joining deadlineNs (hmain.trans h) (hstop'.trans hstop)
      | closing h =>
        have hbetween := h.watchdog
        rw [htodo, List.forall_mem_cons] at hbetween
        refine .closing ⟨hstop'.trans h.stop, ?_, ?_, fun camera halive => ?_⟩
        · simp only [Function.update_self, List.forall_mem_append]
          exact ⟨hperforms.betweenTicks hbetween.1 h.stop, hbetween.2⟩
        · simp only [hmain]
          exact h.main
        · simp only [hmain]
          exact h.alive camera (hperforms.process (Or.inr hbetween.1) camera halive)
      | raised h => exact .raised (hmain.trans h)
    · have hrest := hs.watchdog
      rw [htodo, List.forall_mem_cons] at hrest
      simp only [Function.update_self, List.forall_mem_append]
      exact ⟨hperforms.not_ofMain hof, hrest.2⟩

/-- Stopping the workers goes on with fewer of them running. -/
theorem Closing.main_step (hs : Closing s) (hstep : s.stepThread setup .main = some t) :
    Phase t := by
  obtain ⟨action, rest, htodo, hcases⟩ := stepThread_cases hstep
  rcases hcases with ⟨-, rfl⟩ | ⟨u, next, hperform, rfl⟩
  · exact .raised (by simp)
  · have hmain := hs.main
    rw [htodo, List.forall_mem_cons] at hmain
    have halive := hs.alive
    rw [htodo] at halive
    have hof : ¬ action.OfMain := by
      intro h
      cases action <;> first | exact h | exact hmain.1
    have hperforms := perform_performs setup s action
    rw [hperform] at hperforms
    have hsame : u.todo = s.todo := by
      rcases hperforms.todo with h | ⟨rfl, -⟩
      · exact h
      · exact absurd trivial hof
    refine .closing ⟨(hperforms.stop_eq hof).trans hs.stop, ?_, ?_, fun camera hcamera => ?_⟩
    · rw [hsame]
      exact hs.watchdog
    · simp only [Function.update_self, List.forall_mem_append]
      exact ⟨hperforms.stops hmain.1, hmain.2⟩
    · simp only [Function.update_self]
      exact hperforms.toStop hmain.1 rest hcamera (halive camera)

/-- A step of the main thread that ends the wait only for a watchdog between two ticks. -/
theorem Followed.main_step (hs : Followed s) (hjoin : JoinsIdle s (.thread .main))
    (hstep : s.stepThread setup .main = some t) : Followed t := by
  obtain ⟨action, rest, htodo, hcases⟩ := stepThread_cases hstep
  refine ⟨?_, ?_⟩
  · cases hs.phase with
    | running earlier h =>
      cases earlier with
      | nil =>
        obtain ⟨rfl, rfl⟩ := List.cons.inj (htodo.symm.trans h)
        rcases hcases with ⟨hraised, -⟩ | ⟨u, next, hperform, rfl⟩
        · cases hraised
        · obtain ⟨rfl, rfl⟩ := Performed.done.inj hperform
          exact .stopped (by simp) rfl
      | cons first more =>
        obtain ⟨rfl, rfl⟩ := List.cons.inj (htodo.symm.trans h)
        rcases hcases with ⟨-, rfl⟩ | ⟨u, next, hperform, rfl⟩
        · exact .raised (by simp)
        · exact .running (next ++ more) (by simp)
    | stopped h hstop =>
      obtain ⟨rfl, rfl⟩ := List.cons.inj (htodo.symm.trans h)
      rcases hcases with ⟨hraised, -⟩ | ⟨u, next, hperform, rfl⟩
      · cases hraised
      · obtain ⟨rfl, rfl⟩ := Performed.done.inj hperform
        exact .joining (s.clockNs.toNat + 2000000000) (by simp) hstop
    | joining deadlineNs h hstop =>
      obtain ⟨rfl, rfl⟩ := List.cons.inj (htodo.symm.trans h)
      simp only [JoinsIdle, htodo] at hjoin
      rcases hcases with ⟨hraised, -⟩ | ⟨u, next, hperform, rfl⟩
      · simp only [State.perform] at hraised
        split at hraised <;> cases hraised
      · simp only [State.perform] at hperform
        split at hperform
        · obtain ⟨rfl, rfl⟩ := Performed.done.inj hperform
          refine .closing ⟨hstop, hjoin, ?_, fun camera _ => ?_⟩
          · simp [Action.Stops]
          · simp [ToStop]
        · cases hperform
    | closing h => exact h.main_step hstep
    | raised h =>
      obtain ⟨rfl, rfl⟩ := List.cons.inj (htodo.symm.trans h)
      rcases hcases with ⟨hraised, -⟩ | ⟨u, next, hperform, -⟩
      · cases hraised
      · cases hperform
  · rcases hcases with ⟨-, rfl⟩ | ⟨u, next, hperform, rfl⟩
    · exact hs.watchdog
    · have hperforms := perform_performs setup s action
      rw [hperform] at hperforms
      have hwatchdog : Function.update u.todo .main (next ++ rest) .watchdog = u.todo .watchdog :=
        rfl
      simp only [hwatchdog]
      rcases hperforms.todo with hsame | ⟨-, hstarted⟩
      · rw [hsame]
        exact hs.watchdog
      · rw [hstarted]
        simp [Action.OfMain]

theorem Followed.step {e : Event n} (hs : Followed s) (hjoin : JoinsIdle s e)
    (hstep : s.step setup e = some t) : Followed t := by
  cases e with
  | tick clockNs =>
    simp only [State.step, Option.ite_none_right_eq_some, Option.some.injEq] at hstep
    obtain ⟨-, rfl⟩ := hstep
    exact hs.congr rfl rfl fun _ h => h
  | thread thread =>
    cases thread with
    | main => exact hs.main_step hjoin hstep
    | watchdog => exact hs.watchdog_step hstep
  | capture camera call =>
    simp only [State.step, Option.ite_none_right_eq_some, Option.some.injEq] at hstep
    obtain ⟨-, rfl⟩ := hstep
    exact hs.congr rfl rfl fun _ h => h
  | exit camera =>
    simp only [State.step, Option.ite_none_right_eq_some, Option.some.injEq] at hstep
    obtain ⟨-, rfl⟩ := hstep
    refine hs.congr rfl rfl fun other halive => ?_
    by_cases hother : other = camera
    · subst hother
      simp [State.setProcess] at halive
    · simpa [State.setProcess, Function.update_of_ne hother] using halive

/-- Once the main thread has returned from `stop`, no process is running. -/
theorem Followed.dead_of_returned (hs : Followed s) (hreturned : s.todo .main = [])
    (camera : Fin n) : s.process camera ≠ .alive := by
  intro halive
  cases hs.phase with
  | running earlier h => simp [hreturned] at h
  | stopped h _ => simp [hreturned] at h
  | joining _ h _ => simp [hreturned] at h
  | closing h =>
    have hlist := h.alive camera halive
    simp [hreturned, ToStop] at hlist
  | raised h => simp [hreturned] at h

end Step

theorem init_followed (n : Nat) (clockNs : UInt64) : Followed (State.init n clockNs) where
  phase := .running (.clearStop :: (List.finRange n).map .start ++ [.startWatchdog])
    (by simp [State.init, mainProgram])
  watchdog := by simp [State.init]

/-- In a run that ends the wait for the watchdog only when the watchdog is between two ticks, no
capture process is running in any state from the return of `stop` on, so none is started. -/
theorem stop_is_final (setup : SupervisorSetup n) (clockNs : UInt64) (events : List (Event n))
    (hjoin : ∀ x ∈ Transition.steps (State.step setup) (State.init n clockNs) events,
      JoinsIdle x.source x.event) :
    ∀ x ∈ Transition.steps (State.step setup) (State.init n clockNs) events,
      x.target.todo .main = [] → ∀ camera, x.target.process camera ≠ .alive := by
  have hrun := Transition.guarded_invariant (I := Followed (n := n))
    (fun _ _ _ hs hok hstep => hs.step hok hstep) (init_followed n clockNs) events hjoin
  intro x hx
  exact (hrun.2 x hx).2.dead_of_returned

/-- A supervisor of one camera is stopped while its watchdog waits for the next tick; the capture
process sees its stop event and ends. -/
def stopBetweenTicks (camera : Fin 1) : List (Event 1) :=
  [turns .main 7, turns .watchdog 1, turns .main 1, turns .watchdog 1, turns .main 5,
    [.exit camera], turns .main 3].flatten

/-- `stop_is_final` on that run, in which `stop` returns. -/
theorem stopBetweenTicks_is_final :
    let steps := Transition.steps (State.step {reconnect := fun _ => {}}) (State.init 1 1)
      (stopBetweenTicks 0)
    (∃ x ∈ steps, x.target.todo .main = []) ∧
      ∀ x ∈ steps, x.target.todo .main = [] → ∀ camera, x.target.process camera ≠ .alive :=
  ⟨by decide +kernel, stop_is_final _ _ _ (by decide +kernel)⟩

/-- A camera hangs, and its watchdog has begun to restart it when the supervisor is stopped: the
wait for the watchdog ends after two seconds; after three, the watchdog terminates the old process,
the main thread finds the worker stopped and returns, and the watchdog starts a new process. -/
def restartDuringStop : List (Event 1) :=
  [turns .main 7, turns .watchdog 1, [.tick 3000000001], turns .watchdog 7, turns .main 2,
    [.tick 5000000001], turns .main 4, [.tick 6000000001], turns .watchdog 5, turns .main 3,
    turns .watchdog 6].flatten

/-- In that run `stop` has returned and a capture process is running. -/
theorem restartDuringStop_outlives :
    let s := Transition.exec (State.step {reconnect := fun _ => {}}) (State.init 1 1)
      restartDuringStop
    s.todo .main = [] ∧ s.process 0 = .alive := by
  decide +kernel

end EdgeSafety.EdgeSupervisor
