import EdgeSafety.Inference.Delivery

/-!
# The circuit breaker

`run_once` counts failed batches in a row and, at the configured number, opens the circuit: until a
deadline no batch is gathered. The counter, the deadline and the metrics change on different exits
of `run_once`; a log of the outcomes of the batches says what they stand for. A batch of the log
opened the circuit when it raised `circuit_open_count`.
-/

namespace EdgeSafety.SharedInferenceScheduler

variable {n : Nat} {setup : SchedulerSetup n} {Output : Type}

/-- The outcome of a batch; `openedAt` is the time at which a failed one opened the circuit. -/
inductive Mark
  | succeeded
  | failed (openedAt : Option Nat)
  deriving DecidableEq

namespace Mark

/-- The batch failed. -/
def isFailed : Mark → Bool
  | .succeeded => false
  | .failed _ => true

/-- The time at which the batch opened the circuit. -/
def opening : Mark → Option Nat
  | .succeeded => none
  | .failed openedAt => openedAt

end Mark

/-- The number of failed batches since the later of the last success and the last opening. -/
def streak (log : List Mark) : Nat :=
  (log.reverse.takeWhile (· = .failed none)).length

@[simp]
theorem streak_succeeded (log : List Mark) : streak (log ++ [.succeeded]) = 0 := by
  simp [streak]

@[simp]
theorem streak_opened (log : List Mark) (clockNs : Nat) :
    streak (log ++ [.failed (some clockNs)]) = 0 := by
  simp [streak]

@[simp]
theorem streak_failed (log : List Mark) : streak (log ++ [.failed none]) = streak log + 1 := by
  simp [streak]

/-- The times at which the circuit opened. -/
def openings (log : List Mark) : List Nat := log.filterMap Mark.opening

@[simp]
theorem openings_succeeded (log : List Mark) : openings (log ++ [.succeeded]) = openings log := by
  rw [openings, List.filterMap_append]
  exact List.append_nil _

@[simp]
theorem openings_failed (log : List Mark) :
    openings (log ++ [.failed none]) = openings log := by
  rw [openings, List.filterMap_append]
  exact List.append_nil _

@[simp]
theorem openings_opened (log : List Mark) (clockNs : Nat) :
    openings (log ++ [.failed (some clockNs)]) = openings log ++ [clockNs] :=
  List.filterMap_append

namespace State

/-- The exception handler raises `circuit_open_count`. -/
def Opens (s : State setup Output) : Prop :=
  s.metrics.circuitOpenCount < s.fail.metrics.circuitOpenCount

instance (s : State setup Output) : Decidable s.Opens := inferInstanceAs (Decidable (_ < _))

theorem opens_iff (s : State setup Output) :
    s.Opens ↔ setup.configuration.circuitBreakerFailures ≤ s.consecutiveFailures + 1 := by
  unfold Opens fail
  split
  · next h => exact ⟨fun _ => h, fun _ => Nat.lt_succ_self _⟩
  · next h => exact ⟨fun hless => absurd hless (Nat.lt_irrefl _), fun hle => absurd hle h⟩

/-- What a step from `s` adds to the log. -/
def logged (log : List Mark) (s : State setup Output) : Event n Output → List Mark
  | .pipeline outcome =>
    match s.pc with
    | .inferring batch =>
      if (Attempt.mk batch outcome).Succeeded setup then log ++ [.succeeded] else log
    | _ => log
  | .scheduler =>
    match s.pc with
    | .failed => log ++ [.failed (if s.Opens then some s.clockNs.toNat else none)]
    | _ => log
  | _ => log

end State

/-- `circuit_breaker_reset_ms` in nanoseconds. -/
def resetNs (setup : SchedulerSetup n) : Nat :=
  setup.configuration.circuitBreakerResetMs * 1000000

/-- Each failed batch opened the circuit exactly when it was the one that completes a streak. -/
def OpensAtStreak (setup : SchedulerSetup n) (log : List Mark) : Prop :=
  ∀ i openedAt, log[i]? = some (.failed openedAt) →
    (openedAt.isSome ↔ streak (log.take i) + 1 = setup.configuration.circuitBreakerFailures)

theorem OpensAtStreak.append {log : List Mark} (hs : OpensAtStreak setup log) {mark : Mark}
    (hmark : ∀ openedAt, mark = .failed openedAt →
      (openedAt.isSome ↔ streak log + 1 = setup.configuration.circuitBreakerFailures)) :
    OpensAtStreak setup (log ++ [mark]) := by
  intro i openedAt hi
  by_cases hlt : i < log.length
  · rw [List.getElem?_append_left hlt] at hi
    rw [List.take_append_of_le_length (Nat.le_of_lt hlt)]
    exact hs i openedAt hi
  · rw [List.getElem?_append_right (Nat.le_of_not_lt hlt), List.getElem?_singleton] at hi
    obtain ⟨hlast, hsame⟩ := Option.ite_none_right_eq_some.mp hi
    have htake : (log ++ [mark]).take i = log := by
      rw [show i = log.length by omega, List.take_left]
    rw [htake]
    exact hmark openedAt (Option.some.inj hsame)

/-- What the counter, the deadline and the metrics stand for. -/
structure Guarded (s : State setup Output) (log : List Mark) : Prop where
  refused : s.clockNs.toNat < s.circuitOpenUntilNs → s.pc = .idle
  counter : s.consecutiveFailures = streak log
  below : s.consecutiveFailures < setup.configuration.circuitBreakerFailures
  failures : s.metrics.failedBatches = log.countP Mark.isFailed
  openCount : s.metrics.circuitOpenCount = (openings log).length
  account : s.metrics.circuitOpenCount * setup.configuration.circuitBreakerFailures +
    s.consecutiveFailures ≤ s.metrics.failedBatches
  streaks : OpensAtStreak setup log
  deadline : s.circuitOpenUntilNs =
    ((openings log).getLast?.map (· + resetNs setup)).getD 0
  apart : (openings log).Pairwise fun first second =>
    first + resetNs setup ≤ second

theorem init_guarded (setup : SchedulerSetup n) (clockNs : UInt64) :
    Guarded (State.init setup Output clockNs) [] where
  refused h := absurd h (Nat.not_lt_zero _)
  counter := rfl
  below := setup.configuration.circuitBreakerFailures_bounds.1
  failures := rfl
  openCount := rfl
  account := by simp [State.init]
  streaks i openedAt h := by simp at h
  deadline := rfl
  apart := .nil

section Step
variable {s t : State setup Output} {log : List Mark}

/-- A step that leaves the counter, the deadline and the counts alone. -/
theorem Guarded.same (hs : Guarded s log)
    (refused : t.clockNs.toNat < t.circuitOpenUntilNs → t.pc = .idle)
    (consecutiveFailures : t.consecutiveFailures = s.consecutiveFailures)
    (circuitOpenUntilNs : t.circuitOpenUntilNs = s.circuitOpenUntilNs)
    (failedBatches : t.metrics.failedBatches = s.metrics.failedBatches)
    (circuitOpenCount : t.metrics.circuitOpenCount = s.metrics.circuitOpenCount) :
    Guarded t log where
  refused := refused
  counter := consecutiveFailures.trans hs.counter
  below := by
    rw [consecutiveFailures]
    exact hs.below
  failures := failedBatches.trans hs.failures
  openCount := circuitOpenCount.trans hs.openCount
  account := by
    rw [failedBatches, circuitOpenCount, consecutiveFailures]
    exact hs.account
  streaks := hs.streaks
  deadline := circuitOpenUntilNs.trans hs.deadline
  apart := hs.apart

/-- At work, the circuit is closed. -/
theorem Guarded.closed (hs : Guarded s log) (hpc : s.pc ≠ .idle) :
    s.circuitOpenUntilNs ≤ s.clockNs.toNat :=
  Nat.le_of_not_lt fun hopen => hpc (hs.refused hopen)

/-- A step at work that leaves the same alone. -/
theorem Guarded.busy (hs : Guarded s log) (hpc : s.pc ≠ .idle) (clockNs : t.clockNs = s.clockNs)
    (consecutiveFailures : t.consecutiveFailures = s.consecutiveFailures)
    (circuitOpenUntilNs : t.circuitOpenUntilNs = s.circuitOpenUntilNs)
    (failedBatches : t.metrics.failedBatches = s.metrics.failedBatches)
    (circuitOpenCount : t.metrics.circuitOpenCount = s.metrics.circuitOpenCount) :
    Guarded t log := by
  refine hs.same ?_ consecutiveFailures circuitOpenUntilNs failedBatches circuitOpenCount
  intro hopen
  rw [clockNs, circuitOpenUntilNs] at hopen
  exact absurd hopen (Nat.not_lt.mpr (hs.closed hpc))

/-- A batch whose outputs are accepted. -/
theorem Guarded.succeeded (hs : Guarded s log) (hpc : s.pc ≠ .idle)
    (clockNs : t.clockNs = s.clockNs) (consecutiveFailures : t.consecutiveFailures = 0)
    (circuitOpenUntilNs : t.circuitOpenUntilNs = s.circuitOpenUntilNs)
    (failedBatches : t.metrics.failedBatches = s.metrics.failedBatches)
    (circuitOpenCount : t.metrics.circuitOpenCount = s.metrics.circuitOpenCount) :
    Guarded t (log ++ [.succeeded]) where
  refused hopen := by
    rw [clockNs, circuitOpenUntilNs] at hopen
    exact absurd hopen (Nat.not_lt.mpr (hs.closed hpc))
  counter := by rw [consecutiveFailures, streak_succeeded]
  below := by
    rw [consecutiveFailures]
    exact setup.configuration.circuitBreakerFailures_bounds.1
  failures := by
    rw [failedBatches, hs.failures, List.countP_append]
    rfl
  openCount := by rw [circuitOpenCount, hs.openCount, openings_succeeded]
  account := by
    rw [failedBatches, circuitOpenCount, consecutiveFailures]
    exact (Nat.le_add_right _ _).trans hs.account
  streaks := hs.streaks.append fun _ h => by cases h
  deadline := by rw [circuitOpenUntilNs, hs.deadline, openings_succeeded]
  apart := by
    rw [openings_succeeded]
    exact hs.apart

/-- A failed batch that leaves the circuit closed. -/
theorem Guarded.counted (hs : Guarded s log) (hpc : s.pc = .failed) (hopens : ¬ s.Opens) :
    Guarded s.fail (log ++ [.failed none]) := by
  have hclosed := hs.closed (by rw [hpc]; exact fun h => by cases h)
  rw [State.opens_iff, Nat.not_le] at hopens
  have hcounter : s.consecutiveFailures + 1 = streak log + 1 := congrArg (· + 1) hs.counter
  have haccount := hs.account
  simp only [State.fail, ge_iff_le, if_neg (Nat.not_le.mpr hopens)]
  refine ⟨fun _ => rfl, ?_, hopens, ?_, ?_, ?_, ?_, ?_, ?_⟩
  · rw [streak_failed]
    exact hcounter
  · rw [List.countP_append, hs.failures]
    rfl
  · rw [openings_failed]
    exact hs.openCount
  · simp only
    omega
  · apply hs.streaks.append
    rintro openedAt ⟨⟩
    rw [Option.isSome_none, ← hcounter]
    exact iff_of_false Bool.false_ne_true (Nat.ne_of_lt hopens)
  · rw [openings_failed]
    exact hs.deadline
  · rw [openings_failed]
    exact hs.apart

/-- Every opening so far has run its time by the deadline. -/
theorem Guarded.openings_le (hs : Guarded s log) :
    ∀ opening ∈ openings log, opening + resetNs setup ≤ s.circuitOpenUntilNs := by
  have hdeadline := hs.deadline
  have hapart := hs.apart
  intro opening hopening
  generalize openings log = times at hdeadline hapart hopening
  rcases List.eq_nil_or_concat times with rfl | ⟨earlier, last, rfl⟩
  · cases hopening
  · rw [List.concat_eq_append] at hdeadline hapart hopening
    rw [List.getLast?_append, List.getLast?_singleton, Option.some_or, Option.map_some,
      Option.getD_some] at hdeadline
    rw [hdeadline]
    rcases List.mem_append.mp hopening with hearlier | hlast
    · have hle := (List.pairwise_append.mp hapart).2.2 opening hearlier last
        (List.mem_singleton.mpr rfl)
      omega
    · obtain rfl := List.mem_singleton.mp hlast
      exact Nat.le_refl _

/-- A failed batch that opens the circuit. -/
theorem Guarded.opened (hs : Guarded s log) (hpc : s.pc = .failed) (hopens : s.Opens) :
    Guarded s.fail (log ++ [.failed (some s.clockNs.toNat)]) := by
  have hclosed := hs.closed (by rw [hpc]; exact fun h => by cases h)
  have hbelow := hs.below
  have haccount := hs.account
  rw [State.opens_iff] at hopens
  simp only [State.fail, ge_iff_le, if_pos hopens]
  refine ⟨fun _ => rfl, (streak_opened log _).symm,
    setup.configuration.circuitBreakerFailures_bounds.1, ?_, ?_, ?_, ?_, ?_, ?_⟩
  · rw [List.countP_append, hs.failures]
    rfl
  · rw [openings_opened, List.length_append, hs.openCount]
    rfl
  · simp only [Nat.add_mul, Nat.one_mul]
    omega
  · apply hs.streaks.append
    rintro openedAt ⟨⟩
    rw [← hs.counter]
    exact iff_of_true rfl (by omega)
  · rw [openings_opened, List.getLast?_append, List.getLast?_singleton, Option.some_or,
      Option.map_some, Option.getD_some, resetNs]
  · rw [openings_opened, List.pairwise_append]
    refine ⟨hs.apart, List.pairwise_singleton _ _, ?_⟩
    intro first hfirst second hsecond
    obtain rfl := List.mem_singleton.mp hsecond
    exact (hs.openings_le first hfirst).trans hclosed

theorem Guarded.step {e : Event n Output} (hs : Guarded s log) (hstep : s.step e = some t) :
    Guarded t (s.logged log e) := by
  have hphase := step_phase History.empty hstep
  generalize History.empty.record s e = h' at hphase
  cases hphase with
  | waits waits event =>
    have hsame : Guarded t log := by
      refine hs.same ?_ waits.consecutiveFailures waits.circuitOpenUntilNs ?_ ?_
      · intro hopen
        rw [waits.circuitOpenUntilNs] at hopen
        rw [waits.pc]
        exact hs.refused (Nat.lt_of_le_of_lt waits.clockNs hopen)
      · rw [waits.metrics]
      · rw [waits.metrics]
    rcases event with ⟨clockNs, rfl⟩ | ⟨camera, frame, timeNs, rfl⟩
    · exact hsame
    · exact hsame
  | gathers gathers =>
    have hlogged : s.logged log (.scheduler : Event n Output) = log := by
      obtain ⟨hsource, -⟩ := gathers.source
      unfold State.logged
      cases hpc : s.pc <;> first | rfl | (rw [hpc] at hsource; exact absurd hsource id)
    rw [hlogged]
    refine hs.same ?_ gathers.consecutiveFailures gathers.circuitOpenUntilNs ?_ ?_
    · intro hopen
      rw [gathers.clockNs, gathers.circuitOpenUntilNs] at hopen
      exact gathers.refused (hs.refused hopen) hopen
    · rw [gathers.metrics]
    · rw [gathers.metrics]
  | getResult first rest results => exact hs.same hs.refused rfl rfl rfl rfl
  | receive batch outcome pc =>
    have hbusy : s.pc ≠ .idle := by simp [pc]
    simp only [State.logged, pc]
    cases outcome with
    | raised => exact hs.busy hbusy rfl rfl rfl rfl rfl
    | returned outputs elapsedMs =>
      by_cases haccepted : State.Accepted setup batch outputs elapsedMs
      · rw [if_pos (show (Attempt.mk batch (.returned outputs elapsedMs)).Succeeded setup from
          haccepted)]
        simp only [State.receive, if_pos haccepted]
        exact hs.succeeded hbusy rfl rfl rfl rfl rfl
      · rw [if_neg (show ¬ (Attempt.mk batch (.returned outputs elapsedMs)).Succeeded setup from
          haccepted)]
        simp only [State.receive, if_neg haccepted]
        exact hs.busy hbusy rfl rfl rfl rfl rfl
  | fail pc =>
    simp only [State.logged, pc]
    by_cases hopens : s.Opens
    · rw [if_pos hopens]
      exact hs.opened pc hopens
    · rw [if_neg hopens]
      exact hs.counted pc hopens
  | deliver remaining count pc =>
    simp only [State.logged, pc]
    cases remaining with
    | nil => exact hs.busy (by simp [pc]) rfl rfl rfl rfl rfl
    | cons pair rest => exact hs.busy (by simp [pc]) rfl rfl rfl rfl rfl
  | put result remaining count pc =>
    simp only [State.logged, pc]
    exact hs.busy (by simp [pc]) rfl rfl rfl rfl rfl
  | evict result remaining count pc =>
    simp only [State.logged, pc, State.evict]
    split <;> exact hs.busy (by simp [pc]) rfl rfl rfl rfl rfl
  | enqueue result remaining count pc =>
    simp only [State.logged, pc, State.enqueue]
    split <;> exact hs.busy (by simp [pc]) rfl rfl rfl rfl rfl

end Step

/-- The scheduler with its log after a run from a new scheduler. -/
def monitor (setup : SchedulerSetup n) (clockNs : UInt64) (events : List (Event n Output)) :
    Transition.Recorded (State setup Output) (List Mark) :=
  Transition.exec (Transition.recorded State.step fun log s e => s.logged log e)
    ⟨.init setup Output clockNs, []⟩ events

theorem monitor_guarded (setup : SchedulerSetup n) (clockNs : UInt64)
    (events : List (Event n Output)) :
    let o := monitor setup clockNs events
    Guarded o.state o.history :=
  Transition.recorded_invariant (fun _ _ _ _ hs hstep => hs.step hstep)
    (init_guarded setup clockNs) events

/-- A call of `run_once` before the deadline changes nothing. -/
theorem Guarded.refuses {s : State setup Output} {log : List Mark} (hs : Guarded s log)
    (hopen : s.clockNs.toNat < s.circuitOpenUntilNs) :
    s.step .scheduler = some s ∧ ∀ outcome, s.step (.pipeline outcome) = none := by
  have hidle := hs.refused hopen
  constructor
  · simp only [State.step, State.advance, hidle, State.checkCircuit, if_pos hopen]
  · intro outcome
    simp only [State.step, hidle]

/-- Over every run: before the deadline the scheduler thread is between two calls, and a call does
nothing, so that no buffer is read and no batch is passed on; the counter stays below the
configured number; the circuit opens at exactly those failed batches that complete a streak; two
openings are a reset time apart; and each opening is paid for by its streak of failed batches. The
metrics count the batches of the log, and the deadline is a reset time after the last opening. -/
theorem circuit_breaker_safe (setup : SchedulerSetup n) (clockNs : UInt64)
    (events : List (Event n Output)) :
    let o := monitor setup clockNs events
    let s := o.state
    let log := o.history
    (s.clockNs.toNat < s.circuitOpenUntilNs → s.pc = .idle ∧ s.step .scheduler = some s ∧
      ∀ outcome, s.step (.pipeline outcome) = none) ∧
    s.consecutiveFailures < setup.configuration.circuitBreakerFailures ∧
    (∀ i openedAt, log[i]? = some (.failed openedAt) →
      (openedAt.isSome ↔ streak (log.take i) + 1 = setup.configuration.circuitBreakerFailures)) ∧
    (openings log).Pairwise (fun first second =>
      first + setup.configuration.circuitBreakerResetMs * 1000000 ≤ second) ∧
    s.metrics.circuitOpenCount * setup.configuration.circuitBreakerFailures ≤
      s.metrics.failedBatches ∧
    s.metrics.failedBatches = log.countP Mark.isFailed ∧
    s.metrics.circuitOpenCount = (openings log).length ∧
    s.circuitOpenUntilNs = ((openings log).getLast?.map
      (· + setup.configuration.circuitBreakerResetMs * 1000000)).getD 0 := by
  intro o s log
  have hs : Guarded s log := monitor_guarded setup clockNs events
  exact ⟨fun hopen => ⟨hs.refused hopen, hs.refuses hopen⟩, hs.below, hs.streaks, hs.apart,
    (Nat.le_add_right _ _).trans hs.account, hs.failures, hs.openCount, hs.deadline⟩

end EdgeSafety.SharedInferenceScheduler
