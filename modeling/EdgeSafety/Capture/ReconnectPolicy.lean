import EdgeSafety.Lib.Loops
import EdgeSafety.Shared.Configuration
import Mathlib.Algebra.Order.Archimedean.Basic
import Mathlib.Data.Rat.Floor
import Mathlib.Tactic.Linarith
import Mathlib.Tactic.NormNum

/-!
# The reconnect back-off

`ReconnectPolicy` of `capture/reconnect_policy.py`, and the turns of `_capture_process_main` that
wait for its delay. A float is a rational. `multiplier ** attempts` is computed before the cap is
applied, and CPython raises `OverflowError` for a power of `2 ** 1024` or more; the exception leaves
the counter as it was, so that every later call raises too, until a reset.
-/

namespace EdgeSafety

/-- `ReconnectConfig`, with the fields that only `ReconnectPolicy` reads. -/
structure ReconnectDelays extends ReconnectConfig where
  initialDelayMs : Nat := 500
  maximumDelayMs : Nat := 30000
  multiplier : ℚ := 2
  initialDelayMs_bounds : 100 ≤ initialDelayMs ∧ initialDelayMs ≤ 60000 := by decide
  maximumDelayMs_bounds : 500 ≤ maximumDelayMs ∧ maximumDelayMs ≤ 300000 := by decide
  multiplier_bounds : 11 / 10 ≤ multiplier ∧ multiplier ≤ 10 := by norm_num

/-- `ReconnectPolicy`. -/
structure ReconnectPolicy where
  config : ReconnectDelays
  attempts : Nat := 0

namespace ReconnectDelays
variable (config : ReconnectDelays)

/-- The delay the policy is to return after `n` others. -/
def delay (n : Nat) : ℚ :=
  min (config.maximumDelayMs : ℚ) (config.initialDelayMs * config.multiplier ^ n) / 1000

theorem one_le_multiplier : 1 ≤ config.multiplier := by
  have := config.multiplier_bounds.1
  linarith

theorem delay_mono {m n : Nat} (h : m ≤ n) : config.delay m ≤ config.delay n := by
  have hpower : config.multiplier ^ m ≤ config.multiplier ^ n :=
    pow_le_pow_right₀ config.one_le_multiplier h
  have hgrown : (config.initialDelayMs : ℚ) * config.multiplier ^ m ≤
      config.initialDelayMs * config.multiplier ^ n :=
    mul_le_mul_of_nonneg_left hpower (Nat.cast_nonneg _)
  apply div_le_div_of_nonneg_right
  · exact min_le_min_left _ hgrown
  · norm_num

theorem delay_le (n : Nat) : config.delay n ≤ config.maximumDelayMs / 1000 := by
  apply div_le_div_of_nonneg_right
  · exact min_le_left _ _
  · norm_num

/-- The cap is reached by the call that follows 85 others, whatever the settings are. -/
theorem delay_eq_maximum {n : Nat} (h : 85 ≤ n) :
    config.delay n = config.maximumDelayMs / 1000 := by
  have hinitial : (100 : ℚ) ≤ config.initialDelayMs := by
    exact_mod_cast config.initialDelayMs_bounds.1
  have hmaximum : (config.maximumDelayMs : ℚ) ≤ 300000 := by
    exact_mod_cast config.maximumDelayMs_bounds.2
  have hpower : (3000 : ℚ) ≤ config.multiplier ^ n := by
    calc (3000 : ℚ) ≤ (11 / 10) ^ 85 := by norm_num
      _ ≤ config.multiplier ^ 85 := pow_le_pow_left₀ (by norm_num) config.multiplier_bounds.1 _
      _ ≤ config.multiplier ^ n := pow_le_pow_right₀ config.one_le_multiplier h
  have hgrown : (config.maximumDelayMs : ℚ) ≤ config.initialDelayMs * config.multiplier ^ n := by
    calc (config.maximumDelayMs : ℚ) ≤ 100 * 3000 := by linarith
      _ ≤ config.initialDelayMs * config.multiplier ^ n :=
        mul_le_mul hinitial hpower (by norm_num) (by linarith)
  rw [delay, min_eq_left hgrown]

/-- Every setting makes the power too large for a float in the end. -/
theorem exists_overflow : ∃ n, 2 ^ 1024 ≤ config.multiplier ^ n := by
  have hgrows : 1 < config.multiplier := by
    have := config.multiplier_bounds.1
    linarith
  obtain ⟨n, hn⟩ := pow_unbounded_of_one_lt (2 ^ 1024) hgrows
  exact ⟨n, hn.le⟩

end ReconnectDelays

namespace ReconnectPolicy

/-- `base ** exponent`, of a float and an `int`. -/
def floatPow (base : ℚ) (exponent : Nat) : Except String ℚ :=
  if 2 ^ 1024 ≤ base ^ exponent then .error "(34, 'Numerical result out of range')"
  else .ok (base ^ exponent)

/-- `next_delay_seconds`: the delay or the exception, and the policy it leaves. -/
def nextDelaySeconds (policy : ReconnectPolicy) : Except String ℚ × ReconnectPolicy :=
  match floatPow policy.config.multiplier policy.attempts with
  | .error error => (.error error, policy)
  | .ok power =>
    let delayMs := min (policy.config.maximumDelayMs : ℚ) (policy.config.initialDelayMs * power)
    (.ok (delayMs / 1000), { policy with attempts := policy.attempts + 1 })

/-- `reset`. -/
def reset (policy : ReconnectPolicy) : ReconnectPolicy := { policy with attempts := 0 }

/-- A call of a method of the policy. -/
inductive Call
  | nextDelaySeconds
  | reset

/-- The policy after a call, whether or not it raised. -/
def call (policy : ReconnectPolicy) : Call → ReconnectPolicy
  | .nextDelaySeconds => policy.nextDelaySeconds.2
  | .reset => policy.reset

/-- The policy after some calls. -/
def run (policy : ReconnectPolicy) (calls : List Call) : ReconnectPolicy := calls.foldl call policy

/-- What the call of `next_delay_seconds` answers that comes `n` calls after a reset, with any
calls before that reset. -/
def answer (config : ReconnectDelays) (before : List Call) (n : Nat) : Except String ℚ :=
  (run { config } (before ++ .reset :: List.replicate n .nextDelaySeconds)).nextDelaySeconds.1

section Step
variable (policy : ReconnectPolicy)

theorem nextDelaySeconds_of_lt
    (h : policy.config.multiplier ^ policy.attempts < 2 ^ 1024) :
    policy.nextDelaySeconds = (.ok (policy.config.delay policy.attempts),
      { policy with attempts := policy.attempts + 1 }) := by
  simp only [nextDelaySeconds, floatPow, if_neg (not_le.mpr h), ReconnectDelays.delay]

theorem nextDelaySeconds_of_le
    (h : 2 ^ 1024 ≤ policy.config.multiplier ^ policy.attempts) :
    policy.nextDelaySeconds = (.error "(34, 'Numerical result out of range')", policy) := by
  simp only [nextDelaySeconds, floatPow, if_pos h]

theorem nextDelaySeconds_config : policy.nextDelaySeconds.2.config = policy.config := by
  rcases lt_or_ge (policy.config.multiplier ^ policy.attempts) (2 ^ 1024) with h | h
  · rw [nextDelaySeconds_of_lt policy h]
  · rw [nextDelaySeconds_of_le policy h]

theorem call_config (c : Call) : (policy.call c).config = policy.config := by
  cases c with
  | nextDelaySeconds => exact nextDelaySeconds_config policy
  | reset => rfl

theorem run_config (calls : List Call) : (policy.run calls).config = policy.config := by
  induction calls generalizing policy with
  | nil => rfl
  | cons c calls ih => exact (ih (policy.call c)).trans (call_config policy c)

end Step

/-- What the counter is after `n` calls since a reset: their number, or the number at which the
power became too large. -/
structure Counts (config : ReconnectDelays) (n : Nat) (policy : ReconnectPolicy) : Prop where
  config_eq : policy.config = config
  attempts_le : policy.attempts ≤ n
  stuck : policy.attempts < n → 2 ^ 1024 ≤ config.multiplier ^ policy.attempts

theorem Counts.next {config : ReconnectDelays} {n : Nat} {policy : ReconnectPolicy}
    (h : Counts config n policy) : Counts config (n + 1) policy.nextDelaySeconds.2 := by
  obtain ⟨rfl, hle, hstuck⟩ := h
  rcases lt_or_ge (policy.config.multiplier ^ policy.attempts) (2 ^ 1024) with hsmall | hlarge
  · rw [nextDelaySeconds_of_lt policy hsmall]
    refine ⟨rfl, Nat.succ_le_succ hle, ?_⟩
    intro hlt
    exact absurd hsmall (not_lt.mpr (hstuck (Nat.lt_of_succ_lt_succ hlt)))
  · rw [nextDelaySeconds_of_le policy hlarge]
    exact ⟨rfl, Nat.le_succ_of_le hle, fun _ => hlarge⟩

theorem Counts.run {config : ReconnectDelays} {n : Nat} {policy : ReconnectPolicy}
    (h : Counts config n policy) (m : Nat) :
    Counts config (n + m) (policy.run (List.replicate m .nextDelaySeconds)) := by
  induction m generalizing n policy with
  | zero => exact h
  | succ m ih =>
    have hnext := ih h.next
    rw [Nat.add_right_comm] at hnext
    exact hnext

/-- The answer to a call: the delay, unless the power is too large. -/
theorem Counts.answer {config : ReconnectDelays} {n : Nat} {policy : ReconnectPolicy}
    (h : Counts config n policy) :
    policy.nextDelaySeconds.1 =
      if config.multiplier ^ n < 2 ^ 1024 then .ok (config.delay n)
      else .error "(34, 'Numerical result out of range')" := by
  obtain ⟨rfl, hle, hstuck⟩ := h
  have hpower : policy.config.multiplier ^ policy.attempts ≤ policy.config.multiplier ^ n :=
    pow_le_pow_right₀ policy.config.one_le_multiplier hle
  rcases lt_or_ge (policy.config.multiplier ^ policy.attempts) (2 ^ 1024) with hsmall | hlarge
  · have hall : policy.attempts = n :=
      Nat.le_antisymm hle (not_lt.mp fun hlt => not_lt.mpr (hstuck hlt) hsmall)
    rw [nextDelaySeconds_of_lt policy hsmall, ← hall, if_pos hsmall]
  · rw [nextDelaySeconds_of_le policy hlarge, if_neg (not_lt.mpr (hlarge.trans hpower))]

theorem counts_answered (config : ReconnectDelays) (before : List Call) (n : Nat) :
    Counts config n
      (run { config } (before ++ .reset :: List.replicate n .nextDelaySeconds)) := by
  have hreset : Counts config 0 ((run { config } before).reset) :=
    ⟨run_config _ before, le_refl _, fun h => absurd h (Nat.lt_irrefl 0)⟩
  have hrun := hreset.run n
  rw [Nat.zero_add] at hrun
  simpa [run, call] using hrun

theorem answer_eq (config : ReconnectDelays) (before : List Call) (n : Nat) :
    answer config before n =
      if config.multiplier ^ n < 2 ^ 1024 then .ok (config.delay n)
      else .error "(34, 'Numerical result out of range')" :=
  (counts_answered config before n).answer

theorem answer_ok_iff (config : ReconnectDelays) (before : List Call) (n : Nat) :
    answer config before n = .ok (config.delay n) ↔ config.multiplier ^ n < 2 ^ 1024 := by
  rw [answer_eq]
  split <;> simp [*]

/-- The back-off over an outage of so many calls after a reset: each returns its delay, the delays
do not decrease, none is above the maximum, and after 85 calls each is the maximum. -/
structure BacksOff (config : ReconnectDelays) (before : List Call) (outage : Nat) : Prop where
  returns : ∀ n < outage, answer config before n = .ok (config.delay n)
  monotone : ∀ m n, m ≤ n → n < outage → ∀ d e, answer config before m = .ok d →
    answer config before n = .ok e → d ≤ e
  bounded : ∀ n < outage, ∀ d, answer config before n = .ok d →
    d ≤ config.maximumDelayMs / 1000
  settles : ∀ n < outage, 85 ≤ n →
    answer config before n = .ok (config.maximumDelayMs / 1000)

/-- The back-off is right over an outage exactly when no power in it is too large for a float. -/
theorem backs_off_iff (config : ReconnectDelays) (before : List Call) (outage : Nat) :
    BacksOff config before outage ↔ ∀ n < outage, config.multiplier ^ n < 2 ^ 1024 := by
  constructor
  · intro h n hn
    exact (answer_ok_iff config before n).mp (h.returns n hn)
  · intro h
    have hreturns : ∀ n < outage, answer config before n = .ok (config.delay n) :=
      fun n hn => (answer_ok_iff config before n).mpr (h n hn)
    refine ⟨hreturns, ?_, ?_, ?_⟩
    · intro m n hmn hn d e hd he
      rw [hreturns m (by omega), Except.ok.injEq] at hd
      rw [hreturns n hn, Except.ok.injEq] at he
      rw [← hd, ← he]
      exact config.delay_mono hmn
    · intro n hn d hd
      rw [hreturns n hn, Except.ok.injEq] at hd
      rw [← hd]
      exact config.delay_le n
    · intro n hn hsettled
      rw [hreturns n hn, config.delay_eq_maximum hsettled]

/-- The default settings. -/
def defaultDelays : ReconnectDelays := {}

/-- With the default settings the call that follows 1024 others raises. -/
theorem default_overflows :
    answer defaultDelays [] 1024 = .error "(34, 'Numerical result out of range')" ∧
      ¬ BacksOff defaultDelays [] 1025 := by
  have hpower : ¬ (defaultDelays.multiplier ^ 1024 < 2 ^ 1024) := lt_irrefl _
  constructor
  · rw [answer_eq, if_neg hpower]
  · intro h
    exact hpower ((answer_ok_iff defaultDelays [] 1024).mp (h.returns 1024 (by omega)))

/-! ## The capture process -/

/-- How a turn of the outer loop of `_capture_process_main` comes to its wait. -/
inductive Turn
  /-- The device does not open. -/
  | openFails
  /-- The device opens, and the loop over its frames breaks. -/
  | framesEnd

/-- The policy after a turn, unless the exception ends the process. -/
def turn (policy : ReconnectPolicy) : Turn → Except String ReconnectPolicy
  | .openFails => policy.nextDelaySeconds.1.map fun _ => policy.nextDelaySeconds.2
  | .framesEnd => policy.reset.nextDelaySeconds.1.map fun _ => policy.reset.nextDelaySeconds.2

/-- The policy of a capture process after some turns. -/
def captureProcess (config : ReconnectDelays) (turns : List Turn) :
    Except String ReconnectPolicy :=
  turns.foldlM turn { config }

/-- Waiting for the delay keeps the settings. -/
theorem wait_config {policy next : ReconnectPolicy}
    (h : (policy.nextDelaySeconds.1.map fun _ => policy.nextDelaySeconds.2) = .ok next) :
    next.config = policy.config := by
  cases hanswer : policy.nextDelaySeconds.1 with
  | error error =>
    rw [hanswer] at h
    cases h
  | ok d =>
    rw [hanswer] at h
    cases h
    exact nextDelaySeconds_config policy

theorem turn_config {policy next : ReconnectPolicy} {t : Turn} (h : policy.turn t = .ok next) :
    next.config = policy.config := by
  cases t with
  | openFails => exact wait_config h
  | framesEnd =>
    have hreset : next.config = policy.reset.config := wait_config h
    exact hreset

theorem foldlM_turn_config {turns : List Turn} {policy next : ReconnectPolicy}
    (h : turns.foldlM turn policy = .ok next) : next.config = policy.config := by
  induction turns generalizing policy with
  | nil =>
    cases h
    rfl
  | cons t turns ih =>
    rw [List.foldlM_cons] at h
    obtain ⟨middle, hturn, h⟩ := Loops.bind_eq_ok h
    exact (ih h).trans (turn_config hturn)

/-- A turn in which the device does not open. -/
theorem turn_openFails (policy : ReconnectPolicy) :
    policy.turn .openFails =
      if policy.config.multiplier ^ policy.attempts < 2 ^ 1024 then
        .ok { policy with attempts := policy.attempts + 1 }
      else .error "(34, 'Numerical result out of range')" := by
  rcases lt_or_ge (policy.config.multiplier ^ policy.attempts) (2 ^ 1024) with h | h
  · rw [turn, nextDelaySeconds_of_lt policy h, if_pos h]
    rfl
  · rw [turn, nextDelaySeconds_of_le policy h, if_neg (not_lt.mpr h)]
    rfl

/-- The process outlives an outage only if no power in it is too large. -/
theorem outlives_outage {policy next : ReconnectPolicy} {n : Nat}
    (h : (List.replicate n Turn.openFails).foldlM turn policy = .ok next) :
    ∀ m < n, policy.config.multiplier ^ (policy.attempts + m) < 2 ^ 1024 := by
  induction n generalizing policy with
  | zero =>
    intro m hm
    omega
  | succ n ih =>
    rw [List.replicate_succ, List.foldlM_cons, turn_openFails] at h
    split at h
    · next hsmall =>
      intro m hm
      cases m with
      | zero => exact hsmall
      | succ m =>
        have hlater := ih h m (by omega)
        rw [Nat.add_right_comm, Nat.add_assoc] at hlater
        exact hlater
    · cases h

/-- Under every setting and after any turns, a device that stays away long enough ends the capture
process with the exception. -/
theorem outage_ends_process (config : ReconnectDelays) (turns : List Turn) :
    ∃ n, ∀ m, n ≤ m → ∀ policy,
      captureProcess config (turns ++ List.replicate m .openFails) ≠ .ok policy := by
  obtain ⟨n, hn⟩ := config.exists_overflow
  refine ⟨n + 1, ?_⟩
  intro m hm policy hpolicy
  rw [captureProcess, List.foldlM_append] at hpolicy
  obtain ⟨middle, hturns, hpolicy⟩ := Loops.bind_eq_ok hpolicy
  have hsmall := outlives_outage hpolicy n (by omega)
  rw [foldlM_turn_config hturns] at hsmall
  have hlarger : config.multiplier ^ n ≤ config.multiplier ^ (middle.attempts + n) :=
    pow_le_pow_right₀ config.one_le_multiplier (Nat.le_add_left _ _)
  exact absurd hsmall (not_lt.mpr (hn.trans hlarger))

end ReconnectPolicy
end EdgeSafety
