import EdgeSafety.Lib.Dict
import EdgeSafety.Shared.Models

/-!
# The cooldown

`CooldownManager` of `alert/cooldown.py`. It notes the time of each alert that it lets pass, and
suppresses a violation as long as the last alert with its key is younger than the cooldown
(`shouldAlert_eq_false_iff`).
-/

namespace EdgeSafety

variable {K : Type} [Field K] [LinearOrder K]

/-- What the cooldown tells apart: the camera and the type of a violation. -/
abbrev AlertKey := String × ViolationType

/-- `_last_alert` maps the keys to the times of their last alerts. -/
structure CooldownManager (K : Type) [Field K] where
  cooldownSeconds : K := 5
  lastAlert : Dict AlertKey Nat := .empty

/-- `(now - since).total_seconds()`. -/
def elapsedSeconds (sinceUs nowUs : Nat) : K := ((nowUs : K) - sinceUs) / (1000000 : Nat)

/-- `CooldownManager.should_alert`, with the answer of `datetime.now()`. -/
def CooldownManager.shouldAlert (manager : CooldownManager K) (key : AlertKey) (nowUs : Nat) :
    Bool × CooldownManager K :=
  let fire := (true, { manager with lastAlert := manager.lastAlert.set key nowUs })
  match manager.lastAlert.get? key with
  | none => fire
  | some lastUs =>
    if elapsedSeconds lastUs nowUs < manager.cooldownSeconds then (false, manager) else fire

/-- The time since a moment grows. -/
theorem elapsedSeconds_mono [IsStrictOrderedRing K] {laterUs nowUs : Nat} (h : laterUs ≤ nowUs)
    (sinceUs : Nat) :
    (elapsedSeconds sinceUs laterUs : K) ≤ elapsedSeconds sinceUs nowUs := by
  have hcast : (laterUs : K) ≤ nowUs := Nat.cast_le.mpr h
  exact div_le_div_of_nonneg_right (sub_le_sub_right hcast _) (Nat.cast_nonneg _)

section Cooldown
variable {manager : CooldownManager K} {key : AlertKey} {nowUs : Nat}

/-- Whether a violation is suppressed. -/
theorem shouldAlert_eq_false_iff : (manager.shouldAlert key nowUs).1 = false ↔
    ∃ lastUs, manager.lastAlert.get? key = some lastUs ∧
      elapsedSeconds lastUs nowUs < manager.cooldownSeconds := by
  unfold CooldownManager.shouldAlert
  split
  · next hlast => simp [hlast]
  · next lastUs hlast =>
    rw [hlast]
    split
    · next helapsed => simp [helapsed]
    · next helapsed => simp [helapsed]

theorem shouldAlert_suppresses (h : (manager.shouldAlert key nowUs).1 = false) :
    (manager.shouldAlert key nowUs).2 = manager := by
  unfold CooldownManager.shouldAlert at h ⊢
  split at h
  · cases h
  · split at h
    · next helapsed => rw [if_pos helapsed]
    · cases h

theorem shouldAlert_fires (h : (manager.shouldAlert key nowUs).1 = true) :
    (manager.shouldAlert key nowUs).2 =
      { manager with lastAlert := manager.lastAlert.set key nowUs } := by
  unfold CooldownManager.shouldAlert at h ⊢
  split at h
  · rfl
  · split at h
    · cases h
    · next helapsed => rw [if_neg helapsed]

end Cooldown

end EdgeSafety
