import EdgeSafety.Lib.GainCorrection
import EdgeSafety.Tracking.Lifetime
import Mathlib.Tactic.FinCases

/-!
# The covariance of a track

Over the reals the covariance that `KalmanFilterXYAH` keeps is positive definite: `initiate` starts
from a positive diagonal, `predict` is a congruence plus noise, and `update` is the correction by
the optimal gain. The noise depends on the estimated height, which `max(height, 1.0)` keeps
positive whatever the estimate is.
-/

namespace EdgeSafety
namespace KalmanFilterXYAH
open Matrix

section Runs
variable {K : Type} [Field K] [LinearOrder K]

/-- One call that continues a filter. -/
inductive FilterStep (K : Type) where
  | predict
  | update (measurement : Fin 4 → K)

/-- The mean and covariance after one call. -/
def FilterStep.apply (state : (Fin 8 → K) × Matrix (Fin 8) (Fin 8) K) :
    FilterStep K → (Fin 8 → K) × Matrix (Fin 8) (Fin 8) K
  | .predict => KalmanFilterXYAH.predict state.1 state.2
  | .update measurement => KalmanFilterXYAH.update state.1 state.2 measurement

/-- The mean and covariance after `initiate` and the calls that follow it. -/
def filtered (measurement : Fin 4 → K) (steps : List (FilterStep K)) :
    (Fin 8 → K) × Matrix (Fin 8) (Fin 8) K :=
  steps.foldl FilterStep.apply (initiate measurement)

theorem filtered_concat (measurement : Fin 4 → K) (steps : List (FilterStep K))
    (step : FilterStep K) :
    filtered measurement (steps ++ [step]) = step.apply (filtered measurement steps) := by
  simp [filtered]

end Runs

/-- A diagonal of squares of positive deviations. -/
theorem posDef_squares {n : Nat} {deviation : Fin n → ℝ} (h : ∀ i, 0 < deviation i) :
    (Matrix.diagonal fun i => deviation i ^ 2).PosDef :=
  PosDef.diagonal fun i => pow_pos (h i) 2

theorem innovationCovariance_posDef (mean : Fin 8 → ℝ) : (innovationCovariance mean).PosDef := by
  apply posDef_squares
  intro i
  fin_cases i <;> simp

theorem initiate_posDef (measurement : Fin 4 → ℝ) : (initiate measurement).2.PosDef := by
  apply posDef_squares
  intro i
  fin_cases i <;> simp

theorem predict_posDef (mean : Fin 8 → ℝ) {covariance : Matrix (Fin 8) (Fin 8) ℝ}
    (h : covariance.PosDef) : (predict mean covariance).2.PosDef := by
  apply GainCorrection.posDef_congruence_add h
  apply posDef_squares
  intro i
  fin_cases i <;> simp

theorem projectedCovariance_posDef (mean : Fin 8 → ℝ) {covariance : Matrix (Fin 8) (Fin 8) ℝ}
    (h : covariance.PosDef) : (projectedCovariance mean covariance).PosDef :=
  GainCorrection.posDef_congruence_add h (innovationCovariance_posDef mean) updateMatrix

/-- Cramer's rule is the product with the inverse. -/
theorem linalgSolve_eq {m n : Nat} (a : Matrix (Fin m) (Fin m) ℝ)
    (b : Matrix (Fin m) (Fin n) ℝ) : linalgSolve a b = a⁻¹ * b := by
  rw [linalgSolve, Matrix.inv_def, Ring.inverse_eq_inv', Matrix.smul_mul]

/-- What `update` makes of the covariance is the correction by the optimal gain. -/
theorem update_covariance (mean : Fin 8 → ℝ) (covariance : Matrix (Fin 8) (Fin 8) ℝ)
    (measurement : Fin 4 → ℝ) :
    (update mean covariance measurement).2 =
      GainCorrection.corrected covariance (innovationCovariance mean) updateMatrix := by
  simp only [update, linalgSolve_eq]
  rfl

theorem update_posDef (mean : Fin 8 → ℝ) {covariance : Matrix (Fin 8) (Fin 8) ℝ}
    (h : covariance.PosDef) (measurement : Fin 4 → ℝ) :
    (update mean covariance measurement).2.PosDef := by
  rw [update_covariance]
  exact GainCorrection.posDef_corrected _ h (innovationCovariance_posDef mean)

/-- One call keeps the covariance positive definite. -/
theorem apply_posDef (step : FilterStep ℝ) {state : (Fin 8 → ℝ) × Matrix (Fin 8) (Fin 8) ℝ}
    (h : state.2.PosDef) : (step.apply state).2.PosDef := by
  cases step with
  | predict => exact predict_posDef state.1 h
  | update measurement => exact update_posDef state.1 h measurement

theorem filtered_posDef (measurement : Fin 4 → ℝ) (steps : List (FilterStep ℝ)) :
    (filtered measurement steps).2.PosDef := by
  induction steps using List.reverseRecOn with
  | nil => exact initiate_posDef measurement
  | append_singleton steps step ih =>
    rw [filtered_concat]
    exact apply_posDef step ih

/-- A filter that is not singular: the covariance and its projection are symmetric and positive
definite, `np.linalg.solve` has one solution for every right-hand side and returns it, and no
measurement increases a variance. -/
structure NonSingular (mean : Fin 8 → ℝ) (covariance : Matrix (Fin 8) (Fin 8) ℝ) : Prop where
  symmetric : covariance.IsSymm
  posDef : covariance.PosDef
  projected_symmetric : (projectedCovariance mean covariance).IsSymm
  projected_posDef : (projectedCovariance mean covariance).PosDef
  solution_unique : ∀ {n : Nat} (b : Matrix (Fin 4) (Fin n) ℝ),
    ∃! x : Matrix (Fin 4) (Fin n) ℝ, projectedCovariance mean covariance * x = b
  solved : ∀ {n : Nat} (b : Matrix (Fin 4) (Fin n) ℝ),
    projectedCovariance mean covariance * linalgSolve (projectedCovariance mean covariance) b = b
  update_diag_le : ∀ (measurement : Fin 4 → ℝ) (i : Fin 8),
    (update mean covariance measurement).2 i i ≤ covariance i i

theorem nonSingular_of_posDef (mean : Fin 8 → ℝ) {covariance : Matrix (Fin 8) (Fin 8) ℝ}
    (h : covariance.PosDef) : NonSingular mean covariance := by
  have hprojected := projectedCovariance_posDef mean h
  refine ⟨GainCorrection.transpose_of_posDef h, h, GainCorrection.transpose_of_posDef hprojected,
    hprojected, ?_, ?_, ?_⟩
  · intro n b
    refine ⟨_, (GainCorrection.solve_iff hprojected b _).mpr rfl, ?_⟩
    intro x hx
    exact (GainCorrection.solve_iff hprojected b x).mp hx
  · intro n b
    exact (GainCorrection.solve_iff hprojected b _).mpr (linalgSolve_eq _ b)
  · intro measurement i
    rw [update_covariance]
    exact GainCorrection.corrected_diag_le _ h (innovationCovariance_posDef mean) i

/-- The filter never becomes singular: not after `initiate`, and not after any calls of `predict`
and `update` with any measurements. -/
theorem filter_never_singular (measurement : Fin 4 → ℝ) (steps : List (FilterStep ℝ)) :
    NonSingular (filtered measurement steps).1 (filtered measurement steps).2 :=
  nonSingular_of_posDef _ (filtered_posDef measurement steps)

end KalmanFilterXYAH

namespace ByteTracker
open KalmanFilterXYAH

/-- The track holds what `initiate` and some calls of the filter made. -/
def Filtered (track : Track ℝ) : Prop :=
  ∃ measurement steps, (track.mean, track.covariance) = filtered measurement steps

section Step
variable {track : Track ℝ}

theorem Filtered.predict (h : Filtered track) : Filtered track.predict := by
  obtain ⟨measurement, steps, heq⟩ := h
  refine ⟨measurement, steps ++ [.predict], ?_⟩
  rw [filtered_concat, ← heq]
  rfl

theorem Filtered.observe (h : Filtered track) (frameId : Nat) (detection : Detection ℝ) :
    Filtered (track.observe frameId detection) := by
  obtain ⟨measurement, steps, heq⟩ := h
  refine ⟨measurement, steps ++ [.update (xyxyToXyah detection.bbox)], ?_⟩
  rw [filtered_concat, ← heq]
  rfl

theorem Filtered.age (h : Filtered track) (frameId : Nat) (trackBuffer : Int) :
    Filtered (track.age frameId trackBuffer) := by
  unfold Track.age
  split
  · exact h
  · exact h

theorem filtered_create (frameId trackId : Nat) (detection : Detection ℝ) :
    Filtered (Track.create frameId trackId detection) :=
  ⟨xyxyToXyah detection.bbox, [], rfl⟩

end Step

/-- Every track of a tracker in any state it reaches is a run of the filter. -/
theorem after_filtered {t : ByteTracker ℝ} (h : t.WellFormed)
    (hfiltered : ∀ track ∈ t.tracks, Filtered track) (inputs : Nat → Input ℝ) (k : Nat) :
    ∀ track ∈ (t.after inputs k).tracks, Filtered track := by
  induction k with
  | zero => exact hfiltered
  | succ k ih =>
    have hself := nextFrame_wellFormed (after_wellFormed h inputs k)
    intro track htrack
    rcases (mem_retained _ _).mp htrack with ⟨old, rfl, -⟩ | hnew
    · have hold := ih _ (List.get_mem _ old)
      rw [aged_eq _ _ hself]
      cases (t.after inputs k).nextFrame.observed (inputs k).linearSumAssignment
          (inputs k).detections old with
      | none => exact hold.predict.age _ _
      | some detection => exact hold.predict.observe _ detection
    · obtain ⟨id, detection, -, rfl⟩ := Track.mem_createAll _ hnew
      exact filtered_create _ _ _

/-- No track of a tracker ever has a singular filter. -/
theorem after_nonSingular (cameraId : String) (options : TrackerOptions ℝ)
    (inputs : Nat → Input ℝ) (k : Nat) :
    ∀ track ∈ ((fresh cameraId options).after inputs k).tracks,
      NonSingular track.mean track.covariance := by
  intro track htrack
  have hnone : ∀ track ∈ (fresh cameraId options : ByteTracker ℝ).tracks, Filtered track := by
    simp [fresh]
  obtain ⟨measurement, steps, heq⟩ :=
    after_filtered (fresh_wellFormed cameraId options) hnone inputs k track htrack
  have hposDef := filtered_posDef measurement steps
  rw [← heq] at hposDef
  exact nonSingular_of_posDef _ hposDef

end ByteTracker
end EdgeSafety
