import Mathlib.Algebra.Order.Star.Real
import Mathlib.LinearAlgebra.Matrix.PosDef
import Mathlib.Tactic.Abel

/-!
# Positive definite matrices and the gain correction

Over the reals: a congruence plus a positive definite matrix is positive definite
(`posDef_congruence_add`), and so is what the correction by the optimal gain leaves of one
(`posDef_corrected`), by Joseph's form of it (`corrected_eq_joseph`). The correction takes a
positive semidefinite matrix away, so that no entry of the diagonal increases
(`corrected_diag_le`).
-/

namespace EdgeSafety.GainCorrection

open Matrix

variable {n m : Type} [Fintype n] [Fintype m]

omit [Fintype n] in
theorem transpose_of_posDef {a : Matrix n n ℝ} (h : a.PosDef) : aᵀ = a := by
  have hsymm := h.isHermitian.eq
  rwa [conjTranspose_eq_transpose_of_trivial] at hsymm

/-- The quadratic form of a congruence. -/
theorem dotProduct_congruence (a : Matrix n n ℝ) (b : Matrix m n ℝ) (x : m → ℝ) :
    star x ⬝ᵥ ((b * a * bᵀ) *ᵥ x) = star (bᵀ *ᵥ x) ⬝ᵥ (a *ᵥ (bᵀ *ᵥ x)) := by
  simp only [star_trivial]
  rw [← mulVec_mulVec, ← mulVec_mulVec, dotProduct_mulVec x b, ← mulVec_transpose]

/-- A congruence of a positive definite matrix, and some noise. -/
theorem posDef_congruence_add {covariance : Matrix n n ℝ} {noise : Matrix m m ℝ}
    (hcovariance : covariance.PosDef) (hnoise : noise.PosDef) (map : Matrix m n ℝ) :
    (map * covariance * mapᵀ + noise).PosDef := by
  have hcongruence := hcovariance.posSemidef.mul_mul_conjTranspose_same map
  rw [conjTranspose_eq_transpose_of_trivial] at hcongruence
  exact PosDef.posSemidef_add hcongruence hnoise

variable [DecidableEq n] [DecidableEq m]

omit [Fintype n] [DecidableEq n] in
/-- The solution of a system with a positive definite matrix, and the only one. -/
theorem solve_iff {a : Matrix m m ℝ} (h : a.PosDef) (b x : Matrix m n ℝ) :
    a * x = b ↔ x = a⁻¹ * b := by
  have hunit := (isUnit_iff_isUnit_det a).mp h.isUnit
  constructor
  · rintro rfl
    rw [nonsing_inv_mul_cancel_left _ _ hunit]
  · rintro rfl
    rw [mul_nonsing_inv_cancel_left _ _ hunit]

section Correction
variable (covariance : Matrix n n ℝ) (noise : Matrix m m ℝ) (map : Matrix m n ℝ)

/-- The covariance of the innovation. -/
def projected : Matrix m m ℝ := map * covariance * mapᵀ + noise

/-- The optimal gain. -/
noncomputable def gain : Matrix n m ℝ :=
  ((projected covariance noise map)⁻¹ * (map * covariance))ᵀ

/-- The covariance after the correction. -/
noncomputable def corrected : Matrix n n ℝ :=
  covariance - gain covariance noise map * projected covariance noise map *
    (gain covariance noise map)ᵀ

variable {covariance noise} (hcovariance : covariance.PosDef) (hnoise : noise.PosDef)
include hcovariance hnoise

omit [DecidableEq n] in
/-- The gain solves its equation. -/
theorem projected_mul_gain :
    projected covariance noise map * (gain covariance noise map)ᵀ = map * covariance := by
  have hprojected := posDef_congruence_add hcovariance hnoise map
  rw [gain, transpose_transpose]
  exact (solve_iff hprojected _ _).mpr rfl

omit [DecidableEq n] in
theorem gain_mul_projected :
    gain covariance noise map * projected covariance noise map = covariance * mapᵀ := by
  have hprojected := posDef_congruence_add hcovariance hnoise map
  have hsolves := congrArg transpose (projected_mul_gain map hcovariance hnoise)
  rw [transpose_mul, transpose_mul, transpose_transpose, transpose_of_posDef hcovariance,
    projected, transpose_of_posDef hprojected] at hsolves
  exact hsolves

/-- Joseph's form of the correction. -/
theorem corrected_eq_joseph :
    corrected covariance noise map =
      (1 - gain covariance noise map * map) * covariance *
          (1 - gain covariance noise map * map)ᵀ +
        gain covariance noise map * noise * (gain covariance noise map)ᵀ := by
  have hleft := projected_mul_gain map hcovariance hnoise
  have hright := gain_mul_projected map hcovariance hnoise
  rw [corrected]
  generalize gain covariance noise map = k at hleft hright ⊢
  have hprojected : projected covariance noise map = map * covariance * mapᵀ + noise := rfl
  calc covariance - k * projected covariance noise map * kᵀ
      = covariance - k * (projected covariance noise map * kᵀ) -
          k * projected covariance noise map * kᵀ +
          k * (map * covariance * mapᵀ + noise) * kᵀ := by
        rw [← hprojected, Matrix.mul_assoc k]
        abel
    _ = covariance - k * (map * covariance) - covariance * mapᵀ * kᵀ +
          k * (map * covariance * mapᵀ + noise) * kᵀ := by
        rw [hleft, hright]
    _ = (1 - k * map) * covariance * (1 - k * map)ᵀ + k * noise * kᵀ := by
        simp only [transpose_sub, transpose_one, transpose_mul, Matrix.sub_mul, Matrix.mul_sub,
          Matrix.add_mul, Matrix.mul_add, Matrix.one_mul, Matrix.mul_one, Matrix.mul_assoc]
        abel

/-- The correction leaves a positive definite matrix: where the gain sees a direction the noise
keeps it, and where it does not the covariance is as it was. -/
theorem posDef_corrected : (corrected covariance noise map).PosDef := by
  rw [corrected_eq_joseph map hcovariance hnoise]
  generalize gain covariance noise map = k
  have hpast := hcovariance.posSemidef.mul_mul_conjTranspose_same (1 - k * map)
  have hnew := hnoise.posSemidef.mul_mul_conjTranspose_same k
  rw [conjTranspose_eq_transpose_of_trivial] at hpast hnew
  apply PosDef.of_dotProduct_mulVec_pos (hpast.isHermitian.add hnew.isHermitian)
  intro x hx
  rw [add_mulVec, dotProduct_add]
  by_cases hseen : kᵀ *ᵥ x = 0
  · have hsame : (1 - k * map)ᵀ *ᵥ x = x := by
      rw [transpose_sub, transpose_one, transpose_mul, sub_mulVec, one_mulVec, ← mulVec_mulVec,
        hseen, mulVec_zero, sub_zero]
    apply add_pos_of_pos_of_nonneg
    · rw [dotProduct_congruence, hsame]
      exact hcovariance.dotProduct_mulVec_pos hx
    · exact hnew.dotProduct_mulVec_nonneg x
  · apply add_pos_of_nonneg_of_pos
    · exact hpast.dotProduct_mulVec_nonneg x
    · rw [dotProduct_congruence]
      exact hnoise.dotProduct_mulVec_pos hseen

omit [DecidableEq n] in
/-- The correction increases no variance. -/
theorem corrected_diag_le (i : n) : corrected covariance noise map i i ≤ covariance i i := by
  have hprojected := posDef_congruence_add hcovariance hnoise map
  have htaken := hprojected.posSemidef.mul_mul_conjTranspose_same (gain covariance noise map)
  rw [conjTranspose_eq_transpose_of_trivial] at htaken
  rw [corrected, Matrix.sub_apply]
  exact sub_le_self _ htaken.diag_nonneg

end Correction

end EdgeSafety.GainCorrection
