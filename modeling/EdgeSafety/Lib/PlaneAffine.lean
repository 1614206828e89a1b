import Mathlib.Algebra.Order.Field.Basic
import Mathlib.Data.Fintype.Basic
import Mathlib.Tactic.FieldSimp
import Mathlib.Tactic.FinCases
import Mathlib.Tactic.LinearCombination
import Mathlib.Tactic.Ring

/-!
# Affine maps of the plane

A map is given by two rows of three numbers. Three points that are not on a line determine it
(`eq_of_three`); `through` is the map with given images of them, and `inverse` that of a map with a
determinant. `scaling` enlarges around a point, the same in every direction.
-/

namespace EdgeSafety

/-- The map `(x, y) ↦ (xx * x + xy * y + x0, yx * x + yy * y + y0)`. -/
structure PlaneAffine (K : Type) where
  xx : K
  xy : K
  x0 : K
  yx : K
  yy : K
  y0 : K
  deriving DecidableEq

namespace PlaneAffine

variable {K : Type} [Field K]

/-- The image of a point. -/
def apply (map : PlaneAffine K) (p : K × K) : K × K :=
  (map.xx * p.1 + map.xy * p.2 + map.x0, map.yx * p.1 + map.yy * p.2 + map.y0)

/-- The determinant of the linear part. -/
def det (map : PlaneAffine K) : K := map.xx * map.yy - map.xy * map.yx

/-- The inverse of a map with a determinant. -/
def inverse (map : PlaneAffine K) : PlaneAffine K where
  xx := map.yy / map.det
  xy := -map.xy / map.det
  x0 := (map.xy * map.y0 - map.yy * map.x0) / map.det
  yx := -map.yx / map.det
  yy := map.xx / map.det
  y0 := (map.yx * map.x0 - map.xx * map.y0) / map.det

theorem inverse_apply {map : PlaneAffine K} (h : map.det ≠ 0) (p : K × K) :
    map.inverse.apply (map.apply p) = p := by
  apply Prod.ext
  · simp only [apply, inverse]
    field_simp
    rw [det]
    ring
  · simp only [apply, inverse]
    field_simp
    rw [det]
    ring

/-- Twice the area of the triangle of three points. -/
def area (p q r : K × K) : K := (q.1 - p.1) * (r.2 - p.2) - (q.2 - p.2) * (r.1 - p.1)

/-- The points are on a line. -/
def Collinear (points : Fin 3 → K × K) : Prop := area (points 0) (points 1) (points 2) = 0

/-- The map that takes three points to three others, by Cramer's rule. -/
def through (source destination : Fin 3 → K × K) : PlaneAffine K :=
  let det := area (source 0) (source 1) (source 2)
  let slopeX (f : K × K → K) := ((f (destination 1) - f (destination 0)) *
      ((source 2).2 - (source 0).2) - (f (destination 2) - f (destination 0)) *
      ((source 1).2 - (source 0).2)) / det
  let slopeY (f : K × K → K) := ((f (destination 2) - f (destination 0)) *
      ((source 1).1 - (source 0).1) - (f (destination 1) - f (destination 0)) *
      ((source 2).1 - (source 0).1)) / det
  { xx := slopeX Prod.fst
    xy := slopeY Prod.fst
    x0 := (destination 0).1 - slopeX Prod.fst * (source 0).1 - slopeY Prod.fst * (source 0).2
    yx := slopeX Prod.snd
    yy := slopeY Prod.snd
    y0 := (destination 0).2 - slopeX Prod.snd * (source 0).1 - slopeY Prod.snd * (source 0).2 }

/-- A number that solves the two linear equations of Cramer's rule. -/
theorem cramer {a b c d u v det : K} (hdet : det = a * d - b * c) (hne : det ≠ 0) :
    (u * d - v * b) / det * a + (v * a - u * c) / det * b = u ∧
      (u * d - v * b) / det * c + (v * a - u * c) / det * d = v := by
  constructor
  · field_simp
    rw [hdet]
    ring
  · field_simp
    rw [hdet]
    ring

theorem through_apply {source : Fin 3 → K × K} (h : ¬ Collinear source)
    (destination : Fin 3 → K × K) (k : Fin 3) :
    (through source destination).apply (source k) = destination k := by
  have hne : area (source 0) (source 1) (source 2) ≠ 0 := h
  have hdet : area (source 0) (source 1) (source 2) =
      ((source 1).1 - (source 0).1) * ((source 2).2 - (source 0).2) -
        ((source 1).2 - (source 0).2) * ((source 2).1 - (source 0).1) := rfl
  have hrows (f : K × K → K) := cramer (u := f (destination 1) - f (destination 0))
    (v := f (destination 2) - f (destination 0)) hdet hne
  obtain ⟨hx1, hx2⟩ := hrows Prod.fst
  obtain ⟨hy1, hy2⟩ := hrows Prod.snd
  fin_cases k
  · show (through source destination).apply (source 0) = destination 0
    apply Prod.ext
    · simp only [through, apply]
      ring
    · simp only [through, apply]
      ring
  · show (through source destination).apply (source 1) = destination 1
    apply Prod.ext
    · simp only [through, apply]
      linear_combination hx1
    · simp only [through, apply]
      linear_combination hy1
  · show (through source destination).apply (source 2) = destination 2
    apply Prod.ext
    · simp only [through, apply]
      linear_combination hx2
    · simp only [through, apply]
      linear_combination hy2

/-- A linear form that vanishes on the two sides of a triangle vanishes. -/
theorem eq_zero_of_sides {a b c d u v : K} (hdet : a * d - b * c ≠ 0) (h1 : u * a + v * b = 0)
    (h2 : u * c + v * d = 0) : u = 0 ∧ v = 0 := by
  constructor
  · apply (mul_eq_zero.mp ?_).resolve_right hdet
    linear_combination d * h1 - b * h2
  · apply (mul_eq_zero.mp ?_).resolve_right hdet
    linear_combination a * h2 - c * h1

/-- Maps that agree on three points not on a line are the same. -/
theorem eq_of_three {f g : PlaneAffine K} {points : Fin 3 → K × K} (h : ¬ Collinear points)
    (hagree : ∀ k, f.apply (points k) = g.apply (points k)) : f = g := by
  have hdet : ((points 1).1 - (points 0).1) * ((points 2).2 - (points 0).2) -
      ((points 1).2 - (points 0).2) * ((points 2).1 - (points 0).1) ≠ 0 := h
  obtain ⟨hx0, hy0⟩ := Prod.ext_iff.mp (hagree 0)
  obtain ⟨hx1, hy1⟩ := Prod.ext_iff.mp (hagree 1)
  obtain ⟨hx2, hy2⟩ := Prod.ext_iff.mp (hagree 2)
  simp only [apply] at hx0 hx1 hx2 hy0 hy1 hy2
  obtain ⟨hxx, hxy⟩ := eq_zero_of_sides (u := f.xx - g.xx) (v := f.xy - g.xy) hdet
    (by linear_combination hx1 - hx0) (by linear_combination hx2 - hx0)
  obtain ⟨hyx, hyy⟩ := eq_zero_of_sides (u := f.yx - g.yx) (v := f.yy - g.yy) hdet
    (by linear_combination hy1 - hy0) (by linear_combination hy2 - hy0)
  have hx : f.x0 = g.x0 := by
    linear_combination hx0 - (points 0).1 * hxx - (points 0).2 * hxy
  have hy : f.y0 = g.y0 := by
    linear_combination hy0 - (points 0).1 * hyx - (points 0).2 * hyy
  cases f
  cases g
  simp only [mk.injEq]
  exact ⟨sub_eq_zero.mp hxx, sub_eq_zero.mp hxy, hx, sub_eq_zero.mp hyx, sub_eq_zero.mp hyy, hy⟩

/-- The enlargement by a factor that takes one point to another. -/
def scaling (factor : K) (source destination : K × K) : PlaneAffine K where
  xx := factor
  xy := 0
  x0 := destination.1 - factor * source.1
  yx := 0
  yy := factor
  y0 := destination.2 - factor * source.2

theorem scaling_apply (factor : K) (source destination p : K × K) :
    (scaling factor source destination).apply p =
      (destination.1 + factor * (p.1 - source.1), destination.2 + factor * (p.2 - source.2)) := by
  apply Prod.ext
  · simp only [scaling, apply]
    ring
  · simp only [scaling, apply]
    ring

/-- Every point is the image of one. -/
theorem exists_scaling_apply {factor : K} (h : factor ≠ 0) (source destination q : K × K) :
    ∃ p, (scaling factor source destination).apply p = q := by
  refine ⟨(source.1 + (q.1 - destination.1) / factor,
    source.2 + (q.2 - destination.2) / factor), ?_⟩
  rw [scaling_apply]
  apply Prod.ext
  · simp only
    field_simp
    ring
  · simp only
    field_simp
    ring

theorem scaling_det_ne_zero {factor : K} (h : factor ≠ 0) (source destination : K × K) :
    (scaling factor source destination).det ≠ 0 := by
  have hdet : (scaling factor source destination).det = factor * factor := by
    simp [scaling, det]
  rw [hdet]
  exact mul_ne_zero h h

section Order
variable [LinearOrder K] [IsStrictOrderedRing K]

/-- An enlargement multiplies the distances along the axes. -/
theorem scaling_apply_sub {factor : K} (h : 0 < factor) (source destination p q : K × K) :
    |((scaling factor source destination).apply p).1 -
        ((scaling factor source destination).apply q).1| = factor * |p.1 - q.1| ∧
      |((scaling factor source destination).apply p).2 -
        ((scaling factor source destination).apply q).2| = factor * |p.2 - q.2| := by
  have hmul (a : K) : factor * |a| = |factor * a| := by rw [abs_mul, abs_of_pos h]
  rw [scaling_apply, scaling_apply, hmul, hmul]
  constructor
  · congr 1
    ring
  · congr 1
    ring

end Order

end PlaneAffine
end EdgeSafety
