import EdgeSafety.Detection.ModelManager
import EdgeSafety.Detection.YoloDetector
import EdgeSafety.Lib.Suppression
import Mathlib.Data.List.Pairwise

/-!
# Non-maximum suppression

`NMSBoxes` suppresses greedily: it goes through the boxes in falling order of their scores and
keeps those that do not overlap one that it kept. It reads a box as a corner and a size; the
detectors hand it two corners. What it keeps of the candidates is what it should keep exactly where
the misread boxes lead it, candidate by candidate, to what the boxes say (`nms_separates_iff`).
-/

namespace EdgeSafety

variable {K : Type} [Field K] [LinearOrder K]

/-- The length that two intervals share. -/
def sharedLength (first second first' second' : K) : K :=
  max 0 (min second second' - max first first')

/-- The area of a box in the image. -/
def BBox.area (box : BBox K) : K := max 0 box.width * max 0 box.height

/-- The area that two boxes share. -/
def BBox.intersection (a b : BBox K) : K :=
  sharedLength a.x1 a.x2 b.x1 b.x2 * sharedLength a.y1 a.y2 b.y1 b.y2

/-- The intersection over union of two boxes in the image. -/
def BBox.overlap (a b : BBox K) : K :=
  a.intersection b / (a.area + b.area - a.intersection b)

/-- The candidates with their indices, in falling order of their scores. -/
def byScore (candidates : List (Candidate K)) : List (Candidate K × Nat) :=
  candidates.zipIdx.mergeSort fun x y => y.1.score ≤ x.1.score

/-- What `NMSBoxes` says of a candidate whose two corners it reads as a corner and a size. -/
def rejectsMisread (overlap : Rect K → Rect K → K) (scoreThreshold nmsThreshold : K)
    (kept : List (Candidate K × Nat)) (x : Candidate K × Nat) : Bool :=
  x.1.score ≤ scoreThreshold ∨
    ∃ k ∈ kept, nmsThreshold < overlap x.1.bbox.asRect k.1.bbox.asRect

/-- Two candidates overlap in the image by more than the threshold. -/
def OverlapAbove (threshold : K) (k x : Candidate K × Nat) : Prop :=
  threshold < k.1.bbox.overlap x.1.bbox

instance OverlapAbove.decidable (threshold : K) : DecidableRel (OverlapAbove threshold) :=
  fun k x => inferInstanceAs (Decidable (threshold < k.1.bbox.overlap x.1.bbox))

/-- The misread boxes lead `NMSBoxes` to what the boxes say: in falling order of the scores, it
rejects a candidate where the candidate overlaps one that it kept, or one of the same score that it
is going to keep, and it keeps the candidate where it does not overlap one that it kept. -/
def MisreadHarmless (overlap : Rect K → Rect K → K) (scoreThreshold nmsThreshold : K)
    (candidates : List (Candidate K)) : Prop :=
  Suppression.Sound (rejectsMisread overlap scoreThreshold nmsThreshold)
    (OverlapAbove nmsThreshold) (fun x => x.1.score) [] (byScore candidates)

section
variable {candidates : List (Candidate K)} {x : Candidate K × Nat}

omit [Field K] in
theorem mem_byScore : x ∈ byScore candidates ↔ candidates[x.2]? = some x.1 := by
  rw [byScore, List.mem_mergeSort, List.mem_zipIdx_iff_getElem?]

/-- Misreading does no harm where it does not change whether two boxes overlap, and no score is at
the threshold. -/
theorem misreadHarmless_of_agrees {overlap : Rect K → Rect K → K} {scoreThreshold nmsThreshold : K}
    (hscore : ∀ a ∈ candidates, scoreThreshold < a.score)
    (hagrees : ∀ a ∈ candidates, ∀ b ∈ candidates,
      (nmsThreshold < overlap b.bbox.asRect a.bbox.asRect ↔
        nmsThreshold < a.bbox.overlap b.bbox)) :
    MisreadHarmless overlap scoreThreshold nmsThreshold candidates := by
  refine Suppression.sound_of_agrees (fun kept hkept x hx => ?_) (List.nil_subset _)
    (List.Subset.refl _)
  have hmem {y : Candidate K × Nat} (hy : y ∈ byScore candidates) : y.1 ∈ candidates :=
    List.mem_of_getElem? (mem_byScore.mp hy)
  rw [rejectsMisread, decide_eq_true_iff, or_iff_right (hscore x.1 (hmem hx)).not_ge]
  exact exists_congr fun k => and_congr_right fun hk =>
    hagrees k.1 (hmem (hkept hk)) x.1 (hmem hx)

end

/-- The intersection over union of two rectangles. -/
def Rect.overlap (a b : Rect K) : K :=
  BBox.overlap ⟨a.x, a.y, a.x + a.width, a.y + a.height⟩
    ⟨b.x, b.y, b.x + b.width, b.y + b.height⟩

end EdgeSafety
