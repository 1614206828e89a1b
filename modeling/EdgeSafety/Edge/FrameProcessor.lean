import Mathlib.Algebra.Order.Field.Rat
import EdgeSafety.Shared.NdArray

/-!
# The frame processor of the edge agent

`FrameProcessor` skips frames without motion, resizes the others and encodes them. What OpenCV
computes is a parameter; the comparison of two frames, and what the processor remembers, are here.
-/

namespace EdgeSafety

/-- The functions of OpenCV that the processor calls, on grayscale images of the type `Gray`. -/
structure OpenCv (Gray : Type) where
  /-- `cv2.cvtColor(frame, cv2.COLOR_BGR2GRAY)`. -/
  cvtColor : NdArray → Gray
  /-- `cv2.resize(gray, (160, 120))`. -/
  shrink : Gray → Vector UInt8 (160 * 120)
  /-- `cv2.resize(frame, target_size, interpolation=cv2.INTER_LINEAR)`. -/
  resize : NdArray → Nat × Nat → NdArray
  /-- `cv2.imencode('.jpg', frame, [cv2.IMWRITE_JPEG_QUALITY, quality])`. -/
  imencode : NdArray → Nat → List UInt8

/-- What `FrameProcessor.__init__` is given. -/
structure FrameProcessor where
  targetSize : Nat × Nat := (416, 416)
  motionThreshold : ℚ := 0.05
  jpegQuality : Nat := 70

namespace FrameProcessor

variable {Gray : Type} (cv2 : OpenCv Gray)

/-- `cv2.absdiff` of two pixels. -/
def absdiff (a b : UInt8) : UInt8 := if a ≤ b then b - a else a - b

/-- `np.count_nonzero(diff > 15) / diff.size`. -/
def motionRatio (gray previous : Gray) : ℚ :=
  let diff := List.zipWith absdiff (cv2.shrink gray).toList (cv2.shrink previous).toList
  (diff.countP (15 < ·) : ℚ) / diff.length

/-- `should_skip`, with the `_prev_frame_gray` it finds and the one it leaves. -/
def shouldSkip (p : FrameProcessor) (previous : Option Gray) (frame : NdArray) :
    Bool × Option Gray :=
  let gray := cv2.cvtColor frame
  match previous with
  | none => (false, some gray)
  | some previous => (decide (motionRatio cv2 gray previous < p.motionThreshold), some gray)

/-- `encode_jpeg`. -/
def encodeJpeg (p : FrameProcessor) (frame : NdArray) : List UInt8 :=
  cv2.imencode frame p.jpegQuality

/-- `process`, of a frame without a region of interest. -/
def process (p : FrameProcessor) (previous : Option Gray) (frame : NdArray) :
    Option (List UInt8) × Option Gray :=
  match p.shouldSkip cv2 previous frame with
  | (true, previous) => (none, previous)
  | (false, previous) => (some (p.encodeJpeg cv2 (cv2.resize frame p.targetSize)), previous)

theorem absdiff_self (a : UInt8) : absdiff a a = 0 := by
  simp [absdiff]

theorem motionRatio_nonneg (gray previous : Gray) : 0 ≤ motionRatio cv2 gray previous :=
  div_nonneg (Nat.cast_nonneg _) (Nat.cast_nonneg _)

/-- A frame does not differ from itself. -/
theorem motionRatio_self (gray : Gray) : motionRatio cv2 gray gray = 0 := by
  have hnone : (List.zipWith absdiff (cv2.shrink gray).toList (cv2.shrink gray).toList).countP
      (15 < ·) = 0 := by
    rw [List.countP_eq_zero]
    intro d hd
    obtain ⟨a, rfl⟩ : ∃ a, absdiff a a = d := by
      rw [List.zipWith_self] at hd
      obtain ⟨a, -, ha⟩ := List.mem_map.mp hd
      exact ⟨a, ha⟩
    simp [absdiff_self]
  rw [motionRatio, hnone, Nat.cast_zero, zero_div]

theorem process_snd (p : FrameProcessor) (previous : Option Gray) (frame : NdArray) :
    (p.process cv2 previous frame).2 = some (cv2.cvtColor frame) := by
  cases previous with
  | none => rfl
  | some previous =>
    simp only [process, shouldSkip]
    cases decide (motionRatio cv2 (cv2.cvtColor frame) previous < p.motionThreshold) <;> rfl

/-- Whether a frame is sent: it is the first one, or it differs enough from the one before. -/
theorem isSome_process (p : FrameProcessor) (previous : Option Gray) (frame : NdArray) :
    (p.process cv2 previous frame).1.isSome =
      previous.all fun previous =>
        decide (p.motionThreshold ≤ motionRatio cv2 (cv2.cvtColor frame) previous) := by
  cases previous with
  | none => rfl
  | some previous =>
    simp only [process, shouldSkip, Option.all_some]
    by_cases h : motionRatio cv2 (cv2.cvtColor frame) previous < p.motionThreshold
    · simp [h, not_le.mpr h]
    · simp [h, not_lt.mp h]

end FrameProcessor

end EdgeSafety
