import EdgeSafety.Inference.Pipelines
import EdgeSafety.Inference.PoseQueue
import EdgeSafety.Lib.PlaneAffine
import EdgeSafety.Lib.Rounding
import Mathlib.Algebra.Group.Prod
import Mathlib.Data.Fin.VecNotation
import Mathlib.Data.List.MinMax
import Mathlib.Tactic.Tauto

/-!
# The RTMPose pipeline

`RTMPosePipeline` of `inference/pipelines/rtmpose.py`. `preprocess` cuts the surroundings of a
person out of a frame, by the affine map that OpenCV fits to three points, and `postprocess` takes
the highest bins of the model back by the inverse of that map. The functions of OpenCV are
parameters; `AffineCv.Exact` says what the pipeline relies on.
-/

namespace EdgeSafety
open Loops Rounding

/-- The functions of OpenCV that the pipeline calls. -/
structure AffineCv where
  /-- `cv2.getAffineTransform(source, destination)`. -/
  getAffineTransform : (Fin 3 → ℚ × ℚ) → (Fin 3 → ℚ × ℚ) → PlaneAffine ℚ
  /-- `cv2.invertAffineTransform(affine)`. -/
  invertAffineTransform : PlaneAffine ℚ → PlaneAffine ℚ
  /-- `cv2.warpAffine(image, affine, (width, height), flags=cv2.INTER_LINEAR,
  borderMode=cv2.BORDER_CONSTANT, borderValue=0)`. -/
  warpAffine : NdArray → PlaneAffine ℚ → (width height : Nat) → Pixels height width

/-- The fitted map takes the three points to their images, and the inverse takes it back. -/
structure AffineCv.Exact (cv2 : AffineCv) : Prop where
  getAffineTransform : ∀ source destination, ¬ PlaneAffine.Collinear source → ∀ k,
    (cv2.getAffineTransform source destination).apply (source k) = destination k
  invertAffineTransform : ∀ affine : PlaneAffine ℚ, affine.det ≠ 0 → ∀ point,
    (cv2.invertAffineTransform affine).apply (affine.apply point) = point

/-- `PoseTransform`. -/
structure PoseTransform where
  inverseAffine : PlaneAffine ℚ

/-- The point of the frame for two bins: a row of `homogeneous @ inverse_affine.T`. -/
def PoseTransform.framePoint (transform : PoseTransform) (xIndex yIndex : Nat) : ℚ × ℚ :=
  transform.inverseAffine.apply (xIndex / 2, yIndex / 2)

/-- The highest bins of a keypoint, and the lower of their two values. -/
structure Peak where
  xIndex : Nat
  yIndex : Nat
  confidence : ℚ

/-- `RTMPosePipeline`; `__init__` rejects another output format. -/
structure RTMPosePipeline where
  configuration : PipelineConfig
  backend : ModelBackend configuration.inputShape.1 configuration.inputShape.2
  outputFormat_eq : configuration.outputFormat = some "simcc-coco17"

/-- `BoundingBox(*request.bbox_xyxy)`. -/
def PoseRequest.box (request : PoseRequest ℚ) : Except String (BoundingBox ℚ) :=
  BoundingBox.make request.bboxXyxy.1 request.bboxXyxy.2.1 request.bboxXyxy.2.2.1
    request.bboxXyxy.2.2.2

namespace RTMPosePipeline

/-- `_MEAN`. -/
def mean : Fin 3 → ℚ := ![123675 / 1000, 11628 / 100, 10353 / 100]

/-- `_STD`. -/
def std : Fin 3 → ℚ := ![58395 / 1000, 5712 / 100, 57375 / 1000]

/-- `_BBOX_PADDING`. -/
def bboxPadding : ℚ := 125 / 100

/-- `RTMPosePipeline.__init__`. -/
def init (configuration : PipelineConfig)
    (backend : ModelBackend configuration.inputShape.1 configuration.inputShape.2) :
    Except String RTMPosePipeline :=
  if h : configuration.outputFormat = some "simcc-coco17" then .ok ⟨configuration, backend, h⟩
  else .error "RTMPose requires output_format=simcc-coco17"

variable (cv2 : AffineCv) (p : RTMPosePipeline)

/-- `self.input_height`. -/
abbrev inputHeight : Nat := p.configuration.inputShape.1

/-- `self.input_width`. -/
abbrev inputWidth : Nat := p.configuration.inputShape.2

/-- `center` in `preprocess`. -/
def center (bbox : BoundingBox ℚ) : ℚ × ℚ := ((bbox.x1 + bbox.x2) / 2, (bbox.y1 + bbox.y2) / 2)

/-- The final `width` and `height` in `preprocess`. -/
def cropSize (bbox : BoundingBox ℚ) : ℚ × ℚ :=
  let width := max bbox.width 1
  let height := max bbox.height 1
  let targetAspect : ℚ := p.inputWidth / p.inputHeight
  if width > height * targetAspect then
    (width * bboxPadding, width / targetAspect * bboxPadding)
  else (height * targetAspect * bboxPadding, height * bboxPadding)

/-- `source` in `preprocess`. -/
def source (bbox : BoundingBox ℚ) : Fin 3 → ℚ × ℚ :=
  ![center bbox, center bbox + (0, -(p.cropSize bbox).2 / 2),
    center bbox + ((p.cropSize bbox).1 / 2, 0)]

/-- `destination` in `preprocess`. -/
def destination : Fin 3 → ℚ × ℚ :=
  ![(p.inputWidth / 2, p.inputHeight / 2), (p.inputWidth / 2, 0),
    (p.inputWidth, p.inputHeight / 2)]

/-- `affine` in `preprocess`. -/
def affine (bbox : BoundingBox ℚ) : PlaneAffine ℚ :=
  cv2.getAffineTransform (p.source bbox) p.destination

/-- The transform that `preprocess` returns. -/
def transform (bbox : BoundingBox ℚ) : PoseTransform where
  inverseAffine := cv2.invertAffineTransform (p.affine cv2 bbox)

/-- `preprocess`. -/
def preprocess (image : NdArray) (bbox : BoundingBox ℚ) :
    Except String (InputTensor p.inputHeight p.inputWidth × PoseTransform) :=
  match image.shape with
  | [_, _, 3] =>
    let crop := cv2.warpAffine image (p.affine cv2 bbox) p.inputWidth p.inputHeight
    let rgb : Pixels p.inputHeight p.inputWidth := fun row column channel =>
      crop row column channel.rev
    .ok (normalized mean std rgb, p.transform cv2 bbox)
  | _ => .error "RTMPose input must be a BGR HxWx3 image"

/-- `np.max` and `np.argmax` of one row: of equal values `np.argmax` takes the first. -/
def argmax (row : List ℚ) : Except String (ℚ × Nat) :=
  match row.zipIdx.argmax Prod.fst with
  | some best => .ok best
  | none => .error "attempt to get argmax of an empty sequence"

/-- The rows of an array with 17 of them. -/
def simccRows (columns : Nat) (values : List ℚ) : List (List ℚ) :=
  (List.range 17).map fun row => (values.drop (row * columns)).take columns

/-- What `postprocess` reads off the two rows of a keypoint. -/
def peak (rows : List ℚ × List ℚ) : Except String Peak := do
  let x ← argmax rows.1
  let y ← argmax rows.2
  .ok { xIndex := x.2, yIndex := y.2, confidence := min x.1 y.1 }

/-- `x_index`, `y_index` and `confidence` in `postprocess`. -/
def peaks (outputs : List NumericArray) : Except String (List Peak) :=
  match outputs with
  | [simccX, simccY] => do
    let simccX ← simccX.squeezed 3
    let simccY ← simccY.squeezed 3
    if simccX.shape ≠ [17, p.inputWidth * 2] ∨ simccY.shape ≠ [17, p.inputHeight * 2] then
      .error s!"invalid SimCC shapes: {shapeText simccX.shape}, {shapeText simccY.shape}"
    else
      ((simccRows (p.inputWidth * 2) simccX.values).zip
        (simccRows (p.inputHeight * 2) simccY.values)).mapM peak
  | _ => .error "RTMPose expects simcc_x and simcc_y"

/-- The test that makes a keypoint visible. -/
def visible (frameWidth frameHeight : Nat) (point : ℚ × ℚ) (score : ℚ) : Bool :=
  decide (score ≥ p.configuration.keypointThreshold ∧ 0 ≤ point.1 ∧ point.1 < frameWidth ∧
    0 ≤ point.2 ∧ point.2 < frameHeight)

/-- One turn of the loop of `postprocess`. -/
def keypoint (transform : PoseTransform) (frameWidth frameHeight : Nat) (name : String)
    (peak : Peak) : NamedKeypoint ℚ :=
  let point := transform.framePoint peak.xIndex peak.yIndex
  let score := clamp 1 peak.confidence
  let visible := p.visible frameWidth frameHeight point score
  { name
    x := if visible then some point.1 else none
    y := if visible then some point.2 else none
    confidence := score
    visible
    confidence_nonneg := clamp_nonneg zero_le_one
    confidence_le_one := clamp_le
    x_isSome := by cases visible <;> rfl
    y_isSome := by cases visible <;> rfl }

/-- `postprocess`. -/
def postprocess (outputs : List NumericArray) (transform : PoseTransform)
    (request : PoseRequest ℚ) : Except String (PoseResult ℚ) := do
  let peaks ← p.peaks outputs
  match request.frame.frame.shape with
  | frameHeight :: frameWidth :: _ => do
    let bbox ← request.box
    .ok
      { cameraId := request.cameraId
        trackId := request.trackId
        bbox
        keypoints := List.zipWith (p.keypoint transform frameWidth frameHeight)
          coco17KeypointNames peaks }
  | shape => .error s!"not enough values to unpack (expected 2, got {shape.length})"

/-- One element of `prepared` in `infer_requests`. -/
def prepare (request : PoseRequest ℚ) :
    Except String (InputTensor p.inputHeight p.inputWidth × PoseTransform) := do
  p.preprocess cv2 request.frame.frame (← request.box)

/-- `infer_requests`. -/
def inferRequests (requests : List (PoseRequest ℚ)) : Except String (List (PoseResult ℚ)) :=
  if requests.isEmpty then .ok []
  else do
    let prepared ← requests.mapM (p.prepare cv2)
    p.backend.inferStacked "RTMPose batch mapping mismatch" (fun item => item.1.1)
      (fun outputs item => p.postprocess outputs item.1.2 item.2) (prepared.zip requests)

/-! ## The crop -/

/-- The size of the crop has the aspect of the model's input, and room for the box. -/
structure Fits (bbox : BoundingBox ℚ) (width height : ℚ) : Prop where
  width_pos : 0 < width
  height_pos : 0 < height
  aspect : width * p.inputHeight = height * p.inputWidth
  width_ge : bbox.width ≤ width
  height_ge : bbox.height ≤ height

theorem inputWidth_pos : (0 : ℚ) < p.inputWidth := Nat.cast_pos.mpr p.configuration.inputWidth_pos

theorem inputHeight_pos : (0 : ℚ) < p.inputHeight :=
  Nat.cast_pos.mpr p.configuration.inputHeight_pos

/-- Padding keeps the aspect and the room. -/
theorem Fits.padded {bbox : BoundingBox ℚ} {width height : ℚ} (h : p.Fits bbox width height) :
    p.Fits bbox (width * bboxPadding) (height * bboxPadding) := by
  have hpadding : (1 : ℚ) ≤ bboxPadding := by norm_num [bboxPadding]
  have hpos : (0 : ℚ) < bboxPadding := lt_of_lt_of_le one_pos hpadding
  refine ⟨mul_pos h.width_pos hpos, mul_pos h.height_pos hpos, ?_, ?_, ?_⟩
  · rw [mul_right_comm, h.aspect, mul_right_comm]
  · exact h.width_ge.trans (le_mul_of_one_le_right h.width_pos.le hpadding)
  · exact h.height_ge.trans (le_mul_of_one_le_right h.height_pos.le hpadding)

theorem cropSize_fits (bbox : BoundingBox ℚ) :
    p.Fits bbox (p.cropSize bbox).1 (p.cropSize bbox).2 := by
  have hinputWidth := p.inputWidth_pos
  have hinputHeight := p.inputHeight_pos
  have haspect : (0 : ℚ) < p.inputWidth / p.inputHeight := div_pos hinputWidth hinputHeight
  have hwidth : (0 : ℚ) < max bbox.width 1 := lt_max_of_lt_right one_pos
  have hheight : (0 : ℚ) < max bbox.height 1 := lt_max_of_lt_right one_pos
  unfold cropSize
  dsimp only
  split
  · next hwide =>
    apply Fits.padded
    refine ⟨hwidth, div_pos hwidth haspect, ?_, le_max_left _ _, ?_⟩
    · field_simp
    · have hroom := (lt_div_iff₀ haspect).mpr hwide
      exact (le_max_left _ _).trans hroom.le
  · next htall =>
    apply Fits.padded
    refine ⟨mul_pos hheight haspect, hheight, ?_, ?_, le_max_left _ _⟩
    · field_simp
    · exact (le_max_left _ _).trans (not_lt.mp htall)

/-- The factor by which the crop enlarges the frame. -/
def cropScale (bbox : BoundingBox ℚ) : ℚ := p.inputWidth / (p.cropSize bbox).1

theorem cropScale_pos (bbox : BoundingBox ℚ) : 0 < p.cropScale bbox :=
  div_pos p.inputWidth_pos (p.cropSize_fits bbox).width_pos

theorem cropScale_mul_width (bbox : BoundingBox ℚ) :
    p.cropScale bbox * (p.cropSize bbox).1 = p.inputWidth :=
  div_mul_cancel₀ _ (p.cropSize_fits bbox).width_pos.ne'

theorem cropScale_mul_height (bbox : BoundingBox ℚ) :
    p.cropScale bbox * (p.cropSize bbox).2 = p.inputHeight := by
  have hfits := p.cropSize_fits bbox
  rw [cropScale, div_mul_eq_mul_div, mul_comm, ← hfits.aspect]
  exact mul_div_cancel_left₀ _ hfits.width_pos.ne'

theorem source_not_collinear (bbox : BoundingBox ℚ) : ¬ PlaneAffine.Collinear (p.source bbox) := by
  have hfits := p.cropSize_fits bbox
  have harea : PlaneAffine.area (p.source bbox 0) (p.source bbox 1) (p.source bbox 2) =
      (p.cropSize bbox).2 / 2 * ((p.cropSize bbox).1 / 2) := by
    simp only [PlaneAffine.area, source, Matrix.cons_val_zero, Matrix.cons_val_one,
      Matrix.cons_val, Prod.fst_add, Prod.snd_add]
    ring
  intro hline
  have hpos := mul_pos (half_pos hfits.height_pos) (half_pos hfits.width_pos)
  rw [← harea, hline] at hpos
  exact lt_irrefl 0 hpos

/-- The enlargement that takes the centre of the box to that of the crop. -/
def crop (bbox : BoundingBox ℚ) : PlaneAffine ℚ :=
  .scaling (p.cropScale bbox) (center bbox) (p.inputWidth / 2, p.inputHeight / 2)

/-- The enlargement takes the three points to their images. -/
theorem crop_apply_source (bbox : BoundingBox ℚ) (k : Fin 3) :
    (p.crop bbox).apply (p.source bbox k) = p.destination k := by
  have hwidth := p.cropScale_mul_width bbox
  have hheight := p.cropScale_mul_height bbox
  rw [crop, PlaneAffine.scaling_apply]
  fin_cases k
  · simp [source, destination]
  · apply Prod.ext
    · simp [source, destination]
    · simp [source, destination]
      linarith
  · apply Prod.ext
    · simp [source, destination]
      linarith
    · simp [source, destination]

section Exact
variable {cv2 : AffineCv} (hcv2 : cv2.Exact)
include hcv2

/-- The fitted map is the enlargement. -/
theorem affine_eq_crop (bbox : BoundingBox ℚ) : p.affine cv2 bbox = p.crop bbox := by
  apply PlaneAffine.eq_of_three (p.source_not_collinear bbox)
  intro k
  rw [affine, hcv2.getAffineTransform _ _ (p.source_not_collinear bbox), crop_apply_source]

/-- The inverse of the fitted map takes every point back. -/
theorem inverseAffine_apply (bbox : BoundingBox ℚ) (point : ℚ × ℚ) :
    (p.transform cv2 bbox).inverseAffine.apply ((p.affine cv2 bbox).apply point) = point := by
  apply hcv2.invertAffineTransform
  rw [p.affine_eq_crop hcv2]
  exact PlaneAffine.scaling_det_ne_zero (p.cropScale_pos bbox).ne' _ _

theorem affine_apply_framePoint (bbox : BoundingBox ℚ) (xIndex yIndex : Nat) (point : ℚ × ℚ) :
    (p.affine cv2 bbox).apply point = ((xIndex : ℚ) / 2, (yIndex : ℚ) / 2) ↔
      (p.transform cv2 bbox).framePoint xIndex yIndex = point := by
  constructor
  · intro h
    rw [PoseTransform.framePoint, ← h]
    exact p.inverseAffine_apply hcv2 bbox point
  · obtain ⟨q, hq⟩ := PlaneAffine.exists_scaling_apply (p.cropScale_pos bbox).ne' (center bbox)
      ((p.inputWidth : ℚ) / 2, (p.inputHeight : ℚ) / 2) ((xIndex : ℚ) / 2, (yIndex : ℚ) / 2)
    have hcrop : (p.affine cv2 bbox).apply q = ((xIndex : ℚ) / 2, (yIndex : ℚ) / 2) := by
      rw [p.affine_eq_crop hcv2]
      exact hq
    rintro rfl
    rw [PoseTransform.framePoint, ← hcrop, p.inverseAffine_apply hcv2 bbox q]

/-- A point that is decoded from bins near its own comes back near to where it was. -/
theorem abs_framePoint_sub_le (bbox : BoundingBox ℚ) {xIndex yIndex : Nat} {point : ℚ × ℚ}
    (hx : |((p.affine cv2 bbox).apply point).1 * 2 - xIndex| ≤ 1 / 2)
    (hy : |((p.affine cv2 bbox).apply point).2 * 2 - yIndex| ≤ 1 / 2) :
    |((p.transform cv2 bbox).framePoint xIndex yIndex).1 - point.1| ≤
        1 / (4 * p.cropScale bbox) ∧
      |((p.transform cv2 bbox).framePoint xIndex yIndex).2 - point.2| ≤
        1 / (4 * p.cropScale bbox) := by
  have hpos := p.cropScale_pos bbox
  have hdecoded := (p.affine_apply_framePoint hcv2 bbox xIndex yIndex _).mpr rfl
  obtain ⟨hdx, hdy⟩ := PlaneAffine.scaling_apply_sub hpos (center bbox)
    ((p.inputWidth : ℚ) / 2, (p.inputHeight : ℚ) / 2)
    ((p.transform cv2 bbox).framePoint xIndex yIndex) point
  rw [p.affine_eq_crop hcv2, crop] at hx hy hdecoded
  rw [hdecoded] at hdx hdy
  -- The distance in the frame is the distance in the crop, over the scale.
  have hquarter : ∀ d e : ℚ, ∀ index : Nat, |e * 2 - index| ≤ 1 / 2 →
      |(index : ℚ) / 2 - e| = p.cropScale bbox * d → d ≤ 1 / (4 * p.cropScale bbox) := by
    intro d e index hnear hdistance
    have hhalf : |(index : ℚ) / 2 - e| = |e * 2 - index| / 2 := by
      have hsame : e - (index : ℚ) / 2 = (e * 2 - index) / 2 := by ring
      rw [abs_sub_comm, hsame, abs_div, abs_two]
    rw [le_div_iff₀ (by linarith)]
    linarith
  exact ⟨hquarter _ _ xIndex hx hdx, hquarter _ _ yIndex hy hdy⟩

/-- The whole box is in the crop. -/
theorem affine_apply_mem (bbox : BoundingBox ℚ) {x y : ℚ} (hx1 : bbox.x1 ≤ x) (hx2 : x ≤ bbox.x2)
    (hy1 : bbox.y1 ≤ y) (hy2 : y ≤ bbox.y2) :
    (0 ≤ ((p.affine cv2 bbox).apply (x, y)).1 ∧
        ((p.affine cv2 bbox).apply (x, y)).1 ≤ p.inputWidth) ∧
      0 ≤ ((p.affine cv2 bbox).apply (x, y)).2 ∧
        ((p.affine cv2 bbox).apply (x, y)).2 ≤ p.inputHeight := by
  have hpos := p.cropScale_pos bbox
  have hfits := p.cropSize_fits bbox
  have hwidth := hfits.width_ge
  have hheight := hfits.height_ge
  rw [BoundingBox.width] at hwidth
  rw [BoundingBox.height] at hheight
  -- A coordinate within half the size of the crop from the centre of the box.
  have hwithin : ∀ size input offset : ℚ, p.cropScale bbox * size = input → -(size / 2) ≤ offset →
      offset ≤ size / 2 → 0 ≤ input / 2 + p.cropScale bbox * offset ∧
        input / 2 + p.cropScale bbox * offset ≤ input := by
    intro size input offset hsize hlow hhigh
    have hlow := mul_le_mul_of_nonneg_left hlow hpos.le
    have hhigh := mul_le_mul_of_nonneg_left hhigh hpos.le
    constructor
    · linarith
    · linarith
  rw [p.affine_eq_crop hcv2, crop, PlaneAffine.scaling_apply]
  constructor
  · apply hwithin _ _ _ (p.cropScale_mul_width bbox)
    · simp only [center]
      linarith
    · simp only [center]
      linarith
  · apply hwithin _ _ _ (p.cropScale_mul_height bbox)
    · simp only [center]
      linarith
    · simp only [center]
      linarith

end Exact

/-! ## What is reported -/

/-- What the result says of the keypoint with this peak. -/
structure Reported (transform : PoseTransform) (frameWidth frameHeight : Nat) (peak : Peak)
    (point : NamedKeypoint ℚ) : Prop where
  visible_iff : point.visible = true ↔
    p.configuration.keypointThreshold ≤ clamp 1 peak.confidence ∧
      (0 ≤ (transform.framePoint peak.xIndex peak.yIndex).1 ∧
        (transform.framePoint peak.xIndex peak.yIndex).1 < frameWidth) ∧
      0 ≤ (transform.framePoint peak.xIndex peak.yIndex).2 ∧
        (transform.framePoint peak.xIndex peak.yIndex).2 < frameHeight
  shown : point.visible = true →
    point.x = some (transform.framePoint peak.xIndex peak.yIndex).1 ∧
      point.y = some (transform.framePoint peak.xIndex peak.yIndex).2
  hidden : point.visible = false → point.x = none ∧ point.y = none

theorem keypoint_reported (transform : PoseTransform) (frameWidth frameHeight : Nat)
    (name : String) (peak : Peak) :
    p.Reported transform frameWidth frameHeight peak
      (p.keypoint transform frameWidth frameHeight name peak) := by
  refine ⟨?_, ?_, ?_⟩
  · simp only [keypoint, visible, decide_eq_true_eq, ge_iff_le]
    tauto
  · intro h
    have hvisible : p.visible frameWidth frameHeight
        (transform.framePoint peak.xIndex peak.yIndex) (clamp 1 peak.confidence) = true := h
    simp only [keypoint, hvisible]
    exact ⟨rfl, rfl⟩
  · intro h
    have hvisible : p.visible frameWidth frameHeight
        (transform.framePoint peak.xIndex peak.yIndex) (clamp 1 peak.confidence) = false := h
    simp only [keypoint, hvisible]
    exact ⟨rfl, rfl⟩

/-- The loop reports a keypoint for each peak, under its name. -/
theorem keypoints_reported (transform : PoseTransform) (frameWidth frameHeight : Nat)
    {names : List String} {peaks : List Peak} (hlength : names.length = peaks.length) :
    (List.zipWith (p.keypoint transform frameWidth frameHeight) names peaks).map
        NamedKeypoint.name = names ∧
      List.Forall₂ (p.Reported transform frameWidth frameHeight) peaks
        (List.zipWith (p.keypoint transform frameWidth frameHeight) names peaks) := by
  induction names generalizing peaks with
  | nil =>
    rw [List.length_eq_zero_iff.mp hlength.symm]
    exact ⟨rfl, .nil⟩
  | cons name names ih =>
    cases peaks with
    | nil => cases hlength
    | cons peak peaks =>
      obtain ⟨hnames, hpoints⟩ := ih (Nat.succ_injective hlength)
      constructor
      · rw [List.zipWith_cons_cons, List.map_cons, hnames]
        rfl
      · exact .cons (p.keypoint_reported transform frameWidth frameHeight name peak) hpoints

/-- The maximum of a row is in it, at the place that is given, and nothing exceeds it. -/
theorem argmax_eq_ok {row : List ℚ} {best : ℚ × Nat} (h : argmax row = .ok best) :
    row[best.2]? = some best.1 ∧ ∀ x ∈ row, x ≤ best.1 := by
  unfold argmax at h
  split at h
  · next found hfound =>
    cases h
    have hmem := List.argmax_mem hfound
    rw [List.mem_zipIdx_iff_getElem?] at hmem
    refine ⟨hmem, ?_⟩
    intro x hx
    obtain ⟨i, hi⟩ := List.getElem?_of_mem hx
    have hpair : (x, i) ∈ row.zipIdx := by
      rw [List.mem_zipIdx_iff_getElem?]
      exact hi
    exact List.le_of_mem_argmax hpair hfound
  · cases h

theorem peaks_length {outputs : List NumericArray} {peaks : List Peak}
    (h : p.peaks outputs = .ok peaks) : peaks.length = 17 := by
  unfold RTMPosePipeline.peaks at h
  split at h
  · obtain ⟨simccX, -, h⟩ := bind_eq_ok h
    obtain ⟨simccY, -, h⟩ := bind_eq_ok h
    split at h
    · cases h
    · have hlength := (mapM_eq_ok_iff.mp h).length_eq
      rw [← hlength]
      simp [simccRows]
  · cases h

/-- A result: the request it answers, and the keypoints of the peaks, under their names. -/
structure Answers (outputs : List NumericArray) (transform : PoseTransform)
    (request : PoseRequest ℚ) (result : PoseResult ℚ) : Prop where
  cameraId : result.cameraId = request.cameraId
  trackId : result.trackId = request.trackId
  bbox : request.box = .ok result.bbox
  names : result.keypoints.map NamedKeypoint.name = coco17KeypointNames
  keypoints : ∃ frameHeight frameWidth rest peaks,
    request.frame.frame.shape = frameHeight :: frameWidth :: rest ∧
      p.peaks outputs = .ok peaks ∧
        List.Forall₂ (p.Reported transform frameWidth frameHeight) peaks result.keypoints

theorem answers_of_postprocess {outputs : List NumericArray} {transform : PoseTransform}
    {request : PoseRequest ℚ} {result : PoseResult ℚ}
    (h : p.postprocess outputs transform request = .ok result) :
    p.Answers outputs transform request result := by
  obtain ⟨peaks, hpeaks, h⟩ := bind_eq_ok h
  have hlength : coco17KeypointNames.length = peaks.length := (p.peaks_length hpeaks).symm
  split at h
  · next frameHeight frameWidth rest hshape =>
    obtain ⟨bbox, hbox, h⟩ := bind_eq_ok h
    cases h
    obtain ⟨hnames, hpoints⟩ := p.keypoints_reported transform frameWidth frameHeight hlength
    exact ⟨rfl, rfl, hbox, hnames, frameHeight, frameWidth, rest, peaks, hshape, hpeaks, hpoints⟩
  · cases h

/-- The crop of a box and its decoding: what `preprocess` returns, the map it uses, and what
`postprocess` makes of bins. -/
structure CropDecodes (cv2 : AffineCv) (bbox : BoundingBox ℚ) : Prop where
  preprocess : ∀ image height width, image.shape = [height, width, 3] →
    ∃ tensor, p.preprocess cv2 image bbox = .ok (tensor, p.transform cv2 bbox)
  not_collinear : ¬ PlaneAffine.Collinear (p.source bbox)
  scale_pos : 0 < p.cropScale bbox
  uniform : (p.affine cv2 bbox).xx = p.cropScale bbox ∧
    (p.affine cv2 bbox).yy = p.cropScale bbox ∧ (p.affine cv2 bbox).xy = 0 ∧
    (p.affine cv2 bbox).yx = 0
  centred : (p.affine cv2 bbox).apply (center bbox) =
    ((p.inputWidth : ℚ) / 2, (p.inputHeight : ℚ) / 2)
  contained : ∀ x y, bbox.x1 ≤ x → x ≤ bbox.x2 → bbox.y1 ≤ y → y ≤ bbox.y2 →
    (0 ≤ ((p.affine cv2 bbox).apply (x, y)).1 ∧
        ((p.affine cv2 bbox).apply (x, y)).1 ≤ p.inputWidth) ∧
      0 ≤ ((p.affine cv2 bbox).apply (x, y)).2 ∧
        ((p.affine cv2 bbox).apply (x, y)).2 ≤ p.inputHeight
  decoded : ∀ (xIndex yIndex : Nat) (point : ℚ × ℚ),
    (p.transform cv2 bbox).framePoint xIndex yIndex = point ↔
      (p.affine cv2 bbox).apply point = ((xIndex : ℚ) / 2, (yIndex : ℚ) / 2)
  encoded : ∀ (xIndex yIndex : Nat) (point : ℚ × ℚ),
    |((p.affine cv2 bbox).apply point).1 * 2 - xIndex| ≤ 1 / 2 →
    |((p.affine cv2 bbox).apply point).2 * 2 - yIndex| ≤ 1 / 2 →
    |((p.transform cv2 bbox).framePoint xIndex yIndex).1 - point.1| ≤
        1 / (4 * p.cropScale bbox) ∧
      |((p.transform cv2 bbox).framePoint xIndex yIndex).2 - point.2| ≤
        1 / (4 * p.cropScale bbox)
  reported : ∀ outputs request result,
    p.postprocess outputs (p.transform cv2 bbox) request = .ok result →
      p.Answers outputs (p.transform cv2 bbox) request result

/-- The decoding is the inverse of the crop, for every box, of size zero or out of the frame too. -/
theorem crop_decodes {cv2 : AffineCv} (hcv2 : cv2.Exact) (bbox : BoundingBox ℚ) :
    p.CropDecodes cv2 bbox := by
  have hcrop := p.affine_eq_crop hcv2 bbox
  refine ⟨?_, p.source_not_collinear bbox, p.cropScale_pos bbox, ?_, ?_, ?_, ?_, ?_, ?_⟩
  · intro image height width hshape
    unfold RTMPosePipeline.preprocess
    split
    · exact ⟨_, rfl⟩
    · next hother => exact absurd hshape (hother height width)
  · rw [hcrop]
    exact ⟨rfl, rfl, rfl, rfl⟩
  · rw [hcrop, crop, PlaneAffine.scaling_apply]
    simp
  · intro x y hx1 hx2 hy1 hy2
    exact p.affine_apply_mem hcv2 bbox hx1 hx2 hy1 hy2
  · intro xIndex yIndex point
    exact (p.affine_apply_framePoint hcv2 bbox xIndex yIndex point).symm
  · intro xIndex yIndex point hx hy
    exact p.abs_framePoint_sub_le hcv2 bbox hx hy
  · intro outputs request result h
    exact p.answers_of_postprocess h

/-- OpenCV's functions in exact arithmetic, on images without light. -/
def exactCv : AffineCv where
  getAffineTransform := PlaneAffine.through
  invertAffineTransform := PlaneAffine.inverse
  warpAffine := fun _ _ _ _ _ _ _ => 0

theorem exactCv_exact : exactCv.Exact where
  getAffineTransform _ destination h k := PlaneAffine.through_apply h destination k
  invertAffineTransform _ h point := PlaneAffine.inverse_apply h point

/-- A pose model with an input of 192 by 256 pixels, whose model finds nothing. -/
def small : RTMPosePipeline where
  configuration :=
    { name := "human-pose", role := .pose, outputFormat := some "simcc-coco17"
      inputShape := (256, 192)
      scoreThreshold_bounds := default_scoreThreshold
      keypointThreshold_bounds := default_keypointThreshold }
  backend := { infer := fun _ => .ok [] }
  outputFormat_eq := rfl

/-- The crop of a box without size. -/
theorem crop_decodes_small :
    small.CropDecodes exactCv
      { x1 := -20, y1 := 5, x2 := -20, y2 := 5, x_ordered := le_refl _, y_ordered := le_refl _ } :=
  small.crop_decodes exactCv_exact _

end RTMPosePipeline
end EdgeSafety
