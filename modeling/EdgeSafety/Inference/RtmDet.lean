import EdgeSafety.Capture.LatestFrameBuffer
import EdgeSafety.Inference.Pipelines
import EdgeSafety.Lib.Rounding
import Mathlib.Data.Fin.VecNotation
import Mathlib.Data.List.ReduceOption
import Mathlib.Data.Rat.Floor

/-!
# The RTMDet pipeline

`RTMDetPipeline` of `inference/pipelines/rtmdet.py`. `preprocess` resizes a frame to a rounded size
in each axis, and `postprocess` takes the boxes of the model back by the common scale that was
rounded away. What `cv2.resize` makes of an image is a parameter, of the size it is asked for.
-/

namespace EdgeSafety
open Loops Rounding

/-- `cv2.resize(image, (width, height), interpolation=cv2.INTER_LINEAR)`. -/
abbrev Resize := NdArray → (width height : Nat) → Pixels height width

/-- `LetterboxTransform`. -/
structure LetterboxTransform where
  scale : ℚ
  originalWidth : Nat
  originalHeight : Nat
  deriving DecidableEq

namespace LetterboxTransform

/-- The transform that `preprocess` returns for a frame of this size. -/
def ofSize (inputWidth inputHeight originalWidth originalHeight : Nat) : LetterboxTransform where
  scale := min ((inputWidth : ℚ) / originalWidth) ((inputHeight : ℚ) / originalHeight)
  originalWidth := originalWidth
  originalHeight := originalHeight

/-- The size of one axis after the resize. -/
def resizedSize (transform : LetterboxTransform) (input original : Nat) : Int :=
  max 1 (min (input : Int) (roundHalfEven (original * transform.scale)))

/-- The x coordinate in the frame of one in the model's input, as `postprocess` computes it. -/
def frameX (transform : LetterboxTransform) (x : ℚ) : ℚ :=
  clamp transform.originalWidth (x / transform.scale)

/-- The y coordinate in the frame of one in the model's input, as `postprocess` computes it. -/
def frameY (transform : LetterboxTransform) (y : ℚ) : ℚ :=
  clamp transform.originalHeight (y / transform.scale)

end LetterboxTransform

/-- `RTMDetPipeline`; `__init__` rejects another output format. -/
structure RTMDetPipeline where
  configuration : PipelineConfig
  backend : ModelBackend configuration.inputShape.1 configuration.inputShape.2
  outputFormat_eq : configuration.outputFormat = some "mmdeploy-dets-labels"

/-- One row of `dets`. -/
structure DetRow where
  x1 : ℚ
  y1 : ℚ
  x2 : ℚ
  y2 : ℚ
  score : ℚ

/-- The rows of an array with five columns. -/
def detRows : List ℚ → List DetRow
  | x1 :: y1 :: x2 :: y2 :: score :: rest => ⟨x1, y1, x2, y2, score⟩ :: detRows rest
  | _ => []

namespace RTMDetPipeline

/-- `_MEAN`. -/
def mean : Fin 3 → ℚ := ![10353 / 100, 11628 / 100, 123675 / 1000]

/-- `_STD`. -/
def std : Fin 3 → ℚ := ![57375 / 1000, 5712 / 100, 58395 / 1000]

/-- `RTMDetPipeline.__init__`. -/
def init (configuration : PipelineConfig)
    (backend : ModelBackend configuration.inputShape.1 configuration.inputShape.2) :
    Except String RTMDetPipeline :=
  if h : configuration.outputFormat = some "mmdeploy-dets-labels" then
    .ok ⟨configuration, backend, h⟩
  else .error "RTMDet requires output_format=mmdeploy-dets-labels"

variable (resize : Resize) (p : RTMDetPipeline)

/-- `self.input_height`. -/
abbrev inputHeight : Nat := p.configuration.inputShape.1

/-- `self.input_width`. -/
abbrev inputWidth : Nat := p.configuration.inputShape.2

/-- The canvas with the resized image in its upper left corner. -/
def padded {height width : Nat} (resized : Pixels height width) :
    Pixels p.inputHeight p.inputWidth :=
  fun row column channel =>
    if h : row < height ∧ column < width then resized ⟨row, h.1⟩ ⟨column, h.2⟩ channel else 114

/-- `preprocess`. -/
def preprocess (image : NdArray) :
    Except String (InputTensor p.inputHeight p.inputWidth × LetterboxTransform) :=
  match image.shape with
  | [originalHeight, originalWidth, 3] =>
    if originalWidth = 0 ∨ originalHeight = 0 then .error "division by zero"
    else
      let transform := LetterboxTransform.ofSize p.inputWidth p.inputHeight originalWidth
        originalHeight
      let resizedWidth := (transform.resizedSize p.inputWidth originalWidth).toNat
      let resizedHeight := (transform.resizedSize p.inputHeight originalHeight).toNat
      if resizedHeight ≤ p.inputHeight ∧ resizedWidth ≤ p.inputWidth then
        .ok (normalized mean std (p.padded (resize image resizedWidth resizedHeight)), transform)
      else
        .error (s!"could not broadcast input array from shape ({resizedHeight},{resizedWidth},3)" ++
          s!" into shape ({min resizedHeight p.inputHeight},{min resizedWidth p.inputWidth},3)")
  | _ => .error "RTMDet input must be a BGR HxWx3 image"

/-- `int(label)`. -/
def intOf (label : ℚ) : Int := label.num.tdiv label.den

/-- One turn of the loop of `postprocess`: the detection it appends, if it does not `continue`. -/
def decodeRow (transform : LetterboxTransform) (row : DetRow) (label : ℚ) :
    Except String (Option (Detection ℚ)) :=
  if intOf label ≠ 0 ∨ row.score < p.configuration.scoreThreshold then .ok none
  else if transform.scale = 0 then .error "float division by zero"
  else
    let x1 := transform.frameX row.x1
    let x2 := transform.frameX row.x2
    let y1 := transform.frameY row.y1
    let y2 := transform.frameY row.y2
    if x2 ≤ x1 ∨ y2 ≤ y1 then .ok none
    else do
      let bbox ← BoundingBox.make x1 y1 x2 y2
      let detection ← Detection.make bbox row.score 0 "person"
      .ok (some detection)

/-- `postprocess`. -/
def postprocess (outputs : List NumericArray) (transform : LetterboxTransform) :
    Except String (List (Detection ℚ)) :=
  match outputs with
  | [dets, labels] => do
    let dets ← dets.squeezed 3
    let labels ← labels.squeezed 2
    match dets.shape, labels.shape with
    | [rows, 5], [count] =>
      if rows ≠ count then .error "RTMDet dets/labels length mismatch"
      else do
        let results ← ((detRows dets.values).zip labels.values).mapM fun pair =>
          p.decodeRow transform pair.1 pair.2
        .ok results.reduceOption
    | detsShape, labelsShape =>
      .error s!"invalid RTMDet output shapes: {shapeText detsShape}, {shapeText labelsShape}"
  | _ => .error s!"expected RTMDet dets/labels outputs, got {outputs.length}"

/-- `input_shape and input_shape[0] == 1`. -/
abbrev BatchOfOne : Prop := p.backend.inputShape.head? = some (.fixed 1)

/-- `infer_frames`. A backend with a fixed batch of one is called once for each frame. -/
def inferFrames (frames : List FramePacket) : Except String (List (List (Detection ℚ))) :=
  if frames.isEmpty then .ok []
  else do
    let prepared ← frames.mapM fun packet => p.preprocess resize packet.frame
    if 1 < frames.length ∧ p.BatchOfOne then
      prepared.mapM
        (p.backend.inferSingle Prod.fst fun outputs item => p.postprocess outputs item.2)
    else
      p.backend.inferStacked "RTMDet batch mapping mismatch" Prod.fst
        (fun outputs item => p.postprocess outputs item.2) prepared

/-! ## The round trip of a box -/

end RTMDetPipeline

namespace LetterboxTransform

section Size
variable (inputWidth inputHeight : Nat) {width height : Nat}

theorem scale_pos {inputWidth inputHeight : Nat} (hinputWidth : 0 < inputWidth)
    (hinputHeight : 0 < inputHeight) (hwidth : 0 < width) (hheight : 0 < height) :
    0 < (ofSize inputWidth inputHeight width height).scale := by
  apply lt_min
  · exact div_pos (Nat.cast_pos.mpr hinputWidth) (Nat.cast_pos.mpr hwidth)
  · exact div_pos (Nat.cast_pos.mpr hinputHeight) (Nat.cast_pos.mpr hheight)

/-- The scaled image fits into the model's input. -/
theorem width_scale_le (hwidth : 0 < width) (height : Nat) :
    width * (ofSize inputWidth inputHeight width height).scale ≤ inputWidth := by
  have hpos : (0 : ℚ) < width := Nat.cast_pos.mpr hwidth
  rw [mul_comm]
  exact (le_div_iff₀ hpos).mp (min_le_left _ _)

theorem height_scale_le (width : Nat) (hheight : 0 < height) :
    height * (ofSize inputWidth inputHeight width height).scale ≤ inputHeight := by
  have hpos : (0 : ℚ) < height := Nat.cast_pos.mpr hheight
  rw [mul_comm]
  exact (le_div_iff₀ hpos).mp (min_le_right _ _)

end Size

section Axis
variable (transform : LetterboxTransform) {input original : Nat}

theorem resizedSize_bounds (hinput : 0 < input) (original : Nat) :
    1 ≤ transform.resizedSize input original ∧ transform.resizedSize input original ≤ input := by
  have hone : (1 : Int) ≤ input := by exact_mod_cast hinput
  constructor
  · exact le_max_left _ _
  · exact max_le hone (min_le_left _ _)

/-- A coordinate of one axis that goes through the resize and comes back by the scale. -/
theorem abs_clamp_resize_sub_lt (hscale : 0 < transform.scale) (horiginal : 0 < original)
    (hfits : original * transform.scale ≤ input) {x : ℚ} (h0 : 0 ≤ x) (h1 : x ≤ original) :
    |clamp (original : ℚ) (x * transform.resizedSize input original / original /
        transform.scale) - x| < 1 / transform.scale := by
  have hpos : (0 : ℚ) < original := Nat.cast_pos.mpr horiginal
  have hnear := abs_max_one_min_sub_lt (n := input) (mul_pos hpos hscale) (by exact_mod_cast hfits)
  exact (abs_clamp_sub_le h0 h1).trans_lt (abs_stretch_sub_lt hpos hscale hnear h0 h1)

theorem clamp_resize_eq (hscale : 0 < transform.scale) (horiginal : 0 < original)
    (hfits : original * transform.scale ≤ input) {m : Int} (hint : original * transform.scale = m)
    {x : ℚ} (h0 : 0 ≤ x) (h1 : x ≤ original) :
    clamp (original : ℚ) (x * transform.resizedSize input original / original /
      transform.scale) = x := by
  have hpos : (0 : ℚ) < original := Nat.cast_pos.mpr horiginal
  have hsize : transform.resizedSize input original = m := by
    have hpositive := mul_pos hpos hscale
    rw [hint] at hpositive hfits
    rw [resizedSize, hint]
    exact max_one_min_intCast hpositive (by exact_mod_cast hfits)
  rw [hsize, ← hint, stretch_eq_self x hpos.ne' hscale.ne', clamp_eq_self h0 h1]

end Axis

end LetterboxTransform

namespace RTMDetPipeline
variable (resize : Resize) (p : RTMDetPipeline)

/-- The frame has room for the detection, which is no smaller than it says and scores enough. -/
structure Placed (transform : LetterboxTransform) (detection : Detection ℚ) : Prop where
  left : 0 ≤ detection.bbox.x1
  top : 0 ≤ detection.bbox.y1
  right : detection.bbox.x2 ≤ transform.originalWidth
  bottom : detection.bbox.y2 ≤ transform.originalHeight
  width_pos : 0 < detection.bbox.width
  height_pos : 0 < detection.bbox.height
  score_ge : p.configuration.scoreThreshold ≤ detection.score

theorem placed_of_decodeRow {transform : LetterboxTransform} {row : DetRow} {label : ℚ}
    {detection : Detection ℚ} (h : p.decodeRow transform row label = .ok (some detection)) :
    p.Placed transform detection := by
  unfold decodeRow at h
  split at h
  · cases h
  · next hkept =>
    split at h
    · cases h
    · dsimp only at h
      split at h
      · cases h
      · next hsize =>
        obtain ⟨hlabel, hscore⟩ := not_or.mp hkept
        obtain ⟨hx, hy⟩ := not_or.mp hsize
        obtain ⟨bbox, hbox, h⟩ := bind_eq_ok h
        obtain ⟨made, hmade, h⟩ := bind_eq_ok h
        cases h
        obtain ⟨hx1, hy1, hx2, hy2⟩ := BoundingBox.make_eq_ok hbox
        obtain ⟨rfl, hmadeScore⟩ := Detection.make_eq_ok hmade
        refine ⟨?_, ?_, ?_, ?_, ?_, ?_, ?_⟩
        · rw [hx1]
          exact clamp_nonneg (Nat.cast_nonneg _)
        · rw [hy1]
          exact clamp_nonneg (Nat.cast_nonneg _)
        · rw [hx2]
          exact clamp_le
        · rw [hy2]
          exact clamp_le
        · rw [BoundingBox.width, hx1, hx2]
          exact sub_pos.mpr (not_le.mp hx)
        · rw [BoundingBox.height, hy1, hy2]
          exact sub_pos.mpr (not_le.mp hy)
        · rw [hmadeScore]
          exact not_lt.mp hscore

/-- Every detection of `postprocess` is in the frame. -/
theorem placed_of_postprocess {transform : LetterboxTransform} {outputs : List NumericArray}
    {detections : List (Detection ℚ)} (h : p.postprocess outputs transform = .ok detections) :
    ∀ detection ∈ detections, p.Placed transform detection := by
  intro detection hdetection
  unfold postprocess at h
  split at h
  · obtain ⟨dets, -, h⟩ := bind_eq_ok h
    obtain ⟨labels, -, h⟩ := bind_eq_ok h
    split at h
    · split at h
      · cases h
      · obtain ⟨results, hresults, h⟩ := bind_eq_ok h
        cases h
        rw [List.reduceOption_mem_iff] at hdetection
        obtain ⟨pair, -, hpair⟩ := mem_of_mapM hresults hdetection
        exact p.placed_of_decodeRow hpair
    · cases h
  · cases h

/-- The round trip of the boxes in a frame of this size, and what `postprocess` returns of it. -/
structure RoundTrips (image : NdArray) (transform : LetterboxTransform) (width height : Nat) :
    Prop where
  width_bounds : 1 ≤ transform.resizedSize p.inputWidth width ∧
    transform.resizedSize p.inputWidth width ≤ p.inputWidth
  height_bounds : 1 ≤ transform.resizedSize p.inputHeight height ∧
    transform.resizedSize p.inputHeight height ≤ p.inputHeight
  fits : ∃ tensor, p.preprocess resize image = .ok (tensor, transform)
  x_close : ∀ x : ℚ, 0 ≤ x → x ≤ width →
    |transform.frameX (x * transform.resizedSize p.inputWidth width / width) - x| <
      1 / transform.scale
  y_close : ∀ y : ℚ, 0 ≤ y → y ≤ height →
    |transform.frameY (y * transform.resizedSize p.inputHeight height / height) - y| <
      1 / transform.scale
  x_exact : (∃ m : Int, width * transform.scale = m) → ∀ x : ℚ, 0 ≤ x → x ≤ width →
    transform.frameX (x * transform.resizedSize p.inputWidth width / width) = x
  y_exact : (∃ m : Int, height * transform.scale = m) → ∀ y : ℚ, 0 ≤ y → y ≤ height →
    transform.frameY (y * transform.resizedSize p.inputHeight height / height) = y
  placed : ∀ outputs detections, p.postprocess outputs transform = .ok detections →
    ∀ detection ∈ detections, p.Placed transform detection

/-- The resized image always fits on the canvas. -/
theorem preprocess_eq_ok {image : NdArray} {width height : Nat}
    (hshape : image.shape = [height, width, 3]) (hwidth : 0 < width) (hheight : 0 < height) :
    ∃ tensor, p.preprocess resize image =
      .ok (tensor, .ofSize p.inputWidth p.inputHeight width height) := by
  have hboundX := (LetterboxTransform.resizedSize_bounds
    (.ofSize p.inputWidth p.inputHeight width height) p.configuration.inputWidth_pos width).2
  have hboundY := (LetterboxTransform.resizedSize_bounds
    (.ofSize p.inputWidth p.inputHeight width height) p.configuration.inputHeight_pos height).2
  unfold preprocess
  split
  · next heq =>
    rw [hshape] at heq
    cases heq
    rw [if_neg (by omega)]
    dsimp only
    rw [if_pos ⟨Int.toNat_le.mpr hboundY, Int.toNat_le.mpr hboundX⟩]
    exact ⟨_, rfl⟩
  · next hother => exact absurd hshape (hother height width)

/-- Boxes come back from the model to where they were, up to one of its pixels, whatever the shapes
of the frame and of the model's input are. -/
theorem boxes_round_trip {image : NdArray} {width height : Nat}
    (hshape : image.shape = [height, width, 3]) (hwidth : 0 < width) (hheight : 0 < height) :
    p.RoundTrips resize image (.ofSize p.inputWidth p.inputHeight width height) width height := by
  have hinputWidth : 0 < p.inputWidth := p.configuration.inputWidth_pos
  have hinputHeight : 0 < p.inputHeight := p.configuration.inputHeight_pos
  have hscale := LetterboxTransform.scale_pos hinputWidth hinputHeight hwidth hheight
  have hfitsX := LetterboxTransform.width_scale_le p.inputWidth p.inputHeight hwidth height
  have hfitsY := LetterboxTransform.height_scale_le p.inputWidth p.inputHeight width hheight
  have hboundsX := LetterboxTransform.resizedSize_bounds
    (.ofSize p.inputWidth p.inputHeight width height) hinputWidth width
  have hboundsY := LetterboxTransform.resizedSize_bounds
    (.ofSize p.inputWidth p.inputHeight width height) hinputHeight height
  refine ⟨hboundsX, hboundsY, ?_, ?_, ?_, ?_, ?_, ?_⟩
  · exact p.preprocess_eq_ok resize hshape hwidth hheight
  · intro x h0 h1
    exact LetterboxTransform.abs_clamp_resize_sub_lt _ hscale hwidth hfitsX h0 h1
  · intro y h0 h1
    exact LetterboxTransform.abs_clamp_resize_sub_lt _ hscale hheight hfitsY h0 h1
  · rintro ⟨m, hm⟩ x h0 h1
    exact LetterboxTransform.clamp_resize_eq _ hscale hwidth hfitsX hm h0 h1
  · rintro ⟨m, hm⟩ y h0 h1
    exact LetterboxTransform.clamp_resize_eq _ hscale hheight hfitsY hm h0 h1
  · intro outputs detections h
    exact p.placed_of_postprocess h

/-- A detector with an input of 320 by 320 pixels, whose model finds nothing. -/
def nano : RTMDetPipeline where
  configuration :=
    { name := "rtmdet-nano", role := .detector
      outputFormat := some "mmdeploy-dets-labels", inputShape := (320, 320)
      scoreThreshold_bounds := default_scoreThreshold
      keypointThreshold_bounds := default_keypointThreshold }
  backend := { infer := fun _ => .ok [] }
  outputFormat_eq := rfl

/-- The round trip in a frame of 640 by 360 pixels. -/
theorem boxes_round_trip_nano :
    nano.RoundTrips (fun _ _ _ _ _ _ => 0) (blackFrame 360 640) (.ofSize 320 320 640 360) 640 360 :=
  nano.boxes_round_trip _ rfl (by decide) (by decide)

end RTMDetPipeline
end EdgeSafety
