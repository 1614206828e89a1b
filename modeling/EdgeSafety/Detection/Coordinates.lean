import EdgeSafety.Detection.InferenceWorker
import Mathlib.Algebra.Order.Ring.Rat

/-!
# Coordinates

Where the boxes that the worker and the detector report are. `detect` gives those of a frame in the
frame's coordinates and those of a tensor in the model's; the worker scales what it gets for a
frame once more, and the detector passes a tensor and does not scale. Both are right exactly where
scaling does nothing (`scaled_once_iff`).
-/

namespace EdgeSafety
open Loops

variable {K T : Type} [Field K] [LinearOrder K] {layout : FrameBufferLayout}

/-- A buffer that is FILLED with a frame, and a JPEG picture that decodes to the same; the model
says the same of both. -/
structure SamePicture (backend : InferenceBackend K T) (model : ModelManager K)
    (buffer : FrameBuffer layout) (bufIdx : Fin 2) (jpegBytes : List UInt8) (frame : NdArray)
    (preds : Array2 K) : Prop where
  filled : buffer.findFilled = some bufIdx
  read : buffer.readFrame bufIdx = some frame
  decoded : backend.imdecode jpegBytes = .ok (some frame)
  output : backend.session (model.preprocess backend frame) = .ok preds

/-- The box of a row in the coordinates of a frame. -/
def Prediction.original (prediction : Prediction K) (model : ModelManager K) (inH inW : Nat) :
    BBox K :=
  prediction.corners.scale (inW / model.inputW) (inH / model.inputH)

/-- What the worker writes and the detector returns for a row has the box of the row in the
coordinates of the frame. -/
structure ScaledOnce (backend : InferenceBackend K T) (label : Nat → String)
    (model : ModelManager K) (dumps : InferenceResult K → List UInt8) (timestamp : String)
    (timestampUs : Nat) (cameraId : String) (buffer : FrameBuffer layout) (bufIdx : Fin 2)
    (jpegBytes : List UInt8) (inH inW : Nat) (predictions : List (Prediction K)) (i : Nat)
    (prediction : Prediction K) : Prop where
  worker : ∃ result,
    (InferenceWorker.step backend (fun c => .ok (label c)) model dumps timestamp buffer).written =
        some (result, bufIdx) ∧
      ∀ j : Nat, (model.kept backend predictions (some (inH, inW)))[j]? = some i →
        result.objects[j]?.map ResultObject.bbox = some (prediction.original model inH inW)
  detector : ∀ j : Nat, (model.kept backend predictions none)[j]? = some i →
    (Detector.run backend (fun c => .ok (label c)) model timestampUs jpegBytes
        cameraId).objects[j]?.map DetectedObject.bbox =
      some (prediction.original model inH inW)

section
variable {backend : InferenceBackend K T} {label : Nat → String} {model : ModelManager K}
  {predictions : List (Prediction K)} {preds : Array2 K} {origShape : Option (Nat × Nat)}

/-- Where names are found, `_postprocess` has a detection for each index that is kept. -/
theorem ModelManager.postprocess_ok (label : Nat → String) (hrange : backend.nmsBoxes.InRange)
    (hconfident : model.confident preds = .ok predictions)
    (hkept : model.kept backend predictions origShape ≠ []) :
    ∃ ds, model.postprocess backend (fun c => .ok (label c)) preds origShape = .ok ds ∧
      ∀ j i : Nat, (model.kept backend predictions origShape)[j]? = some i →
        ∀ prediction, predictions[i]? = some prediction →
          ds[j]?.map Detection.bbox = some (model.candidate origShape prediction).bbox := by
  have hlt : ∀ i ∈ model.kept backend predictions origShape,
      i < (predictions.map (model.candidate origShape)).length :=
    fun i hi => hrange.lt_of_mem_kept hi
  have hne : predictions ≠ [] := by
    rintro rfl
    obtain ⟨i, hi⟩ := List.exists_mem_of_ne_nil _ hkept
    exact absurd (hlt i hi) (Nat.not_lt_zero i)
  have hdetections : ∃ ds, detections (fun c => .ok (label c))
      (predictions.map (model.candidate origShape))
      (model.kept backend predictions origShape) = .ok ds := by
    refine exists_mapM_ok fun i hi => ?_
    simp only [getItem_of_lt (hlt i hi)]
    exact ⟨_, rfl⟩
  obtain ⟨ds, hds⟩ := hdetections
  refine ⟨ds, ?_, fun j i hj prediction hprediction => ?_⟩
  · rw [postprocess_eq hconfident hne, flatten_of_ne_nil hkept]
    exact hds
  · obtain ⟨d, hd, hbody⟩ := getElem?_mapM hds hj
    have hcandidate : (predictions.map (model.candidate origShape))[i]? =
        some (model.candidate origShape prediction) := by
      rw [List.getElem?_map, hprediction]
      rfl
    simp only [getItem, hcandidate] at hbody
    cases hbody
    rw [hd]
    rfl

variable {buffer : FrameBuffer layout} {bufIdx : Fin 2} {jpegBytes : List UInt8} {frame : NdArray}
  {inH inW : Nat} {i j : Nat} {prediction : Prediction K}

/-- What the worker writes for a row that is kept: its box, scaled twice. -/
theorem InferenceWorker.bbox_result (timestamp : String) (hrange : backend.nmsBoxes.InRange)
    (houtput : backend.session (model.preprocess backend frame) = .ok preds)
    (hsize : frame.bgrSize = some (inH, inW))
    (hconfident : model.confident preds = .ok predictions)
    (hi : predictions[i]? = some prediction)
    (hj : (model.kept backend predictions (some (inH, inW)))[j]? = some i) :
    (result backend (fun c => .ok (label c)) model timestamp frame inH inW).objects[j]?.map
        ResultObject.bbox =
      some ((prediction.original model inH inW).scale
        (inW / model.inputW) (inH / model.inputH)) := by
  have hkept := List.ne_nil_of_mem (List.mem_of_getElem? hj)
  obtain ⟨ds, hds, hboxes⟩ :=
    ModelManager.postprocess_ok label hrange hconfident hkept
  have hdetect : detections backend (fun c => .ok (label c)) model frame = ds := by
    have hshape : ModelManager.origShape (T := T) (.frame frame) = some (inH, inW) := by
      simp only [ModelManager.origShape, (NdArray.bgrSize_eq_some.mp hsize).2]
    rw [detections, ModelManager.detect_frame houtput, hshape, hds]
  have hbox := hboxes j i hj prediction hi
  simp only [result, buildResult, hdetect, List.getElem?_map, Option.map_map]
  cases hd : ds[j]? with
  | none =>
    rw [hd] at hbox
    cases hbox
  | some d =>
    rw [hd] at hbox
    exact congrArg (Option.map fun box : BBox K => box.scale _ _) hbox

/-- What the detector returns for a row that is kept: its box, not scaled. -/
theorem Detector.bbox_run (label : Nat → String) (timestampUs : Nat) (cameraId : String)
    (hrange : backend.nmsBoxes.InRange) (hdecoded : backend.imdecode jpegBytes = .ok (some frame))
    (houtput : backend.session (model.preprocess backend frame) = .ok preds)
    (hconfident : model.confident preds = .ok predictions)
    (hi : predictions[i]? = some prediction)
    (hj : (model.kept backend predictions none)[j]? = some i) :
    (run backend (fun c => .ok (label c)) model timestampUs jpegBytes cameraId).objects[j]?.map
        DetectedObject.bbox =
      some (prediction.corners.scale 1 1) := by
  have hkept := List.ne_nil_of_mem (List.mem_of_getElem? hj)
  obtain ⟨ds, hds, hboxes⟩ :=
    ModelManager.postprocess_ok label hrange hconfident hkept
  have hdetect : model.detect backend (fun c => .ok (label c))
      (.tensor (model.preprocess backend frame)) = .ok ds := by
    rw [ModelManager.detect_tensor houtput, hds]
  have hframe : model.preprocessJpeg backend jpegBytes =
      .ok (some (model.preprocess backend frame)) := by
    rw [ModelManager.preprocessJpeg, hdecoded]
    rfl
  rw [run_objects hframe hdetect, List.getElem?_map, Option.map_map]
  exact hboxes j i hj prediction hi

omit [LinearOrder K] in
/-- Scaling does nothing to a box: neither to its horizontal coordinates nor to its vertical
ones. -/
theorem BBox.scale_eq_self_iff {box : BBox K} {scaleX scaleY : K} :
    box.scale scaleX scaleY = box ↔
      (scaleX = 1 ∨ box.x1 = 0 ∧ box.x2 = 0) ∧ (scaleY = 1 ∨ box.y1 = 0 ∧ box.y2 = 0) := by
  have haxis (scale first second : K) :
      first * scale = first ∧ second * scale = second ↔ scale = 1 ∨ first = 0 ∧ second = 0 := by
    rw [mul_right_eq_self₀, mul_right_eq_self₀, ← or_and_left]
  obtain ⟨x1, y1, x2, y2⟩ := box
  rw [← haxis, ← haxis, scale, BBox.mk.injEq]
  tauto

variable [IsStrictOrderedRing K]

theorem div_eq_one_iff_sizes {size inputSize : Nat} (h : 0 < inputSize) :
    (size / inputSize : K) = 1 ↔ size = inputSize := by
  rw [div_eq_one_iff_eq (Nat.cast_ne_zero.mpr h.ne'), Nat.cast_inj]

/-- For a candidate that survives, the box in the result and the box that the detector returns are
both that of the candidate scaled once exactly where, in each direction, the frame has the size of
the model's input or both coordinates of the candidate are zero. -/
theorem scaled_once_iff {backend : InferenceBackend K T} {label : Nat → String}
    {model : ModelManager K} {dumps : InferenceResult K → List UInt8} {timestamp : String}
    {timestampUs : Nat} {cameraId : String}
    (hpicture : SamePicture backend model buffer bufIdx jpegBytes frame preds)
    (hsize : frame.bgrSize = some (inH, inW)) (hrange : backend.nmsBoxes.InRange)
    (hconfident : model.confident preds = .ok predictions)
    (hi : predictions[i]? = some prediction)
    (hdetector : i ∈ model.kept backend predictions none) :
    ScaledOnce backend label model dumps timestamp timestampUs cameraId buffer bufIdx jpegBytes
        inH inW predictions i prediction ↔
      (inW = model.inputW ∨ prediction.corners.x1 = 0 ∧ prediction.corners.x2 = 0) ∧
        (inH = model.inputH ∨ prediction.corners.y1 = 0 ∧ prediction.corners.y2 = 0) := by
  have hunscaled : prediction.corners.scale 1 1 = prediction.corners :=
    BBox.scale_eq_self_iff.mpr ⟨.inl rfl, .inl rfl⟩
  rw [← div_eq_one_iff_sizes (K := K) model.inputW_pos,
    ← div_eq_one_iff_sizes (K := K) model.inputH_pos, ← BBox.scale_eq_self_iff]
  change _ ↔ prediction.original model inH inW = prediction.corners
  constructor
  · intro h
    obtain ⟨j, hj⟩ := List.mem_iff_getElem?.mp hdetector
    have hrun := Detector.bbox_run label timestampUs cameraId hrange hpicture.decoded
      hpicture.output hconfident hi hj
    rw [h.detector j hj, Option.some.injEq] at hrun
    exact hrun.trans hunscaled
  · intro h
    refine ⟨⟨_, InferenceWorker.step_written backend _ model dumps timestamp hpicture.filled
      hpicture.read hsize, fun j hj => ?_⟩, fun j hj => ?_⟩
    · rw [InferenceWorker.bbox_result timestamp hrange hpicture.output hsize hconfident hi hj]
      -- The candidate scaled once is the candidate, and so it is scaled twice.
      exact congrArg some ((congrArg (BBox.scale · _ _) h).trans rfl)
    · rw [Detector.bbox_run label timestampUs cameraId hrange hpicture.decoded hpicture.output
        hconfident hi hj, hunscaled, h]

end

/-- Segments with a picture without light in A. -/
def blackBuffer (height width : Nat) : FrameBuffer {} :=
  ((FrameBuffer.create {}).writeFrame bufA (blackFrame height width)).2

theorem blackBuffer_filled {height width : Nat} (hheight : 0 < height ∧ height ≤ 1080)
    (hwidth : 0 < width ∧ width ≤ 1920) :
    (blackBuffer height width).findFilled = some bufA ∧
      (blackBuffer height width).readFrame bufA = some (blackFrame height width) := by
  let slot := (FrameBuffer.create {}).slot bufA
  have hslot : (blackBuffer height width).slot bufA =
      (slot.writeFrame (blackFrame height width)).2 := by
    rw [blackBuffer, FrameBuffer.writeFrame]
    exact Function.update_self bufA _ (FrameBuffer.create {}).slot
  have hok : (slot.writeFrame (blackFrame height width)).1 = .ok () := by
    have hbytes : (blackFrame height width).bytes.length = height * width * 3 :=
      List.length_replicate
    have hfits : height ≤ ({} : FrameBufferLayout).maxHeight ∧
        width ≤ ({} : FrameBufferLayout).maxWidth := ⟨hheight.2, hwidth.2⟩
    have hheightFits : height < 2 ^ 31 := by omega
    have hwidthFits : width < 2 ^ 31 := by omega
    unfold FrameSlot.writeFrame
    simp only [show (blackFrame height width).shape = [height, width, 3] from rfl, dif_pos hfits,
      if_pos hheightFits, if_pos hwidthFits, dif_pos hbytes]
  constructor
  · refine if_pos ?_
    rw [hslot]
    rcases slot.writeFrame_state (blackFrame height width) with ⟨⟨_, herror⟩, -⟩ | ⟨-, hfilled⟩
    · rw [hok] at herror
      cases herror
    · exact hfilled
  · rw [FrameBuffer.readFrame, hslot]
    exact slot.readFrame_writeFrame rfl hheight.1.ne' hwidth.1.ne' hok

/-- A backend where each picture decodes to one frame, of which the model says one thing. As many
boxes as it gets are kept, which is right for one box of a high score. -/
def fixedBackend (frame : NdArray) (preds : Array2 ℚ) : InferenceBackend ℚ NdArray where
  imdecode _ := .ok (some frame)
  preprocess _ _ frame := frame
  session _ := .ok preds
  nmsBoxes boxes _ _ _ := List.range boxes.length

theorem fixedBackend_inRange (frame : NdArray) (preds : Array2 ℚ) :
    (fixedBackend frame preds).nmsBoxes.InRange :=
  fun _ _ _ _ _ => List.mem_range.mp

theorem fixedBackend_samePicture (model : ModelManager ℚ) (preds : Array2 ℚ) {height width : Nat}
    (hheight : 0 < height ∧ height ≤ 1080) (hwidth : 0 < width ∧ width ≤ 1920) :
    SamePicture (fixedBackend (blackFrame height width) preds) model (blackBuffer height width)
      bufA [255, 216, 255, 217] (blackFrame height width) preds where
  filled := (blackBuffer_filled hheight hwidth).1
  read := (blackBuffer_filled hheight hwidth).2
  decoded := rfl
  output := rfl

/-- The output of a model of one class that sees one object. -/
def onePerson : Array2 ℚ := ⟨5, 1, fun row _ => [208, 208, 104, 104, (0.9 : ℚ)].get row⟩

/-- What is read off it. -/
def person : Prediction ℚ := ⟨208, 208, 104, 104, 0, 0.9⟩

/-- The manager with its defaults. -/
def defaultManager : ModelManager ℚ where
  inputW := 416
  inputH := 416
  confThreshold := 0.4
  nmsThreshold := 0.45

theorem confident_onePerson : defaultManager.confident onePerson = .ok [person] := by
  decide +kernel

/-- The names that the model would give its classes. -/
def onePersonLabel (_ : Nat) : String := "person"

/-- A frame of the size of the model's input. -/
theorem scaled_once_iff_square :
    ScaledOnce (fixedBackend (blackFrame 416 416) onePerson) onePersonLabel defaultManager
      (fun _ => []) "2024-01-01T00:00:00" 0 "cam-1" (blackBuffer 416 416) bufA [255, 216, 255, 217]
      416 416 [person] 0 person := by
  have hpicture := fixedBackend_samePicture defaultManager onePerson
    (by decide : 0 < 416 ∧ 416 ≤ 1080) (by decide : 0 < 416 ∧ 416 ≤ 1920)
  have hkept : 0 ∈ defaultManager.kept (fixedBackend (blackFrame 416 416) onePerson) [person]
      none := List.mem_range.mpr Nat.zero_lt_one
  exact (scaled_once_iff hpicture rfl (fixedBackend_inRange _ _) confident_onePerson rfl
    hkept).mpr ⟨.inl rfl, .inl rfl⟩

/-- In a frame of 1280x720 the detector leaves the box in the coordinates of the model. -/
theorem detector_does_not_scale :
    ¬ ScaledOnce (fixedBackend (blackFrame 720 1280) onePerson) onePersonLabel defaultManager
      (fun _ => []) "2024-01-01T00:00:00" 0 "cam-1" (blackBuffer 720 1280) bufA
      [255, 216, 255, 217] 720 1280 [person] 0 person := by
  intro h
  have hpicture := fixedBackend_samePicture defaultManager onePerson
    (by decide : 0 < 720 ∧ 720 ≤ 1080) (by decide : 0 < 1280 ∧ 1280 ≤ 1920)
  have hkept : (defaultManager.kept (fixedBackend (blackFrame 720 1280) onePerson) [person]
      none)[0]? = some 0 := rfl
  have hbox := h.detector 0 hkept
  rw [Detector.bbox_run onePersonLabel 0 "cam-1" (fixedBackend_inRange _ _) hpicture.decoded
    hpicture.output confident_onePerson rfl hkept, Option.some.injEq] at hbox
  revert hbox
  decide +kernel

end EdgeSafety
