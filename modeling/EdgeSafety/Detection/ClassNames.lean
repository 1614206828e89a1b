import EdgeSafety.Detection.Coordinates

/-!
# The lookup of class names

`_postprocess` looks the name of a class up with `COCO_CLASSES.get`, but `COCO_CLASSES` is a list.
The lookup raises for every detection, and `step` takes what `detect` raises for an empty frame: no
output with a confident row ever reaches a result (`confident_never_reported`).
-/

namespace EdgeSafety
open Loops

variable {K T : Type} [Field K] [LinearOrder K] {layout : FrameBufferLayout}

/-- The output has a row that reaches the threshold. -/
def ModelManager.HasCandidate (model : ModelManager K) (preds : Array2 K) : Prop :=
  ∃ row ∈ preds.transpose.toLists, ∃ prediction, Prediction.ofRow row = .ok prediction ∧
    model.confThreshold ≤ prediction.score

/-- What `step` writes on a FILLED buffer has one object for each index that is kept, and none only
where the session raised or no row reaches the threshold. -/
structure ConfidentReported (backend : InferenceBackend K T) (model : ModelManager K)
    (frame : NdArray) (inH inW : Nat) (result : InferenceResult K) : Prop where
  length_eq : ∀ preds predictions,
    backend.session (model.preprocess backend frame) = .ok preds →
      model.confident preds = .ok predictions →
        result.objects.length = (model.kept backend predictions (some (inH, inW))).length
  nothing : result.objects = [] →
    (∃ e, backend.session (model.preprocess backend frame) = .error e) ∨
      ∃ preds, backend.session (model.preprocess backend frame) = .ok preds ∧
        ¬ model.HasCandidate preds

section
variable {backend : InferenceBackend K T} {model : ModelManager K} {preds : Array2 K}
  {predictions : List (Prediction K)}

omit [Field K] in
theorem ModelManager.confident_ne_nil (hcandidate : model.HasCandidate preds)
    (hconfident : model.confident preds = .ok predictions) : predictions ≠ [] := by
  obtain ⟨row, hrow, prediction, hread, hscore⟩ := hcandidate
  obtain ⟨j, hj⟩ := List.mem_iff_getElem?.mp hrow
  unfold confident at hconfident
  cases hall : preds.transpose.toLists.mapM Prediction.ofRow with
  | error e =>
    rw [hall] at hconfident
    cases hconfident
  | ok all =>
    rw [hall] at hconfident
    cases hconfident
    obtain ⟨other, hother, hsame⟩ := getElem?_mapM hall hj
    rw [hread] at hsame
    cases hsame
    exact List.ne_nil_of_mem (List.mem_filter.mpr
      ⟨List.mem_of_getElem? hother, decide_eq_true (not_lt.mpr hscore)⟩)

omit [Field K] [LinearOrder K] in
/-- The names of detections cannot be looked up. -/
theorem ModelManager.detections_error (candidates : List (Candidate K)) {indices : List Nat}
    (hne : indices ≠ []) : ∃ e, detections cocoClassesGet candidates indices = .error e := by
  refine mapM_error hne fun i => ?_
  cases hcandidate : getItem candidates i with
  | error e => exact ⟨e, rfl⟩
  | ok candidate => exact ⟨_, rfl⟩

/-- Something in `_postprocess` raises where there is a candidate. -/
theorem ModelManager.postprocess_error (hcandidate : model.HasCandidate preds)
    (origShape : Option (Nat × Nat)) :
    ∃ e, model.postprocess backend cocoClassesGet preds origShape = .error e := by
  cases hconfident : model.confident preds with
  | error e =>
    unfold postprocess
    rw [hconfident]
    exact ⟨e, rfl⟩
  | ok predictions =>
    rw [postprocess_eq hconfident (confident_ne_nil hcandidate hconfident)]
    by_cases hkept : model.kept backend predictions origShape = []
    -- Where nothing is kept, there is a tuple to flatten.
    · rw [hkept, flatten_nil]
      exact ⟨_, rfl⟩
    · rw [flatten_of_ne_nil hkept]
      exact detections_error _ hkept

/-- `step` turns a confident detection into an empty result. -/
theorem InferenceWorker.objects_eq_nil {frame : NdArray} {inH inW : Nat}
    (houtput : backend.session (model.preprocess backend frame) = .ok preds)
    (hcandidate : model.HasCandidate preds) (timestamp : String) :
    (result backend ModelManager.cocoClassesGet model timestamp frame inH inW).objects = [] := by
  have hdetect : ∃ e, model.detect backend ModelManager.cocoClassesGet (.frame frame) =
      .error e := by
    rw [ModelManager.detect_frame houtput]
    exact ModelManager.postprocess_error hcandidate _
  obtain ⟨e, he⟩ := hdetect
  rw [result, buildResult, detections, he]
  rfl

/-- No output that has a row with the confidence leads to a result that says so. -/
theorem confident_never_reported {dumps : InferenceResult K → List UInt8} {timestamp : String}
    {buffer : FrameBuffer layout} {bufIdx : Fin 2} {frame : NdArray} {inH inW : Nat}
    (hfilled : buffer.findFilled = some bufIdx) (hread : buffer.readFrame bufIdx = some frame)
    (hsize : frame.bgrSize = some (inH, inW))
    (houtput : backend.session (model.preprocess backend frame) = .ok preds)
    (hcandidate : model.HasCandidate preds) :
    ¬ ∃ result,
      (InferenceWorker.step backend ModelManager.cocoClassesGet model dumps timestamp
          buffer).written = some (result, bufIdx) ∧
        ConfidentReported backend model frame inH inW result := by
  rintro ⟨result, hwritten, h⟩
  rw [InferenceWorker.step_written backend _ model dumps timestamp hfilled hread hsize] at hwritten
  cases hwritten
  rcases h.nothing (InferenceWorker.objects_eq_nil houtput hcandidate timestamp) with
    ⟨e, he⟩ | ⟨other, hother, hnone⟩
  · rw [houtput] at he
    cases he
  · rw [houtput] at hother
    cases hother
    exact hnone hcandidate

end

theorem onePerson_hasCandidate : defaultManager.HasCandidate onePerson :=
  ⟨[208, 208, 104, 104, (0.9 : ℚ)], by decide +kernel, person, by decide +kernel,
    by decide +kernel⟩

theorem confident_never_reported_square :
    ¬ ∃ result,
      (InferenceWorker.step (fixedBackend (blackFrame 416 416) onePerson)
          ModelManager.cocoClassesGet defaultManager (fun _ => []) "2024-01-01T00:00:00"
          (blackBuffer 416 416)).written = some (result, bufA) ∧
        ConfidentReported (fixedBackend (blackFrame 416 416) onePerson) defaultManager
          (blackFrame 416 416) 416 416 result := by
  have hpicture := fixedBackend_samePicture defaultManager onePerson
    (by decide : 0 < 416 ∧ 416 ≤ 1080) (by decide : 0 < 416 ∧ 416 ≤ 1920)
  exact confident_never_reported hpicture.filled hpicture.read rfl hpicture.output
    onePerson_hasCandidate

/-- A person seen with a score of 0.9 is the one index that is kept, and the result is empty. -/
theorem person_lost :
    defaultManager.confident onePerson = .ok [person] ∧
      defaultManager.kept (fixedBackend (blackFrame 720 1280) onePerson) [person]
        (some (720, 1280)) = [0] ∧
      ∃ result,
        (InferenceWorker.step (fixedBackend (blackFrame 720 1280) onePerson)
            ModelManager.cocoClassesGet defaultManager (fun _ => []) "2024-01-01T00:00:00"
            (blackBuffer 720 1280)).written = some (result, bufA) ∧
          result.objects = [] ∧
          ¬ ConfidentReported (fixedBackend (blackFrame 720 1280) onePerson) defaultManager
            (blackFrame 720 1280) 720 1280 result := by
  have hpicture := fixedBackend_samePicture defaultManager onePerson
    (by decide : 0 < 720 ∧ 720 ≤ 1080) (by decide : 0 < 1280 ∧ 1280 ≤ 1920)
  have hobjects := @InferenceWorker.objects_eq_nil ℚ NdArray _ _ _ _ _ _ 720 1280 hpicture.output
    onePerson_hasCandidate "2024-01-01T00:00:00"
  refine ⟨confident_onePerson, rfl, _, InferenceWorker.step_written _ _ _ _ _ hpicture.filled
    hpicture.read rfl, hobjects, fun h => ?_⟩
  have hlength := h.length_eq onePerson [person] rfl confident_onePerson
  rw [hobjects] at hlength
  cases hlength

end EdgeSafety
