import EdgeSafety.Inference.RtmDet
import EdgeSafety.Inference.RtmPose

/-!
# Batches of the pipelines

`infer_frames` and `infer_requests` return what the single calls return, one result for each input
and in order, for every backend that treats the rows of a batch independently. `infer_frames` calls
a backend with a fixed batch of one once for each frame; `infer_requests` always stacks.
-/

namespace EdgeSafety
open Loops

namespace RTMDetPipeline
variable (resize : Resize) (p : RTMDetPipeline)

/-- The single-row inference of one frame. -/
def inferFrame (packet : FramePacket) : Except String (List (Detection ℚ)) := do
  let item ← p.preprocess resize packet.frame
  p.postprocess (← p.backend.infer [item.1]) item.2

theorem postprocess_nil (transform : LetterboxTransform) (detections : List (Detection ℚ)) :
    p.postprocess [] transform ≠ .ok detections := by
  intro h
  cases h

/-- `infer_frames` returns what the frames have alone, if the backend treats the rows of the batches
it is given independently. -/
theorem inferFrames_eq_ok_iff
    (hrows : ∀ batch, batch ≠ [] → (p.BatchOfOne → batch.length = 1) →
      p.backend.RowIndependent batch)
    (frames : List FramePacket) (results : List (List (Detection ℚ))) :
    p.inferFrames resize frames = .ok results ↔
      List.Forall₂ (fun packet result => p.inferFrame resize packet = .ok result) frames
        results := by
  unfold inferFrames
  apply isEmpty_eq_ok_iff
  intro hsome
  apply prepared_eq_ok_iff
    (g := fun item _ => p.backend.inferSingle Prod.fst
      (fun outputs item => p.postprocess outputs item.2) item)
  intro prepared hprepared
  have hlength := (mapM_eq_ok_iff.mp hprepared).length_eq
  have hzip : ((prepared.zip frames).mapM fun pair => p.backend.inferSingle Prod.fst
      (fun outputs item => p.postprocess outputs item.2) pair.1) =
      prepared.mapM (p.backend.inferSingle Prod.fst
        fun outputs item => p.postprocess outputs item.2) := by
    have hmap := List.mapM_map (f := Prod.fst) (g := p.backend.inferSingle Prod.fst
      fun outputs item => p.postprocess outputs item.2) (l := prepared.zip frames)
    rw [List.map_fst_zip hlength.ge] at hmap
    exact hmap.symm
  rw [hzip]
  split
  · exact Iff.rfl
  · next hstacked =>
    have hne : prepared ≠ [] := by
      rintro rfl
      apply hsome
      rw [List.length_nil] at hlength
      exact List.length_eq_zero_iff.mp hlength
    apply ModelBackend.inferStacked_eq_ok_iff
    · apply hrows
      · simpa using hne
      · intro hone
        have hpos := List.length_pos_iff.mpr hne
        have hfew : ¬ 1 < frames.length := fun hmany => hstacked ⟨hmany, hone⟩
        rw [List.length_map]
        omega
    · exact hne
    · intro item result
      exact p.postprocess_nil item.2 result

/-- A stacked call with another number of rows in its first output raises. -/
theorem inferFrames_mismatch {frames : List FramePacket} (hsome : frames ≠ [])
    (hstacked : ¬ (1 < frames.length ∧ p.BatchOfOne))
    {prepared : List (InputTensor p.inputHeight p.inputWidth × LetterboxTransform)}
    (hprepared : (frames.mapM fun packet => p.preprocess resize packet.frame) = .ok prepared)
    {output : NumericArray} {rest : List NumericArray} {rows : Nat} {dimensions : List Nat}
    (houtputs : p.backend.infer (prepared.map Prod.fst) = .ok (output :: rest))
    (hshape : output.shape = rows :: dimensions) (hne : rows ≠ frames.length) :
    p.inferFrames resize frames = .error "RTMDet batch mapping mismatch" := by
  have hlength := (mapM_eq_ok_iff.mp hprepared).length_eq
  unfold inferFrames
  rw [if_neg (by simpa using hsome), hprepared]
  show (if _ then _ else _) = _
  rw [if_neg hstacked]
  exact ModelBackend.inferStacked_of_ne houtputs hshape (hlength ▸ hne)

end RTMDetPipeline

namespace RTMPosePipeline
variable (cv2 : AffineCv) (p : RTMPosePipeline)

/-- The single-row inference of one request. -/
def inferRequest (request : PoseRequest ℚ) : Except String (PoseResult ℚ) := do
  let item ← p.prepare cv2 request
  p.postprocess (← p.backend.infer [item.1]) item.2 request

theorem postprocess_nil (transform : PoseTransform) (request : PoseRequest ℚ)
    (result : PoseResult ℚ) : p.postprocess [] transform request ≠ .ok result := by
  intro h
  cases h

/-- A result belongs to its request. -/
theorem inferRequest_answers {request : PoseRequest ℚ} {result : PoseResult ℚ}
    (h : p.inferRequest cv2 request = .ok result) :
    result.cameraId = request.cameraId ∧ result.trackId = request.trackId ∧
      request.box = .ok result.bbox := by
  obtain ⟨item, -, h⟩ := bind_eq_ok h
  obtain ⟨outputs, -, h⟩ := bind_eq_ok h
  have hanswers := p.answers_of_postprocess h
  exact ⟨hanswers.cameraId, hanswers.trackId, hanswers.bbox⟩

/-- `infer_requests` returns what the requests have alone, if the backend treats the rows of every
batch independently. -/
theorem inferRequests_eq_ok_iff
    (hrows : ∀ batch, batch ≠ [] → p.backend.RowIndependent batch)
    (requests : List (PoseRequest ℚ)) (results : List (PoseResult ℚ)) :
    p.inferRequests cv2 requests = .ok results ↔
      List.Forall₂ (fun request result => p.inferRequest cv2 request = .ok result) requests
        results := by
  unfold inferRequests
  apply isEmpty_eq_ok_iff
  intro hsome
  apply prepared_eq_ok_iff
    (g := fun (item : InputTensor p.inputHeight p.inputWidth × PoseTransform)
        (request : PoseRequest ℚ) => p.backend.inferSingle (fun pair => pair.1.1)
      (fun outputs pair => p.postprocess outputs pair.1.2 pair.2) (item, request))
  intro prepared hprepared
  have hlength := (mapM_eq_ok_iff.mp hprepared).length_eq
  have hne : prepared.zip requests ≠ [] := by
    intro hnil
    apply hsome
    have hzip : (prepared.zip requests).length = requests.length := by
      rw [List.length_zip, ← hlength, Nat.min_self]
    rw [hnil] at hzip
    exact List.length_eq_zero_iff.mp hzip.symm
  apply ModelBackend.inferStacked_eq_ok_iff
  · apply hrows
    simpa using hne
  · exact hne
  · intro item result
    exact p.postprocess_nil item.1.2 item.2 result

/-- A stacked call with another number of rows in its first output raises. -/
theorem inferRequests_mismatch {requests : List (PoseRequest ℚ)} (hsome : requests ≠ [])
    {prepared : List (InputTensor p.inputHeight p.inputWidth × PoseTransform)}
    (hprepared : requests.mapM (p.prepare cv2) = .ok prepared)
    {output : NumericArray} {rest : List NumericArray} {rows : Nat} {dimensions : List Nat}
    (houtputs : p.backend.infer (prepared.map Prod.fst) = .ok (output :: rest))
    (hshape : output.shape = rows :: dimensions) (hne : rows ≠ requests.length) :
    p.inferRequests cv2 requests = .error "RTMPose batch mapping mismatch" := by
  have hlength := (mapM_eq_ok_iff.mp hprepared).length_eq
  unfold inferRequests
  rw [if_neg (by simpa using hsome), hprepared]
  have hfirst : (prepared.zip requests).map (fun item => item.1.1) = prepared.map Prod.fst := by
    have hmap := List.map_map (f := Prod.fst) (g := Prod.fst) (l := prepared.zip requests)
    rw [List.map_fst_zip hlength.ge] at hmap
    exact hmap.symm
  have hzip : (prepared.zip requests).length = requests.length := by
    rw [List.length_zip, ← hlength, Nat.min_self]
  show p.backend.inferStacked "RTMPose batch mapping mismatch" (fun item => item.1.1)
    (fun outputs item => p.postprocess outputs item.1.2 item.2) (prepared.zip requests) = _
  rw [← hfirst] at houtputs
  exact ModelBackend.inferStacked_of_ne houtputs hshape (hzip ▸ hne)

end RTMPosePipeline
/-- Batched and single-row inference of the two pipelines. -/
structure PipelinesAgree (resize : Resize) (cv2 : AffineCv) (det : RTMDetPipeline)
    (pose : RTMPosePipeline) : Prop where
  frames : (∀ batch, batch ≠ [] → (det.BatchOfOne → batch.length = 1) →
      det.backend.RowIndependent batch) →
    ∀ frames results, det.inferFrames resize frames = .ok results ↔
      List.Forall₂ (fun packet result => det.inferFrame resize packet = .ok result) frames results
  requests : (∀ batch, batch ≠ [] → pose.backend.RowIndependent batch) →
    ∀ requests results, pose.inferRequests cv2 requests = .ok results ↔
      List.Forall₂ (fun request result => pose.inferRequest cv2 request = .ok result) requests
        results
  identities : (∀ batch, batch ≠ [] → pose.backend.RowIndependent batch) →
    ∀ requests results, pose.inferRequests cv2 requests = .ok results →
      List.Forall₂ (fun request (result : PoseResult ℚ) =>
        result.cameraId = request.cameraId ∧ result.trackId = request.trackId ∧
          request.box = .ok result.bbox) requests results
  frames_mismatch : ∀ frames prepared output rest rows dimensions, frames ≠ [] →
    ¬ (1 < frames.length ∧ det.BatchOfOne) →
    (frames.mapM fun packet => det.preprocess resize packet.frame) = .ok prepared →
    det.backend.infer (prepared.map Prod.fst) = .ok (output :: rest) →
    output.shape = rows :: dimensions → rows ≠ frames.length →
    det.inferFrames resize frames = .error "RTMDet batch mapping mismatch"
  requests_mismatch : ∀ requests prepared output rest rows dimensions, requests ≠ [] →
    requests.mapM (pose.prepare cv2) = .ok prepared →
    pose.backend.infer (prepared.map Prod.fst) = .ok (output :: rest) →
    output.shape = rows :: dimensions → rows ≠ requests.length →
    pose.inferRequests cv2 requests = .error "RTMPose batch mapping mismatch"

/-- Batches change nothing: with a backend that treats rows independently every input gets what it
gets alone, and outputs that do not fit the batch are given to nobody. -/
theorem pipelines_agree (resize : Resize) (cv2 : AffineCv) (det : RTMDetPipeline)
    (pose : RTMPosePipeline) : PipelinesAgree resize cv2 det pose := by
  refine ⟨?_, ?_, ?_, ?_, ?_⟩
  · intro hrows frames results
    exact det.inferFrames_eq_ok_iff resize hrows frames results
  · intro hrows requests results
    exact pose.inferRequests_eq_ok_iff cv2 hrows requests results
  · intro hrows requests results h
    apply ((pose.inferRequests_eq_ok_iff cv2 hrows requests results).mp h).imp
    intro request result hresult
    exact pose.inferRequest_answers cv2 hresult
  · intro frames prepared output rest rows dimensions hsome hstacked hprepared houtputs hshape hne
    exact det.inferFrames_mismatch resize hsome hstacked hprepared houtputs hshape hne
  · intro requests prepared output rest rows dimensions hsome hprepared houtputs hshape hne
    exact pose.inferRequests_mismatch cv2 hsome hprepared houtputs hshape hne

/-- A detector that finds one person in each frame, further right the brighter its last pixel is. -/
def RTMDetPipeline.nanoRows : RTMDetPipeline where
  configuration := nano.configuration
  backend := .ofRows [.named "batch", .fixed 3, .fixed 320, .fixed 320] [1, 5] [1]
    (fun tensor =>
      ⟨[tensor (Fin.last 2) (Fin.last 319) (Fin.last 319), 64, 160, 256, 9 / 10], rfl⟩)
    (fun _ => ⟨[0], rfl⟩)
  outputFormat_eq := rfl

/-- A pose model whose bins are all zero. -/
def RTMPosePipeline.smallRows : RTMPosePipeline where
  configuration := small.configuration
  backend := .ofRows [.named "batch", .fixed 3, .fixed 256, .fixed 192] [17, 384] [17, 512]
    (fun _ => ⟨List.replicate [17, 384].prod 0, List.length_replicate⟩)
    (fun _ => ⟨List.replicate [17, 512].prod 0, List.length_replicate⟩)
  outputFormat_eq := rfl

/-- Two models that do treat the rows of a batch independently. -/
theorem pipelines_agree_rows :
    (∀ frames results,
      RTMDetPipeline.nanoRows.inferFrames (fun _ _ _ _ _ _ => 0) frames = .ok results ↔
        List.Forall₂ (fun packet result => RTMDetPipeline.nanoRows.inferFrame
          (fun _ _ _ _ _ _ => 0) packet = .ok result) frames results) ∧
      ∀ requests results,
        RTMPosePipeline.smallRows.inferRequests RTMPosePipeline.exactCv requests = .ok results ↔
          List.Forall₂ (fun request result => RTMPosePipeline.smallRows.inferRequest
            RTMPosePipeline.exactCv request = .ok result) requests results := by
  have hagree := pipelines_agree (fun _ _ _ _ _ _ => 0) RTMPosePipeline.exactCv
    RTMDetPipeline.nanoRows RTMPosePipeline.smallRows
  constructor
  · apply hagree.frames
    intro batch _ _
    exact ModelBackend.ofRows_rowIndependent batch
  · apply hagree.requests
    intro batch _
    exact ModelBackend.ofRows_rowIndependent batch

end EdgeSafety
