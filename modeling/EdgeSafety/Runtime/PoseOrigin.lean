import EdgeSafety.Inference.PipelineBatches
import EdgeSafety.Inference.Staleness
import EdgeSafety.Runtime.PoseAccounts

/-!
# Where the poses come from

`infer_requests` answers the requests of its batch one by one and in order, whatever its backend
computes. `Traced` follows the frames from the results of the scheduler through the tracks to the
requests, and `Delivered` the answers from the batches to `pose_results`.
-/

namespace EdgeSafety
open Loops

namespace RTMPosePipeline

/-- Whose pose a result is, and in which box. -/
structure Answered (request : PoseRequest ℚ) (result : PoseResult ℚ) : Prop where
  cameraId : result.cameraId = request.cameraId
  trackId : result.trackId = request.trackId
  bbox : request.box = .ok result.bbox

/-- The results of a batch answer its requests, in order. -/
theorem inferRequests_answered {p : RTMPosePipeline} {cv2 : AffineCv}
    {requests : List (PoseRequest ℚ)} {results : List (PoseResult ℚ)}
    (h : p.inferRequests cv2 requests = .ok results) :
    List.Forall₂ Answered requests results := by
  unfold inferRequests at h
  split at h
  · next hnone =>
    cases h
    rw [List.isEmpty_iff.mp hnone]
    exact .nil
  · obtain ⟨prepared, hprepared, h⟩ := bind_eq_ok h
    obtain ⟨outputs, -, h⟩ := bind_eq_ok h
    obtain ⟨-, -, h⟩ := bind_eq_ok h
    have hlength := (mapM_eq_ok_iff.mp hprepared).length_eq
    -- The rows are those of the requests.
    have hrequests : ((prepared.zip requests).zipIdx.map fun pair => pair.1.2) = requests := by
      have hmap := List.map_map (f := Prod.fst) (g := Prod.snd)
        (l := (prepared.zip requests).zipIdx)
      rw [List.zipIdx_map_fst, List.map_snd_zip hlength.le] at hmap
      exact hmap.symm
    rw [← hrequests, List.forall₂_map_left_iff]
    apply (mapM_eq_ok_iff.mp h).imp
    intro pair result hresult
    obtain ⟨row, -, hresult⟩ := bind_eq_ok hresult
    have hanswers := p.answers_of_postprocess hresult
    exact ⟨hanswers.cameraId, hanswers.trackId, hanswers.bbox⟩

end RTMPosePipeline

namespace Phase2Threads

variable {n : Nat} {setup : SchedulerSetup n}

/-- The frame that the consumer works on, with the tracks that it still has to go through. -/
def ConsumerPc.showing? : ConsumerPc → Option (FramePacket × Tracks)
  | .putting _ frame tracks | .timing frame tracks | .requesting _ frame tracks =>
    some (frame, tracks)
  | _ => none

/-- The tracks were made of the frame. -/
def Tracked (h : History n) (frame : FramePacket) (tracks : Tracks) : Prop :=
  ∃ entry ∈ h.tracked, entry.1.frame = some frame ∧ tracks ⊆ entry.2

/-- The consumer works on tracks of published frames, and asks for their poses. -/
structure Traced (s : Phase2Threads setup) (h : History n) : Prop where
  tracked : ∀ entry ∈ h.tracked, SharedInferenceScheduler.Shows setup h.scheduler entry.1 ∧
    ∀ track ∈ entry.2, track.cameraId = entry.1.cameraId
  showing : ∀ frame tracks, s.consumerPc.showing? = some (frame, tracks) →
    Tracked h frame tracks
  accepted : ∀ request ∈ h.accepted, ∃ track, Tracked h request.frame [track] ∧
    request =
      DetectionConsumer.poseRequest request.requestedAtMonotonicNs request.frame track

section Traced
variable {s t : Phase2Threads setup} {h h' : History n}

/-- The consumer moves on, with some of the tracks that it had. -/
theorem Traced.same (hs : Traced s h) (scheduler : h'.scheduler = h.scheduler)
    (tracked : h'.tracked = h.tracked) (accepted : h'.accepted = h.accepted)
    (showing : ∀ frame tracks, t.consumerPc.showing? = some (frame, tracks) →
      ∃ more, tracks ⊆ more ∧ s.consumerPc.showing? = some (frame, more)) : Traced t h' := by
  have htracked : ∀ frame tracks, Tracked h frame tracks → Tracked h' frame tracks := by
    intro frame tracks
    unfold Tracked
    rw [tracked]
    exact id
  constructor
  · rw [tracked, scheduler]
    exact hs.tracked
  · intro frame tracks hshowing
    obtain ⟨more, hsubset, hbefore⟩ := showing frame tracks hshowing
    obtain ⟨entry, hentry, hframe, hmore⟩ := hs.showing frame more hbefore
    exact htracked _ _ ⟨entry, hentry, hframe, fun track htrack => hmore (hsubset htrack)⟩
  · rw [accepted]
    intro request hrequest
    obtain ⟨track, hmade, heq⟩ := hs.accepted request hrequest
    exact ⟨track, htracked _ _ hmade, heq⟩

/-- The consumer has no frame after the step. -/
theorem Traced.idle (hs : Traced s h) (scheduler : h'.scheduler = h.scheduler)
    (tracked : h'.tracked = h.tracked) (accepted : h'.accepted = h.accepted)
    (showing : t.consumerPc.showing? = none) : Traced t h' := by
  refine hs.same scheduler tracked accepted fun frame tracks hshowing => ?_
  rw [showing] at hshowing
  cases hshowing

/-- A step of the scheduler. -/
theorem Traced.scheduler (hs : Traced s h) {event : SharedInferenceScheduler.Event n Detections}
    {next : SharedInferenceScheduler.State setup Detections}
    (hstep : s.scheduler.step event = some next) :
    Traced { s with scheduler := next }
      { h with scheduler := h.scheduler.record s.scheduler event } := by
  refine ⟨fun entry hentry => ?_, hs.showing, hs.accepted⟩
  obtain ⟨hshows, htracks⟩ := hs.tracked entry hentry
  exact ⟨hshows.step hstep, htracks⟩

/-- The consumer takes a result, and its camera's tracker makes tracks of it. -/
theorem Traced.update (hs : Traced s h) {result : ScheduledResult Detections}
    {frame : FramePacket} {tracks : Tracks}
    (hshows : SharedInferenceScheduler.Shows setup h.scheduler result)
    (hframe : result.frame = some frame)
    (hcamera : ∀ track ∈ tracks, track.cameraId = result.cameraId)
    (hpc : t.consumerPc = .putting (.full tracks) frame tracks) :
    Traced t { h with tracked := h.tracked ++ [(result, tracks)] } := by
  have hold : ∀ shown made, Tracked h shown made →
      Tracked { h with tracked := h.tracked ++ [(result, tracks)] } shown made := by
    rintro shown made ⟨entry, hentry, hrest⟩
    exact ⟨entry, List.mem_append_left _ hentry, hrest⟩
  constructor
  · intro entry hentry
    rcases List.mem_append.mp hentry with hentry | hentry
    · exact hs.tracked entry hentry
    · rw [List.mem_singleton.mp hentry]
      exact ⟨hshows, hcamera⟩
  · intro frame' tracks' hshowing
    rw [hpc] at hshowing
    obtain ⟨rfl, rfl⟩ := Prod.mk.inj (Option.some.inj hshowing)
    exact ⟨(result, tracks), List.mem_append_right _ (List.mem_singleton_self _), hframe,
      List.Subset.refl _⟩
  · intro request hrequest
    obtain ⟨track, hmade, heq⟩ := hs.accepted request hrequest
    exact ⟨track, hold _ _ hmade, heq⟩

/-- The consumer asks for the pose of a track that it has. -/
theorem Traced.asks (hs : Traced s h) {nowNs : Int} {frame : FramePacket}
    {track : TrackedDetection ℚ} {remaining : Tracks}
    (hpc : s.consumerPc = .requesting nowNs frame (track :: remaining))
    (ht : t.consumerPc = .requesting nowNs frame remaining) :
    Traced t
      { h with accepted := h.accepted ++ [DetectionConsumer.poseRequest nowNs frame track] } := by
  obtain ⟨entry, hentry, hframe, hsubset⟩ :=
    hs.showing frame (track :: remaining) (by rw [hpc]; rfl)
  refine ⟨hs.tracked, ?_, ?_⟩
  · intro frame' tracks' hshowing
    rw [ht] at hshowing
    obtain ⟨rfl, rfl⟩ := Prod.mk.inj (Option.some.inj hshowing)
    exact ⟨entry, hentry, hframe, fun _ h => hsubset (List.mem_cons_of_mem _ h)⟩
  · intro request hrequest
    rcases List.mem_append.mp hrequest with hold | hnew
    · exact hs.accepted request hold
    · rw [List.mem_singleton.mp hnew]
      refine ⟨track, ⟨entry, hentry, hframe, ?_⟩, rfl⟩
      exact List.cons_subset.mpr ⟨hsubset List.mem_cons_self, List.nil_subset _⟩

theorem Traced.step (hs : Traced s h) (hr : Running s h) (hstep : RecordedStep s h t h') :
    Traced t h' := by
  have hkeep : ∀ frame tracks, s.consumerPc.showing? = some (frame, tracks) →
      ∃ more, tracks ⊆ more ∧ s.consumerPc.showing? = some (frame, more) :=
    fun _ tracks hshowing => ⟨tracks, List.Subset.refl _, hshowing⟩
  cases hstep with
  | scheduler event next stepped results => exact hs.scheduler stepped
  | stop | takeTracks | takePose | workerHead | gathered | nothing | takes | check | failed
  | inferred | delivered | delivering => exact hs.same rfl rfl rfl hkeep
  | putPose access remaining pc =>
    unfold Phase2Threads.putPose
    split <;> exact hs.same rfl rfl rfl hkeep
  | consumerHead pc =>
    refine hs.idle rfl rfl rfl ?_
    dsimp only
    split <;> rfl
  | noResult | frameless | stranger | requested => exact hs.idle rfl rfl rfl rfl
  | tracked result rest frame tracks trackers linearSumAssignment pc results frames updated =>
    obtain ⟨⟨made, heq, hcamera⟩, -⟩ := hr.updated results linearSumAssignment updated
    obtain rfl := Except.ok.inj heq
    exact hs.update (hr.waiting result (results ▸ List.mem_cons_self)) frames hcamera rfl
  | putTracks access frame tracks pc =>
    unfold Phase2Threads.putTracks
    rw [pc] at hkeep
    split
    · exact hs.idle rfl rfl rfl rfl
    · exact hs.same rfl rfl rfl (pc ▸ hkeep)
    · dsimp only
      split
      · exact hs.same rfl rfl rfl (pc ▸ hkeep)
      · exact hs.idle rfl rfl rfl rfl
  | timing frame tracks pc =>
    rw [pc] at hkeep
    exact hs.same rfl rfl rfl (pc ▸ hkeep)
  | asks nowNs frame track remaining pc asked => exact hs.asks pc rfl
  | skips nowNs frame track remaining pc asked =>
    refine hs.same rfl rfl rfl fun frame' tracks hshowing => ?_
    obtain ⟨rfl, rfl⟩ := Prod.mk.inj (Option.some.inj hshowing)
    exact ⟨track :: remaining, List.subset_cons_self _ _, by rw [pc]; rfl⟩

end Traced

/-- The results that the worker has not put yet. -/
def WorkerPc.undelivered : WorkerPc → List (PoseResult ℚ)
  | .delivering results => results
  | .putting access remaining => access.item :: remaining
  | _ => []

/-- What a batch gave, which is nothing where its inference raised. -/
def resultsOf (batch : List (PoseRequest ℚ) × Except String (List (PoseResult ℚ))) :
    List (PoseResult ℚ) :=
  batch.2.toOption.getD []

/-- The worker puts the results of its batches, each of which answers its request. -/
structure Delivered (s : Phase2Threads setup) (h : History n) : Prop where
  answered : ∀ batch ∈ h.batches, ∀ results, batch.2 = .ok results →
    List.Forall₂ RTMPosePipeline.Answered batch.1 results
  offered : h.batches.flatMap resultsOf = h.poseResults.offered ++ s.workerPc.undelivered

section Delivered
variable {s t : Phase2Threads setup} {h h' : History n}

/-- The worker has as much to deliver as before. -/
theorem Delivered.same (hs : Delivered s h) (batches : h'.batches = h.batches)
    (offered : h'.poseResults.offered = h.poseResults.offered)
    (undelivered : t.workerPc.undelivered = s.workerPc.undelivered) : Delivered t h' := by
  constructor
  · rw [batches]
    exact hs.answered
  · rw [batches, offered, undelivered]
    exact hs.offered

/-- A batch has been inferred. -/
theorem Delivered.inferred (hs : Delivered s h) {requests : List (PoseRequest ℚ)}
    (hpc : s.workerPc = .inferring requests) {outcome : Except String (List (PoseResult ℚ))}
    (hanswered : ∀ results, outcome = .ok results →
      List.Forall₂ RTMPosePipeline.Answered requests results)
    (ht : t.workerPc.undelivered = resultsOf (requests, outcome)) :
    Delivered t { h with batches := h.batches ++ [(requests, outcome)] } := by
  have hoffered := hs.offered
  rw [hpc] at hoffered
  constructor
  · intro batch hbatch
    rcases List.mem_append.mp hbatch with hold | hnew
    · exact hs.answered batch hold
    · rw [List.mem_singleton.mp hnew]
      exact hanswered
  · rw [List.flatMap_append, List.flatMap_singleton, ht, hoffered]
    exact congrArg (· ++ _) (List.append_nil _)

theorem Delivered.putPose (hs : Delivered s h) {access : PutLatest.Access (PoseResult ℚ)}
    {remaining : List (PoseResult ℚ)} (hpc : s.workerPc = .putting access remaining)
    (ht : (s.putPose access remaining).workerPc ≠ .raised) :
    Delivered (s.putPose access remaining)
      { h with poseResults := h.poseResults.access access } := by
  have hoffered := hs.offered
  rw [hpc] at hoffered
  refine ⟨hs.answered, hoffered.trans ?_⟩
  cases access with
  | full item =>
    simp only [Phase2Threads.putPose, PutLatest.access]
    split <;> rfl
  | evict item => rfl
  | put item =>
    simp only [Phase2Threads.putPose, PutLatest.access] at ht ⊢
    by_cases hfull : 64 ≤ s.poseResults.length
    · rw [if_pos hfull] at ht
      exact absurd rfl ht
    · rw [if_neg hfull]
      exact (List.append_assoc h.poseResults.offered [item] remaining).symm

theorem Delivered.step (hs : Delivered s h) (ht : t.workerPc ≠ .raised)
    (hstep : RecordedStep s h t h') : Delivered t h' := by
  cases hstep with
  | scheduler | stop | takeTracks | takePose | consumerHead | noResult | frameless | stranger
  | tracked | timing | requested | asks | skips => exact hs.same rfl rfl rfl
  | putTracks access frame tracks pc =>
    refine hs.same rfl rfl ?_
    unfold putTracks
    split <;> rfl
  | workerHead pc =>
    refine hs.same rfl rfl ?_
    rw [pc]
    dsimp only
    split <;> rfl
  | gathered requests pc some => exact hs.same rfl rfl (by rw [pc]; rfl)
  | nothing pc none => exact hs.same rfl rfl (by rw [pc]; rfl)
  | takes requests request poseRequests pc room got => exact hs.same rfl rfl (by rw [pc]; rfl)
  | check requests request pc => exact hs.same rfl rfl (by rw [pc]; rfl)
  | failed requests cv2 error pipeline pc inferred => exact hs.inferred pc nofun rfl
  | inferred requests cv2 results pipeline pc inferred =>
    refine hs.inferred pc (fun others heq => ?_) rfl
    obtain rfl := Except.ok.inj heq
    exact RTMPosePipeline.inferRequests_answered inferred
  | delivered pc => exact hs.same rfl rfl (by rw [pc]; rfl)
  | delivering result remaining pc => exact hs.same rfl rfl (by rw [pc]; rfl)
  | putPose access remaining pc => exact hs.putPose pc ht

end Delivered

section Run
variable {runtime : Phase2Runtime ℚ} {options : TrackerOptions ℚ}

theorem observe_flow
    (hinit : PerCameraTrackerManager.init
      (List.ofFn fun camera => (setup.layout camera).cameraId) options = .ok runtime.trackers)
    (poseFpsMedium : ℚ) (clockNs : UInt64) (events : List (Event n)) :
    let o := observe runtime poseFpsMedium setup clockNs events
    Running o.state o.history ∧ Traced o.state o.history ∧ Delivered o.state o.history := by
  refine Transition.recorded_invariant
    (I := fun s h => Running s h ∧ Traced s h ∧ Delivered s h) ?_ ?_ events
  · rintro s h e t ⟨hr, htraced, hd⟩ hstep
    have hrecorded := step_recorded h hstep
    have hr' := hr.step hrecorded
    exact ⟨hr', htraced.step hr hrecorded, hd.step hr'.workerRuns hrecorded⟩
  · refine ⟨threads_running hinit poseFpsMedium clockNs, ?_, ?_⟩
    · exact ⟨fun _ h => absurd h List.not_mem_nil, nofun, fun _ h => absurd h List.not_mem_nil⟩
    · refine ⟨fun _ h => absurd h List.not_mem_nil, ?_⟩
      rcases threads_workerPc setup runtime poseFpsMedium clockNs with h | h <;> rw [h] <;> rfl

/-- Over every run neither thread of the runtime ends with an exception, and each of the two queues
that they fill has at most its capacity of items. What was taken out of it and what waits in it is
in the order in which it was put, and the newest item is among it except while the thread is about
to put a newer one. -/
theorem outputs_fresh
    (hinit : PerCameraTrackerManager.init
      (List.ofFn fun camera => (setup.layout camera).cameraId) options = .ok runtime.trackers)
    (poseFpsMedium : ℚ) (clockNs : UInt64) (events : List (Event n)) :
    let o := observe runtime poseFpsMedium setup clockNs events
    o.state.consumerPc ≠ .raised ∧ o.state.workerPc ≠ .raised ∧
      PutLatest.Fresh 16 o.history.trackResults o.state.consumer.trackResults
        o.state.consumerPc.access? ∧
      PutLatest.Fresh 64 o.history.poseResults o.state.poseResults o.state.workerPc.access? := by
  obtain ⟨hr, -, -⟩ := observe_flow hinit poseFpsMedium clockNs events
  exact ⟨hr.consumerRuns, hr.workerRuns, hr.tracks, hr.poses⟩

end Run

section Example
open SharedInferenceScheduler

/-- Both threads find nothing to do. -/
def idleTurn : List (Event 1) :=
  [.consumer ByteTracker.onlyPair, .worker RTMPosePipeline.exactCv .smallRows,
    .consumer ByteTracker.onlyPair, .worker RTMPosePipeline.exactCv .smallRows, .stop]

/-- A runtime for one camera of a single pixel. -/
theorem outputs_fresh_idleTurn :
    ∃ trackers, PerCameraTrackerManager.init
        (List.ofFn fun camera => (pixelSetup.layout camera).cameraId) {} = .ok trackers ∧
      let o := observe (oneCamera trackers) 6 pixelSetup 1 idleTurn
      o.state.consumerPc ≠ .raised ∧ o.state.workerPc ≠ .raised ∧
        PutLatest.Fresh 16 o.history.trackResults o.state.consumer.trackResults
          o.state.consumerPc.access? ∧
        PutLatest.Fresh 64 o.history.poseResults o.state.poseResults o.state.workerPc.access? :=
  ⟨_, rfl, @outputs_fresh 1 pixelSetup (oneCamera _) {} rfl 6 1 idleTurn⟩

end Example

end Phase2Threads
end EdgeSafety
