import EdgeSafety.Inference.ResultFrames
import EdgeSafety.Runtime.Phase2Threads

/-!
# What flows through the inference runtime

Neither of the two threads of `Phase2Runtime` ends with an exception (`Running`): every result is of
a camera that has a tracker, and each output queue has one producer.
-/

namespace EdgeSafety

namespace PerCameraTrackerManager
variable {K : Type} [Field K] [LinearOrder K] [IsStrictOrderedRing K]

/-- An update for a camera that has a tracker. -/
theorem update_of_tracker {m : PerCameraTrackerManager K} {cameraId : String} {t : ByteTracker K}
    (htracker : m.tracker cameraId = some t) (input : ByteTracker.Input K) :
    (m.update cameraId input).1 = .ok (t.report input).2.returned ∧
      (m.update cameraId input).2.tracker =
        Function.update m.tracker cameraId (some (t.report input).1) := by
  obtain ⟨hanswer, htrackers⟩ := m.update_eq cameraId input
  rw [Family.call_of_some ByteTracker.report htracker] at hanswer htrackers
  exact ⟨hanswer, htrackers⟩

end PerCameraTrackerManager

theorem DetectionConsumer.requestPose_trackResults {nowNs : Int} {frame : FramePacket}
    {consumer : DetectionConsumer ℚ} (track : TrackedDetection ℚ) :
    (requestPose nowNs frame consumer track).trackResults = consumer.trackResults := by
  obtain ⟨poseRequests, h | h⟩ := requestPose_cases nowNs frame consumer track <;> rw [h]

namespace Phase2Threads

variable {n : Nat} {setup : SchedulerSetup n}

/-- The access to `track_results` that the consumer is about to make. -/
def ConsumerPc.access? : ConsumerPc → Option (PutLatest.Access Tracks)
  | .putting access _ _ => some access
  | _ => none

/-- The access to `pose_results` that the worker is about to make. -/
def WorkerPc.access? : WorkerPc → Option (PutLatest.Access (PoseResult ℚ))
  | .putting access _ => some access
  | _ => none

/-- Both threads run, and each of the queues that they fill is in order. -/
structure Running (s : Phase2Threads setup) (h : History n) : Prop where
  sound : SharedInferenceScheduler.Sound s.scheduler h.scheduler
  waiting : ∀ result ∈ s.scheduler.results,
    SharedInferenceScheduler.Shows setup h.scheduler result
  known : ∀ camera, (s.consumer.trackers.tracker (setup.layout camera).cameraId).isSome
  trackers : ∀ cameraId tracker, s.consumer.trackers.tracker cameraId = some tracker →
    tracker.WellFormed ∧ tracker.cameraId = cameraId
  tracks : PutLatest.Fresh 16 h.trackResults s.consumer.trackResults s.consumerPc.access?
  poses : PutLatest.Fresh 64 h.poseResults s.poseResults s.workerPc.access?
  consumerRuns : s.consumerPc ≠ .raised
  workerRuns : s.workerPc ≠ .raised

section Running
variable {s t : Phase2Threads setup} {h h' : History n}

/-- The result that the consumer takes is of a camera that has a tracker. -/
theorem Running.tracker (hs : Running s h) {result : ScheduledResult Detections}
    {rest : List (ScheduledResult Detections)} (hresults : s.scheduler.results = result :: rest) :
    ∃ tracker, s.consumer.trackers.tracker result.cameraId = some tracker := by
  obtain ⟨camera, packet, -, hcamera, -⟩ := hs.waiting result (by simp [hresults])
  rw [hcamera]
  exact Option.isSome_iff_exists.mp (hs.known camera)

/-- An update keeps all trackers, each of its camera. -/
theorem Running.updated (hs : Running s h) {result : ScheduledResult Detections}
    {rest : List (ScheduledResult Detections)} (hresults : s.scheduler.results = result :: rest)
    (linearSumAssignment : LinearSumAssignment ℚ) {answer : Except String Tracks}
    {trackers : PerCameraTrackerManager ℚ}
    (hupdate : s.consumer.trackers.update result.cameraId ⟨linearSumAssignment, result.output⟩ =
      (answer, trackers)) :
    (∃ tracks, answer = .ok tracks ∧ ∀ track ∈ tracks, track.cameraId = result.cameraId) ∧
      (∀ camera, (trackers.tracker (setup.layout camera).cameraId).isSome) ∧
      ∀ cameraId tracker, trackers.tracker cameraId = some tracker →
        tracker.WellFormed ∧ tracker.cameraId = cameraId := by
  obtain ⟨tracker, htracker⟩ := hs.tracker hresults
  obtain ⟨hanswer, htrackers⟩ := PerCameraTrackerManager.update_of_tracker htracker
    ⟨linearSumAssignment, result.output⟩
  rw [hupdate] at hanswer htrackers
  obtain ⟨hwell, hcamera⟩ := hs.trackers _ _ htracker
  refine ⟨⟨_, hanswer, ?_⟩, ?_, ?_⟩
  · intro track htrack
    rw [(ByteTracker.report_returned hwell _ track htrack).1, hcamera]
  · intro camera
    rw [htrackers]
    by_cases hsame : (setup.layout camera).cameraId = result.cameraId
    · rw [hsame, Function.update_self]
      rfl
    · rw [Function.update_of_ne hsame]
      exact hs.known camera
  · intro cameraId other hother
    rw [htrackers] at hother
    by_cases hsame : cameraId = result.cameraId
    · subst hsame
      rw [Function.update_self] at hother
      rw [← Option.some.inj hother]
      exact ⟨ByteTracker.update_wellFormed _ _ hwell, hcamera⟩
    · rw [Function.update_of_ne hsame] at hother
      exact hs.trackers cameraId other hother

/-- Taking a result leaves the scheduler in order. -/
theorem Running.taken (hs : Running s h) {result : ScheduledResult Detections}
    {rest : List (ScheduledResult Detections)} (hresults : s.scheduler.results = result :: rest) :
    SharedInferenceScheduler.Sound { s.scheduler with results := rest } h.scheduler ∧
      ∀ other ∈ rest, SharedInferenceScheduler.Shows setup h.scheduler other := by
  constructor
  · exact hs.sound.step (e := .getResult) (by simp [SharedInferenceScheduler.State.step, hresults])
  · intro other hother
    exact hs.waiting other (by simp [hresults, hother])

theorem Running.putTracks (hs : Running s h) {access : PutLatest.Access Tracks}
    {frame : FramePacket} {tracks : Tracks} (hpc : s.consumerPc = .putting access frame tracks) :
    Running (s.putTracks access frame tracks)
      { h with trackResults := h.trackResults.access access } := by
  have htracks := hs.tracks
  rw [hpc] at htracks
  obtain ⟨queue, next?, haccess, hfresh⟩ := htracks.access (by decide)
  unfold Phase2Threads.putTracks
  rw [haccess]
  cases next? with
  | some next =>
    exact ⟨hs.sound, hs.waiting, hs.known, hs.trackers, hfresh, hs.poses, nofun, hs.workerRuns⟩
  | none =>
    refine ⟨hs.sound, hs.waiting, hs.known, hs.trackers, ?_, hs.poses, ?_, hs.workerRuns⟩
    · dsimp only
      split <;> exact hfresh
    · dsimp only
      split <;> nofun

theorem Running.putPose (hs : Running s h) {access : PutLatest.Access (PoseResult ℚ)}
    {remaining : List (PoseResult ℚ)} (hpc : s.workerPc = .putting access remaining) :
    Running (s.putPose access remaining)
      { h with poseResults := h.poseResults.access access } := by
  have hposes := hs.poses
  rw [hpc] at hposes
  obtain ⟨queue, next?, haccess, hfresh⟩ := hposes.access (by decide)
  unfold Phase2Threads.putPose
  rw [haccess]
  cases next? with
  | some next =>
    exact ⟨hs.sound, hs.waiting, hs.known, hs.trackers, hs.tracks, hfresh, hs.consumerRuns, nofun⟩
  | none =>
    exact ⟨hs.sound, hs.waiting, hs.known, hs.trackers, hs.tracks, hfresh, hs.consumerRuns, nofun⟩

/-- The consumer moves on without an access to its queue. -/
theorem Running.consumerTo (hs : Running s h) (hpc : s.consumerPc.access? = none)
    (next : ConsumerPc) (haccess : next.access? = none) (hraised : next ≠ .raised) :
    Running { s with consumerPc := next } h := by
  refine { hs with tracks := ?_, consumerRuns := hraised }
  have htracks := hs.tracks
  rw [hpc] at htracks
  rw [haccess]
  exact htracks

/-- The worker moves on without an access to its queue. -/
theorem Running.workerTo (hs : Running s h) (hpc : s.workerPc.access? = none)
    (next : WorkerPc) (haccess : next.access? = none) (hraised : next ≠ .raised) :
    Running { s with workerPc := next } h := by
  refine { hs with poses := ?_, workerRuns := hraised }
  have hposes := hs.poses
  rw [hpc] at hposes
  rw [haccess]
  exact hposes

/-- The parts of the state and the history that `Running` does not look at. -/
theorem Running.same (hs : Running s h) (scheduler : t.scheduler = s.scheduler)
    (trackers : t.consumer.trackers = s.consumer.trackers)
    (trackResults : t.consumer.trackResults = s.consumer.trackResults)
    (poseResults : t.poseResults = s.poseResults) (consumerPc : t.consumerPc = s.consumerPc)
    (workerPc : t.workerPc = s.workerPc) (hscheduler : h'.scheduler = h.scheduler)
    (htracks : h'.trackResults = h.trackResults) (hposes : h'.poseResults = h.poseResults) :
    Running t h' := by
  constructor
  · rw [scheduler, hscheduler]
    exact hs.sound
  · rw [scheduler, hscheduler]
    exact hs.waiting
  · rw [trackers]
    exact hs.known
  · rw [trackers]
    exact hs.trackers
  · rw [trackResults, htracks, consumerPc]
    exact hs.tracks
  · rw [poseResults, hposes, workerPc]
    exact hs.poses
  · rw [consumerPc]
    exact hs.consumerRuns
  · rw [workerPc]
    exact hs.workerRuns

theorem Running.step (hs : Running s h) (hstep : RecordedStep s h t h') : Running t h' := by
  cases hstep with
  | scheduler event next stepped results =>
    exact { hs with
      sound := hs.sound.step stepped
      waiting := SharedInferenceScheduler.shows_step hs.sound hs.waiting stepped }
  | stop => exact hs.same rfl rfl rfl rfl rfl rfl rfl rfl rfl
  | takeTracks tracks trackResults waiting =>
    have htracks := hs.tracks
    rw [waiting] at htracks
    exact { hs with tracks := htracks.take }
  | takePose pose poseResults waiting =>
    have hposes := hs.poses
    rw [waiting] at hposes
    exact { hs with poses := hposes.take }
  | consumerHead pc =>
    apply hs.consumerTo (by rw [pc]; rfl) _ <;> split <;> first | rfl | nofun
  | noResult pc results => exact hs.consumerTo (by rw [pc]; rfl) _ rfl nofun
  | frameless result rest pc results frame =>
    obtain ⟨hsound, hwaiting⟩ := hs.taken results
    exact { hs.consumerTo (by rw [pc]; rfl) .head rfl nofun with
      sound := hsound, waiting := hwaiting }
  | stranger result rest error trackers linearSumAssignment pc results updated =>
    obtain ⟨⟨tracks, herror, -⟩, -⟩ := hs.updated results linearSumAssignment updated
    cases herror
  | tracked result rest frame tracks trackers linearSumAssignment pc results frames updated =>
    obtain ⟨hsound, hwaiting⟩ := hs.taken results
    obtain ⟨-, hknown, htrackers⟩ := hs.updated results linearSumAssignment updated
    have htracks := hs.tracks
    rw [pc] at htracks
    exact ⟨hsound, hwaiting, hknown, htrackers, htracks.start tracks, hs.poses, nofun,
      hs.workerRuns⟩
  | putTracks access frame tracks pc => exact hs.putTracks pc
  | timing frame tracks pc => exact hs.consumerTo (by rw [pc]; rfl) _ rfl nofun
  | requested nowNs frame pc => exact hs.consumerTo (by rw [pc]; rfl) _ rfl nofun
  | asks nowNs frame track remaining pc asked =>
    refine (hs.consumerTo (by rw [pc]; rfl) (.requesting nowNs frame remaining) rfl
      nofun).same rfl (DetectionConsumer.requestPose_trackers track) ?_ rfl rfl rfl rfl rfl rfl
    exact DetectionConsumer.requestPose_trackResults track
  | skips nowNs frame track remaining pc asked =>
    refine (hs.consumerTo (by rw [pc]; rfl) (.requesting nowNs frame remaining) rfl
      nofun).same rfl (DetectionConsumer.requestPose_trackers track) ?_ rfl rfl rfl rfl rfl rfl
    exact DetectionConsumer.requestPose_trackResults track
  | workerHead pc =>
    apply hs.workerTo (by rw [pc]; rfl) _ <;> split <;> first | rfl | nofun
  | gathered requests pc some => exact hs.workerTo (by rw [pc]; rfl) _ rfl nofun
  | nothing pc none => exact hs.workerTo (by rw [pc]; rfl) _ rfl nofun
  | takes requests request poseRequests pc room got =>
    exact (hs.workerTo (by rw [pc]; rfl) (.checking requests request) rfl nofun).same
      rfl rfl rfl rfl rfl rfl rfl rfl rfl
  | check requests request pc =>
    exact (hs.workerTo (by rw [pc]; rfl) (s.check requests request).workerPc rfl nofun).same
      rfl rfl rfl rfl rfl rfl rfl rfl rfl
  | failed requests cv2 error pipeline pc inferred =>
    exact (hs.workerTo (by rw [pc]; rfl) .head rfl nofun).same rfl rfl rfl rfl rfl rfl rfl rfl rfl
  | inferred requests cv2 results pipeline pc inferred =>
    exact (hs.workerTo (by rw [pc]; rfl) (.delivering results) rfl nofun).same
      rfl rfl rfl rfl rfl rfl rfl rfl rfl
  | delivered pc => exact hs.workerTo (by rw [pc]; rfl) _ rfl nofun
  | delivering result remaining pc =>
    have hposes := hs.poses
    rw [pc] at hposes
    exact { hs with poses := hposes.start result, workerRuns := nofun }
  | putPose access remaining pc => exact hs.putPose pc

end Running

/-- The runtime is started with a tracker for each camera of the scheduler. -/
theorem threads_running {runtime : Phase2Runtime ℚ} {options : TrackerOptions ℚ}
    (hinit : PerCameraTrackerManager.init
      (List.ofFn fun camera => (setup.layout camera).cameraId) options = .ok runtime.trackers)
    (poseFpsMedium : ℚ) (clockNs : UInt64) :
    Running (runtime.threads poseFpsMedium setup clockNs) {} where
  sound := SharedInferenceScheduler.init_sound setup clockNs
  waiting _ h := absurd h List.not_mem_nil
  known camera := by
    have htracker : (runtime.threads poseFpsMedium setup clockNs).consumer.trackers.tracker
        (setup.layout camera).cameraId = _ :=
      PerCameraTrackerManager.init_tracker hinit (setup.layout camera).cameraId
    rw [htracker, if_pos (List.mem_ofFn.mpr ⟨camera, rfl⟩)]
    rfl
  trackers cameraId tracker htracker := by
    have hfresh : (runtime.threads poseFpsMedium setup clockNs).consumer.trackers.tracker
        cameraId = _ := PerCameraTrackerManager.init_tracker hinit cameraId
    rw [htracker] at hfresh
    split at hfresh
    · rw [Option.some.inj hfresh]
      exact ⟨ByteTracker.fresh_wellFormed cameraId options, rfl⟩
    · cases hfresh
  tracks := PutLatest.fresh_empty 16
  poses := by
    have hidle : (runtime.threads poseFpsMedium setup clockNs).workerPc.access? = none := by
      simp only [Phase2Runtime.threads]
      split <;> rfl
    rw [hidle]
    exact PutLatest.fresh_empty 64
  consumerRuns := nofun
  workerRuns := by
    simp only [Phase2Runtime.threads]
    split <;> nofun

end Phase2Threads
end EdgeSafety
