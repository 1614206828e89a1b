import EdgeSafety.Inference.PoseQueue
import EdgeSafety.Inference.Scheduler
import EdgeSafety.Lib.Dict
import EdgeSafety.Lib.Transition
import EdgeSafety.Runtime.Readiness

/-!
# Pose requests

`Phase2Runtime._consume_detections` of `phase2_runtime.py`. A result goes to the tracker of its
camera, and the tracks that it returns are queued for the pose model, each at most once in an
interval. The times of the last requests stand in a dict under the identities of the tracks. No
code takes an identity out of it when the tracker drops the track.
-/

namespace EdgeSafety

variable {K : Type} [Field K] [LinearOrder K]

/-- What `_consume_detections` works on, beside the trackers. `raised` says that an exception has
ended it. -/
structure DetectionConsumer (K : Type) [Field K] [LinearOrder K] extends Phase2Runtime K where
  trackResults : List (List (TrackedDetection K)) := []
  poseRequests : BoundedPoseQueue K := .empty K 64 (by decide)
  lastPoseRequestNs : Dict (String × Nat) Int := .empty
  poseIntervalNs : Int
  raised : Bool := false

/-- `TrackedDetection.identity`. -/
def TrackedDetection.identity (track : TrackedDetection K) : String × Nat :=
  (track.cameraId, track.trackId)

/-- `BoundingBox.as_xyxy`. -/
def BoundingBox.asXyxy (box : BoundingBox K) : K × K × K × K := (box.x1, box.y1, box.x2, box.y2)

/-- `Phase2Runtime._put_latest`, on a queue of the given size. -/
def putLatest {α : Type} (maxsize : Nat) (target : List α) (value : α) : List α :=
  (if maxsize ≤ target.length then target.tail else target) ++ [value]

/-- `Phase2Runtime.__init__`, where the consumer starts from. -/
def Phase2Runtime.consumer (runtime : Phase2Runtime K) (poseFpsMedium : ℚ) : DetectionConsumer K :=
  { runtime with poseIntervalNs := (1000000000 / poseFpsMedium).floor }

namespace DetectionConsumer

/-- The request for one track. -/
def requestPose (nowNs : Int) (frame : FramePacket) (consumer : DetectionConsumer K)
    (track : TrackedDetection K) : DetectionConsumer K :=
  let lastNs := (consumer.lastPoseRequestNs.get? track.identity).getD 0
  if nowNs - lastNs < consumer.poseIntervalNs then consumer
  else
    let (accepted, poseRequests) := consumer.poseRequests.put
      { cameraId := track.cameraId
        trackId := track.trackId
        frame
        bboxXyxy := track.bbox.asXyxy
        priority := .medium
        requestedAtMonotonicNs := nowNs }
    let consumer := { consumer with poseRequests }
    if accepted then
      { consumer with
        lastPoseRequestNs := consumer.lastPoseRequestNs.set track.identity nowNs }
    else consumer

section Requests
variable {nowNs : Int} {frame : FramePacket} {consumer : DetectionConsumer K}

/-- A request changes the queue, and notes its identity if it is accepted. -/
theorem requestPose_cases (nowNs : Int) (frame : FramePacket) (consumer : DetectionConsumer K)
    (track : TrackedDetection K) :
    ∃ poseRequests, requestPose nowNs frame consumer track = { consumer with poseRequests } ∨
      requestPose nowNs frame consumer track = { consumer with
        poseRequests
        lastPoseRequestNs := consumer.lastPoseRequestNs.set track.identity nowNs } := by
  unfold requestPose
  dsimp only
  split
  · exact ⟨consumer.poseRequests, .inl rfl⟩
  · split
    · exact ⟨_, .inr rfl⟩
    · exact ⟨_, .inl rfl⟩

theorem requestPose_trackers (track : TrackedDetection K) :
    (requestPose nowNs frame consumer track).trackers = consumer.trackers := by
  obtain ⟨poseRequests, h | h⟩ := requestPose_cases nowNs frame consumer track <;> rw [h]

theorem mem_keys_requestPose {track : TrackedDetection K} {identity : String × Nat}
    (h : identity ∈ (requestPose nowNs frame consumer track).lastPoseRequestNs.keys) :
    identity = track.identity ∨ identity ∈ consumer.lastPoseRequestNs.keys := by
  obtain ⟨poseRequests, hcase | hcase⟩ := requestPose_cases nowNs frame consumer track
  · rw [hcase] at h
    exact .inr h
  · rw [hcase] at h
    exact Dict.mem_keys_set.mp h

theorem keys_subset_requestPose (track : TrackedDetection K) :
    consumer.lastPoseRequestNs.keys ⊆
      (requestPose nowNs frame consumer track).lastPoseRequestNs.keys := by
  intro identity h
  obtain ⟨poseRequests, hcase | hcase⟩ := requestPose_cases nowNs frame consumer track
  · rw [hcase]
    exact h
  · rw [hcase]
    exact Dict.mem_keys_set.mpr (.inr h)

variable (tracks : List (TrackedDetection K))

theorem foldl_requestPose_trackers :
    (tracks.foldl (requestPose nowNs frame) consumer).trackers = consumer.trackers := by
  induction tracks generalizing consumer with
  | nil => rfl
  | cons track tracks ih => exact ih.trans (requestPose_trackers track)

theorem mem_keys_foldl_requestPose {identity : String × Nat}
    (h : identity ∈ (tracks.foldl (requestPose nowNs frame) consumer).lastPoseRequestNs.keys) :
    identity ∈ tracks.map TrackedDetection.identity ∨
      identity ∈ consumer.lastPoseRequestNs.keys := by
  induction tracks generalizing consumer with
  | nil => exact .inr h
  | cons track tracks ih =>
    rw [List.map_cons, List.mem_cons]
    rcases ih h with hlater | hkeys
    · exact .inl (.inr hlater)
    · exact (mem_keys_requestPose hkeys).imp_left .inl

theorem keys_subset_foldl_requestPose :
    consumer.lastPoseRequestNs.keys ⊆
      (tracks.foldl (requestPose nowNs frame) consumer).lastPoseRequestNs.keys := by
  induction tracks generalizing consumer with
  | nil => exact List.Subset.refl _
  | cons track tracks ih => exact List.Subset.trans (keys_subset_requestPose track) ih

end Requests

variable [IsStrictOrderedRing K]

/-- One pass of the loop of `_consume_detections`, with what `get_result` returns. -/
def consumeDetections (consumer : DetectionConsumer K)
    (result : Option (ScheduledResult (List (Detection K))))
    (linearSumAssignment : LinearSumAssignment K) (nowNs : Int) : DetectionConsumer K :=
  match result with
  | none => consumer
  | some result =>
    match result.frame with
    | none => consumer
    | some frame =>
      match consumer.trackers.update result.cameraId ⟨linearSumAssignment, result.output⟩ with
      | (.error _, _) => { consumer with raised := true }
      | (.ok tracks, trackers) =>
        let consumer := { consumer with
          trackers
          trackResults := putLatest 16 consumer.trackResults tracks }
        if consumer.posePipeline.isSome then tracks.foldl (requestPose nowNs frame) consumer
        else consumer

/-- An event: a pass of the consumer, a request that the pose worker takes, or tracks that are taken
from their queue. -/
inductive Event (K : Type) [Field K] [LinearOrder K]
  | consume (result : Option (ScheduledResult (List (Detection K))))
      (linearSumAssignment : LinearSumAssignment K) (nowNs : Int)
  | takePoseRequest
  | takeTracks

/-- One step. -/
def step (consumer : DetectionConsumer K) : Event K → Option (DetectionConsumer K)
  | .consume result linearSumAssignment nowNs =>
    if consumer.raised then none
    else some (consumer.consumeDetections result linearSumAssignment nowNs)
  | .takePoseRequest => some { consumer with poseRequests := consumer.poseRequests.get.2 }
  | .takeTracks => some { consumer with trackResults := consumer.trackResults.tail }

/-- What a pass of the consumer does to the trackers and to the identities. -/
inductive Consumed (consumer next : DetectionConsumer K)
    (result : Option (ScheduledResult (List (Detection K))))
    (linearSumAssignment : LinearSumAssignment K) : Prop
  | idle (unused : ∀ scheduled, result = some scheduled → scheduled.frame ≠ none →
      consumer.trackers.tracker scheduled.cameraId = none)
      (trackers : next.trackers = consumer.trackers)
      (keys : next.lastPoseRequestNs = consumer.lastPoseRequestNs)
  | tracked (scheduled : ScheduledResult (List (Detection K))) (tracker : ByteTracker K)
      (hresult : result = some scheduled) (hframe : scheduled.frame ≠ none)
      (htracker : consumer.trackers.tracker scheduled.cameraId = some tracker)
      (trackers : next.trackers.tracker = Function.update consumer.trackers.tracker
        scheduled.cameraId (some (tracker.report ⟨linearSumAssignment, scheduled.output⟩).1))
      (kept : consumer.lastPoseRequestNs.keys ⊆ next.lastPoseRequestNs.keys)
      (noted : ∀ identity ∈ next.lastPoseRequestNs.keys,
        identity ∈ (tracker.report ⟨linearSumAssignment, scheduled.output⟩).2.returned.map
            TrackedDetection.identity ∨
          identity ∈ consumer.lastPoseRequestNs.keys)

theorem consumeDetections_consumed (consumer : DetectionConsumer K)
    (result : Option (ScheduledResult (List (Detection K))))
    (linearSumAssignment : LinearSumAssignment K) (nowNs : Int) :
    Consumed consumer (consumer.consumeDetections result linearSumAssignment nowNs) result
      linearSumAssignment := by
  cases result with
  | none => exact .idle nofun rfl rfl
  | some scheduled =>
    cases hframe : scheduled.frame with
    | none =>
      have hsame : consumer.consumeDetections (some scheduled) linearSumAssignment nowNs =
          consumer := by
        simp only [consumeDetections, hframe]
      rw [hsame]
      refine .idle (fun other hother hsome => ?_) rfl rfl
      rw [← Option.some.inj hother] at hsome
      exact absurd hframe hsome
    | some frame =>
      have hsome : scheduled.frame ≠ none := by simp [hframe]
      cases htracker : consumer.trackers.tracker scheduled.cameraId with
      | none =>
        have hlookup : consumer.trackers.trackers.lookup scheduled.cameraId = none := htracker
        have hraised : consumer.consumeDetections (some scheduled) linearSumAssignment nowNs =
            { consumer with raised := true } := by
          simp only [consumeDetections, hframe, PerCameraTrackerManager.update, hlookup]
        rw [hraised]
        refine .idle (fun other hother _ => ?_) rfl rfl
        rw [← Option.some.inj hother]
        exact htracker
      | some tracker =>
        have hlookup : consumer.trackers.trackers.lookup scheduled.cameraId = some tracker :=
          htracker
        have hupdate := (consumer.trackers.update_eq scheduled.cameraId
          ⟨linearSumAssignment, scheduled.output⟩).2
        rw [Family.call_of_some ByteTracker.report htracker] at hupdate
        simp only [PerCameraTrackerManager.update, hlookup] at hupdate
        simp only [consumeDetections, hframe, PerCameraTrackerManager.update, hlookup]
        split
        · refine .tracked scheduled tracker rfl hsome htracker ?_ ?_ ?_
          · rw [foldl_requestPose_trackers]
            exact hupdate
          · intro identity hidentity
            apply keys_subset_foldl_requestPose
            exact hidentity
          · intro identity hidentity
            rcases mem_keys_foldl_requestPose _ hidentity with hreturned | hold
            · exact .inl hreturned
            · exact .inr hold
        · exact .tracked scheduled tracker rfl hsome htracker hupdate (List.Subset.refl _)
            fun identity hidentity => .inr hidentity

/-- A pass is made where the consumer did not raise. -/
theorem step_consume {consumer next : DetectionConsumer K}
    {result : Option (ScheduledResult (List (Detection K)))}
    {linearSumAssignment : LinearSumAssignment K} {nowNs : Int}
    (h : consumer.step (.consume result linearSumAssignment nowNs) = some next) :
    Consumed consumer next result linearSumAssignment := by
  simp only [step] at h
  split at h
  · cases h
  · rw [← Option.some.inj h]
    exact consumer.consumeDetections_consumed result linearSumAssignment nowNs

/-- Every identity with a time is that of a retained track, so that there are no more of them. -/
structure Bounded (consumer : DetectionConsumer K) : Prop where
  retained : consumer.lastPoseRequestNs.keys ⊆ consumer.trackers.identities
  size : consumer.lastPoseRequestNs.keys.length ≤ consumer.trackers.identities.length

/-- The step does not drop a track whose identity has a time. -/
def RetainsPosed (consumer : DetectionConsumer K) : Event K → Prop
  | .consume (some scheduled) linearSumAssignment _ => scheduled.frame ≠ none →
    ∀ tracker, consumer.trackers.tracker scheduled.cameraId = some tracker →
      ∀ track : Fin tracker.tracks.length,
        (scheduled.cameraId, (tracker.tracks.get track).trackId) ∈
            consumer.lastPoseRequestNs.keys →
          ¬ tracker.Drops ⟨linearSumAssignment, scheduled.output⟩ track
  | _ => True

omit [IsStrictOrderedRing K] in
theorem bounded_of_retained {consumer : DetectionConsumer K}
    (h : consumer.lastPoseRequestNs.keys ⊆ consumer.trackers.identities) : consumer.Bounded :=
  ⟨h, (consumer.lastPoseRequestNs.keys_nodup.subperm h).length_le⟩

/-- The trackers are in order, and the identities with a time are those of retained tracks. -/
structure Posed (consumer : DetectionConsumer K) : Prop where
  trackers : ∀ cameraId tracker, consumer.trackers.tracker cameraId = some tracker →
    tracker.WellFormed ∧ tracker.cameraId = cameraId
  retained : consumer.lastPoseRequestNs.keys ⊆ consumer.trackers.identities

section Step
variable {consumer next : DetectionConsumer K}
  {result : Option (ScheduledResult (List (Detection K)))}
  {linearSumAssignment : LinearSumAssignment K} {nowNs : Int}

/-- A pass that drops no track with a time. -/
theorem Posed.consume (hs : consumer.Posed)
    (hretains : consumer.RetainsPosed (.consume result linearSumAssignment nowNs))
    (h : Consumed consumer next result linearSumAssignment) : next.Posed := by
  cases h with
  | idle unused trackers keys =>
    refine ⟨?_, ?_⟩
    · rw [trackers]
      exact hs.trackers
    · rw [trackers, keys]
      exact hs.retained
  | tracked scheduled tracker hresult hframe htracker trackers kept noted =>
    subst hresult
    obtain ⟨hwell, hcamera⟩ := hs.trackers _ _ htracker
    have hself : next.trackers.tracker scheduled.cameraId =
        some (tracker.report ⟨linearSumAssignment, scheduled.output⟩).1 := by
      rw [trackers, Function.update_self]
    constructor
    · intro cameraId other hother
      rw [trackers] at hother
      by_cases hsame : cameraId = scheduled.cameraId
      · subst hsame
        rw [Function.update_self] at hother
        rw [← Option.some.inj hother]
        exact ⟨ByteTracker.update_wellFormed _ _ hwell, hcamera⟩
      · rw [Function.update_of_ne hsame] at hother
        exact hs.trackers cameraId other hother
    · rintro ⟨cameraId, trackId⟩ hidentity
      rw [PerCameraTrackerManager.mem_identities]
      rcases noted _ hidentity with hreturned | hold
      · obtain ⟨entry, hentry, hid⟩ := List.mem_map.mp hreturned
        obtain ⟨hof, track, htrack, htrackId⟩ := ByteTracker.report_returned hwell _ entry hentry
        obtain ⟨rfl, rfl⟩ := Prod.mk.inj hid
        rw [hof, hcamera]
        exact ⟨_, hself, track, htrack, htrackId⟩
      · obtain ⟨other, hother, track, htrack, hid⟩ :=
          PerCameraTrackerManager.mem_identities.mp (hs.retained hold)
        by_cases hsame : cameraId = scheduled.cameraId
        · subst hsame
          obtain rfl := Option.some.inj (htracker.symm.trans hother)
          obtain ⟨index, rfl⟩ := List.get_of_mem htrack
          have hkept := (ByteTracker.report_retains_iff hwell ⟨linearSumAssignment,
            scheduled.output⟩ index).mpr (hretains hframe tracker htracker index (hid ▸ hold))
          rw [hid] at hkept
          exact ⟨_, hself, hkept⟩
        · refine ⟨other, ?_, track, htrack, hid⟩
          rw [trackers, Function.update_of_ne hsame]
          exact hother

/-- A pass that drops a track with a time leaves an identity that no retained track has. -/
theorem Posed.not_bounded_consume (hs : consumer.Posed)
    (hdrops : ¬ consumer.RetainsPosed (.consume result linearSumAssignment nowNs))
    (h : Consumed consumer next result linearSumAssignment) : ¬ next.Bounded := by
  cases result with
  | none => exact absurd trivial hdrops
  | some scheduled =>
    simp only [RetainsPosed, not_forall, not_not] at hdrops
    obtain ⟨hframe, tracker, htracker, track, hkey, hdrop⟩ := hdrops
    cases h with
    | idle unused trackers keys =>
      rw [unused scheduled rfl hframe] at htracker
      cases htracker
    | tracked other found hresult _ hfound trackers kept noted =>
      obtain rfl := Option.some.inj hresult
      obtain rfl := Option.some.inj (htracker.symm.trans hfound)
      intro hbounded
      obtain ⟨last, hlast, hretained⟩ :=
        PerCameraTrackerManager.mem_identities.mp (hbounded.retained (kept hkey))
      rw [trackers, Function.update_self] at hlast
      rw [← Option.some.inj hlast] at hretained
      exact (ByteTracker.report_retains_iff (hs.trackers _ _ htracker).1 _ track).mp hretained
        hdrop

end Step

end DetectionConsumer

/-- In every run, the identities with a time are those of retained tracks after each step exactly
when no step drops a track whose identity has a time. -/
theorem pose_requests_bounded_iff [IsStrictOrderedRing K] {cameraIds : List String}
    {options : TrackerOptions K}
    {runtime : Phase2Runtime K}
    (hinit : PerCameraTrackerManager.init cameraIds options = .ok runtime.trackers)
    (poseFpsMedium : ℚ) (events : List (DetectionConsumer.Event K)) :
    let run := Transition.steps DetectionConsumer.step (runtime.consumer poseFpsMedium) events
    (∀ taken ∈ run, taken.target.Bounded) ↔
      ∀ taken ∈ run, taken.source.RetainsPosed taken.event := by
  intro run
  apply Transition.everyTarget_iff (I := DetectionConsumer.Posed) (P := DetectionConsumer.Bounded)
  · intro consumer event next hs hretains hstep
    suffices hnext : next.Posed from ⟨hnext, DetectionConsumer.bounded_of_retained hnext.retained⟩
    cases event with
    | consume result linearSumAssignment nowNs =>
      exact hs.consume hretains (DetectionConsumer.step_consume hstep)
    | takePoseRequest =>
      rw [← Option.some.inj hstep]
      exact ⟨hs.trackers, hs.retained⟩
    | takeTracks =>
      rw [← Option.some.inj hstep]
      exact ⟨hs.trackers, hs.retained⟩
  · intro consumer event next hs hdrops hstep
    cases event with
    | consume result linearSumAssignment nowNs =>
      exact hs.not_bounded_consume hdrops (DetectionConsumer.step_consume hstep)
    | takePoseRequest => exact absurd trivial hdrops
    | takeTracks => exact absurd trivial hdrops
  · refine ⟨fun cameraId tracker htracker => ?_, List.nil_subset _⟩
    have hfresh : (runtime.consumer poseFpsMedium).trackers.tracker cameraId = _ :=
      PerCameraTrackerManager.init_tracker hinit cameraId
    rw [htracker] at hfresh
    split at hfresh
    · rw [Option.some.inj hfresh]
      exact ⟨ByteTracker.fresh_wellFormed cameraId options, rfl⟩
    · cases hfresh

section Example

/-- A result for one camera, with its frame. -/
def scheduled (output : List (Detection ℚ)) : ScheduledResult (List (Detection ℚ)) where
  cameraId := "cam-a"
  frameId := 1
  capturedAtUnixNs := 0
  frameAgeMs := 0
  output
  frame := some ⟨"cam-a", 1, 0, 0, blackFrame 1 1⟩

/-- A person is seen in one result, and no one in the results after it. -/
def seenOnce (later : Nat) : List (DetectionConsumer.Event ℚ) :=
  .consume (some (scheduled (ByteTracker.firstSight 0).detections)) ByteTracker.onlyPair
      1000000000 ::
    List.replicate later (.consume (some (scheduled [])) ByteTracker.onlyPair 2000000000)

/-- A runtime for one camera, with a pose model. -/
def oneCamera (trackers : PerCameraTrackerManager ℚ) : Phase2Runtime ℚ where
  detector := ⟨0, ModelRegistry.personDetector⟩
  trackers
  posePipeline := some ⟨1, ModelRegistry.personDetector⟩

/-- After 31 results without the person, the tracker has dropped the track, and its identity still
has a time. -/
theorem dropped_track_noted :
    ∃ trackers, PerCameraTrackerManager.init ["cam-a"] {} = .ok trackers ∧
      ¬ ∀ taken ∈ Transition.steps DetectionConsumer.step ((oneCamera trackers).consumer 6)
          (seenOnce 31),
        taken.target.Bounded := by
  refine ⟨_, rfl, fun h => ?_⟩
  have hrun : ∃ taken ∈ Transition.steps DetectionConsumer.step
      ((oneCamera ⟨[⟨"cam-a", ByteTracker.fresh "cam-a" {}⟩].toAList⟩).consumer 6) (seenOnce 31),
      taken.target.lastPoseRequestNs.keys = [("cam-a", 1)] ∧
        taken.target.trackers.identities = [] := by
    decide +kernel
  obtain ⟨taken, htaken, hkeys, hnone⟩ := hrun
  have hretained := (h taken htaken).retained
  rw [hkeys, hnone] at hretained
  exact absurd (hretained List.mem_cons_self) List.not_mem_nil

theorem pose_requests_bounded_iff_seenOnce :
    ∃ trackers, PerCameraTrackerManager.init ["cam-a"] {} = .ok trackers ∧
      let run := Transition.steps DetectionConsumer.step ((oneCamera trackers).consumer 6)
        (seenOnce 1)
      (∀ taken ∈ run, taken.target.Bounded) ↔
        ∀ taken ∈ run, taken.source.RetainsPosed taken.event :=
  ⟨_, rfl, @pose_requests_bounded_iff ℚ _ _ _ ["cam-a"] {} _ rfl 6 (seenOnce 1)⟩

end Example

end EdgeSafety
