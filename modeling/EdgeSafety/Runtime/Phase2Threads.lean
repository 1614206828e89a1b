import EdgeSafety.Inference.Integrity
import EdgeSafety.Inference.RtmPose
import EdgeSafety.Lib.PutLatest
import EdgeSafety.Runtime.PoseRequests

/-!
# The threads of the inference runtime

`Phase2Runtime` of `phase2_runtime.py` at work: the thread of the scheduler, the consumer of its
results (`_consume_detections`), the pose worker (`_run_pose`), and readers of the two queues that
these fill. A step of a thread makes at most one access to what it shares with others: it takes a
result, makes one access to a queue, reads the clock, calls the pose pipeline. `step_recorded` says
what each step does and what it adds to the history of the run; invariants go through its cases.
-/

namespace EdgeSafety

/-- The detections in a frame. -/
abbrev Detections : Type := List (Detection ℚ)

/-- The tracks in a frame. -/
abbrev Tracks : Type := List (TrackedDetection ℚ)

namespace DetectionConsumer
variable {K : Type} [Field K] [LinearOrder K]

/-- The request that `_consume_detections` makes for a track. -/
def poseRequest (nowNs : Int) (frame : FramePacket) (track : TrackedDetection K) :
    PoseRequest K where
  cameraId := track.cameraId
  trackId := track.trackId
  frame := frame
  bboxXyxy := track.bbox.asXyxy
  priority := .medium
  requestedAtMonotonicNs := nowNs

/-- The last request of the track is an interval ago. -/
def Due (consumer : DetectionConsumer K) (nowNs : Int) (track : TrackedDetection K) : Prop :=
  consumer.poseIntervalNs ≤ nowNs - (consumer.lastPoseRequestNs.get? track.identity).getD 0

instance (consumer : DetectionConsumer K) (nowNs : Int) (track : TrackedDetection K) :
    Decidable (consumer.Due nowNs track) := inferInstanceAs (Decidable (_ ≤ _))

/-- The request for the track is made and accepted. -/
def Asks (consumer : DetectionConsumer K) (nowNs : Int) (frame : FramePacket)
    (track : TrackedDetection K) : Prop :=
  consumer.Due nowNs track ∧
    (consumer.poseRequests.put (poseRequest nowNs frame track)).1 = true

instance (consumer : DetectionConsumer K) (nowNs : Int) (frame : FramePacket)
    (track : TrackedDetection K) : Decidable (consumer.Asks nowNs frame track) :=
  inferInstanceAs (Decidable (_ ∧ _))

section RequestPose
variable {consumer : DetectionConsumer K} {nowNs : Int} {frame : FramePacket}
  {track : TrackedDetection K}

theorem requestPose_of_not_due (h : ¬ consumer.Due nowNs track) :
    requestPose nowNs frame consumer track = consumer := by
  unfold requestPose
  exact if_pos (Int.not_le.mp h)

theorem requestPose_of_asks (h : consumer.Asks nowNs frame track) :
    requestPose nowNs frame consumer track = { consumer with
      poseRequests := (consumer.poseRequests.put (poseRequest nowNs frame track)).2
      lastPoseRequestNs := consumer.lastPoseRequestNs.set track.identity nowNs } := by
  unfold requestPose
  refine (if_neg (Int.not_lt.mpr h.1)).trans ?_
  exact if_pos h.2

end RequestPose
end DetectionConsumer

namespace Phase2Threads

/-- Where the thread of `_consume_detections` is. -/
inductive ConsumerPc
  /-- At the head of its loop. -/
  | head
  /-- In `get_result`. -/
  | getting
  /-- In `_put_latest(self.track_results, tracks)`. -/
  | putting (access : PutLatest.Access Tracks) (frame : FramePacket) (tracks : Tracks)
  /-- About to read `now_ns`. -/
  | timing (frame : FramePacket) (tracks : Tracks)
  /-- In the loop over the tracks. -/
  | requesting (nowNs : Int) (frame : FramePacket) (remaining : Tracks)
  /-- The thread returned. -/
  | ended
  /-- The thread ended with an exception. -/
  | raised

/-- Where the thread of `_run_pose` is. -/
inductive WorkerPc
  /-- At the head of its loop. -/
  | head
  /-- At the head of the loop that gathers `requests`. -/
  | collecting (requests : List (PoseRequest ℚ))
  /-- About to read the age of a request's frame. -/
  | checking (requests : List (PoseRequest ℚ)) (request : PoseRequest ℚ)
  /-- In `infer_requests`. -/
  | inferring (requests : List (PoseRequest ℚ))
  /-- At the head of the loop over the results. -/
  | delivering (results : List (PoseResult ℚ))
  /-- In `_put_latest(self.pose_results, result)`. -/
  | putting (access : PutLatest.Access (PoseResult ℚ)) (remaining : List (PoseResult ℚ))
  /-- The thread returned, or was never started. -/
  | ended
  /-- The thread ended with an exception. -/
  | raised

/-- What happens next. -/
inductive Event (n : Nat)
  /-- Something happens to the scheduler. -/
  | scheduler (event : SharedInferenceScheduler.Event n Detections)
  /-- The consumer takes a step, with the solver that its trackers call. -/
  | consumer (linearSumAssignment : LinearSumAssignment ℚ)
  /-- The pose worker takes a step. The backend of the pipeline can answer each call in another
  way. -/
  | worker (cv2 : AffineCv) (pipeline : RTMPosePipeline)
  /-- A reader takes from `track_results`. -/
  | takeTracks
  /-- A reader takes from `pose_results`. -/
  | takePose
  /-- `stop` sets the flag of the two threads. -/
  | stop

end Phase2Threads

/-- The runtime after `start`. -/
structure Phase2Threads {n : Nat} (setup : SchedulerSetup n) where
  scheduler : SharedInferenceScheduler.State setup Detections
  consumer : DetectionConsumer ℚ
  poseResults : List (PoseResult ℚ) := []
  consumerPc : Phase2Threads.ConsumerPc := .head
  workerPc : Phase2Threads.WorkerPc
  stopped : Bool := false

/-- `Phase2Runtime.start`. The pose worker is started for a pose model only. -/
def Phase2Runtime.threads (runtime : Phase2Runtime ℚ) (poseFpsMedium : ℚ) {n : Nat}
    (setup : SchedulerSetup n) (clockNs : UInt64) : Phase2Threads setup where
  scheduler := .init setup Detections clockNs
  consumer := runtime.consumer poseFpsMedium
  workerPc := if runtime.posePipeline.isSome then .head else .ended

namespace Phase2Threads

variable {n : Nat} {setup : SchedulerSetup n}

section Consumer

/-- `get_result`, up to the call of `_put_latest`. -/
def getResult (s : Phase2Threads setup) (linearSumAssignment : LinearSumAssignment ℚ) :
    Phase2Threads setup :=
  match s.scheduler.results with
  | [] => { s with consumerPc := .head }
  | result :: rest =>
    let s := { s with scheduler := { s.scheduler with results := rest } }
    match result.frame with
    | none => { s with consumerPc := .head }
    | some frame =>
      match s.consumer.trackers.update result.cameraId ⟨linearSumAssignment, result.output⟩ with
      | (.error _, _) => { s with consumerPc := .raised }
      | (.ok tracks, trackers) =>
        { s with
          consumer := { s.consumer with trackers }
          consumerPc := .putting (.full tracks) frame tracks }

/-- One access of `_put_latest(self.track_results, tracks)`. -/
def putTracks (s : Phase2Threads setup) (access : PutLatest.Access Tracks) (frame : FramePacket)
    (tracks : Tracks) : Phase2Threads setup :=
  match PutLatest.access 16 s.consumer.trackResults access with
  | none => { s with consumerPc := .raised }
  | some (trackResults, some next) =>
    { s with
      consumer := { s.consumer with trackResults }
      consumerPc := .putting next frame tracks }
  | some (trackResults, none) =>
    { s with
      consumer := { s.consumer with trackResults }
      consumerPc := if s.consumer.posePipeline.isSome then .timing frame tracks else .head }

/-- One step of the consumer. -/
def consume (s : Phase2Threads setup) (linearSumAssignment : LinearSumAssignment ℚ) :
    Option (Phase2Threads setup) :=
  match s.consumerPc with
  | .head => some { s with consumerPc := if s.stopped then .ended else .getting }
  | .getting => some (s.getResult linearSumAssignment)
  | .putting access frame tracks => some (s.putTracks access frame tracks)
  | .timing frame tracks =>
    some { s with consumerPc := .requesting s.scheduler.clockNs.toNat frame tracks }
  | .requesting _ _ [] => some { s with consumerPc := .head }
  | .requesting nowNs frame (track :: remaining) =>
    some { s with
      consumer := s.consumer.requestPose nowNs frame track
      consumerPc := .requesting nowNs frame remaining }
  | .ended | .raised => none

end Consumer

section Worker

/-- One turn of the loop that gathers requests, to the request that it takes. -/
def collect (s : Phase2Threads setup) (requests : List (PoseRequest ℚ)) : Phase2Threads setup :=
  if requests.length < 8 then
    match s.consumer.poseRequests.get with
    | (none, _) =>
      { s with workerPc := if requests.isEmpty then .head else .inferring requests }
    | (some request, poseRequests) =>
      { s with
        consumer := { s.consumer with poseRequests }
        workerPc := .checking requests request }
  else { s with workerPc := .inferring requests }

/-- `request.frame.age_ms <= 1_000`, at the time of the scheduler's clock. -/
def Young (clockNs : Nat) (request : PoseRequest ℚ) : Prop :=
  request.frame.ageMs clockNs ≤ 1000

instance (clockNs : Nat) (request : PoseRequest ℚ) : Decidable (Young clockNs request) :=
  inferInstanceAs (Decidable (_ ≤ _))

/-- The end of a turn of that loop. -/
def check (s : Phase2Threads setup) (requests : List (PoseRequest ℚ)) (request : PoseRequest ℚ) :
    Phase2Threads setup :=
  { s with
    workerPc := .collecting
      (if Young s.scheduler.clockNs.toNat request then requests ++ [request] else requests) }

/-- One access of `_put_latest(self.pose_results, result)`. -/
def putPose (s : Phase2Threads setup) (access : PutLatest.Access (PoseResult ℚ))
    (remaining : List (PoseResult ℚ)) : Phase2Threads setup :=
  match PutLatest.access 64 s.poseResults access with
  | none => { s with workerPc := .raised }
  | some (poseResults, some next) => { s with poseResults, workerPc := .putting next remaining }
  | some (poseResults, none) => { s with poseResults, workerPc := .delivering remaining }

/-- One step of the pose worker. -/
def work (s : Phase2Threads setup) (cv2 : AffineCv) (pipeline : RTMPosePipeline) :
    Option (Phase2Threads setup) :=
  match s.workerPc with
  | .head => some { s with workerPc := if s.stopped then .ended else .collecting [] }
  | .collecting requests => some (s.collect requests)
  | .checking requests request => some (s.check requests request)
  | .inferring requests =>
    some { s with
      workerPc := match pipeline.inferRequests cv2 requests with
        | .error _ => .head
        | .ok results => .delivering results }
  | .delivering [] => some { s with workerPc := .head }
  | .delivering (result :: remaining) =>
    some { s with workerPc := .putting (.full result) remaining }
  | .putting access remaining => some (s.putPose access remaining)
  | .ended | .raised => none

end Worker

/-- One step of the system. Results are taken from the scheduler by the consumer only. -/
def step (s : Phase2Threads setup) : Event n → Option (Phase2Threads setup)
  | .scheduler .getResult => none
  | .scheduler event => (s.scheduler.step event).map fun scheduler => { s with scheduler }
  | .consumer linearSumAssignment => s.consume linearSumAssignment
  | .worker cv2 pipeline => s.work cv2 pipeline
  | .takeTracks =>
    match s.consumer.trackResults with
    | [] => none
    | _ :: trackResults => some { s with consumer := { s.consumer with trackResults } }
  | .takePose =>
    match s.poseResults with
    | [] => none
    | _ :: poseResults => some { s with poseResults }
  | .stop => some { s with stopped := true }

/-- What a run did so far: the scheduler's part, the results with the tracks that were made of
them, the requests that the queue accepted, those that the worker took with the time at which it
checked them, the batches with what `infer_requests` made of them, and the items of the two output
queues. -/
structure History (n : Nat) where
  scheduler : SharedInferenceScheduler.History n Detections := .empty
  tracked : List (ScheduledResult Detections × Tracks) := []
  trackResults : PutLatest.Ledger Tracks := {}
  accepted : List (PoseRequest ℚ) := []
  checked : List (PoseRequest ℚ × Nat) := []
  batches : List (List (PoseRequest ℚ) × Except String (List (PoseResult ℚ))) := []
  poseResults : PutLatest.Ledger (PoseResult ℚ) := {}

namespace History

/-- What `get_result` and the update of the tracker add. -/
def getResult (h : History n) (s : Phase2Threads setup)
    (linearSumAssignment : LinearSumAssignment ℚ) : History n :=
  match s.scheduler.results with
  | [] => h
  | result :: _ =>
    match result.frame, (s.consumer.trackers.update result.cameraId
        ⟨linearSumAssignment, result.output⟩).1 with
    | some _, .ok tracks => { h with tracked := h.tracked ++ [(result, tracks)] }
    | _, _ => h

/-- What the request for a track adds. -/
def requestPose (h : History n) (s : Phase2Threads setup) (nowNs : Int) (frame : FramePacket)
    (track : TrackedDetection ℚ) : History n :=
  if s.consumer.Asks nowNs frame track then
    { h with accepted := h.accepted ++ [DetectionConsumer.poseRequest nowNs frame track] }
  else h

/-- What a step of the consumer adds. -/
def consume (h : History n) (s : Phase2Threads setup)
    (linearSumAssignment : LinearSumAssignment ℚ) : History n :=
  match s.consumerPc with
  | .getting => h.getResult s linearSumAssignment
  | .putting access _ _ => { h with trackResults := h.trackResults.access access }
  | .requesting nowNs frame (track :: _) => h.requestPose s nowNs frame track
  | _ => h

/-- What a step of the pose worker adds. -/
def work (h : History n) (s : Phase2Threads setup) (cv2 : AffineCv) (pipeline : RTMPosePipeline) :
    History n :=
  match s.workerPc with
  | .checking _ request =>
    { h with checked := h.checked ++ [(request, s.scheduler.clockNs.toNat)] }
  | .inferring requests =>
    { h with batches := h.batches ++ [(requests, pipeline.inferRequests cv2 requests)] }
  | .putting access _ => { h with poseResults := h.poseResults.access access }
  | _ => h

/-- What a step from `s` adds. -/
def record (h : History n) (s : Phase2Threads setup) : Event n → History n
  | .scheduler event => { h with scheduler := h.scheduler.record s.scheduler event }
  | .consumer linearSumAssignment => h.consume s linearSumAssignment
  | .worker cv2 pipeline => h.work s cv2 pipeline
  | .takeTracks =>
    match s.consumer.trackResults with
    | [] => h
    | tracks :: _ => { h with trackResults := h.trackResults.take tracks }
  | .takePose =>
    match s.poseResults with
    | [] => h
    | pose :: _ => { h with poseResults := h.poseResults.take pose }
  | .stop => h

end History

/-- The recorded steps, one constructor for each place where a thread can be. -/
inductive RecordedStep (s : Phase2Threads setup) (h : History n) :
    Phase2Threads setup → History n → Prop
  | scheduler (event next) (stepped : s.scheduler.step event = some next)
      (results : event ≠ .getResult) :
    RecordedStep s h { s with scheduler := next }
      { h with scheduler := h.scheduler.record s.scheduler event }
  | stop : RecordedStep s h { s with stopped := true } h
  | takeTracks (tracks trackResults) (waiting : s.consumer.trackResults = tracks :: trackResults) :
    RecordedStep s h { s with consumer := { s.consumer with trackResults } }
      { h with trackResults := h.trackResults.take tracks }
  | takePose (pose poseResults) (waiting : s.poseResults = pose :: poseResults) :
    RecordedStep s h { s with poseResults } { h with poseResults := h.poseResults.take pose }
  | consumerHead (pc : s.consumerPc = .head) :
    RecordedStep s h { s with consumerPc := if s.stopped then .ended else .getting } h
  | noResult (pc : s.consumerPc = .getting) (results : s.scheduler.results = []) :
    RecordedStep s h { s with consumerPc := .head } h
  | frameless (result rest) (pc : s.consumerPc = .getting)
      (results : s.scheduler.results = result :: rest) (frame : result.frame = none) :
    RecordedStep s h
      { s with scheduler := { s.scheduler with results := rest }, consumerPc := .head } h
  | stranger (result rest error trackers) (linearSumAssignment : LinearSumAssignment ℚ)
      (pc : s.consumerPc = .getting)
      (results : s.scheduler.results = result :: rest)
      (updated : s.consumer.trackers.update result.cameraId
        ⟨linearSumAssignment, result.output⟩ = (.error error, trackers)) :
    RecordedStep s h
      { s with scheduler := { s.scheduler with results := rest }, consumerPc := .raised } h
  | tracked (result rest frame tracks trackers) (linearSumAssignment : LinearSumAssignment ℚ)
      (pc : s.consumerPc = .getting)
      (results : s.scheduler.results = result :: rest) (frames : result.frame = some frame)
      (updated : s.consumer.trackers.update result.cameraId
        ⟨linearSumAssignment, result.output⟩ = (.ok tracks, trackers)) :
    RecordedStep s h
      { s with
        scheduler := { s.scheduler with results := rest }
        consumer := { s.consumer with trackers }
        consumerPc := .putting (.full tracks) frame tracks }
      { h with tracked := h.tracked ++ [(result, tracks)] }
  | putTracks (access frame tracks) (pc : s.consumerPc = .putting access frame tracks) :
    RecordedStep s h (s.putTracks access frame tracks)
      { h with trackResults := h.trackResults.access access }
  | timing (frame tracks) (pc : s.consumerPc = .timing frame tracks) :
    RecordedStep s h
      { s with consumerPc := .requesting s.scheduler.clockNs.toNat frame tracks } h
  | requested (nowNs frame) (pc : s.consumerPc = .requesting nowNs frame []) :
    RecordedStep s h { s with consumerPc := .head } h
  | asks (nowNs frame track remaining)
      (pc : s.consumerPc = .requesting nowNs frame (track :: remaining))
      (asked : s.consumer.Asks nowNs frame track) :
    RecordedStep s h
      { s with
        consumer := s.consumer.requestPose nowNs frame track
        consumerPc := .requesting nowNs frame remaining }
      { h with accepted := h.accepted ++ [DetectionConsumer.poseRequest nowNs frame track] }
  | skips (nowNs frame track remaining)
      (pc : s.consumerPc = .requesting nowNs frame (track :: remaining))
      (asked : ¬ s.consumer.Asks nowNs frame track) :
    RecordedStep s h
      { s with
        consumer := s.consumer.requestPose nowNs frame track
        consumerPc := .requesting nowNs frame remaining } h
  | workerHead (pc : s.workerPc = .head) :
    RecordedStep s h { s with workerPc := if s.stopped then .ended else .collecting [] } h
  | gathered (requests) (pc : s.workerPc = .collecting requests)
      (some : requests.length < 8 → s.consumer.poseRequests.get.1 = none ∧ requests ≠ []) :
    RecordedStep s h { s with workerPc := .inferring requests } h
  | nothing (pc : s.workerPc = .collecting []) (none : s.consumer.poseRequests.get.1 = none) :
    RecordedStep s h { s with workerPc := .head } h
  | takes (requests request poseRequests) (pc : s.workerPc = .collecting requests)
      (room : requests.length < 8)
      (got : s.consumer.poseRequests.get = (some request, poseRequests)) :
    RecordedStep s h
      { s with
        consumer := { s.consumer with poseRequests }
        workerPc := .checking requests request } h
  | check (requests request) (pc : s.workerPc = .checking requests request) :
    RecordedStep s h (s.check requests request)
      { h with checked := h.checked ++ [(request, s.scheduler.clockNs.toNat)] }
  | failed (requests cv2 error) (pipeline : RTMPosePipeline)
      (pc : s.workerPc = .inferring requests)
      (inferred : pipeline.inferRequests cv2 requests = .error error) :
    RecordedStep s h { s with workerPc := .head }
      { h with batches := h.batches ++ [(requests, .error error)] }
  | inferred (requests cv2 results) (pipeline : RTMPosePipeline)
      (pc : s.workerPc = .inferring requests)
      (inferred : pipeline.inferRequests cv2 requests = .ok results) :
    RecordedStep s h { s with workerPc := .delivering results }
      { h with batches := h.batches ++ [(requests, .ok results)] }
  | delivered (pc : s.workerPc = .delivering []) :
    RecordedStep s h { s with workerPc := .head } h
  | delivering (result remaining) (pc : s.workerPc = .delivering (result :: remaining)) :
    RecordedStep s h { s with workerPc := .putting (.full result) remaining } h
  | putPose (access remaining) (pc : s.workerPc = .putting access remaining) :
    RecordedStep s h (s.putPose access remaining)
      { h with poseResults := h.poseResults.access access }

section Recorded
variable {s t : Phase2Threads setup} (h : History n)

theorem consume_recorded {linearSumAssignment : LinearSumAssignment ℚ}
    (hstep : s.consume linearSumAssignment = some t) :
    RecordedStep s h t (h.consume s linearSumAssignment) := by
  unfold consume at hstep
  unfold History.consume
  cases hpc : s.consumerPc with
  | head =>
    simp only [hpc, Option.some.injEq] at hstep
    subst hstep
    exact .consumerHead hpc
  | getting =>
    simp only [hpc, Option.some.injEq] at hstep
    subst hstep
    simp only [getResult, History.getResult]
    cases hresults : s.scheduler.results with
    | nil => exact .noResult hpc hresults
    | cons result rest =>
      cases hframe : result.frame with
      | none =>
        simp only [hframe]
        exact .frameless result rest hpc hresults hframe
      | some frame =>
        simp only [hframe]
        cases hupdate : s.consumer.trackers.update result.cameraId
            ⟨linearSumAssignment, result.output⟩ with
        | mk answer trackers =>
          cases answer with
          | error error =>
            exact .stranger result rest error trackers linearSumAssignment hpc hresults hupdate
          | ok tracks =>
            exact .tracked result rest frame tracks trackers linearSumAssignment hpc hresults
              hframe hupdate
  | putting access frame tracks =>
    simp only [hpc, Option.some.injEq] at hstep
    subst hstep
    exact .putTracks access frame tracks hpc
  | timing frame tracks =>
    simp only [hpc, Option.some.injEq] at hstep
    subst hstep
    exact .timing frame tracks hpc
  | requesting nowNs frame remaining =>
    cases remaining with
    | nil =>
      simp only [hpc, Option.some.injEq] at hstep
      subst hstep
      exact .requested nowNs frame hpc
    | cons track remaining =>
      simp only [hpc, Option.some.injEq] at hstep
      subst hstep
      show RecordedStep s h _ (h.requestPose s nowNs frame track)
      unfold History.requestPose
      split
      · next hasks => exact .asks nowNs frame track remaining hpc hasks
      · next hasks => exact .skips nowNs frame track remaining hpc hasks
  | ended => simp [hpc] at hstep
  | raised => simp [hpc] at hstep

theorem collect_recorded {requests : List (PoseRequest ℚ)}
    (hpc : s.workerPc = .collecting requests) : RecordedStep s h (s.collect requests) h := by
  unfold collect
  split
  · next hroom =>
    cases hget : s.consumer.poseRequests.get with
    | mk answer poseRequests =>
      cases answer with
      | none =>
        cases requests with
        | nil => exact .nothing hpc (by rw [hget])
        | cons request requests =>
          exact .gathered _ hpc fun _ => ⟨by rw [hget], List.cons_ne_nil _ _⟩
      | some request => exact .takes requests request poseRequests hpc hroom hget
  · next hfull => exact .gathered requests hpc fun hroom => absurd hroom hfull

theorem work_recorded {cv2 : AffineCv} {pipeline : RTMPosePipeline}
    (hstep : s.work cv2 pipeline = some t) : RecordedStep s h t (h.work s cv2 pipeline) := by
  unfold work at hstep
  unfold History.work
  cases hpc : s.workerPc with
  | head =>
    simp only [hpc, Option.some.injEq] at hstep
    subst hstep
    exact .workerHead hpc
  | collecting requests =>
    simp only [hpc, Option.some.injEq] at hstep
    subst hstep
    exact collect_recorded h hpc
  | checking requests request =>
    simp only [hpc, Option.some.injEq] at hstep
    subst hstep
    exact .check requests request hpc
  | inferring requests =>
    simp only [hpc, Option.some.injEq] at hstep
    subst hstep
    cases hinferred : pipeline.inferRequests cv2 requests with
    | error error =>
      simp only [hinferred]
      exact .failed requests cv2 error pipeline hpc hinferred
    | ok results =>
      simp only [hinferred]
      exact .inferred requests cv2 results pipeline hpc hinferred
  | delivering results =>
    cases results with
    | nil =>
      simp only [hpc, Option.some.injEq] at hstep
      subst hstep
      exact .delivered hpc
    | cons result remaining =>
      simp only [hpc, Option.some.injEq] at hstep
      subst hstep
      exact .delivering result remaining hpc
  | putting access remaining =>
    simp only [hpc, Option.some.injEq] at hstep
    subst hstep
    exact .putPose access remaining hpc
  | ended => simp [hpc] at hstep
  | raised => simp [hpc] at hstep

theorem step_recorded {e : Event n} (hstep : s.step e = some t) :
    RecordedStep s h t (h.record s e) := by
  cases e with
  | scheduler event =>
    by_cases hget : event = .getResult
    · subst hget
      cases hstep
    · have hmap : (s.scheduler.step event).map (fun scheduler => { s with scheduler }) =
          some t := by
        cases event with
        | getResult => exact absurd rfl hget
        | tick | publish | scheduler | pipeline => exact hstep
      obtain ⟨next, hnext, rfl⟩ := Option.map_eq_some_iff.mp hmap
      exact .scheduler event next hnext hget
  | consumer linearSumAssignment => exact consume_recorded h hstep
  | worker cv2 pipeline => exact work_recorded h hstep
  | takeTracks =>
    simp only [step] at hstep
    simp only [History.record]
    split at hstep
    · cases hstep
    · next tracks trackResults hwaiting =>
      obtain rfl := Option.some.inj hstep
      exact .takeTracks tracks trackResults hwaiting
  | takePose =>
    simp only [step] at hstep
    simp only [History.record]
    split at hstep
    · cases hstep
    · next pose poseResults hwaiting =>
      obtain rfl := Option.some.inj hstep
      exact .takePose pose poseResults hwaiting
  | stop =>
    obtain rfl := Option.some.inj hstep
    exact .stop

end Recorded

/-- The runtime and its history after a run. -/
def observe (runtime : Phase2Runtime ℚ) (poseFpsMedium : ℚ) (setup : SchedulerSetup n)
    (clockNs : UInt64) (events : List (Event n)) :
    Transition.Recorded (Phase2Threads setup) (History n) :=
  Transition.exec (Transition.recorded step History.record)
    ⟨runtime.threads poseFpsMedium setup clockNs, {}⟩ events

end Phase2Threads
end EdgeSafety
