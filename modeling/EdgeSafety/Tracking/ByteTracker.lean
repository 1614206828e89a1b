import EdgeSafety.Lib.Matching
import EdgeSafety.Tracking.Kalman
import Mathlib.Data.Finset.Basic
import Mathlib.Data.List.OfFn

/-!
# ByteTracker

`ByteTracker` of `byte_tracker.py`. Python's lists of tracks share their `_Track` objects, and an
association changes an object that several lists name. Within one update the objects are the
cells of a store `Fin n → Track K`, one for each entry of `self._tracks`, and the lists that the
code builds from `self._tracks` are lists of cells.

`scipy.optimize.linear_sum_assignment` is a parameter. What the tracker relies on, pairs of
valid positions with distinct rows and distinct columns, is the type of its result.
-/

namespace EdgeSafety

/-- `TrackState`. -/
inductive TrackState where
  | tracked
  | lost
  | removed
  deriving DecidableEq, Repr

/-- `_Track`. -/
structure Track (K : Type) where
  trackId : Nat
  mean : Fin 8 → K
  covariance : Matrix (Fin 8) (Fin 8) K
  score : K
  classId : Int
  className : String
  lastFrame : Nat
  state : TrackState := .tracked

/-- The options of `ByteTracker.__init__`, with its defaults. -/
structure TrackerOptions (K : Type) [Field K] where
  trackThreshold : K := 1 / 2
  lowThreshold : K := 1 / 10
  matchIouThreshold : K := 3 / 10
  trackBuffer : Int := 30

/-- The attributes of a `ByteTracker`. -/
structure ByteTracker (K : Type) [Field K] extends TrackerOptions K where
  cameraId : String
  tracks : List (Track K)
  nextTrackId : Nat
  frameId : Nat

/-- `linear_sum_assignment`: any choice of a matching for each cost matrix. -/
abbrev LinearSumAssignment (K : Type) := ∀ m n : Nat, Matrix (Fin m) (Fin n) K → Matching m n

variable {K : Type} [Field K] [LinearOrder K]

namespace Track

/-- `_Track.bbox`. -/
def bbox [IsStrictOrderedRing K] (track : Track K) : BoundingBox K := xyahToBbox track.mean

/-- The prediction of one candidate in `ByteTracker.update`. -/
def predict (track : Track K) : Track K :=
  let (mean, covariance) := KalmanFilterXYAH.predict track.mean track.covariance
  { track with mean, covariance }

/-- What `_associate` writes to a track that it matches. -/
def observe (frameId : Nat) (track : Track K) (detection : Detection K) : Track K :=
  let (mean, covariance) :=
    KalmanFilterXYAH.update track.mean track.covariance (xyxyToXyah detection.bbox)
  { track with
    mean
    covariance
    score := detection.score
    classId := detection.classId
    className := detection.className
    lastFrame := frameId
    state := .tracked }

/-- The ageing of a track that no detection matched. -/
def age (frameId : Nat) (trackBuffer : Int) (track : Track K) : Track K :=
  if (frameId : Int) - track.lastFrame > trackBuffer then { track with state := .removed }
  else { track with state := .lost }

/-- The track that a high-score detection without a track opens. -/
def create (frameId trackId : Nat) (detection : Detection K) : Track K :=
  let (mean, covariance) := KalmanFilterXYAH.initiate (xyxyToXyah detection.bbox)
  { trackId
    mean
    covariance
    score := detection.score
    classId := detection.classId
    className := detection.className
    lastFrame := frameId }

/-- The loop over `unmatched_high`, from the id it starts at. -/
def createAll (frameId : Nat) : Nat → List (Detection K) → List (Track K)
  | _, [] => []
  | trackId, detection :: rest =>
    create frameId trackId detection :: createAll frameId (trackId + 1) rest

section Fields
variable (track : Track K) (frameId trackId : Nat) (trackBuffer : Int) (detection : Detection K)

@[simp] theorem predict_trackId : track.predict.trackId = track.trackId := rfl
@[simp] theorem predict_state : track.predict.state = track.state := rfl
@[simp] theorem predict_lastFrame : track.predict.lastFrame = track.lastFrame := rfl
@[simp] theorem observe_trackId : (track.observe frameId detection).trackId = track.trackId := rfl
@[simp] theorem observe_state : (track.observe frameId detection).state = .tracked := rfl
@[simp] theorem observe_lastFrame : (track.observe frameId detection).lastFrame = frameId := rfl
@[simp] theorem create_trackId : (create frameId trackId detection).trackId = trackId := rfl
@[simp] theorem create_state : (create frameId trackId detection).state = .tracked := rfl
@[simp] theorem create_lastFrame : (create frameId trackId detection).lastFrame = frameId := rfl

omit [Field K] [LinearOrder K] in
@[simp] theorem age_trackId : (track.age frameId trackBuffer).trackId = track.trackId := by
  unfold age; split <;> rfl

omit [Field K] [LinearOrder K] in
@[simp] theorem age_lastFrame : (track.age frameId trackBuffer).lastFrame = track.lastFrame := by
  unfold age; split <;> rfl

omit [Field K] [LinearOrder K] in
theorem age_state : (track.age frameId trackBuffer).state =
    if (frameId : Int) - track.lastFrame > trackBuffer then .removed else .lost := by
  unfold age; split <;> rfl

/-- The ids that the loop gives out are the next ones, in order. -/
theorem createAll_trackIds (detections : List (Detection K)) :
    (createAll frameId trackId detections).map Track.trackId =
      List.range' trackId detections.length := by
  induction detections generalizing trackId with
  | nil => rfl
  | cons detection rest ih => simp [createAll, ih, List.range'_succ]

theorem mem_createAll {track : Track K} {detections : List (Detection K)} {trackId : Nat}
    (h : track ∈ createAll frameId trackId detections) :
    ∃ trackId, ∃ detection ∈ detections, track = create frameId trackId detection := by
  induction detections generalizing trackId with
  | nil => cases h
  | cons detection rest ih =>
    rcases List.mem_cons.mp h with rfl | h
    · exact ⟨trackId, detection, by simp, rfl⟩
    · obtain ⟨id, other, hmem, rfl⟩ := ih h
      exact ⟨id, other, List.mem_cons_of_mem _ hmem, rfl⟩

end Fields

/-- The entry of the returned list for a track. -/
def toTracked [IsStrictOrderedRing K] (cameraId : String) (track : Track K) :
    TrackedDetection K where
  cameraId
  trackId := track.trackId
  bbox := track.bbox
  score := track.score
  classId := track.classId
  className := track.className

end Track

/-- The two lists that `_associate` returns, with the store of tracks it leaves. -/
structure Association (K : Type) [Field K] [LinearOrder K] (n : Nat) where
  store : Fin n → Track K
  unmatchedTracks : List (Fin n)
  unmatchedDetections : List (Detection K)

namespace ByteTracker

/-- A tracker as `ByteTracker.__init__` leaves it. -/
def fresh (cameraId : String) (options : TrackerOptions K) : ByteTracker K :=
  { options with cameraId, tracks := [], nextTrackId := 1, frameId := 0 }

/-- `ByteTracker.__init__`, which rejects an empty camera id. -/
def init (cameraId : String) (options : TrackerOptions K) : Except String (ByteTracker K) :=
  if cameraId = "" then .error "camera_id is required" else .ok (fresh cameraId options)

variable [IsStrictOrderedRing K]

section Associate
variable (linearSumAssignment : LinearSumAssignment K) (self : ByteTracker K) {n : Nat}
  (store : Fin n → Track K) (tracks : List (Fin n)) (detections : List (Detection K))

/-- The cost matrix of `_associate`. -/
def cost : Matrix (Fin tracks.length) (Fin detections.length) K :=
  Matrix.of fun row column =>
    1 - iou (store (tracks.get row)).bbox (detections.get column).bbox

/-- The loop of `_associate`: the store and the two index sets that it collects. -/
def associateLoop :
    (Fin n → Track K) × Finset (Fin tracks.length) × Finset (Fin detections.length) :=
  let cost := cost store tracks detections
  (linearSumAssignment _ _ cost).pairs.foldl
    (fun (store, matchedTracks, matchedDetections) (row, column) =>
      if 1 - cost row column < self.matchIouThreshold then
        (store, matchedTracks, matchedDetections)
      else
        let track := tracks.get row
        let detection := detections.get column
        (Function.update store track ((store track).observe self.frameId detection),
          insert row matchedTracks, insert column matchedDetections))
    (store, ∅, ∅)

/-- `ByteTracker._associate`. -/
def associate : Association K n :=
  if tracks.isEmpty || detections.isEmpty then
    { store, unmatchedTracks := tracks, unmatchedDetections := detections }
  else
    let (store, matchedTracks, matchedDetections) :=
      associateLoop linearSumAssignment self store tracks detections
    { store
      unmatchedTracks := ((List.finRange tracks.length).filter (· ∉ matchedTracks)).map tracks.get
      unmatchedDetections :=
        ((List.finRange detections.length).filter (· ∉ matchedDetections)).map detections.get }

end Associate

/-! ## The stages of `ByteTracker.update`

`self` is the tracker after `self._frame_id += 1`. -/

section Stages
variable (linearSumAssignment : LinearSumAssignment K) (self : ByteTracker K)
  (detections : List (Detection K))

/-- `candidates`. -/
def candidates : List (Fin self.tracks.length) :=
  (List.finRange self.tracks.length).filter fun track => (self.tracks.get track).state ≠ .removed

/-- The store after the loop that predicts every candidate. -/
def predicted : Fin self.tracks.length → Track K :=
  self.candidates.foldl (fun store track => Function.update store track (store track).predict)
    self.tracks.get

/-- `high`. -/
def high : List (Detection K) :=
  detections.filter fun detection => detection.score ≥ self.trackThreshold

/-- `low`. -/
def low : List (Detection K) :=
  detections.filter fun detection =>
    self.lowThreshold ≤ detection.score ∧ detection.score < self.trackThreshold

/-- The first association: every candidate with the high-score detections. -/
def firstStage : Association K self.tracks.length :=
  self.associate linearSumAssignment self.predicted self.candidates (self.high detections)

/-- `second_stage_tracks`. -/
def secondStageTracks : List (Fin self.tracks.length) :=
  let first := self.firstStage linearSumAssignment detections
  first.unmatchedTracks.filter fun track => (first.store track).state = .tracked

/-- `unmatched_lost`. -/
def unmatchedLost : List (Fin self.tracks.length) :=
  let first := self.firstStage linearSumAssignment detections
  first.unmatchedTracks.filter fun track => (first.store track).state = .lost

/-- The second association: the unmatched tracked ones with the low-score detections. -/
def secondStage : Association K self.tracks.length :=
  self.associate linearSumAssignment (self.firstStage linearSumAssignment detections).store
    (self.secondStageTracks linearSumAssignment detections) (self.low detections)

/-- `remaining_tracks`. -/
def remainingTracks : List (Fin self.tracks.length) :=
  self.unmatchedLost linearSumAssignment detections ++
    (self.secondStage linearSumAssignment detections).unmatchedTracks

/-- The set of the ids of some cells of a store. -/
def idSet {n : Nat} (store : Fin n → Track K) (tracks : List (Fin n)) : Finset Nat :=
  (tracks.map fun track => (store track).trackId).toFinset

/-- `matched_track_ids` before the loop over `unmatched_high`. -/
def matchedTrackIds : Finset Nat :=
  let first := self.firstStage linearSumAssignment detections
  let second := self.secondStage linearSumAssignment detections
  let remainingIds := idSet second.store (self.remainingTracks linearSumAssignment detections)
  (idSet first.store self.candidates \ idSet first.store first.unmatchedTracks) ∪
    (idSet second.store first.unmatchedTracks).filter (· ∉ remainingIds)

/-- The store after the loop that ages the remaining tracks. -/
def aged : Fin self.tracks.length → Track K :=
  (self.remainingTracks linearSumAssignment detections).foldl
    (fun store track =>
      Function.update store track ((store track).age self.frameId self.trackBuffer))
    (self.secondStage linearSumAssignment detections).store

/-- The tracks that the unmatched high-score detections open. -/
def created : List (Track K) :=
  Track.createAll self.frameId self.nextTrackId
    (self.firstStage linearSumAssignment detections).unmatchedDetections

/-- `self._tracks` after the update. -/
def retained : List (Track K) :=
  (List.ofFn (self.aged linearSumAssignment detections) ++
    self.created linearSumAssignment detections).filter fun track => track.state ≠ .removed

/-- The returned list. -/
def output : List (TrackedDetection K) :=
  let matchedTrackIds := self.matchedTrackIds linearSumAssignment detections ∪
    ((self.created linearSumAssignment detections).map Track.trackId).toFinset
  ((self.retained linearSumAssignment detections).filter fun track =>
    track.state = .tracked ∧ track.trackId ∈ matchedTrackIds).map (Track.toTracked self.cameraId)

end Stages

/-- `self._frame_id += 1`. -/
def nextFrame (t : ByteTracker K) : ByteTracker K := { t with frameId := t.frameId + 1 }

/-- `ByteTracker.update`. -/
def update (linearSumAssignment : LinearSumAssignment K) (t : ByteTracker K)
    (detections : List (Detection K)) : ByteTracker K × List (TrackedDetection K) :=
  let self := t.nextFrame
  ({ self with
      tracks := self.retained linearSumAssignment detections
      nextTrackId :=
        self.nextTrackId + (self.created linearSumAssignment detections).length },
    self.output linearSumAssignment detections)

/-- What one call of `update` is given: its detections, and how SciPy assigns in that call. -/
structure Input (K : Type) [Field K] [LinearOrder K] where
  linearSumAssignment : LinearSumAssignment K
  detections : List (Detection K)

/-- The tracker after the first `k` of a sequence of calls of `update`. -/
def after (t : ByteTracker K) (inputs : Nat → Input K) : Nat → ByteTracker K
  | 0 => t
  | k + 1 => (update (inputs k).linearSumAssignment (after t inputs k) (inputs k).detections).1

/-- The list that call `k` of a sequence returns, the first call being call 1. -/
def returned (t : ByteTracker K) (inputs : Nat → Input K) : Nat → List (TrackedDetection K)
  | 0 => []
  | k + 1 => (update (inputs k).linearSumAssignment (after t inputs k) (inputs k).detections).2

end ByteTracker

end EdgeSafety
