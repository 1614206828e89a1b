import Mathlib.Data.List.AList
import EdgeSafety.Lib.Family
import EdgeSafety.Lib.Loops
import EdgeSafety.Tracking.Lifetime

/-!
# One tracker for each camera

`PerCameraTrackerManager` of `tracking/manager.py`: a dict of trackers, in which a call finds the
tracker of its camera. `tracking_isolated` says that a camera cannot tell its tracker from one that
is used alone.
-/

namespace EdgeSafety

variable {K : Type} [Field K] [LinearOrder K] [IsStrictOrderedRing K]

/-- `PerCameraTrackerManager`. -/
structure PerCameraTrackerManager (K : Type) [Field K] [LinearOrder K] where
  trackers : AList fun _ : String => ByteTracker K

/-- What one update returns, with the ids that it gives to new tracks. -/
structure ByteTracker.Report (K : Type) [Field K] [LinearOrder K] where
  returned : List (TrackedDetection K)
  given : List Nat

/-- `ByteTracker.update`, reported. -/
def ByteTracker.report (t : ByteTracker K) (input : Input K) : ByteTracker K × Report K :=
  ((t.update input.linearSumAssignment input.detections).1,
    { returned := (t.update input.linearSumAssignment input.detections).2
      given := (t.nextFrame.created input.linearSumAssignment input.detections).map
        Track.trackId })

namespace ByteTracker

/-- The ids that an update gives are consecutive, up to the next id. -/
theorem report_given (t : ByteTracker K) (input : Input K) :
    ∃ n, (t.report input).2.given = List.range' t.nextTrackId n ∧
      (t.report input).1.nextTrackId = t.nextTrackId + n := by
  have hids : (t.report input).2.given = List.range' t.nextTrackId (t.nextFrame.firstStage
      input.linearSumAssignment input.detections).unmatchedDetections.length :=
    created_trackIds _ _
  have hlength := congrArg List.length hids
  rw [List.length_range'] at hlength
  refine ⟨_, hids, ?_⟩
  rw [← hlength, report, List.length_map]
  rfl

/-- A tracker reports tracks of its camera, which it keeps. -/
theorem report_returned {t : ByteTracker K} (h : t.WellFormed) (input : Input K) :
    ∀ entry ∈ (t.report input).2.returned, entry.cameraId = t.cameraId ∧
      ∃ track ∈ (t.report input).1.tracks, track.trackId = entry.trackId := by
  intro entry hentry
  obtain ⟨track, htrack, rfl, -⟩ := output_seen input.linearSumAssignment input.detections
    (nextFrame_wellFormed h) hentry
  exact ⟨rfl, track, htrack, rfl⟩

/-- Every track that an update keeps has an old id or one of those that it gives. -/
theorem report_tracks {t : ByteTracker K} (h : t.WellFormed) (input : Input K) :
    ∀ track ∈ (t.report input).1.tracks, (∃ old ∈ t.tracks, old.trackId = track.trackId) ∨
      track.trackId ∈ (t.report input).2.given := by
  intro track htrack
  rcases update_tracks_cases input.linearSumAssignment input.detections h htrack with
    ⟨old, hold, holdId, -⟩ | ⟨hnew, -⟩
  · exact Or.inl ⟨old, hold, holdId⟩
  · exact Or.inr (List.mem_map_of_mem hnew)

/-- An update on these detections drops the track: neither association gives it a detection, and it
was last seen too long ago. -/
def Drops (t : ByteTracker K) (input : Input K) (track : Fin t.tracks.length) : Prop :=
  t.nextFrame.observed input.linearSumAssignment input.detections track = none ∧
    ((t.frameId + 1 : Nat) : Int) - (t.tracks.get track).lastFrame > t.trackBuffer

/-- These are the tracks that ageing marks removed. -/
theorem aged_removed_iff {t : ByteTracker K} (h : t.WellFormed) (input : Input K)
    (track : Fin t.tracks.length) :
    (t.nextFrame.aged input.linearSumAssignment input.detections track).state = .removed ↔
      t.Drops input track := by
  rw [aged_eq input.linearSumAssignment input.detections (nextFrame_wellFormed h) track, Drops]
  cases t.nextFrame.observed input.linearSumAssignment input.detections track with
  | some detection => simp
  | none =>
    rw [Option.elim_none, Track.age_state]
    change (if ((t.frameId + 1 : Nat) : Int) - (t.tracks.get track).lastFrame > t.trackBuffer then
      TrackState.removed else .lost) = .removed ↔ _
    split
    · next hlate => exact iff_of_true rfl ⟨rfl, hlate⟩
    · next hlate => exact iff_of_false nofun fun hdrops => hlate hdrops.2

/-- An update retains the tracks that it does not drop. -/
theorem report_retains_iff {t : ByteTracker K} (h : t.WellFormed) (input : Input K)
    (track : Fin t.tracks.length) :
    (∃ kept ∈ (t.report input).1.tracks, kept.trackId = (t.tracks.get track).trackId) ↔
      ¬ t.Drops input track := by
  have hself := nextFrame_wellFormed h
  have hid := aged_trackId input.linearSumAssignment input.detections hself track
  rw [← aged_removed_iff h]
  constructor
  · rintro ⟨kept, hkept, hkeptId⟩ hremoved
    rcases (mem_retained input.linearSumAssignment input.detections).mp hkept with
      ⟨old, rfl, hstate⟩ | hnew
    · rw [aged_trackId input.linearSumAssignment input.detections hself old] at hkeptId
      obtain rfl : old = track := trackId_injective hself hkeptId
      exact hstate hremoved
    · have hrange := List.mem_map_of_mem (f := Track.trackId) hnew
      rw [created_trackIds, List.mem_range'_1, hkeptId] at hrange
      exact absurd (h.ids_lt _ (List.get_mem t.tracks track)) (Nat.not_lt.mpr hrange.1)
  · intro hstate
    exact ⟨_, (mem_retained input.linearSumAssignment input.detections).mpr
      (.inl ⟨track, rfl, hstate⟩), hid⟩

theorem report_returned_nodup {t : ByteTracker K} (h : t.WellFormed) (input : Input K) :
    ((t.report input).2.returned.map TrackedDetection.trackId).Nodup :=
  (output_trackIds_sublist input.linearSumAssignment input.detections).nodup
    (update_wellFormed input.linearSumAssignment input.detections h).ids_nodup

/-- What a tracker that is used alone reports on a list of inputs: its new ids are consecutive, and
the tracks that it keeps are old or have one of them. -/
theorem solo_report {t : ByteTracker K} (h : t.WellFormed) (inputs : List (Input K)) :
    let r := Family.solo report t inputs
    r.1.WellFormed ∧
      (∃ n, r.2.flatMap Report.given = List.range' t.nextTrackId n ∧
        r.1.nextTrackId = t.nextTrackId + n) ∧
      ∀ track ∈ r.1.tracks, (∃ old ∈ t.tracks, old.trackId = track.trackId) ∨
        track.trackId ∈ r.2.flatMap Report.given := by
  induction inputs generalizing t with
  | nil => exact ⟨h, ⟨0, rfl, rfl⟩, fun track htrack => Or.inl ⟨track, htrack, rfl⟩⟩
  | cons input inputs ih =>
    have hupdate : (t.report input).1.WellFormed :=
      update_wellFormed input.linearSumAssignment input.detections h
    obtain ⟨hwell, ⟨n, hgiven, hnext⟩, htracks⟩ := ih hupdate
    obtain ⟨created, hids, hfirst⟩ := report_given t input
    refine ⟨hwell, ⟨created + n, ?_, ?_⟩, ?_⟩
    · change (t.report input).2.given ++
        (Family.solo report (t.report input).1 inputs).2.flatMap Report.given = _
      rw [hids, hgiven, hfirst]
      exact List.range'_append_1
    · rw [Family.solo, hnext, hfirst, Nat.add_assoc]
    · intro track htrack
      rw [Family.solo, List.flatMap_cons, List.mem_append]
      rcases htracks track htrack with ⟨kept, hkept, hid⟩ | hlater
      · rcases report_tracks h input kept hkept with ⟨old, hold, holdId⟩ | hnew
        · exact Or.inl ⟨old, hold, holdId.trans hid⟩
        · exact Or.inr (Or.inl (hid ▸ hnew))
      · exact Or.inr (Or.inr hlater)

/-- Every entry that it returns is of its camera, and has an old id or a new one. -/
theorem solo_returned {t : ByteTracker K} (h : t.WellFormed) (inputs : List (Input K)) :
    ∀ r ∈ (Family.solo report t inputs).2,
      (r.returned.map TrackedDetection.trackId).Nodup ∧
      ∀ entry ∈ r.returned, entry.cameraId = t.cameraId ∧
        ((∃ old ∈ t.tracks, old.trackId = entry.trackId) ∨
          entry.trackId ∈ (Family.solo report t inputs).2.flatMap Report.given) := by
  induction inputs generalizing t with
  | nil => exact fun _ hreport => absurd hreport List.not_mem_nil
  | cons input inputs ih =>
    have hupdate : (t.report input).1.WellFormed :=
      update_wellFormed input.linearSumAssignment input.detections h
    intro r hreport
    rw [Family.solo, List.mem_cons] at hreport
    rw [Family.solo, List.flatMap_cons]
    rcases hreport with rfl | hreport
    · refine ⟨report_returned_nodup h input, fun entry hentry => ?_⟩
      obtain ⟨hcamera, track, htrack, hid⟩ := report_returned h input entry hentry
      refine ⟨hcamera, ?_⟩
      rcases report_tracks h input track htrack with ⟨old, hold, holdId⟩ | hnew
      · exact Or.inl ⟨old, hold, holdId.trans hid⟩
      · exact Or.inr (List.mem_append_left _ (hid ▸ hnew))
    · obtain ⟨hnodup, hentries⟩ := ih hupdate r hreport
      refine ⟨hnodup, fun entry hentry => ?_⟩
      obtain ⟨hcamera, ⟨kept, hkept, hid⟩ | hlater⟩ := hentries entry hentry
      · refine ⟨hcamera, ?_⟩
        rcases report_tracks h input kept hkept with ⟨old, hold, holdId⟩ | hnew
        · exact Or.inl ⟨old, hold, holdId.trans hid⟩
        · exact Or.inr (List.mem_append_left _ (hid ▸ hnew))
      · exact ⟨hcamera, Or.inr (List.mem_append_right _ hlater)⟩

end ByteTracker

namespace PerCameraTrackerManager

/-- `PerCameraTrackerManager.__init__`. -/
def init (cameraIds : List String) (options : TrackerOptions K) :
    Except String (PerCameraTrackerManager K) :=
  if cameraIds.Nodup then do
    let trackers ← cameraIds.mapM fun cameraId => do
      let tracker ← ByteTracker.init cameraId options
      pure (⟨cameraId, tracker⟩ : (_ : String) × ByteTracker K)
    pure ⟨trackers.toAList⟩
  else .error "camera IDs must be unique"

/-- `PerCameraTrackerManager.update`, with the text of its `KeyError`. -/
def update (m : PerCameraTrackerManager K) (cameraId : String) (input : ByteTracker.Input K) :
    Except String (List (TrackedDetection K)) × PerCameraTrackerManager K :=
  match m.trackers.lookup cameraId with
  | none => (.error s!"unknown camera: {cameraId}", m)
  | some tracker =>
    let (tracker, returned) := tracker.update input.linearSumAssignment input.detections
    (.ok returned, ⟨m.trackers.insert cameraId tracker⟩)

/-- A sequence of calls, with their answers. -/
def run (m : PerCameraTrackerManager K) : List (String × ByteTracker.Input K) →
    List (String × Except String (List (TrackedDetection K))) × PerCameraTrackerManager K
  | [] => ([], m)
  | (cameraId, input) :: calls =>
    ((cameraId, (m.update cameraId input).1) :: ((m.update cameraId input).2.run calls).1,
      ((m.update cameraId input).2.run calls).2)

/-- The trackers, by camera. -/
def tracker (m : PerCameraTrackerManager K) (cameraId : String) : Option (ByteTracker K) :=
  m.trackers.lookup cameraId

/-- The identities of the tracks that the trackers retain, by camera. -/
def identities (m : PerCameraTrackerManager K) : List (String × Nat) :=
  m.trackers.entries.flatMap fun entry =>
    entry.2.tracks.map fun track => (entry.1, track.trackId)

omit [IsStrictOrderedRing K] in
theorem mem_identities {m : PerCameraTrackerManager K} {cameraId : String}
    {trackId : Nat} : (cameraId, trackId) ∈ m.identities ↔
      ∃ tracker, m.tracker cameraId = some tracker ∧
        ∃ track ∈ tracker.tracks, track.trackId = trackId := by
  simp only [identities, List.mem_flatMap, List.mem_map, Prod.mk.injEq]
  constructor
  · rintro ⟨⟨camera, tracker⟩, hentry, track, htrack, rfl, hid⟩
    exact ⟨tracker, AList.mem_lookup_iff.mpr hentry, track, htrack, hid⟩
  · rintro ⟨tracker, htracker, track, htrack, hid⟩
    exact ⟨⟨cameraId, tracker⟩, AList.mem_lookup_iff.mp htracker, track, htrack, rfl, hid⟩

/-- The answer to a call, from what the tracker reports. -/
def answer (cameraId : String) : Option (ByteTracker.Report K) →
    Except String (List (TrackedDetection K))
  | none => .error s!"unknown camera: {cameraId}"
  | some report => .ok report.returned

/-- The reports of a sequence of calls. -/
def reports (m : PerCameraTrackerManager K) (calls : List (String × ByteTracker.Input K)) :
    List (String × Option (ByteTracker.Report K)) :=
  (Family.run ByteTracker.report m.tracker calls).1

/-- The identities that a sequence of calls gives to new tracks, in order. -/
def given (m : PerCameraTrackerManager K) (calls : List (String × ByteTracker.Input K)) :
    List (String × Nat) :=
  (m.reports calls).flatMap fun exchange =>
    (exchange.2.elim [] ByteTracker.Report.given).map fun trackId => (exchange.1, trackId)

omit [IsStrictOrderedRing K] in
/-- A manager can be made for different cameras that have an id. -/
theorem init_succeeds {cameraIds : List String} (hnodup : cameraIds.Nodup)
    (hnonempty : "" ∉ cameraIds) (options : TrackerOptions K) :
    ∃ m, init cameraIds options = .ok m := by
  have hbody : ∀ cameraId ∈ cameraIds, ∃ entry, (do
      let tracker ← ByteTracker.init cameraId options
      pure (⟨cameraId, tracker⟩ : (_ : String) × ByteTracker K)) =
        (.ok entry : Except String ((_ : String) × ByteTracker K)) := by
    intro cameraId hmem
    have hname : cameraId ≠ "" := fun hempty => hnonempty (hempty ▸ hmem)
    rw [ByteTracker.init, if_neg hname]
    exact ⟨_, rfl⟩
  obtain ⟨trackers, htrackers⟩ := Loops.exists_mapM_ok hbody
  rw [init, if_pos hnodup, htrackers]
  exact ⟨_, rfl⟩

/-- A call goes to the tracker of its camera. -/
theorem update_eq (m : PerCameraTrackerManager K) (cameraId : String)
    (input : ByteTracker.Input K) :
    (m.update cameraId input).1 =
        answer cameraId (Family.call ByteTracker.report m.tracker cameraId input).1 ∧
      (m.update cameraId input).2.tracker =
        (Family.call ByteTracker.report m.tracker cameraId input).2 := by
  unfold update Family.call
  cases hlookup : m.trackers.lookup cameraId with
  | none =>
    have htracker : m.tracker cameraId = none := hlookup
    rw [htracker]
    exact ⟨rfl, rfl⟩
  | some tracker =>
    have htracker : m.tracker cameraId = some tracker := hlookup
    rw [htracker]
    refine ⟨rfl, funext fun other => ?_⟩
    change (m.trackers.insert cameraId _).lookup other =
      Function.update m.tracker cameraId (some _) other
    by_cases hother : other = cameraId
    · subst hother
      rw [Function.update_self]
      exact AList.lookup_insert _
    · rw [Function.update_of_ne hother]
      exact AList.lookup_insert_ne hother

theorem run_eq (m : PerCameraTrackerManager K) (calls : List (String × ByteTracker.Input K)) :
    (m.run calls).1 = (m.reports calls).map (fun exchange =>
        (exchange.1, answer exchange.1 exchange.2)) ∧
      (m.run calls).2.tracker = (Family.run ByteTracker.report m.tracker calls).2 := by
  induction calls generalizing m with
  | nil => exact ⟨rfl, rfl⟩
  | cons c calls ih =>
    obtain ⟨cameraId, input⟩ := c
    obtain ⟨hanswer, htracker⟩ := m.update_eq cameraId input
    obtain ⟨hanswers, htrackers⟩ := ih (m.update cameraId input).2
    rw [reports, htracker] at hanswers
    rw [htracker] at htrackers
    rw [run, hanswer, hanswers, htrackers, reports, Family.run]
    exact ⟨rfl, rfl⟩

omit [LinearOrder K] [IsStrictOrderedRing K] in
/-- The trackers that the comprehension of `__init__` builds. -/
theorem trackers_of_mapM {cameraIds : List String} {options : TrackerOptions K}
    {trackers : List ((_ : String) × ByteTracker K)}
    (h : (cameraIds.mapM fun cameraId => do
      let tracker ← ByteTracker.init cameraId options
      pure (⟨cameraId, tracker⟩ : (_ : String) × ByteTracker K)) = .ok trackers)
    (camera : String) :
    trackers.dlookup camera =
      if camera ∈ cameraIds then some (ByteTracker.fresh camera options) else none := by
  have hall := Loops.mapM_eq_ok_iff.mp h
  clear h
  induction hall with
  | nil => rfl
  | @cons cameraId entry cameraIds trackers hentry _ ih =>
    have hfresh : entry = ⟨cameraId, ByteTracker.fresh cameraId options⟩ := by
      unfold ByteTracker.init at hentry
      split at hentry
      · cases hentry
      · cases hentry
        rfl
    rw [hfresh]
    by_cases hcamera : camera = cameraId
    · subst hcamera
      rw [List.dlookup_cons_eq, if_pos List.mem_cons_self]
    · rw [List.dlookup_cons_ne _ _ hcamera, ih]
      simp [hcamera]

omit [IsStrictOrderedRing K] in
/-- A manager starts with a fresh tracker for each of its cameras. -/
theorem init_tracker {cameraIds : List String} {options : TrackerOptions K}
    {m : PerCameraTrackerManager K} (h : init cameraIds options = .ok m) (camera : String) :
    m.tracker camera =
      if camera ∈ cameraIds then some (ByteTracker.fresh camera options) else none := by
  unfold init at h
  split at h
  · obtain ⟨trackers, htrackers, h⟩ := Loops.bind_eq_ok h
    cases h
    rw [← trackers_of_mapM htrackers camera]
    exact AList.lookup_to_alist _
  · cases h

theorem ofKey_given_eq (m : PerCameraTrackerManager K) (camera : String)
    (calls : List (String × ByteTracker.Input K)) :
    Family.ofKey camera (m.given calls) = (Family.ofKey camera (m.reports calls)).flatMap
      fun report => report.elim [] ByteTracker.Report.given :=
  Family.ofKey_flatMap camera
    (fun report : Option (ByteTracker.Report K) => report.elim [] ByteTracker.Report.given) _

/-- The answers to the calls with one camera. -/
theorem ofKey_answers (m : PerCameraTrackerManager K) (camera : String)
    (calls : List (String × ByteTracker.Input K)) :
    Family.ofKey camera (m.run calls).1 =
      (Family.ofKey camera (m.reports calls)).map (answer camera) := by
  rw [(m.run_eq calls).1]
  induction m.reports calls with
  | nil => rfl
  | cons exchange exchanges ih =>
    obtain ⟨other, report⟩ := exchange
    rw [List.map_cons]
    by_cases hcamera : other = camera
    · subst hcamera
      rw [Family.ofKey_cons_self, Family.ofKey_cons_self, ih, List.map_cons]
    · rw [Family.ofKey_cons_of_ne hcamera, Family.ofKey_cons_of_ne hcamera, ih]

section Camera
variable {m : PerCameraTrackerManager K} {camera : String}
  (calls : List (String × ByteTracker.Input K))

/-- A camera with a tracker cannot tell it from one that is used alone. -/
theorem run_member {t : ByteTracker K} (h : m.tracker camera = some t) :
    let alone := Family.solo ByteTracker.report t (Family.ofKey camera calls)
    Family.ofKey camera (m.run calls).1 = alone.2.map (fun report => .ok report.returned) ∧
      (m.run calls).2.tracker camera = some alone.1 := by
  obtain ⟨hanswers, htracker⟩ := Family.run_member ByteTracker.report h calls
  constructor
  · rw [ofKey_answers, reports, hanswers, List.map_map]
    rfl
  · rw [(m.run_eq calls).2, htracker]

theorem run_stranger (h : m.tracker camera = none) :
    (∀ answer ∈ Family.ofKey camera (m.run calls).1,
      answer = .error s!"unknown camera: {camera}") ∧ (m.run calls).2.tracker camera = none := by
  obtain ⟨hanswers, htracker⟩ := Family.run_stranger ByteTracker.report h calls
  constructor
  · intro answer hmem
    rw [ofKey_answers] at hmem
    obtain ⟨report, hreport, rfl⟩ := List.mem_map.mp hmem
    rw [hanswers report hreport]
    rfl
  · rw [(m.run_eq calls).2, htracker]

/-- The ids given for a camera are those that its tracker gives when it is used alone. -/
theorem ofKey_given {t : ByteTracker K} (h : m.tracker camera = some t) :
    Family.ofKey camera (m.given calls) =
      (Family.solo ByteTracker.report t (Family.ofKey camera calls)).2.flatMap
        ByteTracker.Report.given := by
  rw [ofKey_given_eq, reports, (Family.run_member ByteTracker.report h calls).1, List.flatMap_map]
  rfl

theorem ofKey_given_stranger (h : m.tracker camera = none) :
    Family.ofKey camera (m.given calls) = [] := by
  rw [ofKey_given_eq, List.flatMap_eq_nil_iff]
  intro report hreport
  rw [(Family.run_stranger ByteTracker.report h calls).1 report hreport]
  rfl

variable {options : TrackerOptions K}
  (h : m.tracker camera = some (ByteTracker.fresh camera options))
include h

theorem given_of_fresh :
    ∃ n, Family.ofKey camera (m.given calls) = List.range' 1 n ∧
      ∀ t, (m.run calls).2.tracker camera = some t → t.WellFormed ∧ t.nextTrackId = 1 + n ∧
        ∀ track ∈ t.tracks, (camera, track.trackId) ∈ m.given calls := by
  obtain ⟨hkept, ⟨n, hgiven, hnext⟩, htracks⟩ := ByteTracker.solo_report
    (ByteTracker.fresh_wellFormed camera options) (Family.ofKey camera calls)
  refine ⟨n, (ofKey_given calls h).trans hgiven, fun t ht => ?_⟩
  obtain rfl := Option.some.inj ((run_member calls h).2.symm.trans ht)
  refine ⟨hkept, hnext, fun track htrack => Family.mem_ofKey.mp ?_⟩
  rw [ofKey_given calls h]
  exact (htracks track htrack).resolve_left fun ⟨old, hold, _⟩ => absurd hold List.not_mem_nil

/-- A track that the next call adds has an id that was not given before. -/
theorem added_of_fresh {input : ByteTracker.Input K} {t next : ByteTracker K}
    (ht : (m.run calls).2.tracker camera = some t)
    (hnext : ((m.run calls).2.update camera input).2.tracker camera = some next)
    {track : Track K} (htrack : track ∈ next.tracks)
    (hold : track.trackId ∉ t.tracks.map Track.trackId) :
    (camera, track.trackId) ∉ m.given calls := by
  obtain ⟨n, hgiven, hkept⟩ := given_of_fresh calls h
  obtain ⟨hwell, hid, -⟩ := hkept t ht
  have hself : ((m.run calls).2.update camera input).2.tracker camera =
      some (t.report input).1 := by
    rw [((m.run calls).2.update_eq camera input).2, Family.call_of_some ByteTracker.report ht]
    exact Function.update_self camera _ _
  obtain rfl := Option.some.inj (hself.symm.trans hnext)
  rcases ByteTracker.update_tracks_cases _ _ hwell htrack with ⟨old, hmem, hsame, -⟩ | ⟨-, hnew⟩
  · exact absurd (List.mem_map.mpr ⟨old, hmem, hsame⟩) hold
  · rw [← Family.mem_ofKey, hgiven, List.mem_range'_1]
    omega

theorem returned_of_fresh {entries : List (TrackedDetection K)}
    (hmem : (camera, Except.ok entries) ∈ (m.run calls).1) :
    (entries.map TrackedDetection.trackId).Nodup ∧ ∀ entry ∈ entries,
      entry.cameraId = camera ∧ (camera, entry.trackId) ∈ m.given calls := by
  have hanswer := Family.mem_ofKey.mpr hmem
  rw [(run_member calls h).1] at hanswer
  obtain ⟨report, hreport, hentries⟩ := List.mem_map.mp hanswer
  obtain rfl := Except.ok.inj hentries
  obtain ⟨hnodup, hreturned⟩ := ByteTracker.solo_returned
    (ByteTracker.fresh_wellFormed camera options) _ report hreport
  refine ⟨hnodup, fun entry hentry => ?_⟩
  obtain ⟨hof, hid⟩ := hreturned entry hentry
  refine ⟨hof, Family.mem_ofKey.mp ?_⟩
  rw [ofKey_given calls h]
  exact hid.resolve_left fun ⟨old, hold, _⟩ => absurd hold List.not_mem_nil

end Camera

/-- What a manager of some cameras owes them after a sequence of calls. -/
structure Isolated (cameraIds : List String) (options : TrackerOptions K)
    (m : PerCameraTrackerManager K) (calls : List (String × ByteTracker.Input K)) : Prop where
  /-- A camera gets what a tracker of its own would return, and keeps such a tracker. -/
  member : ∀ camera ∈ cameraIds,
    let alone := Family.solo ByteTracker.report (ByteTracker.fresh camera options)
      (Family.ofKey camera calls)
    Family.ofKey camera (m.run calls).1 = alone.2.map (fun report => .ok report.returned) ∧
      (m.run calls).2.tracker camera = some alone.1
  /-- The calls with an unknown camera fail. -/
  stranger : ∀ camera ∉ cameraIds, ∀ answer ∈ Family.ofKey camera (m.run calls).1,
    answer = .error s!"unknown camera: {camera}"
  /-- No pair of a camera and an id is given to two tracks. -/
  given_nodup : (m.given calls).Nodup
  /-- The tracks that are kept have different ids, which were given. -/
  kept : ∀ camera tracker, (m.run calls).2.tracker camera = some tracker →
    (tracker.tracks.map Track.trackId).Nodup ∧
      ∀ track ∈ tracker.tracks, (camera, track.trackId) ∈ m.given calls
  /-- A track that the next call adds has a pair that was not given before. -/
  added : ∀ camera input tracker next, (m.run calls).2.tracker camera = some tracker →
    ((m.run calls).2.update camera input).2.tracker camera = some next →
      ∀ track ∈ next.tracks, track.trackId ∉ tracker.tracks.map Track.trackId →
        (camera, track.trackId) ∉ m.given calls
  /-- The entries of an answer are of its camera, with different ids, which were given. -/
  returned : ∀ camera entries, (camera, Except.ok entries) ∈ (m.run calls).1 →
    (entries.map TrackedDetection.trackId).Nodup ∧ ∀ entry ∈ entries,
      entry.cameraId = camera ∧ (camera, entry.trackId) ∈ m.given calls

/-- Every sequence of calls on a manager of different cameras keeps them apart. -/
theorem tracking_isolated {cameraIds : List String} {options : TrackerOptions K}
    {m : PerCameraTrackerManager K} (hinit : init cameraIds options = .ok m)
    (calls : List (String × ByteTracker.Input K)) : Isolated cameraIds options m calls := by
  have hfresh : ∀ camera ∈ cameraIds,
      m.tracker camera = some (ByteTracker.fresh camera options) := fun camera hcamera => by
    rw [init_tracker hinit, if_pos hcamera]
  have hnone : ∀ camera ∉ cameraIds, m.tracker camera = none := fun camera hcamera => by
    rw [init_tracker hinit, if_neg hcamera]
  have hcamera : ∀ camera t, (m.run calls).2.tracker camera = some t → camera ∈ cameraIds := by
    intro camera t ht
    by_contra hcamera
    rw [(run_stranger calls (hnone camera hcamera)).2] at ht
    cases ht
  constructor
  case member => exact fun camera hcamera => run_member calls (hfresh camera hcamera)
  case stranger => exact fun camera hcamera => (run_stranger calls (hnone camera hcamera)).1
  case given_nodup =>
    refine Family.nodup_of_ofKey fun camera => ?_
    by_cases hcamera : camera ∈ cameraIds
    · obtain ⟨n, hgiven, -⟩ := given_of_fresh calls (hfresh camera hcamera)
      rw [hgiven]
      exact List.nodup_range'
    · rw [ofKey_given_stranger calls (hnone camera hcamera)]
      exact List.nodup_nil
  case kept =>
    intro camera t ht
    obtain ⟨n, -, hkept⟩ := given_of_fresh calls (hfresh camera (hcamera camera t ht))
    obtain ⟨hwell, -, hids⟩ := hkept t ht
    exact ⟨hwell.ids_nodup, hids⟩
  case added =>
    exact fun camera input t next ht hnext track htrack hold =>
      added_of_fresh calls (hfresh camera (hcamera camera t ht)) ht hnext htrack hold
  case returned =>
    intro camera entries hmem
    by_cases hcamera : camera ∈ cameraIds
    · exact returned_of_fresh calls (hfresh camera hcamera) hmem
    · cases (run_stranger calls (hnone camera hcamera)).1 _ (Family.mem_ofKey.mpr hmem)

theorem tracking_isolated_two :
    ∃ m, init ["cam-a", "cam-b"] {} = .ok m ∧ Isolated ["cam-a", "cam-b"] {} m
      [("cam-a", ByteTracker.firstSight 0), ("cam-c", ByteTracker.firstSight 0),
        ("cam-b", ByteTracker.firstSight 1)] :=
  ⟨_, rfl, tracking_isolated rfl _⟩

end PerCameraTrackerManager

end EdgeSafety
