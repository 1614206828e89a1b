import EdgeSafety.Tracking.Stages
import Mathlib.Algebra.Order.Field.Rat
import Mathlib.Tactic.NormNum

/-!
# Conservation of detections

`WellFormed` holds in every state that calls of `update` reach (`after_wellFormed`), so what
`Stages` says of one update holds of every one. `update_conserves_detections`: the returned list
pairs off with detections of the frame, each detection used at most once, and none of the
high-score detections is left out.
-/

namespace EdgeSafety.ByteTracker

variable {K : Type} [Field K] [LinearOrder K]

/-! ## Generic list infrastructure -/

private theorem forall₂_filter_filterMap {α β γ : Type} {R : γ → β → Prop} {f : α → Option β}
    {g : α → γ} (h : ∀ a b, f a = some b → R (g a) b) (l : List α) :
    List.Forall₂ R ((l.filter fun a => (f a).isSome).map g) (l.filterMap f) := by
  induction l with
  | nil => exact .nil
  | cons a l ih =>
    cases hcase : f a with
    | none => simpa [hcase] using ih
    | some b => simpa [hcase] using And.intro (h a b hcase) ih

private theorem filterMap_or_perm {α β : Type} (f g : α → Option β) (l : List α) :
    (l.filterMap fun a => (f a).or (g a)).Perm
      (l.filterMap f ++ (l.filter fun a => f a = none).filterMap g) := by
  induction l with
  | nil => exact .nil
  | cons a l ih =>
    cases hf : f a with
    | some b => simpa [hf] using ih
    | none =>
      cases hg : g a with
      | none => simpa [hf, hg] using ih
      | some b => simpa [hf, hg] using (ih.cons b).trans List.perm_middle.symm

private theorem filterMap_filter_of_some {α β : Type} {f : α → Option β} {p : α → Bool}
    (h : ∀ a b, f a = some b → p a = true) (l : List α) :
    (l.filter p).filterMap f = l.filterMap f := by
  induction l with
  | nil => rfl
  | cons a l ih =>
    cases hf : f a with
    | some b => simp [hf, h a b hf, ih]
    | none => cases hp : p a <;> simp [hf, hp, ih]

/-! ## Every reachable tracker is well formed -/

omit [LinearOrder K] in
theorem nextFrame_wellFormed {t : ByteTracker K} (h : t.WellFormed) : t.nextFrame.WellFormed :=
  ⟨h.ids_nodup, h.ids_lt, h.not_removed⟩

omit [LinearOrder K] in
theorem fresh_wellFormed (cameraId : String) (options : TrackerOptions K) :
    (fresh cameraId options).WellFormed := by
  constructor <;> simp [fresh]

variable [IsStrictOrderedRing K]
variable (linearSumAssignment : LinearSumAssignment K) (detections : List (Detection K))

/-- A track kept by an update is an old one, with its id, or one that the update created. -/
theorem mem_retained {self : ByteTracker K} {track : Track K} :
    track ∈ self.retained linearSumAssignment detections ↔
      (∃ old, self.aged linearSumAssignment detections old = track ∧ track.state ≠ .removed) ∨
        track ∈ self.created linearSumAssignment detections := by
  rw [retained_eq, List.mem_append, List.mem_map]
  refine or_congr_left ⟨?_, ?_⟩
  · rintro ⟨old, hold, rfl⟩
    exact ⟨old, rfl, by simpa using (List.mem_filter.mp hold).2⟩
  · rintro ⟨old, rfl, hstate⟩
    exact ⟨old, List.mem_filter.mpr ⟨List.mem_finRange _, by simpa using hstate⟩, rfl⟩

theorem update_wellFormed {t : ByteTracker K} (h : t.WellFormed) :
    (t.update linearSumAssignment detections).1.WellFormed := by
  have hself := nextFrame_wellFormed h
  have hcreated : (t.nextFrame.created linearSumAssignment detections).map Track.trackId =
      List.range' t.nextTrackId
        (t.nextFrame.firstStage linearSumAssignment detections).unmatchedDetections.length :=
    created_trackIds _ _
  have hlt : ∀ old, (t.nextFrame.aged linearSumAssignment detections old).trackId <
      t.nextTrackId := by
    intro old
    rw [aged_trackId linearSumAssignment detections hself]
    exact h.ids_lt _ (List.get_mem _ _)
  constructor
  · change ((t.nextFrame.retained linearSumAssignment detections).map Track.trackId).Nodup
    rw [retained_eq, List.map_append, hcreated, List.map_map]
    refine List.Nodup.append (List.Nodup.map_on ?_ ((List.nodup_finRange _).filter _))
      List.nodup_range' ?_
    · intro old _ other _ heq
      simp only [Function.comp_apply, aged_trackId linearSumAssignment detections hself] at heq
      exact trackId_injective hself heq
    · intro id hold hnew
      obtain ⟨old, -, rfl⟩ := List.mem_map.mp hold
      have hbelow := hlt old
      have habove := (List.mem_range'_1.mp hnew).1
      simp only [Function.comp_apply] at habove
      change t.nextTrackId ≤ _ at habove
      omega
  · intro track htrack
    change track ∈ t.nextFrame.retained linearSumAssignment detections at htrack
    change track.trackId <
      t.nextTrackId + (t.nextFrame.created linearSumAssignment detections).length
    rcases (mem_retained linearSumAssignment detections).mp htrack with ⟨old, rfl, -⟩ | hnew
    · have := hlt old
      omega
    · have hid := List.mem_map_of_mem (f := Track.trackId) hnew
      have hlen := congrArg List.length hcreated
      rw [List.length_map, List.length_range'] at hlen
      rw [hcreated, List.mem_range'_1] at hid
      rw [hlen]
      exact hid.2
  · intro track htrack
    exact of_decide_eq_true (List.mem_filter.mp htrack).2

theorem after_wellFormed {t : ByteTracker K} (h : t.WellFormed) (inputs : Nat → Input K)
    (k : Nat) : (t.after inputs k).WellFormed := by
  induction k with
  | zero => exact h
  | succ k ih => exact update_wellFormed _ _ ih

theorem after_options (t : ByteTracker K) (inputs : Nat → Input K) (k : Nat) :
    (t.after inputs k).toTrackerOptions = t.toTrackerOptions ∧
      (t.after inputs k).cameraId = t.cameraId := by
  induction k with
  | zero => exact ⟨rfl, rfl⟩
  | succ k ih => exact ih

theorem after_frameId (t : ByteTracker K) (inputs : Nat → Input K) (k : Nat) :
    (t.after inputs k).frameId = t.frameId + k := by
  induction k with
  | zero => rfl
  | succ k ih => exact congrArg (· + 1) ih

/-! ## The detections of one update -/

/-- A returned entry carries the score and the class of its detection. -/
def Carries (entry : TrackedDetection K) (detection : Detection K) : Prop :=
  entry.score = detection.score ∧ entry.classId = detection.classId ∧
    entry.className = detection.className

/-- The detections that an update uses: the observed ones, then those that open a track. -/
def usedDetections (self : ByteTracker K) : List (Detection K) :=
  (List.finRange self.tracks.length).filterMap (self.observed linearSumAssignment detections) ++
    (self.firstStage linearSumAssignment detections).unmatchedDetections

omit [IsStrictOrderedRing K] in
theorem createAll_carries (cameraId : String) [IsStrictOrderedRing K] (frameId trackId : Nat) :
    List.Forall₂ Carries
      ((Track.createAll frameId trackId detections).map (Track.toTracked cameraId))
      detections := by
  induction detections generalizing trackId with
  | nil => exact .nil
  | cons detection rest ih => exact .cons ⟨rfl, rfl, rfl⟩ (ih _)

variable {self : ByteTracker K}

theorem output_carries (hself : self.WellFormed) :
    List.Forall₂ Carries (self.output linearSumAssignment detections)
      (self.usedDetections linearSumAssignment detections) := by
  rw [output_eq linearSumAssignment detections hself]
  refine List.rel_append (forall₂_filter_filterMap ?_ _) (createAll_carries _ _ _ _)
  intro track detection hsome
  rw [aged_eq linearSumAssignment detections hself, hsome]
  exact ⟨rfl, rfl, rfl⟩

/-- The used detections are all the high-score ones and some of the low-score ones. -/
theorem usedDetections_perm (hself : self.WellFormed) :
    ∃ recovered, recovered.Subperm (self.low detections) ∧
      (self.usedDetections linearSumAssignment detections).Perm
        (self.high detections ++ recovered) := by
  have hfirst := associate_detections_perm linearSumAssignment self self.predicted
    self.candidates (self.high detections) (candidates_nodup hself)
  have hsecond := associate_detections_perm linearSumAssignment self
    (self.firstStage linearSumAssignment detections).store
    (self.secondStageTracks linearSumAssignment detections) (self.low detections)
    (secondStageTracks_nodup linearSumAssignment detections hself)
  refine ⟨(self.secondStageTracks linearSumAssignment detections).filterMap
    (self.secondObservation linearSumAssignment detections),
    (List.sublist_append_left _ _).subperm.trans hsecond.subperm, ?_⟩
  have hoffered : ((List.finRange self.tracks.length).filter fun track =>
        self.firstObservation linearSumAssignment detections track = none).filterMap
          (self.secondObservation linearSumAssignment detections) =
      (self.secondStageTracks linearSumAssignment detections).filterMap
        (self.secondObservation linearSumAssignment detections) := by
    rw [secondStageTracks, firstStage_unmatchedTracks linearSumAssignment detections hself]
    refine (filterMap_filter_of_some ?_ _).symm
    intro track detection hsome
    have hmem := (mem_of_observation _ _ _ _ _ hsome).1
    exact (List.mem_filter.mp hmem).2
  have hobserved := filterMap_or_perm (self.firstObservation linearSumAssignment detections)
    (self.secondObservation linearSumAssignment detections) (List.finRange self.tracks.length)
  rw [hoffered] at hobserved
  rw [candidates_eq hself] at hfirst
  have hused := hobserved.append_right
    (self.firstStage linearSumAssignment detections).unmatchedDetections
  refine hused.trans ?_
  rw [List.append_assoc]
  refine (List.perm_append_comm.append_left _).trans ?_
  rw [← List.append_assoc]
  refine List.Perm.append_right _ ?_
  rw [firstStage, candidates_eq hself, firstObservation, candidates_eq hself]
  exact hfirst

/-- What it means that an update neither loses nor duplicates a detection: `used` is the
sub-collection of the frame's detections that the returned list pairs off with. -/
structure Conserves (options : TrackerOptions K) (detections : List (Detection K))
    (next : ByteTracker K) (out : List (TrackedDetection K)) (used : List (Detection K)) :
    Prop where
  carries : List.Forall₂ Carries out used
  used_subperm : used.Subperm detections
  high_perm : (used.filter fun detection => detection.score ≥ options.trackThreshold).Perm
    (detections.filter fun detection => detection.score ≥ options.trackThreshold)
  low_le : ∀ detection ∈ used, options.lowThreshold ≤ detection.score
  trackIds_nodup : (out.map TrackedDetection.trackId).Nodup
  seen_now : ∀ entry ∈ out, ∃ track ∈ next.tracks,
    entry = track.toTracked next.cameraId ∧ track.lastFrame = next.frameId

/-- Every returned entry is that of a track that the update keeps and that was seen in its
frame. -/
theorem output_seen (hself : self.WellFormed) {entry : TrackedDetection K}
    (h : entry ∈ self.output linearSumAssignment detections) :
    ∃ track ∈ self.retained linearSumAssignment detections,
      entry = track.toTracked self.cameraId ∧ track.lastFrame = self.frameId := by
  rw [output_eq linearSumAssignment detections hself, List.mem_append] at h
  rcases h with h | h
  · obtain ⟨old, hold, rfl⟩ := List.mem_map.mp h
    obtain ⟨detection, hdetection⟩ := Option.isSome_iff_exists.mp (List.mem_filter.mp hold).2
    have haged := aged_eq linearSumAssignment detections hself old
    rw [hdetection, Option.elim_some] at haged
    refine ⟨_, (mem_retained linearSumAssignment detections).mpr (Or.inl ⟨old, rfl, ?_⟩), rfl, ?_⟩
    · simp [haged]
    · simp [haged]
  · obtain ⟨track, htrack, rfl⟩ := List.mem_map.mp h
    exact ⟨track, (mem_retained linearSumAssignment detections).mpr (Or.inr htrack), rfl,
      (mem_created linearSumAssignment detections htrack).2⟩

/-- The ids of the returned list are ids of kept tracks, in the order of the tracks. -/
theorem output_trackIds_sublist :
    ((self.output linearSumAssignment detections).map TrackedDetection.trackId).Sublist
      ((self.retained linearSumAssignment detections).map Track.trackId) := by
  rw [output, List.map_map]
  exact List.filter_sublist.map _

omit [IsStrictOrderedRing K] in
theorem filter_high_append {recovered : List (Detection K)}
    (hrecovered : recovered.Subperm (self.low detections)) :
    ((self.high detections ++ recovered).filter fun detection =>
      detection.score ≥ self.trackThreshold) = self.high detections := by
  have hlow : (recovered.filter fun detection => detection.score ≥ self.trackThreshold) = [] := by
    rw [List.filter_eq_nil_iff]
    intro detection hmem
    have := (List.mem_filter.mp (hrecovered.subset hmem)).2
    simp only [decide_eq_true_eq] at this
    simpa using this.2
  rw [List.filter_append, hlow, List.append_nil]
  exact List.filter_eq_self.mpr fun detection hmem => (List.mem_filter.mp hmem).2

omit [IsStrictOrderedRing K] in
/-- High-score and low-score detections are different detections of the frame. -/
theorem high_append_low_subperm :
    (self.high detections ++ self.low detections).Subperm detections := by
  have hlow : (self.low detections).Sublist
      (detections.filter fun detection => ¬ detection.score ≥ self.trackThreshold) := by
    have : self.low detections =
        (detections.filter fun detection => ¬ detection.score ≥ self.trackThreshold).filter
          fun detection => self.lowThreshold ≤ detection.score := by
      rw [List.filter_filter]
      refine List.filter_congr fun detection _ => ?_
      simp
    rw [this]
    exact List.filter_sublist
  refine (hlow.append_left _).subperm.trans (List.Perm.subperm ?_)
  have hsplit := List.filter_append_perm
    (fun detection : Detection K => decide (detection.score ≥ self.trackThreshold)) detections
  simpa only [high, decide_not] using hsplit

/-- One update of a well-formed tracker neither loses nor duplicates a detection. -/
theorem update_conserves {t : ByteTracker K} (h : t.WellFormed)
    (hthresholds : t.lowThreshold ≤ t.trackThreshold) :
    Conserves t.toTrackerOptions detections (t.update linearSumAssignment detections).1
      (t.update linearSumAssignment detections).2
      (t.nextFrame.usedDetections linearSumAssignment detections) := by
  have hself := nextFrame_wellFormed h
  obtain ⟨recovered, hrecovered, hperm⟩ :=
    usedDetections_perm linearSumAssignment detections hself
  constructor
  · exact output_carries linearSumAssignment detections hself
  · exact hperm.subperm.trans
      ((List.subperm_append_left _).mpr hrecovered |>.trans (high_append_low_subperm detections))
  · have hhigh := filter_high_append detections hrecovered
    exact (hperm.filter _).trans (List.Perm.of_eq hhigh)
  · intro detection hmem
    rcases List.mem_append.mp (hperm.subset hmem) with hhigh | hlow
    · exact hthresholds.trans (of_decide_eq_true (List.mem_filter.mp hhigh).2)
    · have := (List.mem_filter.mp (hrecovered.subset hlow)).2
      simp only [decide_eq_true_eq] at this
      exact this.1
  · exact (output_trackIds_sublist linearSumAssignment detections).nodup
      (update_wellFormed linearSumAssignment detections h).ids_nodup
  · exact fun entry hentry => output_seen linearSumAssignment detections hself hentry

/-- `ByteTracker.update` neither loses nor duplicates a detection, in every state that calls of
`update` reach from a fresh tracker. -/
theorem update_conserves_detections (cameraId : String) (options : TrackerOptions K)
    (hthresholds : options.lowThreshold ≤ options.trackThreshold) (inputs : Nat → Input K)
    (k : Nat) :
    let t := (fresh cameraId options).after inputs k
    ∃ used, Conserves options detections (t.update linearSumAssignment detections).1
      (t.update linearSumAssignment detections).2 used := by
  intro t
  have hoptions : t.toTrackerOptions = options := (after_options _ inputs k).1
  have hwell : t.WellFormed := after_wellFormed (fresh_wellFormed cameraId options) inputs k
  have hconserves := update_conserves linearSumAssignment detections hwell
    (by rw [hoptions]; exact hthresholds)
  rw [hoptions] at hconserves
  exact ⟨_, hconserves⟩

/-- An assignment of the first row to the first column: what SciPy returns for the one by one
matrix of a single track and a single detection. -/
def onlyPair : LinearSumAssignment ℚ
  | 0, _, _ | _ + 1, 0, _ => ⟨[], by simp, by simp⟩
  | _ + 1, _ + 1, _ => ⟨[(0, 0)], by simp, by simp⟩

/-- A person with its left edge at `x`. -/
def personAt (x score : ℚ) (h0 : 0 ≤ score) (h1 : score ≤ 1) : Detection ℚ where
  bbox := ⟨x, 10, x + 40, 100, by linarith, by norm_num⟩
  score
  classId := 0
  className := "person"
  score_nonneg := h0
  score_le_one := h1

/-- The first frame of a camera, with one confident detection. -/
def firstSight : Nat → Input ℚ := fun _ =>
  ⟨onlyPair, [personAt 10 (9 / 10) (by norm_num) (by norm_num)]⟩

theorem update_conserves_weak_second_sight :
    ∃ used, Conserves {} [personAt 12 (3 / 10) (by norm_num) (by norm_num)]
      (((fresh "cam-a" {}).after firstSight 1).update onlyPair
        [personAt 12 (3 / 10) (by norm_num) (by norm_num)]).1
      (((fresh "cam-a" {}).after firstSight 1).update onlyPair
        [personAt 12 (3 / 10) (by norm_num) (by norm_num)]).2 used :=
  update_conserves_detections onlyPair [personAt 12 (3 / 10) (by norm_num) (by norm_num)]
    "cam-a" {} (by norm_num) firstSight 1

end EdgeSafety.ByteTracker
