import EdgeSafety.Tracking.Association

/-!
# What one update does to each track

The two associations of `update` observe disjoint sets of tracks. `observed` is the detection of
either; a track with one is updated with it and returned, every other track is aged, and the
high-score detections without a track open new ones. `aged_eq`, `mem_matchedTrackIds`,
`retained_eq` and `output_eq` say so, and everything later about an update is read off them.
-/

namespace EdgeSafety.ByteTracker

variable {K : Type} [Field K] [LinearOrder K] [IsStrictOrderedRing K]

/-- What the stages rely on: the ids are distinct, below the next id, and no retained track is
marked removed. -/
structure WellFormed (t : ByteTracker K) : Prop where
  ids_nodup : (t.tracks.map Track.trackId).Nodup
  ids_lt : ∀ track ∈ t.tracks, track.trackId < t.nextTrackId
  not_removed : ∀ track ∈ t.tracks, track.state ≠ .removed

variable (linearSumAssignment : LinearSumAssignment K) (self : ByteTracker K)
  (detections : List (Detection K))

/-- The detection that the first association gives a track. -/
def firstObservation : Fin self.tracks.length → Option (Detection K) :=
  observation linearSumAssignment self self.predicted self.candidates (self.high detections)

/-- The detection that the second association gives a track. -/
def secondObservation : Fin self.tracks.length → Option (Detection K) :=
  observation linearSumAssignment self (self.firstStage linearSumAssignment detections).store
    (self.secondStageTracks linearSumAssignment detections) (self.low detections)

/-- The detection that either association gives a track. -/
def observed (track : Fin self.tracks.length) : Option (Detection K) :=
  (self.firstObservation linearSumAssignment detections track).or
    (self.secondObservation linearSumAssignment detections track)

variable {self} (hself : self.WellFormed)
include hself

omit [LinearOrder K] [IsStrictOrderedRing K] in
theorem candidates_eq : self.candidates = List.finRange self.tracks.length := by
  refine List.filter_eq_self.mpr fun track _ => ?_
  simpa using hself.not_removed _ (List.get_mem self.tracks track)

omit [LinearOrder K] [IsStrictOrderedRing K] in
theorem candidates_nodup : self.candidates.Nodup := by
  rw [candidates_eq hself]
  exact List.nodup_finRange _

omit [IsStrictOrderedRing K] in
theorem predicted_eq (track : Fin self.tracks.length) :
    self.predicted track = (self.tracks.get track).predict := by
  rw [predicted, Matching.foldl_update_cells Track.predict (candidates_nodup hself),
    if_pos (by simp [candidates_eq hself])]

theorem firstStage_store (track : Fin self.tracks.length) :
    (self.firstStage linearSumAssignment detections).store track =
      (self.firstObservation linearSumAssignment detections track).elim
        (self.tracks.get track).predict
        ((self.tracks.get track).predict.observe self.frameId) := by
  rw [firstStage, associate_store _ _ _ _ _ (candidates_nodup hself), predicted_eq hself]
  rfl

theorem firstStage_unmatchedTracks :
    (self.firstStage linearSumAssignment detections).unmatchedTracks =
      (List.finRange self.tracks.length).filter fun track =>
        self.firstObservation linearSumAssignment detections track = none := by
  rw [firstStage, associate_unmatchedTracks _ _ _ _ _ (candidates_nodup hself)]
  exact congrArg (List.filter _) (candidates_eq hself)

/-- The tracks of the second association: tracked so far and not observed by the first. -/
theorem mem_secondStageTracks (track : Fin self.tracks.length) :
    track ∈ self.secondStageTracks linearSumAssignment detections ↔
      self.firstObservation linearSumAssignment detections track = none ∧
        (self.tracks.get track).state = .tracked := by
  simp only [secondStageTracks, firstStage_unmatchedTracks linearSumAssignment detections hself,
    List.mem_filter, List.mem_finRange, true_and, decide_eq_true_eq]
  refine and_congr_right fun hnone => ?_
  rw [firstStage_store linearSumAssignment detections hself, hnone]
  rfl

theorem mem_unmatchedLost (track : Fin self.tracks.length) :
    track ∈ self.unmatchedLost linearSumAssignment detections ↔
      self.firstObservation linearSumAssignment detections track = none ∧
        (self.tracks.get track).state = .lost := by
  simp only [unmatchedLost, firstStage_unmatchedTracks linearSumAssignment detections hself,
    List.mem_filter, List.mem_finRange, true_and, decide_eq_true_eq]
  refine and_congr_right fun hnone => ?_
  rw [firstStage_store linearSumAssignment detections hself, hnone]
  rfl

theorem secondStageTracks_nodup :
    (self.secondStageTracks linearSumAssignment detections).Nodup := by
  rw [secondStageTracks, firstStage_unmatchedTracks linearSumAssignment detections hself]
  exact ((List.nodup_finRange _).filter _).filter _

theorem unmatchedLost_nodup : (self.unmatchedLost linearSumAssignment detections).Nodup := by
  rw [unmatchedLost, firstStage_unmatchedTracks linearSumAssignment detections hself]
  exact ((List.nodup_finRange _).filter _).filter _

/-- A track that the first association observes is not offered to the second. -/
theorem secondObservation_of_first {track : Fin self.tracks.length} {detection : Detection K}
    (h : self.firstObservation linearSumAssignment detections track = some detection) :
    self.secondObservation linearSumAssignment detections track = none := by
  rw [Option.eq_none_iff_forall_ne_some]
  intro other hother
  have hmem := (mem_of_observation _ _ _ _ _ hother).1
  rw [mem_secondStageTracks linearSumAssignment detections hself, h] at hmem
  exact absurd hmem.1 (by simp)

theorem secondStage_store (track : Fin self.tracks.length) :
    (self.secondStage linearSumAssignment detections).store track =
      (self.observed linearSumAssignment detections track).elim
        (self.tracks.get track).predict
        ((self.tracks.get track).predict.observe self.frameId) := by
  rw [secondStage, associate_store _ _ _ _ _
    (secondStageTracks_nodup linearSumAssignment detections hself),
    firstStage_store linearSumAssignment detections hself]
  change (self.secondObservation linearSumAssignment detections track).elim _ _ = _
  cases hfirst : self.firstObservation linearSumAssignment detections track with
  | none => simp [observed, hfirst]
  | some detection =>
    rw [secondObservation_of_first linearSumAssignment detections hself hfirst]
    simp [observed, hfirst]

/-- The remaining tracks are the ones that neither association observes. -/
theorem mem_remainingTracks (track : Fin self.tracks.length) :
    track ∈ self.remainingTracks linearSumAssignment detections ↔
      self.observed linearSumAssignment detections track = none := by
  have hstate := hself.not_removed _ (List.get_mem self.tracks track)
  rw [remainingTracks, List.mem_append, mem_unmatchedLost linearSumAssignment detections hself,
    secondStage, associate_unmatchedTracks _ _ _ _ _
      (secondStageTracks_nodup linearSumAssignment detections hself), List.mem_filter,
    mem_secondStageTracks linearSumAssignment detections hself]
  change _ ∨ _ ∧ decide (self.secondObservation linearSumAssignment detections track = none) = true
    ↔ _
  rw [observed, Option.or_eq_none_iff, decide_eq_true_eq]
  constructor
  · rintro (⟨hfirst, hlost⟩ | ⟨⟨hfirst, -⟩, hsecond⟩)
    · refine ⟨hfirst, Option.eq_none_iff_forall_ne_some.mpr fun other hother => ?_⟩
      have hmem := (mem_of_observation _ _ _ _ _ hother).1
      rw [mem_secondStageTracks linearSumAssignment detections hself, hlost] at hmem
      exact absurd hmem.2 (by simp)
    · exact ⟨hfirst, hsecond⟩
  · rintro ⟨hfirst, hsecond⟩
    cases hcase : (self.tracks.get track).state with
    | tracked => exact Or.inr ⟨⟨hfirst, rfl⟩, hsecond⟩
    | lost => exact Or.inl ⟨hfirst, rfl⟩
    | removed => exact absurd hcase hstate

theorem remainingTracks_nodup :
    (self.remainingTracks linearSumAssignment detections).Nodup := by
  rw [remainingTracks, secondStage, associate_unmatchedTracks _ _ _ _ _
    (secondStageTracks_nodup linearSumAssignment detections hself)]
  refine List.Nodup.append (unmatchedLost_nodup linearSumAssignment detections hself)
    ((secondStageTracks_nodup linearSumAssignment detections hself).filter _) ?_
  intro track hlost htracked
  have hlost := ((mem_unmatchedLost linearSumAssignment detections hself track).mp hlost).2
  have htracked := ((mem_secondStageTracks linearSumAssignment detections hself track).mp
    (List.mem_filter.mp htracked).1).2
  rw [hlost] at htracked
  cases htracked

/-- Every track after the ageing: observed with its detection, or aged. -/
theorem aged_eq (track : Fin self.tracks.length) :
    self.aged linearSumAssignment detections track =
      (self.observed linearSumAssignment detections track).elim
        ((self.tracks.get track).predict.age self.frameId self.trackBuffer)
        ((self.tracks.get track).predict.observe self.frameId) := by
  rw [aged, Matching.foldl_update_cells (Track.age self.frameId self.trackBuffer)
    (remainingTracks_nodup linearSumAssignment detections hself),
    secondStage_store linearSumAssignment detections hself]
  simp only [mem_remainingTracks linearSumAssignment detections hself]
  cases self.observed linearSumAssignment detections track <;> simp

theorem aged_trackId (track : Fin self.tracks.length) :
    (self.aged linearSumAssignment detections track).trackId =
      (self.tracks.get track).trackId := by
  rw [aged_eq linearSumAssignment detections hself]
  cases self.observed linearSumAssignment detections track <;> simp

omit [LinearOrder K] [IsStrictOrderedRing K] in
theorem trackId_injective :
    Function.Injective fun track : Fin self.tracks.length => (self.tracks.get track).trackId := by
  have h := hself.ids_nodup
  rw [← List.map_get_finRange self.tracks, List.map_map] at h
  intro track other heq
  exact List.inj_on_of_nodup_map h (List.mem_finRange track) (List.mem_finRange other) heq

/-- The ids of the matched tracks. The code subtracts sets of ids, not of tracks, so this is where
distinct ids matter. -/
theorem mem_matchedTrackIds (id : Nat) :
    id ∈ self.matchedTrackIds linearSumAssignment detections ↔
      ∃ track, (self.observed linearSumAssignment detections track).isSome ∧
        (self.tracks.get track).trackId = id := by
  have hfirst : ∀ track, ((self.firstStage linearSumAssignment detections).store track).trackId =
      (self.tracks.get track).trackId := by
    intro track
    rw [firstStage_store linearSumAssignment detections hself]
    cases self.firstObservation linearSumAssignment detections track <;> simp
  have hsecond : ∀ track, ((self.secondStage linearSumAssignment detections).store track).trackId =
      (self.tracks.get track).trackId := by
    intro track
    rw [secondStage_store linearSumAssignment detections hself]
    cases self.observed linearSumAssignment detections track <;> simp
  simp only [matchedTrackIds, idSet, Finset.mem_union, Finset.mem_sdiff, Finset.mem_filter,
    List.mem_toFinset, List.mem_map, hfirst, hsecond, candidates_eq hself, List.mem_finRange,
    true_and, firstStage_unmatchedTracks linearSumAssignment detections hself, List.mem_filter,
    mem_remainingTracks linearSumAssignment detections hself, decide_eq_true_eq]
  constructor
  · rintro (⟨⟨track, rfl⟩, hfree⟩ | ⟨⟨track, -, rfl⟩, hfree⟩)
    · refine ⟨track, ?_, rfl⟩
      cases hcase : self.firstObservation linearSumAssignment detections track with
      | none => exact absurd ⟨track, hcase, rfl⟩ hfree
      | some detection => simp [observed, hcase]
    · refine ⟨track, ?_, rfl⟩
      rw [Option.isSome_iff_ne_none]
      exact fun hnone => hfree ⟨track, hnone, rfl⟩
  · rintro ⟨track, hsome, rfl⟩
    cases hcase : self.firstObservation linearSumAssignment detections track with
    | none =>
      refine Or.inr ⟨⟨track, hcase, rfl⟩, ?_⟩
      rintro ⟨other, hnone, heq⟩
      rw [trackId_injective hself heq] at hnone
      rw [hnone] at hsome
      cases hsome
    | some detection =>
      refine Or.inl ⟨⟨track, rfl⟩, ?_⟩
      rintro ⟨other, hnone, heq⟩
      rw [trackId_injective hself heq, hcase] at hnone
      cases hnone

omit hself in
theorem created_trackIds :
    (self.created linearSumAssignment detections).map Track.trackId =
      List.range' self.nextTrackId
        (self.firstStage linearSumAssignment detections).unmatchedDetections.length :=
  Track.createAll_trackIds _ _ _

omit hself in
theorem mem_created {track : Track K}
    (h : track ∈ self.created linearSumAssignment detections) :
    track.state = .tracked ∧ track.lastFrame = self.frameId := by
  obtain ⟨id, detection, -, rfl⟩ := Track.mem_createAll _ h
  exact ⟨rfl, rfl⟩

omit hself in
/-- The tracks kept by an update: the old ones that ageing did not remove, then the new ones. -/
theorem retained_eq :
    self.retained linearSumAssignment detections =
      ((List.finRange self.tracks.length).filter fun track =>
        (self.aged linearSumAssignment detections track).state ≠ .removed).map
          (self.aged linearSumAssignment detections) ++
        self.created linearSumAssignment detections := by
  rw [retained, List.filter_append, List.ofFn_eq_map, List.filter_map]
  congr 1
  refine List.filter_eq_self.mpr fun track hmem => ?_
  simp [(mem_created linearSumAssignment detections hmem).1]

/-- The returned list: the observed tracks, then the new ones. -/
theorem output_eq :
    self.output linearSumAssignment detections =
      ((List.finRange self.tracks.length).filter fun track =>
        (self.observed linearSumAssignment detections track).isSome).map
          (fun track =>
            (self.aged linearSumAssignment detections track).toTracked self.cameraId) ++
        (self.created linearSumAssignment detections).map (Track.toTracked self.cameraId) := by
  rw [output, retained_eq, List.filter_append, List.map_append, List.filter_map,
    List.filter_filter, List.map_map]
  congr 2
  · refine List.filter_congr fun track _ => ?_
    have hmatched := mem_matchedTrackIds linearSumAssignment detections hself
      (self.tracks.get track).trackId
    have haged := aged_eq linearSumAssignment detections hself track
    cases hcase : self.observed linearSumAssignment detections track with
    | none =>
      simp only [hcase, Option.elim_none] at haged
      have hlost : (self.aged linearSumAssignment detections track).state ≠ .tracked := by
        rw [haged, Track.age_state]
        split <;> simp
      simp [hlost]
    | some detection =>
      simp only [hcase, Option.elim_some] at haged
      have hmem := hmatched.mpr ⟨track, by simp [hcase], rfl⟩
      simp only [List.get_eq_getElem] at hmem
      simp [haged, hmem]
  · refine List.filter_eq_self.mpr fun track hmem => ?_
    have hid : track.trackId ∈
        ((self.created linearSumAssignment detections).map Track.trackId).toFinset :=
      List.mem_toFinset.mpr (List.mem_map_of_mem hmem)
    simp only [decide_eq_true_eq, Finset.mem_union]
    exact ⟨(mem_created linearSumAssignment detections hmem).1, Or.inr hid⟩

end EdgeSafety.ByteTracker
