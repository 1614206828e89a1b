import EdgeSafety.Tracking.ByteTracker

/-!
# What one association does

`_associate` changes each track at most once, and only a track it was given. `observation` names
the detection that a track is matched with; the lemmas below state the store and the two
returned lists in its terms, so that the stages of `update` never look at the loop again.
-/

namespace EdgeSafety.ByteTracker

variable {K : Type} [Field K] [LinearOrder K] [IsStrictOrderedRing K]
variable (linearSumAssignment : LinearSumAssignment K) (self : ByteTracker K) {n : Nat}
  (store : Fin n → Track K) (tracks : List (Fin n)) (detections : List (Detection K))

/-- The pairs of the assignment that pass the gate on their overlap. -/
def gated : Matching tracks.length detections.length :=
  (linearSumAssignment _ _ (cost store tracks detections)).filter fun pair =>
    ¬ 1 - cost store tracks detections pair.1 pair.2 < self.matchIouThreshold

/-- The detection with which an association matches a track. -/
def observation : Fin n → Option (Detection K) :=
  if tracks.isEmpty || detections.isEmpty then fun _ => none
  else (gated linearSumAssignment self store tracks detections).partner tracks detections

omit [IsStrictOrderedRing K] in
/-- The loop of `_associate` is the loop over the gated pairs. The induction is over the pairs
that SciPy returned, with the store and the two sets of the iterations before. -/
theorem associateLoop_fold (pairs : List (Fin tracks.length × Fin detections.length))
    (cost : Matrix (Fin tracks.length) (Fin detections.length) K)
    (matchedTracks : Finset (Fin tracks.length))
    (matchedDetections : Finset (Fin detections.length)) :
    let keep := fun pair : Fin tracks.length × Fin detections.length =>
      decide (¬ 1 - cost pair.1 pair.2 < self.matchIouThreshold)
    let loop := pairs.foldl
      (fun (store, matchedTracks, matchedDetections) (row, column) =>
        if 1 - cost row column < self.matchIouThreshold then
          (store, matchedTracks, matchedDetections)
        else
          let track := tracks.get row
          let detection := detections.get column
          (Function.update store track ((store track).observe self.frameId detection),
            insert row matchedTracks, insert column matchedDetections))
      (store, matchedTracks, matchedDetections)
    loop.1 = (pairs.filter keep).foldl (fun store pair =>
        Function.update store (tracks.get pair.1)
          ((store (tracks.get pair.1)).observe self.frameId (detections.get pair.2))) store ∧
      (∀ row, row ∈ loop.2.1 ↔
        row ∈ matchedTracks ∨ row ∈ (pairs.filter keep).map Prod.fst) ∧
      ∀ column, column ∈ loop.2.2 ↔
        column ∈ matchedDetections ∨ column ∈ (pairs.filter keep).map Prod.snd := by
  intro keep
  induction pairs generalizing store matchedTracks matchedDetections with
  | nil => simp
  | cons pair pairs ih =>
    obtain ⟨row, column⟩ := pair
    by_cases hgate : 1 - cost row column < self.matchIouThreshold
    · have hkeep : keep (row, column) = false := by simpa [keep] using hgate
      simpa only [List.foldl_cons, if_pos hgate, List.filter_cons, hkeep, Bool.false_eq_true,
        if_false] using ih store matchedTracks matchedDetections
    · have hkeep : keep (row, column) = true := by simpa [keep] using hgate
      obtain ⟨hstore, hrows, hcolumns⟩ := ih
        (Function.update store (tracks.get row)
          ((store (tracks.get row)).observe self.frameId (detections.get column)))
        (insert row matchedTracks) (insert column matchedDetections)
      simp only [List.foldl_cons, if_neg hgate, List.filter_cons, hkeep, if_true]
      refine ⟨hstore, fun i => ?_, fun i => ?_⟩
      · rw [hrows i, Finset.mem_insert, List.map_cons, List.mem_cons]
        tauto
      · rw [hcolumns i, Finset.mem_insert, List.map_cons, List.mem_cons]
        tauto

/-- What the loop of `_associate` has collected at its end. -/
theorem associateLoop_gated :
    (associateLoop linearSumAssignment self store tracks detections).1 =
        (gated linearSumAssignment self store tracks detections).pairs.foldl (fun store pair =>
          Function.update store (tracks.get pair.1)
            ((store (tracks.get pair.1)).observe self.frameId (detections.get pair.2))) store ∧
      (∀ row, row ∈ (associateLoop linearSumAssignment self store tracks detections).2.1 ↔
        row ∈ (gated linearSumAssignment self store tracks detections).pairs.map Prod.fst) ∧
      ∀ column, column ∈ (associateLoop linearSumAssignment self store tracks detections).2.2 ↔
        column ∈ (gated linearSumAssignment self store tracks detections).pairs.map Prod.snd := by
  have hloop := associateLoop_fold self store tracks detections
    (linearSumAssignment _ _ (cost store tracks detections)).pairs
    (cost store tracks detections) ∅ ∅
  simp only [Finset.notMem_empty, false_or] at hloop
  exact hloop

/-- The store after an association: a matched track has observed its detection, every other
track is unchanged. -/
theorem associate_store (htracks : tracks.Nodup) (track : Fin n) :
    (associate linearSumAssignment self store tracks detections).store track =
      (observation linearSumAssignment self store tracks detections track).elim (store track)
        ((store track).observe self.frameId) := by
  unfold associate observation
  split
  · rfl
  · change (associateLoop linearSumAssignment self store tracks detections).1 track = _
    rw [(associateLoop_gated linearSumAssignment self store tracks detections).1]
    exact Matching.foldl_update_partner
      (gated linearSumAssignment self store tracks detections)
      (Track.observe self.frameId) htracks store track

/-- The unmatched tracks are the given ones without an observation. -/
theorem associate_unmatchedTracks (htracks : tracks.Nodup) :
    (associate linearSumAssignment self store tracks detections).unmatchedTracks =
      tracks.filter fun track =>
        observation linearSumAssignment self store tracks detections track = none := by
  unfold associate observation
  split
  · simp
  · obtain ⟨-, hrows, -⟩ := associateLoop_gated linearSumAssignment self store tracks detections
    rw [← Matching.freeRows_map _ htracks]
    refine congrArg (List.map tracks.get) (List.filter_congr fun row _ => ?_)
    exact decide_eq_decide.mpr (not_congr (hrows row))

/-- The observations and the unmatched detections are the given detections. -/
theorem associate_detections_perm (htracks : tracks.Nodup) :
    (tracks.filterMap (observation linearSumAssignment self store tracks detections) ++
      (associate linearSumAssignment self store tracks detections).unmatchedDetections).Perm
        detections := by
  unfold associate observation
  split
  · simp
  · obtain ⟨-, -, hcolumns⟩ := associateLoop_gated linearSumAssignment self store tracks detections
    refine List.Perm.trans (List.Perm.append_left _ (List.Perm.of_eq ?_))
      (Matching.partners_perm (gated linearSumAssignment self store tracks detections) htracks)
    refine congrArg (List.map detections.get) (List.filter_congr fun column _ => ?_)
    exact decide_eq_decide.mpr (not_congr (hcolumns column))

/-- Only a given track observes a detection, and only a given one. -/
theorem mem_of_observation {track : Fin n} {detection : Detection K}
    (h : observation linearSumAssignment self store tracks detections track = some detection) :
    track ∈ tracks ∧ detection ∈ detections := by
  unfold observation at h
  split at h
  · cases h
  · exact ⟨Matching.mem_rows_of_partner _ h, Matching.mem_columns_of_partner _ h⟩

end EdgeSafety.ByteTracker
