import EdgeSafety.Tracking.Conservation

/-!
# Lifetime of a track identity

`Dated` links the state of every retained track to the frame in which it was last seen. With it
a run is followed one id at a time: while an id is not returned its track keeps the frame in
which it was last seen (`lastFrame_of_silent`), ageing removes it `track_buffer` frames later,
and until then it is lost, so that only a high-score detection can bring it back.
-/

namespace EdgeSafety.ByteTracker

variable {K : Type} [Field K] [LinearOrder K] [IsStrictOrderedRing K]

/-- The state of every retained track follows from the frame in which it was last seen. -/
structure Dated (t : ByteTracker K) : Prop extends t.WellFormed where
  age_le : ∀ track ∈ t.tracks, (t.frameId : Int) - track.lastFrame ≤ t.trackBuffer
  lastFrame_le : ∀ track ∈ t.tracks, track.lastFrame ≤ t.frameId
  tracked_iff : ∀ track ∈ t.tracks, track.state = .tracked ↔ track.lastFrame = t.frameId

omit [LinearOrder K] [IsStrictOrderedRing K] in
theorem fresh_dated (cameraId : String) (options : TrackerOptions K) :
    (fresh cameraId options).Dated :=
  ⟨fresh_wellFormed cameraId options, by simp [fresh], by simp [fresh], by simp [fresh]⟩

section Step
variable (linearSumAssignment : LinearSumAssignment K) (detections : List (Detection K))
variable {t : ByteTracker K}

/-- What an update makes of an old track that it keeps. -/
inductive Continues (t : ByteTracker K) (detections : List (Detection K)) (old track : Track K) :
    Prop
  /-- The track was matched with a detection; a lost track only with a high-score one. -/
  | seen (detection : Detection K) (member : detection ∈ detections)
      (lastFrame : track.lastFrame = t.frameId + 1) (state : track.state = .tracked)
      (carries : Carries (track.toTracked t.cameraId) detection)
      (high : old.state ≠ .tracked → detection.score ≥ t.trackThreshold)
  /-- The track was aged and is still within its buffer. -/
  | missed (lastFrame : track.lastFrame = old.lastFrame) (state : track.state = .lost)
      (age : ((t.frameId + 1 : Nat) : Int) - old.lastFrame ≤ t.trackBuffer)

theorem continues_of_aged (h : t.WellFormed) (old : Fin t.nextFrame.tracks.length)
    (hstate : (t.nextFrame.aged linearSumAssignment detections old).state ≠ .removed) :
    Continues t detections (t.tracks.get old)
      (t.nextFrame.aged linearSumAssignment detections old) := by
  have hself := nextFrame_wellFormed h
  have haged := aged_eq linearSumAssignment detections hself old
  cases hcase : t.nextFrame.observed linearSumAssignment detections old with
  | some detection =>
    rw [hcase, Option.elim_some] at haged
    rw [haged]
    have hfrom : detection ∈ t.nextFrame.high detections ∨
        (t.tracks.get old).state = .tracked ∧ detection ∈ t.nextFrame.low detections := by
      rcases Option.or_eq_some_iff.mp hcase with hfirst | ⟨-, hsecond⟩
      · exact Or.inl (mem_of_observation _ _ _ _ _ hfirst).2
      · obtain ⟨hoffered, hlow⟩ := mem_of_observation _ _ _ _ _ hsecond
        exact Or.inr
          ⟨((mem_secondStageTracks linearSumAssignment detections hself old).mp hoffered).2, hlow⟩
    refine .seen detection ?_ rfl rfl ⟨rfl, rfl, rfl⟩ fun hlost => ?_
    · rcases hfrom with hhigh | ⟨-, hlow⟩
      · exact (List.mem_filter.mp hhigh).1
      · exact (List.mem_filter.mp hlow).1
    · rcases hfrom with hhigh | ⟨htracked, -⟩
      · exact of_decide_eq_true (List.mem_filter.mp hhigh).2
      · exact absurd htracked hlost
  | none =>
    rw [hcase, Option.elim_none] at haged
    rw [haged] at hstate ⊢
    rw [Track.age_state] at hstate
    split at hstate
    · exact absurd rfl hstate
    · next hage =>
      exact .missed (by rw [Track.age_lastFrame]; rfl) (by rw [Track.age_state, if_neg hage])
        (not_lt.mp hage)

/-- Every track kept by an update continues an old one under its id, or is new. -/
theorem update_tracks_cases (h : t.WellFormed) {track : Track K}
    (htrack : track ∈ (t.update linearSumAssignment detections).1.tracks) :
    (∃ old ∈ t.tracks, old.trackId = track.trackId ∧ Continues t detections old track) ∨
      (track ∈ t.nextFrame.created linearSumAssignment detections ∧
        t.nextTrackId ≤ track.trackId) := by
  rcases (mem_retained linearSumAssignment detections).mp htrack with ⟨old, rfl, hstate⟩ | hnew
  · exact Or.inl ⟨_, List.get_mem _ old,
      (aged_trackId linearSumAssignment detections (nextFrame_wellFormed h) old).symm,
      continues_of_aged linearSumAssignment detections h old hstate⟩
  · have hid := List.mem_map_of_mem (f := Track.trackId) hnew
    rw [created_trackIds, List.mem_range'_1] at hid
    exact Or.inr ⟨hnew, hid.1⟩

theorem update_dated (hbuffer : 0 ≤ t.trackBuffer) (h : t.Dated) :
    (t.update linearSumAssignment detections).1.Dated := by
  have hcases : ∀ track ∈ (t.update linearSumAssignment detections).1.tracks,
      (track.lastFrame = t.frameId + 1 ∧ track.state = .tracked) ∨
        (track.lastFrame ≤ t.frameId ∧ track.state = .lost ∧
          ((t.frameId + 1 : Nat) : Int) - track.lastFrame ≤ t.trackBuffer) := by
    intro track htrack
    rcases update_tracks_cases linearSumAssignment detections h.toWellFormed htrack with
      ⟨old, hold, -, hcontinues⟩ | ⟨hnew, -⟩
    · cases hcontinues with
      | seen _ _ hlast hstate _ _ => exact Or.inl ⟨hlast, hstate⟩
      | missed hlast hstate hage =>
        rw [hlast]
        exact Or.inr ⟨h.lastFrame_le old hold, hstate, hage⟩
    · obtain ⟨hstate, hlast⟩ := mem_created linearSumAssignment detections hnew
      exact Or.inl ⟨hlast, hstate⟩
  refine ⟨update_wellFormed linearSumAssignment detections h.toWellFormed, ?_, ?_, ?_⟩
  · intro track htrack
    change ((t.frameId + 1 : Nat) : Int) - track.lastFrame ≤ t.trackBuffer
    rcases hcases track htrack with ⟨hlast, -⟩ | ⟨-, -, hage⟩
    · rw [hlast]
      omega
    · exact hage
  · intro track htrack
    change track.lastFrame ≤ t.frameId + 1
    rcases hcases track htrack with ⟨hlast, -⟩ | ⟨hlast, -, -⟩ <;> omega
  · intro track htrack
    change track.state = .tracked ↔ track.lastFrame = t.frameId + 1
    rcases hcases track htrack with ⟨hlast, hstate⟩ | ⟨hlast, hstate, -⟩
    · simp [hlast, hstate]
    · simp only [hstate, reduceCtorEq, false_iff]
      omega

/-- An id is returned exactly when a kept track has it and was seen in this frame. -/
theorem mem_update_ids (h : t.Dated) (id : Nat) :
    id ∈ (t.update linearSumAssignment detections).2.map TrackedDetection.trackId ↔
      ∃ track ∈ (t.update linearSumAssignment detections).1.tracks,
        track.trackId = id ∧ track.lastFrame = t.frameId + 1 := by
  have hself := nextFrame_wellFormed h.toWellFormed
  constructor
  · intro hid
    obtain ⟨entry, hentry, rfl⟩ := List.mem_map.mp hid
    obtain ⟨track, htrack, rfl, hlast⟩ :=
      output_seen linearSumAssignment detections hself hentry
    exact ⟨track, htrack, rfl, hlast⟩
  · rintro ⟨track, htrack, rfl, hlast⟩
    change _ ∈ (t.nextFrame.output linearSumAssignment detections).map _
    rw [output_eq linearSumAssignment detections hself, List.map_append, List.mem_append]
    rcases (mem_retained linearSumAssignment detections).mp htrack with ⟨old, rfl, -⟩ | hnew
    · refine Or.inl (List.mem_map_of_mem (List.mem_map.mpr ⟨old, ?_, rfl⟩))
      refine List.mem_filter.mpr ⟨List.mem_finRange _, ?_⟩
      -- an old track that was not observed keeps a `last_frame` before this frame
      have haged := aged_eq linearSumAssignment detections hself old
      cases hcase : t.nextFrame.observed linearSumAssignment detections old with
      | some detection => rfl
      | none =>
        rw [hcase, Option.elim_none] at haged
        rw [haged, Track.age_lastFrame, Track.predict_lastFrame] at hlast
        have := h.lastFrame_le _ (List.get_mem t.tracks old)
        change (t.tracks.get old).lastFrame = _ at hlast
        omega
    · exact Or.inr (List.mem_map_of_mem (List.mem_map_of_mem hnew))

end Step

section Run
variable {t : ByteTracker K} (inputs : Nat → Input K)

theorem after_dated (hbuffer : 0 ≤ t.trackBuffer) (h : t.Dated) (g : Nat) :
    (t.after inputs g).Dated := by
  induction g with
  | zero => exact h
  | succ g ih =>
    refine update_dated _ _ ?_ ih
    rw [(after_options t inputs g).1]
    exact hbuffer

/-- The ids that the first `g` calls give to new tracks, in order. -/
def givenIds (t : ByteTracker K) (inputs : Nat → Input K) (g : Nat) : List Nat :=
  (List.range g).flatMap fun k =>
    ((t.after inputs k).nextFrame.created (inputs k).linearSumAssignment
      (inputs k).detections).map Track.trackId

/-- The ids given over a run are consecutive, up to the next id. -/
theorem givenIds_eq (g : Nat) :
    ∃ n, t.givenIds inputs g = List.range' t.nextTrackId n ∧
      (t.after inputs g).nextTrackId = t.nextTrackId + n := by
  induction g with
  | zero => exact ⟨0, rfl, rfl⟩
  | succ g ih =>
    obtain ⟨n, hgiven, hnext⟩ := ih
    have hcreated : ((t.after inputs g).nextFrame.created (inputs g).linearSumAssignment
          (inputs g).detections).map Track.trackId =
        List.range' (t.after inputs g).nextTrackId ((t.after inputs g).nextFrame.firstStage
          (inputs g).linearSumAssignment (inputs g).detections).unmatchedDetections.length :=
      created_trackIds _ _
    have hlen := congrArg List.length hcreated
    rw [List.length_map, List.length_range'] at hlen
    refine ⟨n + ((t.after inputs g).nextFrame.created (inputs g).linearSumAssignment
      (inputs g).detections).length, ?_, ?_⟩
    · have hstep : t.givenIds inputs (g + 1) = t.givenIds inputs g ++
          ((t.after inputs g).nextFrame.created (inputs g).linearSumAssignment
            (inputs g).detections).map Track.trackId := by
        simp [givenIds, List.range_succ]
      rw [hstep, hgiven, hcreated, hnext, hlen]
      exact List.range'_append_1
    · change (t.after inputs g).nextTrackId + _ = _
      rw [hnext, Nat.add_assoc]

theorem nextTrackId_mono {f g : Nat} (hfg : f ≤ g) :
    (t.after inputs f).nextTrackId ≤ (t.after inputs g).nextTrackId := by
  induction g, hfg using Nat.le_induction with
  | base => exact le_refl _
  | succ g _ ih => exact ih.trans (Nat.le_add_right _ _)

/-- The id of a returned entry is the id of a track last seen in that frame. -/
theorem mem_returned_ids (hbuffer : 0 ≤ t.trackBuffer) (h : t.Dated) (hstart : t.frameId = 0)
    (g id : Nat) :
    id ∈ (t.returned inputs (g + 1)).map TrackedDetection.trackId ↔
      ∃ track ∈ (t.after inputs (g + 1)).tracks,
        track.trackId = id ∧ track.lastFrame = g + 1 := by
  have hids := mem_update_ids (inputs g).linearSumAssignment (inputs g).detections
    (after_dated inputs hbuffer h g) id
  rw [after_frameId, hstart, Nat.zero_add] at hids
  exact hids

/-- While an id is silent, its track keeps the frame in which it was last returned. The induction
is over the frames since then; a track of the id in the next frame continues the one before,
because the id is below the next id already. -/
theorem lastFrame_of_silent (hbuffer : 0 ≤ t.trackBuffer) (h : t.Dated) (hstart : t.frameId = 0)
    {f g id : Nat} (hfg : f + 1 ≤ g)
    (hreturned : id ∈ (t.returned inputs (f + 1)).map TrackedDetection.trackId)
    (hsilent : ∀ k, f + 1 < k → k ≤ g →
      id ∉ (t.returned inputs k).map TrackedDetection.trackId) :
    id < (t.after inputs g).nextTrackId ∧
      ∀ track ∈ (t.after inputs g).tracks, track.trackId = id → track.lastFrame = f + 1 := by
  have hfirst := (mem_returned_ids inputs hbuffer h hstart f id).mp hreturned
  obtain ⟨first, hfirst, rfl, hlast⟩ := hfirst
  have hdated := after_dated inputs hbuffer h
  have hbelow : ∀ k, f + 1 ≤ k → first.trackId < (t.after inputs k).nextTrackId := fun k hk =>
    lt_of_lt_of_le ((hdated (f + 1)).ids_lt first hfirst) (nextTrackId_mono inputs hk)
  refine ⟨hbelow g hfg, ?_⟩
  induction g, hfg using Nat.le_induction with
  | base =>
    intro track htrack hid
    rw [List.inj_on_of_nodup_map (hdated (f + 1)).ids_nodup htrack hfirst hid, hlast]
  | succ g hg ih =>
    intro track htrack hid
    rcases update_tracks_cases _ _ (hdated g).toWellFormed htrack with
      ⟨old, hold, holdId, hcontinues⟩ | ⟨-, hnew⟩
    · cases hcontinues with
      | seen _ _ hseen _ _ _ =>
        rw [after_frameId, hstart, Nat.zero_add] at hseen
        exact absurd ((mem_returned_ids inputs hbuffer h hstart g _).mpr
          ⟨track, htrack, hid, hseen⟩) (hsilent (g + 1) (by omega) (le_refl _))
      | missed hkept _ _ =>
        rw [hkept]
        exact ih (fun k hk hkg => hsilent k hk (by omega)) old hold (holdId.trans hid)
    · have := hbelow g hg
      omega

end Run

/-- The life of the ids of one run: `t g` is the tracker after call `g` and `out g` the list that
call `g` returns. -/
structure IdentityLifetime (options : TrackerOptions K) (inputs : Nat → Input K)
    (given : Nat → List Nat) (t : Nat → ByteTracker K)
    (out : Nat → List (TrackedDetection K)) : Prop where
  ids_nodup : ∀ g, ((t g).tracks.map Track.trackId).Nodup
  ids_lt : ∀ g, ∀ track ∈ (t g).tracks, track.trackId < (t g).nextTrackId
  /-- Over the whole run no id is given twice, and no track gets an id otherwise. -/
  given_nodup : ∀ g, (given g).Nodup
  ids_given : ∀ g, ∀ track ∈ (t (g + 1)).tracks,
    track.trackId ∉ (t g).tracks.map Track.trackId →
      track.trackId ∈ given (g + 1) ∧ track.trackId ∉ given g
  age_le : ∀ g, ∀ track ∈ (t g).tracks, (g : Int) - track.lastFrame ≤ options.trackBuffer
  tracked_iff : ∀ g, ∀ track ∈ (t g).tracks, track.state = .tracked ↔ track.lastFrame = g
  tracked_or_lost : ∀ g, ∀ track ∈ (t g).tracks, track.state = .tracked ∨ track.state = .lost
  /-- An id returned again after a pause: how long the pause can be, and what revives it. -/
  recovery : ∀ f g id : Nat, f < g → id ∈ (out f).map TrackedDetection.trackId →
    id ∈ (out g).map TrackedDetection.trackId →
    (∀ k, f < k → k < g → id ∉ (out k).map TrackedDetection.trackId) →
      (g : Int) - f ≤ options.trackBuffer + 1 ∧
        (g - f > 1 → ∃ entry ∈ out g, entry.trackId = id ∧
          ∃ detection ∈ (inputs (g - 1)).detections,
            Carries entry detection ∧ detection.score ≥ options.trackThreshold)
  /-- An id absent for more than `track_buffer + 1` frames stays absent. -/
  forgotten : ∀ f g id : Nat, id ∈ (out f).map TrackedDetection.trackId →
    (∀ k : Nat, f < k → (k : Int) ≤ f + options.trackBuffer + 1 →
      id ∉ (out k).map TrackedDetection.trackId) →
    (f : Int) + options.trackBuffer + 1 < g → id ∉ (out g).map TrackedDetection.trackId

section Recovery
variable {t : ByteTracker K} (inputs : Nat → Input K)

/-- An id returned in call `g + 1` for the first time since call `f`: its track was kept through
the pause, and if there was one, as a lost track. -/
theorem recovery_of_silent (hbuffer : 0 ≤ t.trackBuffer) (h : t.Dated) (hstart : t.frameId = 0)
    {f g id : Nat} (hfg : f + 1 ≤ g)
    (hreturned : id ∈ (t.returned inputs (f + 1)).map TrackedDetection.trackId)
    (hagain : id ∈ (t.returned inputs (g + 1)).map TrackedDetection.trackId)
    (hsilent : ∀ k, f + 1 < k → k ≤ g →
      id ∉ (t.returned inputs k).map TrackedDetection.trackId) :
    (g : Int) - (f + 1 : Nat) ≤ t.trackBuffer ∧
      (f + 1 < g → ∃ entry ∈ t.returned inputs (g + 1), entry.trackId = id ∧
        ∃ detection ∈ (inputs g).detections,
          Carries entry detection ∧ detection.score ≥ t.trackThreshold) := by
  have hdated := after_dated inputs hbuffer h g
  have hoptions := after_options t inputs g
  have hframe := after_frameId t inputs g
  rw [hstart, Nat.zero_add] at hframe
  obtain ⟨hbelow, hkept⟩ :=
    lastFrame_of_silent inputs hbuffer h hstart hfg hreturned hsilent
  obtain ⟨entry, hentry, hid⟩ := List.mem_map.mp hagain
  obtain ⟨track, htrack, rfl, hlast⟩ := output_seen (inputs g).linearSumAssignment
    (inputs g).detections (nextFrame_wellFormed hdated.toWellFormed) hentry
  change track.trackId = id at hid
  change track.lastFrame = (t.after inputs g).frameId + 1 at hlast
  rcases update_tracks_cases _ _ hdated.toWellFormed htrack with
    ⟨old, hold, holdId, hcontinues⟩ | ⟨-, hnew⟩
  · have holdLast := hkept old hold (holdId.trans hid)
    have hage := hdated.age_le old hold
    rw [holdLast, hframe, hoptions.1] at hage
    refine ⟨hage, fun hpause => ?_⟩
    cases hcontinues with
    | seen detection member _ _ carries high =>
      refine ⟨_, hentry, hid, detection, member, carries, ?_⟩
      rw [← hoptions.1]
      refine high fun htracked => ?_
      rw [hdated.tracked_iff old hold, holdLast, hframe] at htracked
      omega
    | missed hmissed _ _ =>
      rw [hmissed, holdLast, hframe] at hlast
      omega
  · omega

end Recovery

/-- The calls of a new tracker number its frames. -/
theorem frameId_after_fresh (cameraId : String) (options : TrackerOptions K)
    (inputs : Nat → Input K) (g : Nat) :
    ((fresh cameraId options).after inputs g).frameId = g := by
  rw [after_frameId]
  exact Nat.zero_add g

/-- An id that comes back has not been away for longer than the buffer, and comes back with a
high-score detection. -/
theorem returned_recovery (cameraId : String) (options : TrackerOptions K)
    (hbuffer : 0 ≤ options.trackBuffer) (inputs : Nat → Input K) (f g id : Nat) (hfg : f < g)
    (hf : id ∈ ((fresh cameraId options).returned inputs f).map TrackedDetection.trackId)
    (hg : id ∈ ((fresh cameraId options).returned inputs g).map TrackedDetection.trackId)
    (hsilent : ∀ k, f < k → k < g →
      id ∉ ((fresh cameraId options).returned inputs k).map TrackedDetection.trackId) :
    (g : Int) - f ≤ options.trackBuffer + 1 ∧
      (g - f > 1 → ∃ entry ∈ (fresh cameraId options).returned inputs g, entry.trackId = id ∧
        ∃ detection ∈ (inputs (g - 1)).detections,
          Carries entry detection ∧ detection.score ≥ options.trackThreshold) := by
  -- calls are numbered from 1, so both frames are calls
  cases f with
  | zero => simp [returned] at hf
  | succ f =>
    cases g with
    | zero => omega
    | succ g =>
      obtain ⟨hage, hhigh⟩ := recovery_of_silent inputs hbuffer (fresh_dated cameraId options) rfl
        (by omega) hf hg (fun k hk hkg => hsilent k hk (by omega))
      change _ ≤ options.trackBuffer at hage
      exact ⟨by omega, fun hpause => hhigh (by omega)⟩

/-- Every run of calls of `update` on a fresh tracker gives its ids the lifetime that
`IdentityLifetime` describes. -/
theorem trackIdentity_lifetime (cameraId : String) (options : TrackerOptions K)
    (hbuffer : 0 ≤ options.trackBuffer) (inputs : Nat → Input K) :
    IdentityLifetime options inputs ((fresh cameraId options).givenIds inputs)
      ((fresh cameraId options).after inputs) ((fresh cameraId options).returned inputs) := by
  have hfresh := fresh_dated cameraId options
  have hdated := after_dated (t := fresh cameraId options) inputs hbuffer hfresh
  have hframe := frameId_after_fresh cameraId options inputs
  have hrecovery := returned_recovery cameraId options hbuffer inputs
  refine ⟨fun g => (hdated g).ids_nodup, fun g => (hdated g).ids_lt, ?_, ?_, ?_, ?_, ?_,
    hrecovery, ?_⟩
  · intro g
    obtain ⟨n, hgiven, -⟩ := givenIds_eq (t := fresh cameraId options) inputs g
    rw [hgiven]
    exact List.nodup_range'
  · intro g track htrack hnot
    obtain ⟨n, hgiven, hnext⟩ := givenIds_eq (t := fresh cameraId options) inputs g
    obtain ⟨n', hgiven', hnext'⟩ := givenIds_eq (t := fresh cameraId options) inputs (g + 1)
    rcases update_tracks_cases _ _ (hdated g).toWellFormed htrack with
      ⟨old, hold, holdId, -⟩ | ⟨-, hnew⟩
    · exact absurd (List.mem_map.mpr ⟨old, hold, holdId⟩) hnot
    · have hlt := (hdated (g + 1)).ids_lt track htrack
      rw [hgiven, hgiven', List.mem_range'_1, List.mem_range'_1]
      omega
  · intro g track htrack
    have hage := (hdated g).age_le track htrack
    rwa [hframe, (after_options _ inputs g).1] at hage
  · intro g track htrack
    have hiff := (hdated g).tracked_iff track htrack
    rwa [hframe] at hiff
  · intro g track htrack
    have hstate := (hdated g).not_removed track htrack
    cases hcase : track.state with
    | tracked => exact Or.inl rfl
    | lost => exact Or.inr rfl
    | removed => exact absurd hcase hstate
  · intro f g id hf hsilent hlate hg
    -- the first return after `f` comes within the window, which is silent
    have hexists : ∃ k, f < k ∧
        id ∈ ((fresh cameraId options).returned inputs k).map TrackedDetection.trackId :=
      ⟨g, by omega, hg⟩
    classical
    obtain ⟨hafter, hfirst⟩ := Nat.find_spec hexists
    have hpause := (hrecovery f (Nat.find hexists) id hafter hf hfirst
      (fun k hk hkfirst hmem => Nat.find_min hexists hkfirst ⟨hk, hmem⟩)).1
    exact hsilent _ hafter (by omega) hfirst

theorem trackIdentity_lifetime_default :
    IdentityLifetime {} firstSight ((fresh "cam-a" {}).givenIds firstSight)
      ((fresh "cam-a" {}).after firstSight) ((fresh "cam-a" {}).returned firstSight) :=
  trackIdentity_lifetime "cam-a" {} (by decide) firstSight

end EdgeSafety.ByteTracker
