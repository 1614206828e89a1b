import EdgeSafety.Capture.CaptureProcess

/-!
# The accounts of a capture process

What the health of a camera counts is what the process did, except for the one thing that it has
done and not counted yet (`Counts`). A device that was opened is released before the next one is,
and while the process backs off or after it returned none is open (`Handles`).
-/

namespace EdgeSafety.CaptureProcess

variable {config : CaptureConfig}

namespace Pc

/-- The frame that is published and not counted. -/
def uncounted : Pc → Nat
  | .counting _ | .succeeding _ _ => 1
  | _ => 0

/-- The failure that is not counted. -/
def failing : Pc → Nat
  | .refused | .unread | .rejected => 1
  | _ => 0

/-- The back-off that is over and not counted. -/
def rejoining : Pc → Nat
  | .reconnecting => 1
  | _ => 0

/-- The size of a published frame that is not compared. -/
def uncompared : Pc → Option (Nat × Nat)
  | .counting cycle | .succeeding cycle _ | .comparing cycle _ => some cycle.size
  | _ => none

/-- The frame that is about to be published, with its size. -/
def publishing? : Pc → Option ((Nat × Nat) × NdArray)
  | .publishing cycle frame => some (cycle.size, frame)
  | _ => none

/-- The health shows the dropped frames of the buffer, unless it is about to. -/
def Reported (health buffer : Nat) : Pc → Prop
  | .counting _ | .succeeding _ _ | .comparing _ _ | .dropping _ _ => True
  | .reporting _ _ count => count = buffer
  | _ => health = buffer

/-- The captures that are open. -/
def openCaptures : Pc → Nat
  | .opened | .frames _ | .timing _ | .reading _ _ | .unread | .publishing _ _ | .rejected
  | .degrading | .counting _ | .succeeding _ _ | .comparing _ _ | .dropping _ _ | .reporting _ _ _
  | .windowing _ _ | .pacing _ | .pause _ _ | .paused _ _ | .releasing _ => 1
  | _ => 0

/-- The state that the health shows while the process is there, where it is always the same. -/
def shows? : Pc → Option CameraState
  | .delaying | .wait _ | .waiting _ | .reconnecting => some .disconnected
  | .ended => some .stopped
  | _ => none

end Pc

/-- A frame of another size than the configuration's. -/
def Mismatched (config : CaptureConfig) (publication : Publication) : Prop :=
  actualSize publication.frame ≠ some config.resolution

instance : DecidablePred (Mismatched config) := fun _ => inferInstanceAs (Decidable (¬ _ = _))

/-- Counters of published frames, failures, back-offs and frames of another size. -/
structure Tally where
  captured : Nat
  failures : Nat
  reconnects : Nat
  resolutionMismatches : Nat

/-- What the health counts, and is about to count. -/
def tally (s : CaptureProcess config) : Tally where
  captured := s.health.captured + s.pc.uncounted
  failures := s.health.failures + s.pc.failing
  reconnects := s.health.reconnects + s.pc.rejoining
  resolutionMismatches := s.health.resolutionMismatches +
    if s.pc.uncompared.any (· ≠ config.resolution) then 1 else 0

/-- What the process did. -/
def History.tally (config : CaptureConfig) (h : History) : Tally where
  captured := h.register.published.length
  failures := h.refused + h.unread + h.rejected
  reconnects := h.waited
  resolutionMismatches := (h.register.published.filter (Mismatched config ·)).length

/-- The health counts what the process did. -/
structure Counts (s : CaptureProcess config) (h : History) : Prop where
  represents : s.buffer.Represents h.register
  tallied : s.tally = h.tally config
  sized : ∀ size frame, s.pc.publishing? = some (size, frame) → actualSize frame = some size
  dropped : s.pc.Reported s.health.dropped s.buffer.dropped

section Counts
variable {s t : CaptureProcess config} {h h' : History}

theorem tally_of {pc : Pc} (hpc : s.pc = pc) : s.tally = { s with pc }.tally := by
  rw [← hpc]

theorem Counts.reported (hs : Counts s h) {pc : Pc} (hpc : s.pc = pc) :
    pc.Reported s.health.dropped s.buffer.dropped := by
  rw [← hpc]
  exact hs.dropped

/-- A step that publishes nothing, and counts what it does. -/
theorem Counts.quiet (hs : Counts s h) (buffer : t.buffer = s.buffer)
    (register : h'.register = h.register)
    (tallied : s.tally = h.tally config → t.tally = h'.tally config)
    (sized : t.pc.publishing? = none) (dropped : t.pc.Reported t.health.dropped t.buffer.dropped) :
    Counts t h' := by
  refine ⟨?_, tallied hs.tallied, ?_, dropped⟩
  · rw [buffer, register]
    exact hs.represents
  · rw [sized]
    nofun

/-- A step that publishes nothing, and leaves the counts as they are. -/
theorem Counts.same (hs : Counts s h) (buffer : t.buffer = s.buffer)
    (register : h'.register = h.register) (tallied : s.tally = t.tally)
    (history : h'.tally config = h.tally config) (sized : t.pc.publishing? = none)
    (dropped : t.pc.Reported t.health.dropped t.buffer.dropped) : Counts t h' := by
  refine hs.quiet buffer register ?_ sized dropped
  rw [← tallied, history]
  exact id

/-- The scheduler reads the buffer. -/
theorem Counts.readLatest (hs : Counts s h) (afterSequence : Int) (maxAgeMs : Option ℚ) :
    Counts
      { s with
        buffer := s.buffer.call (.readLatest afterSequence maxAgeMs s.clockNs.toNat) }
      { h with
        register := s.buffer.record h.register
          (.readLatest afterSequence maxAgeMs s.clockNs.toNat) } := by
  have hpublished : (s.buffer.record h.register
      (.readLatest afterSequence maxAgeMs s.clockNs.toNat)).published = h.register.published := by
    simp only [LatestFrameBuffer.record]
    split <;> rfl
  have hdropped : (s.buffer.call
      (.readLatest afterSequence maxAgeMs s.clockNs.toNat)).dropped = s.buffer.dropped := by
    simp only [LatestFrameBuffer.call, LatestFrameBuffer.readLatest]
    split <;> rfl
  refine ⟨hs.represents.call (.readLatest afterSequence maxAgeMs s.clockNs.toNat), ?_, hs.sized, ?_⟩
  · refine hs.tallied.trans ?_
    rw [History.tally, History.tally, hpublished]
  · rw [hdropped]
    exact hs.dropped

/-- The frame is published. -/
theorem Counts.publish (hs : Counts s h) {cycle : Cycle} {frame : NdArray} {timeNs : UInt64}
    {sequence : Nat} {buffer : LatestFrameBuffer config.layout}
    (pc : s.pc = .publishing cycle frame)
    (published : s.buffer.publish frame none none timeNs.toNat s.clockNs.toNat =
      (.ok sequence, buffer)) :
    Counts { s with buffer, pc := .counting cycle }
      { h with register := s.buffer.record h.register (s.publication frame timeNs) } := by
  have hrepresents := hs.represents.call (s.publication frame timeNs)
  have hbuffer : s.buffer.call (s.publication frame timeNs) = buffer := by
    simp only [LatestFrameBuffer.call, publication, published]
  rw [hbuffer] at hrepresents
  have hregister : s.buffer.record h.register (s.publication frame timeNs) =
      h.register.publish ⟨frame, timeNs.toNat, s.clockNs.toNat⟩ := by
    simp only [LatestFrameBuffer.record, publication, published]
    rfl
  have hsize : actualSize frame = some cycle.size := by
    apply hs.sized
    rw [pc]
    rfl
  refine ⟨hrepresents, ?_, by rintro _ _ ⟨⟩, trivial⟩
  have htallied := hs.tallied
  simp only [tally, History.tally, pc, Tally.mk.injEq, Pc.uncounted, Pc.failing, Pc.rejoining,
    Pc.uncompared] at htallied
  obtain ⟨hcaptured, hfailures, hreconnects, hmismatches⟩ := htallied
  simp only [tally, History.tally, hregister, FrameRegister.publish, Tally.mk.injEq,
    List.length_append, List.filter_append]
  refine ⟨by rw [← hcaptured]; rfl, hfailures, hreconnects, ?_⟩
  rw [← hmismatches]
  by_cases hsame : cycle.size = config.resolution <;>
    simp [Pc.uncompared, Mismatched, hsize, hsame]

/-- The frame is rejected, and the buffer and its register are left as they were. -/
theorem Counts.reject (hs : Counts s h) {cycle : Cycle} {frame : NdArray} {timeNs : UInt64}
    {error : String} {buffer : LatestFrameBuffer config.layout}
    (pc : s.pc = .publishing cycle frame)
    (published : s.buffer.publish frame none none timeNs.toNat s.clockNs.toNat =
      (.error error, buffer)) :
    Counts { s with buffer, pc := .rejected }
      { h with
        register := s.buffer.record h.register (s.publication frame timeNs)
        rejected := h.rejected + 1 } := by
  obtain rfl : buffer = s.buffer := by
    rcases s.buffer.publish_cases frame none none timeNs.toNat s.clockNs.toNat with
      ⟨_, hsame⟩ | ⟨_, _, _, _, hstored⟩
    · rw [hsame] at published
      exact (Prod.mk.inj published).2.symm
    · rw [hstored] at published
      cases published
  have hregister : s.buffer.record h.register (s.publication frame timeNs) = h.register := by
    simp only [LatestFrameBuffer.record, publication, published]
  refine hs.quiet rfl hregister ?_ rfl (hs.reported pc :)
  intro htallied
  simp only [tally, History.tally, pc, Tally.mk.injEq, hregister] at htallied ⊢
  obtain ⟨hcaptured, hfailures, hreconnects, hmismatches⟩ := htallied
  exact ⟨hcaptured, congrArg (· + 1) hfailures, hreconnects, hmismatches⟩

theorem Counts.step (hs : Counts s h) (hstep : RecordedStep s h t h') : Counts t h' := by
  cases hstep with
  | tick clockNs later => exact ⟨hs.represents, hs.tallied, hs.sized, hs.dropped⟩
  | readLatest afterSequence maxAgeMs => exact hs.readLatest afterSequence maxAgeMs
  | stop => exact ⟨hs.represents, hs.tallied, hs.sized, hs.dropped⟩
  | publish cycle frame timeNs sequence buffer pc published => exact hs.publish pc published
  | reject cycle frame timeNs error buffer pc published => exact hs.reject pc published
  | read window startedNs frame size pc sized =>
    refine ⟨hs.represents, (tally_of pc).symm.trans hs.tallied, ?_, (hs.reported pc :)⟩
    intro size' frame' heq
    obtain ⟨rfl, rfl⟩ := Prod.mk.inj (Option.some.inj heq)
    exact sized
  | starting pc | head pc | leave pc | opening pc | refused pc | opened pc | frames _ pc
  | leaveFrames _ pc | timing _ pc | readShapeless _ _ _ pc | unread pc | rejected pc
  | degrading pc | windowing _ _ _ pc | pacing _ pc | late _ pc | pause _ _ pc | paused _ _ pc
  | releasing pc | raising _ pc | broken pc | leaveBroken pc | disconnecting pc | overflow _ _ pc
  | delaying _ _ pc | wait _ pc | reconnecting pc | stopping pc =>
    exact hs.same rfl rfl (tally_of pc :) rfl rfl (hs.reported pc :)
  | counting _ _ _ pc | succeeding _ _ _ _ pc =>
    exact hs.same rfl rfl (tally_of pc :) rfl rfl trivial
  | comparing cycle elapsedNs pc =>
    refine hs.same rfl rfl ((tally_of pc).trans ?_) rfl rfl trivial
    by_cases hsame : cycle.size = config.resolution <;>
      simp [tally, Pc.uncompared, hsame, Pc.uncounted, Pc.failing, Pc.rejoining,
        CameraHealth.recordResolutionMismatch]
  | dropping cycle elapsedNs pc => exact hs.same rfl rfl (tally_of pc :) rfl rfl rfl
  | reporting cycle elapsedNs count pc =>
    exact hs.same rfl rfl (tally_of pc :) rfl rfl (hs.reported pc :)
  | notOpening pc | readNothing _ _ pc | waiting _ pc =>
    refine hs.quiet rfl rfl ?_ rfl (hs.reported pc :)
    intro htallied
    simp only [tally, History.tally, pc, Tally.mk.injEq, Pc.failing] at htallied ⊢
    obtain ⟨hcaptured, hfailures, hreconnects, hmismatches⟩ := htallied
    simp only [Pc.rejoining] at hreconnects ⊢
    refine ⟨hcaptured, ?_, ?_, hmismatches⟩ <;> omega

end Counts
/-- Every capture that was opened is released, or is the one that is open; and the health shows that
the camera is away while the process backs off, and that it is stopped after the process. -/
structure Handles (s : CaptureProcess config) (h : History) : Prop where
  handles : h.opened = h.released + s.pc.openCaptures
  shows : ∀ state, s.pc.shows? = some state → s.health.state = state

section Handles
variable {s t : CaptureProcess config} {h h' : History}

theorem Handles.opened (hs : Handles s h) {pc : Pc} (hpc : s.pc = pc) :
    h.opened = h.released + pc.openCaptures := by
  rw [← hpc]
  exact hs.handles

/-- A step after which the health can show anything. -/
theorem Handles.quiet (handles : h'.opened = h'.released + t.pc.openCaptures)
    (shows : t.pc.shows? = none) : Handles t h' := by
  refine ⟨handles, ?_⟩
  rw [shows]
  nofun

/-- A step that leaves the health as it is. -/
theorem Handles.same (hs : Handles s h) {pc : Pc} (hpc : s.pc = pc)
    (handles : h'.opened = h'.released + t.pc.openCaptures) (health : t.health = s.health)
    (shows : t.pc.shows? = pc.shows?) : Handles t h' := by
  refine ⟨handles, ?_⟩
  rw [shows, health, ← hpc]
  exact hs.shows

theorem Handles.step (hs : Handles s h) (hstep : RecordedStep s h t h') : Handles t h' := by
  cases hstep with
  | tick | readLatest | stop => exact ⟨hs.handles, hs.shows⟩
  | starting pc | head pc | leave pc | notOpening pc | refused pc | opened pc | frames _ pc
  | leaveFrames _ pc | timing _ pc | readNothing _ _ pc | readShapeless _ _ _ pc | read _ _ _ _ pc
  | unread pc | publish _ _ _ _ _ pc | reject _ _ _ _ _ pc | rejected pc | degrading pc
  | counting _ _ _ pc | succeeding _ _ _ _ pc | comparing _ _ pc | dropping _ _ pc
  | reporting _ _ _ pc | windowing _ _ _ pc | pacing _ pc | late _ pc | pause _ _ pc
  | paused _ _ pc | broken pc | leaveBroken pc | overflow _ _ pc | reconnecting pc =>
    exact .quiet (hs.opened pc :) rfl
  | opening pc => exact .quiet (congrArg (· + 1) (hs.opened pc)) rfl
  | releasing pc | raising _ pc => exact .quiet (hs.opened pc :) rfl
  | disconnecting pc | stopping pc =>
    refine ⟨(hs.opened pc :), fun state hshows => ?_⟩
    exact Option.some.inj hshows
  | delaying _ _ pc | wait _ pc | waiting _ pc => exact hs.same pc (hs.opened pc :) rfl rfl

end Handles

theorem observe_accounts (config : CaptureConfig) (clockNs : UInt64) (events : List Event) :
    let o := observe config clockNs events
    Counts o.state o.history ∧ Handles o.state o.history := by
  refine Transition.recorded_invariant (I := fun s h => Counts s h ∧ Handles s h) ?_ ?_ events
  · rintro s h e t ⟨hc, hh⟩ hstep
    have hrecorded := step_recorded h hstep
    exact ⟨hc.step hrecorded, hh.step hrecorded⟩
  · exact ⟨⟨LatestFrameBuffer.empty_represents config.layout, rfl, nofun, rfl⟩, rfl, nofun⟩

/-- Over every run of a capture process the counters of the camera's health are exact, but for what
the process is about to count: they count the frames that it published, which is the sequence number
of the buffer; the captures that did not open, the reads without a frame and the rejected frames;
the back-offs that ended; and the published frames of another size. Outside of a cycle it shows the
number of frames that were replaced before the scheduler consumed them. -/
theorem health_counts (config : CaptureConfig) (clockNs : UInt64) (events : List Event) :
    let o := observe config clockNs events
    o.state.health.captured + o.state.pc.uncounted = o.state.buffer.sequence ∧
      o.state.buffer.sequence = o.history.register.published.length ∧
      o.state.health.failures + o.state.pc.failing =
        o.history.refused + o.history.unread + o.history.rejected ∧
      o.state.health.reconnects + o.state.pc.rejoining = o.history.waited ∧
      (o.state.health.resolutionMismatches +
          if o.state.pc.uncompared.any (· ≠ config.resolution) then 1 else 0) =
        (o.history.register.published.filter fun publication =>
          actualSize publication.frame ≠ some config.resolution).length ∧
      o.state.pc.Reported o.state.health.dropped o.history.register.dropped := by
  intro o
  obtain ⟨hc, -⟩ := observe_accounts config clockNs events
  obtain ⟨hcaptured, hfailures, hreconnects, hmismatches⟩ := Tally.mk.inj hc.tallied
  refine ⟨?_, hc.represents.sequence, hfailures, hreconnects, hmismatches, ?_⟩
  · rw [hc.represents.sequence]
    exact hcaptured
  · have hdropped := hc.dropped
    rwa [hc.represents.dropped] at hdropped

/-- Over every run a capture process has at most one capture open, and has released each one that it
opened before. None is open while it backs off, when the health of the camera shows that it is
disconnected, and none after it returned, when it shows that the camera is stopped. -/
theorem captures_released (config : CaptureConfig) (clockNs : UInt64) (events : List Event) :
    let o := observe config clockNs events
    o.history.opened = o.history.released + o.state.pc.openCaptures ∧
      o.state.pc.openCaptures ≤ 1 ∧
      ∀ state, o.state.pc.shows? = some state →
        o.state.health.state = state ∧ o.history.opened = o.history.released := by
  intro o
  obtain ⟨-, hh⟩ := observe_accounts config clockNs events
  refine ⟨hh.handles, ?_, fun state hshows => ⟨hh.shows state hshows, ?_⟩⟩
  · unfold Pc.openCaptures
    split <;> decide
  · have hclosed : o.state.pc.openCaptures = 0 := by
      cases hpc : o.state.pc <;> rw [hpc] at hshows <;> first | rfl | cases hshows
    have hhandles : o.history.opened = o.history.released + o.state.pc.openCaptures := hh.handles
    rw [hhandles, hclosed, Nat.add_zero]

end EdgeSafety.CaptureProcess
