import EdgeSafety.Capture.CaptureAccounts

/-!
# Stopping a capture process

Once the stop event is set no step of the process waits, and every step brings it nearer to its end
(`Pc.left`). On this way it publishes at most the frame that it is about to publish, and opens at
most the capture that it is about to open.
-/

namespace EdgeSafety.CaptureProcess

variable {config : CaptureConfig}

namespace Pc

/-- The steps to the end, at most, with the stop event set. -/
def left : Pc → Nat
  | .ended | .raised _ => 0
  | .stopping => 1
  | .head => 2
  | .starting | .reconnecting | .broken => 3
  | .waiting _ | .releasing _ => 4
  | .wait _ | .frames _ | .degrading | .unread => 5
  | .delaying | .paused _ _ | .opened | .rejected => 6
  | .disconnecting | .pause _ _ => 7
  | .refused | .pacing _ => 8
  | .opening | .windowing _ _ => 9
  | .reporting _ _ _ => 10
  | .dropping _ _ => 11
  | .comparing _ _ => 12
  | .succeeding _ _ => 13
  | .counting _ => 14
  | .publishing _ _ => 15
  | .reading _ _ => 16
  | .timing _ => 17

/-- The frame that can still be published. -/
def publishes : Pc → Nat
  | .timing _ | .reading _ _ | .publishing _ _ => 1
  | _ => 0

/-- The capture that can still be opened. -/
def opens : Pc → Nat
  | .opening => 1
  | _ => 0

theorem left_le (pc : Pc) : pc.left ≤ 17 := by
  cases pc <;> simp [left]

end Pc

/-- The event is a step of the process. -/
def Event.isProcess : Event → Bool
  | .process _ => true
  | _ => false

/-- What a stopped process can still do: `left` bounds its steps, `published` the frames and
`opened` the captures. -/
structure Closing (left published opened : Nat) (s : CaptureProcess config) (h : History) :
    Prop where
  stopped : s.stopEvent = true
  left : s.pc.left ≤ left
  published : h.register.published.length + s.pc.publishes ≤ published
  opened : h.opened + s.pc.opens ≤ opened

section Closing
variable {s t : CaptureProcess config} {h h' : History} {left published opened : Nat}

/-- A step of the process is possible until it ends. -/
theorem exists_advance (hstopped : s.stopEvent = true) (hleft : s.pc.left ≠ 0) (answer : Answer) :
    ∃ t, s.advance answer = some t := by
  unfold advance
  cases hpc : s.pc with
  | ended | raised => exact absurd (by rw [hpc]; rfl) hleft
  | reading window startedNs =>
    dsimp only
    split
    · exact ⟨_, rfl⟩
    · split <;> exact ⟨_, rfl⟩
  | publishing cycle frame =>
    dsimp only
    split <;> exact ⟨_, rfl⟩
  | paused window deadlineNs => exact ⟨_, if_pos (.inl hstopped)⟩
  | waiting deadlineNs => exact ⟨_, if_pos (.inl hstopped)⟩
  | releasing error => cases error <;> exact ⟨_, rfl⟩
  | delaying =>
    dsimp only
    split <;> exact ⟨_, rfl⟩
  | _ => exact ⟨_, rfl⟩

/-- With the stop event set a step of the process brings it nearer to its end. -/
theorem left_advance (hstopped : s.stopEvent = true) {answer : Answer}
    (hstep : s.advance answer = some t) : t.stopEvent = true ∧ t.pc.left < s.pc.left := by
  unfold advance at hstep
  cases hpc : s.pc with
  | ended | raised => simp [hpc] at hstep
  | head | frames | broken =>
    simp only [hpc, hstopped, if_true] at hstep
    obtain rfl := Option.some.inj hstep
    exact ⟨rfl, by simp [Pc.left]⟩
  | opening =>
    simp only [hpc] at hstep
    obtain rfl := Option.some.inj hstep
    refine ⟨hstopped, ?_⟩
    dsimp only
    split <;> decide
  | reading window startedNs =>
    simp only [hpc] at hstep
    split at hstep
    · obtain rfl := Option.some.inj hstep
      exact ⟨hstopped, by simp [Pc.left]⟩
    · split at hstep <;> obtain rfl := Option.some.inj hstep <;>
        exact ⟨hstopped, by simp [Pc.left]⟩
  | publishing cycle frame =>
    simp only [hpc] at hstep
    split at hstep <;> obtain rfl := Option.some.inj hstep <;>
      exact ⟨hstopped, by simp [Pc.left]⟩
  | pacing cycle =>
    simp only [hpc] at hstep
    obtain rfl := Option.some.inj hstep
    refine ⟨hstopped, ?_⟩
    dsimp only
    split <;> simp [Pc.left]
  | paused window deadlineNs | waiting deadlineNs =>
    simp only [hpc, hstopped, true_or, if_true] at hstep
    obtain rfl := Option.some.inj hstep
    exact ⟨rfl, by simp [Pc.left]⟩
  | releasing error =>
    cases error <;> simp only [hpc] at hstep <;> obtain rfl := Option.some.inj hstep <;>
      exact ⟨hstopped, by simp [Pc.left]⟩
  | delaying =>
    simp only [hpc] at hstep
    split at hstep <;> obtain rfl := Option.some.inj hstep <;>
      exact ⟨hstopped, by simp [Pc.left]⟩
  | _ =>
    simp only [hpc] at hstep
    obtain rfl := Option.some.inj hstep
    exact ⟨hstopped, by simp [Pc.left]⟩

/-- With the stop event set no step adds to the frames that the process published or is to publish,
nor to the captures. -/
theorem closing_recorded (hstopped : s.stopEvent = true) (hstep : RecordedStep s h t h') :
    h'.register.published.length + t.pc.publishes ≤
        h.register.published.length + s.pc.publishes ∧
      h'.opened + t.pc.opens ≤ h.opened + s.pc.opens := by
  cases hstep with
  | tick | stop => exact ⟨le_refl _, le_refl _⟩
  | readLatest afterSequence maxAgeMs =>
    refine ⟨?_, le_refl _⟩
    simp only [LatestFrameBuffer.record]
    split <;> exact le_refl _
  | head pc goes | frames _ pc goes =>
    rw [hstopped] at goes
    cases goes
  | publish cycle frame timeNs sequence buffer pc published
  | reject cycle frame timeNs error buffer pc published =>
    simp only [LatestFrameBuffer.record, publication, published, pc]
    simp [Pc.publishes, Pc.opens, FrameRegister.publish]
  | starting pc | leave pc | opening pc | notOpening pc | refused pc | opened pc | leaveFrames _ pc
  | timing _ pc | readNothing _ _ pc | readShapeless _ _ _ pc | read _ _ _ _ pc | unread pc
  | rejected pc | degrading pc | counting _ _ _ pc | succeeding _ _ _ _ pc | comparing _ _ pc
  | dropping _ _ pc | reporting _ _ _ pc | windowing _ _ _ pc | pacing _ pc | late _ pc
  | pause _ _ pc | paused _ _ pc | releasing pc | raising _ pc | broken pc | leaveBroken pc
  | disconnecting pc | overflow _ _ pc | delaying _ _ pc | wait _ pc | waiting _ pc
  | reconnecting pc | stopping pc =>
    simp [pc, Pc.publishes, Pc.opens]

theorem Closing.step (hs : Closing left published opened s h) {e : Event}
    (hstep : s.step e = some t) :
    Closing (left - if e.isProcess then 1 else 0) published opened t (h.record s e) := by
  obtain ⟨hpublished, hopened⟩ := closing_recorded hs.stopped (step_recorded h hstep)
  have hp := hs.published
  have ho := hs.opened
  have hl := hs.left
  cases e with
  | process answer =>
    obtain ⟨hstopped, hless⟩ := left_advance hs.stopped hstep
    refine ⟨hstopped, ?_, hpublished.trans hp, hopened.trans ho⟩
    simp only [Event.isProcess, if_true]
    omega
  | tick clockNs =>
    simp only [CaptureProcess.step] at hstep
    split at hstep
    · obtain rfl := Option.some.inj hstep
      exact ⟨hs.stopped, hl, hpublished.trans hp, hopened.trans ho⟩
    · cases hstep
  | readLatest | stop =>
    obtain rfl := Option.some.inj hstep
    exact ⟨by first | exact hs.stopped | rfl, hl, hpublished.trans hp, hopened.trans ho⟩

/-- Where no step is possible, the process has ended. -/
theorem Closing.idle (hs : Closing left published opened s h) {e : Event}
    (hstep : s.step e = none) :
    Closing (left - if e.isProcess then 1 else 0) published opened s h := by
  have hl := hs.left
  refine { hs with left := ?_ }
  cases e with
  | process answer =>
    by_cases hzero : s.pc.left = 0
    · omega
    · obtain ⟨t, ht⟩ := exists_advance hs.stopped hzero answer
      rw [show s.step (.process answer) = s.advance answer from rfl, ht] at hstep
      cases hstep
  | tick | readLatest | stop => exact hl

end Closing

/-- A run with the stop event set. -/
theorem Closing.exec {left published opened : Nat}
    (o : Transition.Recorded (CaptureProcess config) History)
    (hs : Closing left published opened o.state o.history) (events : List Event) :
    let later := Transition.exec (Transition.recorded CaptureProcess.step History.record) o events
    Closing (left - events.countP Event.isProcess) published opened later.state later.history := by
  induction events generalizing left o with
  | nil => exact hs
  | cons e events ih =>
    have hnext : Closing (left - if e.isProcess then 1 else 0) published opened
        ((Transition.recorded CaptureProcess.step History.record o e).getD o).state
        ((Transition.recorded CaptureProcess.step History.record o e).getD o).history := by
      cases hstep : o.state.step e with
      | none =>
        rw [Transition.recorded, hstep]
        exact hs.idle hstep
      | some t =>
        rw [Transition.recorded_of_step hstep]
        exact hs.step hstep
    have hrest := ih _ hnext
    rw [List.countP_cons, add_comm, ← Nat.sub_sub]
    exact hrest

/-- However a run goes on after the stop event is set: the process publishes at most one more frame
and opens at most one more capture. After 17 more steps it has ended, all its captures are released,
and the camera is stopped unless an exception ended it. -/
theorem stop_ends (config : CaptureConfig) (clockNs : UInt64) (events later : List Event) :
    let before := (observe config clockNs events).history
    let o := observe config clockNs (events ++ .stop :: later)
    o.history.register.published.length ≤ before.register.published.length + 1 ∧
      o.history.opened ≤ before.opened + 1 ∧
      (17 ≤ later.countP Event.isProcess →
        (o.state.pc = .ended ∧ o.state.health.state = .stopped ∨
          ∃ error, o.state.pc = .raised error) ∧
        o.history.opened = o.history.released) := by
  intro before o
  have hsplit : o = Transition.exec (Transition.recorded step History.record)
      ⟨{ (observe config clockNs events).state with stopEvent := true }, before⟩ later :=
    Transition.exec_append _ events (.stop :: later)
  have hclosing : Closing 17 (before.register.published.length + 1) (before.opened + 1)
      { (observe config clockNs events).state with stopEvent := true } before := by
    refine ⟨rfl, Pc.left_le _, ?_, ?_⟩
    · refine Nat.add_le_add_left ?_ _
      unfold Pc.publishes
      split <;> decide
    · refine Nat.add_le_add_left ?_ _
      unfold Pc.opens
      split <;> decide
  have hend := Closing.exec ⟨_, before⟩ hclosing later
  rw [← hsplit] at hend
  refine ⟨(Nat.le_add_right _ _).trans hend.published, (Nat.le_add_right _ _).trans hend.opened, ?_⟩
  intro hcount
  obtain ⟨hhandles, -, hshows⟩ := captures_released config clockNs (events ++ .stop :: later)
  have hleft : o.state.pc.left = 0 := by
    have hle := hend.left
    omega
  change o.history.opened = o.history.released + o.state.pc.openCaptures at hhandles
  cases hpc : o.state.pc with
  | ended =>
    obtain ⟨hstate, hclosed⟩ := hshows .stopped (by
      change o.state.pc.shows? = _
      rw [hpc]
      rfl)
    exact ⟨.inl ⟨rfl, hstate⟩, hclosed⟩
  | raised error =>
    rw [hpc] at hhandles
    exact ⟨.inr ⟨error, rfl⟩, hhandles⟩
  | _ => simp [hpc, Pc.left] at hleft

end EdgeSafety.CaptureProcess
