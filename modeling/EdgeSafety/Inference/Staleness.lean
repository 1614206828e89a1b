import EdgeSafety.Inference.Integrity

/-!
# Frames nobody looked at

`_last_sequences` should advance to frames that `read_latest` returned or judged stale. Where a
frame was judged stale, however, `_collect_batch` reads `buffer.sequence` in a second locked
section: a frame published between the two is skipped without anyone having looked at it. A run
skips no frame exactly when each of these readings finds the buffer as it was judged
(`noFrameSkipped_iff`).
-/

namespace EdgeSafety.SharedInferenceScheduler

variable {n : Nat} {setup : SchedulerSetup n} {Output : Type}

/-- `_last_sequences` stands at a frame that was looked at, or at none, and the newest frame is
still ahead of it unless it was looked at. -/
def NoFrameSkipped (o : Observed setup Output) : Prop :=
  ∀ camera, (o.state.lastSequences camera = 0 ∨
      o.state.lastSequences camera ∈ (o.history.registers camera).consumed) ∧
    ((o.history.registers camera).Pending →
      o.state.lastSequences camera < (o.history.registers camera).published.length)

instance (o : Observed setup Output) : Decidable (NoFrameSkipped o) :=
  inferInstanceAs (Decidable (∀ _, _))

/-- If the step is the second reading of `buffer.sequence`, it finds the frame that was judged. -/
def RereadsJudged (o : Observed setup Output) (e : Event n Output) : Prop :=
  match e, o.state.pc with
  | .scheduler, .resequence x _ =>
    (o.state.buffers x.camera).sequence = (o.state.buffers x.camera).consumedSequence
  | _, _ => True

instance (o : Observed setup Output) (e : Event n Output) : Decidable (RereadsJudged o e) := by
  unfold RereadsJudged
  split <;> infer_instance

/-- Once the stale counter has moved, a frame was judged. -/
def Pc.Judged (stale consumed : Fin n → Nat) : Pc n Output → Prop
  | .afterStale x before _ => before < stale x.camera → 0 < consumed x.camera
  | .resequence x _ => 0 < consumed x.camera
  | _ => True

/-- Every frame the scheduler stands at was looked at. -/
structure LookedAt (s : State setup Output) (h : History n Output) : Prop where
  lastSequences : ∀ camera, s.lastSequences camera = 0 ∨
    s.lastSequences camera ∈ (h.registers camera).consumed
  packet : ∀ x p, s.pc.examining = some x → s.pc.packet = some p →
    p.frameId ∈ (h.registers x.camera).consumed
  judged : s.pc.Judged (fun camera => (s.buffers camera).stale)
    fun camera => (s.buffers camera).consumedSequence

theorem init_lookedAt (setup : SchedulerSetup n) (clockNs : UInt64) :
    LookedAt (State.init setup Output clockNs) History.empty where
  lastSequences _ := Or.inl rfl
  packet _ _ h := by cases h
  judged := trivial

section Step
variable {s t : State setup Output} {h h' : History n Output}

/-- A step outside an examination that only extends what was looked at. -/
theorem LookedAt.outside (hs : LookedAt s h) (lastSequences : t.lastSequences = s.lastSequences)
    (registers : h'.registers = h.registers) (examining : t.pc.examining = none) :
    LookedAt t h' where
  lastSequences := by
    rw [lastSequences, registers]
    exact hs.lastSequences
  packet x _ hx := by simp [examining] at hx
  judged := by
    cases hpc : t.pc <;> simp_all [Pc.examining, Pc.Judged]

/-- A call consumes frames and never takes one back. -/
theorem consumed_call (s : State setup Output) (h : History n Output) (camera : Fin n)
    (c : LatestFrameBuffer.Call) (other : Fin n) :
    (h.registers other).consumed ⊆ ((h.call s camera c).registers other).consumed := by
  by_cases hother : other = camera
  · subst hother
    simp only [History.call, Function.update_self]
    exact LatestFrameBuffer.consumed_subset_record _ _ c
  · simp only [History.call, Function.update_of_ne hother]
    exact Finset.Subset.refl _

theorem LookedAt.publish (hs : LookedAt s h) (camera : Fin n) (frame : NdArray)
    (timeNs : UInt64) :
    LookedAt (s.callBuffer camera (s.publishCall frame timeNs))
      (h.call s camera (s.publishCall frame timeNs)) where
  lastSequences other :=
    (hs.lastSequences other).imp_right fun hmem => consumed_call s h camera _ other hmem
  packet x p hx hp := consumed_call s h camera _ x.camera (hs.packet x p hx hp)
  judged := by
    have hbuffers := publishCall_buffers s camera frame timeNs
    simp only [(hbuffers _).2.1, (hbuffers _).2.2]
    exact hs.judged

theorem LookedAt.read (hs : LookedAt s h) (hr : Sourced s h) (ho : Ordered s h)
    {x : Examination n} {before : Nat} (hpc : s.pc = .read x before) :
    LookedAt { s.callBuffer x.camera (s.readCall x.camera) with
      pc := .afterStale x before (s.readPacket x.camera) } (h.read s x.camera) where
  lastSequences other :=
    (hs.lastSequences other).imp_right fun hmem => consumed_call s h x.camera _ other hmem
  packet y p hy hp := by
    obtain rfl : x = y := Option.some.inj hy
    have hp : s.readPacket x.camera = some p := hp
    obtain ⟨hfresh, rfl⟩ := LatestFrameBuffer.readLatest_eq_some hp
    have hread : (h.read s x.camera).registers x.camera = (h.registers x.camera).consume := by
      simp [History.read, History.call, State.readCall, LatestFrameBuffer.record, hfresh]
    rw [hread]
    change (s.buffers x.camera).sequence ∈ insert _ (h.registers x.camera).consumed
    rw [(hr.represents x.camera).sequence]
    exact Finset.mem_insert_self _ _
  judged := by
    intro hmoved
    have hknown := ho.staleKnown
    rw [hpc] at hknown
    change before < ((s.callBuffer x.camera (s.readCall x.camera)).buffers x.camera).stale
      at hmoved
    change 0 < ((s.callBuffer x.camera (s.readCall x.camera)).buffers x.camera).consumedSequence
    rcases readCall_cases s x.camera with ⟨-, hsame⟩ | ⟨hpos, -, -, -, hconsumed⟩
    · rw [hsame, show before = _ from hknown] at hmoved
      exact absurd hmoved (lt_irrefl _)
    · rw [hconsumed]
      exact hpos

theorem LookedAt.takePacket (hs : LookedAt s h) {x : Examination n}
    (packet : Option FramePacket)
    (hpacket : ∀ p, packet = some p → p.frameId ∈ (h.registers x.camera).consumed) :
    LookedAt (s.takePacket x packet) h := by
  cases packet with
  | none => exact hs.outside rfl rfl rfl
  | some p =>
    refine ⟨hs.lastSequences, ?_, trivial⟩
    intro y q hy hq
    obtain rfl : x = y := Option.some.inj hy
    obtain rfl : p = q := Option.some.inj hq
    exact hpacket p rfl

theorem LookedAt.compareStale (hs : LookedAt s h) {x : Examination n} {before : Nat}
    {packet : Option FramePacket} (hpc : s.pc = .afterStale x before packet) :
    LookedAt (s.compareStale x before packet) h := by
  have hpacket : ∀ p, packet = some p → p.frameId ∈ (h.registers x.camera).consumed := by
    intro p hp
    refine hs.packet x p ?_ ?_ <;> rw [hpc]
    · rfl
    · exact hp
  have hjudged := hs.judged
  rw [hpc] at hjudged
  unfold State.compareStale
  split
  · next hmoved =>
    refine ⟨hs.lastSequences, fun y p hy hp => ?_, hjudged hmoved⟩
    obtain rfl : x = y := Option.some.inj hy
    exact hpacket p hp
  · exact hs.takePacket packet hpacket

/-- A reading of `buffer.sequence` that finds the judged frame stands at a frame looked at. -/
theorem LookedAt.resequence (hs : LookedAt s h) (hr : Sourced s h) {x : Examination n}
    {packet : Option FramePacket} (hpc : s.pc = .resequence x packet)
    (hsame : (s.buffers x.camera).sequence = (s.buffers x.camera).consumedSequence) :
    LookedAt (s.resequence x packet) h := by
  have hjudged := hs.judged
  rw [hpc] at hjudged
  apply LookedAt.takePacket
  · refine ⟨fun camera => ?_, hs.packet, hs.judged⟩
    change Function.update s.lastSequences x.camera _ camera = 0 ∨
      Function.update s.lastSequences x.camera _ camera ∈ _
    by_cases hcamera : camera = x.camera
    · subst hcamera
      rw [Function.update_self, hsame]
      exact Or.inr ((hr.represents x.camera).consumedSequence_mem hjudged)
    · rw [Function.update_of_ne hcamera]
      exact hs.lastSequences camera
  · intro p hp
    refine hs.packet x p ?_ ?_ <;> rw [hpc]
    · rfl
    · exact hp

theorem LookedAt.pick (hs : LookedAt s h) {x : Examination n} {packet : FramePacket}
    (hpc : s.pc = .picked x packet) (registers : h'.registers = h.registers) :
    LookedAt (s.pick x packet) h' := by
  refine ⟨fun camera => ?_, (fun _ _ h => by cases h), trivial⟩
  change Function.update s.lastSequences x.camera _ camera = 0 ∨
    Function.update s.lastSequences x.camera _ camera ∈ _
  rw [registers]
  by_cases hcamera : camera = x.camera
  · subst hcamera
    rw [Function.update_self]
    exact Or.inr (hs.packet x packet (by rw [hpc]; rfl) (by rw [hpc]; rfl))
  · rw [Function.update_of_ne hcamera]
    exact hs.lastSequences camera

theorem LookedAt.collect (hs : LookedAt s h) (batch : List FramePacket) (checked : Nat)
    (registers : h'.registers = h.registers) : LookedAt (s.collect batch checked) h' := by
  obtain ⟨hlast, -, -⟩ := collect_lastSequences s batch checked
  rcases collect_cases s batch checked with hnone | ⟨x, hpc, -⟩
  · exact hs.outside hlast registers hnone
  · refine ⟨?_, fun _ _ _ hp => ?_, ?_⟩
    · rw [hlast, registers]
      exact hs.lastSequences
    · rw [hpc] at hp
      cases hp
    · rw [hpc]
      exact trivial

theorem LookedAt.after (hs : LookedAt s h) (ho : Outside s h t h') : LookedAt t h' :=
  hs.outside ho.lastSequences ho.registers ho.examining

theorem LookedAt.step {e : Event n Output} (hs : LookedAt s h) (hr : Sourced s h)
    (ho : Ordered s h) (hok : RereadsJudged ⟨s, h⟩ e) (hstep : s.step e = some t) :
    LookedAt t (h.record s e) := by
  have hrecorded := step_recorded h hstep
  generalize h.record s e = h' at hrecorded ⊢
  cases hrecorded with
  | tick clockNs le => exact ⟨hs.lastSequences, hs.packet, hs.judged⟩
  | publish camera frame timeNs => exact hs.publish camera frame timeNs
  | getResult first rest results => exact ⟨hs.lastSequences, hs.packet, hs.judged⟩
  | receive batch outcome pc => exact hs.after (outside_receive s h batch outcome)
  | checkCircuit pc =>
    unfold State.checkCircuit
    split
    · exact hs
    · exact hs.outside rfl rfl rfl
  | collect batch checked pc =>
    simp only [History.advance, pc]
    exact hs.collect batch checked (by split <;> rfl)
  | beforeStale x pc => exact ⟨hs.lastSequences, fun _ _ _ hp => (by cases hp), trivial⟩
  | read x before pc => exact hs.read hr ho pc
  | compareStale x before packet pc => exact hs.compareStale pc
  | resequence x packet pc =>
    simp only [RereadsJudged, pc] at hok
    exact hs.resequence hr pc hok
  | pick x packet pc => exact hs.pick pc rfl
  | fail pc => exact hs.after (outside_fail s h)
  | deliver remaining count pc => exact hs.after (outside_deliver s h remaining count)
  | put result remaining count pc => exact hs.after (outside_put s h result remaining count)
  | evict result remaining count pc => exact hs.after (outside_evict s h result remaining count)
  | enqueue result remaining count pc => exact hs.after (outside_enqueue h pc)

/-- Standing at frames that were looked at, the scheduler skips none. -/
theorem LookedAt.noFrameSkipped (hs : LookedAt s h) (hr : Sourced s h) :
    NoFrameSkipped ⟨s, h⟩ := by
  intro camera
  refine ⟨hs.lastSequences camera, fun ⟨hpos, hfresh⟩ => ?_⟩
  rcases hs.lastSequences camera with hzero | hmem
  · exact hzero ▸ hpos
  · have hr := hr.represents camera
    have hle := (Finset.mem_Icc.mp (hr.consumed_subset hmem)).2
    refine lt_of_le_of_ne (hle.trans (hr.consumedSequence_le.trans hr.sequence.le)) ?_
    intro heq
    exact hfresh (heq ▸ hmem)

/-- A second reading that finds a newer frame stands at a frame nobody looked at. -/
theorem skipped_of_reread {e : Event n Output} (hr : Sourced s h)
    (hbad : ¬ RereadsJudged ⟨s, h⟩ e) (hstep : s.step e = some t) :
    ¬ NoFrameSkipped ⟨t, h.record s e⟩ := by
  unfold RereadsJudged at hbad
  split at hbad
  · next x packet hpc =>
    change s.pc = .resequence x packet at hpc
    change (s.buffers x.camera).sequence ≠ (s.buffers x.camera).consumedSequence at hbad
    have hrep := hr.represents x.camera
    simp only [State.step, State.advance, hpc, Option.some.injEq] at hstep
    subst hstep
    intro hgood
    have hlast : (s.resequence x packet).lastSequences x.camera =
        (s.buffers x.camera).sequence := by
      unfold State.resequence State.takePacket
      cases packet <;> exact Function.update_self ..
    rcases (hgood x.camera).1 with hzero | hmem
    · rw [hlast] at hzero
      have := hrep.consumedSequence_le
      omega
    · rw [hlast] at hmem
      simp only [History.record, History.advance, hpc] at hmem
      have := (Finset.mem_Icc.mp (hrep.consumed_subset hmem)).2
      have := hrep.consumedSequence_le
      omega
  · exact absurd trivial hbad

end Step

/-- A run skips no frame exactly when every second reading of `buffer.sequence` finds the frame
that was judged stale. -/
theorem noFrameSkipped_iff (setup : SchedulerSetup n) (clockNs : UInt64)
    (events : List (Event n Output)) :
    (∀ x ∈ Transition.steps Observed.step (Observed.init setup Output clockNs) events,
      NoFrameSkipped x.target) ↔
    ∀ x ∈ Transition.steps Observed.step (Observed.init setup Output clockNs) events,
      RereadsJudged x.source x.event := by
  apply Transition.everyTarget_iff (I := fun o : Observed setup Output =>
    Sourced o.state o.history ∧ Ordered o.state o.history ∧ LookedAt o.state o.history)
  · intro o e u ⟨hr, ho, hs⟩ hok hstep
    obtain ⟨t, ht, rfl⟩ := Transition.recorded_cases hstep
    have hs' := hs.step hr ho hok ht
    exact ⟨⟨hr.step ht, ho.step ht, hs'⟩, hs'.noFrameSkipped (hr.step ht)⟩
  · intro o e u ⟨hr, _, _⟩ hbad hstep
    obtain ⟨t, ht, rfl⟩ := Transition.recorded_cases hstep
    exact skipped_of_reread hr hbad ht
  · exact ⟨init_sourced setup clockNs, init_ordered setup clockNs, init_lookedAt setup clockNs⟩

/-- A scheduler for one camera of a single pixel. -/
def pixelSetup : SchedulerSetup 1 where
  layout := fun _ => LatestFrameBuffer.pixelLayout
  cameraId_injective := fun _ _ _ => Subsingleton.elim _ _
  configuration := {}
  analyticsFps := fun _ => none

/-- The first frame is judged stale, and the second is published before the scheduler reads the
sequence number again. -/
def publishInGap : List (Event 1 Unit) :=
  [.publish 0 (LatestFrameBuffer.pixel 1 1 1) 1, .tick 600000001, .scheduler, .scheduler,
    .scheduler, .scheduler, .scheduler, .publish 0 (LatestFrameBuffer.pixel 2 2 2) 600000001,
    .scheduler]

/-- In that run the second frame is skipped: nobody has looked at it, and it is not ahead of
`_last_sequences`. -/
theorem publishInGap_skips :
    let o := observe pixelSetup 1 publishInGap
    o.state.lastSequences 0 = 2 ∧ (o.history.registers 0).consumed = {1} ∧
      (o.history.registers 0).published.length = 2 ∧ ¬ NoFrameSkipped o := by
  decide +kernel

end EdgeSafety.SharedInferenceScheduler
