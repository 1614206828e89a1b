import EdgeSafety.Inference.History

/-!
# The order of picks

`Ordered` relates `_last_sequences` and `_last_scheduled_ns` to the picks made so far: they bound
the frame numbers and the times of a camera's picks, so that a packet in hand, which is newer than
`_last_sequences` and was examined when its camera was due, comes after all of them. A publish may
fall between any two steps: it only raises the sequence number of a buffer.
-/

namespace EdgeSafety.SharedInferenceScheduler

variable {n : Nat} {setup : SchedulerSetup n} {Output : Type}

namespace Pc

/-- The packet in hand. -/
def packet : Pc n Output → Option FramePacket
  | .afterStale _ _ packet | .resequence _ packet => packet
  | .picked _ packet => some packet
  | _ => none

/-- What is known of the stale counters, which no other thread changes. -/
def StaleKnown (stale : Fin n → Nat) : Pc n Output → Prop
  | .read x before => before = stale x.camera
  | .afterStale x before (some _) => before = stale x.camera
  | .resequence _ packet => packet = none
  | _ => True

end Pc

/-- The first pick of a camera comes before the second: its frame is older, and an analytics
interval lies between them. -/
def Precedes (setup : SchedulerSetup n) (first second : Pick n) : Prop :=
  first.camera = second.camera →
    first.packet.frameId < second.packet.frameId ∧
      first.clockNs + setup.intervalNs first.camera ≤ second.clockNs

/-- The packet is newer than anything the scheduler took from the camera. -/
structure InHand (s : State setup Output) (h : History n Output) (camera : Fin n)
    (packet : FramePacket) : Prop where
  cameraId : packet.cameraId = (setup.layout camera).cameraId
  newer : s.lastSequences camera < packet.frameId
  available : packet.frameId ≤ (s.buffers camera).sequence
  read : packet ∈ h.reads.map Read.packet

/-- The picks made so far are in order. -/
structure Ordered (s : State setup Output) (h : History n Output) : Prop where
  lastSequences_le : ∀ camera, s.lastSequences camera ≤ (s.buffers camera).sequence
  lastScheduled_le : ∀ camera, s.lastScheduledNs camera ≤ s.clockNs.toNat
  picks_le : ∀ pick ∈ h.picks, pick.packet.frameId ≤ s.lastSequences pick.camera ∧
    pick.clockNs ≤ s.lastScheduledNs pick.camera
  picks_read : ∀ pick ∈ h.picks, pick.packet.cameraId = (setup.layout pick.camera).cameraId ∧
    pick.packet ∈ h.reads.map Read.packet
  picks_ordered : h.picks.Pairwise (Precedes setup)
  due : ∀ x, s.pc.examining = some x → ¬ s.NotDue x.camera
  inHand : ∀ x packet, s.pc.examining = some x → s.pc.packet = some packet →
    InHand s h x.camera packet
  staleKnown : s.pc.StaleKnown fun camera => (s.buffers camera).stale

theorem init_ordered (setup : SchedulerSetup n) (clockNs : UInt64) :
    Ordered (State.init setup Output clockNs) History.empty where
  lastSequences_le _ := Nat.zero_le _
  lastScheduled_le _ := Nat.zero_le _
  picks_le _ h := absurd h List.not_mem_nil
  picks_read _ h := absurd h List.not_mem_nil
  picks_ordered := List.Pairwise.nil
  due _ h := by cases h
  inHand _ _ h := by cases h
  staleKnown := trivial

/-- A camera that is due stays due as the clock advances. -/
theorem notDue_of_tick {s : State setup Output} {clockNs : UInt64} (hle : s.clockNs ≤ clockNs)
    {camera : Fin n} (h : State.NotDue { s with clockNs := clockNs } camera) :
    s.NotDue camera := by
  have htoNat : s.clockNs.toNat ≤ clockNs.toNat := UInt64.le_iff_toNat_le.mp hle
  obtain ⟨hinterval, hsince⟩ := h
  refine ⟨hinterval, ?_⟩
  simp only at hsince
  omega

section Step
variable {s t : State setup Output} {h h' : History n Output}

/-- A packet stays in hand while publishes raise the sequence number. -/
theorem InHand.mono {camera : Fin n} {packet : FramePacket} (hs : InHand s h camera packet)
    (lastSequences : t.lastSequences = s.lastSequences)
    (sequence : (s.buffers camera).sequence ≤ (t.buffers camera).sequence)
    (reads : h'.reads = h.reads) : InHand t h' camera packet where
  cameraId := hs.cameraId
  newer := lastSequences ▸ hs.newer
  available := hs.available.trans sequence
  read := reads ▸ hs.read

/-- A step that ends outside an examination and touches nothing the order is about. -/
theorem Ordered.outside (hs : Ordered s h) (clock : t.clockNs = s.clockNs)
    (buffers : t.buffers = s.buffers) (lastSequences : t.lastSequences = s.lastSequences)
    (lastScheduled : t.lastScheduledNs = s.lastScheduledNs) (picks : h'.picks = h.picks)
    (reads : h'.reads = h.reads) (examining : t.pc.examining = none) : Ordered t h' where
  lastSequences_le := by
    rw [lastSequences, buffers]
    exact hs.lastSequences_le
  lastScheduled_le := by
    rw [lastScheduled, clock]
    exact hs.lastScheduled_le
  picks_le := by
    rw [picks, lastSequences, lastScheduled]
    exact hs.picks_le
  picks_read := by
    rw [picks, reads]
    exact hs.picks_read
  picks_ordered := by
    rw [picks]
    exact hs.picks_ordered
  due x hx := by simp [examining] at hx
  inHand x _ hx := by simp [examining] at hx
  staleKnown := by
    cases hpc : t.pc <;> simp_all [Pc.examining, Pc.StaleKnown]

theorem Ordered.tick (hs : Ordered s h) {clockNs : UInt64} (hle : s.clockNs ≤ clockNs) :
    Ordered { s with clockNs := clockNs } h where
  lastSequences_le := hs.lastSequences_le
  lastScheduled_le camera :=
    (hs.lastScheduled_le camera).trans (UInt64.le_iff_toNat_le.mp hle)
  picks_le := hs.picks_le
  picks_read := hs.picks_read
  picks_ordered := hs.picks_ordered
  due x hx hdue := hs.due x hx (notDue_of_tick hle hdue)
  inHand x packet hx hpacket := (hs.inHand x packet hx hpacket).mono rfl le_rfl rfl
  staleKnown := hs.staleKnown

/-- A publish may fall anywhere: it only raises a sequence number. -/
theorem publishCall_buffers (s : State setup Output) (camera : Fin n) (frame : NdArray)
    (timeNs : UInt64) (other : Fin n) :
    let t := s.callBuffer camera (s.publishCall frame timeNs)
    (s.buffers other).sequence ≤ (t.buffers other).sequence ∧
      (t.buffers other).stale = (s.buffers other).stale ∧
      (t.buffers other).consumedSequence = (s.buffers other).consumedSequence := by
  by_cases hother : other = camera
  · subst hother
    simp only [State.callBuffer, Function.update_self]
    exact ⟨LatestFrameBuffer.sequence_le_publish _ _ _ _ _ _,
      LatestFrameBuffer.publish_consumed _ _ _ _ _ _⟩
  · simp [State.callBuffer, Function.update_of_ne hother]

theorem Ordered.publish (hs : Ordered s h) (camera : Fin n) (frame : NdArray)
    (timeNs : UInt64) :
    Ordered (s.callBuffer camera (s.publishCall frame timeNs))
      (h.call s camera (s.publishCall frame timeNs)) where
  lastSequences_le other :=
    (hs.lastSequences_le other).trans (publishCall_buffers s camera frame timeNs other).1
  lastScheduled_le := hs.lastScheduled_le
  picks_le := hs.picks_le
  picks_read := hs.picks_read
  picks_ordered := hs.picks_ordered
  due := hs.due
  inHand x packet hx hpacket := (hs.inHand x packet hx hpacket).mono rfl
    (publishCall_buffers s camera frame timeNs x.camera).1 rfl
  staleKnown := by
    have hstale : (fun other => ((s.callBuffer camera (s.publishCall frame timeNs)).buffers
        other).stale) = fun other => (s.buffers other).stale :=
      funext fun other => (publishCall_buffers s camera frame timeNs other).2.1
    rw [hstale]
    exact hs.staleKnown

/-- The head of the loop begins an examination only of a camera that is due. -/
theorem collect_cases (s : State setup Output) (batch : List FramePacket) (checked : Nat) :
    (s.collect batch checked).pc.examining = none ∨
      ∃ x, (s.collect batch checked).pc = .beforeStale x ∧ ¬ s.NotDue x.camera := by
  unfold State.collect
  split
  · simp only
    split
    · exact Or.inl rfl
    · next hdue => exact Or.inr ⟨_, rfl, hdue⟩
  · simp only
    split <;> exact Or.inl rfl

theorem collect_lastSequences (s : State setup Output) (batch : List FramePacket)
    (checked : Nat) :
    (s.collect batch checked).lastSequences = s.lastSequences ∧
      (s.collect batch checked).lastScheduledNs = s.lastScheduledNs ∧
      (s.collect batch checked).clockNs = s.clockNs := by
  unfold State.collect
  split <;> exact ⟨rfl, rfl, rfl⟩

theorem Ordered.collect (hs : Ordered s h) (batch : List FramePacket) (checked : Nat)
    (picks : h'.picks = h.picks) (reads : h'.reads = h.reads) :
    Ordered (s.collect batch checked) h' := by
  obtain ⟨hlast, hscheduled, hclock⟩ := collect_lastSequences s batch checked
  have hbuffers := collect_buffers s batch checked
  rcases collect_cases s batch checked with hnone | ⟨x, hpc, hdue⟩
  · exact hs.outside hclock hbuffers hlast hscheduled picks reads hnone
  · refine ⟨?_, ?_, ?_, ?_, ?_, ?_, ?_, ?_⟩
    · rw [hlast, hbuffers]
      exact hs.lastSequences_le
    · rw [hscheduled, hclock]
      exact hs.lastScheduled_le
    · rw [picks, hlast, hscheduled]
      exact hs.picks_le
    · rw [picks, reads]
      exact hs.picks_read
    · rw [picks]
      exact hs.picks_ordered
    · intro y hy
      rw [hpc] at hy
      obtain rfl := Option.some.inj hy
      unfold State.NotDue
      rw [hscheduled, hclock]
      exact hdue
    · intro y packet _ hpacket
      rw [hpc] at hpacket
      cases hpacket
    · rw [hpc]
      exact trivial

/-- What the call of `read_latest` returns and leaves in the buffers. -/
theorem readCall_cases (s : State setup Output) (camera : Fin n) :
    let b := s.buffers camera
    let b' := (s.callBuffer camera (s.readCall camera)).buffers camera
    (s.readPacket camera = none ∧ b' = b) ∨
    (0 < b.sequence ∧ s.lastSequences camera < b.sequence ∧
      (s.readPacket camera = none ∧ b'.stale = b.stale + 1 ∨
        s.readPacket camera = some b.packet ∧ b'.stale = b.stale) ∧
      b'.sequence = b.sequence ∧ b'.consumedSequence = b.sequence) := by
  intro b b'
  have hb' : b' = (b.readLatest (s.lastSequences camera)
      (some setup.configuration.maxFrameAgeMs) s.clockNs.toNat).2 := Function.update_self ..
  unfold State.readPacket
  rw [hb']
  rcases b.readLatest_cases (s.lastSequences camera) (some setup.configuration.maxFrameAgeMs)
    s.clockNs.toNat with hread | ⟨hpos, hafter, hread | hread⟩
  · exact Or.inl (by rw [hread]; exact ⟨rfl, rfl⟩)
  · refine Or.inr ⟨hpos, by omega, ?_⟩
    rw [hread]
    exact ⟨Or.inl ⟨rfl, rfl⟩, rfl, rfl⟩
  · refine Or.inr ⟨hpos, by omega, ?_⟩
    rw [hread]
    exact ⟨Or.inr ⟨rfl, rfl⟩, rfl, rfl⟩

theorem readCall_sequence (s : State setup Output) (camera other : Fin n) :
    ((s.callBuffer camera (s.readCall camera)).buffers other).sequence =
      (s.buffers other).sequence := by
  by_cases hother : other = camera
  · subst hother
    rcases readCall_cases s other with ⟨-, hb⟩ | ⟨-, -, -, hsequence, -⟩
    · rw [hb]
    · exact hsequence
  · simp [State.callBuffer, Function.update_of_ne hother]

theorem Ordered.read (hs : Ordered s h) {x : Examination n} {before : Nat}
    (hpc : s.pc = .read x before) :
    Ordered { s.callBuffer x.camera (s.readCall x.camera) with
      pc := .afterStale x before (s.readPacket x.camera) } (h.read s x.camera) := by
  have hexamining : s.pc.examining = some x := by rw [hpc]; rfl
  have hknown := hs.staleKnown
  rw [hpc] at hknown
  refine ⟨?_, hs.lastScheduled_le, hs.picks_le, ?_, hs.picks_ordered, ?_, ?_, ?_⟩
  · intro other
    exact (hs.lastSequences_le other).trans (readCall_sequence s x.camera other).ge
  · intro pick hpick
    obtain ⟨hcamera, hread⟩ := hs.picks_read pick hpick
    refine ⟨hcamera, ?_⟩
    rw [History.read, List.map_append]
    exact List.mem_append_left _ hread
  · intro y hy
    obtain rfl : x = y := Option.some.inj hy
    exact hs.due x hexamining
  · intro y packet hy hpacket
    obtain rfl : x = y := Option.some.inj hy
    have hpacket : s.readPacket x.camera = some packet := hpacket
    rcases readCall_cases s x.camera with ⟨hnone, -⟩ | ⟨-, hnewer, hcases, hsequence, -⟩
    · rw [hnone] at hpacket
      cases hpacket
    · rcases hcases with ⟨hnone, -⟩ | ⟨hsome, -⟩
      · rw [hnone] at hpacket
        cases hpacket
      · obtain rfl := Option.some.inj (hsome.symm.trans hpacket)
        refine ⟨rfl, hnewer, hsequence.ge, ?_⟩
        simp [History.read, hsome]
  · change Pc.StaleKnown _ (.afterStale x before (s.readPacket x.camera))
    rcases readCall_cases s x.camera with ⟨hnone, -⟩ | ⟨-, -, ⟨hnone, -⟩ | ⟨hsome, hstale⟩, -⟩
    · rw [hnone]
      exact trivial
    · rw [hnone]
      exact trivial
    · rw [hsome]
      exact hknown.trans hstale.symm

theorem Ordered.takePacket (hs : Ordered s h) {x : Examination n}
    (hx : s.pc.examining = some x) {packet : Option FramePacket}
    (hpacket : ∀ p, packet = some p → InHand s h x.camera p) :
    Ordered (s.takePacket x packet) h := by
  cases packet with
  | none => exact hs.outside rfl rfl rfl rfl rfl rfl rfl
  | some packet =>
    refine ⟨hs.lastSequences_le, hs.lastScheduled_le, hs.picks_le, hs.picks_read,
      hs.picks_ordered, ?_, ?_, trivial⟩
    · intro y hy
      obtain rfl : x = y := Option.some.inj hy
      exact hs.due x hx
    · intro y p hy hp
      obtain rfl : x = y := Option.some.inj hy
      obtain rfl : packet = p := Option.some.inj hp
      exact (hpacket packet rfl).mono rfl le_rfl rfl

theorem Ordered.compareStale (hs : Ordered s h) {x : Examination n} {before : Nat}
    {packet : Option FramePacket} (hpc : s.pc = .afterStale x before packet) :
    Ordered (s.compareStale x before packet) h := by
  have hx : s.pc.examining = some x := by rw [hpc]; rfl
  have hknown := hs.staleKnown
  rw [hpc] at hknown
  unfold State.compareStale
  split
  · next hstale =>
    -- A packet was returned only if the counter did not move.
    have hnone : packet = none := by
      cases packet with
      | none => rfl
      | some packet =>
        have hequal : before = (s.buffers x.camera).stale := hknown
        omega
    subst hnone
    refine ⟨hs.lastSequences_le, hs.lastScheduled_le, hs.picks_le, hs.picks_read,
      hs.picks_ordered, ?_, ?_, rfl⟩
    · intro y hy
      obtain rfl : x = y := Option.some.inj hy
      exact hs.due x hx
    · intro _ _ _ hp
      cases hp
  · refine hs.takePacket hx fun p hp => hs.inHand x p hx ?_
    rw [hpc]
    exact hp

theorem Ordered.resequence (hs : Ordered s h) {x : Examination n} {packet : Option FramePacket}
    (hpc : s.pc = .resequence x packet) : Ordered (s.resequence x packet) h := by
  have hnone : packet = none := by
    have hknown := hs.staleKnown
    rw [hpc] at hknown
    exact hknown
  subst hnone
  -- The sequence number that is read now is at least the one kept so far.
  have hraise : ∀ camera, s.lastSequences camera ≤
      Function.update s.lastSequences x.camera (s.buffers x.camera).sequence camera := by
    intro camera
    by_cases hcamera : camera = x.camera
    · rw [hcamera, Function.update_self]
      exact hs.lastSequences_le x.camera
    · rw [Function.update_of_ne hcamera]
  refine ⟨?_, hs.lastScheduled_le, ?_, hs.picks_read, hs.picks_ordered, ?_, ?_, trivial⟩
  · intro camera
    change Function.update s.lastSequences x.camera (s.buffers x.camera).sequence camera ≤
      (s.buffers camera).sequence
    by_cases hcamera : camera = x.camera
    · rw [hcamera, Function.update_self]
    · rw [Function.update_of_ne hcamera]
      exact hs.lastSequences_le camera
  · intro pick hpick
    obtain ⟨hframe, hclock⟩ := hs.picks_le pick hpick
    exact ⟨hframe.trans (hraise pick.camera), hclock⟩
  · intro _ hy
    cases hy
  · intro _ _ hy
    cases hy

theorem Ordered.pick (hs : Ordered s h) {x : Examination n} {packet : FramePacket}
    (hpc : s.pc = .picked x packet) :
    Ordered (s.pick x packet)
      { h with picks := h.picks ++ [⟨x.camera, packet, s.clockNs.toNat⟩] } := by
  have hx : s.pc.examining = some x := by rw [hpc]; rfl
  have hhand := hs.inHand x packet hx (by rw [hpc]; rfl)
  have hdue := hs.due x hx
  have hscheduled := hs.lastScheduled_le x.camera
  refine ⟨?_, ?_, ?_, ?_, ?_, ?_, ?_, trivial⟩
  · intro camera
    change Function.update s.lastSequences x.camera packet.frameId camera ≤
      (s.buffers camera).sequence
    by_cases hcamera : camera = x.camera
    · rw [hcamera, Function.update_self]
      exact hhand.available
    · rw [Function.update_of_ne hcamera]
      exact hs.lastSequences_le camera
  · intro camera
    change Function.update s.lastScheduledNs x.camera s.clockNs.toNat camera ≤ s.clockNs.toNat
    by_cases hcamera : camera = x.camera
    · rw [hcamera, Function.update_self]
    · rw [Function.update_of_ne hcamera]
      exact hs.lastScheduled_le camera
  · intro pick hpick
    change pick.packet.frameId ≤
        Function.update s.lastSequences x.camera packet.frameId pick.camera ∧
      pick.clockNs ≤ Function.update s.lastScheduledNs x.camera s.clockNs.toNat pick.camera
    rcases List.mem_append.mp hpick with hold | hnew
    · obtain ⟨hframe, hclock⟩ := hs.picks_le pick hold
      by_cases hcamera : pick.camera = x.camera
      · rw [hcamera] at hframe hclock ⊢
        rw [Function.update_self, Function.update_self]
        exact ⟨hframe.trans hhand.newer.le, hclock.trans hscheduled⟩
      · rw [Function.update_of_ne hcamera, Function.update_of_ne hcamera]
        exact ⟨hframe, hclock⟩
    · obtain rfl := List.mem_singleton.mp hnew
      rw [Function.update_self, Function.update_self]
      exact ⟨le_rfl, le_rfl⟩
  · intro pick hpick
    rcases List.mem_append.mp hpick with hold | hnew
    · exact hs.picks_read pick hold
    · obtain rfl := List.mem_singleton.mp hnew
      exact ⟨hhand.cameraId, hhand.read⟩
  · refine List.pairwise_append.mpr ⟨hs.picks_ordered, List.pairwise_singleton _ _, ?_⟩
    intro old hold new hnew hcamera
    obtain rfl := List.mem_singleton.mp hnew
    obtain ⟨hframe, hclock⟩ := hs.picks_le old hold
    change old.camera = x.camera at hcamera
    rw [hcamera] at hframe hclock ⊢
    unfold State.NotDue at hdue
    change old.packet.frameId < packet.frameId ∧
      old.clockNs + setup.intervalNs x.camera ≤ s.clockNs.toNat
    exact ⟨hframe.trans_lt hhand.newer, by omega⟩
  · intro _ hy
    cases hy
  · intro _ _ hy
    cases hy

theorem Ordered.after (hs : Ordered s h) (ho : Outside s h t h') : Ordered t h' :=
  hs.outside ho.clockNs ho.buffers ho.lastSequences ho.lastScheduledNs ho.picks ho.reads
    ho.examining

theorem Ordered.step {e : Event n Output} (hs : Ordered s h) (hstep : s.step e = some t) :
    Ordered t (h.record s e) := by
  have hrecorded := step_recorded h hstep
  generalize h.record s e = h' at hrecorded ⊢
  cases hrecorded with
  | tick clockNs le => exact hs.tick le
  | publish camera frame timeNs => exact hs.publish camera frame timeNs
  | getResult first rest results =>
    refine ⟨hs.lastSequences_le, hs.lastScheduled_le, hs.picks_le, hs.picks_read,
      hs.picks_ordered, hs.due, fun x packet hx hpacket => ?_, hs.staleKnown⟩
    exact (hs.inHand x packet hx hpacket).mono rfl le_rfl rfl
  | receive batch outcome pc => exact hs.after (outside_receive s h batch outcome)
  | checkCircuit pc =>
    unfold State.checkCircuit
    split
    · exact hs
    · exact hs.outside rfl rfl rfl rfl rfl rfl rfl
  | collect batch checked pc =>
    simp only [History.advance, pc]
    exact hs.collect batch checked (by split <;> rfl) (by split <;> rfl)
  | beforeStale x pc =>
    have hx : s.pc.examining = some x := by rw [pc]; rfl
    refine ⟨hs.lastSequences_le, hs.lastScheduled_le, hs.picks_le, hs.picks_read,
      hs.picks_ordered, fun y hy => ?_, fun _ _ _ hpacket => ?_, rfl⟩
    · obtain rfl : x = y := Option.some.inj hy
      exact hs.due x hx
    · cases hpacket
  | read x before pc => exact hs.read pc
  | compareStale x before packet pc => exact hs.compareStale pc
  | resequence x packet pc => exact hs.resequence pc
  | pick x packet pc => exact hs.pick pc
  | fail pc => exact hs.after (outside_fail s h)
  | deliver remaining count pc => exact hs.after (outside_deliver s h remaining count)
  | put result remaining count pc => exact hs.after (outside_put s h result remaining count)
  | evict result remaining count pc => exact hs.after (outside_evict s h result remaining count)
  | enqueue result remaining count pc => exact hs.after (outside_enqueue h pc)

end Step

end EdgeSafety.SharedInferenceScheduler
