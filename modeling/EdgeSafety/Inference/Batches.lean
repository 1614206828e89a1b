import Mathlib.Data.Nat.ModEq
import EdgeSafety.Inference.Picks

/-!
# Batches

`_collect_batch` walks around the cameras from its cursor and stops after one full round. `Batched`
says what the round under way has gathered: packets of distinct cameras, none of a camera that is
still ahead; and that the batches passed to the pipeline are, one after the other, the picks.
-/

namespace EdgeSafety.SharedInferenceScheduler

variable {n : Nat} {setup : SchedulerSetup n} {Output : Type}

/-- The packets picked but not yet passed to the pipeline. -/
def Pc.gathered (pc : Pc n Output) : List FramePacket := (pc.round.map Prod.fst).getD []

/-- The camera is still to be examined in this round. -/
def Ahead (cursor checked : Nat) (camera : Fin n) : Prop :=
  ∃ j, j < n - checked ∧ camera.val = (cursor + j) % n

theorem ahead_of_next {cursor checked : Nat} {camera : Fin n}
    (h : Ahead ((cursor + 1) % n) (checked + 1) camera) : Ahead cursor checked camera := by
  obtain ⟨j, hj, hcamera⟩ := h
  refine ⟨j + 1, by omega, ?_⟩
  rw [hcamera, Nat.mod_add_mod, Nat.add_assoc, Nat.add_comm 1 j]

/-- The camera under the cursor is not met again in the same round. -/
theorem not_ahead_next {cursor checked : Nat} {camera : Fin n}
    (hcamera : camera.val = cursor % n) : ¬ Ahead ((cursor + 1) % n) (checked + 1) camera := by
  rintro ⟨j, hj, hagain⟩
  rw [hcamera, Nat.mod_add_mod, Nat.add_assoc] at hagain
  have hcycle : 0 ≡ 1 + j [MOD n] := Nat.ModEq.add_left_cancel' cursor hagain
  have hdvd : n ∣ 1 + j := (Nat.modEq_zero_iff_dvd).mp hcycle.symm
  have hle := Nat.le_of_dvd (by omega) hdvd
  omega

/-- What a round has gathered. -/
structure Round (setup : SchedulerSetup n) (cursor : Nat) (batch : List FramePacket)
    (checked : Nat) : Prop where
  length_le : batch.length ≤ setup.configuration.detectorBatchSize
  nodup : (batch.map FramePacket.cameraId).Nodup
  ahead : ∀ packet ∈ batch, ∀ camera, Ahead cursor checked camera →
    packet.cameraId ≠ (setup.layout camera).cameraId

/-- The camera under examination can add a packet to the batch. -/
structure Open (setup : SchedulerSetup n) (cursor : Nat) (x : Examination n) : Prop where
  length_lt : x.batch.length < setup.configuration.detectorBatchSize
  absent : ∀ packet ∈ x.batch, packet.cameraId ≠ (setup.layout x.camera).cameraId
  passed : ¬ Ahead cursor x.checked x.camera

/-- The batches passed to the pipeline, and the one that is gathered. -/
structure Batched (s : State setup Output) (h : History n Output) : Prop where
  picks : h.picks.map Pick.packet = h.passed.flatten ++ s.pc.gathered
  passed : ∀ batch ∈ h.passed, batch.length ≤ setup.configuration.detectorBatchSize ∧
    (batch.map FramePacket.cameraId).Nodup
  round : ∀ batch checked, s.pc.round = some (batch, checked) →
    Round setup s.cursor batch checked
  current : ∀ x, s.pc.examining = some x → Open setup s.cursor x

theorem init_batched (setup : SchedulerSetup n) (clockNs : UInt64) :
    Batched (State.init setup Output clockNs) History.empty where
  picks := rfl
  passed _ h := absurd h List.not_mem_nil
  round _ _ h := by cases h
  current _ h := by cases h

/-- A round begins with an empty batch. -/
theorem Round.start (cursor : Nat) : Round setup cursor [] 0 :=
  ⟨Nat.zero_le _, List.nodup_nil, fun _ h => absurd h List.not_mem_nil⟩

theorem Round.next {cursor checked : Nat} {batch : List FramePacket}
    (h : Round setup cursor batch checked) :
    Round setup ((cursor + 1) % n) batch (checked + 1) where
  length_le := h.length_le
  nodup := h.nodup
  ahead packet hpacket camera hahead := h.ahead packet hpacket camera (ahead_of_next hahead)

/-- A packet of the camera under examination joins the batch. -/
theorem Round.append {cursor : Nat} {x : Examination n} {packet : FramePacket}
    (h : Round setup cursor x.batch x.checked) (ho : Open setup cursor x)
    (hpacket : packet.cameraId = (setup.layout x.camera).cameraId) :
    Round setup cursor (x.batch ++ [packet]) x.checked where
  length_le := by
    rw [List.length_append, List.length_singleton]
    exact ho.length_lt
  nodup := by
    rw [List.map_append, List.nodup_append']
    refine ⟨h.nodup, List.nodup_singleton _, ?_⟩
    intro id hid hnew
    obtain ⟨old, hold, rfl⟩ := List.mem_map.mp hid
    rw [List.map_singleton, List.mem_singleton] at hnew
    exact ho.absent old hold (hnew.trans hpacket)
  ahead p hp camera hahead := by
    rcases List.mem_append.mp hp with hold | hnew
    · exact h.ahead p hold camera hahead
    · obtain rfl := List.mem_singleton.mp hnew
      rw [hpacket]
      intro hsame
      obtain rfl : x.camera = camera := setup.cameraId_injective hsame
      exact ho.passed hahead

section Step
variable {s t : State setup Output} {h h' : History n Output}

/-- A step within `_collect_batch`, or outside it, that gathers nothing. -/
theorem Batched.same (hs : Batched s h) (cursor : t.cursor = s.cursor)
    (picks : h'.picks = h.picks) (passed : h'.passed = h.passed)
    (round : t.pc.round = s.pc.round)
    (examining : ∀ x, t.pc.examining = some x → s.pc.examining = some x) : Batched t h' where
  picks := by
    unfold Pc.gathered
    rw [picks, passed, round]
    exact hs.picks
  passed := by
    rw [passed]
    exact hs.passed
  round := by
    rw [cursor, round]
    exact hs.round
  current x hx := by
    rw [cursor]
    exact hs.current x (examining x hx)

/-- A step outside `_collect_batch`. -/
theorem Batched.outside (hs : Batched s h) (hpc : s.pc.round = none) (ho : Outside s h t h') :
    Batched t h' := by
  apply hs.same ho.cursor ho.picks ho.passed (ho.round.trans hpc.symm)
  intro x hx
  rw [ho.examining] at hx
  cases hx

theorem Batched.collect (hs : Batched s h) {batch : List FramePacket} {checked : Nat}
    (hpc : s.pc = .collect batch checked) : Batched (s.collect batch checked) (h.advance s) := by
  have hround : Round setup s.cursor batch checked :=
    hs.round batch checked (by rw [hpc]; rfl)
  have hpicks := hs.picks
  simp only [hpc, Pc.gathered, Pc.round, Option.map_some, Option.getD_some] at hpicks
  simp only [History.advance, hpc]
  by_cases hmore : checked < n ∧ batch.length < setup.configuration.detectorBatchSize
  · rw [if_pos (Or.inl hmore)]
    unfold State.collect
    rw [dif_pos hmore]
    refine ⟨?_, hs.passed, ?_, ?_⟩
    · simp only
      split <;> exact hpicks
    · intro batch' checked' hnew
      simp only at hnew ⊢
      split at hnew
      · obtain ⟨rfl, rfl⟩ := Prod.mk.inj (Option.some.inj hnew)
        exact hround.next
      · obtain ⟨rfl, rfl⟩ := Prod.mk.inj (Option.some.inj hnew)
        exact hround.next
    · intro x hx
      simp only at hx ⊢
      split at hx
      · cases hx
      · obtain rfl := Option.some.inj hx
        refine ⟨hmore.2, fun packet hpacket => ?_, not_ahead_next rfl⟩
        exact hround.ahead packet hpacket _ ⟨0, by omega, rfl⟩
  · unfold State.collect
    rw [dif_neg hmore]
    by_cases hempty : batch.isEmpty
    · rw [if_pos (Or.inr hempty), if_pos hempty]
      rw [List.isEmpty_iff.mp hempty] at hpicks
      exact ⟨hpicks, hs.passed, (fun _ _ h => by cases h), fun _ h => by cases h⟩
    · rw [if_neg (not_or.mpr ⟨hmore, hempty⟩), if_neg hempty]
      refine ⟨?_, ?_, (fun _ _ h => by cases h), fun _ h => by cases h⟩
      · simp only [Pc.gathered, Pc.round, List.flatten_append, List.flatten_singleton]
        simpa using hpicks
      · intro b hb
        rcases List.mem_append.mp hb with hb | hb
        · exact hs.passed b hb
        · obtain rfl := List.mem_singleton.mp hb
          exact ⟨hround.length_le, hround.nodup⟩

theorem Batched.pick (hs : Batched s h) {x : Examination n} {packet : FramePacket}
    (hpc : s.pc = .picked x packet)
    (hpacket : packet.cameraId = (setup.layout x.camera).cameraId) :
    Batched (s.pick x packet)
      { h with picks := h.picks ++ [⟨x.camera, packet, s.clockNs.toNat⟩] } := by
  have hpicks := hs.picks
  rw [hpc] at hpicks
  refine ⟨?_, hs.passed, ?_, fun _ h => by cases h⟩
  · rw [List.map_append, hpicks]
    exact List.append_assoc _ _ _
  · intro batch checked hnew
    obtain ⟨rfl, rfl⟩ := Prod.mk.inj (Option.some.inj hnew)
    have hround := hs.round x.batch x.checked (by rw [hpc]; rfl)
    exact hround.append (hs.current x (by rw [hpc]; rfl)) hpacket

theorem Batched.takePacket (hs : Batched s h) {x : Examination n}
    (hround : s.pc.round = some (x.batch, x.checked)) (hx : s.pc.examining = some x)
    (packet : Option FramePacket) : Batched (s.takePacket x packet) h := by
  cases packet with
  | none =>
    exact hs.same rfl rfl rfl hround.symm fun _ h => by cases h
  | some packet =>
    exact hs.same rfl rfl rfl hround.symm fun _ h => hx.trans h

theorem Batched.step {e : Event n Output} (hs : Batched s h) (ho : Ordered s h)
    (hstep : s.step e = some t) : Batched t (h.record s e) := by
  have hrecorded := step_recorded h hstep
  generalize h.record s e = h' at hrecorded ⊢
  cases hrecorded with
  | tick clockNs le => exact hs.same rfl rfl rfl rfl fun _ hx => hx
  | publish camera frame timeNs => exact hs.same rfl rfl rfl rfl fun _ hx => hx
  | getResult first rest results => exact hs.same rfl rfl rfl rfl fun _ hx => hx
  | receive batch outcome pc =>
    exact hs.outside (by rw [pc]; rfl) (outside_receive s h batch outcome)
  | checkCircuit pc =>
    unfold State.checkCircuit
    split
    · exact hs
    · have hpicks := hs.picks
      rw [pc] at hpicks
      refine ⟨hpicks, hs.passed, fun batch checked hnew => ?_, fun _ h => by cases h⟩
      obtain ⟨rfl, rfl⟩ := Prod.mk.inj (Option.some.inj hnew)
      exact Round.start s.cursor
  | collect batch checked pc => exact hs.collect pc
  | beforeStale x pc =>
    exact hs.same rfl rfl rfl (by rw [pc]; rfl) (by rw [pc]; exact fun _ h => h)
  | read x before pc =>
    exact hs.same rfl rfl rfl (by rw [pc]; rfl) (by rw [pc]; exact fun _ h => h)
  | compareStale x before packet pc =>
    have hround : s.pc.round = some (x.batch, x.checked) := by rw [pc]; rfl
    have hx : s.pc.examining = some x := by rw [pc]; rfl
    unfold State.compareStale
    split
    · exact hs.same rfl rfl rfl hround.symm fun _ h => hx.trans h
    · exact hs.takePacket hround hx packet
  | resequence x packet pc =>
    unfold State.resequence
    apply Batched.takePacket
    · exact hs.same rfl rfl rfl rfl fun _ h => h
    · rw [pc]
      rfl
    · rw [pc]
      rfl
  | pick x packet pc =>
    have hx : s.pc.examining = some x := by rw [pc]; rfl
    exact hs.pick pc (ho.inHand x packet hx (by rw [pc]; rfl)).cameraId
  | fail pc => exact hs.outside (by rw [pc]; rfl) (outside_fail s h)
  | deliver remaining count pc =>
    exact hs.outside (by rw [pc]; rfl) (outside_deliver s h remaining count)
  | put result remaining count pc =>
    exact hs.outside (by rw [pc]; rfl) (outside_put s h result remaining count)
  | evict result remaining count pc =>
    exact hs.outside (by rw [pc]; rfl) (outside_evict s h result remaining count)
  | enqueue result remaining count pc =>
    exact hs.outside (by rw [pc]; rfl) (outside_enqueue h pc)

end Step

end EdgeSafety.SharedInferenceScheduler
