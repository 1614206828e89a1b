import EdgeSafety.Inference.Batches
import EdgeSafety.Lib.Transition

/-!
# Scheduler input integrity

What goes into the pipeline and what comes out of the scheduler, over whole runs. `Delivered`
follows the outputs of an accepted batch through the loop over the results; with `Sourced`,
`Ordered` and `Batched` it makes up the invariant of every run (`observe_invariant`), and
`scheduler_integrity` reads the guarantees off it.
-/

namespace EdgeSafety.SharedInferenceScheduler

variable {n : Nat} {setup : SchedulerSetup n} {Output : Type}

namespace Pc

/-- The packets with outputs for which no result has been made yet. -/
def undelivered : Pc n Output → List (FramePacket × Output)
  | .deliver remaining _ => remaining
  | .put _ remaining _ | .evict _ remaining _ | .enqueue _ remaining _ => remaining
  | _ => []

/-- The result that `_put_result` is about to enqueue. -/
def result : Pc n Output → Option (ScheduledResult Output)
  | .put result _ _ | .evict result _ _ | .enqueue result _ _ => some result
  | _ => none

end Pc

/-- The output stands at the packet's position in the outputs of an accepted batch. -/
def Paired (h : History n Output) (packet : FramePacket) (output : Output) : Prop :=
  ∃ batch outputs, (batch, outputs) ∈ h.completed ∧ batch ∈ h.passed ∧
    ∃ position : Nat, batch[position]? = some packet ∧ outputs[position]? = some output

/-- The result is the one of a packet and the output at its position. -/
def FromBatch (h : History n Output) (result : ScheduledResult Output) : Prop :=
  ∃ packet, Paired h packet result.output ∧ result.cameraId = packet.cameraId ∧
    result.frameId = packet.frameId ∧ result.capturedAtUnixNs = packet.capturedAtUnixNs ∧
    result.frame = some packet

/-- Outputs reach the results of their own packets. -/
structure Delivered (s : State setup Output) (h : History n Output) : Prop where
  inferring : ∀ batch, s.pc = .inferring batch → batch ∈ h.passed
  undelivered : ∀ pair ∈ s.pc.undelivered, Paired h pair.1 pair.2
  result : ∀ result, s.pc.result = some result → FromBatch h result
  enqueued : ∀ result ∈ h.enqueued, FromBatch h result

theorem init_delivered (setup : SchedulerSetup n) (clockNs : UInt64) :
    Delivered (State.init setup Output clockNs) History.empty where
  inferring _ h := by cases h
  undelivered _ h := absurd h List.not_mem_nil
  result _ h := by cases h
  enqueued _ h := absurd h List.not_mem_nil

section Step
variable {s t : State setup Output} {h h' : History n Output}

theorem Paired.mono {packet : FramePacket} {output : Output} (hp : Paired h packet output)
    (completed : h.completed ⊆ h'.completed) (passed : h.passed ⊆ h'.passed) :
    Paired h' packet output := by
  obtain ⟨batch, outputs, hcompleted, hpassed, hposition⟩ := hp
  exact ⟨batch, outputs, completed hcompleted, passed hpassed, hposition⟩

theorem FromBatch.mono {result : ScheduledResult Output} (hr : FromBatch h result)
    (completed : h.completed ⊆ h'.completed) (passed : h.passed ⊆ h'.passed) :
    FromBatch h' result := by
  obtain ⟨packet, hpaired, hcarries⟩ := hr
  exact ⟨packet, hpaired.mono completed passed, hcarries⟩

/-- A step that makes and enqueues no result. -/
theorem Delivered.same (hs : Delivered s h) (completed : h'.completed = h.completed)
    (passed : h'.passed = h.passed) (enqueued : h'.enqueued = h.enqueued)
    (inferring : ∀ batch, t.pc = .inferring batch → s.pc = .inferring batch)
    (undelivered : t.pc.undelivered ⊆ s.pc.undelivered)
    (result : ∀ r, t.pc.result = some r → s.pc.result = some r) : Delivered t h' := by
  have hcompleted : h.completed ⊆ h'.completed := by
    rw [completed]
    exact List.Subset.refl _
  have hpassed : h.passed ⊆ h'.passed := by
    rw [passed]
    exact List.Subset.refl _
  refine ⟨?_, ?_, ?_, ?_⟩
  · intro batch hbatch
    exact hpassed (hs.inferring batch (inferring batch hbatch))
  · intro pair hpair
    exact (hs.undelivered pair (undelivered hpair)).mono hcompleted hpassed
  · intro r hr
    exact (hs.result r (result r hr)).mono hcompleted hpassed
  · intro r hr
    rw [enqueued] at hr
    exact (hs.enqueued r hr).mono hcompleted hpassed

/-- The same to a place where no batch and no output is on its way. -/
theorem Delivered.silent (hs : Delivered s h) (completed : h'.completed = h.completed)
    (passed : h'.passed = h.passed) (enqueued : h'.enqueued = h.enqueued)
    (undelivered : t.pc.undelivered = []) (result : t.pc.result = none)
    (inferring : ∀ batch, t.pc ≠ .inferring batch) : Delivered t h' := by
  apply hs.same completed passed enqueued
  · intro batch hbatch
    exact absurd hbatch (inferring batch)
  · rw [undelivered]
    exact List.nil_subset _
  · intro r hr
    rw [result] at hr
    cases hr

theorem Delivered.receive (hs : Delivered s h) {batch : List FramePacket}
    (hpc : s.pc = .inferring batch) (outcome : PipelineOutcome Output) :
    Delivered (s.receive batch outcome) (h.receive setup batch outcome) := by
  cases outcome with
  | raised => exact hs.silent rfl rfl rfl rfl rfl fun _ h => by cases h
  | returned outputs elapsedMs =>
    unfold State.receive History.receive
    by_cases haccepted : State.Accepted setup batch outputs elapsedMs
    · simp only [if_pos haccepted]
      refine ⟨(fun _ h => by cases h), ?_, (fun _ h => by cases h), ?_⟩
      · intro pair hpair
        obtain ⟨position, hposition⟩ := List.mem_iff_getElem?.mp hpair
        obtain ⟨hpacket, houtput⟩ := List.getElem?_zip_eq_some.mp hposition
        exact ⟨batch, outputs, by simp, hs.inferring batch hpc, position, hpacket, houtput⟩
      · intro result hresult
        exact (hs.enqueued result hresult).mono (List.subset_append_left _ _) (List.Subset.refl _)
    · simp only [if_neg haccepted]
      exact hs.silent rfl rfl rfl rfl rfl fun _ h => by cases h

theorem Delivered.collect (hs : Delivered s h) {batch : List FramePacket} {checked : Nat}
    (hpc : s.pc = .collect batch checked) :
    Delivered (s.collect batch checked) (h.advance s) := by
  simp only [History.advance, hpc]
  by_cases hmore : checked < n ∧ batch.length < setup.configuration.detectorBatchSize
  · rw [if_pos (Or.inl hmore)]
    unfold State.collect
    rw [dif_pos hmore]
    refine hs.same rfl rfl rfl ?_ ?_ ?_ <;> simp only <;> split
    · intro _ h
      cases h
    · intro _ h
      cases h
    · exact List.nil_subset _
    · exact List.nil_subset _
    · intro _ h
      cases h
    · intro _ h
      cases h
  · unfold State.collect
    rw [dif_neg hmore]
    by_cases hempty : batch.isEmpty
    · rw [if_pos (Or.inr hempty), if_pos hempty]
      exact hs.silent rfl rfl rfl rfl rfl fun _ h => by cases h
    · rw [if_neg (not_or.mpr ⟨hmore, hempty⟩), if_neg hempty]
      have hpassed : h.passed ⊆ h.passed ++ [batch] := List.subset_append_left _ _
      refine ⟨?_, (fun _ h => by cases h), (fun _ h => by cases h), fun result hresult => ?_⟩
      · intro batch' hbatch
        obtain rfl := Pc.inferring.inj hbatch
        simp
      · exact (hs.enqueued result hresult).mono (List.Subset.refl _) hpassed

theorem Delivered.deliver (hs : Delivered s h) {remaining : List (FramePacket × Output)}
    {count : Nat} (hpc : s.pc = .deliver remaining count) :
    Delivered (s.deliver remaining count) h := by
  cases remaining with
  | nil => exact hs.silent rfl rfl rfl rfl rfl fun _ h => by cases h
  | cons pair rest =>
    have hremaining := hs.undelivered
    rw [hpc] at hremaining
    refine ⟨(fun _ h => by cases h), fun p hp => hremaining p (List.mem_cons_of_mem _ hp), ?_,
      hs.enqueued⟩
    intro result hresult
    obtain rfl := Option.some.inj hresult
    exact ⟨pair.1, hremaining pair List.mem_cons_self, rfl, rfl, rfl, rfl⟩

theorem Delivered.enqueue (hs : Delivered s h) {result : ScheduledResult Output}
    {remaining : List (FramePacket × Output)} {count : Nat}
    (hpc : s.pc = .enqueue result remaining count) :
    Delivered (s.enqueue result remaining count) (h.advance s) := by
  simp only [History.advance, hpc, State.enqueue]
  split
  · exact hs.silent rfl rfl rfl rfl rfl fun _ h => by cases h
  · have hremaining := hs.undelivered
    rw [hpc] at hremaining
    refine ⟨(fun _ h => by cases h), hremaining, (fun _ h => by cases h), fun r hr => ?_⟩
    rcases List.mem_append.mp hr with hr | hr
    · exact hs.enqueued r hr
    · obtain rfl := List.mem_singleton.mp hr
      exact hs.result r (by rw [hpc]; rfl)

theorem Delivered.step {e : Event n Output} (hs : Delivered s h) (hstep : s.step e = some t) :
    Delivered t (h.record s e) := by
  have hrecorded := step_recorded h hstep
  generalize h.record s e = h' at hrecorded ⊢
  cases hrecorded with
  | tick clockNs le => exact ⟨hs.inferring, hs.undelivered, hs.result, hs.enqueued⟩
  | publish camera frame timeNs => exact ⟨hs.inferring, hs.undelivered, hs.result, hs.enqueued⟩
  | getResult first rest results => exact ⟨hs.inferring, hs.undelivered, hs.result, hs.enqueued⟩
  | receive batch outcome pc => exact hs.receive pc outcome
  | checkCircuit pc =>
    unfold State.checkCircuit
    split
    · exact hs
    · exact hs.silent rfl rfl rfl rfl rfl fun _ h => by cases h
  | collect batch checked pc => exact hs.collect pc
  | beforeStale x pc => exact hs.silent rfl rfl rfl rfl rfl fun _ h => by cases h
  | read x before pc => exact hs.silent rfl rfl rfl rfl rfl fun _ h => by cases h
  | compareStale x before packet pc =>
    unfold State.compareStale
    split
    · exact hs.silent rfl rfl rfl rfl rfl fun _ h => by cases h
    · cases packet <;> exact hs.silent rfl rfl rfl rfl rfl fun _ h => by cases h
  | resequence x packet pc =>
    cases packet <;> exact hs.silent rfl rfl rfl rfl rfl fun _ h => by cases h
  | pick x packet pc => exact hs.silent rfl rfl rfl rfl rfl fun _ h => by cases h
  | fail pc =>
    unfold State.fail
    split <;> exact hs.silent rfl rfl rfl rfl rfl fun _ h => by cases h
  | deliver remaining count pc => exact hs.deliver pc
  | put result remaining count pc =>
    refine hs.same rfl rfl rfl ?_ ?_ ?_ <;> simp only [pc] <;> split
    · intro _ h
      cases h
    · intro _ h
      cases h
    · exact List.Subset.refl _
    · exact List.Subset.refl _
    · exact fun _ h => h
    · exact fun _ h => h
  | evict result remaining count pc =>
    unfold State.evict
    split <;> refine hs.same rfl rfl rfl (fun _ h => by cases h) ?_ ?_ <;> rw [pc]
    · exact List.Subset.refl _
    · exact fun _ h => h
    · exact List.Subset.refl _
    · exact fun _ h => h
  | enqueue result remaining count pc => exact hs.enqueue pc

end Step

/-- The invariant of every run of the scheduler. -/
structure Sound (s : State setup Output) (h : History n Output) : Prop extends
    Sourced s h, Ordered s h, Batched s h, Delivered s h

/-- The scheduler and its history after a run from a new scheduler. -/
def observe (setup : SchedulerSetup n) (clockNs : UInt64) (events : List (Event n Output)) :
    Observed setup Output :=
  Transition.exec Observed.step (Observed.init setup Output clockNs) events

theorem init_sound (setup : SchedulerSetup n) (clockNs : UInt64) :
    Sound (State.init setup Output clockNs) History.empty :=
  ⟨init_sourced setup clockNs, init_ordered setup clockNs, init_batched setup clockNs,
    init_delivered setup clockNs⟩

theorem Sound.step {s t : State setup Output} {h : History n Output} {e : Event n Output}
    (hs : Sound s h) (hstep : s.step e = some t) : Sound t (h.record s e) :=
  ⟨hs.toSourced.step hstep, hs.toOrdered.step hstep, hs.toBatched.step hs.toOrdered hstep,
    hs.toDelivered.step hstep⟩

theorem observe_sound (setup : SchedulerSetup n) (clockNs : UInt64)
    (events : List (Event n Output)) :
    Sound (observe setup clockNs events).state (observe setup clockNs events).history :=
  Transition.recorded_invariant (fun _ _ _ _ hs hstep => hs.step hstep)
    (init_sound setup clockNs) events

section Guarantees
variable {s : State setup Output} {h : History n Output}

/-- The picks of one camera, in order. -/
theorem Ordered.picks_of_camera (hs : Ordered s h) (camera : Fin n) :
    (h.picks.filter (·.camera = camera)).Pairwise fun first second =>
      first.packet.frameId < second.packet.frameId ∧
        first.clockNs + setup.intervalNs camera ≤ second.clockNs := by
  refine List.Pairwise.imp_of_mem ?_ (hs.picks_ordered.filter _)
  intro first second hfirst hsecond hprecedes
  obtain rfl : first.camera = camera := of_decide_eq_true (List.mem_filter.mp hfirst).2
  have hsame : second.camera = first.camera := of_decide_eq_true (List.mem_filter.mp hsecond).2
  exact hprecedes hsame.symm

/-- The packets of a camera among the picks are the picks of the camera. -/
theorem Ordered.packets_of_camera (hs : Ordered s h) (camera : Fin n) :
    (h.picks.map Pick.packet).filter (·.cameraId = (setup.layout camera).cameraId) =
      (h.picks.filter (·.camera = camera)).map Pick.packet := by
  rw [List.filter_map]
  apply congrArg
  apply List.filter_congr
  intro pick hpick
  rw [Function.comp_apply, (hs.picks_read pick hpick).1]
  exact decide_eq_decide.mpr setup.cameraId_injective.eq_iff

/-- The frame numbers of a camera increase over everything passed to the pipeline. -/
theorem Sound.passed_increasing (hs : Sound s h) (camera : Fin n) :
    ((h.passed.flatten.filter (·.cameraId = (setup.layout camera).cameraId)).map
      FramePacket.frameId).Pairwise (· < ·) := by
  have hpicks : (((h.picks.map Pick.packet).filter
      (·.cameraId = (setup.layout camera).cameraId)).map FramePacket.frameId).Pairwise (· < ·) := by
    rw [hs.packets_of_camera, List.map_map, List.pairwise_map]
    exact (hs.picks_of_camera camera).imp fun hprecedes => hprecedes.1
  refine hpicks.sublist (List.Sublist.map _ (List.Sublist.filter _ ?_))
  rw [hs.picks]
  exact List.sublist_append_left _ _

/-- Every packet passed to the pipeline was read from a buffer. -/
theorem Sound.passed_read (hs : Sound s h) {batch : List FramePacket} (hbatch : batch ∈ h.passed)
    {packet : FramePacket} (hpacket : packet ∈ batch) : ∃ r ∈ h.reads, r.packet = packet := by
  have hmem : packet ∈ h.picks.map Pick.packet := by
    rw [hs.picks]
    exact List.mem_append_left _ (List.mem_flatten.mpr ⟨batch, hbatch, hpacket⟩)
  obtain ⟨pick, hpick, rfl⟩ := List.mem_map.mp hmem
  exact List.mem_map.mp (hs.picks_read pick hpick).2

end Guarantees

/-- Over every run: a packet passed to the pipeline is, with all its data, one publication of its
camera's buffer; the frame numbers of a camera increase; a batch is within the batch size and has
distinct cameras; picks of a camera are an analytics interval apart; no packet was too old when it
was read; and every enqueued result belongs to the packet at the position of its output. -/
theorem scheduler_integrity (setup : SchedulerSetup n) (clockNs : UInt64)
    (events : List (Event n Output)) :
    let h := (observe setup clockNs events).history
    (∀ batch ∈ h.passed, ∀ packet ∈ batch, ∃ camera k p,
      (h.registers camera).published[k]? = some p ∧
      packet.cameraId = (setup.layout camera).cameraId ∧
      packet.frameId = k + 1 ∧ packet.frame = p.frame ∧
      (packet.capturedAtUnixNs : Int) = p.unixNs ∧
      (packet.capturedAtMonotonicNs : Int) = p.monotonicNs) ∧
    (∀ camera,
      ((h.passed.flatten.filter (·.cameraId = (setup.layout camera).cameraId)).map
        FramePacket.frameId).Pairwise (· < ·)) ∧
    (∀ batch ∈ h.passed, batch.length ≤ setup.configuration.detectorBatchSize ∧
      (batch.map FramePacket.cameraId).Nodup) ∧
    (∀ camera, ((h.picks.filter (·.camera = camera)).map Pick.clockNs).Pairwise
      fun first second => first + setup.intervalNs camera ≤ second) ∧
    h.passed.flatten <+: h.picks.map Pick.packet ∧
    (∀ pick ∈ h.picks, ∃ r ∈ h.reads, r.packet = pick.packet) ∧
    (∀ r ∈ h.reads, ((r.clockNs - r.packet.capturedAtMonotonicNs : Int) : ℚ) / 1000000 ≤
      setup.configuration.maxFrameAgeMs) ∧
    ∀ result ∈ h.enqueued, ∃ batch outputs, (batch, outputs) ∈ h.completed ∧
      batch ∈ h.passed ∧ ∃ (position : Nat) (packet : FramePacket),
        batch[position]? = some packet ∧ outputs[position]? = some result.output ∧
        result.cameraId = packet.cameraId ∧ result.frameId = packet.frameId ∧
        result.frame = some packet := by
  intro h
  have hs : Sound (observe setup clockNs events).state h := observe_sound setup clockNs events
  refine ⟨?_, hs.passed_increasing, hs.passed, ?_, ?_, ?_, fun r hr => (hs.reads r hr).2, ?_⟩
  · intro batch hbatch packet hpacket
    obtain ⟨r, hr, rfl⟩ := hs.passed_read hbatch hpacket
    obtain ⟨⟨camera, k, p, hp, hsource⟩, -⟩ := hs.reads r hr
    rw [hsource]
    obtain ⟨hunix, hmonotonic⟩ := hs.packet_eq hp (setup.layout camera).cameraId (k + 1)
    exact ⟨camera, k, p, hp, rfl, rfl, rfl, hunix, hmonotonic⟩
  · intro camera
    rw [List.pairwise_map]
    exact (hs.picks_of_camera camera).imp fun hprecedes => hprecedes.2
  · rw [hs.picks]
    exact List.prefix_append _ _
  · intro pick hpick
    exact List.mem_map.mp (hs.picks_read pick hpick).2
  · intro result hresult
    obtain ⟨packet, ⟨batch, outputs, hcompleted, hpassed, position, hpacket, houtput⟩, hcamera,
      hframe, -, hframes⟩ := hs.enqueued result hresult
    exact ⟨batch, outputs, hcompleted, hpassed, position, packet, hpacket, houtput, hcamera,
      hframe, hframes⟩

end EdgeSafety.SharedInferenceScheduler
