import EdgeSafety.Inference.Integrity

/-!
# The phases of `run_once`

A call of `run_once` gathers a batch, waits for the pipeline, and then either counts the failure or
delivers the results. `step_phase` sorts the steps by these phases: what gathering a batch leaves
alone is said once, in `Gathers`, so that an invariant about failures or about results only has to
look at the steps of its own phase.
-/

namespace EdgeSafety.SharedInferenceScheduler

variable {n : Nat} {setup : SchedulerSetup n} {Output : Type}

namespace Pc

/-- Between two calls, in `_collect_batch`, or waiting for the pipeline. -/
def Gathering : Pc n Output → Prop
  | .failed | .deliver _ _ | .put _ _ _ | .evict _ _ _ | .enqueue _ _ _ | .crashed => False
  | _ => True

/-- The batch the pipeline works on. -/
def submitted : Pc n Output → Option (List FramePacket)
  | .inferring batch => some batch
  | _ => none

/-- `len(batch)` of the batch whose results are delivered. -/
def count : Pc n Output → Nat
  | .deliver _ count | .put _ _ count | .evict _ _ count | .enqueue _ _ count => count
  | _ => 0

theorem Gathering.delivers_nothing {pc : Pc n Output} (h : pc.Gathering) :
    pc.undelivered = [] ∧ pc.result = none ∧ pc.count = 0 := by
  cases pc <;> first | exact ⟨rfl, rfl, rfl⟩ | cases h

end Pc

/-- A step of the event that leaves the scheduler thread where it is. -/
structure Waits (s : State setup Output) (h : History n Output) (t : State setup Output)
    (h' : History n Output) : Prop where
  clockNs : s.clockNs.toNat ≤ t.clockNs.toNat
  pc : t.pc = s.pc
  results : t.results = s.results
  metrics : t.metrics = s.metrics
  consecutiveFailures : t.consecutiveFailures = s.consecutiveFailures
  circuitOpenUntilNs : t.circuitOpenUntilNs = s.circuitOpenUntilNs
  passed : h'.passed = h.passed

/-- A step of `run_once` up to the call of the pipeline. -/
structure Gathers (s : State setup Output) (h : History n Output) (t : State setup Output)
    (h' : History n Output) : Prop where
  source : s.pc.Gathering ∧ s.pc.submitted = none
  target : t.pc.Gathering
  clockNs : t.clockNs = s.clockNs
  results : t.results = s.results
  metrics : t.metrics = { s.metrics with staleFrames := t.metrics.staleFrames }
  consecutiveFailures : t.consecutiveFailures = s.consecutiveFailures
  circuitOpenUntilNs : t.circuitOpenUntilNs = s.circuitOpenUntilNs
  passed : h'.passed = h.passed ++ t.pc.submitted.toList
  refused : s.pc = .idle → s.clockNs.toNat < s.circuitOpenUntilNs → t.pc = .idle

/-- The steps, by the phase of `run_once` they belong to. -/
inductive Phase (s : State setup Output) (h : History n Output) :
    Event n Output → State setup Output → History n Output → Prop
  | waits {e t h'} (waits : Waits s h t h')
      (event : (∃ clockNs, e = .tick clockNs) ∨ ∃ camera frame timeNs,
        e = .publish camera frame timeNs) : Phase s h e t h'
  | gathers {t h'} (gathers : Gathers s h t h') : Phase s h .scheduler t h'
  | getResult (first rest) (results : s.results = first :: rest) :
    Phase s h .getResult { s with results := rest } h
  | receive (batch outcome) (pc : s.pc = .inferring batch) :
    Phase s h (.pipeline outcome) (s.receive batch outcome) (h.receive setup batch outcome)
  | fail (pc : s.pc = .failed) : Phase s h .scheduler s.fail h
  | deliver (remaining count) (pc : s.pc = .deliver remaining count) :
    Phase s h .scheduler (s.deliver remaining count) h
  | put (result remaining count) (pc : s.pc = .put result remaining count) :
    Phase s h .scheduler
      { s with
        pc := if s.Full then .evict result remaining count
          else .enqueue result remaining count } h
  | evict (result remaining count) (pc : s.pc = .evict result remaining count) :
    Phase s h .scheduler (s.evict result remaining count) h
  | enqueue (result remaining count) (pc : s.pc = .enqueue result remaining count) :
    Phase s h .scheduler (s.enqueue result remaining count) (h.advance s)

section Gathers
variable {s : State setup Output} {h : History n Output}

theorem gathers_checkCircuit (hpc : s.pc = .idle) : Gathers s h s.checkCircuit h := by
  unfold State.checkCircuit
  split
  · refine ⟨?_, ?_, rfl, rfl, rfl, rfl, rfl, ?_, fun hidle _ => hidle⟩ <;> rw [hpc]
    · exact ⟨trivial, rfl⟩
    · trivial
    · exact (List.append_nil _).symm
  · next hclosed =>
    refine ⟨?_, trivial, rfl, rfl, rfl, rfl, rfl, (List.append_nil _).symm,
      fun _ hopen => absurd hopen hclosed⟩
    rw [hpc]
    exact ⟨trivial, rfl⟩

theorem gathers_collect {batch : List FramePacket} {checked : Nat}
    (hpc : s.pc = .collect batch checked) :
    Gathers s h (s.collect batch checked) (h.advance s) := by
  have hsource : s.pc.Gathering ∧ s.pc.submitted = none := by
    rw [hpc]
    exact ⟨trivial, rfl⟩
  have hbusy : s.pc ≠ .idle := by simp [hpc]
  simp only [History.advance, hpc]
  unfold State.collect
  by_cases hmore : checked < n ∧ batch.length < setup.configuration.detectorBatchSize
  · rw [dif_pos hmore, if_pos (Or.inl hmore)]
    by_cases hdue : s.NotDue ⟨s.cursor % n, Nat.mod_lt _ (Nat.zero_lt_of_lt hmore.1)⟩
    · simp only [if_pos hdue]
      exact ⟨hsource, trivial, rfl, rfl, rfl, rfl, rfl, (List.append_nil _).symm,
        fun hidle => absurd hidle hbusy⟩
    · simp only [if_neg hdue]
      exact ⟨hsource, trivial, rfl, rfl, rfl, rfl, rfl, (List.append_nil _).symm,
        fun hidle => absurd hidle hbusy⟩
  · rw [dif_neg hmore]
    by_cases hempty : batch.isEmpty
    · rw [if_pos (Or.inr hempty), if_pos hempty]
      exact ⟨hsource, trivial, rfl, rfl, rfl, rfl, rfl, (List.append_nil _).symm,
        fun _ _ => rfl⟩
    · rw [if_neg (not_or.mpr ⟨hmore, hempty⟩), if_neg hempty]
      exact ⟨hsource, trivial, rfl, rfl, rfl, rfl, rfl, rfl, fun hidle => absurd hidle hbusy⟩

/-- The end of an examination, with or without a packet in hand. -/
theorem gathers_takePacket {t : State setup Output} {x : Examination n}
    (hsource : s.pc.Gathering ∧ s.pc.submitted = none) (hbusy : s.pc ≠ .idle)
    (packet : Option FramePacket) (clockNs : t.clockNs = s.clockNs)
    (results : t.results = s.results)
    (metrics : t.metrics = { s.metrics with staleFrames := t.metrics.staleFrames })
    (consecutiveFailures : t.consecutiveFailures = s.consecutiveFailures)
    (circuitOpenUntilNs : t.circuitOpenUntilNs = s.circuitOpenUntilNs) :
    Gathers s h (t.takePacket x packet) h := by
  cases packet with
  | none =>
    exact ⟨hsource, trivial, clockNs, results, metrics, consecutiveFailures, circuitOpenUntilNs,
      (List.append_nil _).symm, fun hidle => absurd hidle hbusy⟩
  | some packet =>
    exact ⟨hsource, trivial, clockNs, results, metrics, consecutiveFailures, circuitOpenUntilNs,
      (List.append_nil _).symm, fun hidle => absurd hidle hbusy⟩

/-- What is known of the place of a running examination. -/
theorem examining_gathering {x : Examination n} (hx : s.pc.examining = some x) :
    (s.pc.Gathering ∧ s.pc.submitted = none) ∧ s.pc ≠ .idle := by
  cases hpc : s.pc
  case beforeStale | read | afterStale | resequence | picked =>
    exact ⟨⟨trivial, rfl⟩, fun hidle => by cases hidle⟩
  all_goals
    rw [hpc] at hx
    cases hx

end Gathers

theorem step_phase {s t : State setup Output} {e : Event n Output} (h : History n Output)
    (hstep : s.step e = some t) : Phase s h e t (h.record s e) := by
  have hrecorded := step_recorded h hstep
  generalize h.record s e = h' at hrecorded ⊢
  cases hrecorded with
  | tick clockNs le =>
    exact .waits ⟨UInt64.le_iff_toNat_le.mp le, rfl, rfl, rfl, rfl, rfl, rfl⟩
      (Or.inl ⟨clockNs, rfl⟩)
  | publish camera frame timeNs =>
    exact .waits ⟨Nat.le_refl _, rfl, rfl, rfl, rfl, rfl, rfl⟩ (Or.inr ⟨camera, frame, timeNs, rfl⟩)
  | getResult first rest results => exact .getResult first rest results
  | receive batch outcome pc => exact .receive batch outcome pc
  | checkCircuit pc => exact .gathers (gathers_checkCircuit pc)
  | collect batch checked pc => exact .gathers (gathers_collect pc)
  | beforeStale x pc =>
    obtain ⟨hsource, hbusy⟩ := examining_gathering (s := s) (x := x) (by rw [pc]; rfl)
    exact .gathers ⟨hsource, trivial, rfl, rfl, rfl, rfl, rfl, (List.append_nil _).symm,
      fun hidle => absurd hidle hbusy⟩
  | read x before pc =>
    obtain ⟨hsource, hbusy⟩ := examining_gathering (s := s) (x := x) (by rw [pc]; rfl)
    exact .gathers ⟨hsource, trivial, rfl, rfl, rfl, rfl, rfl, (List.append_nil _).symm,
      fun hidle => absurd hidle hbusy⟩
  | compareStale x before packet pc =>
    obtain ⟨hsource, hbusy⟩ := examining_gathering (s := s) (x := x) (by rw [pc]; rfl)
    unfold State.compareStale
    split
    · exact .gathers ⟨hsource, trivial, rfl, rfl, rfl, rfl, rfl, (List.append_nil _).symm,
        fun hidle => absurd hidle hbusy⟩
    · exact .gathers (gathers_takePacket hsource hbusy packet rfl rfl rfl rfl rfl)
  | resequence x packet pc =>
    obtain ⟨hsource, hbusy⟩ := examining_gathering (s := s) (x := x) (by rw [pc]; rfl)
    exact .gathers (gathers_takePacket hsource hbusy packet rfl rfl rfl rfl rfl)
  | pick x packet pc =>
    obtain ⟨hsource, hbusy⟩ := examining_gathering (s := s) (x := x) (by rw [pc]; rfl)
    exact .gathers ⟨hsource, trivial, rfl, rfl, rfl, rfl, rfl, (List.append_nil _).symm,
      fun hidle => absurd hidle hbusy⟩
  | fail pc => exact .fail pc
  | deliver remaining count pc => exact .deliver remaining count pc
  | put result remaining count pc => exact .put result remaining count pc
  | evict result remaining count pc => exact .evict result remaining count pc
  | enqueue result remaining count pc => exact .enqueue result remaining count pc

end EdgeSafety.SharedInferenceScheduler
