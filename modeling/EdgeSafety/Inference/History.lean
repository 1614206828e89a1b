import EdgeSafety.Inference.Scheduler

/-!
# What a scheduler run did

A run is followed by a history: for each camera the register of its buffer, the packets that were
read, picked and passed to the pipeline, the batches whose outputs were accepted, and the results
that were enqueued. The scheduler never looks at its history. `step_recorded` says what each step
does to the scheduler and adds to its history; invariants go through its cases. `Sourced` says
that the history tells the truth about the frames: every packet that was read is a publication of
its camera's register and was young enough.
-/

namespace EdgeSafety.SharedInferenceScheduler

/-- A packet that `read_latest` returned, and the time at which it did. -/
structure Read where
  packet : FramePacket
  clockNs : Nat

/-- A packet that `_collect_batch` took, and the time it kept in `_last_scheduled_ns`. -/
structure Pick (n : Nat) where
  camera : Fin n
  packet : FramePacket
  clockNs : Nat

/-- What a run did so far. -/
structure History (n : Nat) (Output : Type) where
  registers : Fin n → FrameRegister
  reads : List Read
  picks : List (Pick n)
  passed : List (List FramePacket)
  completed : List (List FramePacket × List Output)
  enqueued : List (ScheduledResult Output)

variable {n : Nat} {setup : SchedulerSetup n} {Output : Type}

namespace History

/-- Nothing happened yet. -/
def empty : History n Output := ⟨fun _ => .empty, [], [], [], [], []⟩

/-- A call on the buffer of a camera. -/
def call (h : History n Output) (s : State setup Output) (camera : Fin n)
    (c : LatestFrameBuffer.Call) : History n Output :=
  { h with
    registers :=
      Function.update h.registers camera ((s.buffers camera).record (h.registers camera) c) }

/-- The packet that `read_latest` returned, if any, was read. -/
def read (h : History n Output) (s : State setup Output) (camera : Fin n) : History n Output :=
  { h.call s camera (s.readCall camera) with
    reads := h.reads ++ (s.readPacket camera).toList.map fun packet => ⟨packet, s.clockNs.toNat⟩ }

/-- What a step of the scheduler thread adds. -/
def advance (h : History n Output) (s : State setup Output) : History n Output :=
  match s.pc with
  | .collect batch checked =>
    if checked < n ∧ batch.length < setup.configuration.detectorBatchSize ∨ batch.isEmpty then h
    else { h with passed := h.passed ++ [batch] }
  | .read x _ => h.read s x.camera
  | .picked x packet => { h with picks := h.picks ++ [⟨x.camera, packet, s.clockNs.toNat⟩] }
  | .enqueue result _ _ => if s.Full then h else { h with enqueued := h.enqueued ++ [result] }
  | _ => h

/-- What the end of a call of `infer_frames` adds. -/
def receive (h : History n Output) (setup : SchedulerSetup n) (batch : List FramePacket) :
    PipelineOutcome Output → History n Output
  | .raised => h
  | .returned outputs elapsedMs =>
    if State.Accepted setup batch outputs elapsedMs then
      { h with completed := h.completed ++ [(batch, outputs)] }
    else h

/-- What a step from `s` adds. -/
def record (h : History n Output) (s : State setup Output) : Event n Output → History n Output
  | .tick _ => h
  | .publish camera frame timeNs => h.call s camera (s.publishCall frame timeNs)
  | .scheduler => h.advance s
  | .pipeline outcome =>
    match s.pc with
    | .inferring batch => h.receive setup batch outcome
    | _ => h
  | .getResult => h

end History

/-- A scheduler with its history. -/
abbrev Observed (setup : SchedulerSetup n) (Output : Type) :=
  Transition.Recorded (State setup Output) (History n Output)

namespace Observed

/-- One step, recorded. -/
def step : Observed setup Output → Event n Output → Option (Observed setup Output) :=
  Transition.recorded State.step History.record

/-- A new scheduler. -/
def init (setup : SchedulerSetup n) (Output : Type) (clockNs : UInt64) :
    Observed setup Output :=
  ⟨.init setup Output clockNs, .empty⟩

end Observed

/-- The examination under way. -/
def Pc.examining : Pc n Output → Option (Examination n)
  | .beforeStale x | .read x _ | .afterStale x _ _ | .resequence x _ | .picked x _ => some x
  | _ => none

/-- The locals `batch` and `checked` of `_collect_batch`, while it runs. -/
def Pc.round : Pc n Output → Option (List FramePacket × Nat)
  | .collect batch checked => some (batch, checked)
  | .beforeStale x | .read x _ | .afterStale x _ _ | .resequence x _ | .picked x _ =>
    some (x.batch, x.checked)
  | _ => none

/-- The recorded steps, one constructor for each place the scheduler thread can be at. -/
inductive RecordedStep (s : State setup Output) (h : History n Output) :
    Event n Output → State setup Output → History n Output → Prop
  | tick (clockNs) (le : s.clockNs ≤ clockNs) :
    RecordedStep s h (.tick clockNs) { s with clockNs := clockNs } h
  | publish (camera frame timeNs) :
    RecordedStep s h (.publish camera frame timeNs)
      (s.callBuffer camera (s.publishCall frame timeNs))
      (h.call s camera (s.publishCall frame timeNs))
  | getResult (first rest) (results : s.results = first :: rest) :
    RecordedStep s h .getResult { s with results := rest } h
  | receive (batch outcome) (pc : s.pc = .inferring batch) :
    RecordedStep s h (.pipeline outcome) (s.receive batch outcome) (h.receive setup batch outcome)
  | checkCircuit (pc : s.pc = .idle) : RecordedStep s h .scheduler s.checkCircuit h
  | collect (batch checked) (pc : s.pc = .collect batch checked) :
    RecordedStep s h .scheduler (s.collect batch checked) (h.advance s)
  | beforeStale (x) (pc : s.pc = .beforeStale x) :
    RecordedStep s h .scheduler { s with pc := .read x (s.buffers x.camera).stale } h
  | read (x before) (pc : s.pc = .read x before) :
    RecordedStep s h .scheduler
      { s.callBuffer x.camera (s.readCall x.camera) with
        pc := .afterStale x before (s.readPacket x.camera) } (h.read s x.camera)
  | compareStale (x before packet) (pc : s.pc = .afterStale x before packet) :
    RecordedStep s h .scheduler (s.compareStale x before packet) h
  | resequence (x packet) (pc : s.pc = .resequence x packet) :
    RecordedStep s h .scheduler (s.resequence x packet) h
  | pick (x packet) (pc : s.pc = .picked x packet) :
    RecordedStep s h .scheduler (s.pick x packet)
      { h with picks := h.picks ++ [⟨x.camera, packet, s.clockNs.toNat⟩] }
  | fail (pc : s.pc = .failed) : RecordedStep s h .scheduler s.fail h
  | deliver (remaining count) (pc : s.pc = .deliver remaining count) :
    RecordedStep s h .scheduler (s.deliver remaining count) h
  | put (result remaining count) (pc : s.pc = .put result remaining count) :
    RecordedStep s h .scheduler
      { s with
        pc := if s.Full then .evict result remaining count
          else .enqueue result remaining count } h
  | evict (result remaining count) (pc : s.pc = .evict result remaining count) :
    RecordedStep s h .scheduler (s.evict result remaining count) h
  | enqueue (result remaining count) (pc : s.pc = .enqueue result remaining count) :
    RecordedStep s h .scheduler (s.enqueue result remaining count) (h.advance s)

theorem step_recorded {s t : State setup Output} {e : Event n Output} (h : History n Output)
    (hstep : s.step e = some t) : RecordedStep s h e t (h.record s e) := by
  cases e with
  | tick clockNs =>
    simp only [State.step, Option.ite_none_right_eq_some, Option.some.injEq] at hstep
    obtain ⟨hle, rfl⟩ := hstep
    exact .tick clockNs hle
  | publish camera frame timeNs =>
    obtain rfl := Option.some.inj hstep
    exact .publish camera frame timeNs
  | getResult =>
    simp only [State.step] at hstep
    split at hstep
    · cases hstep
    · next first rest hresults =>
      obtain rfl := Option.some.inj hstep
      exact .getResult first rest hresults
  | pipeline outcome =>
    simp only [State.step] at hstep
    split at hstep
    · next batch hpc =>
      obtain rfl := Option.some.inj hstep
      simp only [History.record, hpc]
      exact .receive batch outcome hpc
    · cases hstep
  | scheduler =>
    simp only [State.step, State.advance] at hstep
    simp only [History.record]
    cases hpc : s.pc <;> simp only [hpc, reduceCtorEq, Option.some.injEq] at hstep <;>
      subst hstep
    case collect batch checked => exact .collect batch checked hpc
    case enqueue result remaining count => exact .enqueue result remaining count hpc
    all_goals simp only [History.advance, hpc]
    case idle => exact .checkCircuit hpc
    case beforeStale x => exact .beforeStale x hpc
    case read x before => exact .read x before hpc
    case afterStale x before packet => exact .compareStale x before packet hpc
    case resequence x packet => exact .resequence x packet hpc
    case picked x packet => exact .pick x packet hpc
    case failed => exact .fail hpc
    case deliver remaining count => exact .deliver remaining count hpc
    case put result remaining count => exact .put result remaining count hpc
    case evict result remaining count => exact .evict result remaining count hpc

/-- A step outside `_collect_batch`: it touches nothing that a batch is made from. -/
structure Outside (s : State setup Output) (h : History n Output) (t : State setup Output)
    (h' : History n Output) : Prop where
  clockNs : t.clockNs = s.clockNs
  buffers : t.buffers = s.buffers
  cursor : t.cursor = s.cursor
  lastSequences : t.lastSequences = s.lastSequences
  lastScheduledNs : t.lastScheduledNs = s.lastScheduledNs
  registers : h'.registers = h.registers
  reads : h'.reads = h.reads
  picks : h'.picks = h.picks
  passed : h'.passed = h.passed
  round : t.pc.round = none

section Outside
variable {s t : State setup Output} {h h' : History n Output}

theorem Outside.examining (ho : Outside s h t h') : t.pc.examining = none := by
  have hround := ho.round
  cases hpc : t.pc <;> rw [hpc] at hround <;> first | rfl | cases hround

theorem outside_receive (s : State setup Output) (h : History n Output)
    (batch : List FramePacket) (outcome : PipelineOutcome Output) :
    Outside s h (s.receive batch outcome) (h.receive setup batch outcome) := by
  cases outcome with
  | raised => exact ⟨rfl, rfl, rfl, rfl, rfl, rfl, rfl, rfl, rfl, rfl⟩
  | returned outputs elapsedMs =>
    unfold State.receive History.receive
    by_cases haccepted : State.Accepted setup batch outputs elapsedMs
    · simp only [if_pos haccepted]
      exact ⟨rfl, rfl, rfl, rfl, rfl, rfl, rfl, rfl, rfl, rfl⟩
    · simp only [if_neg haccepted]
      exact ⟨rfl, rfl, rfl, rfl, rfl, rfl, rfl, rfl, rfl, rfl⟩

theorem outside_fail (s : State setup Output) (h : History n Output) : Outside s h s.fail h := by
  unfold State.fail
  split <;> exact ⟨rfl, rfl, rfl, rfl, rfl, rfl, rfl, rfl, rfl, rfl⟩

theorem outside_deliver (s : State setup Output) (h : History n Output)
    (remaining : List (FramePacket × Output)) (count : Nat) :
    Outside s h (s.deliver remaining count) h := by
  cases remaining <;> exact ⟨rfl, rfl, rfl, rfl, rfl, rfl, rfl, rfl, rfl, rfl⟩

theorem outside_put (s : State setup Output) (h : History n Output)
    (result : ScheduledResult Output) (remaining : List (FramePacket × Output)) (count : Nat) :
    Outside s h
      { s with
        pc := if s.Full then .evict result remaining count
          else .enqueue result remaining count } h := by
  refine ⟨rfl, rfl, rfl, rfl, rfl, rfl, rfl, rfl, rfl, ?_⟩
  dsimp only
  split <;> rfl

theorem outside_evict (s : State setup Output) (h : History n Output)
    (result : ScheduledResult Output) (remaining : List (FramePacket × Output)) (count : Nat) :
    Outside s h (s.evict result remaining count) h := by
  unfold State.evict
  split <;> exact ⟨rfl, rfl, rfl, rfl, rfl, rfl, rfl, rfl, rfl, rfl⟩

theorem outside_enqueue {result : ScheduledResult Output}
    {remaining : List (FramePacket × Output)} {count : Nat} (h : History n Output)
    (hpc : s.pc = .enqueue result remaining count) :
    Outside s h (s.enqueue result remaining count) (h.advance s) := by
  simp only [History.advance, hpc, State.enqueue]
  split <;> exact ⟨rfl, rfl, rfl, rfl, rfl, rfl, rfl, rfl, rfl, rfl⟩

end Outside

/-- What a step does to the buffers, with what it adds to the registers and the reads. -/
inductive BufferChange (s : State setup Output) (h : History n Output) (t : State setup Output)
    (h' : History n Output) : Prop
  | none (buffers : t.buffers = s.buffers) (registers : h'.registers = h.registers)
      (reads : h'.reads = h.reads)
  | publish (camera : Fin n) (frame : NdArray) (timeNs : UInt64)
      (buffers : t.buffers = (s.callBuffer camera (s.publishCall frame timeNs)).buffers)
      (registers : h'.registers = (h.call s camera (s.publishCall frame timeNs)).registers)
      (reads : h'.reads = h.reads)
  | read (camera : Fin n)
      (buffers : t.buffers = (s.callBuffer camera (s.readCall camera)).buffers)
      (registers : h'.registers = (h.call s camera (s.readCall camera)).registers)
      (reads : h'.reads = (h.read s camera).reads)

@[simp]
theorem takePacket_buffers (s : State setup Output) (x : Examination n)
    (packet : Option FramePacket) : (s.takePacket x packet).buffers = s.buffers := by
  cases packet <;> rfl

theorem collect_buffers (s : State setup Output) (batch : List FramePacket) (checked : Nat) :
    (s.collect batch checked).buffers = s.buffers := by
  unfold State.collect
  split <;> rfl

theorem compareStale_buffers (s : State setup Output) (x : Examination n) (beforeStale : Nat)
    (packet : Option FramePacket) :
    (s.compareStale x beforeStale packet).buffers = s.buffers := by
  unfold State.compareStale
  split
  · rfl
  · exact takePacket_buffers s x packet

theorem Outside.bufferChange {s t : State setup Output} {h h' : History n Output}
    (ho : Outside s h t h') : BufferChange s h t h' :=
  .none ho.buffers ho.registers ho.reads

theorem step_bufferChange {s t : State setup Output} {e : Event n Output}
    (h : History n Output) (hstep : s.step e = some t) :
    BufferChange s h t (h.record s e) := by
  have hrecorded := step_recorded h hstep
  generalize h.record s e = h' at hrecorded ⊢
  cases hrecorded with
  | tick clockNs le => exact .none rfl rfl rfl
  | publish camera frame timeNs => exact .publish camera frame timeNs rfl rfl rfl
  | getResult first rest results => exact .none rfl rfl rfl
  | receive batch outcome pc => exact (outside_receive s h batch outcome).bufferChange
  | checkCircuit pc =>
    unfold State.checkCircuit
    split <;> exact .none rfl rfl rfl
  | collect batch checked pc =>
    simp only [History.advance, pc]
    refine .none (collect_buffers s batch checked) ?_ ?_ <;> split <;> rfl
  | beforeStale x pc => exact .none rfl rfl rfl
  | read x before pc => exact .read x.camera rfl rfl rfl
  | compareStale x before packet pc =>
    exact .none (compareStale_buffers s x before packet) rfl rfl
  | resequence x packet pc => exact .none (takePacket_buffers _ x packet) rfl rfl
  | pick x packet pc => exact .none rfl rfl rfl
  | fail pc => exact (outside_fail s h).bufferChange
  | deliver remaining count pc => exact (outside_deliver s h remaining count).bufferChange
  | put result remaining count pc => exact (outside_put s h result remaining count).bufferChange
  | evict result remaining count pc =>
    exact (outside_evict s h result remaining count).bufferChange
  | enqueue result remaining count pc => exact (outside_enqueue h pc).bufferChange

/-- The history tells the truth about the frames. -/
structure Sourced (s : State setup Output) (h : History n Output) : Prop where
  represents : ∀ camera, (s.buffers camera).Represents (h.registers camera)
  clocked : ∀ camera, ∀ p ∈ (h.registers camera).published,
    ∃ timeNs clockNs : UInt64, p.unixNs = timeNs.toNat ∧ p.monotonicNs = clockNs.toNat
  reads : ∀ r ∈ h.reads,
    (∃ camera, (h.registers camera).Publishes (setup.layout camera).cameraId r.packet) ∧
      ((r.clockNs - r.packet.capturedAtMonotonicNs : Int) : ℚ) / 1000000 ≤
        setup.configuration.maxFrameAgeMs

theorem init_sourced (setup : SchedulerSetup n) (clockNs : UInt64) :
    Sourced (State.init setup Output clockNs) History.empty :=
  ⟨fun camera => LatestFrameBuffer.empty_represents (setup.layout camera),
    fun _ _ h => absurd h List.not_mem_nil, fun _ h => absurd h List.not_mem_nil⟩

/-- A call on one buffer keeps every buffer linked to its register. -/
theorem represents_call {s : State setup Output} {h : History n Output}
    (hs : ∀ camera, (s.buffers camera).Represents (h.registers camera)) (camera : Fin n)
    (c : LatestFrameBuffer.Call) (other : Fin n) :
    ((s.callBuffer camera c).buffers other).Represents ((h.call s camera c).registers other) := by
  by_cases hother : other = camera
  · subst hother
    simp only [State.callBuffer, History.call, Function.update_self]
    exact (hs other).call c
  · simp only [State.callBuffer, History.call, Function.update_of_ne hother]
    exact hs other

/-- A call on one buffer takes back nothing that was published on any. -/
theorem published_prefix_call (s : State setup Output) (h : History n Output) (camera : Fin n)
    (c : LatestFrameBuffer.Call) (other : Fin n) :
    (h.registers other).published <+: ((h.call s camera c).registers other).published := by
  by_cases hother : other = camera
  · subst hother
    simp only [History.call, Function.update_self]
    exact LatestFrameBuffer.published_prefix_record _ _ c
  · simp only [History.call, Function.update_of_ne hother]
    exact List.prefix_rfl

/-- A publish of a capture process stamps the frame with two readings of the clocks. -/
theorem clocked_publish {s : State setup Output} {h : History n Output} (hs : Sourced s h)
    (camera : Fin n) (frame : NdArray) (timeNs : UInt64) (other : Fin n) :
    ∀ p ∈ ((h.call s camera (s.publishCall frame timeNs)).registers other).published,
      ∃ timeNs clockNs : UInt64, p.unixNs = timeNs.toNat ∧ p.monotonicNs = clockNs.toNat := by
  intro p hp
  by_cases hother : other = camera
  · subst hother
    simp only [History.call, Function.update_self, State.publishCall,
      LatestFrameBuffer.record] at hp
    split at hp
    · rcases List.mem_append.mp hp with hp | hp
      · exact hs.clocked other p hp
      · obtain rfl := List.mem_singleton.mp hp
        exact ⟨timeNs, s.clockNs, rfl, rfl⟩
    · exact hs.clocked other p hp
  · simp only [History.call, Function.update_of_ne hother] at hp
    exact hs.clocked other p hp

/-- A read publishes nothing. -/
theorem published_read (s : State setup Output) (h : History n Output) (camera other : Fin n) :
    ((h.call s camera (s.readCall camera)).registers other).published =
      (h.registers other).published := by
  by_cases hother : other = camera
  · subst hother
    simp only [History.call, Function.update_self, State.readCall, LatestFrameBuffer.record]
    split <;> rfl
  · simp only [History.call, Function.update_of_ne hother]

/-- What `read_latest` returns is a publication of the camera, and young enough. -/
theorem Sourced.readPacket {s : State setup Output} {h : History n Output} (hs : Sourced s h)
    {camera : Fin n} {packet : FramePacket} (hread : s.readPacket camera = some packet) :
    (h.registers camera).Publishes (setup.layout camera).cameraId packet ∧
      ((s.clockNs.toNat - packet.capturedAtMonotonicNs : Int) : ℚ) / 1000000 ≤
        setup.configuration.maxFrameAgeMs := by
  constructor
  · obtain ⟨p, hp, rfl⟩ := (hs.represents camera).readLatest_eq_some hread
    exact FrameRegister.publishes_newest hp _
  · obtain ⟨hfresh, rfl⟩ := LatestFrameBuffer.readLatest_eq_some hread
    exact LatestFrameBuffer.ageMs_le_of_fresh hfresh

theorem Sourced.step {s t : State setup Output} {h : History n Output} {e : Event n Output}
    (hs : Sourced s h) (hstep : s.step e = some t) : Sourced t (h.record s e) := by
  cases step_bufferChange h hstep with
  | none buffers registers reads =>
    refine ⟨?_, ?_, ?_⟩
    · rw [buffers, registers]
      exact hs.represents
    · rw [registers]
      exact hs.clocked
    · rw [registers, reads]
      exact hs.reads
  | publish camera frame timeNs buffers registers reads =>
    refine ⟨?_, ?_, ?_⟩
    · rw [buffers, registers]
      exact represents_call hs.represents camera _
    · rw [registers]
      exact clocked_publish hs camera frame timeNs
    · rw [registers, reads]
      intro r hr
      obtain ⟨⟨source, hsource⟩, hage⟩ := hs.reads r hr
      exact ⟨⟨source, hsource.mono (published_prefix_call s h camera _ source)⟩, hage⟩
  | read camera buffers registers reads =>
    refine ⟨?_, ?_, ?_⟩
    · rw [buffers, registers]
      exact represents_call hs.represents camera _
    · rw [registers]
      intro other p hp
      rw [published_read] at hp
      exact hs.clocked other p hp
    · rw [registers, reads]
      have hextends := published_prefix_call s h camera (s.readCall camera)
      intro r hr
      rcases List.mem_append.mp hr with hr | hr
      · obtain ⟨⟨source, hsource⟩, hage⟩ := hs.reads r hr
        exact ⟨⟨source, hsource.mono (hextends source)⟩, hage⟩
      · obtain ⟨packet, hpacket, rfl⟩ := List.mem_map.mp hr
        obtain ⟨hsource, hage⟩ := hs.readPacket (Option.mem_toList.mp hpacket)
        exact ⟨⟨camera, hsource.mono (hextends camera)⟩, hage⟩

/-- A packet read from a run's buffers has the timestamps of its publish. -/
theorem Sourced.packet_eq {s : State setup Output} {h : History n Output} (hs : Sourced s h)
    {camera : Fin n} {k : Nat} {p : Publication}
    (hp : (h.registers camera).published[k]? = some p) (cameraId : String) (frameId : Nat) :
    ((p.packet cameraId frameId).capturedAtUnixNs : Int) = p.unixNs ∧
      ((p.packet cameraId frameId).capturedAtMonotonicNs : Int) = p.monotonicNs := by
  obtain ⟨timeNs, clockNs, hunix, hmonotonic⟩ := hs.clocked camera p (List.mem_of_getElem? hp)
  simp only [Publication.packet, hunix, hmonotonic]
  rw [cULongLong_of_lt timeNs.toNat_lt, cULongLong_of_lt clockNs.toNat_lt]
  exact ⟨rfl, rfl⟩

end EdgeSafety.SharedInferenceScheduler
