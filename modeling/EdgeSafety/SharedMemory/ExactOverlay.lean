import EdgeSafety.Lib.Transition
import EdgeSafety.SharedMemory.SlotCustody

/-!
# The overlay is drawn on the analysed frame

A run is recorded in a history: which slots are acquired, which analysis the result in the result
segment is from, and what P1 consumed. A slot in custody keeps its frame (`readFrame_step`), so the
frame that P1 reads back for a result is the one P2 passed to `detect` for it (`overlay_exact`),
whatever the order of the steps and however many results were overwritten.
-/

namespace EdgeSafety.DoubleBuffer

/-- An analysis of P2: the frame that was passed to `detect`, and the encoded result. -/
structure Analysis where
  frame : NdArray
  encoded : List UInt8

/-- What P1 got from the double buffer for a result: the result of `read_result`, and the frame
that it read back. -/
structure Consumption (Payload : Type) where
  analysis : Option Analysis
  payload : Payload
  resultBuf : Fin 2
  exactFrame : Option NdArray

/-- What a run did so far: the slots that P2 acquired and that were not released since, the
analysis whose result was written last, the one whose result P1 read last, and what P1 consumed. -/
structure History (Payload : Type) where
  acquired : Fin 2 → Bool
  written : Option Analysis
  read : Option Analysis
  consumed : List (Consumption Payload)

variable {layout : FrameBufferLayout} {Payload : Type} {loads : List UInt8 → Option Payload}

namespace History

/-- Nothing happened yet. -/
def empty : History Payload := ⟨fun _ => false, none, none, []⟩

/-- What a step of P1 adds. -/
def capture (h : History Payload) (s : State layout Payload) : History Payload :=
  match s.capture with
  | .readResult => { h with read := h.written }
  | .readFrame payload resultBuf =>
    { h with
      consumed := h.consumed ++ [⟨h.read, payload, resultBuf, s.memory.readFrame resultBuf⟩] }
  | .release resultBuf => { h with acquired := Function.update h.acquired resultBuf false }
  | _ => h

/-- What a step of P2 adds. -/
def worker (h : History Payload) (s : State layout Payload) : History Payload :=
  match s.worker with
  | .acquire bufIdx => { h with acquired := Function.update h.acquired bufIdx true }
  | .release bufIdx => { h with acquired := Function.update h.acquired bufIdx false }
  | .writeResult _ frame encoded => { h with written := some ⟨frame, encoded⟩ }
  | _ => h

@[simp]
theorem capture_written (h : History Payload) (s : State layout Payload) :
    (h.capture s).written = h.written := by
  unfold capture
  split <;> rfl

@[simp]
theorem worker_read (h : History Payload) (s : State layout Payload) :
    (h.worker s).read = h.read := by
  unfold worker
  split <;> rfl

@[simp]
theorem worker_consumed (h : History Payload) (s : State layout Payload) :
    (h.worker s).consumed = h.consumed := by
  unfold worker
  split <;> rfl

/-- What a step from `s` adds. -/
def record (h : History Payload) (s : State layout Payload) : Event → History Payload
  | .capture => h.capture s
  | .worker => h.worker s
  | _ => h

end History

/-- The frame P2 is analysing, and its slot. -/
def WorkerPc.analysing : WorkerPc → Option (Fin 2 × NdArray)
  | .detect bufIdx frame | .writeResult bufIdx frame _ => some (bufIdx, frame)
  | _ => none

/-- What `read_result` returns for the result of an analysis. -/
def Analysis.payload (loads : List UInt8 → Option Payload) (a : Analysis) : Option Payload :=
  (FrameBuffer.resultText (FrameBuffer.terminated [] a.encoded)).bind loads

/-- The frame of the analysis is still in the slot. -/
def KeptIn (m : FrameBuffer layout) (b : Fin 2) (analysis : Option Analysis) : Prop :=
  ∃ a, analysis = some a ∧ m.readFrame b = some a.frame

/-- The frames in custody are the analysed ones. -/
structure Exact (loads : List UInt8 → Option Payload) (s : State layout Payload)
    (h : History Payload) : Prop where
  acquired : ∀ b, h.acquired b = true ↔ (s.memory.slot b).state = .locked
  analysing : ∀ bufIdx frame, s.worker.analysing = some (bufIdx, frame) →
    s.memory.readFrame bufIdx = some frame
  text : ∀ a, h.written = some a →
    (FrameBuffer.resultText s.memory.result).bind loads = a.payload loads
  unread : ∀ b, s.held .result = some b → KeptIn s.memory b h.written
  reading : ∀ payload resultBuf, s.capture = .readFrame payload resultBuf →
    KeptIn s.memory resultBuf h.read ∧ h.read.bind (·.payload loads) = some payload
  consumed : ∀ c ∈ h.consumed, ∃ a, c.analysis = some a ∧ c.exactFrame = some a.frame ∧
    a.payload loads = some c.payload

theorem init_exact (layout : FrameBufferLayout) (loads : List UInt8 → Option Payload) :
    Exact loads (State.init layout Payload) History.empty where
  acquired b := by
    simp [History.empty, State.init, FrameBuffer.create, FrameBuffer.attach]
  analysing _ _ h := by cases h
  text _ h := by cases h
  unread b h := by
    rw [held_result_of_read (fun h => h rfl)] at h
    cases h
  reading _ _ h := by cases h
  consumed _ h := absurd h List.not_mem_nil

section Step
variable {s t : State layout Payload} {h : History Payload} {e : Event}

/-- The frame in a LOCKED slot stays as it is. -/
theorem readFrame_step (hs : Consistent s) (hstep : s.step loads e = some t) {b : Fin 2}
    (hlocked : (s.memory.slot b).state = .locked) :
    t.memory.readFrame b = s.memory.readFrame b := by
  cases State.step_cases hstep with
  | writeFrame frame freeIdx pc =>
    have hne : b ≠ freeIdx := by
      rintro rfl
      rw [hs.writing frame b pc] at hlocked
      cases hlocked
    exact congrArg FrameSlot.readFrame (FrameBuffer.writeFrame_slot_of_ne hne)
  | release resultBuf pc => exact FrameBuffer.setState_readFrame
  | acquire bufIdx pc => exact FrameBuffer.setState_readFrame
  | releaseEmpty bufIdx pc => exact FrameBuffer.setState_readFrame
  | writeResult bufIdx frame encoded pc =>
    exact congrArg FrameSlot.readFrame (congrFun FrameBuffer.writeResult_slot b)
  | _ => rfl

theorem KeptIn.step {b : Fin 2} {analysis : Option Analysis}
    (hkept : KeptIn s.memory b analysis) (hs : Consistent s) (hstep : s.step loads e = some t)
    {holder : Holder} (hheld : s.held holder = some b) : KeptIn t.memory b analysis := by
  obtain ⟨a, ha, hframe⟩ := hkept
  exact ⟨a, ha, (readFrame_step hs hstep (hs.state_of_held hheld)).trans hframe⟩

/-- A slot is LOCKED as long as it is acquired. -/
theorem Exact.acquired_step (hx : Exact loads s h) (hs : Consistent s)
    (hstep : s.step loads e = some t) (b : Fin 2) :
    (h.record s e).acquired b = true ↔ (t.memory.slot b).state = .locked := by
  have hold := hx.acquired b
  have hreleased : ∀ b',
      Function.update h.acquired b' false b = true ↔ b ∈ (s.memory.release b').locked := by
    intro b'
    rw [FrameBuffer.locked_release]
    by_cases hb : b = b'
    · simp [hb]
    · simp [hb, hold, FrameBuffer.mem_locked]
  cases State.step_cases hstep with
  | pickFree frame pc | readResult pc | readBack payload resultBuf pc
  | overlay payload resultBuf exactFrame pc =>
    simp only [History.record, History.capture, pc]
    exact hold
  | writeFrame frame freeIdx pc =>
    simp only [History.record, History.capture, pc]
    have hlocked := FrameBuffer.locked_writeFrame (hs.writing frame freeIdx pc) frame
    exact hold.trans (Set.ext_iff.mp hlocked b).symm
  | release resultBuf pc =>
    simp only [History.record, History.capture, pc]
    exact hreleased resultBuf
  | findFilled pc | readFrame bufIdx pc =>
    simp only [History.record, History.worker, pc]
    exact hold
  | acquire bufIdx pc =>
    simp only [History.record, History.worker, pc]
    change _ ↔ b ∈ (s.memory.acquire bufIdx).locked
    rw [FrameBuffer.locked_acquire]
    by_cases hb : b = bufIdx
    · simp [hb]
    · simp [hb, hold, FrameBuffer.mem_locked]
  | releaseEmpty bufIdx pc =>
    simp only [History.record, History.worker, pc]
    exact hreleased bufIdx
  | writeResult bufIdx frame encoded pc =>
    simp only [History.record, History.worker, pc]
    exact hold.trans (Set.ext_iff.mp (FrameBuffer.locked_writeResult encoded) b).symm
  | handleFrame frame pc => exact hold
  | captureRaises payload resultBuf exactFrame pc => exact hold
  | detected bufIdx frame encoded pc => exact hold
  | workerRaises bufIdx frame pc => exact hold

/-- The frame P2 analyses is the one in its slot. -/
theorem Exact.analysing_step (hx : Exact loads s h) (hs : Consistent s)
    (hstep : s.step loads e = some t) {bufIdx : Fin 2} {frame : NdArray}
    (ht : t.worker.analysing = some (bufIdx, frame)) : t.memory.readFrame bufIdx = some frame := by
  have hold : s.worker.analysing = some (bufIdx, frame) →
      t.memory.readFrame bufIdx = some frame := by
    intro hw
    have hheld : s.held .worker = some bufIdx := by
      change s.worker.held = some bufIdx
      cases hpc : s.worker <;> rw [hpc] at hw <;> cases hw <;> rfl
    rw [readFrame_step hs hstep (hs.state_of_held hheld)]
    exact hx.analysing bufIdx frame hw
  cases State.step_cases hstep with
  | findFilled pc =>
    simp only [State.findFilled] at ht
    split at ht <;> cases ht
  | acquire => cases ht
  | readFrame bufIdx' pc =>
    simp only [State.readFrame] at ht
    split at ht
    · next hframe =>
      cases ht
      exact hframe
    · cases ht
  | releaseEmpty => cases ht
  | writeResult bufIdx' frame' encoded pc =>
    rcases writeResult_cases s bufIdx' encoded with ⟨-, hworker, -⟩ | ⟨-, hworker, -⟩ <;>
    · rw [hworker] at ht
      cases ht
  | detected bufIdx' frame' encoded pc =>
    apply hold
    rw [pc]
    exact ht
  | workerRaises => cases ht
  | _ => exact hold ht

/-- Only `write_result` changes the result segment. -/
theorem Exact.text_step (hx : Exact loads s h) (hstep : s.step loads e = some t) {a : Analysis}
    (ht : (h.record s e).written = some a) :
    (FrameBuffer.resultText t.memory.result).bind loads = a.payload loads := by
  cases State.step_cases hstep with
  | writeResult bufIdx frame encoded pc =>
    simp only [History.record, History.worker, pc, Option.some.injEq] at ht
    subst ht
    change (FrameBuffer.resultText (s.memory.writeResult encoded bufIdx).2.result).bind loads = _
    rw [FrameBuffer.writeResult_result, FrameBuffer.resultText_terminated]
    rfl
  | pickFree | writeFrame | readResult | readBack | overlay | release =>
    exact hx.text a ((h.capture_written s).symm.trans ht)
  | findFilled pc | acquire bufIdx pc | readFrame bufIdx pc | releaseEmpty bufIdx pc =>
    simp only [History.record, History.worker, pc] at ht
    exact hx.text a ht
  | handleFrame | captureRaises | detected | workerRaises => exact hx.text a ht

/-- The frame of an unread result stays in its slot. -/
theorem Exact.unread_step (hx : Exact loads s h) (hs : Consistent s)
    (hstep : s.step loads e = some t) {b : Fin 2} (ht : t.held .result = some b) :
    KeptIn t.memory b (h.record s e).written := by
  have hold : s.held .result = some b → KeptIn t.memory b h.written := fun hheld =>
    (hx.unread b hheld).step hs hstep hheld
  cases State.step_cases hstep with
  | readResult pc =>
    change KeptIn _ b (h.capture s).written
    rw [History.capture_written]
    rcases readResult_cases loads hs with
      ⟨-, hread⟩ | ⟨-, b', -, ⟨-, hread⟩ | ⟨payload, -, hread⟩⟩
    · rw [hread] at ht
      exact hold ht
    · rw [hread, held_result_of_read fun hne => hne rfl] at ht
      cases ht
    · rw [hread, held_result_of_read fun hne => hne rfl] at ht
      cases ht
  | writeResult bufIdx frame encoded pc =>
    simp only [History.record, History.worker, pc]
    have hindex := (held_result_iff.mp ht).2
    have hb : bufIdx = b := by
      rw [State.writeResult, FrameBuffer.writeResult_resultForBuf] at hindex
      omega
    subst hb
    have hframe := hx.analysing bufIdx frame (congrArg WorkerPc.analysing pc)
    refine ⟨⟨frame, encoded⟩, rfl, ?_⟩
    exact (congrArg FrameSlot.readFrame (congrFun FrameBuffer.writeResult_slot bufIdx)).trans hframe
  | pickFree | writeFrame | readBack | overlay | release =>
    change KeptIn _ b (h.capture s).written
    rw [History.capture_written]
    exact hold ht
  | findFilled pc | acquire bufIdx pc | readFrame bufIdx pc | releaseEmpty bufIdx pc =>
    simp only [History.record, History.worker, pc]
    exact hold ht
  | handleFrame | captureRaises | detected | workerRaises => exact hold ht

/-- P1 reads the frame back from the slot in which it is. -/
theorem Exact.reading_step (hx : Exact loads s h) (hs : Consistent s)
    (hstep : s.step loads e = some t) {payload : Payload} {resultBuf : Fin 2}
    (ht : t.capture = .readFrame payload resultBuf) :
    KeptIn t.memory resultBuf (h.record s e).read ∧
      (h.record s e).read.bind (·.payload loads) = some payload := by
  have hold : s.capture = .readFrame payload resultBuf →
      KeptIn t.memory resultBuf h.read ∧ h.read.bind (·.payload loads) = some payload := by
    intro hpc
    obtain ⟨hkept, hpayload⟩ := hx.reading payload resultBuf hpc
    have hheld : s.held .capture = some resultBuf := congrArg CapturePc.held hpc
    exact ⟨hkept.step hs hstep hheld, hpayload⟩
  cases State.step_cases hstep with
  | handleFrame => cases ht
  | pickFree frame pc =>
    simp only [State.pickFree] at ht
    split at ht <;> cases ht
  | writeFrame frame freeIdx pc =>
    simp only [State.writeFrame] at ht
    split at ht <;> cases ht
  | readResult pc =>
    simp only [History.record, History.capture, pc]
    rcases readResult_cases loads hs with
      ⟨-, hread⟩ | ⟨-, b, hheld, ⟨-, hread⟩ | ⟨payload', hparse, hread⟩⟩
    · rw [hread] at ht
      cases ht
    · rw [hread] at ht
      cases ht
    · rw [hread] at ht ⊢
      cases ht
      have hkept := hx.unread _ hheld
      obtain ⟨a, ha, -⟩ := id hkept
      refine ⟨hkept, ?_⟩
      rw [ha, Option.bind_some, ← hx.text a ha]
      exact hparse
  | readBack payload' resultBuf' pc =>
    simp only [State.readBack] at ht
    split at ht <;> cases ht
  | overlay => cases ht
  | release => cases ht
  | captureRaises => cases ht
  | findFilled | acquire | readFrame | releaseEmpty | writeResult =>
    change KeptIn _ _ (h.worker s).read ∧ (h.worker s).read.bind _ = _
    rw [History.worker_read]
    exact hold ht
  | detected | workerRaises => exact hold ht

/-- What P1 reads back is the analysed frame. -/
theorem Exact.consumed_step (hx : Exact loads s h) (hstep : s.step loads e = some t)
    {c : Consumption Payload} (hc : c ∈ (h.record s e).consumed) :
    ∃ a, c.analysis = some a ∧ c.exactFrame = some a.frame ∧ a.payload loads = some c.payload := by
  cases State.step_cases hstep with
  | readBack payload resultBuf pc =>
    simp only [History.record, History.capture, pc, List.mem_append, List.mem_singleton] at hc
    rcases hc with hc | rfl
    · exact hx.consumed c hc
    · obtain ⟨⟨a, ha, hframe⟩, hpayload⟩ := hx.reading payload resultBuf pc
      rw [ha] at hpayload
      exact ⟨a, ha, hframe, hpayload⟩
  | pickFree frame pc | writeFrame frame freeIdx pc | readResult pc
  | overlay payload resultBuf exactFrame pc | release resultBuf pc =>
    simp only [History.record, History.capture, pc] at hc
    exact hx.consumed c hc
  | findFilled | acquire | readFrame | releaseEmpty | writeResult =>
    exact hx.consumed c ((h.worker_consumed s) ▸ hc)
  | handleFrame | captureRaises | detected | workerRaises => exact hx.consumed c hc

theorem Exact.step (hx : Exact loads s h) (hs : Consistent s) (hstep : s.step loads e = some t) :
    Exact loads t (h.record s e) where
  acquired := hx.acquired_step hs hstep
  analysing _ _ ht := hx.analysing_step hs hstep ht
  text _ ht := hx.text_step hstep ht
  unread _ ht := hx.unread_step hs hstep ht
  reading _ _ ht := hx.reading_step hs hstep ht
  consumed _ hc := hx.consumed_step hstep hc

end Step

/-- In every run, the frame that P1 reads back for a result is the one P2 passed to `detect` for
it; P1 never writes a slot that P2 has acquired and that has not been released, and P2 never
acquires a slot that P1 is writing. -/
theorem overlay_exact (layout : FrameBufferLayout) (loads : List UInt8 → Option Payload)
    (events : List Event) :
    let o := Transition.exec (Transition.recorded (State.step loads) History.record)
      ⟨State.init layout Payload, History.empty⟩ events
    (∀ c ∈ o.history.consumed, ∃ a, c.analysis = some a ∧ c.exactFrame = some a.frame ∧
        a.payload loads = some c.payload) ∧
      (∀ frame freeIdx, o.state.capture = .writeFrame frame freeIdx →
        o.history.acquired freeIdx = false) ∧
      ∀ bufIdx, o.state.worker = .acquire bufIdx →
        ∀ frame, o.state.capture ≠ .writeFrame frame bufIdx := by
  intro o
  have ho : Consistent o.state ∧ Exact loads o.state o.history :=
    Transition.recorded_invariant
      (I := fun (s : State layout Payload) h => Consistent s ∧ Exact loads s h)
      (fun _ _ _ _ hi hstep => ⟨hi.1.step hstep, hi.2.step hi.1 hstep⟩)
      ⟨init_consistent layout Payload, init_exact layout loads⟩ events
  obtain ⟨hs, hx⟩ := ho
  refine ⟨hx.consumed, ?_, ?_⟩
  · intro frame freeIdx hpc
    rw [Bool.eq_false_iff, Ne, hx.acquired, hs.writing frame freeIdx hpc]
    decide
  · intro bufIdx hworker frame hcapture
    have hfilled := hs.acquiring bufIdx hworker
    rw [hs.writing frame bufIdx hcapture] at hfilled
    cases hfilled

end EdgeSafety.DoubleBuffer
