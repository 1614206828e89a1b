import EdgeSafety.Lib.Transition
import EdgeSafety.SharedMemory.SlotCustody

/-!
# Leaked slots

The one result segment forgets the slot of a result that the next one overwrites, and a result
that cannot be parsed is forgotten when it is read. A run keeps every LOCKED slot accounted for
exactly when its steps keep track of the slots (`slots_accounted_iff`); a slot that is not
accounted for stays LOCKED for ever (`leaked_forever`), and with two of them nothing moves any more
(`deadlocked_forever`).
-/

namespace EdgeSafety.DoubleBuffer

variable {layout : FrameBufferLayout} {Payload : Type} {loads : List UInt8 → Option Payload}

/-- Every LOCKED slot is held by P2, named by a result that P1 has not read, or held by P1. -/
def SlotsAccounted (s : State layout Payload) : Prop :=
  ∀ b : Fin 2, (s.memory.slot b).state = .locked →
    s.worker.held = some b ∨ s.Unread ∧ s.memory.resultForBuf = b.val ∨ s.capture.held = some b

/-- Both slots are LOCKED, P2 is idle, and P1 holds no unread or unreleased result. -/
def Deadlocked (s : State layout Payload) : Prop :=
  (∀ b : Fin 2, (s.memory.slot b).state = .locked) ∧ s.worker = .findFilled ∧ ¬ s.Unread ∧
    s.capture.held = none

theorem slotsAccounted_iff_custody {s : State layout Payload} :
    SlotsAccounted s ↔ s.custody.Accounted := by
  constructor
  · intro h b hb
    rcases h b hb with hworker | hresult | hcapture
    · exact ⟨.worker, hworker⟩
    · exact ⟨.result, held_result_iff.mpr hresult⟩
    · exact ⟨.capture, hcapture⟩
  · intro h b hb
    obtain ⟨holder, hheld⟩ := h b hb
    cases holder with
    | worker => exact Or.inl hheld
    | result => exact Or.inr (Or.inl (held_result_iff.mp hheld))
    | capture => exact Or.inr (Or.inr hheld)

theorem init_accounted (layout : FrameBufferLayout) (Payload : Type) :
    (State.init layout Payload).custody.Accounted := by
  intro b hb
  have hb : ((FrameBuffer.create layout).slot b).state = .locked := hb
  simp [FrameBuffer.create, FrameBuffer.attach] at hb

/-- With both processes idle and no result unread, a LOCKED slot is leaked. -/
theorem leaked_of_idle {s : State layout Payload} (hworker : s.worker = .findFilled)
    (hread : ¬ s.Unread) (hcapture : s.capture.held = none) {b : Fin 2}
    (hlocked : (s.memory.slot b).state = .locked) : s.custody.Leaked b := by
  refine ⟨hlocked, ?_⟩
  rintro (_ | _ | _) hheld
  · cases (congrArg WorkerPc.held hworker).symm.trans hheld
  · exact hread (held_result_iff.mp hheld).1
  · cases hcapture.symm.trans hheld

/-- In a deadlock nobody accounts for the slots. -/
theorem SlotsAccounted.not_deadlocked {s : State layout Payload} (h : SlotsAccounted s) :
    ¬ Deadlocked s := by
  rintro ⟨hlocked, hworker, hread, hcapture⟩
  have hleaked : s.custody.Leaked 0 := leaked_of_idle hworker hread hcapture (hlocked 0)
  exact hleaked.not_accounted (slotsAccounted_iff_custody.mp h)

/-- In every state of a run each LOCKED slot is accounted for, and the processes are not
deadlocked, exactly when every step of the run keeps track of the slots. -/
theorem slots_accounted_iff (layout : FrameBufferLayout) (loads : List UInt8 → Option Payload)
    (events : List Event) :
    (∀ x ∈ Transition.steps (State.step loads) (State.init layout Payload) events,
      SlotsAccounted x.target ∧ ¬ Deadlocked x.target) ↔
    ∀ x ∈ Transition.steps (State.step loads) (State.init layout Payload) events,
      KeepsTrack loads x.source x.event := by
  apply Transition.everyTarget_iff
    (I := fun s : State layout Payload => Consistent s ∧ s.custody.Accounted)
    (P := fun s => SlotsAccounted s ∧ ¬ Deadlocked s)
  · intro s e t ⟨hs, ha⟩ hok hstep
    have ha' : t.custody.Accounted := ha.handled (step_handled hs hok hstep)
    have hslots : SlotsAccounted t := slotsAccounted_iff_custody.mpr ha'
    exact ⟨⟨hs.step hstep, ha'⟩, hslots, hslots.not_deadlocked⟩
  · intro s e t ⟨hs, _⟩ hbad hstep hgood
    obtain ⟨b, hleaked⟩ := (step_lost hs hbad hstep).leaks hs.custody
    exact hleaked.not_accounted (slotsAccounted_iff_custody.mp hgood.1)
  · exact ⟨init_consistent layout Payload, init_accounted layout Payload⟩

/-- A slot that is LOCKED and held by nobody stays so, whatever happens. -/
theorem leaked_forever {s : State layout Payload} (hs : Consistent s) {b : Fin 2}
    (h : s.custody.Leaked b) (events : List Event) :
    (Transition.exec (State.step loads) s events).custody.Leaked b := by
  refine (Transition.exec_invariant
    (I := fun u : State layout Payload => Consistent u ∧ u.custody.Leaked b) ?_ ⟨hs, h⟩ events).2
  intro u e v ⟨hu, hleaked⟩ hstep
  exact ⟨hu.step hstep, hleaked.step (step_custody hu hstep)⟩

/-- Once both slots are leaked, P1 finds no slot to write and P2 none to read, for ever. -/
theorem deadlocked_forever {s : State layout Payload} (hs : Consistent s) (h : Deadlocked s)
    (events : List Event) :
    (Transition.exec (State.step loads) s events).memory.pickFree = none ∧
      (Transition.exec (State.step loads) s events).memory.findFilled = none := by
  obtain ⟨hlocked, hworker, hread, hcapture⟩ := h
  have hall : ∀ b : Fin 2,
      ((Transition.exec (State.step loads) s events).memory.slot b).state = .locked := by
    intro b
    exact (leaked_forever hs (leaked_of_idle hworker hread hcapture (hlocked b)) events).1
  constructor
  · apply FrameBuffer.find_eq_none.mpr
    intro b
    rw [hall b]
    decide
  · apply FrameBuffer.find_eq_none.mpr
    intro b
    rw [hall b]
    decide

section Runs

/-- What P2 writes for a frame without objects. -/
def emptyResult : List UInt8 :=
  "\x7b\"objects\": [], \"timestamp\": \"2024-01-01T00:00:00\"\x7d".toList.map
    fun c => UInt8.ofNat c.toNat

/-- A frame of one pixel. -/
def pixel (value : UInt8) : NdArray := NdArray.ofBgr 1 1 [value, value, value] rfl

/-- P1 writes a frame, having no result to read. -/
def frameWritten (frame : NdArray) : List Event :=
  [.handleFrame frame, .capture, .capture, .capture]

/-- P2 finds a frame, analyses it and writes the result. -/
def frameAnalysed (encoded : List UInt8) : List Event :=
  [.worker, .worker, .worker, .detected encoded, .worker]

/-- `json.loads` for that one result, of which only the text is kept. -/
def loadsEmptyResult (text : List UInt8) : Option (List UInt8) :=
  if text = emptyResult then some text else none

/-- P1 writes two frames, P2 analyses both before P1 reads a result, and P1 reads the result of
the second one and releases its slot. -/
def overwrittenResult : List Event :=
  [frameWritten (pixel 1), frameWritten (pixel 2), frameAnalysed emptyResult,
    frameAnalysed emptyResult,
    [.handleFrame (pixel 3), .capture, .capture, .capture, .capture, .capture]].flatten

/-- After that run both processes are idle and slot 0 is LOCKED, and it stays so for ever. -/
theorem overwrittenResult_leaks :
    let step : State ⟨1, 1⟩ (List UInt8) → Event → Option (State ⟨1, 1⟩ (List UInt8)) :=
      State.step loadsEmptyResult
    let s := Transition.exec step (State.init ⟨1, 1⟩ (List UInt8)) overwrittenResult
    s.capture = .idle ∧ s.worker = .findFilled ∧ ¬ s.Unread ∧ ¬ SlotsAccounted s ∧
      ∀ events, ((Transition.exec step s events).memory.slot 0).state = .locked := by
  intro step s
  have hs : Consistent s := Transition.exec_invariant (I := Consistent)
    (fun _ _ _ h hstep => h.step hstep) (init_consistent _ _) overwrittenResult
  have hcapture : s.capture = .idle := by decide +kernel
  have hworker : s.worker = .findFilled := by decide +kernel
  have hread : ¬ s.Unread := by decide +kernel
  have hlocked : (s.memory.slot 0).state = .locked := by decide +kernel
  have hleaked : s.custody.Leaked 0 :=
    leaked_of_idle hworker hread (congrArg CapturePc.held hcapture) hlocked
  refine ⟨hcapture, hworker, hread, ?_, ?_⟩
  · intro haccounted
    exact hleaked.not_accounted (slotsAccounted_iff_custody.mp haccounted)
  · intro events
    exact (leaked_forever hs hleaked events).1

/-- P1 writes a frame and then finds no result, or one that it cannot parse. -/
theorem exec_frameWritten {m m' : FrameBuffer layout} {frame : NdArray} {b : Fin 2}
    (hfree : m.pickFree = some b) (hwritten : m.writeFrame b frame = (.ok (), m'))
    {lastResultSeq : Nat} (hnone : m'.readResult loads lastResultSeq = (none, m'.resultSeq)) :
    Transition.exec (State.step loads) ⟨m, lastResultSeq, .idle, .findFilled⟩
      (frameWritten frame) = ⟨m', m'.resultSeq, .idle, .findFilled⟩ := by
  simp [frameWritten, Transition.exec, State.step, State.advanceCapture, State.pickFree,
    State.writeFrame, State.readResult, hfree, hwritten, hnone]

/-- P2 leaves the slot of the frame LOCKED behind its result. -/
theorem exec_frameAnalysed {m m' : FrameBuffer layout} {frame : NdArray} {encoded : List UInt8}
    {b : Fin 2} (hfilled : m.findFilled = some b) (hframe : m.readFrame b = some frame)
    (hwritten : (m.acquire b).writeResult encoded b = (.ok (), m')) {lastResultSeq : Nat} :
    Transition.exec (State.step loads) ⟨m, lastResultSeq, .idle, .findFilled⟩
      (frameAnalysed encoded) = ⟨m', lastResultSeq, .idle, .findFilled⟩ := by
  have hacquired : (m.acquire b).readFrame b = some frame :=
    FrameBuffer.setState_readFrame.trans hframe
  simp [frameAnalysed, Transition.exec, State.step, State.advanceWorker, State.findFilled,
    State.acquire, State.readFrame, State.writeResult, hfilled, hacquired, hwritten]

/-- P1 finds no slot to write and then a result that it cannot parse. -/
theorem exec_allTaken {m : FrameBuffer layout} {frame : NdArray} (htaken : m.pickFree = none)
    {lastResultSeq : Nat} (hnone : m.readResult loads lastResultSeq = (none, m.resultSeq)) :
    Transition.exec (State.step loads) ⟨m, lastResultSeq, .idle, .findFilled⟩
      [.handleFrame frame, .capture, .capture] = ⟨m, m.resultSeq, .idle, .findFilled⟩ := by
  simp [Transition.exec, State.step, State.advanceCapture, State.pickFree, State.readResult, htaken,
    hnone]

/-- The segments with the first frame written. -/
def firstWritten : FrameBuffer ⟨1, 1⟩ := ((FrameBuffer.create ⟨1, 1⟩).writeFrame bufA (pixel 1)).2

/-- The segments with the first frame analysed. -/
def firstAnalysed (encoded : List UInt8) : FrameBuffer ⟨1, 1⟩ :=
  ((firstWritten.acquire bufA).writeResult encoded bufA).2

/-- The segments with the second frame written, too. -/
def secondWritten (encoded : List UInt8) : FrameBuffer ⟨1, 1⟩ :=
  ((firstAnalysed encoded).writeFrame bufB (pixel 2)).2

/-- The segments with both frames analysed. -/
def bothAnalysed (encoded : List UInt8) : FrameBuffer ⟨1, 1⟩ :=
  (((secondWritten encoded).acquire bufB).writeResult encoded bufB).2

/-- Two results that are too long for the result segment, and cut off are no JSON, deadlock the
processes, although P1 looks for a result after every frame. -/
theorem longResults_deadlock (loads : List UInt8 → Option Payload) {encoded : List UInt8}
    (hlong : resultSize ≤ encoded.length) (hnull : 0 ∉ encoded)
    (hcut : loads (encoded.take (resultSize - 1)) = none) :
    Deadlocked (Transition.exec (State.step loads) (State.init ⟨1, 1⟩ Payload)
      (frameWritten (pixel 1) ++ frameAnalysed encoded ++ frameWritten (pixel 2) ++
        frameAnalysed encoded ++ [.handleFrame (pixel 3), .capture, .capture])) := by
  have hunparsable : ∀ segment,
      (FrameBuffer.resultText (FrameBuffer.terminated segment encoded)).bind loads = none := by
    intro segment
    rw [FrameBuffer.resultText_of_long segment hlong hnull]
    exact hcut
  have hinit : State.init ⟨1, 1⟩ Payload =
    ⟨FrameBuffer.create ⟨1, 1⟩, 0, .idle, .findFilled⟩ := rfl
  have hfirst : (FrameBuffer.create ⟨1, 1⟩).writeFrame 0 (pixel 1) = (.ok (), firstWritten) := rfl
  have hframe : firstWritten.readFrame 0 = some (pixel 1) := rfl
  have hanalysed : (firstWritten.acquire 0).writeResult encoded 0 =
      (.ok (), firstAnalysed encoded) := rfl
  have hsecond : (firstAnalysed encoded).writeFrame 1 (pixel 2) =
      (.ok (), secondWritten encoded) := rfl
  have hframe' : (secondWritten encoded).readFrame 1 = some (pixel 2) := rfl
  have hboth : ((secondWritten encoded).acquire 1).writeResult encoded 1 =
      (.ok (), bothAnalysed encoded) := rfl
  rw [Transition.exec_append, Transition.exec_append, Transition.exec_append,
    Transition.exec_append, hinit, exec_frameWritten rfl hfirst rfl,
    exec_frameAnalysed rfl hframe hanalysed,
    exec_frameWritten rfl hsecond (FrameBuffer.readResult_unparsable (hunparsable _)),
    exec_frameAnalysed rfl hframe' hboth,
    exec_allTaken rfl (FrameBuffer.readResult_unparsable (hunparsable _))]
  refine ⟨?_, rfl, fun h => h rfl, rfl⟩
  rw [Fin.forall_fin_two]
  exact ⟨rfl, rfl⟩

end Runs

end EdgeSafety.DoubleBuffer
