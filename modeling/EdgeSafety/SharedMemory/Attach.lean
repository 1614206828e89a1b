import EdgeSafety.SharedMemory.FrameBuffer
import Mathlib.Data.List.Induction

/-!
# Attaching to the segments

`FrameBuffer.__init__` in a process that finds the segments of another one. The header of
`memory.py` says that P1 increments `frame_counter` with each frame, and `__init__` goes by it to
tell segments in use from fresh ones. But no method increments it, so that every `FrameBuffer`
resets the control segment, which makes no difference only where nothing is under way
(`attach_keeps_control_iff`).
-/

namespace EdgeSafety.FrameBuffer

variable {layout : FrameBufferLayout}

/-- A call of a method by either process. -/
inductive Op
  | pickFree
  | writeFrame (b : Fin 2) (frame : NdArray)
  | findFilled
  | acquire (b : Fin 2)
  | readFrame (b : Fin 2)
  | release (b : Fin 2)
  | writeResult (encoded : List UInt8) (b : Fin 2)
  | readResult

/-- What a call does to the segments. -/
def apply (m : FrameBuffer layout) : Op → FrameBuffer layout
  | .writeFrame b frame => (m.writeFrame b frame).2
  | .acquire b => m.acquire b
  | .release b => m.release b
  | .writeResult encoded b => (m.writeResult encoded b).2
  | .pickFree | .findFilled | .readFrame _ | .readResult => m

/-- The segments after P1 has created them and some calls were made. -/
def after (layout : FrameBufferLayout) (ops : List Op) : FrameBuffer layout :=
  ops.foldl apply (create layout)

/-- The two agree on the states of the slots and on the fields behind them. -/
structure SameControl (m m' : FrameBuffer layout) : Prop where
  state : ∀ b, (m.slot b).state = (m'.slot b).state
  resultForBuf : m.resultForBuf = m'.resultForBuf
  resultSeq : m.resultSeq = m'.resultSeq
  frameCounter : m.frameCounter = m'.frameCounter

/-- A call writes a result. -/
def Op.writesResult : Op → Bool
  | .writeResult _ _ => true
  | _ => false

theorem apply_frameCounter (m : FrameBuffer layout) (op : Op) :
    (m.apply op).frameCounter = m.frameCounter := by
  cases op with
  | writeResult encoded b =>
    simp only [apply, writeResult]
    split <;> rfl
  | _ => rfl

theorem apply_result (m : FrameBuffer layout) {op : Op} (h : op.writesResult = false) :
    (m.apply op).resultForBuf = m.resultForBuf ∧ (m.apply op).resultSeq = m.resultSeq := by
  cases op with
  | writeResult encoded b => cases h
  | _ => exact ⟨rfl, rfl⟩

/-- Once a result was written, the segments name a buffer for the last one. -/
theorem apply_resultForBuf (m : FrameBuffer layout) {op : Op}
    (h : op.writesResult = true ∨ m.resultForBuf ≠ -1) : (m.apply op).resultForBuf ≠ -1 := by
  cases op with
  | writeResult encoded b =>
    rw [apply, writeResult_resultForBuf]
    omega
  | _ => exact h.resolve_left nofun

/-- No method changes `frame_counter`. -/
theorem after_frameCounter (ops : List Op) : (after layout ops).frameCounter = 0 := by
  induction ops using List.reverseRecOn with
  | nil => rfl
  | append_singleton ops op ih =>
    rw [after, List.foldl_append]
    exact (apply_frameCounter _ op).trans ih

/-- The result fields are as they were created exactly as long as no result was written. -/
theorem after_result (layout : FrameBufferLayout) (ops : List Op) :
    ((∀ op ∈ ops, op.writesResult = false) →
      (after layout ops).resultForBuf = -1 ∧ (after layout ops).resultSeq = 0) ∧
    ((∃ op ∈ ops, op.writesResult = true) → (after layout ops).resultForBuf ≠ -1) := by
  induction ops using List.reverseRecOn with
  | nil => exact ⟨fun _ => ⟨rfl, rfl⟩, by simp⟩
  | append_singleton ops op ih =>
    have hlast : after layout (ops ++ [op]) = (after layout ops).apply op := by
      rw [after, List.foldl_append]
      rfl
    rw [hlast]
    constructor
    · intro hnone
      obtain ⟨hforBuf, hseq⟩ := ih.1 fun other hother => hnone other (by simp [hother])
      obtain ⟨hsameBuf, hsameSeq⟩ := (after layout ops).apply_result (hnone op (by simp))
      exact ⟨hsameBuf.trans hforBuf, hsameSeq.trans hseq⟩
    · rintro ⟨other, hother, hwrites⟩
      apply apply_resultForBuf
      rcases List.mem_append.mp hother with hbefore | hop
      · exact .inr (ih.2 ⟨other, hbefore, hwrites⟩)
      · exact .inl (List.mem_singleton.mp hop ▸ hwrites)

/-- A second `FrameBuffer` leaves the control segment as it is exactly when every slot is FREE again
and no result was ever written. -/
theorem attach_keeps_control_iff (layout : FrameBufferLayout) (ops : List Op) :
    SameControl (after layout ops).attach (after layout ops) ↔
      (∀ b, ((after layout ops).slot b).state = .free) ∧ ∀ op ∈ ops, op.writesResult = false := by
  obtain ⟨hnone, hsome⟩ := after_result layout ops
  rw [attach, if_pos (after_frameCounter ops)]
  constructor
  · rintro ⟨hstate, hforBuf, -, -⟩
    refine ⟨fun b => (hstate b).symm, fun op hop => ?_⟩
    by_contra hwrites
    exact hsome ⟨op, hop, eq_true_of_ne_false hwrites⟩ hforBuf.symm
  · rintro ⟨hfree, hwrites⟩
    obtain ⟨hforBuf, hseq⟩ := hnone hwrites
    exact ⟨fun b => (hfree b).symm, hforBuf.symm, hseq.symm, (after_frameCounter ops).symm⟩

/-- P2 attaches after P1 has written its first frame, which is FREE then. -/
theorem attach_discards_first_frame :
    let written := after {} [.pickFree, .writeFrame bufA (NdArray.ofBgr 1 1 [0, 0, 0] rfl)]
    (written.slot bufA).state = .filled ∧ ¬ SameControl written.attach written := by
  have hfilled : ((after {} [.pickFree, .writeFrame bufA
      (NdArray.ofBgr 1 1 [0, 0, 0] rfl)]).slot bufA).state = .filled := rfl
  refine ⟨hfilled, fun h => ?_⟩
  have hfree := h.state bufA
  rw [hfilled] at hfree
  cases hfree

end EdgeSafety.FrameBuffer
