import Mathlib.Data.List.TakeWhile
import EdgeSafety.Shared.NdArray

/-!
# The shared-memory double buffer

`FrameBuffer` of `shared/memory.py`: two frame slots, a result segment and a control segment that
the capture process (P1) and the inference process (P2) map. Each method is a function on the
segments; what a `FrameBuffer` object keeps for itself, `_last_result_seq`, is passed along. The
header fields are as wide as `_set_i32` and `_set_u64` make them: a value that does not fit raises.
-/

namespace EdgeSafety

/-- What `FrameBuffer.__init__` fixes. -/
structure FrameBufferLayout where
  maxWidth : Nat := 1920
  maxHeight : Nat := 1080

/-- `self.frame_nbytes`. -/
def FrameBufferLayout.frameNbytes (layout : FrameBufferLayout) : Nat :=
  layout.maxWidth * layout.maxHeight * 3

/-- `BufState`. -/
inductive BufState
  | free
  | filled
  | locked
  deriving DecidableEq

/-- A frame segment with its part of the control segment. -/
structure FrameSlot (layout : FrameBufferLayout) where
  state : BufState
  height : Nat
  width : Nat
  data : List UInt8
  data_length : data.length = layout.frameNbytes
  height_le : height ≤ layout.maxHeight
  width_le : width ≤ layout.maxWidth

/-- `RESULT_SIZE`. -/
def resultSize : Nat := 8192

/-- The index of the buffer A. -/
abbrev bufA : Fin 2 := 0

/-- The index of the buffer B. -/
abbrev bufB : Fin 2 := 1

/-- The segments behind a `FrameBuffer`. -/
structure FrameBuffer (layout : FrameBufferLayout) where
  slot : Fin 2 → FrameSlot layout
  resultForBuf : Int
  resultSeq : Nat
  frameCounter : Nat
  result : List UInt8
  result_length : result.length = resultSize

namespace FrameSlot

variable {layout : FrameBufferLayout}

/-- A segment is created zeroed. -/
def zeroed (layout : FrameBufferLayout) : FrameSlot layout where
  state := .free
  height := 0
  width := 0
  data := List.replicate layout.frameNbytes 0
  data_length := List.length_replicate
  height_le := Nat.zero_le _
  width_le := Nat.zero_le _

theorem nbytes_le {height width : Nat} (hheight : height ≤ layout.maxHeight)
    (hwidth : width ≤ layout.maxWidth) : height * width * 3 ≤ layout.frameNbytes := by
  unfold FrameBufferLayout.frameNbytes
  rw [Nat.mul_comm height width]
  exact Nat.mul_le_mul_right 3 (Nat.mul_le_mul hwidth hheight)

/-- The end of `write_frame`: the pixels are copied, then the slot is FILLED. -/
def fill (slot : FrameSlot layout) (bytes : List UInt8)
    (hbytes : bytes.length = slot.height * slot.width * 3) : FrameSlot layout :=
  { slot with
    state := .filled
    data := bytes ++ slot.data.drop bytes.length
    data_length := by
      have hle := nbytes_le slot.height_le slot.width_le
      rw [List.length_append, List.length_drop, slot.data_length]
      omega }

/-- `write_frame` on the slot it is told to write. -/
def writeFrame (slot : FrameSlot layout) (frame : NdArray) :
    Except String Unit × FrameSlot layout :=
  match frame.shape with
  | height :: width :: _ =>
    if hfits : height ≤ layout.maxHeight ∧ width ≤ layout.maxWidth then
      if height < 2 ^ 31 then
        let slot := { slot with height := height, height_le := hfits.1 }
        if width < 2 ^ 31 then
          let slot := { slot with width := width, width_le := hfits.2 }
          if hbytes : frame.bytes.length = height * width * 3 then
            (.ok (), slot.fill frame.bytes hbytes)
          else
            (.error "memoryview assignment: lvalue and rvalue have different structures", slot)
        else (.error "int too big to convert", slot)
      else (.error "int too big to convert", slot)
    else
      (.error s!"Frame {width}x{height} exceeds {layout.maxWidth}x{layout.maxHeight}", slot)
  | shape => (.error s!"not enough values to unpack (expected 2, got {shape.length})", slot)

/-- `read_frame` on the slot it is told to read. -/
def readFrame (slot : FrameSlot layout) : Option NdArray :=
  if slot.height = 0 ∨ slot.width = 0 then none
  else some (NdArray.ofBgr slot.height slot.width
    (slot.data.take (slot.height * slot.width * 3)) (by
      rw [List.length_take, slot.data_length]
      exact Nat.min_eq_left (nbytes_le slot.height_le slot.width_le)))

/-- A write that raises leaves the state of the slot alone; one that does not fills the slot. -/
theorem writeFrame_state (slot : FrameSlot layout) (frame : NdArray) :
    (∃ message, (slot.writeFrame frame).1 = .error message) ∧
        (slot.writeFrame frame).2.state = slot.state ∨
      (slot.writeFrame frame).1 = .ok () ∧ (slot.writeFrame frame).2.state = .filled := by
  unfold writeFrame
  split
  · split
    · split
      · dsimp only
        split
        · split
          · exact Or.inr ⟨rfl, rfl⟩
          · exact Or.inl ⟨⟨_, rfl⟩, rfl⟩
        · exact Or.inl ⟨⟨_, rfl⟩, rfl⟩
      · exact Or.inl ⟨⟨_, rfl⟩, rfl⟩
    · exact Or.inl ⟨⟨_, rfl⟩, rfl⟩
  · exact Or.inl ⟨⟨_, rfl⟩, rfl⟩

/-- A frame is read back as it was written, unless it has no pixels. -/
theorem readFrame_fill (slot : FrameSlot layout) (bytes : List UInt8)
    (hbytes : bytes.length = slot.height * slot.width * 3) (hheight : slot.height ≠ 0)
    (hwidth : slot.width ≠ 0) :
    (slot.fill bytes hbytes).readFrame =
      some (NdArray.ofBgr slot.height slot.width bytes hbytes) := by
  have htake : (bytes ++ slot.data.drop bytes.length).take (slot.height * slot.width * 3) =
      bytes := by
    rw [← hbytes]
    exact List.take_left
  simp [readFrame, fill, hheight, hwidth, htake]

/-- A BGR frame that was written is read back as it is, unless it has no pixels. -/
theorem readFrame_writeFrame (slot : FrameSlot layout) {frame : NdArray} {height width : Nat}
    (hsize : frame.bgrSize = some (height, width)) (hheight : height ≠ 0) (hwidth : width ≠ 0)
    (hok : (slot.writeFrame frame).1 = .ok ()) :
    (slot.writeFrame frame).2.readFrame = some frame := by
  have hshape := (NdArray.bgrSize_eq_some.mp hsize).2
  unfold writeFrame at hok ⊢
  rw [hshape] at hok ⊢
  by_cases hfits : height ≤ layout.maxHeight ∧ width ≤ layout.maxWidth
  · by_cases hheightFits : height < 2 ^ 31
    · by_cases hwidthFits : width < 2 ^ 31
      · simp only [dif_pos hfits, if_pos hheightFits, if_pos hwidthFits,
          dif_pos (NdArray.bytes_length_of_bgrSize hsize)]
        rw [readFrame_fill _ _ _ hheight hwidth, NdArray.ofBgr_bytes hsize]
      · simp only [dif_pos hfits, if_pos hheightFits, if_neg hwidthFits, reduceCtorEq] at hok
    · simp only [dif_pos hfits, if_neg hheightFits, reduceCtorEq] at hok
  · simp only [dif_neg hfits, reduceCtorEq] at hok

end FrameSlot

namespace FrameBuffer

variable {layout : FrameBufferLayout}

/-- The end of `__init__`: the header is reset unless `frame_counter` says that frames were
written. -/
def attach (m : FrameBuffer layout) : FrameBuffer layout :=
  if m.frameCounter = 0 then
    { m with
      slot := fun b => { m.slot b with state := .free }
      resultForBuf := -1
      resultSeq := 0
      frameCounter := 0 }
  else m

/-- `FrameBuffer.__init__` where no segment exists yet. -/
def create (layout : FrameBufferLayout) : FrameBuffer layout :=
  attach
    { slot := fun _ => FrameSlot.zeroed layout
      resultForBuf := 0
      resultSeq := 0
      frameCounter := 0
      result := List.replicate resultSize 0
      result_length := List.length_replicate }

/-- The first buffer in the given state. -/
def find (m : FrameBuffer layout) (state : BufState) : Option (Fin 2) :=
  if (m.slot bufA).state = state then some bufA
  else if (m.slot bufB).state = state then some bufB
  else none

/-- The setters of `_state_a` and `_state_b`. -/
def setState (m : FrameBuffer layout) (b : Fin 2) (state : BufState) : FrameBuffer layout :=
  { m with slot := Function.update m.slot b { m.slot b with state := state } }

/-- `FrameBuffer.pick_free`. -/
def pickFree (m : FrameBuffer layout) : Option (Fin 2) := m.find .free

/-- `FrameBuffer.write_frame`. -/
def writeFrame (m : FrameBuffer layout) (b : Fin 2) (frame : NdArray) :
    Except String Unit × FrameBuffer layout :=
  (((m.slot b).writeFrame frame).1,
    { m with slot := Function.update m.slot b ((m.slot b).writeFrame frame).2 })

/-- `FrameBuffer.find_filled`. -/
def findFilled (m : FrameBuffer layout) : Option (Fin 2) := m.find .filled

/-- `FrameBuffer.acquire`. -/
def acquire (m : FrameBuffer layout) (b : Fin 2) : FrameBuffer layout := m.setState b .locked

/-- `FrameBuffer.read_frame`. -/
def readFrame (m : FrameBuffer layout) (b : Fin 2) : Option NdArray := (m.slot b).readFrame

/-- `FrameBuffer.release`. -/
def release (m : FrameBuffer layout) (b : Fin 2) : FrameBuffer layout := m.setState b .free

/-- The result segment once `encoded` is in it: cut off to fit and terminated. -/
def terminated (segment encoded : List UInt8) : List UInt8 :=
  let n := min encoded.length (resultSize - 1)
  encoded.take n ++ 0 :: segment.drop (n + 1)

theorem terminated_length {segment : List UInt8} (h : segment.length = resultSize)
    (encoded : List UInt8) : (terminated segment encoded).length = resultSize := by
  unfold terminated
  rw [List.length_append, List.length_take, List.length_cons, List.length_drop, h]
  unfold resultSize
  omega

/-- `FrameBuffer.write_result`, of the encoded text. -/
def writeResult (m : FrameBuffer layout) (encoded : List UInt8) (b : Fin 2) :
    Except String Unit × FrameBuffer layout :=
  let written := { m with
    result := terminated m.result encoded
    result_length := terminated_length m.result_length encoded
    resultForBuf := b.val }
  if m.resultSeq + 1 < 2 ^ 64 then (.ok (), { written with resultSeq := m.resultSeq + 1 })
  else (.error "int too big to convert", written)

/-- The bytes of the result segment that `read_result` decodes, those before the first NUL; texts
of up to two bytes are no results. -/
def resultText (segment : List UInt8) : Option (List UInt8) :=
  match segment.findIdx? (· = 0) with
  | some null => if null ≤ 2 then none else some (segment.take null)
  | none => none

/-- `FrameBuffer.read_result`, with the `_last_result_seq` it goes by and the one it leaves.
`loads` decodes and parses a text and is `none` where that raises. The `_buffer_index` of a result
stands beside it. -/
def readResult {Payload : Type} (loads : List UInt8 → Option Payload) (m : FrameBuffer layout)
    (lastResultSeq : Nat) : Option (Payload × Int) × Nat :=
  if m.resultSeq = lastResultSeq then (none, lastResultSeq)
  else (((resultText m.result).bind loads).map (·, m.resultForBuf), m.resultSeq)

section Slots
variable {m : FrameBuffer layout} {state : BufState} {b b' : Fin 2}

theorem find_eq_some (h : m.find state = some b) : (m.slot b).state = state := by
  unfold find at h
  split at h
  · next hzero =>
    obtain rfl := Option.some.inj h
    exact hzero
  · split at h
    · next hone =>
      obtain rfl := Option.some.inj h
      exact hone
    · cases h

theorem find_eq_none : m.find state = none ↔ ∀ b, (m.slot b).state ≠ state := by
  rw [Fin.forall_fin_two]
  unfold find
  split
  · next hzero => simp [hzero]
  · next hzero =>
    split
    · next hone => simp [hone]
    · next hone => simp [hzero, hone]

@[simp]
theorem setState_state_self : ((m.setState b state).slot b).state = state := by
  simp [setState]

theorem setState_slot_of_ne (h : b' ≠ b) : (m.setState b state).slot b' = m.slot b' :=
  Function.update_of_ne h ..

/-- The state of a slot says nothing about the frame in it. -/
@[simp]
theorem setState_readFrame : (m.setState b state).readFrame b' = m.readFrame b' := by
  unfold readFrame
  by_cases h : b' = b
  · subst h
    simp only [setState, Function.update_self]
    rfl
  · rw [setState_slot_of_ne h]

theorem writeFrame_slot_of_ne {frame : NdArray} (h : b' ≠ b) :
    (m.writeFrame b frame).2.slot b' = m.slot b' :=
  Function.update_of_ne h ..

/-- Writing a frame into a slot that is not LOCKED locks none. -/
theorem writeFrame_locked {frame : NdArray} (h : (m.slot b).state ≠ .locked) :
    ((m.writeFrame b frame).2.slot b').state = .locked ↔ (m.slot b').state = .locked := by
  by_cases hb : b' = b
  · subst hb
    have hself : (m.writeFrame b' frame).2.slot b' = ((m.slot b').writeFrame frame).2 :=
      Function.update_self ..
    rw [hself]
    rcases FrameSlot.writeFrame_state (m.slot b') frame with ⟨-, hstate⟩ | ⟨-, hstate⟩
    · rw [hstate]
    · rw [hstate]
      exact iff_of_false (by decide) h
  · rw [writeFrame_slot_of_ne hb]

end Slots

section Results
variable {m : FrameBuffer layout} {encoded : List UInt8} {b : Fin 2}

@[simp]
theorem writeResult_slot : (m.writeResult encoded b).2.slot = m.slot := by
  unfold writeResult
  split <;> rfl

@[simp]
theorem writeResult_resultForBuf : (m.writeResult encoded b).2.resultForBuf = b.val := by
  unfold writeResult
  split <;> rfl

@[simp]
theorem writeResult_result :
    (m.writeResult encoded b).2.result = terminated m.result encoded := by
  unfold writeResult
  split <;> rfl

/-- The text that is decoded ends before the first NUL, wherever that comes from. -/
theorem resultText_append (text rest : List UInt8) :
    resultText (text ++ 0 :: rest) =
      if (text.takeWhile (· ≠ 0)).length ≤ 2 then none else some (text.takeWhile (· ≠ 0)) := by
  have hnull : (text ++ 0 :: rest).findIdx? (· = 0) = some (text.takeWhile (· ≠ 0)).length := by
    induction text with
    | nil => rfl
    | cons byte text ih =>
      by_cases hbyte : byte = 0
      · simp [List.findIdx?_cons, hbyte]
      · simp only [List.cons_append, List.findIdx?_cons, hbyte, ih]
        simp [hbyte]
  have htake : (text ++ 0 :: rest).take (text.takeWhile (· ≠ 0)).length =
      text.takeWhile (· ≠ 0) := by
    rw [List.take_append_of_le_length (List.takeWhile_prefix _).length_le]
    exact (List.prefix_iff_eq_take.mp (List.takeWhile_prefix _)).symm
  unfold resultText
  rw [hnull]
  simp only [htake]

/-- The text that is decoded from a result does not depend on the results before it. -/
theorem resultText_terminated (segment encoded : List UInt8) :
    resultText (terminated segment encoded) = resultText (terminated [] encoded) := by
  unfold terminated
  rw [resultText_append, resultText_append]

/-- What fits the segment of a text without NUL is decoded. -/
theorem resultText_of_nul_free (segment : List UInt8) {encoded : List UInt8}
    (hlength : 2 < encoded.length) (hnull : 0 ∉ encoded) :
    resultText (terminated segment encoded) = some (encoded.take (resultSize - 1)) := by
  have htake : encoded.take (min encoded.length (resultSize - 1)) =
      encoded.take (resultSize - 1) := by
    rw [Nat.min_comm, ← List.take_take, List.take_length]
  have hall : (encoded.take (resultSize - 1)).takeWhile (· ≠ 0) =
      encoded.take (resultSize - 1) := by
    apply List.takeWhile_eq_self_iff.mpr
    intro byte hbyte
    have hne : byte ≠ 0 := fun h => hnull (h ▸ List.mem_of_mem_take hbyte)
    simpa using hne
  have hlong : ¬ (encoded.take (resultSize - 1)).length ≤ 2 := by
    rw [List.length_take]
    unfold resultSize
    omega
  unfold terminated
  rw [resultText_append, htake, hall, if_neg hlong]

/-- A text that does not fit the segment is decoded without its end. -/
theorem resultText_of_long (segment : List UInt8) {encoded : List UInt8}
    (hlong : resultSize ≤ encoded.length) (hnull : 0 ∉ encoded) :
    resultText (terminated segment encoded) = some (encoded.take (resultSize - 1)) :=
  resultText_of_nul_free segment (Nat.lt_of_lt_of_le (by decide) hlong) hnull

/-- A result that cannot be parsed is forgotten when it is read. -/
theorem readResult_unparsable {Payload : Type} {loads : List UInt8 → Option Payload}
    {lastResultSeq : Nat} (hparse : (resultText m.result).bind loads = none) :
    m.readResult loads lastResultSeq = (none, m.resultSeq) := by
  unfold readResult
  split
  · next hseq => rw [hseq]
  · rw [hparse]
    rfl

end Results

end FrameBuffer

end EdgeSafety
