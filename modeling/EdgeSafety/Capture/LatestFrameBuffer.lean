import Mathlib.Algebra.Order.Ring.Unbundled.Rat
import EdgeSafety.Shared.NdArray

/-!
# The latest-frame buffer

`capture/latest_frame_buffer.py`: one shared frame slot for each camera, which a new frame
overwrites. The slot and its seven counters are one record, and each lock-protected method is a
function on it. The clock readings a method makes are arguments. Counters are taken below `2 ^ 64`
and count without wrapping; the timestamps, which a caller chooses, are kept as C unsigned long
longs are, modulo `2 ^ 64`.
-/

namespace EdgeSafety

/-- What `LatestFrameBuffer.__init__` fixes. The sizes are positive, or the constructor raises, and
they fit the C ints in which a frame's size is kept (`CameraConfig.resolution` is at most
`7680x4320`). -/
structure BufferLayout where
  cameraId : String
  maxWidth : Nat
  maxHeight : Nat
  maxWidth_pos : 0 < maxWidth
  maxHeight_pos : 0 < maxHeight
  maxWidth_lt : maxWidth < 2 ^ 31
  maxHeight_lt : maxHeight < 2 ^ 31

/-- `self._capacity`. -/
def BufferLayout.capacity (layout : BufferLayout) : Nat := layout.maxWidth * layout.maxHeight * 3

/-- `FramePacket`. -/
structure FramePacket where
  cameraId : String
  frameId : Nat
  capturedAtUnixNs : Nat
  capturedAtMonotonicNs : Nat
  frame : NdArray
  deriving DecidableEq

/-- `FramePacket.age_ms`, at the time `monotonicNs`. -/
def FramePacket.ageMs (packet : FramePacket) (monotonicNs : Int) : ℚ :=
  max 0 ((monotonicNs - packet.capturedAtMonotonicNs : Int) / 1000000)

/-- What is stored when an int is assigned to the value of a `c_ulonglong`. -/
def cULongLong (value : Int) : Nat := (value % 2 ^ 64).toNat

theorem cast_cULongLong (value : Int) : (cULongLong value : Int) = value % 2 ^ 64 := by
  unfold cULongLong
  omega

theorem cULongLong_of_lt {value : Nat} (h : value < 2 ^ 64) : cULongLong value = value := by
  unfold cULongLong
  omega

/-- `given or clock()`: a timestamp that is omitted, or zero, is read from the clock. -/
def orClock (given : Option Int) (clock : Int) : Int :=
  match given with
  | some timestamp => if timestamp = 0 then clock else timestamp
  | none => clock

/-- `LatestFrameBuffer`: the slot and the values shared beside it. -/
structure LatestFrameBuffer (layout : BufferLayout) where
  data : List UInt8
  sequence : Nat
  consumedSequence : Nat
  unixNs : Nat
  monotonicNs : Nat
  height : Nat
  width : Nat
  dropped : Nat
  stale : Nat
  data_length : data.length = layout.capacity
  height_le : height ≤ layout.maxHeight
  width_le : width ≤ layout.maxWidth
  deriving DecidableEq

namespace LatestFrameBuffer

variable {layout : BufferLayout}

/-- `LatestFrameBuffer.__init__`: a `RawArray` is zeroed. -/
def empty (layout : BufferLayout) : LatestFrameBuffer layout where
  data := List.replicate layout.capacity 0
  sequence := 0
  consumedSequence := 0
  unixNs := 0
  monotonicNs := 0
  height := 0
  width := 0
  dropped := 0
  stale := 0
  data_length := List.length_replicate
  height_le := Nat.zero_le _
  width_le := Nat.zero_le _

theorem size_le_capacity {height width : Nat} (hheight : height ≤ layout.maxHeight)
    (hwidth : width ≤ layout.maxWidth) : height * width * 3 ≤ layout.capacity := by
  unfold BufferLayout.capacity
  rw [Nat.mul_comm height width]
  exact Nat.mul_le_mul_right 3 (Nat.mul_le_mul hwidth hheight)

/-- The locked section of `publish`. -/
def store (b : LatestFrameBuffer layout) (frame : NdArray) (height width : Nat)
    (hsize : frame.bgrSize = some (height, width))
    (hfits : width ≤ layout.maxWidth ∧ height ≤ layout.maxHeight) (unixNs monotonicNs : Int) :
    LatestFrameBuffer layout where
  data := frame.bytes ++ b.data.drop frame.bytes.length
  sequence := b.sequence + 1
  consumedSequence := b.consumedSequence
  unixNs := cULongLong unixNs
  monotonicNs := cULongLong monotonicNs
  height := height
  width := width
  dropped := if b.sequence > b.consumedSequence then b.dropped + 1 else b.dropped
  stale := b.stale
  data_length := by
    have hle := size_le_capacity hfits.2 hfits.1
    rw [← NdArray.bytes_length_of_bgrSize hsize] at hle
    rw [List.length_append, List.length_drop, b.data_length]
    omega
  height_le := hfits.2
  width_le := hfits.1

/-- `LatestFrameBuffer.publish`; `timeNs` and `clockNs` are what `time.time_ns()` and
`time.monotonic_ns()` would return during the call. -/
def publish (b : LatestFrameBuffer layout) (frame : NdArray)
    (capturedAtUnixNs capturedAtMonotonicNs : Option Int) (timeNs clockNs : Int) :
    Except String Nat × LatestFrameBuffer layout :=
  match hsize : frame.bgrSize with
  | none => (.error "frame must be a uint8 HxWx3 BGR array", b)
  | some (height, width) =>
    if hfits : width ≤ layout.maxWidth ∧ height ≤ layout.maxHeight then
      let stored := b.store frame height width hsize hfits (orClock capturedAtUnixNs timeNs)
        (orClock capturedAtMonotonicNs clockNs)
      (.ok stored.sequence, stored)
    else
      (.error s!"frame {width}x{height} exceeds buffer {layout.maxWidth}x{layout.maxHeight}", b)

/-- What `read_latest` finds in the slot. -/
inductive Verdict
  | unchanged
  | stale
  | fresh
  deriving DecidableEq

/-- The age computed by `read_latest`. -/
def ageMs (b : LatestFrameBuffer layout) (clockNs : Int) : ℚ :=
  (clockNs - b.monotonicNs : Int) / 1000000

/-- The two early returns of `read_latest`. -/
def verdict (b : LatestFrameBuffer layout) (afterSequence : Int) (maxAgeMs : Option ℚ)
    (clockNs : Int) : Verdict :=
  if b.sequence = 0 ∨ (b.sequence : Int) ≤ afterSequence then .unchanged
  else if maxAgeMs.any fun maximum => b.ageMs clockNs > maximum then .stale
  else .fresh

/-- The copy of the slot that `read_latest` returns. -/
def packet (b : LatestFrameBuffer layout) : FramePacket where
  cameraId := layout.cameraId
  frameId := b.sequence
  capturedAtUnixNs := b.unixNs
  capturedAtMonotonicNs := b.monotonicNs
  frame := NdArray.ofBgr b.height b.width (b.data.take (b.height * b.width * 3)) (by
    rw [List.length_take, b.data_length]
    exact min_eq_left (size_le_capacity b.height_le b.width_le))

/-- `LatestFrameBuffer.read_latest`; `clockNs` is what `time.monotonic_ns()` returns in it. -/
def readLatest (b : LatestFrameBuffer layout) (afterSequence : Int) (maxAgeMs : Option ℚ)
    (clockNs : Int) : Option FramePacket × LatestFrameBuffer layout :=
  match b.verdict afterSequence maxAgeMs clockNs with
  | .unchanged => (none, b)
  | .stale => (none, { b with stale := b.stale + 1, consumedSequence := b.sequence })
  | .fresh => (some b.packet, { b with consumedSequence := b.sequence })

/-- A publish either raises and leaves the buffer as it was, or stores a frame that fits. -/
theorem publish_cases (b : LatestFrameBuffer layout) (frame : NdArray)
    (capturedAtUnixNs capturedAtMonotonicNs : Option Int) (timeNs clockNs : Int) :
    (∃ message, b.publish frame capturedAtUnixNs capturedAtMonotonicNs timeNs clockNs =
      (.error message, b)) ∨
    ∃ height width hsize hfits,
      b.publish frame capturedAtUnixNs capturedAtMonotonicNs timeNs clockNs =
        (.ok (b.sequence + 1), b.store frame height width hsize hfits
          (orClock capturedAtUnixNs timeNs) (orClock capturedAtMonotonicNs clockNs)) := by
  unfold publish
  split
  · exact Or.inl ⟨_, rfl⟩
  · next height width hsize =>
    split
    · next hfits => exact Or.inr ⟨height, width, hsize, hfits, rfl⟩
    · exact Or.inl ⟨_, rfl⟩

/-- What is read right after a publish is the published frame. -/
theorem packet_store (b : LatestFrameBuffer layout) (frame : NdArray) (height width : Nat)
    (hsize : frame.bgrSize = some (height, width))
    (hfits : width ≤ layout.maxWidth ∧ height ≤ layout.maxHeight) (unixNs monotonicNs : Int) :
    (b.store frame height width hsize hfits unixNs monotonicNs).packet =
      ⟨layout.cameraId, b.sequence + 1, cULongLong unixNs, cULongLong monotonicNs, frame⟩ := by
  have hbytes : (frame.bytes ++ b.data.drop frame.bytes.length).take (height * width * 3) =
      frame.bytes := by
    rw [← NdArray.bytes_length_of_bgrSize hsize]
    exact List.take_left
  simp only [packet, store, hbytes, NdArray.ofBgr_bytes hsize]

/-- A read returns a packet only when the slot is newer than `after_sequence`. -/
theorem verdict_eq_unchanged {b : LatestFrameBuffer layout} {afterSequence : Int}
    {maxAgeMs : Option ℚ} {clockNs : Int} :
    b.verdict afterSequence maxAgeMs clockNs = .unchanged ↔
      b.sequence = 0 ∨ (b.sequence : Int) ≤ afterSequence := by
  unfold verdict
  split
  · next h => simp [h]
  · next h =>
    split <;> simp [h]

/-- A read that consumes the slot found it newer than `after_sequence`. -/
theorem lt_of_verdict_ne {b : LatestFrameBuffer layout} {afterSequence : Int}
    {maxAgeMs : Option ℚ} {clockNs : Int}
    (h : b.verdict afterSequence maxAgeMs clockNs ≠ .unchanged) :
    0 < b.sequence ∧ afterSequence < b.sequence := by
  rw [Ne, verdict_eq_unchanged, not_or, not_le] at h
  exact ⟨Nat.pos_of_ne_zero h.1, h.2⟩

/-- A read that returns a packet copies a fresh slot. -/
theorem readLatest_eq_some {b : LatestFrameBuffer layout} {afterSequence : Int}
    {maxAgeMs : Option ℚ} {clockNs : Int} {packet : FramePacket}
    (h : (b.readLatest afterSequence maxAgeMs clockNs).1 = some packet) :
    b.verdict afterSequence maxAgeMs clockNs = .fresh ∧ packet = b.packet := by
  unfold readLatest at h
  cases hverdict : b.verdict afterSequence maxAgeMs clockNs with
  | unchanged =>
    rw [hverdict] at h
    cases h
  | stale =>
    rw [hverdict] at h
    cases h
  | fresh =>
    rw [hverdict] at h
    exact ⟨rfl, (Option.some.inj h).symm⟩

/-- Publishing only ever raises the sequence number. -/
theorem sequence_le_publish (b : LatestFrameBuffer layout) (frame : NdArray)
    (capturedAtUnixNs capturedAtMonotonicNs : Option Int) (timeNs clockNs : Int) :
    b.sequence ≤
      (b.publish frame capturedAtUnixNs capturedAtMonotonicNs timeNs clockNs).2.sequence := by
  rcases publish_cases b frame capturedAtUnixNs capturedAtMonotonicNs timeNs clockNs with
    ⟨_, h⟩ | ⟨_, _, _, _, h⟩
  · rw [h]
  · rw [h]
    exact Nat.le_succ _

/-- Publishing consumes nothing. -/
theorem publish_consumed (b : LatestFrameBuffer layout) (frame : NdArray)
    (capturedAtUnixNs capturedAtMonotonicNs : Option Int) (timeNs clockNs : Int) :
    let b' := (b.publish frame capturedAtUnixNs capturedAtMonotonicNs timeNs clockNs).2
    b'.stale = b.stale ∧ b'.consumedSequence = b.consumedSequence := by
  rcases publish_cases b frame capturedAtUnixNs capturedAtMonotonicNs timeNs clockNs with
    ⟨_, h⟩ | ⟨_, _, _, _, h⟩ <;>
  · rw [h]
    exact ⟨rfl, rfl⟩

/-- What `read_latest` does to the buffer. -/
theorem readLatest_cases (b : LatestFrameBuffer layout) (afterSequence : Int)
    (maxAgeMs : Option ℚ) (clockNs : Int) :
    (b.readLatest afterSequence maxAgeMs clockNs = (none, b)) ∨
    0 < b.sequence ∧ afterSequence < b.sequence ∧
      (b.readLatest afterSequence maxAgeMs clockNs =
          (none, { b with stale := b.stale + 1, consumedSequence := b.sequence }) ∨
        b.readLatest afterSequence maxAgeMs clockNs =
          (some b.packet, { b with consumedSequence := b.sequence })) := by
  unfold readLatest
  cases hverdict : b.verdict afterSequence maxAgeMs clockNs with
  | unchanged => exact Or.inl rfl
  | stale =>
    obtain ⟨hpos, hafter⟩ := lt_of_verdict_ne (by rw [hverdict]; decide)
    exact Or.inr ⟨hpos, hafter, Or.inl rfl⟩
  | fresh =>
    obtain ⟨hpos, hafter⟩ := lt_of_verdict_ne (by rw [hverdict]; decide)
    exact Or.inr ⟨hpos, hafter, Or.inr rfl⟩

/-- A frame that is returned is not older than the bound. -/
theorem ageMs_le_of_fresh {b : LatestFrameBuffer layout} {afterSequence : Int} {maximum : ℚ}
    {clockNs : Int} (h : b.verdict afterSequence (some maximum) clockNs = .fresh) :
    b.ageMs clockNs ≤ maximum := by
  unfold verdict at h
  split at h
  · cases h
  · split at h
    · cases h
    · next hage => simpa using hage

end LatestFrameBuffer

end EdgeSafety
