import Mathlib.Data.Finset.Card
import Mathlib.Algebra.Order.Interval.Finset.SuccPred
import Mathlib.Data.Nat.SuccPred
import Mathlib.Order.Interval.Finset.Nat
import EdgeSafety.Lib.Transition
import EdgeSafety.Capture.LatestFrameBuffer

/-!
# The latest-frame buffer as a register

What the buffer is for: a register that remembers every frame published to it and which of them
were consumed, of which a reader can see the newest only. `Represents` links the shared slot and
its counters to such a register; every call keeps the link (`Represents.call`), so the counters
count what the register remembers after every sequence of calls (`buffer_exact`).
-/

namespace EdgeSafety

/-- A frame that was published, with the timestamps of its publish. -/
structure Publication where
  frame : NdArray
  unixNs : Int
  monotonicNs : Int

/-- The packet in which a reader receives the publication with the sequence number `frameId`. -/
def Publication.packet (p : Publication) (cameraId : String) (frameId : Nat) : FramePacket :=
  ⟨cameraId, frameId, cULongLong p.unixNs, cULongLong p.monotonicNs, p.frame⟩

/-- A register of published frames, oldest first; the `k`-th one has the sequence number `k`, and
`consumed` holds the numbers of those that a read returned or judged stale. -/
structure FrameRegister where
  published : List Publication
  consumed : Finset Nat

namespace FrameRegister

/-- The register before the first call. -/
def empty : FrameRegister := ⟨[], ∅⟩

/-- `packet` is one of the published frames, under its sequence number. -/
def Publishes (r : FrameRegister) (cameraId : String) (packet : FramePacket) : Prop :=
  ∃ (k : Nat) (p : Publication), r.published[k]? = some p ∧ packet = p.packet cameraId (k + 1)

/-- What was published stays published. -/
theorem Publishes.mono {r r' : FrameRegister} {cameraId : String} {packet : FramePacket}
    (h : r.Publishes cameraId packet) (hextends : r.published <+: r'.published) :
    r'.Publishes cameraId packet := by
  obtain ⟨k, p, hp, rfl⟩ := h
  obtain ⟨hk, rfl⟩ := List.getElem?_eq_some_iff.mp hp
  exact ⟨k, _, List.prefix_iff_getElem?.mp hextends k hk, rfl⟩

/-- The newest frame is one of the published ones. -/
theorem publishes_newest {r : FrameRegister} {p : Publication}
    (h : r.published.getLast? = some p) (cameraId : String) :
    r.Publishes cameraId (p.packet cameraId r.published.length) := by
  obtain ⟨earlier, hearlier⟩ := List.getLast?_eq_some_iff.mp h
  exact ⟨earlier.length, p, by simp [hearlier], by simp [hearlier]⟩

/-- The newest frame is `publication` from now on. -/
def publish (r : FrameRegister) (publication : Publication) : FrameRegister :=
  { r with published := r.published ++ [publication] }

/-- The newest frame has been consumed. -/
def consume (r : FrameRegister) : FrameRegister :=
  { r with consumed := insert r.published.length r.consumed }

/-- The frames before the `n`-th that no read consumed. -/
def unconsumed (r : FrameRegister) (n : Nat) : Finset Nat :=
  (Finset.Ico 1 n).filter (· ∉ r.consumed)

/-- The number of frames that were replaced before a read consumed them. -/
def dropped (r : FrameRegister) : Nat := (r.unconsumed r.published.length).card

/-- The newest frame waits for a read to consume it. -/
def Pending (r : FrameRegister) : Prop := 0 < r.published.length ∧ r.published.length ∉ r.consumed

instance (r : FrameRegister) : Decidable r.Pending := inferInstanceAs (Decidable (_ ∧ _))

theorem card_unconsumed_succ (r : FrameRegister) :
    (r.unconsumed (r.published.length + 1)).card = r.dropped + if r.Pending then 1 else 0 := by
  unfold unconsumed
  by_cases hpos : 0 < r.published.length
  · rw [← Finset.insert_Ico_right_eq_Ico_add_one (Nat.one_le_of_lt hpos), Finset.filter_insert]
    by_cases hmem : r.published.length ∈ r.consumed
    · rw [if_neg (not_not.mpr hmem), if_neg fun h : r.Pending => h.2 hmem]
      rfl
    · rw [if_pos hmem, if_pos (show r.Pending from ⟨hpos, hmem⟩)]
      exact Finset.card_insert_of_notMem (by simp)
  · have hzero : r.published.length = 0 := Nat.eq_zero_of_not_pos hpos
    rw [if_neg fun h : r.Pending => hpos h.1]
    simp [dropped, unconsumed, hzero]

/-- A publish drops the frame that was pending. -/
theorem dropped_publish (r : FrameRegister) (publication : Publication) :
    (r.publish publication).dropped = if r.Pending then r.dropped + 1 else r.dropped := by
  have hlength : (r.publish publication).published.length = r.published.length + 1 :=
    List.length_append
  have hcard : (r.publish publication).dropped = (r.unconsumed (r.published.length + 1)).card := by
    unfold dropped
    rw [hlength]
    rfl
  rw [hcard, card_unconsumed_succ]
  split <;> rfl

/-- Consuming the newest frame drops none. -/
theorem dropped_consume (r : FrameRegister) : r.consume.dropped = r.dropped := by
  apply congrArg Finset.card
  apply Finset.filter_congr
  intro k hk
  have hne : k ≠ r.published.length := (Finset.mem_Ico.mp hk).2.ne
  simp [consume, hne]

/-- Every published frame was dropped, was consumed, or is the newest one and pending. -/
theorem conservation (r : FrameRegister) (h : r.consumed ⊆ Finset.Icc 1 r.published.length) :
    r.dropped + r.consumed.card + (if r.Pending then 1 else 0) = r.published.length := by
  have hall : Finset.Icc 1 r.published.length = Finset.Ico 1 (r.published.length + 1) := rfl
  have hsplit := Finset.card_filter_add_card_filter_not
    (s := Finset.Icc 1 r.published.length) (· ∈ r.consumed)
  rw [Finset.filter_mem_eq_inter, Finset.inter_eq_right.mpr h, Nat.card_Icc, hall] at hsplit
  have hrest := card_unconsumed_succ r
  unfold unconsumed at hrest
  omega

end FrameRegister

namespace LatestFrameBuffer

variable {layout : BufferLayout}

/-- A call of one of the two methods with what the clocks show during it. -/
inductive Call
  | publish (frame : NdArray) (capturedAtUnixNs capturedAtMonotonicNs : Option Int)
      (timeNs clockNs : Int)
  | readLatest (afterSequence : Int) (maxAgeMs : Option ℚ) (clockNs : Int)

/-- The buffer after a call. -/
def call (b : LatestFrameBuffer layout) : Call → LatestFrameBuffer layout
  | .publish frame capturedAtUnixNs capturedAtMonotonicNs timeNs clockNs =>
    (b.publish frame capturedAtUnixNs capturedAtMonotonicNs timeNs clockNs).2
  | .readLatest afterSequence maxAgeMs clockNs => (b.readLatest afterSequence maxAgeMs clockNs).2

/-- What a caller of the buffer `b` adds to the register: a publish that returns its frame, and a
read that returns the newest frame or judges it stale that it consumed it. -/
def record (b : LatestFrameBuffer layout) (r : FrameRegister) : Call → FrameRegister
  | .publish frame capturedAtUnixNs capturedAtMonotonicNs timeNs clockNs =>
    match (b.publish frame capturedAtUnixNs capturedAtMonotonicNs timeNs clockNs).1 with
    | .ok _ => r.publish
      ⟨frame, orClock capturedAtUnixNs timeNs, orClock capturedAtMonotonicNs clockNs⟩
    | .error _ => r
  | .readLatest afterSequence maxAgeMs clockNs =>
    match b.verdict afterSequence maxAgeMs clockNs with
    | .unchanged => r
    | .stale | .fresh => r.consume

/-- No call takes back what was published. -/
theorem published_prefix_record (b : LatestFrameBuffer layout) (r : FrameRegister) (c : Call) :
    r.published <+: (b.record r c).published := by
  cases c with
  | publish frame capturedAtUnixNs capturedAtMonotonicNs timeNs clockNs =>
    simp only [record]
    split
    · exact List.prefix_append _ _
    · exact List.prefix_rfl
  | readLatest afterSequence maxAgeMs clockNs =>
    simp only [record]
    split <;> exact List.prefix_rfl

/-- No call takes back that a frame was consumed. -/
theorem consumed_subset_record (b : LatestFrameBuffer layout) (r : FrameRegister) (c : Call) :
    r.consumed ⊆ (b.record r c).consumed := by
  cases c with
  | publish frame capturedAtUnixNs capturedAtMonotonicNs timeNs clockNs =>
    simp only [record]
    split <;> exact Finset.Subset.refl _
  | readLatest afterSequence maxAgeMs clockNs =>
    simp only [record]
    split
    · exact Finset.Subset.refl _
    · exact Finset.subset_insert _ _
    · exact Finset.subset_insert _ _

/-- A buffer with the register of what its callers have seen it do. -/
abbrev Observed (layout : BufferLayout) :=
  Transition.Recorded (LatestFrameBuffer layout) FrameRegister

/-- The buffer and its register after a sequence of calls on a new buffer. -/
def observe (layout : BufferLayout) (calls : List Call) : Observed layout :=
  Transition.exec (Transition.recorded (fun b c => some (b.call c)) fun r b c => b.record r c)
    ⟨empty layout, .empty⟩ calls

/-- The slot and its counters stand for the register. -/
structure Represents (b : LatestFrameBuffer layout) (r : FrameRegister) : Prop where
  sequence : b.sequence = r.published.length
  consumed_subset : r.consumed ⊆ Finset.Icc 1 b.consumedSequence
  consumedSequence_le : b.consumedSequence ≤ b.sequence
  consumedSequence_mem : 0 < b.consumedSequence → b.consumedSequence ∈ r.consumed
  dropped : b.dropped = r.dropped
  packet : ∀ p, r.published.getLast? = some p →
    b.packet = p.packet layout.cameraId r.published.length

theorem empty_represents (layout : BufferLayout) : (empty layout).Represents .empty :=
  ⟨rfl, Finset.empty_subset _, le_rfl, fun h => absurd h (lt_irrefl 0), rfl, fun _ h => by cases h⟩

/-- The comparison in `publish` finds out whether the newest frame is pending. -/
theorem Represents.pending_iff {b : LatestFrameBuffer layout} {r : FrameRegister}
    (h : b.Represents r) : r.Pending ↔ b.sequence > b.consumedSequence := by
  unfold FrameRegister.Pending
  rw [← h.sequence]
  constructor
  · rintro ⟨hpos, hfresh⟩
    rcases h.consumedSequence_le.lt_or_eq with hlt | heq
    · exact hlt
    · exact absurd (heq ▸ h.consumedSequence_mem (heq ▸ hpos)) hfresh
  · intro hlt
    refine ⟨Nat.zero_lt_of_lt hlt, fun hmem => ?_⟩
    exact absurd (Finset.mem_Icc.mp (h.consumed_subset hmem)).2 (not_le.mpr hlt)

theorem Represents.store {b : LatestFrameBuffer layout} {r : FrameRegister} (h : b.Represents r)
    (frame : NdArray) (height width : Nat) (hsize : frame.bgrSize = some (height, width))
    (hfits : width ≤ layout.maxWidth ∧ height ≤ layout.maxHeight) (unixNs monotonicNs : Int) :
    (b.store frame height width hsize hfits unixNs monotonicNs).Represents
      (r.publish ⟨frame, unixNs, monotonicNs⟩) := by
  have hlength : (r.publish ⟨frame, unixNs, monotonicNs⟩).published.length = b.sequence + 1 := by
    rw [h.sequence]
    exact List.length_append
  refine ⟨hlength.symm, h.consumed_subset, h.consumedSequence_le.trans (Nat.le_succ _),
    h.consumedSequence_mem, ?_, ?_⟩
  · rw [FrameRegister.dropped_publish, ← h.dropped]
    simp only [LatestFrameBuffer.store, h.pending_iff]
  · intro p hp
    obtain rfl : ⟨frame, unixNs, monotonicNs⟩ = p := by
      simpa [FrameRegister.publish] using hp
    rw [packet_store, hlength]
    rfl

/-- A read that consumes the newest frame, whether it returns it or judges it stale. -/
theorem Represents.consume {b : LatestFrameBuffer layout} {r : FrameRegister} (h : b.Represents r)
    (hpos : 0 < b.sequence) (stale : Nat) :
    Represents { b with stale := stale, consumedSequence := b.sequence } r.consume := by
  refine ⟨h.sequence, ?_, le_rfl, fun _ => ?_, ?_, h.packet⟩
  · refine Finset.insert_subset ?_ ?_
    · exact Finset.mem_Icc.mpr ⟨h.sequence ▸ hpos, h.sequence.ge⟩
    · exact h.consumed_subset.trans (Finset.Icc_subset_Icc_right h.consumedSequence_le)
  · exact h.sequence ▸ Finset.mem_insert_self _ _
  · rw [FrameRegister.dropped_consume]
    exact h.dropped

/-- Every call keeps the link between the buffer and the register. -/
theorem Represents.call {b : LatestFrameBuffer layout} {r : FrameRegister} (h : b.Represents r)
    (c : Call) : (b.call c).Represents (b.record r c) := by
  cases c with
  | publish frame capturedAtUnixNs capturedAtMonotonicNs timeNs clockNs =>
    simp only [LatestFrameBuffer.call, record]
    rcases publish_cases b frame capturedAtUnixNs capturedAtMonotonicNs timeNs clockNs with
      ⟨message, hpublish⟩ | ⟨height, width, hsize, hfits, hpublish⟩
    · rw [hpublish]
      exact h
    · rw [hpublish]
      exact h.store frame height width hsize hfits _ _
  | readLatest afterSequence maxAgeMs clockNs =>
    unfold LatestFrameBuffer.call record readLatest
    cases hverdict : b.verdict afterSequence maxAgeMs clockNs with
    | unchanged =>
      simp only [hverdict]
      exact h
    | stale =>
      simp only [hverdict]
      exact h.consume (lt_of_verdict_ne (by rw [hverdict]; decide)).1 _
    | fresh =>
      simp only [hverdict]
      exact h.consume (lt_of_verdict_ne (by rw [hverdict]; decide)).1 _

/-- A read that returns a packet returns the newest publication. -/
theorem Represents.readLatest_eq_some {b : LatestFrameBuffer layout} {r : FrameRegister}
    (h : b.Represents r) {afterSequence : Int} {maxAgeMs : Option ℚ} {clockNs : Int}
    {packet : FramePacket}
    (hread : (b.readLatest afterSequence maxAgeMs clockNs).1 = some packet) :
    ∃ p, r.published.getLast? = some p ∧
      packet = p.packet layout.cameraId r.published.length := by
  obtain ⟨hverdict, rfl⟩ := LatestFrameBuffer.readLatest_eq_some hread
  have hpos : 0 < r.published.length :=
    h.sequence ▸ (lt_of_verdict_ne (by rw [hverdict]; decide)).1
  obtain ⟨p, hp⟩ : ∃ p, r.published.getLast? = some p :=
    ⟨_, List.getLast?_eq_some_getLast (List.length_pos_iff.mp hpos)⟩
  exact ⟨p, hp, h.packet p hp⟩

theorem observe_represents (layout : BufferLayout) (calls : List Call) :
    (observe layout calls).state.Represents (observe layout calls).history :=
  Transition.recorded_invariant (I := Represents)
    (fun _ _ c _ h ht => Option.some.inj ht ▸ h.call c) (empty_represents layout) calls

/-- After every sequence of calls: the sequence number counts the publishes that returned, the
drop counter the frames that were replaced unread, and with the consumed frames and the pending one
they make up all of them; what a read returns is the newest published frame, its timestamps as C
unsigned long longs; and a publish that raises leaves the buffer as it was. -/
theorem buffer_exact (layout : BufferLayout) (calls : List Call) :
    let b := (observe layout calls).state
    let r := (observe layout calls).history
    b.sequence = r.published.length ∧
    b.dropped = ((Finset.Ico 1 b.sequence).filter (· ∉ r.consumed)).card ∧
    b.dropped + r.consumed.card + (if r.Pending then 1 else 0) = b.sequence ∧
    (∀ afterSequence maxAgeMs clockNs packet,
      (b.readLatest afterSequence maxAgeMs clockNs).1 = some packet →
      ∃ p, r.published.getLast? = some p ∧
        packet.cameraId = layout.cameraId ∧
        packet.frameId = r.published.length ∧
        packet.frame = p.frame ∧
        (packet.capturedAtUnixNs : Int) = p.unixNs % 2 ^ 64 ∧
        (packet.capturedAtMonotonicNs : Int) = p.monotonicNs % 2 ^ 64) ∧
    ∀ frame capturedAtUnixNs capturedAtMonotonicNs timeNs clockNs message,
      (b.publish frame capturedAtUnixNs capturedAtMonotonicNs timeNs clockNs).1 = .error message →
      (b.publish frame capturedAtUnixNs capturedAtMonotonicNs timeNs clockNs).2 = b := by
  intro b r
  have h : b.Represents r := observe_represents layout calls
  have hconsumed : r.consumed ⊆ Finset.Icc 1 r.published.length :=
    h.consumed_subset.trans
      (Finset.Icc_subset_Icc_right (h.consumedSequence_le.trans h.sequence.le))
  refine ⟨h.sequence, ?_, ?_, ?_, ?_⟩
  · rw [h.sequence]
    exact h.dropped
  · rw [h.dropped, h.sequence]
    exact r.conservation hconsumed
  · intro afterSequence maxAgeMs clockNs packet hread
    obtain ⟨p, hp, rfl⟩ := h.readLatest_eq_some hread
    exact ⟨p, hp, rfl, rfl, rfl, cast_cULongLong _, cast_cULongLong _⟩
  · intro frame capturedAtUnixNs capturedAtMonotonicNs timeNs clockNs message hraises
    rcases publish_cases b frame capturedAtUnixNs capturedAtMonotonicNs timeNs clockNs with
      ⟨_, hpublish⟩ | ⟨_, _, _, _, hpublish⟩
    · rw [hpublish]
    · rw [hpublish] at hraises
      cases hraises

/-- A buffer for a single pixel. -/
def pixelLayout : BufferLayout := ⟨"cam", 1, 1, by decide, by decide, by decide, by decide⟩

/-- A frame of a single pixel. -/
def pixel (blue green red : UInt8) : NdArray := NdArray.ofBgr 1 1 [blue, green, red] rfl

/-- A negative timestamp does not come back: it is kept as a C unsigned long long. -/
theorem readLatest_negative_timestamp :
    let calls := [Call.publish (pixel 1 2 3) (some (-1)) none 5 7]
    let s := observe pixelLayout calls
    s.history.published.map Publication.unixNs = [-1] ∧
    ((s.state.readLatest 0 none 7).1.map fun packet => (packet.capturedAtUnixNs : Int)) =
      some (2 ^ 64 - 1) := by
  decide +kernel

end LatestFrameBuffer

end EdgeSafety
