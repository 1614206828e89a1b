import EdgeSafety.Lib.Custody
import EdgeSafety.SharedMemory.DoubleBuffer

/-!
# Custody of the LOCKED slots

A LOCKED slot is in the custody of P2 from `acquire` to `write_result` or `release`, of the latest
result until P1 reads it, and of P1 from then to `release`. `step_handled` and `step_lost` say what
a step does to the custody of the slots: a step that satisfies `KeepsTrack` hands a slot on or
frees it, any other one loses track of a slot. In every reachable state the custody is sound
(`Consistent.step`).
-/

namespace EdgeSafety

/-- The LOCKED slots. -/
def FrameBuffer.locked {layout : FrameBufferLayout} (m : FrameBuffer layout) : Set (Fin 2) :=
  {b | (m.slot b).state = .locked}

namespace FrameBuffer

variable {layout : FrameBufferLayout} {m : FrameBuffer layout} {b : Fin 2}

theorem mem_locked : b ∈ m.locked ↔ (m.slot b).state = .locked := Iff.rfl

theorem locked_acquire : (m.acquire b).locked = insert b m.locked := by
  ext b'
  rw [Set.mem_insert_iff, mem_locked, mem_locked]
  by_cases h : b' = b
  · subst h
    simp [acquire]
  · rw [acquire, setState_slot_of_ne h]
    simp [h]

theorem locked_release : (m.release b).locked = m.locked \ {b} := by
  ext b'
  rw [Set.mem_sdiff, Set.mem_singleton_iff, mem_locked, mem_locked]
  by_cases h : b' = b
  · subst h
    simp [release]
  · rw [release, setState_slot_of_ne h]
    simp [h]

theorem locked_writeFrame (h : (m.slot b).state = .free) (frame : NdArray) :
    (m.writeFrame b frame).2.locked = m.locked := by
  ext b'
  apply writeFrame_locked
  rw [h]
  decide

theorem locked_writeResult (encoded : List UInt8) :
    (m.writeResult encoded b).2.locked = m.locked := by
  unfold locked
  rw [writeResult_slot]

end FrameBuffer

namespace DoubleBuffer

/-- Who a LOCKED slot can be in the custody of. -/
inductive Holder
  | worker
  | result
  | capture
  deriving DecidableEq

/-- The slot P2 has acquired and neither released nor written a result for. -/
def WorkerPc.held : WorkerPc → Option (Fin 2)
  | .readFrame bufIdx | .release bufIdx | .detect bufIdx _ | .writeResult bufIdx _ _ => some bufIdx
  | .findFilled | .acquire _ | .ended => none

/-- The slot named by a result that P1 has read, until it is released. -/
def CapturePc.held {Payload : Type} : CapturePc Payload → Option (Fin 2)
  | .readFrame _ resultBuf | .overlay _ resultBuf _ | .release resultBuf => some resultBuf
  | .idle | .pickFree _ | .writeFrame _ _ | .readResult => none

variable {layout : FrameBufferLayout} {Payload : Type} {loads : List UInt8 → Option Payload}

namespace State

/-- The latest result has not been read. -/
def Unread (s : State layout Payload) : Prop := s.memory.resultSeq ≠ s.lastResultSeq

instance (s : State layout Payload) : Decidable s.Unread := inferInstanceAs (Decidable (_ ≠ _))

/-- The slot each holder has. -/
def held (s : State layout Payload) : Holder → Option (Fin 2)
  | .worker => s.worker.held
  | .result => if s.Unread then slotOfIndex s.memory.resultForBuf else none
  | .capture => s.capture.held

/-- The custody of the slots. -/
def custody (s : State layout Payload) : Custody Holder (Fin 2) := ⟨s.held, s.memory.locked⟩

end State

/-- The step raises nowhere between acquiring a slot and writing its result, or between reading a
result and releasing its slot; a result that is read can be parsed; and one is written only when
the one before it has been read. -/
def KeepsTrack (loads : List UInt8 → Option Payload) (s : State layout Payload) : Event → Prop
  | .capture => s.capture = .readResult → s.Unread →
    ((FrameBuffer.resultText s.memory.result).bind loads).isSome
  | .worker => ∀ bufIdx frame encoded, s.worker = .writeResult bufIdx frame encoded →
    ¬ s.Unread ∧ s.memory.resultSeq + 1 < 2 ^ 64
  | .captureRaises | .workerRaises => False
  | .handleFrame _ | .detected _ => True

/-- What holds in every reachable state. -/
structure Consistent (s : State layout Payload) : Prop where
  custody : s.custody.Sound
  acquiring : ∀ bufIdx, s.worker = .acquire bufIdx → (s.memory.slot bufIdx).state = .filled
  writing : ∀ frame freeIdx, s.capture = .writeFrame frame freeIdx →
    (s.memory.slot freeIdx).state = .free
  named : s.Unread → ∃ b : Fin 2, s.memory.resultForBuf = b.val
  lastResultSeq_le : s.lastResultSeq ≤ s.memory.resultSeq

theorem init_consistent (layout : FrameBufferLayout) (Payload : Type) :
    Consistent (State.init layout Payload) where
  custody := by
    have hheld : ∀ h, (State.init layout Payload).held h = none := by
      rintro (_ | _ | _) <;> rfl
    refine ⟨?_, ?_⟩
    · intro h _ b hb
      cases (hheld h).symm.trans hb
    · intro h b hb
      cases (hheld h).symm.trans hb
  acquiring _ h := by cases h
  writing _ _ h := by cases h
  named h := absurd rfl h
  lastResultSeq_le := Nat.le_refl _

section Step
variable {s t : State layout Payload} {e : Event}

theorem held_result_of_read (h : ¬ s.Unread) : s.held .result = none := if_neg h

theorem held_result_iff {b : Fin 2} :
    s.held .result = some b ↔ s.Unread ∧ s.memory.resultForBuf = b.val := by
  by_cases h : s.Unread
  · rw [State.held, if_pos h, slotOfIndex_eq_some]
    exact (and_iff_right h).symm
  · simp [held_result_of_read h, h]

theorem Consistent.held_result (hs : Consistent s) (h : s.Unread) :
    ∃ b, s.held .result = some b := by
  obtain ⟨b, hb⟩ := hs.named h
  refine ⟨b, ?_⟩
  simp only [State.held, if_pos h, hb, slotOfIndex_val]

/-- A step of P1 that touches neither the header nor the slots in custody. -/
theorem handled_of_capture {capture : CapturePc Payload} (h : capture.held = s.capture.held) :
    Custody.Handled s.custody { s with capture := capture }.custody := by
  refine .stay ?_ rfl
  funext holder
  cases holder with
  | worker => rfl
  | result => rfl
  | capture => exact h

/-- The same of a step of P2. -/
theorem handled_of_worker {worker : WorkerPc} (h : worker.held = s.worker.held) :
    Custody.Handled s.custody { s with worker := worker }.custody := by
  refine .stay ?_ rfl
  funext holder
  cases holder with
  | worker => exact h
  | result => rfl
  | capture => rfl

theorem writeFrame_handled (hs : Consistent s) {frame : NdArray} {freeIdx : Fin 2}
    (hpc : s.capture = .writeFrame frame freeIdx) :
    Custody.Handled s.custody (s.writeFrame frame freeIdx).custody := by
  refine .stay ?_ (FrameBuffer.locked_writeFrame (hs.writing frame freeIdx hpc) frame)
  funext holder
  cases holder with
  | worker => rfl
  | result => rfl
  | capture =>
    change (s.writeFrame frame freeIdx).capture.held = s.capture.held
    rw [hpc]
    unfold State.writeFrame
    dsimp only
    split <;> rfl

/-- What `read_result` does to P1. -/
theorem readResult_cases (loads : List UInt8 → Option Payload) (hs : Consistent s) :
    ¬ s.Unread ∧ s.readResult loads = { s with capture := .idle } ∨
    s.Unread ∧ ∃ resultBuf, s.held .result = some resultBuf ∧
      ((FrameBuffer.resultText s.memory.result).bind loads = none ∧
          s.readResult loads =
            { s with lastResultSeq := s.memory.resultSeq, capture := .idle } ∨
        ∃ payload, (FrameBuffer.resultText s.memory.result).bind loads = some payload ∧
          s.readResult loads =
            { s with
              lastResultSeq := s.memory.resultSeq
              capture := .readFrame payload resultBuf }) := by
  by_cases hunread : s.Unread
  · obtain ⟨b, hb⟩ := hs.named hunread
    have hheld : s.held .result = some b := by
      simp only [State.held, if_pos hunread, hb, slotOfIndex_val]
    refine Or.inr ⟨hunread, b, hheld, ?_⟩
    have hseq : s.memory.resultSeq ≠ s.lastResultSeq := hunread
    simp only [State.readResult, FrameBuffer.readResult, if_neg hseq]
    cases hparse : (FrameBuffer.resultText s.memory.result).bind loads with
    | none => exact Or.inl ⟨rfl, rfl⟩
    | some payload =>
      refine Or.inr ⟨payload, rfl, ?_⟩
      simp only [Option.map_some, hb, slotOfIndex_val]
  · have hseq : s.memory.resultSeq = s.lastResultSeq := not_not.mp hunread
    refine Or.inl ⟨hunread, ?_⟩
    simp only [State.readResult, FrameBuffer.readResult, if_pos hseq]

theorem readResult_handled (hs : Consistent s) (hpc : s.capture = .readResult)
    (hok : s.Unread → ((FrameBuffer.resultText s.memory.result).bind loads).isSome) :
    Custody.Handled s.custody (s.readResult loads).custody := by
  rcases readResult_cases loads hs with
    ⟨-, ht⟩ | ⟨hunread, b, hb, ⟨hparse, -⟩ | ⟨payload, -, ht⟩⟩
  · rw [ht]
    apply handled_of_capture
    rw [hpc]
    rfl
  · have hsome := hok hunread
    rw [hparse] at hsome
    cases hsome
  · rw [ht]
    refine .pass .result .capture (congrArg CapturePc.held hpc) ?_ rfl
    funext holder
    cases holder with
    | worker => rfl
    | result => exact held_result_of_read (fun h => h rfl)
    | capture => exact hb.symm

theorem readResult_lost (hs : Consistent s) (hpc : s.capture = .readResult)
    (hbad : ¬ (s.Unread → ((FrameBuffer.resultText s.memory.result).bind loads).isSome)) :
    Custody.Lost s.custody (s.readResult loads).custody := by
  rcases readResult_cases loads hs with
    ⟨hread, -⟩ | ⟨-, b, hb, ⟨-, ht⟩ | ⟨payload, hparse, -⟩⟩
  · exact absurd (fun h => absurd h hread) hbad
  · rw [ht]
    refine .drop .result b hb ?_ rfl
    funext holder
    cases holder with
    | worker => rfl
    | result => exact held_result_of_read (fun h => h rfl)
    | capture => exact (congrArg CapturePc.held hpc).symm
  · exact absurd (fun _ => hparse ▸ rfl) hbad

theorem release_handled {resultBuf : Fin 2} (hpc : s.capture = .release resultBuf) :
    Custody.Handled s.custody (s.release resultBuf).custody := by
  refine .free .capture resultBuf (congrArg CapturePc.held hpc) ?_ FrameBuffer.locked_release
  funext holder
  cases holder <;> rfl

theorem acquire_handled (hs : Consistent s) {bufIdx : Fin 2} (hpc : s.worker = .acquire bufIdx) :
    Custody.Handled s.custody (s.acquire bufIdx).custody := by
  refine .take .worker bufIdx (congrArg WorkerPc.held hpc) ?_ ?_ FrameBuffer.locked_acquire
  · intro hlocked
    have hfilled := hs.acquiring bufIdx hpc
    rw [FrameBuffer.mem_locked.mp hlocked] at hfilled
    cases hfilled
  · funext holder
    cases holder <;> rfl

theorem releaseEmpty_handled {bufIdx : Fin 2} (hpc : s.worker = .release bufIdx) :
    Custody.Handled s.custody (s.releaseEmpty bufIdx).custody := by
  refine .free .worker bufIdx (congrArg WorkerPc.held hpc) ?_ FrameBuffer.locked_release
  funext holder
  cases holder <;> rfl

/-- What `write_result` does. -/
theorem writeResult_cases (s : State layout Payload) (bufIdx : Fin 2) (encoded : List UInt8) :
    s.memory.resultSeq + 1 < 2 ^ 64 ∧ (s.writeResult bufIdx encoded).worker = .findFilled ∧
        (s.writeResult bufIdx encoded).memory.resultSeq = s.memory.resultSeq + 1 ∨
      ¬ s.memory.resultSeq + 1 < 2 ^ 64 ∧ (s.writeResult bufIdx encoded).worker = .ended ∧
        (s.writeResult bufIdx encoded).memory.resultSeq = s.memory.resultSeq := by
  unfold State.writeResult FrameBuffer.writeResult
  by_cases h : s.memory.resultSeq + 1 < 2 ^ 64
  · left
    rw [if_pos h]
    exact ⟨h, rfl, rfl⟩
  · right
    rw [if_neg h]
    exact ⟨h, rfl, rfl⟩

/-- P2 has nothing left once it has written a result. -/
theorem writeResult_worker_held (s : State layout Payload) (bufIdx : Fin 2)
    (encoded : List UInt8) : (s.writeResult bufIdx encoded).worker.held = none := by
  rcases writeResult_cases s bufIdx encoded with ⟨-, h, -⟩ | ⟨-, h, -⟩ <;>
  · rw [h]
    rfl

/-- The slot of a result goes from P2 to the result, provided that P1 will see the result. -/
theorem writeResult_held {bufIdx : Fin 2} {frame : NdArray} {encoded : List UInt8}
    (hpc : s.worker = .writeResult bufIdx frame encoded)
    (hunread : (s.writeResult bufIdx encoded).Unread) :
    (s.writeResult bufIdx encoded).held = Custody.moved s.held .worker .result := by
  funext holder
  cases holder with
  | worker => exact writeResult_worker_held s bufIdx encoded
  | result =>
    have hworker : s.held .worker = some bufIdx := congrArg WorkerPc.held hpc
    have hindex : (s.writeResult bufIdx encoded).memory.resultForBuf = bufIdx.val :=
      FrameBuffer.writeResult_resultForBuf
    simp only [State.held, if_pos hunread, hindex, slotOfIndex_val]
    exact hworker.symm
  | capture => rfl

theorem writeResult_handled (hs : Consistent s) {bufIdx : Fin 2} {frame : NdArray}
    {encoded : List UInt8} (hpc : s.worker = .writeResult bufIdx frame encoded)
    (hread : ¬ s.Unread) (hfits : s.memory.resultSeq + 1 < 2 ^ 64) :
    Custody.Handled s.custody (s.writeResult bufIdx encoded).custody := by
  have hunread : (s.writeResult bufIdx encoded).Unread := by
    rcases writeResult_cases s bufIdx encoded with ⟨-, -, hseq⟩ | ⟨hfull, -⟩
    · have hle := hs.lastResultSeq_le
      change (s.writeResult bufIdx encoded).memory.resultSeq ≠ s.lastResultSeq
      omega
    · exact absurd hfits hfull
  exact .pass .worker .result (held_result_of_read hread)
    (writeResult_held hpc hunread) (FrameBuffer.locked_writeResult encoded)

theorem writeResult_lost (hs : Consistent s) {bufIdx : Fin 2} {frame : NdArray}
    {encoded : List UInt8} (hpc : s.worker = .writeResult bufIdx frame encoded)
    (hbad : ¬ (¬ s.Unread ∧ s.memory.resultSeq + 1 < 2 ^ 64)) :
    Custody.Lost s.custody (s.writeResult bufIdx encoded).custody := by
  have hle := hs.lastResultSeq_le
  have htaken := FrameBuffer.locked_writeResult (m := s.memory) (b := bufIdx) encoded
  by_cases hunread : s.Unread
  · -- the slot of the result that is overwritten is forgotten
    obtain ⟨b, hb⟩ := hs.held_result hunread
    have hunread' : (s.writeResult bufIdx encoded).Unread := by
      have hne : s.memory.resultSeq ≠ s.lastResultSeq := hunread
      change (s.writeResult bufIdx encoded).memory.resultSeq ≠ s.lastResultSeq
      rcases writeResult_cases s bufIdx encoded with ⟨-, -, hseq⟩ | ⟨-, -, hseq⟩ <;> omega
    exact .overwrite .worker .result b (by decide) hb (writeResult_held hpc hunread') htaken
  · -- the result is not announced
    have hfull : ¬ s.memory.resultSeq + 1 < 2 ^ 64 := fun h => hbad ⟨hunread, h⟩
    have hread : ¬ (s.writeResult bufIdx encoded).Unread := by
      rcases writeResult_cases s bufIdx encoded with ⟨h, -⟩ | ⟨-, -, hseq⟩
      · exact absurd h hfull
      · intro hne
        apply hunread
        rw [State.Unread, hseq] at hne
        exact hne
    refine .drop .worker bufIdx (congrArg WorkerPc.held hpc) ?_ htaken
    funext holder
    cases holder with
    | worker => exact writeResult_worker_held s bufIdx encoded
    | result =>
      exact (held_result_of_read hread).trans
        (held_result_of_read hunread).symm
    | capture => rfl

/-- A step that keeps track of the slots takes one, hands one on or frees one. -/
theorem step_handled (hs : Consistent s) (hok : KeepsTrack loads s e)
    (hstep : s.step loads e = some t) : Custody.Handled s.custody t.custody := by
  cases State.step_cases hstep with
  | handleFrame frame pc => exact handled_of_capture (by rw [pc]; rfl)
  | pickFree frame pc =>
    apply handled_of_capture
    rw [pc]
    split <;> rfl
  | writeFrame frame freeIdx pc => exact writeFrame_handled hs pc
  | readResult pc => exact readResult_handled hs pc (hok pc)
  | readBack payload resultBuf pc =>
    apply handled_of_capture
    rw [pc]
    split <;> rfl
  | overlay payload resultBuf exactFrame pc => exact handled_of_capture (by rw [pc]; rfl)
  | release resultBuf pc => exact release_handled pc
  | captureRaises => exact hok.elim
  | findFilled pc =>
    apply handled_of_worker
    rw [pc]
    split <;> rfl
  | acquire bufIdx pc => exact acquire_handled hs pc
  | readFrame bufIdx pc =>
    apply handled_of_worker
    rw [pc]
    split <;> rfl
  | releaseEmpty bufIdx pc => exact releaseEmpty_handled pc
  | writeResult bufIdx frame encoded pc =>
    obtain ⟨hread, hfits⟩ := hok bufIdx frame encoded pc
    exact writeResult_handled hs pc hread hfits
  | detected bufIdx frame encoded pc => exact handled_of_worker (by rw [pc]; rfl)
  | workerRaises => exact hok.elim

/-- Any other step loses track of a slot. -/
theorem step_lost (hs : Consistent s) (hbad : ¬ KeepsTrack loads s e)
    (hstep : s.step loads e = some t) : Custody.Lost s.custody t.custody := by
  cases e with
  | handleFrame frame => exact absurd trivial hbad
  | detected encoded => exact absurd trivial hbad
  | capture =>
    by_cases hpc : s.capture = .readResult
    · simp only [State.step, State.advanceCapture, hpc, Option.some.injEq] at hstep
      subst hstep
      exact readResult_lost hs hpc fun h => hbad fun _ => h
    · exact absurd (fun h => absurd h hpc) hbad
  | worker =>
    simp only [KeepsTrack, not_forall] at hbad
    obtain ⟨bufIdx, frame, encoded, hpc, hbad⟩ := hbad
    simp only [State.step, State.advanceWorker, hpc, Option.some.injEq] at hstep
    subst hstep
    exact writeResult_lost hs hpc hbad
  | captureRaises =>
    cases State.step_cases hstep with
    | captureRaises payload resultBuf exactFrame pc =>
      refine .drop .capture resultBuf (congrArg CapturePc.held pc) ?_ rfl
      funext holder
      cases holder <;> rfl
  | workerRaises =>
    cases State.step_cases hstep with
    | workerRaises bufIdx frame pc =>
      refine .drop .worker bufIdx (congrArg WorkerPc.held pc) ?_ rfl
      funext holder
      cases holder <;> rfl

theorem step_custody (hs : Consistent s) (hstep : s.step loads e = some t) :
    Custody.Handled s.custody t.custody ∨ Custody.Lost s.custody t.custody := by
  by_cases hok : KeepsTrack loads s e
  · exact Or.inl (step_handled hs hok hstep)
  · exact Or.inr (step_lost hs hok hstep)

/-- What is in custody is LOCKED. -/
theorem Consistent.state_of_held (hs : Consistent s) {holder : Holder} {b : Fin 2}
    (h : s.held holder = some b) : (s.memory.slot b).state = .locked :=
  hs.custody.taken holder b h

/-- A slot that P2 is about to acquire is FILLED, whatever P1 does. -/
theorem Consistent.acquiring_step (hs : Consistent s) (hstep : s.step loads e = some t)
    {bufIdx : Fin 2} (h : t.worker = .acquire bufIdx) :
    (t.memory.slot bufIdx).state = .filled := by
  cases State.step_cases hstep with
  | handleFrame frame pc => exact hs.acquiring bufIdx h
  | pickFree frame pc => exact hs.acquiring bufIdx h
  | writeFrame frame freeIdx pc =>
    have hfilled := hs.acquiring bufIdx h
    have hne : bufIdx ≠ freeIdx := by
      rintro rfl
      rw [hs.writing frame bufIdx pc] at hfilled
      cases hfilled
    change ((s.memory.writeFrame freeIdx frame).2.slot bufIdx).state = .filled
    rw [FrameBuffer.writeFrame_slot_of_ne hne]
    exact hfilled
  | readResult pc => exact hs.acquiring bufIdx h
  | readBack payload resultBuf pc => exact hs.acquiring bufIdx h
  | overlay payload resultBuf exactFrame pc => exact hs.acquiring bufIdx h
  | release resultBuf pc =>
    have hfilled := hs.acquiring bufIdx h
    have hne : bufIdx ≠ resultBuf := by
      rintro rfl
      have hheld : s.held .capture = some bufIdx := congrArg CapturePc.held pc
      rw [hs.state_of_held hheld] at hfilled
      cases hfilled
    change ((s.memory.release resultBuf).slot bufIdx).state = .filled
    rw [FrameBuffer.release, FrameBuffer.setState_slot_of_ne hne]
    exact hfilled
  | captureRaises payload resultBuf exactFrame pc => exact hs.acquiring bufIdx h
  | findFilled pc =>
    simp only [State.findFilled] at h
    split at h
    · next hfound =>
      cases h
      exact FrameBuffer.find_eq_some hfound
    · cases h
  | acquire => cases h
  | readFrame bufIdx' pc =>
    simp only [State.readFrame] at h
    split at h <;> cases h
  | releaseEmpty => cases h
  | writeResult bufIdx' frame encoded pc =>
    rcases writeResult_cases s bufIdx' encoded with ⟨-, hworker, -⟩ | ⟨-, hworker, -⟩ <;>
    · rw [hworker] at h
      cases h
  | detected => cases h
  | workerRaises => cases h

/-- A slot that P1 is about to write is FREE, whatever P2 does. -/
theorem Consistent.writing_step (hs : Consistent s) (hstep : s.step loads e = some t)
    {frame : NdArray} {freeIdx : Fin 2} (h : t.capture = .writeFrame frame freeIdx) :
    (t.memory.slot freeIdx).state = .free := by
  cases State.step_cases hstep with
  | handleFrame => cases h
  | pickFree frame' pc =>
    simp only [State.pickFree] at h
    split at h
    · next hpicked =>
      cases h
      exact FrameBuffer.find_eq_some hpicked
    · cases h
  | writeFrame frame' freeIdx' pc =>
    simp only [State.writeFrame] at h
    split at h <;> cases h
  | readResult pc =>
    rcases readResult_cases loads hs with
      ⟨-, ht⟩ | ⟨-, b, -, ⟨-, ht⟩ | ⟨payload, -, ht⟩⟩ <;>
    · rw [ht] at h
      cases h
  | readBack payload resultBuf pc =>
    simp only [State.readBack] at h
    split at h <;> cases h
  | overlay => cases h
  | release => cases h
  | captureRaises => cases h
  | findFilled pc => exact hs.writing frame freeIdx h
  | acquire bufIdx pc =>
    have hfree := hs.writing frame freeIdx h
    have hne : freeIdx ≠ bufIdx := by
      rintro rfl
      rw [hs.acquiring freeIdx pc] at hfree
      cases hfree
    change ((s.memory.acquire bufIdx).slot freeIdx).state = .free
    rw [FrameBuffer.acquire, FrameBuffer.setState_slot_of_ne hne]
    exact hfree
  | readFrame bufIdx pc => exact hs.writing frame freeIdx h
  | releaseEmpty bufIdx pc =>
    have hfree := hs.writing frame freeIdx h
    have hne : freeIdx ≠ bufIdx := by
      rintro rfl
      have hheld : s.held .worker = some freeIdx := congrArg WorkerPc.held pc
      rw [hs.state_of_held hheld] at hfree
      cases hfree
    change ((s.memory.release bufIdx).slot freeIdx).state = .free
    rw [FrameBuffer.release, FrameBuffer.setState_slot_of_ne hne]
    exact hfree
  | writeResult bufIdx frame' encoded pc =>
    change ((s.memory.writeResult encoded bufIdx).2.slot freeIdx).state = .free
    rw [FrameBuffer.writeResult_slot]
    exact hs.writing frame freeIdx h
  | detected bufIdx frame' encoded pc => exact hs.writing frame freeIdx h
  | workerRaises bufIdx frame' pc => exact hs.writing frame freeIdx h

/-- An unread result always names a slot, and P1 never gets ahead of the results. -/
theorem Consistent.header_step (hs : Consistent s) (hstep : s.step loads e = some t) :
    (t.Unread → ∃ b : Fin 2, t.memory.resultForBuf = b.val) ∧
      t.lastResultSeq ≤ t.memory.resultSeq := by
  cases State.step_cases hstep with
  | readResult pc =>
    rcases readResult_cases loads hs with
      ⟨-, ht⟩ | ⟨-, b, -, ⟨-, ht⟩ | ⟨payload, -, ht⟩⟩ <;> rw [ht]
    · exact ⟨hs.named, hs.lastResultSeq_le⟩
    · exact ⟨fun h => absurd rfl h, Nat.le_refl _⟩
    · exact ⟨fun h => absurd rfl h, Nat.le_refl _⟩
  | writeResult bufIdx frame encoded pc =>
    refine ⟨fun _ => ⟨bufIdx, FrameBuffer.writeResult_resultForBuf⟩, ?_⟩
    have hle := hs.lastResultSeq_le
    change s.lastResultSeq ≤ (s.writeResult bufIdx encoded).memory.resultSeq
    rcases writeResult_cases s bufIdx encoded with ⟨-, -, hseq⟩ | ⟨-, -, hseq⟩ <;> omega
  | _ => exact ⟨hs.named, hs.lastResultSeq_le⟩

theorem Consistent.step (hs : Consistent s) (hstep : s.step loads e = some t) : Consistent t where
  custody := (step_custody hs hstep).elim hs.custody.handled hs.custody.lost
  acquiring _ h := hs.acquiring_step hstep h
  writing _ _ h := hs.writing_step hstep h
  named := (hs.header_step hstep).1
  lastResultSeq_le := (hs.header_step hstep).2

end Step

end DoubleBuffer

end EdgeSafety
