import EdgeSafety.Lib.Transition
import EdgeSafety.SharedMemory.FrameBuffer

/-!
# Results, one access at a time

`write_result` of P2 and `read_result` of P1, where each access to the result segment or to a field
of the control segment is a step. The writer changes `result_seq` last and the reader looks at it
first and only once, so that a result is read whole, and read once, if the writer keeps out of the
way of the reader (`results_whole_once`). Without interruption the steps do what
`FrameBuffer.writeResult` and `FrameBuffer.readResult` say.
-/

namespace EdgeSafety.ResultSteps

/-- Where `write_result` is: between two calls, after the payload, after the terminator, after
`result_for_buf`, and with `result_seq` read. -/
inductive Writer
  | idle
  | payload (encoded : List UInt8) (b : Fin 2)
  | terminator (encoded : List UInt8) (b : Fin 2)
  | forBuf
  | seqRead (resultSeq : Nat)
  deriving DecidableEq

/-- Where `read_result` is: between two calls, after a new `result_seq`, and with the payload. -/
inductive Reader (Payload : Type)
  | idle
  | sampled
  | parsed (payload : Payload)
  deriving DecidableEq

/-- The segments, the two processes, and `_last_result_seq` of the reader. -/
structure State (layout : FrameBufferLayout) (Payload : Type) where
  buffer : FrameBuffer layout
  writer : Writer := .idle
  reader : Reader Payload := .idle
  lastResultSeq : Nat := 0

/-- A step: the next access of a `write_result` or of a `read_result`. -/
inductive Event
  | writePayload (encoded : List UInt8) (b : Fin 2)
  | writeTerminator
  | writeForBuf
  | readSeq
  | writeSeq
  | sampleSeq
  | readPayload
  | readForBuf
  deriving DecidableEq

variable {layout : FrameBufferLayout} {Payload : Type}

/-- `min(len(encoded), RESULT_SIZE - 1)`. -/
def cut (encoded : List UInt8) : Nat := min encoded.length (resultSize - 1)

/-- The segment once the payload is in it. -/
def overwritten (segment encoded : List UInt8) : List UInt8 :=
  encoded.take (cut encoded) ++ segment.drop (cut encoded)

theorem overwritten_length {segment : List UInt8} (h : segment.length = resultSize)
    (encoded : List UInt8) : (overwritten segment encoded).length = resultSize := by
  have hcut : cut encoded ≤ encoded.length ∧ cut encoded ≤ resultSize := by
    unfold cut
    omega
  unfold overwritten
  rw [List.length_append, List.length_take, List.length_drop, h]
  omega

/-- The terminator ends the payload. -/
theorem set_overwritten {segment : List UInt8} (h : segment.length = resultSize)
    (encoded : List UInt8) : (overwritten segment encoded).set (cut encoded) 0 =
      FrameBuffer.terminated segment encoded := by
  have hlt : cut encoded < segment.length := by
    rw [h]
    unfold cut resultSize
    omega
  have htake : (encoded.take (cut encoded)).length = cut encoded :=
    List.length_take_of_le (Nat.min_le_left _ _)
  unfold overwritten FrameBuffer.terminated
  rw [List.set_append_right (h := Nat.le_of_eq htake), htake, Nat.sub_self,
    List.drop_eq_getElem_cons hlt, List.set_cons_zero]
  rfl

namespace State

/-- A step of `write_result`. Incrementing `result_seq` raises when the number does not fit. -/
def write (s : State layout Payload) : Event → Option (State layout Payload)
  | .writePayload encoded b =>
    match s.writer with
    | .idle => some { s with
        buffer := { s.buffer with
          result := overwritten s.buffer.result encoded
          result_length := overwritten_length s.buffer.result_length encoded }
        writer := .payload encoded b }
    | _ => none
  | .writeTerminator =>
    match s.writer with
    | .payload encoded b => some { s with
        buffer := { s.buffer with
          result := s.buffer.result.set (cut encoded) 0
          result_length := List.length_set.trans s.buffer.result_length }
        writer := .terminator encoded b }
    | _ => none
  | .writeForBuf =>
    match s.writer with
    | .terminator _ b => some { s with
        buffer := { s.buffer with resultForBuf := b.val }
        writer := .forBuf }
    | _ => none
  | .readSeq =>
    match s.writer with
    | .forBuf => some { s with writer := .seqRead s.buffer.resultSeq }
    | _ => none
  | .writeSeq =>
    match s.writer with
    | .seqRead resultSeq =>
      if resultSeq + 1 < 2 ^ 64 then
        some { s with
          buffer := { s.buffer with resultSeq := resultSeq + 1 }
          writer := .idle }
      else some { s with writer := .idle }
    | _ => none
  | _ => none

/-- The dict that a step of `read_result` returns, if any. -/
def returns (s : State layout Payload) : Event → Option (Payload × Int)
  | .readForBuf =>
    match s.reader with
    | .parsed payload => some (payload, s.buffer.resultForBuf)
    | _ => none
  | _ => none

/-- A step of `read_result`. -/
def read (loads : List UInt8 → Option Payload) (s : State layout Payload) :
    Event → Option (State layout Payload)
  | .sampleSeq =>
    match s.reader with
    | .idle =>
      if s.buffer.resultSeq = s.lastResultSeq then some s
      else some { s with reader := .sampled, lastResultSeq := s.buffer.resultSeq }
    | _ => none
  | .readPayload =>
    match s.reader with
    | .sampled =>
      match (FrameBuffer.resultText s.buffer.result).bind loads with
      | none => some { s with reader := .idle }
      | some payload => some { s with reader := .parsed payload }
    | _ => none
  | .readForBuf =>
    match s.reader with
    | .parsed _ => some { s with reader := .idle }
    | _ => none
  | _ => none

/-- One step of either process. -/
def step (loads : List UInt8 → Option Payload) (s : State layout Payload) (event : Event) :
    Option (State layout Payload) :=
  (s.write event).or (s.read loads event)

end State

section Uninterrupted
variable {loads : List UInt8 → Option Payload} {s : State layout Payload}

/-- The steps of a `write_result`. -/
def writeSteps (encoded : List UInt8) (b : Fin 2) : List Event :=
  [.writePayload encoded b, .writeTerminator, .writeForBuf, .readSeq, .writeSeq]

/-- The steps of a `read_result`. -/
def readSteps : List Event := [.sampleSeq, .readPayload, .readForBuf]

/-- Without interruption they do what `write_result` does. -/
theorem exec_writeSteps (h : s.writer = .idle) (encoded : List UInt8) (b : Fin 2) :
    Transition.exec (State.step loads) s (writeSteps encoded b) =
      { s with buffer := (s.buffer.writeResult encoded b).2 } := by
  obtain ⟨buffer, writer, reader, lastResultSeq⟩ := s
  subst h
  have hset := set_overwritten buffer.result_length encoded
  simp only [writeSteps, Transition.exec, State.step, State.write, Option.some_or,
    Option.getD_some, FrameBuffer.writeResult, hset]
  split <;> simp

/-- Without interruption they do what `read_result` does, and return what it returns. -/
theorem exec_readSteps (h : s.reader = .idle) :
    Transition.exec (State.step loads) s readSteps =
        { s with lastResultSeq := (s.buffer.readResult loads s.lastResultSeq).2 } ∧
      (Transition.steps (State.step loads) s readSteps).filterMap
          (fun taken => taken.source.returns taken.event) =
        (s.buffer.readResult loads s.lastResultSeq).1.toList := by
  obtain ⟨buffer, writer, reader, lastResultSeq⟩ := s
  subst h
  by_cases hseq : buffer.resultSeq = lastResultSeq
  · simp [readSteps, Transition.exec, Transition.steps, State.step, State.write, State.read,
      State.returns, FrameBuffer.readResult, hseq]
  · cases hparse : (FrameBuffer.resultText buffer.result).bind loads with
    | none =>
      simp [readSteps, Transition.exec, Transition.steps, State.step, State.write, State.read,
        State.returns, FrameBuffer.readResult, hseq, hparse]
    | some payload =>
      simp [readSteps, Transition.exec, Transition.steps, State.step, State.write, State.read,
        State.returns, FrameBuffer.readResult, hseq, hparse]

end Uninterrupted

/-- The steps, one by one. -/
inductive Stepped (loads : List UInt8 → Option Payload) (s : State layout Payload) :
    Event → State layout Payload → Prop
  | writePayload (encoded : List UInt8) (b : Fin 2) (hwriter : s.writer = .idle) :
      Stepped loads s (.writePayload encoded b) { s with
        buffer := { s.buffer with
          result := overwritten s.buffer.result encoded
          result_length := overwritten_length s.buffer.result_length encoded }
        writer := .payload encoded b }
  | writeTerminator (encoded : List UInt8) (b : Fin 2) (hwriter : s.writer = .payload encoded b) :
      Stepped loads s .writeTerminator { s with
        buffer := { s.buffer with
          result := s.buffer.result.set (cut encoded) 0
          result_length := List.length_set.trans s.buffer.result_length }
        writer := .terminator encoded b }
  | writeForBuf (encoded : List UInt8) (b : Fin 2) (hwriter : s.writer = .terminator encoded b) :
      Stepped loads s .writeForBuf { s with
        buffer := { s.buffer with resultForBuf := b.val }
        writer := .forBuf }
  | readSeq (hwriter : s.writer = .forBuf) :
      Stepped loads s .readSeq { s with writer := .seqRead s.buffer.resultSeq }
  | writeSeq (resultSeq : Nat) (hwriter : s.writer = .seqRead resultSeq) :
      Stepped loads s .writeSeq { s with
        buffer := { s.buffer with resultSeq := resultSeq + 1 }
        writer := .idle }
  | overflow (resultSeq : Nat) (hwriter : s.writer = .seqRead resultSeq) :
      Stepped loads s .writeSeq { s with writer := .idle }
  | sampleOld (hreader : s.reader = .idle) (old : s.buffer.resultSeq = s.lastResultSeq) :
      Stepped loads s .sampleSeq s
  | sampleNew (hreader : s.reader = .idle) (new : s.buffer.resultSeq ≠ s.lastResultSeq) :
      Stepped loads s .sampleSeq
        { s with reader := .sampled, lastResultSeq := s.buffer.resultSeq }
  | unparsable (hreader : s.reader = .sampled) :
      Stepped loads s .readPayload { s with reader := .idle }
  | readPayload (payload : Payload) (hreader : s.reader = .sampled)
      (hparse : (FrameBuffer.resultText s.buffer.result).bind loads = some payload) :
      Stepped loads s .readPayload { s with reader := .parsed payload }
  | readForBuf (payload : Payload) (hreader : s.reader = .parsed payload) :
      Stepped loads s .readForBuf { s with reader := .idle }

theorem step_stepped {loads : List UInt8 → Option Payload} {s next : State layout Payload}
    {event : Event} (h : s.step loads event = some next) : Stepped loads s event next := by
  cases event with
  | writePayload encoded b =>
    cases hwriter : s.writer <;> simp only [State.step, State.write, State.read, hwriter,
      Option.or_none, Option.some.injEq, reduceCtorEq] at h
    exact h ▸ .writePayload encoded b hwriter
  | writeTerminator =>
    cases hwriter : s.writer <;> simp only [State.step, State.write, State.read, hwriter,
      Option.or_none, Option.some.injEq, reduceCtorEq] at h
    exact h ▸ .writeTerminator _ _ hwriter
  | writeForBuf =>
    cases hwriter : s.writer <;> simp only [State.step, State.write, State.read, hwriter,
      Option.or_none, Option.some.injEq, reduceCtorEq] at h
    exact h ▸ .writeForBuf _ _ hwriter
  | readSeq =>
    cases hwriter : s.writer <;> simp only [State.step, State.write, State.read, hwriter,
      Option.or_none, Option.some.injEq, reduceCtorEq] at h
    exact h ▸ .readSeq hwriter
  | writeSeq =>
    cases hwriter : s.writer with
    | seqRead resultSeq =>
      simp only [State.step, State.write, State.read, hwriter, Option.or_none] at h
      split at h
      · exact Option.some.inj h ▸ .writeSeq resultSeq hwriter
      · exact Option.some.inj h ▸ .overflow resultSeq hwriter
    | _ => simp [State.step, State.write, State.read, hwriter] at h
  | sampleSeq =>
    cases hreader : s.reader with
    | idle =>
      simp only [State.step, State.write, State.read, hreader, Option.none_or] at h
      split at h
      · next hold => exact Option.some.inj h ▸ .sampleOld hreader hold
      · next hnew => exact Option.some.inj h ▸ .sampleNew hreader hnew
    | _ => simp [State.step, State.write, State.read, hreader] at h
  | readPayload =>
    cases hreader : s.reader with
    | sampled =>
      simp only [State.step, State.write, State.read, hreader, Option.none_or] at h
      split at h
      · exact Option.some.inj h ▸ .unparsable hreader
      · next payload hparse => exact Option.some.inj h ▸ .readPayload payload hreader hparse
    | _ => simp [State.step, State.write, State.read, hreader] at h
  | readForBuf =>
    cases hreader : s.reader <;> simp only [State.step, State.write, State.read, hreader,
      Option.none_or, Option.some.injEq, reduceCtorEq] at h
    exact h ▸ .readForBuf _ hreader

/-- What has happened in a run: the calls of `write_result` that have begun, how many of them have
set `result_for_buf`, and the dicts that were returned. -/
structure History (Payload : Type) where
  writes : List (List UInt8 × Fin 2) := []
  forBufs : Nat := 0
  returned : List (Payload × Int) := []

/-- Adds a step. -/
def History.record (history : History Payload) (s : State layout Payload) :
    Event → History Payload
  | .writePayload encoded b => { history with writes := history.writes ++ [(encoded, b)] }
  | .writeForBuf => { history with forBufs := history.forBufs + 1 }
  | .readForBuf =>
    { history with returned := history.returned ++ (s.returns .readForBuf).toList }
  | _ => history

section Record
variable {history : History Payload} {s : State layout Payload}

@[simp] theorem record_writeTerminator : history.record s .writeTerminator = history := rfl
@[simp] theorem record_readSeq : history.record s .readSeq = history := rfl
@[simp] theorem record_writeSeq : history.record s .writeSeq = history := rfl
@[simp] theorem record_sampleSeq : history.record s .sampleSeq = history := rfl
@[simp] theorem record_readPayload : history.record s .readPayload = history := rfl

end Record

/-- The dict for a call of `write_result`, if its text is one. -/
def decode (loads : List UInt8 → Option Payload) (call : List UInt8 × Fin 2) :
    Option (Payload × Int) :=
  ((FrameBuffer.resultText (FrameBuffer.terminated [] call.1)).bind loads).map
    (·, (call.2.val : Int))

/-- The dicts that were returned are those of different calls of `write_result`. -/
def History.WholeOnce (loads : List UInt8 → Option Payload) (history : History Payload) : Prop :=
  (history.returned.map some).Subperm (history.writes.map (decode loads))

/-- No `write_result` has begun since the one that set the `result_seq` of the reader when the
reader reads the payload, and none has set `result_for_buf` since when it reads that. -/
def Undisturbed (s : State layout Payload) (history : History Payload) (event : Event) : Prop :=
  (event = .readPayload → history.writes.length = s.lastResultSeq) ∧
    (event = .readForBuf → history.forBufs = s.lastResultSeq)

instance (s : State layout Payload) (history : History Payload) (event : Event) :
    Decidable (Undisturbed s history event) :=
  inferInstanceAs (Decidable (_ ∧ _))

/-- A step, with the history. -/
abbrev Taken (layout : FrameBufferLayout) (Payload : Type) :=
  Transition.Taken (Transition.Recorded (State layout Payload) (History Payload)) Event

/-- The steps of a run on new segments. -/
def run (layout : FrameBufferLayout) (loads : List UInt8 → Option Payload) (events : List Event) :
    List (Taken layout Payload) :=
  Transition.steps (Transition.recorded (State.step loads) History.record)
    ⟨{ buffer := FrameBuffer.create layout }, {}⟩ events

/-- How many calls have begun and not yet set `result_for_buf`. -/
def Writer.unnamed : Writer → Nat
  | .payload _ _ | .terminator _ _ => 1
  | .idle | .forBuf | .seqRead _ => 0

/-- How many calls have begun and not yet set `result_seq`. -/
def Writer.uncounted : Writer → Nat
  | .idle => 0
  | _ => 1

/-- What the segments hold of the calls of `write_result`. -/
structure Written (s : State layout Payload) (history : History Payload) : Prop where
  named : history.forBufs + s.writer.unnamed = history.writes.length
  counted : s.buffer.resultSeq + s.writer.uncounted ≤ history.writes.length
  seqRead : ∀ resultSeq, s.writer = .seqRead resultSeq → resultSeq = s.buffer.resultSeq
  current : ∀ encoded b, s.writer = .payload encoded b ∨ s.writer = .terminator encoded b →
    history.writes.getLast? = some (encoded, b)
  overwriting : ∀ encoded b, s.writer = .payload encoded b → ∃ segment : List UInt8,
    segment.length = resultSize ∧ s.buffer.result = overwritten segment encoded
  text : (∀ encoded b, s.writer ≠ .payload encoded b) →
    ∀ call, history.writes.getLast? = some call → FrameBuffer.resultText s.buffer.result =
      FrameBuffer.resultText (FrameBuffer.terminated [] call.1)
  forBuf : 0 < history.forBufs → ∀ call, history.writes[history.forBufs - 1]? = some call →
    s.buffer.resultForBuf = call.2.val

/-- The dicts that were returned are those of different calls among the first `n`. -/
def ReturnedOf (loads : List UInt8 → Option Payload) (history : History Payload) (n : Nat) : Prop :=
  (history.returned.map some).Sublist ((history.writes.take n).map (decode loads))

/-- Where `read_result` stands. -/
def ReadSoFar (loads : List UInt8 → Option Payload) (s : State layout Payload)
    (history : History Payload) : Prop :=
  match s.reader with
  | .idle => ReturnedOf loads history s.lastResultSeq
  | .sampled => 0 < s.lastResultSeq ∧ ReturnedOf loads history (s.lastResultSeq - 1)
  | .parsed payload => 0 < s.lastResultSeq ∧ ReturnedOf loads history (s.lastResultSeq - 1) ∧
    ∃ call, history.writes[s.lastResultSeq - 1]? = some call ∧
      (FrameBuffer.resultText (FrameBuffer.terminated [] call.1)).bind loads = some payload

/-- The invariant of the undisturbed runs. -/
structure Consistent (loads : List UInt8 → Option Payload) (s : State layout Payload)
    (history : History Payload) : Prop where
  written : Written s history
  last : s.lastResultSeq ≤ s.buffer.resultSeq
  readSoFar : ReadSoFar loads s history

section Written
variable {loads : List UInt8 → Option Payload} {s next : State layout Payload}
  {history : History Payload} {event : Event}

/-- The calls that are under way, by where the writer is. -/
theorem Written.named_of (hs : Written s history) {writer : Writer} (hwriter : s.writer = writer) :
    history.forBufs + writer.unnamed = history.writes.length :=
  hwriter ▸ hs.named

theorem Written.counted_of (hs : Written s history) {writer : Writer}
    (hwriter : s.writer = writer) :
    s.buffer.resultSeq + writer.uncounted ≤ history.writes.length :=
  hwriter ▸ hs.counted

/-- Where no payload is being written, the text of the segment is that of the last call. -/
theorem Written.text_of (hs : Written s history) {writer : Writer} (hwriter : s.writer = writer)
    (hnone : ∀ encoded b, writer ≠ .payload encoded b) :
    ∀ call, history.writes.getLast? = some call → FrameBuffer.resultText s.buffer.result =
      FrameBuffer.resultText (FrameBuffer.terminated [] call.1) :=
  hs.text fun encoded b h => hnone encoded b (hwriter.symm.trans h)

/-- The steps of the writer. -/
theorem Written.stepped (hs : Written s history) (h : Stepped loads s event next) :
    Written next (history.record s event) := by
  cases h with
  | writePayload encoded b hwriter =>
    have hnamed : history.forBufs = history.writes.length := hs.named_of hwriter
    have hcounted : s.buffer.resultSeq ≤ history.writes.length := hs.counted_of hwriter
    refine ⟨?_, ?_, nofun, ?_, ?_, fun h => absurd rfl (h encoded b), ?_⟩
    · simp [History.record, Writer.unnamed, hnamed]
    · simpa [History.record, Writer.uncounted] using hcounted
    · rintro _ _ (h | h)
      · cases h
        exact List.getLast?_concat
      · cases h
    · rintro _ _ ⟨⟩
      exact ⟨s.buffer.result, s.buffer.result_length, rfl⟩
    · intro hpos call hcall
      change 0 < history.forBufs at hpos
      change (history.writes ++ [(encoded, b)])[history.forBufs - 1]? = some call at hcall
      rw [List.getElem?_append_left (by omega)] at hcall
      exact hs.forBuf hpos call hcall
  | writeTerminator encoded b hwriter =>
    have hnamed := hs.named_of hwriter
    have hcounted := hs.counted_of hwriter
    have hcurrent := hs.current encoded b (.inl hwriter)
    obtain ⟨segment, hsegment, hresult⟩ := hs.overwriting encoded b hwriter
    refine ⟨hnamed, hcounted, nofun, ?_, nofun, ?_, hs.forBuf⟩
    · rintro _ _ (h | h)
      · cases h
      · cases h
        exact hcurrent
    · intro _ call hcall
      obtain rfl := Option.some.inj (hcurrent.symm.trans hcall)
      change FrameBuffer.resultText (s.buffer.result.set (cut encoded) 0) = _
      rw [hresult, set_overwritten hsegment, FrameBuffer.resultText_terminated]
  | writeForBuf encoded b hwriter =>
    have hcurrent := hs.current encoded b (.inr hwriter)
    have hnamed : history.forBufs + 1 = history.writes.length := hs.named_of hwriter
    have hcounted := hs.counted_of hwriter
    refine ⟨hnamed, hcounted, nofun, nofun, nofun, fun _ => hs.text_of hwriter nofun, ?_⟩
    intro _ call hcall
    rw [List.getLast?_eq_getElem?, ← hnamed] at hcurrent
    obtain rfl := Option.some.inj (hcurrent.symm.trans hcall)
    rfl
  | readSeq hwriter =>
    have hnamed := hs.named_of hwriter
    have hcounted := hs.counted_of hwriter
    refine ⟨hnamed, hcounted, fun _ h => ?_, nofun, nofun, fun _ => hs.text_of hwriter nofun,
      hs.forBuf⟩
    exact (Writer.seqRead.inj h).symm
  | writeSeq resultSeq hwriter =>
    have hnamed := hs.named_of hwriter
    have hcounted := hs.counted_of hwriter
    rw [← hs.seqRead resultSeq hwriter] at hcounted
    exact ⟨hnamed, hcounted, nofun, nofun, nofun, fun _ => hs.text_of hwriter nofun, hs.forBuf⟩
  | overflow resultSeq hwriter =>
    have hnamed := hs.named_of hwriter
    have hcounted := Nat.le_trans (Nat.le_add_right _ _) hs.counted
    exact ⟨hnamed, hcounted, nofun, nofun, nofun, fun _ => hs.text_of hwriter nofun, hs.forBuf⟩
  | sampleOld | sampleNew | unparsable | readPayload | readForBuf =>
    exact ⟨hs.named, hs.counted, hs.seqRead, hs.current, hs.overwriting, hs.text, hs.forBuf⟩

theorem ReturnedOf.mono {m n : Nat} (h : ReturnedOf loads history m) (hmn : m ≤ n) :
    ReturnedOf loads history n :=
  h.trans ((List.take_sublist_take_left hmn).map _)

/-- A new call of `write_result` changes nothing for the calls before it. -/
theorem ReadSoFar.writePayload (hs : ReadSoFar loads s history)
    (hlast : s.lastResultSeq ≤ history.writes.length) {encoded : List UInt8} {b : Fin 2}
    (hreader : next.reader = s.reader) (hnext : next.lastResultSeq = s.lastResultSeq) :
    ReadSoFar loads next (history.record s (.writePayload encoded b)) := by
  have hreturned {n : Nat} (hn : n ≤ history.writes.length) (h : ReturnedOf loads history n) :
      ReturnedOf loads (history.record s (.writePayload encoded b)) n := by
    unfold ReturnedOf History.record
    rw [List.take_append_of_le_length hn]
    exact h
  unfold ReadSoFar at hs ⊢
  rw [hreader, hnext]
  cases hcase : s.reader with
  | idle =>
    simp only [hcase] at hs
    exact hreturned hlast hs
  | sampled =>
    simp only [hcase] at hs
    exact ⟨hs.1, hreturned (by omega) hs.2⟩
  | parsed payload =>
    simp only [hcase] at hs
    obtain ⟨hpos, hbefore, call, hcall, hparse⟩ := hs
    refine ⟨hpos, hreturned (by omega) hbefore, call, ?_, hparse⟩
    change (history.writes ++ [(encoded, b)])[s.lastResultSeq - 1]? = some call
    rw [List.getElem?_append_left (by omega), hcall]

/-- When an undisturbed read takes the payload, the writer is between two calls. -/
theorem Consistent.text (hs : Consistent loads s history)
    (hquiet : history.writes.length = s.lastResultSeq) {call : List UInt8 × Fin 2}
    (hcall : history.writes[s.lastResultSeq - 1]? = some call) :
    FrameBuffer.resultText s.buffer.result =
      FrameBuffer.resultText (FrameBuffer.terminated [] call.1) := by
  apply hs.written.text
  · intro encoded b hwriter
    have hcounted := hs.written.counted
    have hlast := hs.last
    simp only [hwriter, Writer.uncounted] at hcounted
    omega
  · rw [List.getLast?_eq_getElem?, hquiet]
    exact hcall

theorem Consistent.stepped (hs : Consistent loads s history)
    (hundisturbed : Undisturbed s history event) (h : Stepped loads s event next) :
    Consistent loads next (history.record s event) := by
  have hwritten := hs.written.stepped h
  have hlength : s.lastResultSeq ≤ history.writes.length :=
    hs.last.trans ((Nat.le_add_right _ _).trans hs.written.counted)
  have hread := hs.readSoFar
  cases h with
  | writePayload encoded b hwriter =>
    exact ⟨hwritten, hs.last, hread.writePayload hlength rfl rfl⟩
  | writeTerminator | writeForBuf | readSeq | overflow => exact ⟨hwritten, hs.last, hread⟩
  | writeSeq resultSeq hwriter =>
    refine ⟨hwritten, ?_, hread⟩
    rw [hs.written.seqRead resultSeq hwriter]
    exact hs.last.trans (Nat.le_add_right _ _)
  | sampleOld hreader old => exact hs
  | sampleNew hreader new =>
    simp only [ReadSoFar, hreader] at hread
    have hlast := hs.last
    refine ⟨hwritten, Nat.le_refl _, ?_, ?_⟩
    · dsimp only
      omega
    · exact hread.mono (by dsimp only; omega)
  | unparsable hreader =>
    simp only [ReadSoFar, hreader] at hread
    exact ⟨hwritten, hs.last, hread.2.mono (Nat.sub_le _ _)⟩
  | readPayload payload hreader hparse =>
    simp only [ReadSoFar, hreader] at hread
    have hquiet := hundisturbed.1 rfl
    have hlt : s.lastResultSeq - 1 < history.writes.length := by omega
    have hcall := List.getElem?_eq_getElem hlt
    refine ⟨hwritten, hs.last, hread.1, hread.2, _, hcall, ?_⟩
    rw [← hs.text hquiet hcall]
    exact hparse
  | readForBuf payload hreader =>
    simp only [ReadSoFar, hreader] at hread
    obtain ⟨hpos, hbefore, call, hcall, hparse⟩ := hread
    have hnamed := hundisturbed.2 rfl
    have hforBuf : s.buffer.resultForBuf = call.2.val :=
      hs.written.forBuf (hnamed ▸ hpos) call (hnamed ▸ hcall)
    have hdecode : decode loads call = some (payload, s.buffer.resultForBuf) := by
      rw [decode, hparse, hforBuf]
      rfl
    have htake : history.writes.take s.lastResultSeq =
        history.writes.take (s.lastResultSeq - 1) ++ [call] := by
      obtain ⟨n, hn⟩ := Nat.exists_eq_add_of_le' hpos
      rw [hn, Nat.add_sub_cancel] at hcall ⊢
      rw [List.take_add_one, hcall]
      rfl
    refine ⟨hwritten, hs.last, ?_⟩
    change ((history.returned ++ (s.returns .readForBuf).toList).map some).Sublist
      ((history.writes.take s.lastResultSeq).map (decode loads))
    simp only [State.returns, hreader, htake, List.map_append, Option.toList_some, List.map_cons,
      List.map_nil, hdecode]
    exact hbefore.append (List.Sublist.refl _)

end Written

/-- In a run where every read is undisturbed, the dicts that are returned are whole, and those of
different calls of `write_result`. -/
theorem results_whole_once (layout : FrameBufferLayout) (loads : List UInt8 → Option Payload)
    (events : List Event)
    (hundisturbed : ∀ taken ∈ run layout loads events,
      Undisturbed taken.source.state taken.source.history taken.event) :
    ∀ taken ∈ run layout loads events, taken.target.history.WholeOnce loads := by
  have hrun := @Transition.guarded_invariant _ _
    (Transition.recorded (State.step loads) History.record)
    (fun reached => Consistent loads reached.state reached.history)
    (fun reached event => Undisturbed reached.state reached.history event)
    (fun reached event next hs hevent hstep => by
      obtain ⟨state, hstate, rfl⟩ := Transition.recorded_cases hstep
      exact hs.stepped hevent (step_stepped hstate))
    ⟨{ buffer := FrameBuffer.create layout }, {}⟩
    ⟨⟨rfl, Nat.le_refl _, nofun, nofun, nofun, nofun, nofun⟩, Nat.le_refl _, List.Sublist.slnil⟩
    events hundisturbed
  intro taken htaken
  obtain ⟨-, -, hread⟩ := (hrun.2 taken htaken).2
  have hreturned : ∃ n, ReturnedOf loads taken.target.history n := by
    unfold ReadSoFar at hread
    split at hread
    · exact ⟨_, hread⟩
    · exact ⟨_, hread.2⟩
    · exact ⟨_, hread.2.1⟩
  obtain ⟨n, hn⟩ := hreturned
  exact (hn.trans ((List.take_sublist n _).map _)).subperm

section Example

/-- A text of seven bytes. -/
def textOf (digit : UInt8) : List UInt8 := [123, 34, 97, 34, 58, digit, 125]

/-- A second result is written between the reader's look at the payload and its look at
`result_for_buf`. -/
def tornRead : List Event :=
  writeSteps (textOf 49) bufA ++ [.sampleSeq, .readPayload] ++ writeSteps (textOf 50) bufB ++
    [.readForBuf]

/-- The dict that is returned then has the payload of the first result and the buffer of the
second. -/
theorem torn_result_returned :
    ¬ ∀ taken ∈ run {} some tornRead, taken.target.history.WholeOnce some := by
  intro h
  have hrun : ∃ taken ∈ run {} some tornRead,
      taken.target.history.returned = [(textOf 49, 1)] ∧
      taken.target.history.writes.map (decode some) =
        [some (textOf 49, 0), some (textOf 50, 1)] := by
    decide +kernel
  obtain ⟨taken, htaken, hreturned, hwrites⟩ := hrun
  have hwhole := (h taken htaken).subset (a := some (textOf 49, 1))
  rw [hreturned, hwrites] at hwhole
  exact absurd (hwhole (by decide)) (by decide)

/-- Two results, each of which is read before the next is written. Both are returned. -/
theorem results_whole_once_alternating :
    (run {} some (writeSteps (textOf 49) bufA ++ readSteps ++ writeSteps (textOf 50) bufB ++
        readSteps)).getLast?.map (fun taken => taken.target.history.returned) =
          some [(textOf 49, 0), (textOf 50, 1)] ∧
      ∀ taken ∈ run {} some
          (writeSteps (textOf 49) bufA ++ readSteps ++ writeSteps (textOf 50) bufB ++ readSteps),
        taken.target.history.WholeOnce some := by
  constructor
  · decide +kernel
  apply results_whole_once
  decide +kernel

end Example

end EdgeSafety.ResultSteps
