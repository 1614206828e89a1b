import EdgeSafety.Desktop.FrameJournal
import Mathlib.Data.List.Chain

/-!
# What becomes of the frames

The journal of a thread follows the messages: an entry for each timeout after a message, and one for
each decoded frame, in the order of their arrival (`camera_frames`). Every third frame is looked at,
unless the thread skips frames without motion and nothing moved since the third frame before; the
others are shown as they are. A failure of the detector is shown once, until it succeeds again.
-/

namespace EdgeSafety

variable {K Gray : Type}

/-- The frames of some entries. -/
def framesOf (journal : List (JournalEntry K)) : List NdArray :=
  journal.filterMap JournalEntry.frame?

/-- The frames of some entries, with what became of them. -/
def fatesOf (journal : List (JournalEntry K)) : List (NdArray × Fate K) :=
  journal.filterMap JournalEntry.fate?

/-- The frame may be the one that is under way. -/
def CameraPc.Holds : CameraPc K → List NdArray → Prop
  | .head, late | .receiving, late | .ended, late => late = []
  | .bounding frame, late | .detecting frame _, late | .checking frame _ _ _, late => late = [frame]
  | .raised, late => late.length ≤ 1

/-- The detector is asked about the frame that is under way. -/
def CameraPc.looking : CameraPc K → Bool
  | .bounding _ | .detecting _ _ | .checking _ _ _ _ => true
  | .head | .receiving | .ended | .raised => false

namespace Fate

/-- The detector was asked about the frame. -/
def attempted : Fate K → Bool
  | .skipped | .still => false
  | .offline | .withheld | .processed _ _ _ => true

/-- The detector raised an exception. -/
def failed : Fate K → Bool
  | .offline | .withheld => true
  | .skipped | .still | .processed _ _ _ => false

/-- A failure is withheld after another one, and shown otherwise. -/
def Follows (before now : Fate K) : Prop :=
  now.failed = true → (now = .withheld ↔ before.failed = true)

end Fate

/-- What became of the frames that the detector was asked about. -/
def attemptsOf (journal : List (JournalEntry K)) : List (Fate K) :=
  ((fatesOf journal).map Prod.snd).filter Fate.attempted

/-- The frame at an index is looked at: it is a third one, and where frames without motion are
skipped it differs from the third frame before. -/
def Looked [Field K] [LinearOrder K] (setup : CameraSetup K Gray) (frames : List NdArray)
    (i : Nat) : Prop :=
  (i + 1) % 3 = 0 ∧ (setup.gatesMotion = true → ∀ previous frame, 3 ≤ i →
    frames[i - 3]? = some previous → frames[i]? = some frame →
      (30 : ℕ) < setup.meanDiff (setup.gray previous) (setup.gray frame))

/-- The last of the third frames. -/
def lastThird (frames : List NdArray) : Option NdArray :=
  if frames.length < 3 then none else frames[frames.length / 3 * 3 - 1]?

section Thirds
variable {frames : List NdArray}

theorem lastThird_append_of_skip (h : (frames.length + 1) % 3 ≠ 0) (frame : NdArray) :
    lastThird (frames ++ [frame]) = lastThird frames := by
  have hdiv : (frames.length + 1) / 3 = frames.length / 3 := by omega
  rw [lastThird, lastThird, List.length_append, List.length_singleton, hdiv]
  by_cases hfew : frames.length < 3
  · rw [if_pos hfew, if_pos (by omega)]
  · rw [if_neg hfew, if_neg (by omega), List.getElem?_append_left (by omega)]

theorem lastThird_append_of_third (h : (frames.length + 1) % 3 = 0) (frame : NdArray) :
    lastThird (frames ++ [frame]) = some frame := by
  have hlast : (frames.length + 1) / 3 * 3 - 1 = frames.length := by omega
  rw [lastThird, List.length_append, List.length_singleton, hlast, if_neg (by omega)]
  exact List.getElem?_concat_length

theorem lastThird_of_third (h : (frames.length + 1) % 3 = 0) :
    lastThird frames = if 3 ≤ frames.length then frames[frames.length - 3]? else none := by
  rw [lastThird]
  by_cases hfew : frames.length < 3
  · rw [if_pos hfew, if_neg (by omega)]
  · rw [if_neg hfew, if_pos (by omega), show frames.length / 3 * 3 - 1 = frames.length - 3 by omega]

variable [Field K] [LinearOrder K] {setup : CameraSetup K Gray}

/-- Later frames have no influence. -/
theorem looked_append {i : Nat} (h : i < frames.length) (frame : NdArray) :
    Looked setup (frames ++ [frame]) i ↔ Looked setup frames i := by
  rw [Looked, Looked, List.getElem?_append_left h, List.getElem?_append_left (by omega)]

theorem looked_last (frame : NdArray) : Looked setup (frames ++ [frame]) frames.length ↔
    (frames.length + 1) % 3 = 0 ∧ (setup.gatesMotion = true → ∀ previous,
      lastThird frames = some previous →
        (30 : ℕ) < setup.meanDiff (setup.gray previous) (setup.gray frame)) := by
  rw [Looked, List.getElem?_concat_length]
  refine and_congr_right fun hthird => forall_congr' fun _ => forall_congr' fun previous => ?_
  rw [lastThird_of_third hthird]
  constructor
  · intro hlooked hlast
    by_cases hmany : 3 ≤ frames.length
    · rw [if_pos hmany] at hlast
      refine hlooked frame hmany ?_ rfl
      rwa [List.getElem?_append_left (by omega)]
    · rw [if_neg hmany] at hlast
      cases hlast
  · intro hlast other hmany hprevious hother
    obtain rfl := Option.some.inj hother
    rw [List.getElem?_append_left (by omega)] at hprevious
    exact hlast (by rwa [if_pos hmany])

end Thirds

theorem getElem?_concat_cases {α : Type} {xs : List α} {x y : α} {i : Nat}
    (h : (xs ++ [x])[i]? = some y) : xs[i]? = some y ∨ i = xs.length ∧ x = y := by
  rcases Nat.lt_trichotomy i xs.length with hlt | rfl | hgt
  · rw [List.getElem?_append_left hlt] at h
    exact .inl h
  · rw [List.getElem?_concat_length] at h
    exact .inr ⟨rfl, Option.some.inj h⟩
  · rw [List.getElem?_eq_none (by simpa using hgt)] at h
    cases h

section Lists
variable {journal : List (JournalEntry K)} {frame : NdArray} {fate : Fate K}

@[simp]
theorem framesOf_append (journal entries : List (JournalEntry K)) :
    framesOf (journal ++ entries) = framesOf journal ++ framesOf entries :=
  List.filterMap_append

@[simp]
theorem framesOf_handled : framesOf [.handled frame fate] = [frame] := rfl

@[simp]
theorem framesOf_outage : framesOf [(.outage : JournalEntry K)] = [] := rfl

@[simp]
theorem fatesOf_append (journal entries : List (JournalEntry K)) :
    fatesOf (journal ++ entries) = fatesOf journal ++ fatesOf entries :=
  List.filterMap_append

@[simp]
theorem fatesOf_handled : fatesOf [.handled frame fate] = [(frame, fate)] := rfl

@[simp]
theorem fatesOf_outage : fatesOf [(.outage : JournalEntry K)] = [] := rfl

theorem map_fst_fatesOf (journal : List (JournalEntry K)) :
    (fatesOf journal).map Prod.fst = framesOf journal := by
  induction journal with
  | nil => rfl
  | cons entry journal ih =>
    cases entry with
    | outage => exact ih
    | handled frame fate => exact congrArg (frame :: ·) ih

theorem length_fatesOf (journal : List (JournalEntry K)) :
    (fatesOf journal).length = (framesOf journal).length := by
  rw [← map_fst_fatesOf, List.length_map]

theorem attemptsOf_append (journal entries : List (JournalEntry K)) :
    attemptsOf (journal ++ entries) = attemptsOf journal ++ attemptsOf entries := by
  simp [attemptsOf]

theorem attemptsOf_of_attempted (h : fate.attempted = true) :
    attemptsOf [.handled frame fate] = [fate] := by
  simp [attemptsOf, h]

theorem attemptsOf_of_not (h : fate.attempted = false) :
    attemptsOf [.handled frame fate] = [] := by
  simp [attemptsOf, h]

end Lists

namespace CameraThread

variable {setup : CameraSetup K Gray} {s t : CameraThread K Gray} {h h' : History K}

/-- What the answers of `recv` asked for. -/
def History.asked (setup : CameraSetup K Gray) (h : History K) : List (Option NdArray) :=
  CameraThread.asked setup (some []) h.received

/-- The frames that were decoded. -/
def History.frames (setup : CameraSetup K Gray) (h : History K) : List NdArray :=
  (h.asked setup).filterMap id

theorem asked_append (setup : CameraSetup K Gray) (before : Option (List UInt8))
    (received : List (Option (List UInt8))) (now : Option (List UInt8)) :
    asked setup before (received ++ [now]) = asked setup before received ++
      (asks setup (received.getLast?.getD before) now).toList := by
  induction received generalizing before with
  | nil => exact List.append_nil _
  | cons first received ih =>
    rw [List.cons_append, asked, ih, asked, List.append_assoc]
    congr 3
    cases received with
    | nil => rfl
    | cons second received => simp [List.getLast?_cons]

/-- The entries follow what was asked for. -/
structure Journalled (setup : CameraSetup K Gray) (s : CameraThread K Gray) (h : History K) :
    Prop where
  order : ∃ late, h.journal.map JournalEntry.frame? ++ late.map some = h.asked setup ∧
    s.pc.Holds late
  down : s.disconnected = (h.received.getLast?.getD (some [])).isNone
  count : s.frameCount = (h.frames setup).length

/-- The frames that were decoded: those of the entries and the one that is under way. -/
theorem frames_eq {late : List NdArray}
    (horder : h.journal.map JournalEntry.frame? ++ late.map some = h.asked setup) :
    h.frames setup = framesOf h.journal ++ late := by
  rw [History.frames, ← horder, List.filterMap_append, List.filterMap_map, List.filterMap_map]
  congr 1
  exact List.filterMap_some

/-- A step that answers nothing, and with which no frame is done. -/
theorem Journalled.goes (hj : Journalled setup s h) (hdown : t.disconnected = s.disconnected)
    (hcount : t.frameCount = s.frameCount) (hjournal : h'.journal = h.journal)
    (hreceived : h'.received = h.received) (hpc : ∀ late, s.pc.Holds late → t.pc.Holds late) :
    Journalled setup t h' := by
  obtain ⟨⟨late, horder, hlate⟩, hold, hframes⟩ := hj
  refine ⟨⟨late, ?_, hpc late hlate⟩, ?_, ?_⟩
  · rw [hjournal, horder, History.asked, History.asked, hreceived]
  · rw [hdown, hold, hreceived]
  · rw [hcount, hframes, History.frames, History.asked, ← hreceived]
    rfl

/-- The thread is done with its frame. -/
theorem Journalled.ends (hj : Journalled setup s h) {frame : NdArray} (fate : Fate K)
    (hdown : t.disconnected = s.disconnected) (hcount : t.frameCount = s.frameCount)
    (hold : ∀ late, s.pc.Holds late → late = [frame]) (hpc : t.pc = .head) :
    Journalled setup t { h with journal := h.journal ++ [.handled frame fate] } := by
  obtain ⟨⟨late, horder, hlate⟩, hwas, hframes⟩ := hj
  obtain rfl := hold late hlate
  refine ⟨⟨[], ?_, ?_⟩, hdown.trans hwas, hcount.trans hframes⟩
  · rw [List.map_append, List.map_nil, List.append_nil]
    exact horder
  · rw [hpc]
    rfl

/-- The answer of `recv` asks for some entries, and perhaps for something to be done with a frame. -/
theorem Journalled.hears (hj : Journalled setup s h) (pc : s.pc = .receiving)
    (answer : Option (List UInt8)) (entries : List (JournalEntry K)) (late : List NdArray)
    (hasks : entries.map JournalEntry.frame? ++ late.map some =
      (asks setup (h.received.getLast?.getD (some [])) answer).toList)
    (hdown : t.disconnected = answer.isNone)
    (hcount : t.frameCount = s.frameCount + (framesOf entries ++ late).length)
    (hpc : t.pc.Holds late) :
    Journalled setup t
      { h with received := h.received ++ [answer], journal := h.journal ++ entries } := by
  obtain ⟨⟨before, horder, hbefore⟩, -, hframes⟩ := hj
  rw [pc] at hbefore
  obtain rfl : before = [] := hbefore
  rw [List.map_nil, List.append_nil] at horder
  have hnow : (h.journal ++ entries).map JournalEntry.frame? ++ late.map some =
      CameraThread.asked setup (some []) (h.received ++ [answer]) := by
    rw [asked_append, List.map_append, List.append_assoc, hasks, horder]
    rfl
  refine ⟨⟨late, hnow, hpc⟩, ?_, ?_⟩
  · rw [List.getLast?_append, List.getLast?_singleton]
    exact hdown
  · have hall : h.frames setup = framesOf h.journal ++ [] :=
      frames_eq (by rw [List.map_nil, List.append_nil, horder])
    rw [frames_eq hnow, hcount, hframes, hall]
    simp

theorem asks_message {data : List UInt8} {frame? : Option NdArray}
    (hframe : frameOf setup data = frame?) (before : Option (List UInt8)) :
    asks setup before (some data) = frame?.map some := by
  cases before <;> rw [asks, hframe]

variable [Field K] [LinearOrder K] [FloorRing K]

theorem Journalled.step (hj : Journalled setup s h) (hstep : RecordedStep setup s h t h') :
    Journalled setup t h' := by
  cases hstep with
  | stop | reload => exact hj.goes rfl rfl rfl rfl fun _ hlate => hlate
  | loop pc =>
    refine hj.goes rfl rfl rfl rfl fun late hlate => ?_
    rw [pc] at hlate
    show (if s.running then CameraPc.receiving else .ended).Holds late
    split <;> exact hlate
  | again pc down =>
    have hwas := hj.down.symm.trans down
    have hquiet := hj.hears (t := { s with pc := .head }) pc none [] []
      (by rw [Option.isNone_iff_eq_none.mp hwas]; rfl) down rfl rfl
    rwa [List.append_nil] at hquiet
  | outage pc up =>
    have hwas := hj.down.symm.trans up
    refine hj.hears pc none [.outage] [] ?_ rfl rfl rfl
    cases hlast : h.received.getLast?.getD (some []) with
    | none =>
      rw [hlast] at hwas
      cases hwas
    | some data => rfl
  | undecoded data next pc nothing ends =>
    have hquiet := hj.hears (t := { s with disconnected := false, pc := next }) pc (some data) [] []
      (by rw [asks_message nothing]; rfl) rfl rfl
      (by rcases ends with rfl | rfl; exacts [rfl, Nat.zero_le 1])
    rwa [List.append_nil] at hquiet
  | @skipped frame data pc decodes =>
    exact hj.hears pc (some data) [.handled frame .skipped] []
      (by rw [asks_message decodes]; rfl) rfl rfl rfl
  | @still frame gray data pc decodes =>
    exact hj.hears pc (some data) [.handled frame .still] []
      (by rw [asks_message decodes]; rfl) rfl rfl rfl
  | @moved frame data pc decodes third changed =>
    have hlooks := hj.hears (t := { s with
        disconnected := false
        frameCount := s.frameCount + 1
        prevGray := if setup.gatesMotion then some (setup.gray frame) else s.prevGray
        pc := .bounding frame }) pc (some data) [] [frame]
      (by rw [asks_message decodes]; rfl) rfl rfl rfl
    rwa [List.append_nil] at hlooks
  | getBounds roiBounds pc | found persons pc | checked address zones pc =>
    refine hj.goes rfl rfl rfl rfl fun late hlate => ?_
    rw [pc] at hlate
    exact hlate
  | offline pc | withheld pc | drawn labels pc =>
    refine hj.ends _ rfl rfl (fun late hlate => ?_) rfl
    rw [pc] at hlate
    exact hlate
  | notCaught pc | notChecked address pc | notDrawn ppeFrames pc =>
    refine hj.goes rfl rfl rfl rfl fun late hlate => ?_
    rw [pc] at hlate
    rw [show late = _ from hlate]
    exact Nat.le_refl 1

omit [Field K] [LinearOrder K] [FloorRing K] in
/-- Between frames an entry is there for each frame. -/
theorem Journalled.frames_idle (hj : Journalled setup s h)
    (hpc : s.pc = .head ∨ s.pc = .receiving) : h.frames setup = framesOf h.journal := by
  obtain ⟨late, horder, hlate⟩ := hj.order
  obtain rfl : late = [] := by
    rcases hpc with hpc | hpc <;> rw [hpc] at hlate <;> exact hlate
  rw [frames_eq horder, List.append_nil]

omit [Field K] [LinearOrder K] [FloorRing K] in
/-- A frame is decoded. -/
theorem frames_message (later : History K) {data : List UInt8} {frame : NdArray}
    (decodes : frameOf setup data = some frame)
    (hreceived : later.received = h.received ++ [some data]) :
    later.frames setup = h.frames setup ++ [frame] := by
  rw [History.frames, History.asked, hreceived, asked_append, asks_message decodes,
    List.filterMap_append]
  rfl

omit [Field K] [LinearOrder K] [FloorRing K] in
/-- Nothing is decoded. -/
theorem frames_nothing {answer : Option (List UInt8)}
    (hanswer : ∀ data, answer = some data → frameOf setup data = none)
    (hreceived : h'.received = h.received ++ [answer]) : h'.frames setup = h.frames setup := by
  rw [History.frames, History.asked, hreceived, asked_append, List.filterMap_append]
  cases answer with
  | none =>
    cases h.received.getLast?.getD (some []) <;> exact List.append_nil _
  | some data =>
    rw [asks_message (hanswer data rfl)]
    exact List.append_nil _

/-- Every third frame is looked at, unless nothing moved. -/
structure Gated (setup : CameraSetup K Gray) (s : CameraThread K Gray) (h : History K) : Prop where
  prevGray : setup.gatesMotion = true →
    s.prevGray = (lastThird (h.frames setup)).map setup.gray
  fates : ∀ (i : Nat) frame fate, (fatesOf h.journal)[i]? = some (frame, fate) →
    (fate.attempted = true ↔ Looked setup (h.frames setup) i)
  underway : s.pc.looking = true → Looked setup (h.frames setup) (framesOf h.journal).length

omit [FloorRing K] in
/-- A step with which no frame arrives and none is done. -/
theorem Gated.goes (hg : Gated setup s h) (hprev : t.prevGray = s.prevGray)
    (hframes : h'.frames setup = h.frames setup) (hjournal : fatesOf h'.journal = fatesOf h.journal)
    (hpc : t.pc.looking = true → s.pc.looking = true) : Gated setup t h' := by
  obtain ⟨hprevGray, hfates, hunderway⟩ := hg
  have hlength : (framesOf h'.journal).length = (framesOf h.journal).length := by
    rw [← length_fatesOf, ← length_fatesOf, hjournal]
  refine ⟨?_, ?_, fun hlooking => ?_⟩
  · rw [hprev, hframes]
    exact hprevGray
  · rw [hframes, hjournal]
    exact hfates
  · rw [hframes, hlength]
    exact hunderway (hpc hlooking)

omit [FloorRing K] in
/-- The thread is done with a frame that it looked at. -/
theorem Gated.ends (hg : Gated setup s h) {frame : NdArray} {fate : Fate K}
    (hprev : t.prevGray = s.prevGray) (hold : s.pc.looking = true) (hpc : t.pc = .head)
    (hattempted : fate.attempted = true) :
    Gated setup t { h with journal := h.journal ++ [.handled frame fate] } := by
  refine ⟨fun hgates => hprev.trans (hg.prevGray hgates), ?_, fun hlooking => ?_⟩
  · intro i other otherFate hi
    rw [fatesOf_append, fatesOf_handled] at hi
    rcases getElem?_concat_cases hi with hi | ⟨rfl, hother⟩
    · exact hg.fates i other otherFate hi
    · obtain ⟨rfl, rfl⟩ := Prod.mk.inj hother
      rw [length_fatesOf]
      exact iff_of_true hattempted (hg.underway hold)
  · rw [hpc] at hlooking
    cases hlooking

omit [FloorRing K] in
/-- A frame arrives and is shown as it is. -/
theorem Gated.plain (hg : Gated setup s h) (hj : Journalled setup s h) (pc : s.pc = .receiving)
    {data : List UInt8} {frame : NdArray} {fate : Fate K}
    (decodes : frameOf setup data = some frame)
    (hpc : t.pc = .head) (hplain : fate.attempted = false)
    (hlooked : ¬ Looked setup (h.frames setup ++ [frame]) (h.frames setup).length)
    (hprev : setup.gatesMotion = true →
      t.prevGray = (lastThird (h.frames setup ++ [frame])).map setup.gray) :
    Gated setup t
      { h with
        received := h.received ++ [some data]
        journal := h.journal ++ [.handled frame fate] } := by
  have hframes := frames_message { h with
    received := h.received ++ [some data]
    journal := h.journal ++ [.handled frame fate] } decodes rfl
  have hall := hj.frames_idle (.inr pc)
  refine ⟨?_, ?_, fun hlooking => ?_⟩
  · rw [hframes]
    exact hprev
  · intro i other otherFate hi
    rw [hframes]
    rw [fatesOf_append, fatesOf_handled] at hi
    rcases getElem?_concat_cases hi with hi | ⟨rfl, hother⟩
    · have hlt : i < (h.frames setup).length := by
        rw [hall, ← length_fatesOf]
        exact (List.getElem?_eq_some_iff.mp hi).1
      rw [looked_append hlt]
      exact hg.fates i other otherFate hi
    · obtain ⟨rfl, rfl⟩ := Prod.mk.inj hother
      rw [length_fatesOf, ← hall]
      exact iff_of_false (by simp [hplain]) hlooked
  · rw [hpc] at hlooking
    cases hlooking

theorem Gated.step (hg : Gated setup s h) (hj : Journalled setup s h)
    (hstep : RecordedStep setup s h t h') : Gated setup t h' := by
  cases hstep with
  | stop | reload => exact hg.goes rfl rfl rfl id
  | loop pc =>
    refine hg.goes rfl rfl rfl ?_
    show (if s.running then CameraPc.receiving else .ended : CameraPc K).looking = true → _
    split <;> rintro ⟨⟩
  | again pc =>
    exact hg.goes rfl (frames_nothing (by rintro _ ⟨⟩) rfl) rfl (by rintro ⟨⟩)
  | outage pc =>
    refine hg.goes rfl (frames_nothing (by rintro _ ⟨⟩) rfl) ?_ (by rintro ⟨⟩)
    rw [fatesOf_append, fatesOf_outage, List.append_nil]
  | undecoded data next pc nothing ends =>
    refine hg.goes rfl (frames_nothing (?_ : ∀ other, some data = some other → _) rfl) rfl ?_
    · rintro _ ⟨⟩
      exact nothing
    · rcases ends with rfl | rfl <;> rintro ⟨⟩
  | skipped data pc decodes skip =>
    rw [hj.count] at skip
    refine hg.plain hj pc decodes rfl rfl ?_ fun hgates => ?_
    · rw [looked_last]
      exact fun hlooked => skip hlooked.1
    · rw [lastThird_append_of_skip skip]
      exact hg.prevGray hgates
  | @still frame gray data pc decodes third gates previous same =>
    rw [hj.count] at third
    refine hg.plain hj pc decodes rfl rfl ?_ fun _ => ?_
    · rw [looked_last]
      rintro ⟨-, hmoved⟩
      have hlast := hg.prevGray gates
      rw [previous] at hlast
      obtain ⟨image, himage, rfl⟩ := Option.map_eq_some_iff.mp hlast.symm
      exact not_lt.mpr same (hmoved gates image himage)
    · rw [lastThird_append_of_third third]
      rfl
  | @moved frame data pc decodes third changed =>
    rw [hj.count] at third
    have hall := hj.frames_idle (.inr pc)
    have hframes := frames_message
      { h with received := h.received ++ [some data] } decodes rfl
    refine ⟨fun hgates => ?_, ?_, fun _ => ?_⟩
    · rw [hframes, lastThird_append_of_third third]
      exact if_pos hgates
    · intro i other fate hi
      have hlt : i < (h.frames setup).length := by
        rw [hall, ← length_fatesOf]
        exact (List.getElem?_eq_some_iff.mp hi).1
      rw [hframes, looked_append hlt]
      exact hg.fates i other fate hi
    · show Looked setup _ (framesOf h.journal).length
      rw [hframes, ← hall, looked_last]
      refine ⟨third, fun hgates image himage => changed hgates _ ?_⟩
      rw [hg.prevGray hgates, himage]
      rfl
  | getBounds roiBounds pc | found persons pc | checked address zones pc =>
    exact hg.goes rfl rfl rfl fun _ => by rw [pc]; rfl
  | offline pc | withheld pc | drawn labels pc =>
    exact hg.ends rfl (by rw [pc]; rfl) rfl rfl
  | notCaught pc | notChecked address pc | notDrawn ppeFrames pc =>
    exact hg.goes rfl rfl rfl (by rintro ⟨⟩)

/-- What `model_ok` says of the last time that the detector was asked. -/
def ModelKnown (last : Fate K) (modelOk : Bool) : CameraPc K → Prop
  | .head | .receiving | .ended | .bounding _ | .detecting _ _ => modelOk = !last.failed
  | .checking _ _ _ _ => modelOk = true
  | .raised => True

/-- A failure is shown once, until the detector succeeds again. -/
structure Attempted (setup : CameraSetup K Gray) (s : CameraThread K Gray) (h : History K) :
    Prop where
  chain : (Fate.skipped :: attemptsOf h.journal).IsChain Fate.Follows
  caught : setup.catchesDetect = false → ∀ fate ∈ attemptsOf h.journal, fate.failed = false
  modelOk : ModelKnown ((attemptsOf h.journal).getLast?.getD .skipped) s.modelOk s.pc

omit [Field K] [LinearOrder K] [FloorRing K] in
theorem Attempted.goes (ha : Attempted setup s h) (hattempts : attemptsOf h'.journal =
      attemptsOf h.journal)
    (hpc : ∀ last, ModelKnown last s.modelOk s.pc → ModelKnown last t.modelOk t.pc) :
    Attempted setup t h' := by
  obtain ⟨hchain, hcaught, hmodel⟩ := ha
  rw [← hattempts] at hchain hcaught hmodel
  exact ⟨hchain, hcaught, hpc _ hmodel⟩

omit [Field K] [LinearOrder K] [FloorRing K] in
/-- The thread is done with a frame that the detector was asked about. -/
theorem Attempted.ends (ha : Attempted setup s h) {frame : NdArray} {fate : Fate K}
    (hattempted : fate.attempted = true)
    (hfollows : ((attemptsOf h.journal).getLast?.getD .skipped).Follows fate)
    (hcaught : setup.catchesDetect = false → fate.failed = false)
    (hpc : t.pc = .head) (hmodel : t.modelOk = !fate.failed) :
    Attempted setup t { h with journal := h.journal ++ [.handled frame fate] } := by
  have hattempts : attemptsOf (h.journal ++ [.handled frame fate]) =
      attemptsOf h.journal ++ [fate] := by
    rw [attemptsOf_append, attemptsOf_of_attempted hattempted]
  refine ⟨?_, fun huncaught other hother => ?_, ?_⟩
  · rw [hattempts, ← List.cons_append, List.isChain_append]
    refine ⟨ha.chain, List.isChain_singleton fate, fun last hlast now hnow => ?_⟩
    obtain rfl : fate = now := Option.some.inj hnow
    rw [List.getLast?_cons] at hlast
    obtain rfl := Option.some.inj hlast
    exact hfollows
  · rw [hattempts, List.mem_append, List.mem_singleton] at hother
    rcases hother with hother | rfl
    · exact ha.caught huncaught other hother
    · exact hcaught huncaught
  · rw [hattempts, List.getLast?_append, List.getLast?_singleton, hpc]
    exact hmodel

theorem Attempted.step (ha : Attempted setup s h) (hstep : RecordedStep setup s h t h') :
    Attempted setup t h' := by
  cases hstep with
  | stop | reload => exact ha.goes rfl fun _ hmodel => hmodel
  | loop pc =>
    refine ha.goes rfl fun last hmodel => ?_
    rw [pc] at hmodel
    show ModelKnown last s.modelOk (if s.running then .receiving else .ended)
    split <;> exact hmodel
  | again pc | moved data pc | getBounds roiBounds pc =>
    refine ha.goes rfl fun last hmodel => ?_
    rw [pc] at hmodel
    exact hmodel
  | outage pc | skipped data pc | still data pc =>
    refine ha.goes (by simp [attemptsOf, Fate.attempted]) fun last hmodel => ?_
    rw [pc] at hmodel
    exact hmodel
  | undecoded data next pc nothing ends =>
    refine ha.goes rfl fun last hmodel => ?_
    rw [pc] at hmodel
    rcases ends with rfl | rfl
    · exact hmodel
    · exact trivial
  | found persons pc => exact ha.goes rfl fun _ _ => rfl
  | checked address zones pc =>
    refine ha.goes rfl fun last hmodel => ?_
    rw [pc] at hmodel
    exact hmodel
  | offline pc catches ok =>
    have hmodel := ha.modelOk
    rw [pc] at hmodel
    have hlast := hmodel.symm.trans ok
    refine ha.ends rfl (fun _ => iff_of_false (by rintro ⟨⟩) ?_) (by simp [catches]) rfl rfl
    simpa using hlast
  | withheld pc catches failing =>
    have hmodel := ha.modelOk
    rw [pc] at hmodel
    have hlast := hmodel.symm.trans failing
    refine ha.ends rfl (fun _ => iff_of_true rfl ?_) (by simp [catches]) rfl failing
    simpa using hlast
  | drawn labels pc =>
    have hmodel := ha.modelOk
    rw [pc] at hmodel
    exact ha.ends rfl (by rintro ⟨⟩) (fun _ => rfl) rfl hmodel
  | notCaught pc | notChecked address pc | notDrawn ppeFrames pc =>
    exact ha.goes rfl fun _ _ => trivial

end CameraThread

end EdgeSafety
