import EdgeSafety.Desktop.CameraSignals
import Mathlib.Algebra.Order.Field.Basic

/-!
# From the camera to the detector

`sender_loop` of `edge/sender.py` visits its cameras in turn and sends what it reads to the ports
of the camera threads, for each camera at most so many times a second. Between them a message may be
lost at any time, but messages are neither repeated nor reordered. As a thread looks at every third
frame that it decodes, what the detector is asked about was read at least three intervals apart
(`detections_spaced`).
-/

namespace EdgeSafety

/-- A camera that the sender opened. -/
structure SenderCamera (K : Type) where
  id : String
  zmqPort : Nat
  fps : K

/-- What reading and encoding a frame comes to. -/
inductive ReadOutcome
  | readFailed
  | encodeFailed
  | encoded (data : List UInt8)

/-- What is sent after it. -/
def ReadOutcome.packet (zmqPort : Nat) : ReadOutcome → Option (Nat × List UInt8)
  | .encoded data => some (zmqPort, data)
  | .readFailed | .encodeFailed => none

/-- `sender_loop`, with the next camera that it visits and the time of its clock. -/
structure SenderLoop (K : Type) [Zero K] where
  cameras : List (SenderCamera K)
  clock : K
  lastTime : String → K := fun _ => 0
  next : Nat := 0
  raised : Bool := false

variable {K Gray : Type} [Field K] [LinearOrder K]

namespace SenderLoop

/-- The body of the loop, at the time `now`: the sender after it, and what is sent to which port. A
division by zero ends the loop. -/
def visit (s : SenderLoop K) (now : K) (outcome : ReadOutcome) :
    Option (SenderLoop K × Option (Nat × List UInt8)) :=
  match s.raised, s.cameras[s.next]? with
  | false, some camera =>
    if s.clock ≤ now then
      if camera.fps = 0 then some ({ s with clock := now, raised := true }, none)
      else
        let next := (s.next + 1) % s.cameras.length
        if now - s.lastTime camera.id < 1 / camera.fps then
          some ({ s with clock := now, next }, none)
        else
          some ({ s with
            clock := now, next, lastTime := Function.update s.lastTime camera.id now },
            outcome.packet camera.zmqPort)
    else none
  | _, _ => none

/-- What a visit does: it sends nothing, or what it read long enough after the last time. -/
theorem visit_cases {s t : SenderLoop K} {now : K} {outcome : ReadOutcome}
    {packet : Option (Nat × List UInt8)} (h : s.visit now outcome = some (t, packet)) :
    t.cameras = s.cameras ∧ t.clock = now ∧ s.clock ≤ now ∧
      (t.lastTime = s.lastTime ∧ packet = none ∨
        ∃ camera ∈ s.cameras, 1 / camera.fps ≤ now - s.lastTime camera.id ∧
          t.lastTime = Function.update s.lastTime camera.id now ∧
          ∀ port data, packet = some (port, data) → port = camera.zmqPort) := by
  unfold visit at h
  split at h
  · next camera hraised hcamera =>
    by_cases hclock : s.clock ≤ now
    · rw [if_pos hclock] at h
      by_cases hfps : camera.fps = 0
      · rw [if_pos hfps] at h
        cases h
        exact ⟨rfl, rfl, hclock, .inl ⟨rfl, rfl⟩⟩
      · rw [if_neg hfps] at h
        by_cases hlate : now - s.lastTime camera.id < 1 / camera.fps
        · rw [if_pos hlate] at h
          cases h
          exact ⟨rfl, rfl, hclock, .inl ⟨rfl, rfl⟩⟩
        · rw [if_neg hlate] at h
          cases h
          refine ⟨rfl, rfl, hclock, .inr ⟨camera, List.mem_of_getElem? hcamera, not_lt.mp hlate,
            rfl, ?_⟩⟩
          intro port data hpacket
          cases outcome with
          | readFailed | encodeFailed => cases hpacket
          | encoded bytes => exact (congrArg Prod.fst (Option.some.inj hpacket)).symm
    · rw [if_neg hclock] at h
      cases h
  · cases h

end SenderLoop

/-- The sender, the messages under way to a camera thread, each with the time at which its frame was
read, and the thread. -/
structure CameraLink (K Gray : Type) [Zero K] where
  sender : SenderLoop K
  wire : List (K × List UInt8) := []
  thread : CameraThread K Gray

namespace CameraLink

/-- What happens next. -/
inductive Event (K : Type)
  /-- The sender visits a camera. -/
  | visit (now : K) (outcome : ReadOutcome)
  /-- A message is lost. -/
  | lose (i : Nat)
  /-- `recv` of the thread returns. -/
  | receive
  /-- The thread does anything else. -/
  | thread (event : CameraThread.Event K)

/-- What happened: what the thread did, and the messages that it received. -/
structure History (K : Type) where
  thread : CameraThread.History K := {}
  taken : List (K × List UInt8) := []

variable [FloorRing K]

/-- One step of the system. -/
def step (setup : CameraSetup K Gray) (port : Nat) (s : CameraLink K Gray) :
    Event K → Option (CameraLink K Gray)
  | .visit now outcome =>
    (s.sender.visit now outcome).map fun (sender, packet) =>
      { s with
        sender
        wire := match packet with
          | some (zmqPort, data) => if zmqPort = port then s.wire ++ [(now, data)] else s.wire
          | none => s.wire }
  | .lose i => some { s with wire := s.wire.eraseIdx i }
  | .receive =>
    match s.wire with
    | (_, data) :: wire =>
      (s.thread.step setup (.message data)).map fun thread => { s with wire, thread }
    | [] => none
  | .thread (.message _) => none
  | .thread event => (s.thread.step setup event).map fun thread => { s with thread }

/-- What a step adds. -/
def record (setup : CameraSetup K Gray) (h : History K) (s : CameraLink K Gray) :
    Event K → History K
  | .visit _ _ | .lose _ => h
  | .receive =>
    match s.wire with
    | message :: _ =>
      { thread := CameraThread.record setup h.thread s.thread (.message message.2)
        taken := h.taken ++ [message] }
    | [] => h
  | .thread event => { h with thread := CameraThread.record setup h.thread s.thread event }

/-- The system after a run, with what happened. -/
def observe (setup : CameraSetup K Gray) (port : Nat) (rois : List (ZoneRecord K))
    (cameras : List (SenderCamera K)) (clock : K) (events : List (Event K)) : Transition.Recorded (CameraLink K Gray) (History K) :=
  Transition.exec (Transition.recorded (step setup port) (record setup))
    ⟨{ sender := { cameras, clock }, thread := { rois } }, {}⟩ events

/-- The frames that the thread decoded, with the times at which they were read. -/
def History.stamped (setup : CameraSetup K Gray) (h : History K) : List (K × NdArray) :=
  h.taken.filterMap fun message =>
    (CameraThread.frameOf setup message.2).map fun frame => (message.1, frame)

variable {setup : CameraSetup K Gray} {port : Nat} {s t : CameraLink K Gray} {h : History K}

/-- What a step does, one constructor for each part of the system that makes it. -/
inductive RecordedStep (setup : CameraSetup K Gray) (port : Nat) (s : CameraLink K Gray)
    (h : History K) : CameraLink K Gray → History K → Prop
  | visit (now : K) (outcome : ReadOutcome) (sender : SenderLoop K)
      (packet : Option (Nat × List UInt8)) (sent : List (List UInt8))
      (visits : s.sender.visit now outcome = some (sender, packet))
      (hsent : sent = [] ∨ ∃ data, sent = [data] ∧ packet = some (port, data)) :
      RecordedStep setup port s h
        { s with sender, wire := s.wire ++ sent.map fun data => (now, data) } h
  | lose (i : Nat) : RecordedStep setup port s h { s with wire := s.wire.eraseIdx i } h
  | receive (stamp : K) (data : List UInt8) (wire : List (K × List UInt8))
      (thread : CameraThread K Gray) (hwire : s.wire = (stamp, data) :: wire)
      (steps : s.thread.step setup (.message data) = some thread) :
      RecordedStep setup port s h { s with wire, thread }
        { thread := CameraThread.record setup h.thread s.thread (.message data)
          taken := h.taken ++ [(stamp, data)] }
  | thread (event : CameraThread.Event K) (thread : CameraThread K Gray)
      (quiet : ∀ data, event ≠ .message data) (steps : s.thread.step setup event = some thread) :
      RecordedStep setup port s h { s with thread }
        { h with thread := CameraThread.record setup h.thread s.thread event }

theorem step_recorded (h : History K) {e : Event K} (hstep : s.step setup port e = some t) :
    RecordedStep setup port s h t (record setup h s e) := by
  cases e with
  | visit now outcome =>
    obtain ⟨⟨sender, packet⟩, hvisit, rfl⟩ := Option.map_eq_some_iff.mp hstep
    match packet with
    | none =>
      have hquiet : RecordedStep setup port s h _ h :=
        .visit now outcome sender none [] hvisit (.inl rfl)
      rwa [List.map_nil, List.append_nil] at hquiet
    | some (zmqPort, data) =>
      simp only [record]
      split
      · next hport =>
        exact .visit now outcome sender _ [data] hvisit (.inr ⟨data, rfl, by rw [hport]⟩)
      · have hquiet : RecordedStep setup port s h _ h :=
          .visit now outcome sender _ [] hvisit (.inl rfl)
        rwa [List.map_nil, List.append_nil] at hquiet
  | lose i =>
    obtain rfl := Option.some.inj hstep
    exact .lose i
  | receive =>
    simp only [step] at hstep
    split at hstep
    · next stamp data wire hwire =>
      obtain ⟨thread, steps, rfl⟩ := Option.map_eq_some_iff.mp hstep
      simp only [record, hwire]
      exact .receive stamp data wire thread hwire steps
    · cases hstep
  | thread event =>
    have hquiet : ∀ data, event ≠ .message data := by
      rintro data rfl
      cases hstep
    obtain ⟨thread, steps, rfl⟩ : ∃ thread, s.thread.step setup event = some thread ∧
        { s with thread } = t := by
      cases event with
      | message data => cases hstep
      | _ => exact Option.map_eq_some_iff.mp hstep
    exact .thread event thread hquiet steps

/-- No message is received. -/
theorem received_quiet {event : CameraThread.Event K} (hquiet : ∀ data, event ≠ .message data)
    (h : CameraThread.History K) (s : CameraThread K Gray) :
    (CameraThread.record setup h s event).received.filterMap id = h.received.filterMap id := by
  cases event with
  | message data => exact absurd rfl (hquiet data)
  | stop | reload | loop | getBounds => rfl
  | again =>
    rw [CameraThread.record, List.filterMap_append]
    exact List.append_nil _
  | detect detected | checkPerson address | draw raised =>
    simp only [CameraThread.record]
    repeat' split
    all_goals rfl

/-- What is known of the link to a thread from the camera that sends to its port. -/
structure Linked (setup : CameraSetup K Gray) (rois : List (ZoneRecord K))
    (cameras : List (SenderCamera K)) (camera : SenderCamera K) (s : CameraLink K Gray)
    (h : History K) : Prop where
  followed : CameraThread.Followed setup rois s.thread h.thread
  taken : h.thread.received.filterMap id = h.taken.map Prod.snd
  cameras : s.sender.cameras = cameras
  clock : ∀ id, s.sender.lastTime id ≤ s.sender.clock
  noted : ∀ stamp ∈ (h.taken ++ s.wire).map Prod.fst, stamp ≤ s.sender.lastTime camera.id
  spaced : ((h.taken ++ s.wire).map Prod.fst).Pairwise fun first second =>
    first ≤ second ∧ first + 1 / camera.fps ≤ second

variable [IsStrictOrderedRing K] {rois : List (ZoneRecord K)} {cameras : List (SenderCamera K)}
  {camera : SenderCamera K}

/-- The sender visits a camera. -/
theorem Linked.visit (hl : Linked setup rois cameras camera s h)
    (hfeed : ∀ other ∈ cameras, other.zmqPort = camera.zmqPort →
      other.id = camera.id ∧ other.fps = camera.fps)
    {now : K} {outcome : ReadOutcome} {sender : SenderLoop K}
    {packet : Option (Nat × List UInt8)} {sent : List (List UInt8)}
    (visits : s.sender.visit now outcome = some (sender, packet))
    (hsent : sent = [] ∨ ∃ data, sent = [data] ∧ packet = some (camera.zmqPort, data)) :
    Linked setup rois cameras camera
      { s with sender, wire := s.wire ++ sent.map fun data => (now, data) } h := by
  obtain ⟨hcameras, hclock, hlater, hcase⟩ := SenderLoop.visit_cases visits
  have hpast (id : String) : s.sender.lastTime id ≤ now := (hl.clock id).trans hlater
  -- Without a message the stamps stay, and they are no later than before.
  have hquiet (hnone : sent = []) (hlast : s.sender.lastTime camera.id ≤ sender.lastTime camera.id)
      (hbound : ∀ id, sender.lastTime id ≤ now) :
      Linked setup rois cameras camera
        { s with sender, wire := s.wire ++ sent.map fun data => (now, data) } h := by
    subst hnone
    rw [List.map_nil, List.append_nil]
    exact ⟨hl.followed, hl.taken, hcameras.trans hl.cameras, fun id => hclock ▸ hbound id,
      fun stamp hstamp => (hl.noted stamp hstamp).trans hlast, hl.spaced⟩
  rcases hcase with ⟨hsame, hnone⟩ | ⟨other, hother, hlate, hlast, hport⟩
  · have hnothing : sent = [] := by
      rcases hsent with hsent | ⟨data, -, hpacket⟩
      · exact hsent
      · rw [hnone] at hpacket
        cases hpacket
    exact hquiet hnothing (by rw [hsame]) fun id => by
      rw [hsame]
      exact hpast id
  · have hbound (id : String) : sender.lastTime id ≤ now := by
      rw [hlast]
      by_cases hid : id = other.id
      · rw [hid, Function.update_self]
      · rw [Function.update_of_ne hid]
        exact hpast id
    rcases hsent with hnothing | ⟨data, rfl, hpacket⟩
    · refine hquiet hnothing ?_ hbound
      rw [hlast]
      by_cases hid : camera.id = other.id
      · rw [hid, Function.update_self]
        exact hpast other.id
      · rw [Function.update_of_ne hid]
    · obtain ⟨hid, hfps⟩ := hfeed other (hl.cameras ▸ hother) (hport _ _ hpacket).symm
      have hnow : sender.lastTime camera.id = now := by rw [hlast, hid, Function.update_self]
      have hstamps : (h.taken ++ (s.wire ++ [data].map fun data => (now, data))).map Prod.fst =
          (h.taken ++ s.wire).map Prod.fst ++ [now] := by
        rw [← List.append_assoc, List.map_append]
        rfl
      refine ⟨hl.followed, hl.taken, hcameras.trans hl.cameras, fun id => hclock ▸ hbound id,
        ?_, ?_⟩
      · rw [hstamps, hnow]
        intro stamp hstamp
        rcases List.mem_append.mp hstamp with hold | hnew
        · exact (hl.noted stamp hold).trans (hpast camera.id)
        · exact le_of_eq (List.mem_singleton.mp hnew)
      · rw [hstamps, List.pairwise_append]
        refine ⟨hl.spaced, List.pairwise_singleton _ _, fun stamp hstamp later hmem => ?_⟩
        obtain rfl := List.mem_singleton.mp hmem
        have hstamp := hl.noted stamp hstamp
        rw [hid, hfps] at hlate
        exact ⟨hstamp.trans (hpast camera.id), by linarith⟩

theorem Linked.step (hl : Linked setup rois cameras camera s h)
    (hfeed : ∀ other ∈ cameras, other.zmqPort = camera.zmqPort →
      other.id = camera.id ∧ other.fps = camera.fps) {h' : History K}
    (hstep : RecordedStep setup camera.zmqPort s h t h') :
    Linked setup rois cameras camera t h' := by
  cases hstep with
  | visit now outcome sender packet sent visits hsent => exact hl.visit hfeed visits hsent
  | lose i =>
    have hfewer : ((h.taken ++ s.wire.eraseIdx i).map Prod.fst).Sublist
        ((h.taken ++ s.wire).map Prod.fst) :=
      ((List.eraseIdx_sublist s.wire i).append_left h.taken).map Prod.fst
    exact ⟨hl.followed, hl.taken, hl.cameras, hl.clock,
      fun stamp hstamp => hl.noted stamp (hfewer.mem hstamp), hl.spaced.sublist hfewer⟩
  | receive stamp data wire thread hwire steps =>
    have hmoves : h.taken ++ [(stamp, data)] ++ wire = h.taken ++ s.wire := by
      rw [hwire, List.append_assoc]
      rfl
    refine ⟨hl.followed.step (CameraThread.step_recorded h.thread steps), ?_, hl.cameras,
      hl.clock, hmoves ▸ hl.noted, hmoves ▸ hl.spaced⟩
    rw [CameraThread.record, List.filterMap_append, hl.taken, List.map_append]
    rfl
  | thread event thread quiet steps =>
    exact ⟨hl.followed.step (CameraThread.step_recorded h.thread steps),
      (received_quiet quiet h.thread s.thread).trans hl.taken, hl.cameras, hl.clock, hl.noted,
      hl.spaced⟩

omit [LinearOrder K] [FloorRing K] [IsStrictOrderedRing K] [Field K] in
/-- The frames that a thread decodes are those of its messages. -/
theorem filterMap_asked (setup : CameraSetup K Gray) (before : Option (List UInt8))
    (received : List (Option (List UInt8))) :
    (CameraThread.asked setup before received).filterMap id =
      (received.filterMap id).filterMap (CameraThread.frameOf setup) := by
  induction received generalizing before with
  | nil => rfl
  | cons now received ih =>
    rw [CameraThread.asked, List.filterMap_append, ih]
    cases now with
    | none => cases before <;> rfl
    | some data =>
      rw [CameraThread.asks_message rfl]
      show _ = (data :: received.filterMap id).filterMap (CameraThread.frameOf setup)
      rw [List.filterMap_cons]
      cases CameraThread.frameOf setup data <;> rfl

omit [LinearOrder K] [FloorRing K] [IsStrictOrderedRing K] [Field K] in
theorem map_snd_stamped (htaken : h.thread.received.filterMap id = h.taken.map Prod.snd) :
    (h.stamped setup).map Prod.snd = h.thread.frames setup := by
  rw [CameraThread.History.frames, CameraThread.History.asked, filterMap_asked, htaken,
    History.stamped, List.map_filterMap, List.filterMap_map]
  congr 1
  funext message
  simp [Function.comp_def]

omit [LinearOrder K] [FloorRing K] [IsStrictOrderedRing K] [Field K] in
theorem stamps_sublist (setup : CameraSetup K Gray) (h : History K) :
    ((h.stamped setup).map Prod.fst).Sublist (h.taken.map Prod.fst) := by
  rw [History.stamped]
  induction h.taken with
  | nil => exact .slnil
  | cons message taken ih =>
    rw [List.filterMap_cons]
    cases CameraThread.frameOf setup message.2 with
    | none => exact ih.cons _
    | some frame => exact ih.cons_cons _

omit [FloorRing K] in
/-- In a list whose neighbours are spaced, elements further apart are spaced so much more. -/
theorem spaced_add {stamps : List (K × NdArray)} {interval : K}
    (hspaced : (stamps.map Prod.fst).Pairwise fun first second =>
      first ≤ second ∧ first + interval ≤ second) {i n : Nat} {first last : K × NdArray}
    (hfirst : stamps[i]? = some first) (hlast : stamps[i + n]? = some last) :
    first.1 + n * interval ≤ last.1 := by
  induction n generalizing last with
  | zero =>
    obtain rfl := Option.some.inj (hfirst.symm.trans hlast)
    simp
  | succ n ih =>
    obtain ⟨hn, -⟩ := List.getElem?_eq_some_iff.mp hlast
    have hbefore : stamps[i + n]? = some stamps[i + n] := List.getElem?_eq_getElem (by omega)
    have hnext := List.pairwise_iff_getElem.mp hspaced (i + n) (i + (n + 1))
      (by rw [List.length_map]; omega) (by rw [List.length_map]; exact hn) (by omega)
    rw [List.getElem_map, List.getElem_map] at hnext
    obtain ⟨-, rfl⟩ := List.getElem?_eq_some_iff.mp hlast
    have hfar := ih hbefore
    push_cast
    linarith [hnext.2]

/-- Over every run of the sender and a camera thread, where only one camera sends to the port of the
thread: whatever is lost on the way, the frames that the detector is asked about were read at least
three intervals of the camera apart. -/
theorem detections_spaced (setup : CameraSetup K Gray) (rois : List (ZoneRecord K))
    (cameras : List (SenderCamera K)) (clock : K) (hclock : 0 ≤ clock) (camera : SenderCamera K)
    (hfeed : ∀ other ∈ cameras, other.zmqPort = camera.zmqPort →
      other.id = camera.id ∧ other.fps = camera.fps) (events : List (Event K)) :
    let o := observe setup camera.zmqPort rois cameras clock events
    (o.history.stamped setup).map Prod.snd = o.history.thread.frames setup ∧
      ∀ (i j : Nat) frame fate frame' fate', i < j →
        (fatesOf o.history.thread.journal)[i]? = some (frame, fate) → fate.attempted = true →
        (fatesOf o.history.thread.journal)[j]? = some (frame', fate') → fate'.attempted = true →
        ∃ earlier later, (o.history.stamped setup)[i]? = some (earlier, frame) ∧
          (o.history.stamped setup)[j]? = some (later, frame') ∧
          earlier + 3 * (1 / camera.fps) ≤ later := by
  intro o
  have hl : Linked setup rois cameras camera o.state o.history := by
    refine Transition.recorded_invariant (fun s h e t hl hstep =>
      hl.step hfeed (step_recorded h hstep)) ?_ events
    exact ⟨CameraThread.init_followed setup rois, rfl, rfl, fun _ => hclock, by rintro _ ⟨⟩, .nil⟩
  have hframes : (o.history.stamped setup).map Prod.snd = o.history.thread.frames setup :=
    map_snd_stamped hl.taken
  refine ⟨hframes, ?_⟩
  intro i j frame fate frame' fate' hij hi hattempted hj hattempted'
  -- The frame of an entry is the decoded frame at its index.
  have hstamp {i : Nat} {frame : NdArray} {fate : Fate K}
      (hi : (fatesOf o.history.thread.journal)[i]? = some (frame, fate)) :
      ∃ stamp, (o.history.stamped setup)[i]? = some (stamp, frame) := by
    obtain ⟨late, horder, -⟩ := hl.followed.journalled.order
    have hall := CameraThread.frames_eq horder
    have hframe : (framesOf o.history.thread.journal)[i]? = some frame := by
      rw [← map_fst_fatesOf, List.getElem?_map, hi]
      rfl
    obtain ⟨hlt, -⟩ := List.getElem?_eq_some_iff.mp hframe
    have hsnd : ((o.history.stamped setup).map Prod.snd)[i]? = some frame := by
      rw [hframes, hall, List.getElem?_append_left hlt]
      exact hframe
    rw [List.getElem?_map] at hsnd
    obtain ⟨⟨stamp, other⟩, hstamped, rfl⟩ := Option.map_eq_some_iff.mp hsnd
    exact ⟨stamp, hstamped⟩
  obtain ⟨earlier, hearlier⟩ := hstamp hi
  obtain ⟨later, hlater⟩ := hstamp hj
  refine ⟨earlier, later, hearlier, hlater, ?_⟩
  have hthird := ((hl.followed.gated.fates i frame fate hi).mp hattempted).1
  have hthird' := ((hl.followed.gated.fates j frame' fate' hj).mp hattempted').1
  have hspaced : ((o.history.stamped setup).map Prod.fst).Pairwise fun first second =>
      first ≤ second ∧ first + 1 / camera.fps ≤ second :=
    hl.spaced.sublist ((stamps_sublist setup o.history).trans
      ((List.sublist_append_left _ _).map Prod.fst))
  -- The third frame after the first one is read in time, and the other one no sooner.
  obtain ⟨hj', -⟩ := List.getElem?_eq_some_iff.mp hlater
  have hmiddle : (o.history.stamped setup)[i + 3]? = some (o.history.stamped setup)[i + 3] :=
    List.getElem?_eq_getElem (by omega)
  have hfar := spaced_add hspaced hearlier hmiddle
  refine hfar.trans ?_
  rcases (show i + 3 = j ∨ i + 3 < j by omega) with rfl | hlt
  · rw [hlater] at hmiddle
    exact le_of_eq (congrArg Prod.fst (Option.some.inj hmiddle)).symm
  · have hnext := List.pairwise_iff_getElem.mp hspaced (i + 3) j
      (by rw [List.length_map]; omega) (by rw [List.length_map]; exact hj') hlt
    rw [List.getElem_map, List.getElem_map] at hnext
    obtain ⟨_, hlast⟩ := List.getElem?_eq_some_iff.mp hlater
    rw [hlast] at hnext
    exact hnext.1

/-- Every message has a black frame of one pixel. -/
def blackVision : Vision ℚ Unit where
  imdecode _ := .ok (some (blackFrame 1 1))
  gray _ := ()
  meanDiff _ _ := 0
  pointInPolygon _ _ := .ok false

/-- A camera of `edge/config.yaml`. -/
def cam1 : SenderCamera ℚ := { id := "cam1", zmqPort := 5555, fps := 5 }

/-- A frame is sent and received. -/
def frameSent (now : ℚ) : List (Event ℚ) :=
  [.visit now (.encoded []), .thread .loop, .receive]

/-- The detector finds nobody on it. -/
def nobodyFound : List (Event ℚ) :=
  [.thread .getBounds, .thread (.detect (.ok [])), .thread (.draw false)]

/-- Of six frames the third and the last are looked at. -/
def sixFrames : List (Event ℚ) :=
  frameSent 1 ++ frameSent 2 ++ frameSent 3 ++ nobodyFound ++
    (frameSent 4 ++ frameSent 5 ++ frameSent 6 ++ nobodyFound)

theorem detections_spaced_sixFrames :
    let o := observe (Cam1Thread blackVision) cam1.zmqPort [] [cam1] 0 sixFrames
    (fatesOf o.history.thread.journal).map (fun entry => entry.2.attempted) =
        [false, false, true, false, false, true] ∧
      (o.history.stamped (Cam1Thread blackVision)).map Prod.snd =
        o.history.thread.frames (Cam1Thread blackVision) ∧
      ∀ (i j : Nat) frame fate frame' fate', i < j →
        (fatesOf o.history.thread.journal)[i]? = some (frame, fate) → fate.attempted = true →
        (fatesOf o.history.thread.journal)[j]? = some (frame', fate') → fate'.attempted = true →
        ∃ earlier later,
          (o.history.stamped (Cam1Thread blackVision))[i]? = some (earlier, frame) ∧
          (o.history.stamped (Cam1Thread blackVision))[j]? = some (later, frame') ∧
          earlier + 3 * (1 / cam1.fps) ≤ later :=
  ⟨by decide +kernel, detections_spaced (Cam1Thread blackVision) [] [cam1] 0 le_rfl cam1
    (by simp) sixFrames⟩

end CameraLink

end EdgeSafety
