import EdgeSafety.Lib.Family
import EdgeSafety.Server.Broadcasts

/-!
# What the clients of the dashboard get

Every broadcast is sent once to each client that was connected when it began. The frames of the
remote cameras reach a client in the order in which they were polled, from the time when it
connected and without a gap as long as it is connected. The frames polled of a camera are those that
arrived for it, but for frames that five newer ones displaced and for the at most five that wait.
-/

namespace EdgeSafety
namespace Dashboard

/-- The broadcasts and their log. -/
structure Rooms (s : Dashboard) (h : History) : Prop where
  accounted : Fanout.Accounted s.room h.log
  inTurn : Fanout.InTurn s.room h.log h.previews h.since
  waiting : ∀ n ∈ h.previews, s.room.rest n = [] ∨ s.pollPc.call? = some n
  newcomers : ∀ client, s.handlers client = .new → client ∉ h.log.joined
  numbers : ∀ n ∈ h.texts, n < s.room.calls.length
  frames : h.previews.map s.room.message? ++
      s.pollPc.inHand.map (fun frame => some (.ofFrame frame.1 frame.2)) =
    h.polled.map fun frame => some (.ofFrame frame.1 frame.2)
  texts : h.texts.map s.room.message? ++ s.scheduled.map (fun msg => some (.text msg)) =
    h.sent.map fun msg => some (.text msg)

theorem init_rooms (remoteCameraIds : List String) : Rooms (init remoteCameraIds) {} where
  accounted := Fanout.accounted_empty
  inTurn := Fanout.inTurn_empty
  waiting := nofun
  newcomers _ _ := List.not_mem_nil
  numbers := nofun
  frames := rfl
  texts := rfl

section Rooms
variable {s t : Dashboard} {h h' : History}

/-- A new broadcast has none of the messages that there were. -/
theorem map_message?_start {own : List Nat} (hown : ∀ n ∈ own, n < s.room.calls.length)
    (message : Message) :
    own.map (s.room.start message).message? = own.map s.room.message? :=
  List.map_congr_left fun n hn => Fanout.message?_start s.room (hown n hn)

theorem message?_start_self (message : Message) :
    (s.room.start message).message? s.room.calls.length = some message := by
  simp [Fanout.Room.message?, Fanout.Room.start]

/-- When a handler goes on, the clients that are still new were new before. -/
theorem new_of_handlerTo {client other : Nat} {pc : HandlerPc} (hpc : pc ≠ .new)
    (hother : (s.handlerTo client pc).handlers other = .new) :
    other ≠ client ∧ s.handlers other = .new := by
  have hupdate : Function.update s.handlers client pc other = .new := hother
  by_cases heq : other = client
  · rw [heq, Function.update_self] at hupdate
    exact absurd hupdate hpc
  · rw [Function.update_of_ne heq] at hupdate
    exact ⟨heq, hupdate⟩

theorem Rooms.handlerTo (hs : Rooms s h) (client : Nat) {pc : HandlerPc} (hpc : pc ≠ .new) :
    Rooms (s.handlerTo client pc) h :=
  { hs with newcomers := fun other hother => hs.newcomers other (new_of_handlerTo hpc hother).2 }

/-- `poll_remote_frames` goes on without a broadcast. -/
theorem Rooms.pollerTo (hs : Rooms s h) {pc : PollPc}
    (hcall : ∀ n ∈ h.previews, s.room.rest n ≠ [] → pc.call? = some n)
    (hpolled : s.pollPc.inHand = []) (hpc : pc.inHand = []) :
    Rooms { s with pollPc := pc } h := by
  refine { hs with waiting := fun n hn => ?_, frames := ?_ }
  · by_cases hrest : s.room.rest n = []
    · exact .inl hrest
    · exact .inr (hcall n hn hrest)
  · have hframes := hs.frames
    rw [hpolled] at hframes
    rw [hpc]
    exact hframes

/-- Outside `broadcast_async` none of the broadcasts is under way. -/
theorem Rooms.idle (hs : Rooms s h) (hpc : s.pollPc.call? = none) :
    ∀ n ∈ h.previews, s.room.rest n = [] := by
  intro n hn
  rcases hs.waiting n hn with hrest | hcall
  · exact hrest
  · rw [hpc] at hcall
    cases hcall

/-- A client connects. -/
theorem Rooms.connect (hs : Rooms s h) {client : Nat} (hnew : s.handlers client = .new) :
    Rooms ({ s with room := s.room.join client }.handlerTo client .receiving)
      (record h s (.connect client)) where
  accounted := hs.accounted.join (hs.newcomers client hnew)
  inTurn := hs.inTurn.join hs.accounted (hs.newcomers client hnew)
  waiting := hs.waiting
  newcomers other hother := by
    obtain ⟨hne, hnewer⟩ := new_of_handlerTo HandlerPc.noConfusion hother
    intro hmem
    rcases List.mem_append.mp hmem with hmem | hmem
    · exact hs.newcomers other hnewer hmem
    · exact hne (List.mem_singleton.mp hmem)
  numbers := hs.numbers
  frames := hs.frames
  texts := hs.texts

/-- A broadcast of the capture thread begins. -/
theorem Rooms.begin (hs : Rooms s h) {msg : String} {rest : List String}
    (hscheduled : s.scheduled = msg :: rest) :
    Rooms { s with room := s.room.start (.text msg), scheduled := rest } (record h s .begin) where
  accounted := hs.accounted.start _
  inTurn := hs.inTurn.startOther _
  waiting n hn := by
    rw [Fanout.rest_start, if_neg (Nat.ne_of_lt (hs.inTurn.numbers.2 n hn))]
    exact hs.waiting n hn
  newcomers := hs.newcomers
  numbers n hn := by
    show n < (s.room.calls ++ [_]).length
    rw [List.length_append, List.length_singleton]
    rcases List.mem_append.mp hn with hn | hn
    · exact Nat.lt_succ_of_lt (hs.numbers n hn)
    · rw [List.mem_singleton.mp hn]
      exact Nat.lt_succ_self _
  frames := by
    show h.previews.map (s.room.start _).message? ++ _ = _
    rw [map_message?_start hs.inTurn.numbers.2]
    exact hs.frames
  texts := by
    have htexts := hs.texts
    rw [hscheduled] at htexts
    show (h.texts ++ [s.room.calls.length]).map (s.room.start _).message? ++ _ = _
    rw [List.map_append, map_message?_start hs.numbers, List.map_singleton, message?_start_self,
      List.append_assoc]
    exact htexts

/-- A broadcast of `poll_remote_frames` begins. -/
theorem Rooms.encoding (hs : Rooms s h) {cameraId : String} {jpegBytes : List UInt8}
    (hpc : s.pollPc = .encoding cameraId jpegBytes) :
    Rooms { s with
        room := s.room.start (.ofFrame cameraId jpegBytes)
        pollPc := .broadcasting s.room.calls.length }
      { h with
        log := h.log.start s.room.members
        previews := h.previews ++ [s.room.calls.length] } where
  accounted := hs.accounted.start _
  inTurn := hs.inTurn.startOwn hs.accounted (hs.idle (by rw [hpc]; rfl)) _
  waiting n hn := by
    rcases List.mem_append.mp hn with hn | hn
    · rw [Fanout.rest_start, if_neg (Nat.ne_of_lt (hs.inTurn.numbers.2 n hn))]
      exact .inl (hs.idle (by rw [hpc]; rfl) n hn)
    · rw [List.mem_singleton.mp hn]
      exact .inr rfl
  newcomers := hs.newcomers
  numbers n hn := by
    show n < (s.room.calls ++ [_]).length
    rw [List.length_append]
    exact Nat.lt_add_right _ (hs.numbers n hn)
  frames := by
    have hframes := hs.frames
    rw [hpc] at hframes
    show (h.previews ++ [s.room.calls.length]).map (s.room.start _).message? ++ [] = _
    rw [List.map_append, map_message?_start hs.inTurn.numbers.2, List.map_singleton,
      message?_start_self, List.append_nil]
    exact hframes
  texts := by
    show h.texts.map (s.room.start _).message? ++ _ = _
    rw [map_message?_start hs.numbers]
    exact hs.texts

/-- A send returns or raises. -/
theorem Rooms.send (hs : Rooms s h) {call : Nat} {arrived : Bool} {room : Fanout.Room Nat Message}
    (hsend : s.room.send call arrived = some room) :
    Rooms { s with room } (record h s (.send call arrived)) := by
  obtain ⟨member, rest, hrest, hroom⟩ := Fanout.send_cases hsend
  have hmessages : room.message? = s.room.message? := by
    funext n
    rw [hroom, ← Fanout.message?_next s.room call n]
    cases arrived <;> rfl
  have hlength : room.calls.length = s.room.calls.length := by
    rw [hroom]
    cases arrived <;> simp [Fanout.Room.next, Fanout.Room.leave]
  refine ⟨hs.accounted.send hsend, hs.inTurn.send hs.accounted hsend, ?_, hs.newcomers, ?_, ?_, ?_⟩
  · intro n hn
    refine (hs.waiting n hn).imp_left fun hended => ?_
    rw [Fanout.rest_send hsend]
    split
    · next heq => rw [← heq, hended, List.tail_nil]
    · exact hended
  · intro n hn
    show n < room.calls.length
    rw [hlength]
    exact hs.numbers n hn
  · show h.previews.map room.message? ++ _ = _
    rw [hmessages]
    exact hs.frames
  · show h.texts.map room.message? ++ _ = _
    rw [hmessages]
    exact hs.texts

/-- `poll_remote_frames` makes a step. -/
theorem Rooms.poller (hs : Rooms s h) (hstep : s.poller = some t) :
    Rooms t (recordPoller h s) := by
  unfold Dashboard.poller at hstep
  unfold recordPoller
  cases hpc : s.pollPc with
  | head =>
    rw [hpc] at hstep
    obtain rfl := Option.some.inj hstep
    refine hs.pollerTo (fun n hn hrest => ?_) (by rw [hpc]; rfl) (by split <;> rfl)
    exact absurd (hs.idle (by rw [hpc]; rfl) n hn) hrest
  | asleep =>
    rw [hpc] at hstep
    obtain rfl := Option.some.inj hstep
    refine hs.pollerTo (fun n hn hrest => ?_) (by rw [hpc]; rfl) rfl
    exact absurd (hs.idle (by rw [hpc]; rfl) n hn) hrest
  | polling =>
    rw [hpc] at hstep
    obtain rfl := Option.some.inj hstep
    have hframes := hs.frames
    rw [hpc] at hframes
    refine ⟨hs.accounted, hs.inTurn, fun n hn => .inl (hs.idle (by rw [hpc]; rfl) n hn),
      hs.newcomers, hs.numbers, ?_, hs.texts⟩
    dsimp only
    rw [List.map_append, ← hframes, List.append_assoc]
    cases s.remoteScheduler.poll.1 <;> rfl
  | encoding cameraId jpegBytes =>
    rw [hpc] at hstep
    obtain rfl := Option.some.inj hstep
    exact hs.encoding hpc
  | broadcasting call =>
    simp only [hpc] at hstep
    split at hstep
    · next hended =>
      obtain rfl := Option.some.inj hstep
      refine hs.pollerTo (fun n hn hrest => ?_) (by rw [hpc]; rfl) rfl
      refine absurd ((hs.waiting n hn).resolve_right fun hcall => ?_) hrest
      rw [hpc] at hcall
      obtain rfl := Option.some.inj hcall
      exact hrest hended
    · cases hstep
  | ended | raised =>
    rw [hpc] at hstep
    cases hstep

/-- Every step keeps the log. -/
theorem Rooms.step (hs : Rooms s h) {e : Event} (hstep : s.step e = some t) :
    Rooms t (record h s e) := by
  cases e with
  | connect client =>
    simp only [Dashboard.step] at hstep
    split at hstep
    · next hnew =>
      obtain rfl := Option.some.inj hstep
      exact hs.connect hnew
    · cases hstep
  | receive client data =>
    simp only [Dashboard.step] at hstep
    split at hstep
    · obtain rfl := Option.some.inj hstep
      exact hs.handlerTo client (by split <;> exact HandlerPc.noConfusion)
    · cases hstep
  | pong client =>
    simp only [Dashboard.step] at hstep
    split at hstep
    · obtain rfl := Option.some.inj hstep
      exact hs.handlerTo client HandlerPc.noConfusion
    · cases hstep
  | raise client =>
    have hleave : Rooms { s with room := s.room.leave client } h :=
      { hs with
        accounted := hs.accounted.leave client
        inTurn := hs.inTurn.leave client }
    simp only [Dashboard.step] at hstep
    split at hstep
    · obtain rfl := Option.some.inj hstep
      exact hleave.handlerTo client HandlerPc.noConfusion
    · obtain rfl := Option.some.inj hstep
      exact hleave.handlerTo client HandlerPc.noConfusion
    · cases hstep
  | onMessage topic payload =>
    obtain rfl := Option.some.inj hstep
    simp only [record, Dashboard.onMessage]
    cases topicCamera topic with
    | none => exact hs
    | some cameraId => exact { hs with }
  | sendWs msg =>
    obtain rfl := Option.some.inj hstep
    refine { hs with texts := ?_ }
    simp only [record, List.map_append, ← hs.texts, List.append_assoc]
  | begin =>
    simp only [Dashboard.step] at hstep
    split at hstep
    · next msg rest hscheduled =>
      obtain rfl := Option.some.inj hstep
      exact hs.begin hscheduled
    · cases hstep
  | send call arrived =>
    obtain ⟨room, hsend, rfl⟩ := Option.map_eq_some_iff.mp hstep
    exact hs.send hsend
  | poller => exact hs.poller hstep
  | stop =>
    obtain rfl := Option.some.inj hstep
    exact { hs with }

end Rooms

/-! ## The frames of the remote cameras -/

/-- The scheduler of the remote cameras, its ledgers and the frames that went in and came out. -/
structure Fed (s : Dashboard) (h : History) : Prop where
  accounted : Scheduler.Accounted s.remoteScheduler h.journal
  arrived : ∀ camera,
    (h.journal camera).entries.map BoundedQueue.Entry.item = Family.ofKey camera h.arrived
  polled : ∀ camera, (h.journal camera).taken = Family.ofKey camera h.polled
  raised : s.pollPc ≠ .raised

theorem init_fed (remoteCameraIds : List String) : Fed (init remoteCameraIds) {} where
  accounted := by
    show Scheduler.Accounted (remoteCameraIds.foldl Scheduler.registerCamera _) _
    have hall : ∀ s : Scheduler (List UInt8), Scheduler.Accounted s (fun _ => .empty) →
        Scheduler.Accounted (remoteCameraIds.foldl Scheduler.registerCamera s) fun _ => .empty := by
      induction remoteCameraIds with
      | nil => exact fun s hs => hs
      | cons cameraId rest ih => exact fun s hs => ih _ (hs.after (.registerCamera cameraId))
    exact hall _ (Scheduler.init_accounted _)
  arrived _ := rfl
  polled _ := rfl
  raised := nofun

section Fed
variable {s t : Dashboard} {h : History}

/-- A step that leaves the scheduler alone. -/
theorem Fed.same {h' : History} (hs : Fed s h) (hscheduler : t.remoteScheduler = s.remoteScheduler)
    (hjournal : h'.journal = h.journal) (harrived : h'.arrived = h.arrived)
    (hpolled : h'.polled = h.polled) (hraised : t.pollPc ≠ .raised) : Fed t h' where
  accounted := by
    rw [hscheduler, hjournal]
    exact hs.accounted
  arrived camera := by
    rw [hjournal, harrived]
    exact hs.arrived camera
  polled camera := by
    rw [hjournal, hpolled]
    exact hs.polled camera
  raised := hraised

theorem ofKey_singleton (camera cameraId : String) (jpegBytes : List UInt8) :
    Family.ofKey camera [(cameraId, jpegBytes)] =
      if cameraId = camera then [jpegBytes] else [] := by
  split
  · next heq => rw [heq, Family.ofKey_cons_self]; rfl
  · next hne => rw [Family.ofKey_cons_of_ne hne]; rfl

/-- A frame arrives. -/
theorem Fed.onMessage (hs : Fed s h) (topic : String) (payload : List UInt8) :
    Fed (s.onMessage topic payload) (record h s (.onMessage topic payload)) := by
  simp only [record, Dashboard.onMessage]
  cases topicCamera topic with
  | none => exact hs
  | some cameraId =>
    refine ⟨hs.accounted.after (.addFrame cameraId payload), fun camera => ?_, fun camera => ?_,
      hs.raised⟩
    · rw [Scheduler.record_added, Family.ofKey_append, hs.arrived, ofKey_singleton]
      rfl
    · rw [Scheduler.record_returned, hs.polled]
      exact List.append_nil _

/-- A frame is polled, or none waits. -/
theorem Fed.polling (hs : Fed s h) (hpc : s.pollPc = .polling) (hstep : s.poller = some t) :
    Fed t (recordPoller h s) := by
  rw [Dashboard.poller, hpc] at hstep
  obtain rfl := Option.some.inj hstep
  rw [recordPoller, hpc]
  refine ⟨hs.accounted.after .poll, fun camera => ?_, fun camera => ?_, ?_⟩
  · rw [Scheduler.record_added, hs.arrived]
    exact List.append_nil _
  · rw [Scheduler.record_returned, Family.ofKey_append, hs.polled, Scheduler.returned]
    cases s.remoteScheduler.poll.1 with
    | nothing | indexError => rfl
    | frame cameraId jpegBytes => rw [ofKey_singleton]
  · have hpoll := (Scheduler.poll_nothing_iff hs.accounted.wellFormed).1
    dsimp only
    cases hpolled : s.remoteScheduler.poll.1 with
    | nothing | frame => exact PollPc.noConfusion
    | indexError => exact absurd hpolled hpoll

/-- Every step keeps the ledgers. -/
theorem Fed.step (hs : Fed s h) {e : Event} (hstep : s.step e = some t) :
    Fed t (record h s e) := by
  cases e with
  | onMessage topic payload =>
    obtain rfl := Option.some.inj hstep
    exact hs.onMessage topic payload
  | poller =>
    have hpoller : s.poller = some t := hstep
    show Fed t (recordPoller h s)
    cases hpc : s.pollPc with
    | polling => exact hs.polling hpc hpoller
    | head =>
      rw [Dashboard.poller, hpc] at hpoller
      obtain rfl := Option.some.inj hpoller
      rw [recordPoller, hpc]
      refine hs.same rfl rfl rfl rfl ?_
      dsimp only
      split <;> exact PollPc.noConfusion
    | asleep | encoding =>
      rw [Dashboard.poller, hpc] at hpoller
      obtain rfl := Option.some.inj hpoller
      rw [recordPoller, hpc]
      exact hs.same rfl rfl rfl rfl PollPc.noConfusion
    | broadcasting call =>
      simp only [Dashboard.poller, hpc] at hpoller
      split at hpoller
      · obtain rfl := Option.some.inj hpoller
        rw [recordPoller, hpc]
        exact hs.same rfl rfl rfl rfl PollPc.noConfusion
      · cases hpoller
    | ended | raised =>
      rw [Dashboard.poller, hpc] at hpoller
      cases hpoller
  | connect | receive | pong | raise | begin =>
    simp only [Dashboard.step] at hstep
    split at hstep <;> cases hstep <;> exact hs.same rfl rfl rfl rfl hs.raised
  | send call arrived =>
    obtain ⟨room, -, rfl⟩ := Option.map_eq_some_iff.mp hstep
    exact hs.same rfl rfl rfl rfl hs.raised
  | sendWs | stop =>
    obtain rfl := Option.some.inj hstep
    exact hs.same rfl rfl rfl rfl hs.raised

end Fed

/-! ## What holds after every run -/

theorem observe_rooms (remoteCameraIds : List String) (events : List Event) :
    Rooms (observe remoteCameraIds events).state (observe remoteCameraIds events).history :=
  Transition.recorded_invariant (fun _ _ _ _ hs hstep => hs.step hstep)
    (init_rooms remoteCameraIds) events

theorem observe_fed (remoteCameraIds : List String) (events : List Event) :
    Fed (observe remoteCameraIds events).state (observe remoteCameraIds events).history :=
  Transition.recorded_invariant (fun _ _ _ _ hs hstep => hs.step hstep)
    (init_fed remoteCameraIds) events

/-- The frame that a client reads from a broadcast. -/
def read (s : Dashboard) (n : Nat) : Option (String × List UInt8) :=
  (s.room.message? n).bind Message.frame?

/-- The frames of remote cameras that a client read. -/
def received (o : Transition.Recorded Dashboard History) (client : Nat) :
    List (Option (String × List UInt8)) :=
  (o.history.log.arrivals o.history.previews client).map o.state.read

section Received
variable {s : Dashboard} {h : History}

/-- The broadcasts of `poll_remote_frames` have the frames that it polled. -/
theorem Rooms.reads (hs : Rooms s h) :
    h.previews.map s.read ++ s.pollPc.inHand.map some = h.polled.map some := by
  have hframes := congrArg (List.map fun message => Option.bind message Message.frame?) hs.frames
  simp only [List.map_append, List.map_map, Function.comp_def, Option.bind_some,
    Message.frame?_ofFrame] at hframes
  exact hframes

/-- What is on its way to a client, with what was polled and not yet broadcast. -/
theorem Rooms.late (hs : Rooms s h) (client : Nat) :
    (s.room.pending h.previews client).length + s.pollPc.inHand.length ≤ 1 := by
  cases hpending : s.room.pending h.previews client with
  | nil =>
    cases s.pollPc <;> simp [PollPc.inHand]
  | cons n others =>
    have hn : n ∈ s.room.pending h.previews client := hpending ▸ List.mem_cons_self
    obtain ⟨hown, hrest⟩ := List.mem_filter.mp hn
    have hsingle := hs.inTurn.pending_eq hown (of_decide_eq_true hrest)
    rw [hpending] at hsingle
    rw [hsingle]
    rcases hs.waiting n hown with hended | hcall
    · rw [hended] at hrest
      cases hrest
    · cases hpc : s.pollPc <;> rw [hpc] at hcall <;> cases hcall
      exact Nat.le_refl 1

end Received

/-- The frames of remote cameras reach a client as they were polled, from the time when it
connected, in order and without a gap; as long as it is connected, all but one that is on its way.
The frames polled of a camera are some of those that arrived under its topic, in order; each of the
others was displaced by five newer ones or is among the at most five that wait. `poll` never
raises. -/
theorem remote_frames_delivered (remoteCameraIds : List String) (events : List Event) :
    let o := observe remoteCameraIds events
    (∀ client p, o.history.since client = some p →
      received o client <+: (o.history.polled.drop p).map some ∧
      (client ∈ o.state.room.members →
        ∃ late, received o client ++ late = (o.history.polled.drop p).map some ∧
          late.length ≤ 1)) ∧
    (∀ camera,
      let entries := (o.history.journal camera).entries
      entries.map BoundedQueue.Entry.item = Family.ofKey camera o.history.arrived ∧
      (entries.filter BoundedQueue.Entry.taken).map BoundedQueue.Entry.item =
        Family.ofKey camera o.history.polled ∧
      (o.state.remoteScheduler.waiting camera).length ≤ Scheduler.maxlen ∧
      ∀ i entry, entries[i]? = some entry →
        entry.taken = true ∨ Scheduler.maxlen ≤ entry.newer ∨
          entries.length - (o.state.remoteScheduler.waiting camera).length ≤ i) ∧
    o.state.pollPc ≠ .raised := by
  intro o
  have hs := observe_rooms remoteCameraIds events
  have hf := observe_fed remoteCameraIds events
  refine ⟨fun client p hp => ?_, fun camera => ?_, hf.raised⟩
  · have hle : p ≤ o.history.previews.length := by
      rcases hs.inTurn.known client with ⟨q, hq, hle⟩ | ⟨hnone, -⟩
      · exact Option.some.inj (hp.symm.trans hq) ▸ hle
      · exact absurd (hp.symm.trans hnone) nofun
    have hdrop : (o.history.previews.drop p).map o.state.read ++ o.state.pollPc.inHand.map some =
        (o.history.polled.drop p).map some := by
      rw [List.map_drop, List.map_drop, ← hs.reads,
        List.drop_append_of_le_length (by simpa using hle)]
    constructor
    · rw [← hdrop]
      have hgapless := (hs.inTurn.gapless client p hp).map o.state.read
      rw [List.map_append] at hgapless
      exact ((List.prefix_append _ _).trans hgapless).trans (List.prefix_append _ _)
    · intro hmem
      refine ⟨(o.state.room.pending o.history.previews client).map o.state.read ++
        o.state.pollPc.inHand.map some, ?_, ?_⟩
      · rw [← hdrop, ← hs.inTurn.complete client p hp (.inl hmem), List.map_append,
          List.append_assoc]
        rfl
      · simpa using hs.late client
  · have hkept := hf.accounted.kept camera
    refine ⟨hf.arrived camera, ?_, hkept.bounded, fun i entry => hkept.fate⟩
    rw [← hkept.taken_eq, hf.polled]

/-- Every message that the capture thread schedules is broadcast once, in order. A broadcast is sent
once to each client that was connected when it began, or is still to be sent to it, and to nobody
else; and a client that missed a send is no longer connected. -/
theorem broadcasts_once (remoteCameraIds : List String) (events : List Event) :
    let o := observe remoteCameraIds events
    o.history.texts.map o.state.room.message? ++
        o.state.scheduled.map (fun msg => some (.text msg)) =
      o.history.sent.map (fun msg => some (.text msg)) ∧
    (∀ n client, (o.history.log.served n).count client + (o.state.room.rest n).count client =
      if client ∈ o.history.log.recipientsOf n then 1 else 0) ∧
    ∀ s ∈ o.history.log.sends, s.arrived = false → s.recipient ∉ o.state.room.members := by
  intro o
  have hs := observe_rooms remoteCameraIds events
  exact ⟨hs.texts, hs.accounted.once, hs.accounted.failed⟩

end Dashboard
end EdgeSafety
