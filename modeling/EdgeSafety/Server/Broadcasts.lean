import EdgeSafety.Detection.Scheduler
import EdgeSafety.Lib.Base64
import EdgeSafety.Lib.Fanout

/-!
# The broadcasts of the dashboard

The event loop of `main.py` with `dashboard/server.py`. Frames of remote cameras come from the
network thread of `MQTTSubscriber` into the round-robin scheduler, `poll_remote_frames` broadcasts
them one after another, and the capture thread schedules broadcasts of its own (`_send_ws`). Clients
connect and disconnect at any time. A step of the event loop is what happens between two points at
which a coroutine waits, or less. A task that is cancelled makes no more steps.
-/

namespace EdgeSafety

/-- The messages to the clients of the dashboard. -/
inductive Message
  /-- `{"type": "preview", "camera_id": camera_id, "frame_base64": b64}`. -/
  | preview (cameraId frameBase64 : String)
  /-- What the capture thread sends. -/
  | text (msg : String)

namespace Message

/-- The message with a frame. -/
def ofFrame (cameraId : String) (jpegBytes : List UInt8) : Message :=
  .preview cameraId (String.ofList (Base64.encode jpegBytes))

/-- The frame that a client reads from a message. -/
def frame? : Message → Option (String × List UInt8)
  | .preview cameraId frameBase64 => (Base64.decode frameBase64.toList).map (cameraId, ·)
  | .text _ => none

theorem frame?_ofFrame (cameraId : String) (jpegBytes : List UInt8) :
    (ofFrame cameraId jpegBytes).frame? = some (cameraId, jpegBytes) := by
  rw [ofFrame, frame?, String.toList_ofList, Base64.decode_encode, Option.map_some]

end Message

/-- The camera that `_on_message` finds in a topic. -/
def topicCamera (topic : String) : Option String :=
  match topic.toList.splitOn '/' with
  | _ :: cameraId :: _ :: _ => some (String.ofList cameraId)
  | _ => none

/-- The topic to which `MQTTPublisher` publishes the frames of a camera, with the default
template. -/
def frameTopic (cameraId : String) : String := "cv/" ++ cameraId ++ "/frame"

/-- The subscriber finds the camera that published, unless its id has a slash: then it takes the
part before the first one for the camera. -/
theorem topicCamera_frameTopic (cameraId : String) :
    topicCamera (frameTopic cameraId) = some cameraId ↔ '/' ∉ cameraId.toList := by
  have hsplit : (frameTopic cameraId).toList.splitOn '/' =
      ['c', 'v'] :: (cameraId.toList.splitOn '/' ++ [['f', 'r', 'a', 'm', 'e']]) := by
    have htopic : (frameTopic cameraId).toList =
        ['c', 'v'] ++ '/' :: (cameraId.toList ++ '/' :: ['f', 'r', 'a', 'm', 'e']) := by
      simp [frameTopic]
    rw [htopic, List.splitOn_append_cons_self, List.splitOn_append_cons_self]
    rfl
  rw [topicCamera, hsplit]
  constructor
  · intro hcamera hslash
    obtain ⟨first, others, heq, hfirst⟩ := List.eq_append_cons_of_mem hslash
    rw [heq, List.splitOn_append_cons_self, List.splitOn_eq_singleton hfirst] at hcamera
    have hfound : some (String.ofList first) = some cameraId := by
      cases hrest : others.splitOn '/' <;> rw [hrest] at hcamera <;> exact hcamera
    have hsame : first = first ++ '/' :: others := by
      rw [← heq, ← Option.some.inj hfound]
      exact String.toList_ofList.symm
    have hlength := congrArg List.length hsame
    simp at hlength
  · intro hslash
    rw [List.splitOn_eq_singleton hslash]
    exact congrArg some (String.ofList_toList)

/-- Where a client's `ws_dashboard` is. -/
inductive HandlerPc
  /-- The client has not connected yet. -/
  | new
  | receiving
  /-- Sending `pong`. -/
  | ponging
  | ended

/-- Where `poll_remote_frames` is. -/
inductive PollPc
  /-- Before the stop event is looked at. -/
  | head
  | polling
  | asleep
  | encoding (cameraId : String) (jpegBytes : List UInt8)
  /-- In the call of `broadcast_async` with this number. -/
  | broadcasting (call : Nat)
  | ended
  /-- `poll` raised. -/
  | raised

/-- The broadcast that `poll_remote_frames` waits for. -/
def PollPc.call? : PollPc → Option Nat
  | .broadcasting call => some call
  | _ => none

/-- The frame that `poll_remote_frames` has polled and not begun to broadcast. -/
def PollPc.inHand : PollPc → List (String × List UInt8)
  | .encoding cameraId jpegBytes => [(cameraId, jpegBytes)]
  | _ => []

/-- The event loop of the dashboard, and the scheduler of the remote cameras. -/
structure Dashboard where
  /-- `ws_manager`: its connections, and the calls of `broadcast_async`. -/
  room : Fanout.Room Nat Message
  handlers : Nat → HandlerPc
  /-- What `run_coroutine_threadsafe` was given and the loop has not begun. -/
  scheduled : List String
  remoteScheduler : Scheduler (List UInt8)
  stopEvent : Bool
  pollPc : PollPc

namespace Dashboard

/-- What happens next. -/
inductive Event
  | connect (client : Nat)
  /-- `receive_text` returns. -/
  | receive (client : Nat) (data : String)
  | pong (client : Nat)
  /-- What the handler waits for raises, be it `WebSocketDisconnect` or another exception. -/
  | raise (client : Nat)
  /-- A frame arrives in the network thread. -/
  | onMessage (topic : String) (payload : List UInt8)
  /-- The capture thread schedules a broadcast. -/
  | sendWs (msg : String)
  /-- The loop begins the broadcast that was scheduled first. -/
  | begin
  /-- The send of a broadcast that is under way returns or raises. -/
  | send (call : Nat) (arrived : Bool)
  | poller
  | stop

/-- The state in which the loop starts. -/
def init (remoteCameraIds : List String) : Dashboard where
  room := {}
  handlers _ := .new
  scheduled := []
  remoteScheduler := remoteCameraIds.foldl Scheduler.registerCamera (Scheduler.init _)
  stopEvent := false
  pollPc := .head

/-- `_on_message`. -/
def onMessage (s : Dashboard) (topic : String) (payload : List UInt8) : Dashboard :=
  match topicCamera topic with
  | some cameraId => { s with remoteScheduler := s.remoteScheduler.addFrame cameraId payload }
  | none => s

/-- One step of `poll_remote_frames`. -/
def poller (s : Dashboard) : Option Dashboard :=
  match s.pollPc with
  | .head => some { s with pollPc := if s.stopEvent then .ended else .polling }
  | .polling =>
    some { s with
      remoteScheduler := s.remoteScheduler.poll.2
      pollPc :=
        match s.remoteScheduler.poll.1 with
        | .nothing => .asleep
        | .frame cameraId jpegBytes => .encoding cameraId jpegBytes
        | .indexError => .raised }
  | .asleep => some { s with pollPc := .head }
  | .encoding cameraId jpegBytes =>
    some { s with
      room := s.room.start (.ofFrame cameraId jpegBytes)
      pollPc := .broadcasting s.room.calls.length }
  | .broadcasting call => if s.room.rest call = [] then some { s with pollPc := .head } else none
  | .ended | .raised => none

/-- A client's handler goes on at `pc`. -/
def handlerTo (s : Dashboard) (client : Nat) (pc : HandlerPc) : Dashboard :=
  { s with handlers := Function.update s.handlers client pc }

/-- One step of the system. -/
def step (s : Dashboard) : Event → Option Dashboard
  | .connect client =>
    match s.handlers client with
    | .new => some ({ s with room := s.room.join client }.handlerTo client .receiving)
    | _ => none
  | .receive client data =>
    match s.handlers client with
    | .receiving => some (s.handlerTo client (if data = "ping" then .ponging else .receiving))
    | _ => none
  | .pong client =>
    match s.handlers client with
    | .ponging => some (s.handlerTo client .receiving)
    | _ => none
  | .raise client =>
    match s.handlers client with
    | .receiving | .ponging =>
      some ({ s with room := s.room.leave client }.handlerTo client .ended)
    | _ => none
  | .onMessage topic payload => some (s.onMessage topic payload)
  | .sendWs msg => some { s with scheduled := s.scheduled ++ [msg] }
  | .begin =>
    match s.scheduled with
    | msg :: rest => some { s with room := s.room.start (.text msg), scheduled := rest }
    | [] => none
  | .send call arrived => (s.room.send call arrived).map fun room => { s with room }
  | .poller => s.poller
  | .stop => some { s with stopEvent := true }

/-- What happened: the log of the broadcasts, the ledgers of the scheduler, the frames that arrived
and that were polled with their cameras, what the capture thread scheduled, the broadcasts of
`poll_remote_frames` and of the capture thread, and how many of the former there were when a client
connected. -/
structure History where
  log : Fanout.Log Nat := {}
  journal : Scheduler.Journal (List UInt8) := fun _ => .empty
  arrived : List (String × List UInt8) := []
  polled : List (String × List UInt8) := []
  sent : List String := []
  previews : List Nat := []
  texts : List Nat := []
  since : Nat → Option Nat := fun _ => none

/-- What a step of `poll_remote_frames` adds. -/
def recordPoller (h : History) (s : Dashboard) : History :=
  match s.pollPc with
  | .polling =>
    { h with
      journal := Scheduler.record h.journal s.remoteScheduler .poll
      polled := h.polled ++
        match s.remoteScheduler.poll.1 with
        | .frame cameraId jpegBytes => [(cameraId, jpegBytes)]
        | _ => [] }
  | .encoding _ _ =>
    { h with
      log := h.log.start s.room.members
      previews := h.previews ++ [s.room.calls.length] }
  | _ => h

/-- What a step adds. -/
def record (h : History) (s : Dashboard) : Event → History
  | .connect client =>
    { h with
      log := h.log.join client
      since := Function.update h.since client (some h.previews.length) }
  | .onMessage topic payload =>
    match topicCamera topic with
    | some cameraId =>
      { h with
        journal := Scheduler.record h.journal s.remoteScheduler (.addFrame cameraId payload)
        arrived := h.arrived ++ [(cameraId, payload)] }
    | none => h
  | .sendWs msg => { h with sent := h.sent ++ [msg] }
  | .begin =>
    { h with log := h.log.start s.room.members, texts := h.texts ++ [s.room.calls.length] }
  | .send call arrived => { h with log := h.log.send call (s.room.rest call) arrived }
  | .poller => recordPoller h s
  | _ => h

/-- The dashboard after a run, with what happened. -/
def observe (remoteCameraIds : List String) (events : List Event) :
    Transition.Recorded Dashboard History :=
  Transition.exec (Transition.recorded step record) ⟨init remoteCameraIds, {}⟩ events

end Dashboard

end EdgeSafety
