import Mathlib.Logic.Function.Basic
import EdgeSafety.Lib.Transition
import EdgeSafety.Shared.NdArray

/-!
# The previews of the dashboard

`push_preview` and `dashboard_ws` of `gpu/web_server.py`: previews go through one queue of at most
two to all dashboard clients, which wait for one event. A step of a party is one access to the
queue, the event or the list of connections, or a `send_json`. A history lists who was connected
when a preview was put, and what became of each preview.
-/

namespace EdgeSafety.WebServer

/-- A preview in the queue. -/
structure Preview where
  cameraId : String
  frameBase64 : String

/-- Where a call of `push_preview` is. -/
inductive PushPc
  /-- No call is under way. -/
  | idle
  | full (cameraId : String) (frameBgr : NdArray)
  | evict (cameraId : String) (frameBgr : NdArray)
  | encode (cameraId : String) (frameBgr : NdArray)
  | put (preview : Preview)
  | set

/-- Where a client is in `dashboard_ws`. -/
inductive ClientPc
  /-- Not connected yet. -/
  | new
  /-- About to wait for the event. -/
  | wait
  /-- In `_preview_event.wait`, which found the event cleared. -/
  | blocked
  | clear
  | drain
  | send (preview : Preview)
  /-- The loop ended. -/
  | ended

/-- The module's globals and where everyone is. -/
structure Hub where
  previewQueue : List Preview
  previewEvent : Bool
  /-- `ws_manager._connections`. -/
  connections : List Nat
  pushers : Nat → PushPc
  clients : Nat → ClientPc

/-- `Queue(maxsize=2)`. -/
def maxsize : Nat := 2

/-- What happens next. -/
inductive Event
  | pushPreview (pusher : Nat) (cameraId : String) (frameBgr : NdArray)
  /-- A call of `push_preview` makes a step. -/
  | pusher (pusher : Nat)
  /-- A client connects. -/
  | connect (client : Nat)
  /-- A client makes a step; a send is one that succeeds. -/
  | client (client : Nat)
  /-- A send raises; `isDisconnect` tells `WebSocketDisconnect` from other exceptions. -/
  | sendRaises (client : Nat) (isDisconnect : Bool)

namespace Hub

variable {encode : NdArray → Option String}

/-- The module is imported. -/
def init : Hub := ⟨[], false, [], fun _ => .idle, fun _ => .new⟩

/-- A call of `push_preview` goes on at `pc`. -/
def pusherTo (s : Hub) (pusher : Nat) (pc : PushPc) : Hub :=
  { s with pushers := Function.update s.pushers pusher pc }

/-- A client goes on at `pc`. -/
def clientTo (s : Hub) (client : Nat) (pc : ClientPc) : Hub :=
  { s with clients := Function.update s.clients client pc }

/-- `get_nowait`, once it is known what is left of the queue. -/
def withQueue (s : Hub) (previewQueue : List Preview) : Hub :=
  { s with previewQueue := previewQueue }

/-- `_preview_event.set()` wakes everyone who is in `wait`. -/
def setEvent (s : Hub) : Hub :=
  { s with
    previewEvent := true
    clients := fun client =>
      match s.clients client with
      | .blocked => .clear
      | pc => pc }

/-- `_preview_event.clear()`. -/
def clearEvent (s : Hub) : Hub := { s with previewEvent := false }

/-- `ws_manager.connect`. -/
def connect (s : Hub) (client : Nat) : Hub := { s with connections := s.connections ++ [client] }

/-- `ws_manager.disconnect`. -/
def disconnect (s : Hub) (client : Nat) : Hub :=
  { s with connections := s.connections.erase client }

/-- One step of `push_preview`; `encode` is `cv2.imencode` and `base64.b64encode`. -/
def advancePusher (encode : NdArray → Option String) (s : Hub) (pusher : Nat) :
    PushPc → Option Hub
  | .idle => none
  | .full cameraId frameBgr =>
    some (s.pusherTo pusher
      (if s.previewQueue.length ≥ maxsize then .evict cameraId frameBgr
        else .encode cameraId frameBgr))
  -- `Empty` is caught
  | .evict cameraId frameBgr =>
    some ((s.withQueue s.previewQueue.tail).pusherTo pusher (.encode cameraId frameBgr))
  | .encode cameraId frameBgr =>
    some (s.pusherTo pusher
      (match encode frameBgr with
      | some b64 => .put ⟨cameraId, b64⟩
      | none => .idle))
  | .put preview =>
    -- `put_nowait` raises `Full` otherwise
    if s.previewQueue.length < maxsize then
      some ((s.withQueue (s.previewQueue ++ [preview])).pusherTo pusher .set)
    else some (s.pusherTo pusher .idle)
  | .set => some (s.setEvent.pusherTo pusher .idle)

/-- One step of `dashboard_ws`. -/
def advanceClient (s : Hub) (client : Nat) : ClientPc → Option Hub
  | .new => none
  | .wait => some (s.clientTo client (if s.previewEvent then .clear else .blocked))
  | .blocked => none
  | .clear => some (s.clearEvent.clientTo client .drain)
  | .drain =>
    match s.previewQueue with
    | preview :: rest => some ((s.withQueue rest).clientTo client (.send preview))
    | [] => some (s.clientTo client .wait)
  | .send _ => some (s.clientTo client .drain)
  | .ended => none

/-- One step of the system. -/
def step (encode : NdArray → Option String) (s : Hub) : Event → Option Hub
  | .pushPreview pusher cameraId frameBgr =>
    match s.pushers pusher with
    | .idle => some (s.pusherTo pusher (.full cameraId frameBgr))
    | _ => none
  | .pusher pusher => s.advancePusher encode pusher (s.pushers pusher)
  | .connect client =>
    match s.clients client with
    | .new => some ((s.connect client).clientTo client .wait)
    | _ => none
  | .client client => s.advanceClient client (s.clients client)
  | .sendRaises client isDisconnect =>
    match s.clients client with
    | .send _ =>
      some ((if isDisconnect then s.disconnect client else s).clientTo client .ended)
    | _ => none

end Hub

/-- The previews in the order in which they were put: who was connected then, which were evicted,
which were sent to whom, and which one a client has in its hand. -/
structure PreviewLog where
  connected : List (List Nat)
  evicted : List Nat
  sent : List (Nat × Nat)
  held : Nat → Option Nat

namespace PreviewLog

/-- Nothing happened yet. -/
def empty : PreviewLog := ⟨[], [], [], fun _ => none⟩

/-- The number of the oldest preview in a queue. -/
def oldest (l : PreviewLog) (s : Hub) : Nat := l.connected.length - s.previewQueue.length

/-- What a step adds. -/
def record (l : PreviewLog) (s : Hub) : Event → PreviewLog
  | .pusher pusher =>
    match s.pushers pusher with
    | .evict _ _ =>
      if s.previewQueue = [] then l else { l with evicted := l.evicted ++ [l.oldest s] }
    | .put _ =>
      if s.previewQueue.length < maxsize then
        { l with connected := l.connected ++ [s.connections] }
      else l
    | _ => l
  | .client client =>
    match s.clients client with
    | .drain =>
      if s.previewQueue = [] then l
      else { l with held := Function.update l.held client (some (l.oldest s)) }
    | .send _ =>
      { l with
        sent := l.sent ++ ((l.held client).map (client, ·)).toList
        held := Function.update l.held client none }
    | _ => l
  | .sendRaises client _ =>
    match s.clients client with
    | .send _ => { l with held := Function.update l.held client none }
    | _ => l
  | _ => l

end PreviewLog

/-- Every preview that left the queue and was not evicted was sent to each client that was connected
when it was put, or that client has it in its hand. -/
def Delivered (s : Hub) (l : PreviewLog) : Prop :=
  ∀ n connected, l.connected[n]? = some connected → n ∉ l.evicted → n < l.oldest s →
    ∀ client ∈ connected, (client, n) ∈ l.sent ∨ l.held client = some n

/-- The client waits, and the event is cleared. -/
def WaitsInVain (s : Hub) (client : Nat) : Prop :=
  (s.clients client = .wait ∨ s.clients client = .blocked) ∧ s.previewEvent = false

/-- With a single client no preview stays in the queue while that client waits on a cleared event
and no call of `push_preview` is under way. -/
def NothingForgotten (s : Hub) : Prop :=
  ∀ client, (∀ other, other ≠ client → s.clients other = .new ∨ s.clients other = .ended) →
    WaitsInVain s client → (∀ pusher, s.pushers pusher = .idle) → s.previewQueue = []

/-- The client will look into the queue before it waits again. -/
def Awake : ClientPc → Prop
  | .clear | .drain | .send _ => True
  | _ => False

/-- Whoever takes a preview is the only client that was connected when it was put; and a send that
raises loses no preview that was meant for its client, and leaves the queue to someone. -/
def ForOneClient (s : Hub) (l : PreviewLog) : Event → Prop
  | .client client =>
    s.clients client = .drain → s.previewQueue ≠ [] →
      ∀ connected, l.connected[l.oldest s]? = some connected →
        ∀ other ∈ connected, other = client
  | .sendRaises client _ =>
    (∀ n connected, l.held client = some n → l.connected[n]? = some connected →
      client ∉ connected) ∧
    (s.previewQueue = [] ∨ s.previewEvent = true ∨ (∃ pusher, s.pushers pusher = .set) ∨
      ∃ other, other ≠ client ∧ Awake (s.clients other))
  | _ => True

/-! ## What every step keeps -/

/-- A preview in the queue has been or will be noticed: the event is set or about to be, or someone
is awake. -/
def Noticed (s : Hub) : Prop :=
  s.previewQueue ≠ [] →
    s.previewEvent = true ∨ (∃ pusher, s.pushers pusher = .set) ∨
      ∃ client, Awake (s.clients client)

/-- The invariant. -/
structure Sound (s : Hub) (l : PreviewLog) : Prop where
  length : s.previewQueue.length ≤ l.connected.length
  held : ∀ client n, l.held client = some n → ∃ preview, s.clients client = .send preview
  delivered : Delivered s l
  noticed : Noticed s

theorem init_sound : Sound Hub.init PreviewLog.empty where
  length := Nat.le_refl 0
  held _ _ h := by cases h
  delivered _ _ h := by cases h
  noticed h := absurd rfl h

/-- Nobody forgets a preview. -/
theorem Noticed.nothingForgotten {s : Hub} (h : Noticed s) : NothingForgotten s := by
  intro client hothers hwaits hidle
  by_contra hqueue
  rcases h hqueue with hevent | ⟨pusher, hset⟩ | ⟨other, hawake⟩
  · rw [hwaits.2] at hevent
    cases hevent
  · rw [hidle pusher] at hset
    cases hset
  · by_cases hother : other = client
    · subst hother
      rcases hwaits.1 with hpc | hpc <;> rw [hpc] at hawake <;> exact hawake
    · rcases hothers other hother with hpc | hpc <;> rw [hpc] at hawake <;> exact hawake

section Step
variable {s t : Hub} {l : PreviewLog} {client pusher : Nat}

/-- A step that changes neither the queue nor the log. -/
theorem Sound.same (h : Sound s l) (hqueue : t.previewQueue = s.previewQueue)
    (hsend : ∀ other preview, s.clients other = .send preview → t.clients other = .send preview)
    (hnoticed : Noticed t) : Sound t l where
  length := by
    rw [hqueue]
    exact h.length
  held other n hheld := by
    obtain ⟨preview, hpc⟩ := h.held other n hheld
    exact ⟨preview, hsend other preview hpc⟩
  delivered := by
    unfold Delivered PreviewLog.oldest
    rw [hqueue]
    exact h.delivered
  noticed := hnoticed

theorem Noticed.pusherTo (h : Noticed s) {pc : PushPc} (hpc : s.pushers pusher ≠ .set) :
    Noticed (s.pusherTo pusher pc) := by
  intro hqueue
  rcases h hqueue with hevent | ⟨other, hset⟩ | hawake
  · exact Or.inl hevent
  · refine Or.inr (Or.inl ⟨other, ?_⟩)
    have hne : other ≠ pusher := by
      rintro rfl
      exact hpc hset
    show Function.update s.pushers pusher pc other = _
    rw [Function.update_of_ne hne, hset]
  · exact Or.inr (Or.inr hawake)

/-- A client that was not awake goes on. -/
theorem Noticed.clientTo (h : Noticed s) {pc : ClientPc} (hpc : ¬ Awake (s.clients client)) :
    Noticed (s.clientTo client pc) := by
  intro hqueue
  rcases h hqueue with hevent | hset | ⟨other, hawake⟩
  · exact Or.inl hevent
  · exact Or.inr (Or.inl hset)
  · refine Or.inr (Or.inr ⟨other, ?_⟩)
    have hne : other ≠ client := by
      rintro rfl
      exact hpc hawake
    show Awake (Function.update s.clients client pc other)
    rwa [Function.update_of_ne hne]

/-- A client that is awake now. -/
theorem noticed_of_awake {pc : ClientPc} (hpc : Awake pc) : Noticed (s.clientTo client pc) := by
  intro _
  refine Or.inr (Or.inr ⟨client, ?_⟩)
  show Awake (Function.update s.clients client pc client)
  rwa [Function.update_self]

/-- A client that is not in a send goes on. -/
theorem send_clientTo {pc : ClientPc} (hpc : ∀ preview, s.clients client ≠ .send preview)
    (other : Nat) (preview : Preview) (h : s.clients other = .send preview) :
    (s.clientTo client pc).clients other = .send preview := by
  have hne : other ≠ client := by
    rintro rfl
    exact hpc preview h
  show Function.update s.clients client pc other = _
  rw [Function.update_of_ne hne, h]

/-- The oldest preview is evicted. -/
theorem Sound.evict (h : Sound s l) (hpc : s.pushers pusher ≠ .set) {pc : PushPc} :
    Sound ((s.withQueue s.previewQueue.tail).pusherTo pusher pc)
      (if s.previewQueue = [] then l else { l with evicted := l.evicted ++ [l.oldest s] }) := by
  have hnoticed : Noticed ((s.withQueue s.previewQueue.tail).pusherTo pusher pc) := by
    apply Noticed.pusherTo (s := s.withQueue s.previewQueue.tail) ?_ hpc
    intro htail
    apply h.noticed
    rintro hempty
    rw [Hub.withQueue, hempty] at htail
    exact htail rfl
  cases hqueue : s.previewQueue with
  | nil =>
    rw [hqueue] at hnoticed
    rw [if_pos rfl]
    exact h.same (by rw [hqueue]; rfl) (fun _ _ hsend => hsend) hnoticed
  | cons preview rest =>
    rw [hqueue] at hnoticed
    have hlength := h.length
    rw [hqueue, List.length_cons] at hlength
    rw [if_neg (List.cons_ne_nil _ _)]
    refine ⟨by show rest.length ≤ l.connected.length; omega, h.held, ?_, hnoticed⟩
    intro n connected hconnected hkept hn
    have hkept : n ∉ l.evicted ++ [l.oldest s] := hkept
    rw [List.mem_append, List.mem_singleton, not_or] at hkept
    have hn : n < l.connected.length - rest.length := hn
    refine h.delivered n connected hconnected hkept.1 ?_
    have hne := hkept.2
    unfold PreviewLog.oldest at hne ⊢
    rw [hqueue, List.length_cons] at hne ⊢
    omega

/-- A preview is put. -/
theorem Sound.put (h : Sound s l) (preview : Preview) :
    Sound ((s.withQueue (s.previewQueue ++ [preview])).pusherTo pusher .set)
      { l with connected := l.connected ++ [s.connections] } where
  length := by
    have hlength := h.length
    show (s.previewQueue ++ [preview]).length ≤ (l.connected ++ [s.connections]).length
    simpa using hlength
  held := h.held
  delivered := by
    intro n connected hconnected hkept hn
    have hn : n < (l.connected ++ [s.connections]).length -
        (s.previewQueue ++ [preview]).length := hn
    rw [List.length_append, List.length_append, List.length_singleton, List.length_singleton,
      Nat.add_sub_add_right] at hn
    have hold : n < l.connected.length := by omega
    have hconnected : (l.connected ++ [s.connections])[n]? = some connected := hconnected
    rw [List.getElem?_append_left hold] at hconnected
    exact h.delivered n connected hconnected hkept hn
  noticed _ := Or.inr (Or.inl ⟨pusher, Function.update_self ..⟩)

theorem Sound.pusherStep {encode : NdArray → Option String} (h : Sound s l)
    (ht : s.advancePusher encode pusher (s.pushers pusher) = some t) :
    Sound t (l.record s (.pusher pusher)) := by
  cases hpc : s.pushers pusher with
  | idle =>
    rw [hpc] at ht
    cases ht
  | full cameraId frameBgr =>
    rw [hpc] at ht
    obtain rfl := Option.some.inj ht
    simp only [PreviewLog.record, hpc]
    exact h.same rfl (fun _ _ hsend => hsend) (h.noticed.pusherTo (by rw [hpc]; nofun))
  | evict cameraId frameBgr =>
    rw [hpc] at ht
    obtain rfl := Option.some.inj ht
    simp only [PreviewLog.record, hpc]
    exact h.evict (by rw [hpc]; nofun)
  | encode cameraId frameBgr =>
    rw [hpc] at ht
    obtain rfl := Option.some.inj ht
    simp only [PreviewLog.record, hpc]
    exact h.same rfl (fun _ _ hsend => hsend) (h.noticed.pusherTo (by rw [hpc]; nofun))
  | put preview =>
    rw [hpc] at ht
    simp only [Hub.advancePusher] at ht
    simp only [PreviewLog.record, hpc]
    split at ht
    · next hroom =>
      obtain rfl := Option.some.inj ht
      rw [if_pos hroom]
      exact h.put preview
    · next hfull =>
      obtain rfl := Option.some.inj ht
      rw [if_neg hfull]
      exact h.same rfl (fun _ _ hsend => hsend) (h.noticed.pusherTo (by rw [hpc]; nofun))
  | set =>
    rw [hpc] at ht
    obtain rfl := Option.some.inj ht
    simp only [PreviewLog.record, hpc]
    refine h.same rfl ?_ (fun _ => Or.inl rfl)
    intro other preview hsend
    simp only [Hub.setEvent, Hub.pusherTo, hsend]

/-- The oldest preview is taken by the only client that it is for. -/
theorem Sound.take (h : Sound s l) (hpc : s.clients client = .drain) {preview : Preview}
    {rest : List Preview} (hqueue : s.previewQueue = preview :: rest)
    (hone : ∀ connected, l.connected[l.oldest s]? = some connected →
      ∀ other ∈ connected, other = client) :
    Sound ((s.withQueue rest).clientTo client (.send preview))
      { l with held := Function.update l.held client (some (l.oldest s)) } where
  length := by
    have hlength := h.length
    rw [hqueue, List.length_cons] at hlength
    show rest.length ≤ l.connected.length
    omega
  held other n hheld := by
    show ∃ preview', Function.update s.clients client (.send preview) other = .send preview'
    by_cases hother : other = client
    · rw [hother, Function.update_self]
      exact ⟨preview, rfl⟩
    · have hheld : Function.update l.held client (some (l.oldest s)) other = some n := hheld
      rw [Function.update_of_ne hother] at hheld ⊢
      exact h.held other n hheld
  delivered := by
    intro n connected hconnected hkept hn other hother
    have hlength := h.length
    have hn : n < l.connected.length - rest.length := hn
    rw [hqueue, List.length_cons] at hlength
    by_cases hoid : n = l.oldest s
    · right
      subst hoid
      obtain rfl := hone connected hconnected other hother
      exact Function.update_self ..
    · have hn : n < l.oldest s := by
        unfold PreviewLog.oldest at hoid ⊢
        rw [hqueue, List.length_cons] at hoid ⊢
        omega
      rcases h.delivered n connected hconnected hkept hn other hother with hsent | hheld
      · exact Or.inl hsent
      · right
        have hne : other ≠ client := by
          rintro rfl
          obtain ⟨preview', hsend⟩ := h.held other n hheld
          rw [hpc] at hsend
          cases hsend
        exact (Function.update_of_ne hne ..).trans hheld
  noticed := noticed_of_awake trivial

/-- Who still holds a preview after a client has put its own down is about to send it. -/
theorem Sound.held_after (h : Sound s l) {pc : ClientPc} (other n : Nat)
    (hheld : Function.update l.held client none other = some n) :
    ∃ preview, Function.update s.clients client pc other = .send preview := by
  by_cases hne : other = client
  · subst hne
    rw [Function.update_self] at hheld
    cases hheld
  · rw [Function.update_of_ne hne] at hheld ⊢
    exact h.held other n hheld

theorem Sound.sent (h : Sound s l) {preview : Preview} (hpc : s.clients client = .send preview) :
    Sound (s.clientTo client .drain)
      { l with
        sent := l.sent ++ ((l.held client).map (client, ·)).toList
        held := Function.update l.held client none } where
  length := h.length
  held := h.held_after
  delivered := by
    intro n connected hconnected hkept hn other hother
    rcases h.delivered n connected hconnected hkept hn other hother with hsent | hheld
    · exact Or.inl (List.mem_append_left _ hsent)
    · by_cases hne : other = client
      · subst hne
        refine Or.inl (List.mem_append_right _ ?_)
        simp [hheld]
      · exact Or.inr ((Function.update_of_ne hne ..).trans hheld)
  noticed := noticed_of_awake trivial

theorem Sound.clientStep (h : Sound s l) (hone : ForOneClient s l (.client client))
    (ht : s.advanceClient client (s.clients client) = some t) :
    Sound t (l.record s (.client client)) := by
  cases hpc : s.clients client with
  | new | blocked | ended =>
    rw [hpc] at ht
    cases ht
  | wait =>
    rw [hpc] at ht
    obtain rfl := Option.some.inj ht
    simp only [PreviewLog.record, hpc]
    exact h.same rfl (send_clientTo (by rw [hpc]; nofun))
      (h.noticed.clientTo (by rw [hpc]; exact id))
  | clear =>
    rw [hpc] at ht
    obtain rfl := Option.some.inj ht
    simp only [PreviewLog.record, hpc]
    exact h.same rfl (send_clientTo (s := s.clearEvent) (by
      show ∀ preview, s.clients client ≠ _
      rw [hpc]
      nofun)) (noticed_of_awake trivial)
  | drain =>
    rw [hpc] at ht
    simp only [Hub.advanceClient] at ht
    simp only [PreviewLog.record, hpc]
    split at ht
    · next preview rest hqueue =>
      obtain rfl := Option.some.inj ht
      rw [if_neg (by rw [hqueue]; exact List.cons_ne_nil _ _)]
      exact h.take hpc hqueue (hone hpc (by rw [hqueue]; exact List.cons_ne_nil _ _))
    · next hqueue =>
      obtain rfl := Option.some.inj ht
      rw [if_pos hqueue]
      exact h.same rfl (send_clientTo (by rw [hpc]; nofun)) (fun hne => absurd hqueue hne)
  | send preview =>
    rw [hpc] at ht
    obtain rfl := Option.some.inj ht
    simp only [PreviewLog.record, hpc]
    exact h.sent hpc

/-- A send raises, of a preview that was not meant for its client. -/
theorem Sound.sendRaises (h : Sound s l) {isDisconnect : Bool}
    (hone : ForOneClient s l (.sendRaises client isDisconnect)) {connections : List Nat} :
    Sound ({ s with connections := connections }.clientTo client .ended)
      { l with held := Function.update l.held client none } where
  length := h.length
  held := h.held_after
  delivered := by
    intro n connected hconnected hkept hn other hother
    rcases h.delivered n connected hconnected hkept hn other hother with hsent | hheld
    · exact Or.inl hsent
    · have hne : other ≠ client := by
        rintro rfl
        exact hone.1 n connected hheld hconnected hother
      exact Or.inr ((Function.update_of_ne hne ..).trans hheld)
  noticed := by
    intro hqueue
    rcases hone.2 with hempty | hevent | hset | ⟨other, hne, hawake⟩
    · exact absurd hempty hqueue
    · exact Or.inl hevent
    · exact Or.inr (Or.inl hset)
    · refine Or.inr (Or.inr ⟨other, ?_⟩)
      show Awake (Function.update s.clients client .ended other)
      rwa [Function.update_of_ne hne]

/-- Every step that meets the condition keeps the invariant. -/
theorem Sound.step {encode : NdArray → Option String} {e : Event} (h : Sound s l)
    (hone : ForOneClient s l e) (ht : s.step encode e = some t) : Sound t (l.record s e) := by
  cases e with
  | pushPreview pusher cameraId frameBgr =>
    simp only [Hub.step] at ht
    split at ht
    · next hpc =>
      obtain rfl := Option.some.inj ht
      exact h.same rfl (fun _ _ hsend => hsend) (h.noticed.pusherTo (by rw [hpc]; nofun))
    · cases ht
  | pusher pusher => exact h.pusherStep ht
  | connect client =>
    simp only [Hub.step] at ht
    split at ht
    · next hpc =>
      obtain rfl := Option.some.inj ht
      exact h.same rfl (send_clientTo (s := s.connect client) (by
        show ∀ preview, s.clients client ≠ _
        rw [hpc]
        nofun)) (Noticed.clientTo (s := s.connect client) h.noticed (by
          show ¬ Awake (s.clients client)
          rw [hpc]
          exact id))
    · cases ht
  | client client => exact h.clientStep hone ht
  | sendRaises client isDisconnect =>
    simp only [Hub.step] at ht
    split at ht
    · next preview hpc =>
      obtain rfl := Option.some.inj ht
      simp only [PreviewLog.record, hpc]
      cases isDisconnect with
      | true => exact h.sendRaises hone
      | false => exact h.sendRaises hone
    · cases ht

end Step

/-! ## Runs -/

/-- The steps of a run, with the history. -/
def observed (encode : NdArray → Option String) (events : List Event) :
    List (Transition.Taken (Transition.Recorded Hub PreviewLog) Event) :=
  Transition.steps (Transition.recorded (Hub.step encode) PreviewLog.record)
    ⟨Hub.init, PreviewLog.empty⟩ events

/-- The state in which a run ends, with the history. -/
def ends (encode : NdArray → Option String) (events : List Event) :
    Transition.Recorded Hub PreviewLog :=
  Transition.exec (Transition.recorded (Hub.step encode) PreviewLog.record)
    ⟨Hub.init, PreviewLog.empty⟩ events

/-- Only one client ever connects. -/
structure Single (client : Nat) (s : Hub) (l : PreviewLog) : Prop where
  others : ∀ other, other ≠ client → s.clients other = .new
  connections : ∀ other ∈ s.connections, other = client
  connected : ∀ connected ∈ l.connected, ∀ other ∈ connected, other = client

/-- An event of such a run; no send raises. -/
def OfSingle (client : Nat) : Event → Prop
  | .connect other => other = client
  | .sendRaises _ _ => False
  | _ => True

theorem advancePusher_others {encode : NdArray → Option String} {s t : Hub} {pusher : Nat}
    {pc : PushPc} (h : s.advancePusher encode pusher pc = some t) :
    t.connections = s.connections ∧ ∀ other, s.clients other = .new → t.clients other = .new := by
  cases pc with
  | idle => cases h
  | full | evict | encode =>
    obtain rfl := Option.some.inj h
    exact ⟨rfl, fun _ hnew => hnew⟩
  | put preview =>
    simp only [Hub.advancePusher] at h
    split at h <;> obtain rfl := Option.some.inj h <;> exact ⟨rfl, fun _ hnew => hnew⟩
  | set =>
    obtain rfl := Option.some.inj h
    refine ⟨rfl, ?_⟩
    intro other hnew
    simp only [Hub.pusherTo, Hub.setEvent, hnew]

theorem advanceClient_others {s t : Hub} {client : Nat}
    (h : s.advanceClient client (s.clients client) = some t) :
    s.clients client ≠ .new ∧ t.connections = s.connections ∧
      ∀ other, other ≠ client → t.clients other = s.clients other := by
  cases hpc : s.clients client with
  | new | blocked | ended =>
    rw [hpc] at h
    cases h
  | wait | clear | send =>
    rw [hpc] at h
    obtain rfl := Option.some.inj h
    exact ⟨nofun, rfl, fun other hne => Function.update_of_ne hne ..⟩
  | drain =>
    rw [hpc] at h
    simp only [Hub.advanceClient] at h
    split at h <;> obtain rfl := Option.some.inj h <;>
      exact ⟨nofun, rfl, fun other hne => Function.update_of_ne hne ..⟩

/-- The log grows by the clients that are connected. -/
theorem mem_connected_record {s : Hub} {l : PreviewLog} {e : Event} {connected : List Nat}
    (h : connected ∈ (l.record s e).connected) :
    connected ∈ l.connected ∨ connected = s.connections := by
  cases e with
  | pusher pusher =>
    simp only [PreviewLog.record] at h
    split at h
    · split at h <;> exact Or.inl h
    · split at h
      · exact (List.mem_append.mp h).imp_right List.mem_singleton.mp
      · exact Or.inl h
    · exact Or.inl h
  | client client =>
    simp only [PreviewLog.record] at h
    split at h
    · split at h <;> exact Or.inl h
    · exact Or.inl h
    · exact Or.inl h
  | sendRaises client isDisconnect =>
    simp only [PreviewLog.record] at h
    split at h <;> exact Or.inl h
  | pushPreview | connect => exact Or.inl h

theorem Single.step {encode : NdArray → Option String} {client : Nat} {s t : Hub}
    {l : PreviewLog} {e : Event} (h : Single client s l) (he : OfSingle client e)
    (ht : s.step encode e = some t) : Single client t (l.record s e) := by
  have hconnected : ∀ connected ∈ (l.record s e).connected, ∀ other ∈ connected,
      other = client := by
    intro connected hmem
    rcases mem_connected_record hmem with hold | rfl
    · exact h.connected connected hold
    · exact h.connections
  cases e with
  | pushPreview pusher cameraId frameBgr =>
    simp only [Hub.step] at ht
    split at ht
    · obtain rfl := Option.some.inj ht
      exact ⟨h.others, h.connections, hconnected⟩
    · cases ht
  | pusher pusher =>
    obtain ⟨hsame, hnew⟩ := advancePusher_others ht
    exact ⟨fun other hne => hnew other (h.others other hne), hsame ▸ h.connections, hconnected⟩
  | connect other =>
    obtain rfl : other = client := he
    simp only [Hub.step] at ht
    split at ht
    · obtain rfl := Option.some.inj ht
      refine ⟨fun third hne => (Function.update_of_ne hne ..).trans (h.others third hne), ?_,
        hconnected⟩
      intro third hthird
      rcases List.mem_append.mp hthird with hold | hnew
      · exact h.connections third hold
      · exact List.mem_singleton.mp hnew
    · cases ht
  | client other =>
    obtain ⟨hpc, hsame, hclients⟩ := advanceClient_others ht
    obtain rfl : other = client := by
      by_contra hne
      exact hpc (h.others other hne)
    exact ⟨fun third hne => (hclients third hne).trans (h.others third hne),
      hsame ▸ h.connections, hconnected⟩
  | sendRaises => exact he.elim

/-- A run with one client whose sends never raise meets the condition at every step. -/
theorem forOneClient_of_single {encode : NdArray → Option String} {client : Nat}
    {events : List Event} (h : ∀ e ∈ events, OfSingle client e) :
    ∀ x ∈ observed encode events, ForOneClient x.source.state x.source.history x.event := by
  have hinit : Single client Hub.init PreviewLog.empty :=
    ⟨fun _ _ => rfl, nofun, nofun⟩
  have hrun : ∀ x ∈ observed encode events, Single client x.source.state x.source.history ∧
      Single client x.target.state x.target.history :=
    Transition.recorded_guarded_invariant (fun s l e t hs (he : OfSingle client e) ht =>
      hs.step he ht) hinit events
      (fun x hx => h x.event (Transition.event_mem_of_mem_steps hx))
  intro x hx
  have hsingle : Single client x.source.state x.source.history := (hrun x hx).1
  have hevent := h x.event (Transition.event_mem_of_mem_steps hx)
  cases he : x.event with
  | client other =>
    intro hdrain _ connected hconnected third hthird
    have hother : other = client := by
      by_contra hne
      rw [hsingle.others other hne] at hdrain
      cases hdrain
    rw [hsingle.connected connected (List.mem_of_getElem? hconnected) third hthird, hother]
  | sendRaises other isDisconnect =>
    rw [he] at hevent
    exact hevent.elim
  | pushPreview | pusher | connect => exact trivial

/-- In a run in which every preview is for one client only, every preview that is not evicted
reaches the clients that were connected when it was put, and none is forgotten. -/
theorem previews_delivered {encode : NdArray → Option String} {events : List Event}
    (hone : ∀ x ∈ observed encode events,
      ForOneClient x.source.state x.source.history x.event) :
    ∀ x ∈ observed encode events,
      Delivered x.target.state x.target.history ∧ NothingForgotten x.target.state := by
  have hrun : ∀ x ∈ observed encode events, Sound x.source.state x.source.history ∧
      Sound x.target.state x.target.history :=
    Transition.recorded_guarded_invariant (fun s l e t hs (hok : ForOneClient s l e) ht =>
      hs.step hok ht) init_sound events hone
  intro x hx
  have hsound := (hrun x hx).2
  exact ⟨hsound.delivered, hsound.noticed.nothingForgotten⟩

/-- A preview is pushed while nobody else pushes one. -/
def pushOnce : List Event :=
  [.pushPreview 0 "cam-01" (blackFrame 1 1), .pusher 0, .pusher 0, .pusher 0, .pusher 0]

/-- A client waits, and takes the preview that is pushed then. -/
def oneClient : List Event :=
  [.connect 0, .client 0] ++ pushOnce ++ [.client 0, .client 0, .client 0, .client 0]

theorem previews_delivered_to_one :
    (observed (fun _ => some "/9j/") oneClient).length = 11 ∧
      ∀ x ∈ observed (fun _ => some "/9j/") oneClient,
        Delivered x.target.state x.target.history ∧ NothingForgotten x.target.state :=
  ⟨rfl, previews_delivered
    (@forOneClient_of_single _ 0 _ (by simp [oneClient, pushOnce, OfSingle]))⟩

/-- Two clients wait, and the first one takes the preview. -/
def twoClients : List Event :=
  [.connect 0, .connect 1, .client 0, .client 1] ++ pushOnce ++
    [.client 0, .client 0, .client 0, .client 1, .client 1, .client 1, .client 0]

/-- Two previews are pushed; the client that takes the first one disconnects, and another client
connects. -/
def disconnected : List Event :=
  [.connect 0, .client 0] ++ pushOnce ++ pushOnce ++
    [.client 0, .client 0, .sendRaises 0 true, .connect 1, .client 1]

/-- The second of two clients never sees the preview; and the second preview stays in the queue
while the only client left waits. -/
theorem second_client_misses :
    ¬ Delivered (ends (fun _ => some "/9j/") twoClients).state
      (ends (fun _ => some "/9j/") twoClients).history ∧
    ¬ NothingForgotten (ends (fun _ => some "/9j/") disconnected).state := by
  constructor
  · intro h
    have hmissing := h 0 [0, 1] rfl (by decide) (by decide) 1 (by decide)
    revert hmissing
    decide
  · intro h
    have hempty := h 1 ?_ ⟨Or.inr rfl, rfl⟩ ?_
    · cases hempty
    · intro other hne
      rcases other with _ | _ | n
      · exact Or.inr rfl
      · exact absurd rfl hne
      · exact Or.inl rfl
    · intro pusher
      cases pusher <;> rfl

end EdgeSafety.WebServer
