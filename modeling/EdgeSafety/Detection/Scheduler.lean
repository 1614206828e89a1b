import Mathlib.Logic.Function.Basic
import EdgeSafety.Lib.BoundedQueue
import EdgeSafety.Lib.Dict
import EdgeSafety.Lib.RoundRobin
import EdgeSafety.Lib.Transition

/-!
# The round-robin scheduler of the detection server

`Scheduler` keeps a queue of at most five frames for each camera and serves the cameras in a
circle. Each of its methods runs under one lock, so that a run is a list of calls. Beside the state
a ledger for each camera lists the frames added and what became of them (`Journal`).
-/

namespace EdgeSafety

variable {α : Type}

/-- `inference.scheduler.Scheduler`; `order` and `index` are where its circle stands. -/
structure Scheduler (α : Type) where
  queues : Dict String (List α)
  order : List String
  index : Nat

namespace Scheduler

/-- What `poll` returns; the indexing of `_order` could raise. -/
inductive Polled (α : Type) where
  | nothing
  | frame (cameraId : String) (jpegBytes : α)
  | indexError

/-- `Scheduler()`. -/
def init (α : Type) : Scheduler α := ⟨Dict.empty, [], 0⟩

/-- `deque(maxlen=5)`. -/
def maxlen : Nat := 5

/-- The frames of a camera that wait. -/
def waiting (s : Scheduler α) (cameraId : String) : List α := (s.queues.get? cameraId).getD []

def registerCamera (s : Scheduler α) (cameraId : String) : Scheduler α :=
  if cameraId ∈ s.queues.keys then s
  else { s with queues := s.queues.set cameraId [], order := s.order ++ [cameraId] }

def addFrame (s : Scheduler α) (cameraId : String) (jpegBytes : α) : Scheduler α :=
  let s := s.registerCamera cameraId
  { s with
    queues := s.queues.set cameraId (BoundedQueue.push maxlen (s.waiting cameraId) jpegBytes) }

/-- The loop of `poll`, with `remaining = len(self._order) - checked`. -/
def pollLoop : Nat → Scheduler α → Polled α × Scheduler α
  | 0, s => (.nothing, s)
  | remaining + 1, s =>
    match s.order[s.index]? with
    | none => (.indexError, s)
    | some camId =>
      let s := { s with index := (s.index + 1) % s.order.length }
      match s.waiting camId with
      | frame :: rest => (.frame camId frame, { s with queues := s.queues.set camId rest })
      | [] => pollLoop remaining s

def poll (s : Scheduler α) : Polled α × Scheduler α :=
  if s.order = [] then (.nothing, s) else pollLoop s.order.length s

/-- The calls. -/
inductive Event (α : Type) where
  | registerCamera (cameraId : String)
  | addFrame (cameraId : String) (jpegBytes : α)
  | poll

/-- The state after a call. -/
def after (s : Scheduler α) : Event α → Scheduler α
  | .registerCamera cameraId => s.registerCamera cameraId
  | .addFrame cameraId jpegBytes => s.addFrame cameraId jpegBytes
  | .poll => s.poll.2

/-- Every call returns. -/
def step (s : Scheduler α) (e : Event α) : Option (Scheduler α) := some (s.after e)

/-- The camera that a call serves. -/
def served (s : Scheduler α) : Event α → Option String
  | .poll =>
    match s.poll.1 with
    | .frame cameraId _ => some cameraId
    | _ => none
  | _ => none

/-- The ledger of each camera. -/
abbrev Journal (α : Type) := String → BoundedQueue.Ledger α

/-- What a call adds to the ledgers. -/
def record (j : Journal α) (s : Scheduler α) : Event α → Journal α
  | .registerCamera _ => j
  | .addFrame cameraId jpegBytes =>
    Function.update j cameraId ((j cameraId).push (s.waiting cameraId).length jpegBytes)
  | .poll =>
    match s.poll.1 with
    | .frame cameraId jpegBytes =>
      Function.update j cameraId ((j cameraId).pop (s.waiting cameraId).length jpegBytes)
    | _ => j

/-- The frames that a call adds for a camera. -/
def added (camera : String) : Event α → List α
  | .addFrame cameraId jpegBytes => if cameraId = camera then [jpegBytes] else []
  | _ => []

/-- The frames of a camera that a call returns. -/
def returned (camera : String) (s : Scheduler α) : Event α → List α
  | .poll =>
    match s.poll.1 with
    | .frame cameraId jpegBytes => if cameraId = camera then [jpegBytes] else []
    | _ => []
  | _ => []

/-- A scheduler after a list of calls, with its ledgers. -/
def observe (events : List (Event α)) : Transition.Recorded (Scheduler α) (Journal α) :=
  Transition.exec (Transition.recorded step record) ⟨init α, fun _ => .empty⟩ events

/-- The circle has every camera with a queue once, and the index stands on it. -/
structure WellFormed (s : Scheduler α) : Prop where
  order : s.order = s.queues.keys
  index : s.index < s.order.length ∨ s.index = 0

theorem WellFormed.nodup {s : Scheduler α} (h : s.WellFormed) : s.order.Nodup := by
  rw [h.order]
  exact s.queues.keys_nodup

theorem init_wellFormed (α : Type) : (init α).WellFormed := ⟨rfl, Or.inr rfl⟩

/-- A new value of a queue that is there changes no other queue and not the circle. -/
theorem keys_set_of_mem {d : Dict String (List α)} {cameraId : String} (h : cameraId ∈ d.keys)
    (queue : List α) : (d.set cameraId queue).keys = d.keys := by
  obtain ⟨old, hold⟩ := Option.ne_none_iff_exists'.mp
    (mt Dict.get?_eq_none_iff.mp (not_not_intro h))
  exact Dict.map_set Prod.fst hold rfl

theorem waiting_set (s : Scheduler α) (order : List String) (index : Nat) (cameraId : String)
    (queue : List α) (camera : String) :
    (⟨s.queues.set cameraId queue, order, index⟩ : Scheduler α).waiting camera =
      if camera = cameraId then queue else s.waiting camera := by
  unfold waiting
  split
  · next h => rw [h, Dict.get?_set_self, Option.getD_some]
  · next h => rw [Dict.get?_set_of_ne _ h]

theorem mem_keys_of_waiting {s : Scheduler α} {camera : String} (h : s.waiting camera ≠ []) :
    camera ∈ s.queues.keys := by
  by_contra hnot
  apply h
  rw [waiting, Dict.get?_eq_none_iff.mpr hnot, Option.getD_none]

/-! ## What the calls do -/

theorem waiting_registerCamera (s : Scheduler α) (cameraId camera : String) :
    (s.registerCamera cameraId).waiting camera = s.waiting camera := by
  unfold registerCamera
  split
  · rfl
  · next hnew =>
    rw [waiting_set]
    split
    · next h =>
      rw [h, waiting, Dict.get?_eq_none_iff.mpr hnew]
      rfl
    · rfl

theorem WellFormed.registerCamera {s : Scheduler α} (h : s.WellFormed) (cameraId : String) :
    (s.registerCamera cameraId).WellFormed := by
  unfold Scheduler.registerCamera
  split
  · exact h
  · next hnew =>
    refine ⟨?_, ?_⟩
    · show s.order ++ [cameraId] = (s.queues.set cameraId []).keys
      rw [Dict.keys_set_of_not_mem hnew, h.order]
    · show s.index < (s.order ++ [cameraId]).length ∨ s.index = 0
      rw [List.length_append]
      rcases h.index with hlt | hzero
      · exact Or.inl (by omega)
      · exact Or.inr hzero

theorem mem_keys_registerCamera (s : Scheduler α) (cameraId : String) :
    cameraId ∈ (s.registerCamera cameraId).queues.keys := by
  unfold registerCamera
  split
  · assumption
  · exact Dict.mem_keys_set.mpr (Or.inl rfl)

theorem registerCamera_circle (s : Scheduler α) (cameraId : String) :
    (∃ more, (s.registerCamera cameraId).order = s.order ++ more) ∧
      (s.registerCamera cameraId).index = s.index := by
  unfold registerCamera
  split
  · exact ⟨⟨[], (List.append_nil _).symm⟩, rfl⟩
  · exact ⟨⟨[cameraId], rfl⟩, rfl⟩

theorem waiting_addFrame (s : Scheduler α) (cameraId : String) (jpegBytes : α) (camera : String) :
    (s.addFrame cameraId jpegBytes).waiting camera =
      if camera = cameraId then BoundedQueue.push maxlen (s.waiting cameraId) jpegBytes
      else s.waiting camera := by
  show (⟨_, _, _⟩ : Scheduler α).waiting camera = _
  rw [waiting_set, waiting_registerCamera, waiting_registerCamera]

theorem WellFormed.addFrame {s : Scheduler α} (h : s.WellFormed) (cameraId : String)
    (jpegBytes : α) : (s.addFrame cameraId jpegBytes).WellFormed where
  order := by
    show (s.registerCamera cameraId).order = ((s.registerCamera cameraId).queues.set _ _).keys
    rw [keys_set_of_mem (mem_keys_registerCamera s cameraId)]
    exact (h.registerCamera cameraId).order
  index := (h.registerCamera cameraId).index

/-- The loop of `poll` serves a camera: the one at position `place`, which comes before every other
one that has a frame waiting. -/
structure Serves (s : Scheduler α) (cameraId : String) (jpegBytes : α) (t : Scheduler α)
    (place : Nat) : Prop where
  camera : s.order[place]? = some cameraId
  after : ∃ rest, s.waiting cameraId = jpegBytes :: rest ∧
    t = ⟨s.queues.set cameraId rest, s.order, (place + 1) % s.order.length⟩
  first : ∀ stop other, s.order[stop]? = some other → s.waiting other ≠ [] → stop ≠ place →
    ∀ party, RoundRobin.Before party s.index stop →
      party ≠ place ∧ RoundRobin.Before party place stop

/-- The loop of `poll` finds nothing in the cameras it checks. -/
structure FindsNothing (s : Scheduler α) (remaining : Nat) (t : Scheduler α) : Prop where
  empty : ∀ turn ∈ RoundRobin.turns s.order.length s.index remaining, ∀ camera,
    s.order[turn]? = some camera → s.waiting camera = []
  after : ∃ index < s.order.length, t = { s with index := index }

theorem waiting_index (s : Scheduler α) (index : Nat) (camera : String) :
    ({ s with index := index } : Scheduler α).waiting camera = s.waiting camera := rfl

/-- What the loop of `poll` does, by induction on the cameras that are left to check. -/
theorem pollLoop_cases (remaining : Nat) {s : Scheduler α} (hindex : s.index < s.order.length) :
    (∃ cameraId jpegBytes place t, pollLoop remaining s = (.frame cameraId jpegBytes, t) ∧
      Serves s cameraId jpegBytes t place) ∨
    ∃ t, pollLoop remaining s = (.nothing, t) ∧ FindsNothing s remaining t := by
  induction remaining generalizing s with
  | zero => exact Or.inr ⟨s, rfl, by simp, s.index, hindex, rfl⟩
  | succ remaining ih =>
    let moved : Scheduler α := { s with index := (s.index + 1) % s.order.length }
    have hcamera := List.getElem?_eq_getElem hindex
    have hmoved : moved.index < moved.order.length := Nat.mod_lt _ (by omega)
    cases hqueue : s.waiting s.order[s.index] with
    | cons frame rest =>
      left
      refine ⟨s.order[s.index], frame, s.index, _, ?_, hcamera, ⟨rest, hqueue, rfl⟩, ?_⟩
      · simp only [pollLoop, hcamera, waiting_index, hqueue]
      · intro stop other _ _ _ party hbefore
        exact ⟨hbefore.ne, hbefore⟩
    | nil =>
      have hloop : pollLoop (remaining + 1) s = pollLoop remaining moved := by
        simp only [pollLoop, hcamera, waiting_index, hqueue, moved]
      rw [hloop]
      rcases ih hmoved with ⟨cameraId, frame, place, t, hpoll, hserves⟩ | ⟨t, hpoll, hnothing⟩
      · left
        refine ⟨cameraId, frame, place, t, hpoll, hserves.camera, hserves.after, ?_⟩
        intro stop other hother hwaits hne party hbefore
        apply hserves.first stop other hother hwaits hne party
        apply hbefore.next hindex (List.getElem?_eq_some_iff.mp hother).1
        rintro rfl
        rw [hcamera] at hother
        exact hwaits (Option.some.inj hother ▸ hqueue)
      · right
        refine ⟨t, hpoll, ?_, hnothing.after⟩
        intro turn hturn camera hat
        rw [Nat.add_comm, RoundRobin.turns_append, List.mem_append] at hturn
        rcases hturn with hturn | hturn
        · obtain rfl : turn = s.index := by
            simpa [RoundRobin.turns, Nat.mod_eq_of_lt hindex] using hturn
          rw [hcamera] at hat
          exact Option.some.inj hat ▸ hqueue
        · apply hnothing.empty turn ?_ camera hat
          show turn ∈ RoundRobin.turns s.order.length ((s.index + 1) % s.order.length) remaining
          rwa [RoundRobin.turns_mod]

/-- What `poll` does: it serves a camera, or no frame waits and only the index may move. -/
theorem poll_cases {s : Scheduler α} (h : s.WellFormed) :
    (∃ cameraId jpegBytes place t, s.poll = (.frame cameraId jpegBytes, t) ∧
      Serves s cameraId jpegBytes t place) ∨
    ∃ index, s.poll = (.nothing, { s with index := index }) ∧
      (index < s.order.length ∨ index = 0) ∧ ∀ camera, s.waiting camera = [] := by
  by_cases hnone : s.order = []
  · right
    refine ⟨s.index, if_pos hnone, h.index, ?_⟩
    intro camera
    by_contra hwaits
    have hmem := mem_keys_of_waiting hwaits
    rw [← h.order, hnone] at hmem
    cases hmem
  · have hlength : 0 < s.order.length := List.length_pos_iff.mpr hnone
    have hindex : s.index < s.order.length := by
      rcases h.index with hlt | hzero <;> omega
    have hpoll : s.poll = pollLoop s.order.length s := if_neg hnone
    rcases pollLoop_cases s.order.length hindex with hserves | ⟨t, hloop, hnothing⟩
    · rw [hpoll]
      exact Or.inl hserves
    · right
      obtain ⟨index, hlt, rfl⟩ := hnothing.after
      refine ⟨index, hpoll.trans hloop, Or.inl hlt, ?_⟩
      intro camera
      by_contra hwaits
      have hmem := mem_keys_of_waiting hwaits
      rw [← h.order] at hmem
      obtain ⟨turn, hturn, hat⟩ := List.getElem_of_mem hmem
      apply hwaits
      apply hnothing.empty turn (RoundRobin.mem_turns _ hturn (Nat.le_refl _)) camera
      rw [List.getElem?_eq_getElem hturn, hat]

theorem Serves.waiting {s t : Scheduler α} {cameraId : String} {jpegBytes : α} {place : Nat}
    (h : Serves s cameraId jpegBytes t place) (camera : String) :
    s.waiting camera =
      if camera = cameraId then jpegBytes :: t.waiting camera else t.waiting camera := by
  obtain ⟨rest, hqueue, rfl⟩ := h.after
  rw [waiting_set]
  split
  · next heq => rw [heq, hqueue]
  · rfl

theorem Serves.wellFormed {s t : Scheduler α} {cameraId : String} {jpegBytes : α} {place : Nat}
    (h : Serves s cameraId jpegBytes t place) (hs : s.WellFormed) : t.WellFormed := by
  have hplace := (List.getElem?_eq_some_iff.mp h.camera).1
  obtain ⟨rest, hqueue, rfl⟩ := h.after
  refine ⟨?_, Or.inl (Nat.mod_lt _ (by omega))⟩
  show s.order = (s.queues.set cameraId rest).keys
  rw [keys_set_of_mem, hs.order]
  exact mem_keys_of_waiting (by simp [hqueue])

/-- Every call keeps the circle well formed. -/
theorem WellFormed.after {s : Scheduler α} (h : s.WellFormed) (e : Event α) :
    (s.after e).WellFormed := by
  cases e with
  | registerCamera cameraId => exact h.registerCamera cameraId
  | addFrame cameraId jpegBytes => exact h.addFrame cameraId jpegBytes
  | poll =>
    show s.poll.2.WellFormed
    rcases poll_cases h with ⟨_, _, _, t, hpoll, hserves⟩ | ⟨index, hpoll, hindex, -⟩
    · rw [hpoll]
      exact hserves.wellFormed h
    · rw [hpoll]
      exact ⟨h.order, hindex⟩

/-- `poll` raises nothing, and returns nothing exactly when no frame of any camera waits. -/
theorem poll_nothing_iff {s : Scheduler α} (h : s.WellFormed) :
    s.poll.1 ≠ .indexError ∧ (s.poll.1 = .nothing ↔ ∀ camera, s.waiting camera = []) := by
  rcases poll_cases h with ⟨cameraId, frame, place, t, hpoll, hserves⟩ | ⟨index, hpoll, -, hnone⟩
  · rw [hpoll]
    refine ⟨nofun, nofun, ?_⟩
    intro hnone
    have hqueue := hserves.waiting cameraId
    rw [if_pos rfl, hnone] at hqueue
    cases hqueue
  · rw [hpoll]
    exact ⟨nofun, fun _ => hnone, fun _ => rfl⟩

/-! ## The ledgers -/

/-- The circle is well formed, and the ledger of each camera accounts for its queue. -/
structure Accounted (s : Scheduler α) (j : Journal α) : Prop where
  wellFormed : s.WellFormed
  kept : ∀ camera, BoundedQueue.Kept maxlen (s.waiting camera) (j camera)

theorem init_accounted (α : Type) : Accounted (init α) fun _ => .empty :=
  ⟨init_wellFormed α, fun _ => BoundedQueue.kept_empty maxlen⟩

/-- Every call keeps the ledgers. -/
theorem Accounted.after {s : Scheduler α} {j : Journal α} (h : Accounted s j) (e : Event α) :
    Accounted (s.after e) (record j s e) := by
  refine ⟨h.wellFormed.after e, ?_⟩
  intro camera
  cases e with
  | registerCamera cameraId =>
    show BoundedQueue.Kept maxlen ((s.registerCamera cameraId).waiting camera) (j camera)
    rw [waiting_registerCamera]
    exact h.kept camera
  | addFrame cameraId jpegBytes =>
    show BoundedQueue.Kept maxlen ((s.addFrame cameraId jpegBytes).waiting camera)
      (Function.update j cameraId _ camera)
    rw [waiting_addFrame]
    by_cases hcamera : camera = cameraId
    · subst hcamera
      rw [if_pos rfl, Function.update_self]
      exact (h.kept camera).push jpegBytes
    · rw [if_neg hcamera, Function.update_of_ne hcamera]
      exact h.kept camera
  | poll =>
    show BoundedQueue.Kept maxlen (s.poll.2.waiting camera) (record j s .poll camera)
    have hkept := h.kept camera
    rcases poll_cases h.wellFormed with
      ⟨cameraId, frame, place, t, hpoll, hserves⟩ | ⟨index, hpoll, -, -⟩
    · rw [hserves.waiting] at hkept
      simp only [record, hpoll]
      by_cases hcamera : camera = cameraId
      · subst hcamera
        rw [if_pos rfl] at hkept
        rw [Function.update_self, hserves.waiting, if_pos rfl]
        exact hkept.pop
      · rw [if_neg hcamera] at hkept
        rw [Function.update_of_ne hcamera]
        exact hkept
    · simp only [record, hpoll]
      exact hkept

theorem observe_accounted (events : List (Event α)) :
    Accounted (observe events).state (observe events).history := by
  apply Transition.recorded_invariant ?_ (init_accounted α)
  intro s j e t h ht
  obtain rfl := Option.some.inj ht
  exact h.after e

theorem record_added (camera : String) (j : Journal α) (s : Scheduler α) (e : Event α) :
    (record j s e camera).entries.map BoundedQueue.Entry.item =
      (j camera).entries.map BoundedQueue.Entry.item ++ added camera e := by
  cases e with
  | registerCamera cameraId => exact (List.append_nil _).symm
  | addFrame cameraId jpegBytes =>
    by_cases h : cameraId = camera
    · subst h
      simp [record, added]
    · simp [record, added, h, Function.update_of_ne (Ne.symm h)]
  | poll =>
    simp only [record, added, List.append_nil]
    cases s.poll.1 with
    | nothing => rfl
    | indexError => rfl
    | frame cameraId jpegBytes =>
      by_cases h : camera = cameraId
      · subst h
        simp
      · simp [Function.update_of_ne h]

theorem record_returned (camera : String) (j : Journal α) (s : Scheduler α) (e : Event α) :
    (record j s e camera).taken = (j camera).taken ++ returned camera s e := by
  cases e with
  | registerCamera cameraId => exact (List.append_nil _).symm
  | addFrame cameraId jpegBytes =>
    by_cases h : camera = cameraId
    · subst h
      simp [record, returned, BoundedQueue.Ledger.push]
    · simp [record, returned, Function.update_of_ne h]
  | poll =>
    simp only [record, returned]
    cases s.poll.1 with
    | nothing => exact (List.append_nil _).symm
    | indexError => exact (List.append_nil _).symm
    | frame cameraId jpegBytes =>
      by_cases h : cameraId = camera
      · subst h
        simp [BoundedQueue.Ledger.pop]
      · simp [h, Function.update_of_ne (Ne.symm h)]

/-- The entries of a camera's ledger are the frames that the calls of the run added for it. -/
theorem observe_added (events : List (Event α)) (camera : String) :
    ((observe events).history camera).entries.map BoundedQueue.Entry.item =
      (Transition.steps step (init α) events).flatMap fun x => added camera x.event := by
  apply Transition.recorded_flatMap
    (fun j : Journal α => (j camera).entries.map BoundedQueue.Entry.item)
    (fun _ e => added camera e)
  intro s j e t _
  exact record_added camera j s e

/-- What a camera's ledger lists as taken are the frames that the calls of the run returned. -/
theorem observe_returned (events : List (Event α)) (camera : String) :
    ((observe events).history camera).taken =
      (Transition.steps step (init α) events).flatMap fun x =>
        returned camera x.source x.event := by
  apply Transition.recorded_flatMap (fun j : Journal α => (j camera).taken) (returned camera)
  intro s j e t _
  exact record_returned camera j s e

/-! ## Fairness -/

/-- The camera at `party` was served, and the one at `stop` comes first from now on. -/
structure Behind (s : Scheduler α) (party stop : Nat) (other camera : String) : Prop where
  behind : s.order[party]? = some other
  ahead : s.order[stop]? = some camera
  before : RoundRobin.Before party s.index stop

theorem Behind.grow {s t : Scheduler α} {party stop : Nat} {other camera : String}
    (h : Behind s party stop other camera) {more : List String} (horder : t.order = s.order ++ more)
    (hindex : t.index = s.index) : Behind t party stop other camera := by
  have hparty := (List.getElem?_eq_some_iff.mp h.behind).1
  have hstop := (List.getElem?_eq_some_iff.mp h.ahead).1
  refine ⟨?_, ?_, hindex ▸ h.before⟩
  · rw [horder, List.getElem?_append_left hparty, h.behind]
  · rw [horder, List.getElem?_append_left hstop, h.ahead]

theorem served_poll {s t : Scheduler α} {cameraId : String} {jpegBytes : α}
    (hpoll : s.poll = (.frame cameraId jpegBytes, t)) : s.served .poll = some cameraId := by
  simp only [served, hpoll]

/-- A call that does not serve the waiting camera does not serve the one behind it either, which
stays behind. -/
theorem Behind.after {s : Scheduler α} (hs : s.WellFormed) {party stop : Nat}
    {other camera : String} (h : Behind s party stop other camera) {e : Event α}
    (hwaits : s.waiting camera ≠ []) (hnot : s.served e ≠ some camera) :
    s.served e ≠ some other ∧ Behind (s.after e) party stop other camera := by
  cases e with
  | registerCamera cameraId =>
    obtain ⟨⟨more, horder⟩, hindex⟩ := registerCamera_circle s cameraId
    exact ⟨nofun, h.grow horder hindex⟩
  | addFrame cameraId jpegBytes =>
    obtain ⟨⟨more, horder⟩, hindex⟩ := registerCamera_circle s cameraId
    exact ⟨nofun, h.grow (t := s.addFrame cameraId jpegBytes) horder hindex⟩
  | poll =>
    rcases poll_cases hs with
      ⟨cameraId, frame, place, t, hpoll, hserves⟩ | ⟨index, hpoll, -, hnone⟩
    · rw [served_poll hpoll] at hnot ⊢
      have hplace := (List.getElem?_eq_some_iff.mp hserves.camera).1
      have hstop := (List.getElem?_eq_some_iff.mp h.ahead).1
      have hne : stop ≠ place := by
        rintro rfl
        exact hnot (hserves.camera.symm.trans h.ahead)
      obtain ⟨hparty, hbefore⟩ := hserves.first stop camera h.ahead hwaits hne party h.before
      refine ⟨?_, ?_⟩
      · intro heq
        apply hparty
        apply (List.getElem?_inj (List.getElem?_eq_some_iff.mp h.behind).1 hs.nodup).mp
        rw [h.behind, hserves.camera, heq]
      · show Behind s.poll.2 party stop other camera
        rw [hpoll]
        obtain ⟨rest, -, rfl⟩ := hserves.after
        exact ⟨h.behind, h.ahead, hbefore.next hplace hstop (Ne.symm hne)⟩
    · exact absurd (hnone camera) hwaits

/-- Right after a camera was served, it is behind every other one. -/
theorem behind_of_served {s : Scheduler α} (hs : s.WellFormed) {other camera : String}
    {e : Event α} (hserved : s.served e = some other) (hwaits : s.waiting camera ≠ [])
    (hne : other ≠ camera) : ∃ party stop, Behind (s.after e) party stop other camera := by
  cases e with
  | registerCamera cameraId => cases hserved
  | addFrame cameraId jpegBytes => cases hserved
  | poll =>
    rcases poll_cases hs with
      ⟨cameraId, frame, place, t, hpoll, hserves⟩ | ⟨index, hpoll, -, hnone⟩
    · rw [served_poll hpoll] at hserved
      obtain rfl := Option.some.inj hserved
      have hmem := mem_keys_of_waiting hwaits
      rw [← hs.order] at hmem
      obtain ⟨stop, hstop, hat⟩ := List.getElem_of_mem hmem
      have hcamera : s.order[stop]? = some camera := by
        rw [List.getElem?_eq_getElem hstop, hat]
      have hplace := (List.getElem?_eq_some_iff.mp hserves.camera).1
      refine ⟨place, stop, ?_⟩
      show Behind s.poll.2 place stop cameraId camera
      rw [hpoll]
      obtain ⟨rest, -, rfl⟩ := hserves.after
      refine ⟨hserves.camera, hcamera, RoundRobin.before_succ_mod hplace hstop ?_⟩
      rintro rfl
      exact hne (Option.some.inj (hserves.camera.symm.trans hcamera))
    · exact absurd (hnone camera) hwaits

/-- Whether a step of a run serves the camera. -/
def servesCamera (camera : String) (x : Transition.Taken (Scheduler α) (Event α)) : Bool :=
  x.source.served x.event = some camera

/-- The steps of a part of a run in which the camera always has a frame waiting and is not
served. -/
def PassedOver (s : Scheduler α) (segment : List (Event α)) (camera : String) : Prop :=
  ∀ x ∈ Transition.steps step s segment,
    x.source.waiting camera ≠ [] ∧ x.source.served x.event ≠ some camera

theorem steps_cons (s : Scheduler α) (e : Event α) (segment : List (Event α)) :
    Transition.steps step s (e :: segment) =
      ⟨s, e, s.after e⟩ :: Transition.steps step (s.after e) segment := rfl

/-- A camera that is behind a waiting one is not served before it. -/
theorem Behind.run {s : Scheduler α} (hs : s.WellFormed) {party stop : Nat}
    {other camera : String} (h : Behind s party stop other camera) {segment : List (Event α)}
    (hover : PassedOver s segment camera) :
    (Transition.steps step s segment).countP (servesCamera other) = 0 := by
  induction segment generalizing s with
  | nil => rfl
  | cons e segment ih =>
    unfold PassedOver at hover
    rw [steps_cons] at hover ⊢
    obtain ⟨⟨hwaits, hnot⟩, hrest⟩ := List.forall_mem_cons.mp hover
    obtain ⟨hserved, hbehind⟩ := h.after hs hwaits hnot
    rw [List.countP_cons_of_neg (by simpa [servesCamera] using hserved)]
    exact ih (hs.after e) hbehind hrest

/-- While a camera waits and is not served, every other one is served at most once. -/
theorem countP_served_le_one {s : Scheduler α} (hs : s.WellFormed) {other camera : String}
    (hne : other ≠ camera) {segment : List (Event α)} (hover : PassedOver s segment camera) :
    (Transition.steps step s segment).countP (servesCamera other) ≤ 1 := by
  induction segment generalizing s with
  | nil => exact Nat.zero_le _
  | cons e segment ih =>
    unfold PassedOver at hover
    rw [steps_cons] at hover ⊢
    obtain ⟨⟨hwaits, -⟩, hrest⟩ := List.forall_mem_cons.mp hover
    by_cases hserved : s.served e = some other
    · obtain ⟨party, stop, hbehind⟩ := behind_of_served hs hserved hwaits hne
      rw [List.countP_cons_of_pos (by simpa [servesCamera] using hserved),
        hbehind.run (hs.after e) hrest]
    · rw [List.countP_cons_of_neg (by simpa [servesCamera] using hserved)]
      exact ih (hs.after e) hrest

/-- After every list of calls: the frames returned for a camera are those of the frames added for it
that its ledger marks, in order; a frame added is returned, or at least five newer ones were added
while it waited, or it is among the at most five that wait; `poll` raises nothing and returns
nothing exactly when no frame waits; the index stands on a camera or is 0; and as long as a camera
waits and is not served, no other camera is served twice. -/
theorem queues_bounded_and_fair (events : List (Event α)) :
    let s := (observe events).state
    (∀ camera,
      let entries := ((observe events).history camera).entries
      entries.map BoundedQueue.Entry.item =
        (Transition.steps step (init α) events).flatMap (fun x => added camera x.event) ∧
      (entries.filter BoundedQueue.Entry.taken).map BoundedQueue.Entry.item =
        (Transition.steps step (init α) events).flatMap
          (fun x => returned camera x.source x.event) ∧
      (s.waiting camera).length ≤ maxlen ∧
      s.waiting camera = (entries.drop (entries.length - (s.waiting camera).length)).map
        BoundedQueue.Entry.item ∧
      ∀ i entry, entries[i]? = some entry →
        entry.taken = true ∨ maxlen ≤ entry.newer ∨
          entries.length - (s.waiting camera).length ≤ i) ∧
    s.poll.1 ≠ .indexError ∧
    (s.poll.1 = .nothing ↔ ∀ camera, s.waiting camera = []) ∧
    (s.index < s.order.length ∨ s.index = 0) ∧
    ∀ segment camera other, other ≠ camera → PassedOver s segment camera →
      (Transition.steps step s segment).countP (servesCamera other) ≤ 1 := by
  intro s
  have h := observe_accounted events
  have hpoll := poll_nothing_iff h.wellFormed
  refine ⟨?_, hpoll.1, hpoll.2, h.wellFormed.index, ?_⟩
  · intro camera
    have hkept := h.kept camera
    refine ⟨observe_added events camera, ?_, hkept.bounded, hkept.waiting_eq,
      fun i entry => hkept.fate⟩
    rw [← hkept.taken_eq, observe_returned]
  · intro segment camera other hne hover
    exact countP_served_le_one h.wellFormed hne hover

end Scheduler

end EdgeSafety
