import EdgeSafety.Lib.Dict
import EdgeSafety.Lib.Transition

/-!
# The camera sources of the edge agent

`SourceManager` of `edge/source_manager.py`: `start` opens a camera and starts a thread for it,
`stop` and `stop_all` take back the flag that the thread tests, and the threads run
`_capture_loop`. A step of a thread is what it does between two places at which another thread can
come in between; a call of `start` tests, opens the camera and then publishes what its thread
needs and starts it.
-/

namespace EdgeSafety

/-- Where a thread is in the loop of `_capture_loop`. -/
inductive CapturePlace
  | test
  | read
  /-- `time.sleep(1)` after a failed read. -/
  | sleep
  | release
  | reopen
  | callback
  /-- The rest of the interval. -/
  | pacing
  deriving DecidableEq

/-- Where a thread is: before the loop, in it with its `cap` and `callback`, or it left. -/
inductive CaptureLoopPc (κ : Type)
  | begin
  | loop (cap : Nat) (callback : κ) (place : CapturePlace)
  | left

/-- A thread that runs `_capture_loop(camera_id)`. -/
structure CaptureThread (κ : Type) where
  cameraId : String
  pc : CaptureLoopPc κ

/-- A call of `start` that has passed its tests, with the capture once that is open. -/
structure StartCall (κ : Type) where
  cameraId : String
  onFrame : κ
  cap : Option Nat

/-- The dictionaries of `SourceManager`, whether each `VideoCapture` is open, the calls of `start`
that are under way and the threads, in the order in which they were started. -/
structure SourceManager (κ : Type) where
  captures : Dict String Nat
  callbacks : Dict String κ
  running : Dict String Bool
  opened : List Bool
  starts : Nat → Option (StartCall κ)
  threads : List (CaptureThread κ)

namespace SourceManager

variable {κ : Type} {cameras : List String}

/-- What happens next. -/
inductive Event (κ : Type)
  /-- Someone calls `start`. -/
  | start (caller : Nat) (cameraId : String) (onFrame : κ)
  /-- `cv2.VideoCapture(src)` of a call of `start`, and what `isOpened` says. -/
  | open (caller : Nat) (isOpened : Bool)
  /-- The rest of a call of `start`. -/
  | publish (caller : Nat)
  | stop (cameraId : String)
  | stopAll
  /-- A thread makes a step. `ret` is what a read returns, or whether the camera opens again. -/
  | thread (i : Nat) (ret : Bool)

/-- `SourceManager(config)`. -/
def init (κ : Type) : SourceManager κ :=
  ⟨Dict.empty, Dict.empty, Dict.empty, [], fun _ => none, []⟩

/-- The tests of `start`; an unknown camera is an error, and nothing happens to one that runs. -/
def start (cameras : List String) (s : SourceManager κ) (caller : Nat) (cameraId : String)
    (onFrame : κ) : SourceManager κ :=
  if cameraId ∉ cameras then s
  else if s.running.get? cameraId = some true then s
  else { s with starts := Function.update s.starts caller (some ⟨cameraId, onFrame, none⟩) }

/-- The camera is opened for a call of `start`, which raises when it does not open. -/
def openCamera (s : SourceManager κ) (caller : Nat) (call : StartCall κ) (isOpened : Bool) :
    SourceManager κ :=
  { s with
    opened := s.opened ++ [isOpened]
    starts := Function.update s.starts caller
      (if isOpened then some { call with cap := some s.opened.length } else none) }

/-- The end of `start`. -/
def publish (s : SourceManager κ) (caller : Nat) (call : StartCall κ) (cap : Nat) :
    SourceManager κ :=
  { s with
    captures := s.captures.set call.cameraId cap
    callbacks := s.callbacks.set call.cameraId call.onFrame
    running := s.running.set call.cameraId true
    starts := Function.update s.starts caller none
    threads := s.threads ++ [⟨call.cameraId, .begin⟩] }

/-- `stop`. -/
def stop (s : SourceManager κ) (cameraId : String) : SourceManager κ :=
  let s := { s with running := s.running.set cameraId false }
  match s.captures.get? cameraId with
  | some cap => { s with opened := s.opened.set cap false, captures := s.captures.erase cameraId }
  | none => s

/-- `stop_all`. -/
def stopAll (s : SourceManager κ) : SourceManager κ := s.running.keys.foldl stop s

/-- A thread of the camera goes on at `pc`. -/
def goTo (s : SourceManager κ) (i : Nat) (cameraId : String) (pc : CaptureLoopPc κ) :
    SourceManager κ :=
  { s with threads := s.threads.set i ⟨cameraId, pc⟩ }

/-- One step of `_capture_loop`. A capture that was released yields no frame. -/
def advance (s : SourceManager κ) (i : Nat) (cameraId : String) (ret : Bool) :
    CaptureLoopPc κ → Option (SourceManager κ)
  | .begin =>
    match s.captures.get? cameraId, s.callbacks.get? cameraId with
    | some cap, some callback => some (s.goTo i cameraId (.loop cap callback .test))
    -- a `KeyError` ends the thread
    | _, _ => some (s.goTo i cameraId .left)
  | .loop cap callback .test =>
    if (s.running.get? cameraId).getD false then
      some (s.goTo i cameraId (.loop cap callback .read))
    else some (s.goTo i cameraId .left)
  | .loop cap callback .read =>
    if ret then
      if s.opened[cap]? = some true then some (s.goTo i cameraId (.loop cap callback .callback))
      else none
    else some (s.goTo i cameraId (.loop cap callback .sleep))
  | .loop cap callback .sleep => some (s.goTo i cameraId (.loop cap callback .release))
  | .loop cap callback .release =>
    some { s.goTo i cameraId (.loop cap callback .reopen) with opened := s.opened.set cap false }
  | .loop _ callback .reopen =>
    some { s.goTo i cameraId (.loop s.opened.length callback .test) with
      opened := s.opened ++ [ret]
      captures := s.captures.set cameraId s.opened.length }
  -- an exception of the callback is caught
  | .loop cap callback .callback => some (s.goTo i cameraId (.loop cap callback .pacing))
  | .loop cap callback .pacing => some (s.goTo i cameraId (.loop cap callback .test))
  | .left => none

/-- One step of the system. -/
def step (cameras : List String) (s : SourceManager κ) : Event κ → Option (SourceManager κ)
  | .start caller cameraId onFrame =>
    match s.starts caller with
    | none => some (s.start cameras caller cameraId onFrame)
    | some _ => none
  | .open caller isOpened =>
    match s.starts caller with
    | some ⟨cameraId, onFrame, none⟩ =>
      some (s.openCamera caller ⟨cameraId, onFrame, none⟩ isOpened)
    | _ => none
  | .publish caller =>
    match s.starts caller with
    | some ⟨cameraId, onFrame, some cap⟩ =>
      some (s.publish caller ⟨cameraId, onFrame, some cap⟩ cap)
    | _ => none
  | .stop cameraId => some (s.stop cameraId)
  | .stopAll => some s.stopAll
  | .thread i ret =>
    match s.threads[i]? with
    | some thread => s.advance i thread.cameraId ret thread.pc
    | none => none

/-- The steps of a thread at which it calls the frame callback or opens a capture. -/
def Acts (i : Nat) (x : Transition.Taken (SourceManager κ) (Event κ)) : Prop :=
  ∃ ret cameraId cap callback place, x.event = .thread i ret ∧
    x.source.threads[i]? = some ⟨cameraId, .loop cap callback place⟩ ∧
    (place = .callback ∨ place = .reopen)

/-- The thread can still call the frame callback or open a capture: in some continuation it
does. -/
def CanAct (cameras : List String) (s : SourceManager κ) (i : Nat) : Prop :=
  ∃ events, ∃ x ∈ Transition.steps (step cameras) s events, Acts i x

/-- At most one thread of each camera that has not left `_capture_loop` can still act. -/
def AtMostOneActs (cameras : List String) (s : SourceManager κ) : Prop :=
  ∀ (i j : Nat) (cameraId : String) (pc pc' : CaptureLoopPc κ),
    s.threads[i]? = some ⟨cameraId, pc⟩ → s.threads[j]? = some ⟨cameraId, pc'⟩ →
      pc ≠ .left → pc' ≠ .left → CanAct cameras s i → CanAct cameras s j → i = j

/-- The threads of the camera, if any, left `_capture_loop`. -/
def AllLeft (s : SourceManager κ) (cameraId : String) : Prop :=
  ∀ (i : Nat) (pc : CaptureLoopPc κ), s.threads[i]? = some ⟨cameraId, pc⟩ → pc = .left

/-- No call of `start` starts a thread while one of the same camera has not left its loop. -/
def StartsAlone (s : SourceManager κ) : Event κ → Prop
  | .publish caller => ∀ call, s.starts caller = some call → s.AllLeft call.cameraId
  | _ => True

/-! ## What a step does to the threads -/

@[simp]
theorem stop_threads (s : SourceManager κ) (cameraId : String) :
    (s.stop cameraId).threads = s.threads := by
  unfold stop
  dsimp only
  split <;> rfl

@[simp]
theorem stopAll_threads (s : SourceManager κ) : s.stopAll.threads = s.threads := by
  unfold stopAll
  generalize s.running.keys = keys
  induction keys generalizing s with
  | nil => rfl
  | cons key keys ih =>
    rw [List.foldl_cons, ih, stop_threads]

/-- A thread that makes a step is in its loop or before it, and only goes somewhere else itself. -/
theorem advance_threads {s t : SourceManager κ} {i : Nat} {cameraId : String} {ret : Bool}
    {pc : CaptureLoopPc κ} (h : s.advance i cameraId ret pc = some t) :
    pc ≠ .left ∧ ∃ pc', t.threads = s.threads.set i ⟨cameraId, pc'⟩ := by
  cases pc with
  | left => cases h
  | begin =>
    refine ⟨nofun, ?_⟩
    simp only [advance] at h
    split at h <;> exact ⟨_, congrArg threads (Option.some.inj h).symm⟩
  | loop cap callback place =>
    refine ⟨nofun, ?_⟩
    cases place with
    | test =>
      simp only [advance] at h
      split at h <;> exact ⟨_, congrArg threads (Option.some.inj h).symm⟩
    | read =>
      simp only [advance] at h
      split at h
      · split at h
        · exact ⟨_, congrArg threads (Option.some.inj h).symm⟩
        · cases h
      · exact ⟨_, congrArg threads (Option.some.inj h).symm⟩
    | sleep | release | reopen | callback | pacing =>
      exact ⟨_, congrArg threads (Option.some.inj h).symm⟩

/-- What a step does to the threads: nothing, or it starts one, or one goes on. -/
theorem threads_cases {s t : SourceManager κ} {e : Event κ} (h : step cameras s e = some t) :
    t.threads = s.threads ∨
    (∃ caller call cap, e = .publish caller ∧ s.starts caller = some call ∧
      t = s.publish caller call cap) ∨
    ∃ i cameraId pc pc', s.threads[i]? = some ⟨cameraId, pc⟩ ∧ pc ≠ .left ∧
      t.threads = s.threads.set i ⟨cameraId, pc'⟩ := by
  cases e with
  | start caller cameraId onFrame =>
    left
    simp only [step] at h
    split at h
    · obtain rfl := Option.some.inj h
      unfold start
      split
      · rfl
      · split <;> rfl
    · cases h
  | «open» caller isOpened =>
    left
    simp only [step] at h
    split at h
    · obtain rfl := Option.some.inj h
      rfl
    · cases h
  | publish caller =>
    right
    left
    simp only [step] at h
    split at h
    · next cameraId onFrame cap hcall =>
      obtain rfl := Option.some.inj h
      exact ⟨caller, _, cap, rfl, hcall, rfl⟩
    · cases h
  | stop cameraId =>
    left
    obtain rfl := Option.some.inj h
    exact stop_threads s cameraId
  | stopAll =>
    left
    obtain rfl := Option.some.inj h
    exact stopAll_threads s
  | thread i ret =>
    right
    right
    simp only [step] at h
    split at h
    · next thread hthread =>
      obtain ⟨hpc, pc', ht⟩ := advance_threads h
      exact ⟨i, thread.cameraId, thread.pc, pc', hthread, hpc, ht⟩
    · cases h

/-! ## One thread for each camera -/

/-- At most one thread of each camera has not left `_capture_loop`. -/
def AtMostOneIn (s : SourceManager κ) : Prop :=
  ∀ (i j : Nat) (cameraId : String) (pc pc' : CaptureLoopPc κ),
    s.threads[i]? = some ⟨cameraId, pc⟩ → s.threads[j]? = some ⟨cameraId, pc'⟩ →
      pc ≠ .left → pc' ≠ .left → i = j

theorem AtMostOneIn.acts {s : SourceManager κ} (h : s.AtMostOneIn) : AtMostOneActs cameras s :=
  fun i j cameraId pc pc' hi hj hpc hpc' _ _ => h i j cameraId pc pc' hi hj hpc hpc'

/-- A thread that was started, or was there before. -/
theorem getElem?_publish {s : SourceManager κ} {caller cap : Nat} {call : StartCall κ} {i : Nat}
    {thread : CaptureThread κ} (h : (s.publish caller call cap).threads[i]? = some thread) :
    s.threads[i]? = some thread ∨ i = s.threads.length ∧ thread = ⟨call.cameraId, .begin⟩ := by
  have h : (s.threads ++ [⟨call.cameraId, .begin⟩])[i]? = some thread := h
  by_cases hi : i < s.threads.length
  · rw [List.getElem?_append_left hi] at h
    exact Or.inl h
  · right
    rw [List.getElem?_append_right (Nat.le_of_not_lt hi), List.getElem?_singleton] at h
    split at h
    · next hzero => exact ⟨by omega, (Option.some.inj h).symm⟩
    · cases h

/-- Where the threads of a camera have left when another is started, at most one is left to
act. -/
theorem AtMostOneIn.step {s t : SourceManager κ} {e : Event κ} (hs : s.AtMostOneIn)
    (hok : s.StartsAlone e) (h : SourceManager.step cameras s e = some t) : t.AtMostOneIn := by
  intro i j cameraId pc pc' hi hj hpc hpc'
  rcases threads_cases h with hsame | ⟨caller, call, cap, rfl, hcall, rfl⟩ |
    ⟨k, camera, old, new, hk, hold, ht⟩
  · rw [hsame] at hi hj
    exact hs i j cameraId pc pc' hi hj hpc hpc'
  · have hleft := hok call hcall
    rcases getElem?_publish hi with hi | ⟨hi, hthread⟩ <;>
      rcases getElem?_publish hj with hj | ⟨hj, hthread'⟩
    · exact hs i j cameraId pc pc' hi hj hpc hpc'
    · injection hthread' with hcamera
      exact absurd (hleft i pc (hcamera ▸ hi)) hpc
    · injection hthread with hcamera
      exact absurd (hleft j pc' (hcamera ▸ hj)) hpc'
    · rw [hi, hj]
  · -- the thread that goes on was not out of its loop before
    have hbefore : ∀ {l : Nat} {p : CaptureLoopPc κ}, t.threads[l]? = some ⟨cameraId, p⟩ →
        p ≠ .left → ∃ q, s.threads[l]? = some ⟨cameraId, q⟩ ∧ q ≠ .left := by
      intro l p hl hp
      rw [ht, List.getElem?_set] at hl
      split at hl
      · next heq =>
        subst heq
        split at hl
        · injection Option.some.inj hl with hcamera
          subst hcamera
          exact ⟨old, hk, hold⟩
        · cases hl
      · exact ⟨p, hl, hp⟩
    obtain ⟨q, hi', hq⟩ := hbefore hi hpc
    obtain ⟨q', hj', hq'⟩ := hbefore hj hpc'
    exact hs i j cameraId q q' hi' hj' hq hq'

/-! ## A thread goes on when the flag is set again -/

/-- The thread is at `pc`, and its flag is set. -/
structure At (s : SourceManager κ) (i : Nat) (cameraId : String) (pc : CaptureLoopPc κ) : Prop where
  thread : s.threads[i]? = some ⟨cameraId, pc⟩
  running : s.running.get? cameraId = some true

theorem CanAct.of_step {s t : SourceManager κ} {e : Event κ} {i : Nat}
    (h : step cameras s e = some t) (ht : CanAct cameras t i) : CanAct cameras s i := by
  obtain ⟨events, x, hx, hacts⟩ := ht
  refine ⟨e :: events, x, ?_, hacts⟩
  simp only [Transition.steps, h]
  exact List.mem_cons_of_mem _ hx

/-- A thread that moves leaves its flag. -/
theorem At.goTo {s : SourceManager κ} {i : Nat} {cameraId : String} {pc : CaptureLoopPc κ}
    (h : At s i cameraId pc) (pc' : CaptureLoopPc κ) :
    At (s.goTo i cameraId pc') i cameraId pc' := by
  refine ⟨?_, h.running⟩
  show (s.threads.set i _)[i]? = _
  rw [List.getElem?_set_self (List.getElem?_eq_some_iff.mp h.thread).1]

theorem At.step {s : SourceManager κ} {i : Nat} {cameraId : String} {pc : CaptureLoopPc κ}
    (h : At s i cameraId pc) (ret : Bool) :
    SourceManager.step cameras s (.thread i ret) = s.advance i cameraId ret pc := by
  simp only [SourceManager.step, h.thread]

section Going
variable {s : SourceManager κ} {i : Nat} {cameraId : String} {cap : Nat} {callback : κ}

/-- A thread at a step by which it acts takes it. -/
theorem At.canAct_now {place : CapturePlace} {t : SourceManager κ}
    (h : At s i cameraId (.loop cap callback place)) (hplace : place = .callback ∨ place = .reopen)
    (ht : s.advance i cameraId false (.loop cap callback place) = some t) :
    CanAct cameras s i := by
  refine ⟨[.thread i false], ⟨s, .thread i false, t⟩, ?_, false, cameraId, cap, callback, place,
    rfl, h.thread, hplace⟩
  simp only [Transition.steps, h.step, ht]
  exact List.mem_singleton_self _

theorem At.canAct_release (h : At s i cameraId (.loop cap callback .release)) :
    CanAct cameras s i := by
  apply CanAct.of_step ((h.step false).trans rfl)
  have hnext := h.goTo (.loop cap callback .reopen)
  exact At.canAct_now ⟨hnext.thread, hnext.running⟩ (Or.inr rfl) rfl

theorem At.canAct_sleep (h : At s i cameraId (.loop cap callback .sleep)) : CanAct cameras s i :=
  .of_step ((h.step false).trans rfl) (h.goTo _).canAct_release

/-- A read may fail at any time. -/
theorem At.canAct_read (h : At s i cameraId (.loop cap callback .read)) : CanAct cameras s i :=
  .of_step ((h.step false).trans rfl) (h.goTo _).canAct_sleep

theorem At.canAct_test (h : At s i cameraId (.loop cap callback .test)) : CanAct cameras s i := by
  apply CanAct.of_step ((h.step false).trans ?_) (h.goTo (.loop cap callback .read)).canAct_read
  simp only [advance, h.running, Option.getD_some, if_true]

theorem At.canAct_pacing (h : At s i cameraId (.loop cap callback .pacing)) :
    CanAct cameras s i :=
  .of_step ((h.step false).trans rfl) (h.goTo _).canAct_test

/-- Every thread that has not left its loop can act once its flag is set, if its dictionaries have
what it begins with. -/
theorem At.canAct {pc : CaptureLoopPc κ} (h : At s i cameraId pc) (hpc : pc ≠ .left)
    (hcap : s.captures.get? cameraId = some cap)
    (hcallback : s.callbacks.get? cameraId = some callback) : CanAct cameras s i := by
  cases pc with
  | left => exact absurd rfl hpc
  | begin =>
    apply CanAct.of_step ((h.step false).trans ?_) (h.goTo (.loop cap callback .test)).canAct_test
    simp only [advance, hcap, hcallback]
  | loop cap callback place =>
    cases place with
    | test => exact h.canAct_test
    | read => exact h.canAct_read
    | sleep => exact h.canAct_sleep
    | release => exact h.canAct_release
    | reopen => exact h.canAct_now (Or.inr rfl) rfl
    | callback => exact h.canAct_now (Or.inl rfl) rfl
    | pacing => exact h.canAct_pacing

end Going

/-- A thread that is started while another of the camera has not left its loop makes two that can
act. -/
theorem not_atMostOneActs_publish {s : SourceManager κ} {caller cap : Nat} {call : StartCall κ}
    (h : ¬ s.AllLeft call.cameraId) : ¬ AtMostOneActs cameras (s.publish caller call cap) := by
  unfold AllLeft at h
  push Not at h
  obtain ⟨i, pc, hthread, hpc⟩ := h
  have hi : i < s.threads.length := (List.getElem?_eq_some_iff.mp hthread).1
  let t := s.publish caller call cap
  have hrunning : t.running.get? call.cameraId = some true := Dict.get?_set_self ..
  have hcap : t.captures.get? call.cameraId = some cap := Dict.get?_set_self ..
  have hcallback : t.callbacks.get? call.cameraId = some call.onFrame := Dict.get?_set_self ..
  have hold : At t i call.cameraId pc :=
    ⟨(List.getElem?_append_left hi).trans hthread, hrunning⟩
  have hnew : At t s.threads.length call.cameraId .begin := by
    refine ⟨?_, hrunning⟩
    show (s.threads ++ [⟨call.cameraId, .begin⟩])[s.threads.length]? = _
    rw [List.getElem?_append_right (Nat.le_refl _), Nat.sub_self]
    rfl
  intro hone
  have hsame := hone i s.threads.length call.cameraId pc .begin hold.thread hnew.thread hpc nofun
    (hold.canAct hpc hcap hcallback) (hnew.canAct nofun hcap hcallback)
  omega

theorem step_publish_cases {s t : SourceManager κ} {caller : Nat}
    (h : step cameras s (.publish caller) = some t) :
    ∃ call cap, s.starts caller = some call ∧ t = s.publish caller call cap := by
  simp only [step] at h
  split at h
  · next cameraId onFrame cap hcall =>
    obtain rfl := Option.some.inj h
    exact ⟨_, cap, hcall, rfl⟩
  · cases h

/-- In every state that a run reaches at most one thread of each camera can still act, exactly when
every call of `start` in it starts a thread only after all earlier ones of the camera left. -/
theorem one_capture_loop_iff (cameras : List String) (events : List (Event κ)) :
    (∀ x ∈ Transition.steps (step cameras) (init κ) events, AtMostOneActs cameras x.target) ↔
      ∀ x ∈ Transition.steps (step cameras) (init κ) events, x.source.StartsAlone x.event := by
  apply Transition.everyTarget_iff (I := AtMostOneIn)
  · intro s e t hs hok h
    have ht := hs.step hok h
    exact ⟨ht, ht.acts⟩
  · intro s e t _ hok h
    cases e with
    | publish caller =>
      obtain ⟨call, cap, hcall, rfl⟩ := step_publish_cases h
      apply not_atMostOneActs_publish
      intro hleft
      apply hok
      intro call' hcall'
      rw [hcall] at hcall'
      exact Option.some.inj hcall' ▸ hleft
    | start | «open» | stop | stopAll | thread => exact absurd trivial hok
  · intro i j cameraId pc pc' hi
    cases hi

/-- The camera is stopped while its thread reads, and started again at once. -/
def restart : List (Event Unit) :=
  [.start 0 "cam-01" (), .open 0 true, .publish 0, .thread 0 true, .thread 0 true,
    .stop "cam-01", .start 0 "cam-01" (), .open 0 true, .publish 0]

/-- Then both threads can call the callback or open a capture. -/
theorem restart_two_act :
    ¬ AtMostOneActs ["cam-01"] (Transition.exec (step ["cam-01"]) (init Unit) restart) := by
  have hlast : Transition.exec (step ["cam-01"]) (init Unit) restart =
      (Transition.exec (step ["cam-01"]) (init Unit) restart.dropLast).publish 0
        ⟨"cam-01", (), some 1⟩ 1 := rfl
  rw [hlast]
  apply not_atMostOneActs_publish
  intro hleft
  have hreads := hleft 0 (.loop 0 () .read) rfl
  cases hreads

end SourceManager

end EdgeSafety
