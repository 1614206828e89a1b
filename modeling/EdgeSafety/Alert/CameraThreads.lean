import EdgeSafety.Alert.Delivered
import Mathlib.Logic.Function.Basic

/-!
# The alert pipeline in the capture threads

Every local camera has a capture thread, and all of them call `process` on one `AlertPipeline` and
then hand the violations that it returns to the dashboard, one by one (`_handle_frame` of
`edge/capture_loop.py`). A step of a thread is one call to what the threads share: `is_in_roi`,
`should_alert`, the dispatch with its INSERT, and `_send_ws`. Time passes between any two steps.
-/

namespace EdgeSafety

variable {K : Type} [Field K] [LinearOrder K]

/-- Where the thread of a camera is, and what it holds. -/
inductive AlertPc (K : Type)
  /-- About to call `is_in_roi`. -/
  | looping (violation : Violation K) (rest dispatched : List (Violation K))
  /-- About to call `should_alert`. -/
  | cooling (violation : Violation K) (rest dispatched : List (Violation K))
  /-- About to call `dispatch`, with the time that the cooldown noted. -/
  | dispatching (violation : Violation K) (rest dispatched : List (Violation K)) (firedUs : Nat)
  /-- About to send what `process` returned. Where nothing is left, the next frame may come; this is
  also where an exception in `process` ends. -/
  | announcing (violations : List (Violation K))

namespace AlertPc

/-- The loop of `process` goes on with the violations that remain. -/
def loop (remaining dispatched : List (Violation K)) : AlertPc K :=
  match remaining with
  | [] => .announcing dispatched
  | violation :: rest => .looping violation rest dispatched

/-- The violations that were dispatched and are not announced yet. -/
def unannounced : AlertPc K → List (Violation K)
  | .looping _ _ dispatched | .cooling _ _ dispatched | .dispatching _ _ dispatched _ => dispatched
  | .announcing violations => violations

/-- All violations that a thread holds. -/
def held : AlertPc K → List (Violation K)
  | .looping violation rest dispatched | .cooling violation rest dispatched
  | .dispatching violation rest dispatched _ => violation :: rest ++ dispatched
  | .announcing violations => violations

end AlertPc

/-- How a dispatch goes on: it raises before its row is committed, or the row gets an id and the
rest of the dispatch returns or raises. -/
inductive InsertOutcome
  | raised
  | inserted (id : Nat) (returned : Bool)

/-- The capture threads and what they share. -/
structure AlertThreads (K : Type) [Field K] where
  classifier : ViolationClassifier K
  cooldown : CooldownManager K
  database : List (ViolationRow K)
  clockUs : Nat
  threads : String → AlertPc K
  /-- What `_send_ws` was given. -/
  announced : List (Violation K)

namespace AlertThreads

/-- What happens next. -/
inductive Event (K : Type)
  | tick (clockUs : Nat)
  /-- The thread of the result's camera calls `process`. -/
  | process (result : DetectionResult K)
  /-- `is_in_roi` answers or raises. -/
  | isInRoi (camera : String) (answer : Option Bool)
  | shouldAlert (camera : String)
  | dispatch (camera : String) (outcome : InsertOutcome)
  | announce (camera : String)

/-- The threads before their first frames. -/
def init (classifier : ViolationClassifier K) (cooldownSeconds : K)
    (database : List (ViolationRow K)) (clockUs : Nat) : AlertThreads K where
  classifier
  cooldown := { cooldownSeconds }
  database
  clockUs
  threads _ := .announcing []
  announced := []

/-- The thread of a camera goes on at `pc`. -/
def threadTo (s : AlertThreads K) (camera : String) (pc : AlertPc K) : AlertThreads K :=
  { s with threads := Function.update s.threads camera pc }

/-- One step of the system. The id of a new row is none that was given before. -/
def step (s : AlertThreads K) : Event K → Option (AlertThreads K)
  | .tick clockUs => if s.clockUs ≤ clockUs then some { s with clockUs } else none
  | .process result =>
    match s.threads result.cameraId with
    | .announcing [] =>
      some (s.threadTo result.cameraId (.loop (s.classifier.classify result) []))
    | _ => none
  | .isInRoi camera answer =>
    match s.threads camera with
    | .looping violation rest dispatched =>
      some (s.threadTo camera
        (match answer with
        | none => .announcing []
        | some false => .loop rest dispatched
        | some true => .cooling violation rest dispatched))
    | _ => none
  | .shouldAlert camera =>
    match s.threads camera with
    | .cooling violation rest dispatched =>
      let (alert, cooldown) := s.cooldown.shouldAlert violation.key s.clockUs
      some ({ s with cooldown }.threadTo camera
        (if alert then .dispatching violation rest dispatched s.clockUs
          else .loop rest dispatched))
    | _ => none
  | .dispatch camera outcome =>
    match s.threads camera, outcome with
    | .dispatching _ _ _ _, .raised => some (s.threadTo camera (.announcing []))
    | .dispatching violation rest dispatched _, .inserted id returned =>
      if ∀ row ∈ s.database, row.id ≠ id then
        some ({ s with database := s.database ++ [violation.row id s.clockUs] }.threadTo camera
          (if returned then .loop rest (dispatched ++ [{ violation with id := some id }])
            else .announcing []))
      else none
    | _, _ => none
  | .announce camera =>
    match s.threads camera with
    | .announcing (violation :: rest) =>
      some ({ s with announced := s.announced ++ [violation] }.threadTo camera (.announcing rest))
    | _ => none

/-- The rows that were inserted, and among them for each camera those of calls of `process` that
did not raise and those of calls that did. -/
structure History (K : Type) where
  inserted : List (ViolationRow K) := []
  live : String → List (ViolationRow K) := fun _ => []
  lost : String → List (ViolationRow K) := fun _ => []

namespace History

/-- The call of a camera's thread raises after it inserted the last `count` rows of the camera. -/
def lose (h : History K) (camera : String) (count : Nat) : History K :=
  let kept := (h.live camera).length - count
  { h with
    live := Function.update h.live camera ((h.live camera).take kept)
    lost := Function.update h.lost camera (h.lost camera ++ (h.live camera).drop kept) }

/-- A row is inserted. -/
def insert (h : History K) (camera : String) (row : ViolationRow K) : History K :=
  { h with
    inserted := h.inserted ++ [row]
    live := Function.update h.live camera (h.live camera ++ [row]) }

end History

/-- What a step adds. -/
def record (h : History K) (s : AlertThreads K) : Event K → History K
  | .isInRoi camera none => h.lose camera (s.threads camera).unannounced.length
  | .dispatch camera .raised => h.lose camera (s.threads camera).unannounced.length
  | .dispatch camera (.inserted id returned) =>
    match s.threads camera with
    | .dispatching violation _ dispatched _ =>
      let h := h.insert camera (violation.row id s.clockUs)
      if returned then h else h.lose camera (dispatched.length + 1)
    | _ => h
  | _ => h

/-- The threads after a run, with what happened. -/
def observe (classifier : ViolationClassifier K) (cooldownSeconds : K)
    (database : List (ViolationRow K)) (clockUs : Nat) (events : List (Event K)) :
    Transition.Recorded (AlertThreads K) (History K) :=
  Transition.exec (Transition.recorded step record)
    ⟨init classifier cooldownSeconds database clockUs, {}⟩ events

/-- What a step does, one constructor for each branch. -/
inductive RecordedStep (s : AlertThreads K) (h : History K) : AlertThreads K → History K → Prop
  | tick (clockUs : Nat) (later : s.clockUs ≤ clockUs) : RecordedStep s h { s with clockUs } h
  | process (result : DetectionResult K) (pc : s.threads result.cameraId = .announcing []) :
      RecordedStep s h (s.threadTo result.cameraId (.loop (s.classifier.classify result) [])) h
  | roiRaised {violation : Violation K} {rest dispatched : List (Violation K)} (camera : String)
      (pc : s.threads camera = .looping violation rest dispatched) :
      RecordedStep s h (s.threadTo camera (.announcing [])) (h.lose camera dispatched.length)
  | outside {violation : Violation K} {rest dispatched : List (Violation K)} (camera : String)
      (pc : s.threads camera = .looping violation rest dispatched) :
      RecordedStep s h (s.threadTo camera (.loop rest dispatched)) h
  | inside {violation : Violation K} {rest dispatched : List (Violation K)} (camera : String)
      (pc : s.threads camera = .looping violation rest dispatched) :
      RecordedStep s h (s.threadTo camera (.cooling violation rest dispatched)) h
  | suppressed {violation : Violation K} {rest dispatched : List (Violation K)} (camera : String)
      (pc : s.threads camera = .cooling violation rest dispatched)
      (answer : (s.cooldown.shouldAlert violation.key s.clockUs).1 = false) :
      RecordedStep s h (s.threadTo camera (.loop rest dispatched)) h
  | fired {violation : Violation K} {rest dispatched : List (Violation K)} (camera : String)
      (pc : s.threads camera = .cooling violation rest dispatched)
      (answer : (s.cooldown.shouldAlert violation.key s.clockUs).1 = true) :
      RecordedStep s h
        ({ s with cooldown := { s.cooldown with
            lastAlert := s.cooldown.lastAlert.set violation.key s.clockUs } }.threadTo camera
          (.dispatching violation rest dispatched s.clockUs)) h
  | notInserted {violation : Violation K} {rest dispatched : List (Violation K)} {firedUs : Nat}
      (camera : String) (pc : s.threads camera = .dispatching violation rest dispatched firedUs) :
      RecordedStep s h (s.threadTo camera (.announcing [])) (h.lose camera dispatched.length)
  | inserted {violation : Violation K} {rest dispatched : List (Violation K)} {firedUs : Nat}
      (camera : String) (id : Nat) (returned : Bool)
      (pc : s.threads camera = .dispatching violation rest dispatched firedUs)
      (fresh : ∀ row ∈ s.database, row.id ≠ id) :
      RecordedStep s h
        ({ s with database := s.database ++ [violation.row id s.clockUs] }.threadTo camera
          (if returned then .loop rest (dispatched ++ [{ violation with id := some id }])
            else .announcing []))
        (if returned then h.insert camera (violation.row id s.clockUs)
          else (h.insert camera (violation.row id s.clockUs)).lose camera (dispatched.length + 1))
  | announce {violation : Violation K} {rest : List (Violation K)} (camera : String)
      (pc : s.threads camera = .announcing (violation :: rest)) :
      RecordedStep s h
        ({ s with announced := s.announced ++ [violation] }.threadTo camera (.announcing rest)) h

theorem step_recorded {s t : AlertThreads K} (h : History K) {e : Event K}
    (hstep : s.step e = some t) : RecordedStep s h t (record h s e) := by
  cases e with
  | tick clockUs =>
    simp only [step] at hstep
    split at hstep
    · next later =>
      obtain rfl := Option.some.inj hstep
      exact .tick clockUs later
    · cases hstep
  | process result =>
    simp only [step] at hstep
    split at hstep
    · next pc =>
      obtain rfl := Option.some.inj hstep
      exact .process result pc
    · cases hstep
  | isInRoi camera answer =>
    simp only [step] at hstep
    split at hstep
    · next pc =>
      obtain rfl := Option.some.inj hstep
      match answer with
      | none =>
        simp only [record, pc]
        exact .roiRaised camera pc
      | some false => exact .outside camera pc
      | some true => exact .inside camera pc
    · cases hstep
  | shouldAlert camera =>
    simp only [step] at hstep
    split at hstep
    · next violation rest dispatched pc =>
      obtain rfl := Option.some.inj hstep
      cases answer : (s.cooldown.shouldAlert violation.key s.clockUs).1 with
      | false =>
        rw [shouldAlert_suppresses answer]
        exact .suppressed camera pc answer
      | true =>
        rw [shouldAlert_fires answer]
        exact .fired camera pc answer
    · cases hstep
  | dispatch camera outcome =>
    simp only [step] at hstep
    split at hstep
    · next pc =>
      obtain rfl := Option.some.inj hstep
      simp only [record, pc]
      exact .notInserted camera pc
    · next violation rest dispatched firedUs id returned pc =>
      split at hstep
      · next fresh =>
        obtain rfl := Option.some.inj hstep
        simp only [record, pc]
        exact .inserted camera id returned pc fresh
      · cases hstep
    · cases hstep
  | announce camera =>
    simp only [step] at hstep
    split at hstep
    · next pc =>
      obtain rfl := Option.some.inj hstep
      exact .announce camera pc
    · cases hstep

end AlertThreads

end EdgeSafety
