import EdgeSafety.Alert.RoiMatcher
import EdgeSafety.Lib.Transition

/-!
# The cache of the regions

`ROIMatcher` keeps the polygons of the cameras in a cache, which the threads of the cameras and the
handlers of `PUT /api/roi/{camera_id}` share without a lock. A step is one access to the cache or
to the database. A handler invalidates the entry of its camera after it has saved the new polygon,
but a call of `is_in_roi` that has read the old one may store it later, and no one invalidates it
then.
-/

namespace EdgeSafety

/-- The points of a payload; a point that is too short makes the handler raise. -/
def roiPoints {K : Type} (payload : List (List K)) : Option (List (K × K)) :=
  payload.mapM fun
    | x :: y :: _ => some (x, y)
    | _ => none

/-- How far a call of `is_in_roi` has got: the camera is not in the cache, the polygon has been read
from the database, the camera is in the cache, and the polygon has been read from the cache. -/
inductive RoiPoint (P : Type) where
  | missed
  | loaded (polygon : Option P)
  | cached
  | holding (polygon : Option P)
  deriving DecidableEq

/-- A call of `is_in_roi` that is under way. -/
structure RoiCall (K P : Type) where
  cameraId : String
  bbox : BBox K
  point : RoiPoint P
  deriving DecidableEq

/-- One access to the cache or to the database, by a thread or by a handler. -/
inductive RoiEvent (K : Type) where
  | lookup (thread : Nat) (cameraId : String) (bbox : BBox K)
  | load (thread : Nat)
  | store (thread : Nat)
  | fetch (thread : Nat)
  | test (thread : Nat)
  | saveRoi (handler : Nat) (cameraId : String) (payload : List (List K))
  | invalidate (handler : Nat)
  deriving DecidableEq

/-- The table and the cache, the calls of `is_in_roi` that are under way, and the handlers that have
saved a polygon and not yet invalidated its cache entry, with their cameras. -/
structure RoiMatching (K P : Type) where
  configs : RoiConfigs K
  cache : Dict String (Option P) := .empty
  calls : Dict Nat (RoiCall K P) := .empty
  handlers : Dict Nat String := .empty

namespace RoiMatching

variable {K P : Type}

/-- A call goes on. -/
def goto (matching : RoiMatching K P) (thread : Nat) (call : RoiCall K P) (point : RoiPoint P) :
    RoiMatching K P :=
  { matching with calls := matching.calls.set thread { call with point } }

/-- The polygon of a camera by the table. -/
def saved (shapely : Shapely K P) (matching : RoiMatching K P) (cameraId : String) : Option P :=
  shapely.loadPolygon (matching.configs.get? cameraId)

/-- One step. A call ends when it has tested the point, or with a `KeyError` when it finds the entry
gone that it has seen or stored. -/
def step (shapely : Shapely K P) (matching : RoiMatching K P) :
    RoiEvent K → Option (RoiMatching K P)
  | .lookup thread cameraId bbox =>
    match matching.calls.get? thread with
    | some _ => none
    | none =>
      let point := if (matching.cache.get? cameraId).isSome then .cached else .missed
      some { matching with calls := matching.calls.set thread { cameraId, bbox, point } }
  | .load thread => do
    let call ← matching.calls.get? thread
    match call.point with
    | .missed => some (matching.goto thread call (.loaded (matching.saved shapely call.cameraId)))
    | _ => none
  | .store thread => do
    let call ← matching.calls.get? thread
    match call.point with
    | .loaded polygon =>
      let matching := matching.goto thread call .cached
      some { matching with cache := matching.cache.set call.cameraId polygon }
    | _ => none
  | .fetch thread => do
    let call ← matching.calls.get? thread
    match call.point with
    | .cached =>
      match matching.cache.get? call.cameraId with
      | none => some { matching with calls := matching.calls.erase thread }
      | some polygon => some (matching.goto thread call (.holding polygon))
    | _ => none
  | .test thread => do
    let call ← matching.calls.get? thread
    match call.point with
    | .holding _ => some { matching with calls := matching.calls.erase thread }
    | _ => none
  | .saveRoi handler cameraId payload =>
    match matching.handlers.get? handler with
    | some _ => none
    | none => do
      let points ← roiPoints payload
      some { matching with
        configs := matching.configs.set cameraId points
        handlers := matching.handlers.set handler cameraId }
  | .invalidate handler => do
    let cameraId ← matching.handlers.get? handler
    some { matching with
      cache := matching.cache.erase cameraId
      handlers := matching.handlers.erase handler }

/-- A polygon of the camera has been saved, and the cache is still to be invalidated. -/
def Pending (matching : RoiMatching K P) (cameraId : String) : Prop :=
  ∃ handler, matching.handlers.get? handler = some cameraId

/-- The steps, one by one. -/
inductive Stepped (shapely : Shapely K P) (matching : RoiMatching K P) :
    RoiEvent K → RoiMatching K P → Prop
  | lookup (thread : Nat) (cameraId : String) (bbox : BBox K) (point : RoiPoint P)
      (idle : matching.calls.get? thread = none)
      (hit : point = if (matching.cache.get? cameraId).isSome then .cached else .missed) :
      Stepped shapely matching (.lookup thread cameraId bbox)
        { matching with calls := matching.calls.set thread { cameraId, bbox, point } }
  | load (thread : Nat) (call : RoiCall K P) (hcall : matching.calls.get? thread = some call)
      (hpoint : call.point = .missed) : Stepped shapely matching (.load thread)
        (matching.goto thread call (.loaded (matching.saved shapely call.cameraId)))
  | store (thread : Nat) (call : RoiCall K P) (polygon : Option P)
      (hcall : matching.calls.get? thread = some call) (hpoint : call.point = .loaded polygon) :
      Stepped shapely matching (.store thread)
        { matching.goto thread call .cached with
          cache := matching.cache.set call.cameraId polygon }
  | keyError (thread : Nat) (call : RoiCall K P) (hcall : matching.calls.get? thread = some call)
      (hpoint : call.point = .cached) (gone : matching.cache.get? call.cameraId = none) :
      Stepped shapely matching (.fetch thread)
        { matching with calls := matching.calls.erase thread }
  | fetch (thread : Nat) (call : RoiCall K P) (polygon : Option P)
      (hcall : matching.calls.get? thread = some call) (hpoint : call.point = .cached)
      (hit : matching.cache.get? call.cameraId = some polygon) :
      Stepped shapely matching (.fetch thread) (matching.goto thread call (.holding polygon))
  | test (thread : Nat) (call : RoiCall K P) (polygon : Option P)
      (hcall : matching.calls.get? thread = some call) (hpoint : call.point = .holding polygon) :
      Stepped shapely matching (.test thread)
        { matching with calls := matching.calls.erase thread }
  | saveRoi (handler : Nat) (cameraId : String) (payload : List (List K)) (points : List (K × K))
      (idle : matching.handlers.get? handler = none) (hpoints : roiPoints payload = some points) :
      Stepped shapely matching (.saveRoi handler cameraId payload)
        { matching with
          configs := matching.configs.set cameraId points
          handlers := matching.handlers.set handler cameraId }
  | invalidate (handler : Nat) (cameraId : String)
      (hhandler : matching.handlers.get? handler = some cameraId) :
      Stepped shapely matching (.invalidate handler)
        { matching with
          cache := matching.cache.erase cameraId
          handlers := matching.handlers.erase handler }

theorem step_stepped {shapely : Shapely K P} {matching next : RoiMatching K P} {event : RoiEvent K}
    (h : matching.step shapely event = some next) : Stepped shapely matching event next := by
  cases event with
  | lookup thread cameraId bbox =>
    cases hcall : matching.calls.get? thread with
    | some call => simp [step, hcall] at h
    | none =>
      simp only [step, hcall, Option.some.injEq] at h
      exact h ▸ .lookup thread cameraId bbox _ hcall rfl
  | load thread =>
    obtain ⟨call, hcall, h⟩ := Option.bind_eq_some_iff.mp h
    cases hpoint : call.point with
    | missed =>
      simp only [hpoint, Option.some.injEq] at h
      exact h ▸ .load thread call hcall hpoint
    | _ => simp [hpoint] at h
  | store thread =>
    obtain ⟨call, hcall, h⟩ := Option.bind_eq_some_iff.mp h
    cases hpoint : call.point with
    | loaded polygon =>
      simp only [hpoint, Option.some.injEq] at h
      exact h ▸ .store thread call polygon hcall hpoint
    | _ => simp [hpoint] at h
  | fetch thread =>
    obtain ⟨call, hcall, h⟩ := Option.bind_eq_some_iff.mp h
    cases hpoint : call.point with
    | cached =>
      cases hhit : matching.cache.get? call.cameraId with
      | none =>
        simp only [hpoint, hhit, Option.some.injEq] at h
        exact h ▸ .keyError thread call hcall hpoint hhit
      | some polygon =>
        simp only [hpoint, hhit, Option.some.injEq] at h
        exact h ▸ .fetch thread call polygon hcall hpoint hhit
    | _ => simp [hpoint] at h
  | test thread =>
    obtain ⟨call, hcall, h⟩ := Option.bind_eq_some_iff.mp h
    cases hpoint : call.point with
    | holding polygon =>
      simp only [hpoint, Option.some.injEq] at h
      exact h ▸ .test thread call polygon hcall hpoint
    | _ => simp [hpoint] at h
  | saveRoi handler cameraId payload =>
    cases hhandler : matching.handlers.get? handler with
    | some other => simp [step, hhandler] at h
    | none =>
      simp only [step, hhandler] at h
      obtain ⟨points, hpoints, h⟩ := Option.bind_eq_some_iff.mp h
      rw [← Option.some.inj h]
      exact .saveRoi handler cameraId payload points hhandler hpoints
  | invalidate handler =>
    obtain ⟨cameraId, hhandler, h⟩ := Option.bind_eq_some_iff.mp h
    rw [← Option.some.inj h]
    exact .invalidate handler cameraId hhandler

end RoiMatching

/-- What has happened in a run: the number of its steps, when the last call of each thread began and
when the last handler of each camera returned, and which calls are later ones: they began when the
last handler of their camera had returned and no call was under way from before its return, and no
handler of the camera has begun since. -/
structure RoiHistory where
  steps : Nat := 0
  began : Nat → Nat := fun _ => 0
  returned : String → Option Nat := fun _ => none
  later : Nat → Bool := fun _ => false

section History
variable {K P : Type}

/-- Whether a call that begins now is a later one. -/
def RoiHistory.settled (history : RoiHistory) (matching : RoiMatching K P) (cameraId : String) :
    Bool :=
  matching.handlers.entries.all (fun entry => entry.2 ≠ cameraId) &&
    (history.returned cameraId).any fun returned =>
      matching.calls.entries.all fun entry => returned ≤ history.began entry.1

/-- Adds a step. -/
def RoiHistory.record (history : RoiHistory) (matching : RoiMatching K P) :
    RoiEvent K → RoiHistory
  | .lookup thread cameraId _ =>
    { history with
      steps := history.steps + 1
      began := Function.update history.began thread history.steps
      later := Function.update history.later thread (history.settled matching cameraId) }
  | .saveRoi _ cameraId _ =>
    { history with
      steps := history.steps + 1
      later := fun thread => history.later thread &&
        (matching.calls.get? thread).all fun call => call.cameraId ≠ cameraId }
  | .invalidate handler =>
    { history with
      steps := history.steps + 1
      returned := match matching.handlers.get? handler with
        | none => history.returned
        | some cameraId => Function.update history.returned cameraId (some history.steps) }
  | _ => { history with steps := history.steps + 1 }

/-- A step, with the history. -/
abbrev RoiTaken (K P : Type) :=
  Transition.Taken (Transition.Recorded (RoiMatching K P) RoiHistory) (RoiEvent K)

/-- The steps of a run that starts with an empty cache. -/
def roiSteps (shapely : Shapely K P) (configs : RoiConfigs K) (events : List (RoiEvent K)) :
    List (RoiTaken K P) :=
  Transition.steps (Transition.recorded (RoiMatching.step shapely) RoiHistory.record)
    ⟨{ configs }, {}⟩ events

/-- A later call finds its entry in the cache, and it tests the point against the polygon that was
saved last. -/
def RoiTaken.UsesSaved (shapely : Shapely K P) (taken : RoiTaken K P) : Prop :=
  ∀ thread call, taken.source.state.calls.get? thread = some call →
    taken.source.history.later thread = true →
    (taken.event = .fetch thread → (taken.source.state.cache.get? call.cameraId).isSome = true) ∧
    (taken.event = .test thread →
      call.point = .holding (taken.source.state.saved shapely call.cameraId))

/-- A call that stores a polygon stores the one that was saved last, unless a handler is still to
invalidate the entry. -/
def RoiMatching.StoresSaved (shapely : Shapely K P) (matching : RoiMatching K P)
    (event : RoiEvent K) : Prop :=
  ∀ thread call polygon, event = .store thread → matching.calls.get? thread = some call →
    call.point = .loaded polygon →
    polygon = matching.saved shapely call.cameraId ∨ matching.Pending call.cameraId

/-- A camera in the cache has the polygon that was saved last, unless a handler is still to
invalidate the entry. -/
def RoiMatching.Coherent (shapely : Shapely K P) (matching : RoiMatching K P) : Prop :=
  ∀ cameraId polygon, matching.cache.get? cameraId = some polygon →
    polygon = matching.saved shapely cameraId ∨ matching.Pending cameraId

end History

namespace RoiMatching
variable {K P : Type} {shapely : Shapely K P} {matching next : RoiMatching K P}
  {event : RoiEvent K} {cameraId : String}

theorem saved_save {points : List (K × K)} {handlers : Dict Nat String} {other : String}
    (h : other ≠ cameraId) :
    saved shapely { matching with configs := matching.configs.set cameraId points, handlers }
      other = matching.saved shapely other := by
  rw [saved, Dict.get?_set_of_ne _ h, saved]

/-- The handlers after one has saved. -/
theorem pending_save {configs : RoiConfigs K} {handler : Nat} {other : String}
    (idle : matching.handlers.get? handler = none) :
    Pending { matching with configs, handlers := matching.handlers.set handler cameraId } other ↔
      other = cameraId ∨ matching.Pending other := by
  constructor
  · rintro ⟨pending, hpending⟩
    rcases Dict.get?_set_eq_some_iff.mp hpending with ⟨-, rfl⟩ | ⟨-, hold⟩
    · exact .inl rfl
    · exact .inr ⟨pending, hold⟩
  · rintro (rfl | ⟨pending, hold⟩)
    · exact ⟨handler, Dict.get?_set_self _ _ _⟩
    · have hne : pending ≠ handler := by
        rintro rfl
        rw [idle] at hold
        cases hold
      exact ⟨pending, (Dict.get?_set_of_ne _ hne _).trans hold⟩

/-- The handlers of the other cameras stay when one invalidates its entry. -/
theorem pending_invalidate {cache : Dict String (Option P)} {handler : Nat} {other : String}
    (hhandler : matching.handlers.get? handler = some cameraId) (h : other ≠ cameraId) :
    Pending { matching with cache, handlers := matching.handlers.erase handler } other ↔
      matching.Pending other := by
  constructor
  · rintro ⟨pending, hpending⟩
    exact ⟨pending, (Dict.get?_erase_eq_some_iff.mp hpending).2⟩
  · rintro ⟨pending, hpending⟩
    refine ⟨pending, Dict.get?_erase_eq_some_iff.mpr ⟨?_, hpending⟩⟩
    rintro rfl
    rw [hhandler] at hpending
    exact h (Option.some.inj hpending).symm

/-- A step that stores the polygon that was saved last keeps the cache coherent. -/
theorem Coherent.stepped (hs : matching.Coherent shapely)
    (hstores : matching.StoresSaved shapely event) (h : Stepped shapely matching event next) :
    next.Coherent shapely := by
  intro other polygon hother
  cases h with
  | lookup | load | keyError | fetch | test => exact hs other polygon hother
  | store thread call stored hcall hpoint =>
    rcases Dict.get?_set_eq_some_iff.mp hother with ⟨rfl, rfl⟩ | ⟨-, hold⟩
    · exact hstores thread call polygon rfl hcall hpoint
    · exact hs other polygon hold
  | saveRoi handler cameraId payload points idle hpoints =>
    rw [pending_save idle]
    by_cases hcamera : other = cameraId
    · exact .inr (.inl hcamera)
    · rw [saved_save hcamera]
      exact (hs other polygon hother).imp_right .inr
  | invalidate handler cameraId hhandler =>
    obtain ⟨hcamera, hold⟩ := Dict.get?_erase_eq_some_iff.mp hother
    rw [pending_invalidate hhandler hcamera]
    exact hs other polygon hold

/-- A step that stores an old polygon does not. -/
theorem not_coherent_stepped (hstores : ¬ matching.StoresSaved shapely event)
    (h : Stepped shapely matching event next) : ¬ next.Coherent shapely := by
  simp only [StoresSaved, not_forall] at hstores
  obtain ⟨thread, call, polygon, rfl, hcall, hpoint, hold⟩ := hstores
  cases h with
  | store _ other stored hother hstored =>
    obtain rfl := Option.some.inj (hcall.symm.trans hother)
    obtain rfl := RoiPoint.loaded.inj (hpoint.symm.trans hstored)
    exact fun hs => hold (hs call.cameraId polygon (Dict.get?_set_self _ _ _))

/-- Where a later call stands: no handler of its camera is under way, so that its entry stays in the
cache, and the polygon that it has is the one that was saved last. -/
structure LaterCall (shapely : Shapely K P) (matching : RoiMatching K P) (call : RoiCall K P) :
    Prop where
  quiet : ¬ matching.Pending call.cameraId
  present : call.point = .cached → (matching.cache.get? call.cameraId).isSome = true
  holding : ∀ polygon, call.point = .holding polygon →
    polygon = matching.saved shapely call.cameraId

/-- The later calls, beside a coherent cache. -/
structure LaterCalls (shapely : Shapely K P) (matching : RoiMatching K P) (history : RoiHistory) :
    Prop where
  coherent : matching.Coherent shapely
  later : ∀ thread call, matching.calls.get? thread = some call → history.later thread = true →
    LaterCall shapely matching call

/-- No handler of its camera is under way when a later call begins. -/
theorem not_pending_of_settled {history : RoiHistory}
    (h : history.settled matching cameraId = true) : ¬ matching.Pending cameraId := by
  rintro ⟨handler, hhandler⟩
  have hall := (Bool.and_eq_true_iff.mp h).1
  have hother := List.all_eq_true.mp hall _ (Dict.get?_eq_some_iff.mp hhandler)
  simp at hother

section Steps
variable {history : RoiHistory} {thread : Nat} {call : RoiCall K P}

/-- A call goes on, and the table, the cache and the handlers stay. -/
theorem LaterCalls.goto (hs : LaterCalls shapely matching history)
    (hcall : matching.calls.get? thread = some call) {point : RoiPoint P} {steps : Nat}
    (hlater : history.later thread = true →
      LaterCall shapely (matching.goto thread call point) { call with point }) :
    LaterCalls shapely (matching.goto thread call point) { history with steps } where
  coherent := hs.coherent
  later other otherCall hother hotherLater := by
    rcases Dict.get?_set_eq_some_iff.mp hother with ⟨rfl, rfl⟩ | ⟨-, hold⟩
    · exact hlater hotherLater
    · obtain ⟨quiet, present, holding⟩ := hs.later other otherCall hold hotherLater
      exact ⟨quiet, present, holding⟩

/-- A call ends. -/
theorem LaterCalls.erase (hs : LaterCalls shapely matching history) {steps : Nat} :
    LaterCalls shapely { matching with calls := matching.calls.erase thread }
      { history with steps } where
  coherent := hs.coherent
  later other otherCall hother hotherLater := by
    obtain ⟨quiet, present, holding⟩ :=
      hs.later other otherCall (Dict.get?_erase_eq_some_iff.mp hother).2 hotherLater
    exact ⟨quiet, present, holding⟩

/-- A call stores its polygon. -/
theorem LaterCalls.store (hs : LaterCalls shapely matching history)
    (hcall : matching.calls.get? thread = some call) {polygon : Option P} {steps : Nat}
    (hcoherent : Coherent shapely { matching.goto thread call .cached with
      cache := matching.cache.set call.cameraId polygon }) :
    LaterCalls shapely { matching.goto thread call .cached with
      cache := matching.cache.set call.cameraId polygon } { history with steps } where
  coherent := hcoherent
  later other otherCall hother hotherLater := by
    rcases Dict.get?_set_eq_some_iff.mp hother with ⟨rfl, rfl⟩ | ⟨-, hold⟩
    · refine ⟨(hs.later other call hcall hotherLater).quiet, fun _ => ?_, nofun⟩
      rw [Dict.get?_set_self]
      rfl
    · have hlater := hs.later other otherCall hold hotherLater
      refine ⟨hlater.quiet, fun hcached => ?_, hlater.holding⟩
      by_cases hcamera : otherCall.cameraId = call.cameraId
      · rw [hcamera, Dict.get?_set_self]
        rfl
      · rw [Dict.get?_set_of_ne _ hcamera]
        exact hlater.present hcached

/-- A handler saves a polygon: the calls of its camera are no later ones any more. -/
theorem LaterCalls.saveRoi (hs : LaterCalls shapely matching history) {handler : Nat}
    {payload : List (List K)} {points : List (K × K)}
    (idle : matching.handlers.get? handler = none)
    (hcoherent : Coherent shapely { matching with
      configs := matching.configs.set cameraId points
      handlers := matching.handlers.set handler cameraId }) :
    LaterCalls shapely { matching with
        configs := matching.configs.set cameraId points
        handlers := matching.handlers.set handler cameraId }
      (history.record matching (.saveRoi handler cameraId payload)) where
  coherent := hcoherent
  later other otherCall hother hotherLater := by
    obtain ⟨hlater, hcamera⟩ := Bool.and_eq_true_iff.mp hotherLater
    rw [hother, Option.all_some, decide_eq_true_iff] at hcamera
    obtain ⟨quiet, present, holding⟩ := hs.later other otherCall hother hlater
    refine ⟨fun hpending => ?_, present, fun polygon hpolygon => ?_⟩
    · exact ((pending_save idle).mp hpending).elim hcamera quiet
    · rw [saved_save hcamera]
      exact holding polygon hpolygon

/-- A handler invalidates an entry, which no later call is about. -/
theorem LaterCalls.invalidate (hs : LaterCalls shapely matching history) {handler : Nat}
    (hhandler : matching.handlers.get? handler = some cameraId)
    (hcoherent : Coherent shapely { matching with
      cache := matching.cache.erase cameraId
      handlers := matching.handlers.erase handler }) :
    LaterCalls shapely { matching with
        cache := matching.cache.erase cameraId
        handlers := matching.handlers.erase handler }
      (history.record matching (.invalidate handler)) where
  coherent := hcoherent
  later other otherCall hother hotherLater := by
    obtain ⟨quiet, present, holding⟩ := hs.later other otherCall hother hotherLater
    have hcamera : otherCall.cameraId ≠ cameraId := by
      rintro rfl
      exact quiet ⟨handler, hhandler⟩
    refine ⟨fun hpending => quiet ((pending_invalidate hhandler hcamera).mp hpending),
      fun hcached => ?_, holding⟩
    obtain ⟨polygon, hpolygon⟩ := Option.isSome_iff_exists.mp (present hcached)
    exact Option.isSome_iff_exists.mpr
      ⟨polygon, Dict.get?_erase_eq_some_iff.mpr ⟨hcamera, hpolygon⟩⟩

theorem LaterCalls.stepped (hs : LaterCalls shapely matching history)
    (hstores : matching.StoresSaved shapely event) (h : Stepped shapely matching event next) :
    LaterCalls shapely next (history.record matching event) := by
  have hcoherent := hs.coherent.stepped hstores h
  cases h with
  | lookup thread cameraId bbox point idle hit =>
    refine ⟨hcoherent, fun other otherCall hother hotherLater => ?_⟩
    rcases Dict.get?_set_eq_some_iff.mp hother with ⟨rfl, rfl⟩ | ⟨hne, hold⟩
    · simp only [RoiHistory.record, Function.update_self] at hotherLater
      have hquiet : ¬ matching.Pending cameraId := not_pending_of_settled hotherLater
      refine ⟨hquiet, fun hcached => ?_, fun polygon hpolygon => ?_⟩
      · by_contra hmiss
        simp only [hit, if_neg hmiss] at hcached
        cases hcached
      · simp only [hit] at hpolygon
        split at hpolygon <;> cases hpolygon
    · simp only [RoiHistory.record, Function.update_of_ne hne] at hotherLater
      obtain ⟨quiet, present, holding⟩ := hs.later other otherCall hold hotherLater
      exact ⟨quiet, present, holding⟩
  | load thread call hcall hpoint =>
    refine hs.goto hcall fun hlater => ?_
    exact ⟨(hs.later thread call hcall hlater).quiet, nofun, nofun⟩
  | store thread call polygon hcall hpoint => exact hs.store hcall hcoherent
  | keyError thread call hcall hpoint gone => exact hs.erase
  | fetch thread call polygon hcall hpoint hit =>
    refine hs.goto hcall fun hlater => ?_
    have hquiet := (hs.later thread call hcall hlater).quiet
    refine ⟨hquiet, nofun, fun held hheld => ?_⟩
    cases hheld
    exact (hs.coherent call.cameraId polygon hit).resolve_right hquiet
  | test thread call polygon hcall hpoint => exact hs.erase
  | saveRoi handler cameraId payload points idle hpoints => exact hs.saveRoi idle hcoherent
  | invalidate handler cameraId hhandler => exact hs.invalidate hhandler hcoherent

end Steps

end RoiMatching

section Runs
variable {K P : Type}

/-- The cache is coherent throughout a run exactly when every call stores the polygon that was saved
last, or stores before the handler invalidates the entry. -/
theorem cache_coherent_iff (shapely : Shapely K P) (configs : RoiConfigs K)
    (events : List (RoiEvent K)) :
    (∀ taken ∈ Transition.steps (RoiMatching.step shapely) { configs } events,
        taken.target.Coherent shapely) ↔
      ∀ taken ∈ Transition.steps (RoiMatching.step shapely) { configs } events,
        taken.source.StoresSaved shapely taken.event := by
  apply Transition.everyTarget_iff (I := RoiMatching.Coherent shapely)
    (P := RoiMatching.Coherent shapely)
  · intro matching event next hs hstores hstep
    have hcoherent := hs.stepped hstores (RoiMatching.step_stepped hstep)
    exact ⟨hcoherent, hcoherent⟩
  · intro matching event next _ hstores hstep
    exact RoiMatching.not_coherent_stepped hstores (RoiMatching.step_stepped hstep)
  · nofun

/-- In a run where every call stores the polygon that was saved last, or stores before the handler
invalidates the entry, a later call uses the polygon that was saved last. -/
theorem later_calls_use_saved (shapely : Shapely K P) (configs : RoiConfigs K)
    (events : List (RoiEvent K))
    (hstores : ∀ taken ∈ roiSteps shapely configs events,
      taken.source.state.StoresSaved shapely taken.event) :
    ∀ taken ∈ roiSteps shapely configs events, taken.UsesSaved shapely := by
  have hrun := @Transition.guarded_invariant _ _
    (Transition.recorded (RoiMatching.step shapely) RoiHistory.record)
    (fun reached => RoiMatching.LaterCalls shapely reached.state reached.history)
    (fun reached event => reached.state.StoresSaved shapely event)
    (fun reached event next hs hevent hstep => by
      obtain ⟨matching, hmatching, rfl⟩ := Transition.recorded_cases hstep
      exact hs.stepped hevent (RoiMatching.step_stepped hmatching))
    ⟨{ configs }, {}⟩ ⟨nofun, nofun⟩ events hstores
  intro taken htaken thread call hcall hlater
  have hlaterCall := (hrun.2 taken htaken).1.later thread call hcall hlater
  obtain ⟨next, hnext, -⟩ := Transition.recorded_cases (Transition.step_of_mem_steps htaken)
  have hstepped := RoiMatching.step_stepped hnext
  constructor
  · intro hevent
    rw [hevent] at hstepped
    cases hstepped with
    | keyError _ other hother hpoint gone =>
      obtain rfl := Option.some.inj (hcall.symm.trans hother)
      exact hlaterCall.present hpoint
    | fetch _ other polygon hother hpoint hit =>
      rw [Option.some.inj (hcall.symm.trans hother), hit]
      rfl
  · intro hevent
    rw [hevent] at hstepped
    cases hstepped with
    | test _ other polygon hother hpoint =>
      obtain rfl := Option.some.inj (hcall.symm.trans hother)
      rw [hpoint, hlaterCall.holding polygon hpoint]

end Runs

/-- A person in the frame. -/
def standing : BBox ℚ := ⟨100, 100, 200, 300⟩

/-- A handler saves a region far from the person. -/
def saveFarRegion : RoiEvent ℚ :=
  .saveRoi 1 "cam-01" [[500, 500], [600, 500], [600, 600], [500, 600]]

/-- A call of `is_in_roi` that finds its camera in the cache. -/
def cachedCall : List (RoiEvent ℚ) := [.lookup 1 "cam-01" standing, .fetch 1, .test 1]

/-- A call that does not. -/
def missedCall : List (RoiEvent ℚ) :=
  [.lookup 1 "cam-01" standing, .load 1, .store 1, .fetch 1, .test 1]

/-- The handler runs between the read and the store of a call, and the next call still lets the
whole frame pass. -/
theorem outdated_region_cached :
    ¬ ∀ taken ∈ roiSteps rectangles .empty
        ([.lookup 1 "cam-01" standing, .load 1, saveFarRegion, .invalidate 1, .store 1, .fetch 1,
          .test 1] ++ cachedCall),
      taken.UsesSaved rectangles := by
  intro h
  have hrun : ∃ taken ∈ roiSteps rectangles .empty
        ([.lookup 1 "cam-01" standing, .load 1, saveFarRegion, .invalidate 1, .store 1, .fetch 1,
          .test 1] ++ cachedCall),
      taken.source.state.calls.get? 1 = some ⟨"cam-01", standing, .holding none⟩ ∧
        taken.source.history.later 1 = true ∧ taken.event = .test 1 ∧
        taken.source.state.saved rectangles "cam-01" ≠ none := by
    decide +kernel
  obtain ⟨taken, htaken, hcall, hlater, hevent, hsaved⟩ := hrun
  have huses := (h taken htaken 1 _ hcall hlater).2 hevent
  exact hsaved (RoiPoint.holding.inj huses).symm

/-- Where the handler is done before a call reads, the calls use the new region. All ten steps of
this run are taken. -/
theorem later_calls_use_saved_quiet :
    (roiSteps rectangles .empty
        ([saveFarRegion, .invalidate 1] ++ missedCall ++ cachedCall)).length = 10 ∧
      ∀ taken ∈ roiSteps rectangles .empty
          ([saveFarRegion, .invalidate 1] ++ missedCall ++ cachedCall),
        taken.UsesSaved rectangles := by
  constructor
  · decide +kernel
  apply later_calls_use_saved
  have hrun : ∀ taken ∈ roiSteps rectangles .empty
        ([saveFarRegion, .invalidate 1] ++ missedCall ++ cachedCall),
      taken.event = .store 1 ∧ taken.source.state.calls.get? 1 =
          some ⟨"cam-01", standing, .loaded (taken.source.state.saved rectangles "cam-01")⟩ ∨
        taken.event ∈ [saveFarRegion, .invalidate 1, .load 1, .fetch 1, .test 1,
          .lookup 1 "cam-01" standing] := by
    decide +kernel
  intro taken htaken thread call polygon hevent hcall hpoint
  left
  rcases hrun taken htaken with ⟨hstore, hloaded⟩ | hother
  · cases hstore.symm.trans hevent
    obtain rfl := Option.some.inj (hcall.symm.trans hloaded)
    exact (RoiPoint.loaded.inj hpoint).symm
  · simp [hevent, saveFarRegion] at hother

end EdgeSafety
