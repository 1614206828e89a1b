import EdgeSafety.Alert.CameraThreads
import EdgeSafety.Alert.RateLimiting

/-!
# Each camera has its own pipeline

The threads share the cooldown and the database, but the violations of a thread are all of its own
camera. To a camera it looks as if the pipeline were its own (`threads_refine`): what its thread
does step by step among the others is a run of `AlertPipeline` for its frames alone.
-/

namespace EdgeSafety

variable {K : Type}

namespace AlertPc

/-- The call of `process` that a thread is in. -/
def Follows (call : ProcessCall K) : AlertPc K → Prop
  | .looping violation rest dispatched | .cooling violation rest dispatched
  | .dispatching violation rest dispatched _ => call = .looping violation rest dispatched
  | .announcing _ => ∀ violation rest dispatched, call ≠ .looping violation rest dispatched

/-- The alert that the cooldown noted and that is not dispatched yet. -/
def fired? : AlertPc K → Option (AlertKey × Nat)
  | .dispatching violation _ _ firedUs => some (violation.key, firedUs)
  | _ => none

/-- What the cooldown noted, given what it had before the alert of this thread. -/
def noted (pc : AlertPc K) (last : Dict AlertKey Nat) : Dict AlertKey Nat :=
  match pc.fired? with
  | none => last
  | some (key, firedUs) => last.set key firedUs

theorem follows_loop (remaining dispatched : List (Violation K)) :
    (loop remaining dispatched).Follows (.loop remaining dispatched) := by
  cases remaining with
  | nil => exact nofun
  | cons violation rest => exact rfl

theorem follows_raised (violations : List (Violation K)) :
    (announcing violations).Follows .raised := by
  rintro _ _ _ ⟨⟩

theorem fired?_loop (remaining dispatched : List (Violation K)) :
    (loop remaining dispatched).fired? = none := by
  cases remaining <;> rfl

theorem mem_held_loop {remaining dispatched : List (Violation K)} {violation : Violation K}
    (h : violation ∈ (loop remaining dispatched).held) :
    violation ∈ remaining ∨ violation ∈ dispatched := by
  cases remaining with
  | nil => exact .inr h
  | cons first rest => exact List.mem_append.mp h

end AlertPc

variable [Field K]

namespace AlertThreads

/-- The violations of a thread are of its camera. -/
def Owned (s : AlertThreads K) : Prop :=
  ∀ camera, ∀ violation ∈ (s.threads camera).held, violation.cameraId = camera

variable {s : AlertThreads K} in
/-- A thread goes on with violations of its camera. -/
theorem Owned.threadTo (hs : Owned s) (camera : String) {pc : AlertPc K}
    (hpc : ∀ violation ∈ pc.held, violation.cameraId = camera) : Owned (s.threadTo camera pc) := by
  intro other violation hmem
  have hmem : violation ∈ (Function.update s.threads camera pc other).held := hmem
  by_cases hother : other = camera
  · subst hother
    rw [Function.update_self] at hmem
    exact hpc violation hmem
  · rw [Function.update_of_ne hother] at hmem
    exact hs other violation hmem

end AlertThreads

variable [LinearOrder K]

/-- The violations of a result are of the result's camera. -/
theorem cameraId_of_mem_classify {classifier : ViolationClassifier K} {result : DetectionResult K}
    {violation : Violation K} (h : violation ∈ classifier.classify result) :
    violation.cameraId = result.cameraId := by
  obtain ⟨⟨person, i⟩, -, hviolation⟩ := List.mem_flatMap.mp h
  simp only [ViolationClassifier.classifyPerson, List.mem_append] at hviolation
  rcases hviolation with ((hmem | hmem) | hmem) | hmem <;> split at hmem <;>
    first
    | (rw [List.mem_singleton.mp hmem]; rfl)
    | cases hmem

/-- The answer of the cooldown depends on what it noted for the key. -/
theorem shouldAlert_congr {manager other : CooldownManager K} {key : AlertKey}
    (hseconds : manager.cooldownSeconds = other.cooldownSeconds)
    (hlast : manager.lastAlert.get? key = other.lastAlert.get? key) (nowUs : Nat) :
    (manager.shouldAlert key nowUs).1 = (other.shouldAlert key nowUs).1 := by
  rw [Bool.eq_iff_iff, ← not_iff_not, Bool.not_eq_true, Bool.not_eq_true, shouldAlert_eq_false_iff,
    shouldAlert_eq_false_iff, hseconds, hlast]

namespace AlertThreads

section Owned
variable {s t : AlertThreads K} {h h' : History K}

theorem Owned.step (hs : Owned s) (hstep : RecordedStep s h t h') : Owned t := by
  have hheld := hs
  unfold Owned at hheld
  cases hstep with
  | tick => exact hs
  | process result pc =>
    refine hs.threadTo _ fun violation hmem => ?_
    rcases AlertPc.mem_held_loop hmem with hmem | hmem
    · exact cameraId_of_mem_classify hmem
    · cases hmem
  | roiRaised camera pc | notInserted camera pc => exact hs.threadTo camera nofun
  | outside camera pc | suppressed camera pc =>
    refine hs.threadTo camera fun violation hmem => hheld camera violation ?_
    rw [pc]
    rcases AlertPc.mem_held_loop hmem with hmem | hmem
    · exact List.mem_append_left _ (List.mem_cons_of_mem _ hmem)
    · exact List.mem_append_right _ hmem
  | inside camera pc =>
    refine hs.threadTo camera fun violation hmem => hheld camera violation ?_
    rw [pc]
    exact hmem
  | fired camera pc =>
    refine Owned.threadTo (s := { s with cooldown := _ }) hs camera
      fun violation hmem => hheld camera violation ?_
    rw [pc]
    exact hmem
  | @inserted violation rest dispatched firedUs camera id returned pc =>
    refine Owned.threadTo (s := { s with database := _ }) hs camera fun other hmem => ?_
    cases returned with
    | false => cases hmem
    | true =>
      have hthread := hheld camera
      rw [pc] at hthread
      rcases AlertPc.mem_held_loop hmem with hmem | hmem
      · exact hthread other (List.mem_append_left _ (List.mem_cons_of_mem _ hmem))
      · rcases List.mem_append.mp hmem with hmem | hmem
        · exact hthread other (List.mem_append_right _ hmem)
        · rw [List.mem_singleton.mp hmem]
          exact hthread violation (List.mem_append_left _ List.mem_cons_self)
  | announce camera pc =>
    refine Owned.threadTo (s := { s with announced := _ }) hs camera
      fun violation hmem => hheld camera violation ?_
    rw [pc]
    exact List.mem_cons_of_mem _ hmem

end Owned

/-! ## The pipeline of one camera -/

/-- A pipeline that serves one camera only is where this camera's thread is. It dispatches a
violation at once, so that it is behind while the thread is about to. -/
structure Mirrors (s : AlertThreads K) (camera : String) (p : AlertPipeline K) : Prop where
  classifier : p.classifier = s.classifier
  cooldownSeconds : p.cooldown.cooldownSeconds = s.cooldown.cooldownSeconds
  clock : p.clockUs ≤ s.clockUs
  database : p.database = s.database.filter (·.cameraId = camera)
  call : (s.threads camera).Follows p.call
  noted : ∀ key : AlertKey, key.1 = camera →
    s.cooldown.lastAlert.get? key = ((s.threads camera).noted p.cooldown.lastAlert).get? key
  fired : ∀ key firedUs, (s.threads camera).fired? = some (key, firedUs) →
    p.clockUs ≤ firedUs ∧ firedUs ≤ s.clockUs ∧ (p.cooldown.shouldAlert key firedUs).1 = true

section Mirrors
variable {s t : AlertThreads K} {h h' : History K} {camera : String} {p : AlertPipeline K}

/-- A step that the camera does not notice. -/
theorem Mirrors.same (hs : Mirrors s camera p) (hclassifier : t.classifier = s.classifier)
    (hseconds : t.cooldown.cooldownSeconds = s.cooldown.cooldownSeconds)
    (hclock : s.clockUs ≤ t.clockUs)
    (hdatabase : t.database.filter (·.cameraId = camera) = s.database.filter (·.cameraId = camera))
    (hthread : t.threads camera = s.threads camera)
    (hnoted : ∀ key : AlertKey, key.1 = camera →
      t.cooldown.lastAlert.get? key = s.cooldown.lastAlert.get? key) : Mirrors t camera p where
  classifier := hs.classifier.trans hclassifier.symm
  cooldownSeconds := hs.cooldownSeconds.trans hseconds.symm
  clock := hs.clock.trans hclock
  database := hs.database.trans hdatabase.symm
  call := by
    rw [hthread]
    exact hs.call
  noted key hkey := by
    rw [hthread, hnoted key hkey]
    exact hs.noted key hkey
  fired key firedUs hfired := by
    rw [hthread] at hfired
    obtain ⟨hsince, huntil, halert⟩ := hs.fired key firedUs hfired
    exact ⟨hsince, huntil.trans hclock, halert⟩

/-- The thread goes on with no alert of its own between the cooldown and the database. -/
theorem mirrors_threadTo (hclassifier : p.classifier = s.classifier)
    (hseconds : p.cooldown.cooldownSeconds = s.cooldown.cooldownSeconds)
    (hclock : p.clockUs ≤ s.clockUs)
    (hdatabase : p.database = s.database.filter (·.cameraId = camera))
    (hnoted : ∀ key : AlertKey, key.1 = camera →
      s.cooldown.lastAlert.get? key = p.cooldown.lastAlert.get? key)
    {pc : AlertPc K} (hfired : pc.fired? = none) (hcall : pc.Follows p.call) :
    Mirrors (s.threadTo camera pc) camera p := by
  have hthread : (s.threadTo camera pc).threads camera = pc := Function.update_self ..
  refine ⟨hclassifier, hseconds, hclock, hdatabase, ?_, fun key hkey => ?_, fun key _ halert => ?_⟩
  · rwa [hthread]
  · rw [hthread, AlertPc.noted, hfired]
    exact hnoted key hkey
  · rw [hthread, hfired] at halert
    cases halert

/-- The thread goes on in the call of `process`. -/
theorem Mirrors.threadTo (hs : Mirrors s camera p) (hold : (s.threads camera).fired? = none)
    {pc : AlertPc K} (hpc : pc.fired? = none) {call : ProcessCall K} (hcall : pc.Follows call) :
    Mirrors (s.threadTo camera pc) camera { p with call } := by
  refine mirrors_threadTo (p := { p with call }) hs.classifier hs.cooldownSeconds hs.clock
    hs.database ?_ hpc hcall
  intro key hkey
  rw [hs.noted key hkey, AlertPc.noted, hold]

theorem exec_iterate {violation : Violation K} {rest dispatched : List (Violation K)}
    (hcall : p.call = .looping violation rest dispatched) (surroundings : Surroundings) :
    Transition.exec AlertPipeline.step p [.iterate surroundings] =
      p.iterate violation rest dispatched surroundings := by
  simp only [Transition.exec, AlertPipeline.step, hcall, Option.getD_some]

/-- A step of another camera's thread that changes neither the cooldown nor the database. -/
theorem Mirrors.others (hs : Mirrors s camera p) {other : String} (hother : other ≠ camera)
    (pc : AlertPc K) : Mirrors (s.threadTo other pc) camera p :=
  hs.same rfl rfl (Nat.le_refl _) rfl (Function.update_of_ne hother.symm ..) fun _ _ => rfl

/-- The cooldown lets a violation pass. -/
theorem Mirrors.fire (hs : Mirrors s camera p) (howned : Owned s) {other : String}
    {violation : Violation K} {rest dispatched : List (Violation K)}
    (pc : s.threads other = .cooling violation rest dispatched)
    (answer : (s.cooldown.shouldAlert violation.key s.clockUs).1 = true) :
    Mirrors ({ s with cooldown := { s.cooldown with
        lastAlert := s.cooldown.lastAlert.set violation.key s.clockUs } }.threadTo other
      (.dispatching violation rest dispatched s.clockUs)) camera p := by
  have hcamera : violation.cameraId = other :=
    howned other violation (by rw [pc]; exact List.mem_cons_self)
  by_cases hother : other = camera
  · subst hother
    have hcall := hs.call
    have hnoted := hs.noted
    rw [pc] at hcall hnoted
    refine ⟨hs.classifier, hs.cooldownSeconds, hs.clock, hs.database, ?_, ?_, ?_⟩
    · show (Function.update s.threads other _ other).Follows p.call
      rw [Function.update_self]
      exact hcall
    · intro key hkey
      show (s.cooldown.lastAlert.set violation.key s.clockUs).get? key =
        ((Function.update s.threads other _ other).noted _).get? key
      rw [Function.update_self]
      show _ = (p.cooldown.lastAlert.set violation.key s.clockUs).get? key
      by_cases hsame : key = violation.key
      · rw [hsame, Dict.get?_set_self, Dict.get?_set_self]
      · rw [Dict.get?_set_of_ne _ hsame, Dict.get?_set_of_ne _ hsame]
        exact hnoted key hkey
    · intro key firedUs hfired
      replace hfired : (Function.update s.threads other _ other).fired? = _ := hfired
      rw [Function.update_self] at hfired
      obtain ⟨rfl, rfl⟩ := Prod.mk.inj (Option.some.inj hfired)
      refine ⟨hs.clock, Nat.le_refl _, ?_⟩
      rw [shouldAlert_congr hs.cooldownSeconds (hnoted violation.key hcamera).symm]
      exact answer
  · refine hs.same rfl rfl (Nat.le_refl _) rfl (Function.update_of_ne (Ne.symm hother) ..) ?_
    intro key hkey
    apply Dict.get?_set_of_ne
    rintro rfl
    exact hother (hcamera.symm.trans hkey)

/-- What a pipeline of one camera has noted after the alert that its thread is about to dispatch. -/
theorem Mirrors.noted_dispatching (hs : Mirrors s camera p) {violation : Violation K}
    {rest dispatched : List (Violation K)} {firedUs : Nat}
    (pc : s.threads camera = .dispatching violation rest dispatched firedUs) (key : AlertKey)
    (hkey : key.1 = camera) : s.cooldown.lastAlert.get? key =
      (p.cooldown.lastAlert.set violation.key firedUs).get? key := by
  rw [hs.noted key hkey, pc]
  rfl

/-- The dispatch raises before its row is committed. -/
theorem Mirrors.notInserted (hs : Mirrors s camera p) {violation : Violation K}
    {rest dispatched : List (Violation K)} {firedUs : Nat}
    (pc : s.threads camera = .dispatching violation rest dispatched firedUs) :
    Mirrors (s.threadTo camera (.announcing [])) camera
      (Transition.exec AlertPipeline.step p
        [.iterate ⟨some true, firedUs - p.clockUs, .raised⟩]) := by
  have hcall := hs.call
  rw [pc] at hcall
  obtain ⟨hsince, huntil, halert⟩ := hs.fired _ _ (by rw [pc]; rfl)
  have hclock : p.clockUs + (firedUs - p.clockUs) = firedUs := Nat.add_sub_of_le hsince
  rw [exec_iterate hcall]
  simp only [AlertPipeline.iterate, AlertPipeline.dispatch, hclock, halert, if_true,
    shouldAlert_fires halert]
  apply mirrors_threadTo
  · exact hs.classifier
  · exact hs.cooldownSeconds
  · exact huntil
  · exact hs.database
  · exact hs.noted_dispatching pc
  · rfl
  · exact AlertPc.follows_raised []

/-- A row is inserted. -/
theorem Mirrors.inserted (hs : Mirrors s camera p) (howned : Owned s) {violation : Violation K}
    {rest dispatched : List (Violation K)} {firedUs : Nat} (id : Nat) (returned : Bool)
    (pc : s.threads camera = .dispatching violation rest dispatched firedUs) :
    Mirrors ({ s with database := s.database ++ [violation.row id s.clockUs] }.threadTo
        camera (if returned then .loop rest (dispatched ++ [{ violation with id := some id }])
          else .announcing [])) camera
      (Transition.exec AlertPipeline.step p
        [.iterate ⟨some true, firedUs - p.clockUs,
          .inserted id (s.clockUs - firedUs) returned⟩]) := by
  have hcamera : violation.cameraId = camera :=
    howned camera violation (by rw [pc]; exact List.mem_cons_self)
  have hcall := hs.call
  rw [pc] at hcall
  obtain ⟨hsince, huntil, halert⟩ := hs.fired _ _ (by rw [pc]; rfl)
  have hclock : p.clockUs + (firedUs - p.clockUs) = firedUs := Nat.add_sub_of_le hsince
  have hlater : firedUs + (s.clockUs - firedUs) = s.clockUs := Nat.add_sub_of_le huntil
  rw [exec_iterate hcall]
  simp only [AlertPipeline.iterate, AlertPipeline.dispatch, hclock, halert, hlater, if_true,
    shouldAlert_fires halert]
  apply mirrors_threadTo
  · exact hs.classifier
  · exact hs.cooldownSeconds
  · exact Nat.le_refl _
  · show p.database ++ [violation.row id s.clockUs] = (s.database ++ _).filter _
    rw [List.filter_append, hs.database]
    simp [Violation.row, hcamera]
  · exact hs.noted_dispatching pc
  · cases returned with
    | false => rfl
    | true => exact AlertPc.fired?_loop ..
  · cases returned with
    | false => exact AlertPc.follows_raised []
    | true => exact AlertPc.follows_loop ..

/-- A thread makes a step, and the pipeline of each camera follows. -/
theorem Mirrors.step (hs : Mirrors s camera p) (howned : Owned s) (hstep : RecordedStep s h t h') :
    ∃ more, Mirrors t camera (Transition.exec AlertPipeline.step p more) := by
  have hcall := hs.call
  cases hstep with
  | tick clockUs later => exact ⟨[], hs.same rfl rfl later rfl rfl fun _ _ => rfl⟩
  | process result pc =>
    by_cases hother : result.cameraId = camera
    · subst hother
      rw [pc] at hcall
      refine ⟨[.process result], ?_⟩
      have hprocess : Transition.exec AlertPipeline.step p [.process result] =
          { p with call := .loop (s.classifier.classify result) [] } := by
        simp only [Transition.exec, AlertPipeline.step, ← hs.classifier]
        split
        · next hlooping => exact absurd hlooping (hcall _ _ _)
        · rfl
      rw [hprocess]
      exact hs.threadTo (by rw [pc]; rfl) (AlertPc.fired?_loop ..) (AlertPc.follows_loop ..)
    · exact ⟨[], hs.others hother _⟩
  | roiRaised other pc =>
    by_cases hother : other = camera
    · subst hother
      rw [pc] at hcall
      refine ⟨[.iterate ⟨none, 0, .raised⟩], ?_⟩
      rw [exec_iterate hcall]
      exact hs.threadTo (by rw [pc]; rfl) rfl (AlertPc.follows_raised [])
    · exact ⟨[], hs.others hother _⟩
  | outside other pc =>
    by_cases hother : other = camera
    · subst hother
      rw [pc] at hcall
      refine ⟨[.iterate ⟨some false, 0, .raised⟩], ?_⟩
      rw [exec_iterate hcall]
      exact hs.threadTo (by rw [pc]; rfl) (AlertPc.fired?_loop ..) (AlertPc.follows_loop ..)
    · exact ⟨[], hs.others hother _⟩
  | inside other pc =>
    by_cases hother : other = camera
    · subst hother
      rw [pc] at hcall
      exact ⟨[], hs.threadTo (by rw [pc]; rfl) rfl hcall⟩
    · exact ⟨[], hs.others hother _⟩
  | @suppressed violation rest dispatched other pc answer =>
    by_cases hother : other = camera
    · subst hother
      have hcamera : violation.cameraId = other :=
        howned other violation (by rw [pc]; exact List.mem_cons_self)
      have hnoted := hs.noted violation.key hcamera
      rw [pc] at hcall hnoted
      have hclock : p.clockUs + (s.clockUs - p.clockUs) = s.clockUs := Nat.add_sub_of_le hs.clock
      rw [shouldAlert_congr hs.cooldownSeconds.symm hnoted, ← hclock] at answer
      refine ⟨[.iterate ⟨some true, s.clockUs - p.clockUs, .raised⟩], ?_⟩
      rw [exec_iterate hcall, iterate_suppressed answer]
      have hmoved := mirrors_threadTo (p := { p with
          clockUs := p.clockUs + (s.clockUs - p.clockUs), call := .loop rest dispatched })
        hs.classifier hs.cooldownSeconds (Nat.le_of_eq hclock) hs.database
      refine hmoved (fun key hkey => ?_) (AlertPc.fired?_loop ..) (AlertPc.follows_loop ..)
      rw [hs.noted key hkey, pc]
      rfl
    · exact ⟨[], hs.others hother _⟩
  | fired other pc answer => exact ⟨[], hs.fire howned pc answer⟩
  | notInserted other pc =>
    by_cases hother : other = camera
    · subst hother
      exact ⟨_, hs.notInserted pc⟩
    · exact ⟨[], hs.others hother _⟩
  | @inserted violation rest dispatched firedUs other id returned pc =>
    by_cases hother : other = camera
    · subst hother
      exact ⟨_, hs.inserted howned id returned pc⟩
    · have hcamera : violation.cameraId = other :=
        howned other violation (by rw [pc]; exact List.mem_cons_self)
      refine ⟨[], hs.same rfl rfl (Nat.le_refl _) ?_ (Function.update_of_ne (Ne.symm hother) ..)
        fun _ _ => rfl⟩
      show (s.database ++ [violation.row id s.clockUs]).filter _ = _
      rw [List.filter_append]
      simp [Violation.row, hcamera, hother]
  | @announce violation rest other pc =>
    have hsent : Mirrors { s with announced := s.announced ++ [violation] } camera p :=
      hs.same rfl rfl (Nat.le_refl _) rfl rfl fun _ _ => rfl
    by_cases hother : other = camera
    · subst hother
      rw [pc] at hcall
      exact ⟨[], hsent.threadTo (congrArg AlertPc.fired? pc) rfl hcall⟩
    · exact ⟨[], hsent.others hother _⟩

end Mirrors

end AlertThreads

end EdgeSafety
