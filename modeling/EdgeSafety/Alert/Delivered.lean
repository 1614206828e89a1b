import EdgeSafety.Alert.Pipeline
import EdgeSafety.Lib.Transition
import Mathlib.Algebra.Order.Field.Rat

/-!
# Suppressed and delivered violations

The cooldown notes an alert before its dispatch, and no part of the program knows whether an alert
that was noted got to the database. A history beside the state lists the alerts with their rows.
Alerts with one key are a cooldown apart, so that a suppressed violation goes back to a single
alert: it was delivered exactly when the dispatch of that alert got as far as its INSERT
(`suppressed_delivered_iff`).
-/

namespace EdgeSafety

variable {K : Type} [Field K] [LinearOrder K]

/-- What becomes of a violation in its ROI. The row of an alert is the one that its dispatch
inserts, if it gets that far. -/
inductive AlertOutcome (K : Type) where
  | suppressed
  | fired (row : Option (ViolationRow K))
  deriving DecidableEq

/-- A violation in its ROI at the time the cooldown looks at it. -/
structure Encounter (K : Type) where
  key : AlertKey
  nowUs : Nat
  outcome : AlertOutcome K
  deriving DecidableEq

/-- The row that a dispatch inserts. -/
def Dispatched.row (violation : Violation K) (nowUs : Nat) : Dispatched → Option (ViolationRow K)
  | .raised => none
  | .inserted id waitUs _ => some (violation.row id (nowUs + waitUs))

/-- The violation in its ROI that a step handles. -/
def AlertPipeline.encounter (pipeline : AlertPipeline K) : AlertEvent K → Option (Encounter K)
  | .process _ => none
  | .iterate surroundings =>
    match pipeline.call, surroundings.isInRoi with
    | .looping violation _ _, some true =>
      let nowUs := pipeline.clockUs + surroundings.waitUs
      let alert := (pipeline.cooldown.shouldAlert violation.key nowUs).1
      let outcome :=
        if alert then .fired (surroundings.dispatch.row violation nowUs) else .suppressed
      some { key := violation.key, nowUs, outcome }
    | _, _ => none

/-- An alert that the cooldown let pass. -/
structure Alert (K : Type) where
  key : AlertKey
  firedUs : Nat
  row : Option (ViolationRow K)

/-- Adds the alert of a step; the last one comes first. -/
def alertsAfter (alerts : List (Alert K)) (pipeline : AlertPipeline K) (event : AlertEvent K) :
    List (Alert K) :=
  match pipeline.encounter event with
  | some { key, nowUs, outcome := .fired row } => { key, firedUs := nowUs, row } :: alerts
  | _ => alerts

/-- A step of a pipeline, with the alerts so far. -/
abbrev AlertStep (K : Type) [Field K] :=
  Transition.Taken (Transition.Recorded (AlertPipeline K) (List (Alert K))) (AlertEvent K)

/-- The steps of a run. -/
def alertSteps (pipeline : AlertPipeline K) (events : List (AlertEvent K)) : List (AlertStep K) :=
  Transition.steps (Transition.recorded AlertPipeline.step alertsAfter) ⟨pipeline, []⟩ events

namespace AlertStep

/-- If the step suppresses a violation, one with the same key, dispatched less than the cooldown
before, got into the database. -/
def SuppressedDelivered (cooldownSeconds : K) (taken : AlertStep K) : Prop :=
  ∀ key nowUs, taken.source.state.encounter taken.event = some ⟨key, nowUs, .suppressed⟩ →
    ∃ alert ∈ taken.source.history, alert.key = key ∧
      elapsedSeconds alert.firedUs nowUs < cooldownSeconds ∧
      ∃ row ∈ taken.source.state.database, alert.row = some row ∧ row.key = key ∧
        alert.firedUs ≤ row.insertedUs ∧ row.insertedUs ≤ nowUs

/-- If the step handles a violation in its ROI, none of the alerts with the same key was lost less
than the cooldown before. -/
def NoLostAlert (cooldownSeconds : K) (taken : AlertStep K) : Prop :=
  ∀ key nowUs outcome, taken.source.state.encounter taken.event = some ⟨key, nowUs, outcome⟩ →
    ∀ alert ∈ taken.source.history, alert.key = key →
      elapsedSeconds alert.firedUs nowUs < cooldownSeconds → alert.row ≠ none

end AlertStep

section Step
variable {pipeline next : AlertPipeline K}

/-- What a step does to the clock, the cooldown and the database. -/
inductive AlertEffect (pipeline next : AlertPipeline K) : Option (Encounter K) → Prop
  | idle (clockUs : next.clockUs = pipeline.clockUs) (cooldown : next.cooldown = pipeline.cooldown)
      (database : next.database = pipeline.database) : AlertEffect pipeline next none
  | suppressed (key : AlertKey) (nowUs : Nat) (clockUs : pipeline.clockUs ≤ nowUs)
      (nextUs : next.clockUs = nowUs) (cooldown : next.cooldown = pipeline.cooldown)
      (database : next.database = pipeline.database)
      (answer : (pipeline.cooldown.shouldAlert key nowUs).1 = false) :
      AlertEffect pipeline next (some ⟨key, nowUs, .suppressed⟩)
  | fired (key : AlertKey) (nowUs : Nat) (row : Option (ViolationRow K))
      (clockUs : pipeline.clockUs ≤ nowUs) (nextUs : nowUs ≤ next.clockUs)
      (cooldown : next.cooldown =
        { pipeline.cooldown with lastAlert := pipeline.cooldown.lastAlert.set key nowUs })
      (database : next.database = pipeline.database ++ row.toList)
      (answer : (pipeline.cooldown.shouldAlert key nowUs).1 = true)
      (inserted : ∀ r, row = some r → r.key = key ∧ nowUs ≤ r.insertedUs ∧
        r.insertedUs ≤ next.clockUs) :
      AlertEffect pipeline next (some ⟨key, nowUs, .fired row⟩)

theorem iterate_effect {violation : Violation K} {rest dispatched : List (Violation K)}
    (hcall : pipeline.call = .looping violation rest dispatched) (surroundings : Surroundings) :
    AlertEffect pipeline (pipeline.iterate violation rest dispatched surroundings)
      (pipeline.encounter (.iterate surroundings)) := by
  obtain ⟨isInRoi, waitUs, dispatch⟩ := surroundings
  have hwait : pipeline.clockUs ≤ pipeline.clockUs + waitUs := Nat.le_add_right _ _
  simp only [AlertPipeline.encounter, hcall]
  match isInRoi with
  | none => exact .idle rfl rfl rfl
  | some false => exact .idle rfl rfl rfl
  | some true =>
    simp only [AlertPipeline.iterate]
    cases halert : (pipeline.cooldown.shouldAlert violation.key (pipeline.clockUs + waitUs)).1 with
    | false =>
      rw [shouldAlert_suppresses halert]
      exact .suppressed _ _ hwait rfl rfl rfl halert
    | true =>
      rw [shouldAlert_fires halert]
      cases dispatch with
      | raised =>
        exact .fired _ _ none hwait (Nat.le_refl _) rfl (List.append_nil _).symm halert
          (fun r h => by cases h)
      | inserted id insertUs returned =>
        refine .fired _ _ (some _) hwait (Nat.le_add_right _ insertUs) rfl rfl halert ?_
        rintro r ⟨⟩
        exact ⟨rfl, Nat.le_add_right _ insertUs, Nat.le_refl _⟩

theorem step_effect {event : AlertEvent K} (h : pipeline.step event = some next) :
    AlertEffect pipeline next (pipeline.encounter event) := by
  cases event with
  | process result =>
    simp only [AlertPipeline.step] at h
    split at h
    · cases h
    · cases h
      exact .idle rfl rfl rfl
  | iterate surroundings =>
    simp only [AlertPipeline.step] at h
    split at h
    · next hcall =>
      cases h
      exact iterate_effect hcall surroundings
    · cases h

end Step

/-- What the pipeline knows of the alerts so far. -/
structure Alerted (cooldownSeconds : K) (pipeline : AlertPipeline K) (alerts : List (Alert K)) :
    Prop where
  cooldown : pipeline.cooldown.cooldownSeconds = cooldownSeconds
  past : ∀ alert ∈ alerts, alert.firedUs ≤ pipeline.clockUs
  spaced : alerts.Pairwise fun later earlier => later.key = earlier.key →
    cooldownSeconds ≤ elapsedSeconds earlier.firedUs later.firedUs
  noted : ∀ key, pipeline.cooldown.lastAlert.get? key =
    (alerts.find? fun alert => alert.key = key).map Alert.firedUs
  inserted : ∀ alert ∈ alerts, ∀ row, alert.row = some row → row ∈ pipeline.database ∧
    row.key = alert.key ∧ alert.firedUs ≤ row.insertedUs ∧ row.insertedUs ≤ pipeline.clockUs

theorem init_alerted (classifier : ViolationClassifier K) (cooldownSeconds : K)
    (database : List (ViolationRow K)) (clockUs : Nat) :
    Alerted cooldownSeconds (.init classifier cooldownSeconds database clockUs) [] where
  cooldown := rfl
  past alert h := by cases h
  spaced := .nil
  noted key := rfl
  inserted alert h := by cases h

section Invariant
variable [IsStrictOrderedRing K] {cooldownSeconds : K} {pipeline next : AlertPipeline K}
  {alerts : List (Alert K)} {alert : Alert K} {nowUs : Nat}

/-- Among spaced alerts, one within the cooldown is the last one with its key. -/
theorem find?_recent (hpast : ∀ alert ∈ alerts, alert.firedUs ≤ nowUs)
    (hspaced : alerts.Pairwise fun later earlier => later.key = earlier.key →
      cooldownSeconds ≤ elapsedSeconds earlier.firedUs later.firedUs)
    (halert : alert ∈ alerts) (hrecent : elapsedSeconds alert.firedUs nowUs < cooldownSeconds) :
    alerts.find? (fun other => other.key = alert.key) = some alert := by
  induction alerts with
  | nil => cases halert
  | cons last alerts ih =>
    obtain ⟨hlast, hrest⟩ := List.pairwise_cons.mp hspaced
    rcases List.mem_cons.mp halert with rfl | hmem
    · exact List.find?_cons_of_pos (decide_eq_true rfl)
    · by_cases hkey : last.key = alert.key
      · have hlate : (elapsedSeconds alert.firedUs last.firedUs : K) ≤
            elapsedSeconds alert.firedUs nowUs :=
          elapsedSeconds_mono (hpast last List.mem_cons_self) alert.firedUs
        exact absurd hrecent (not_lt_of_ge ((hlast alert hmem hkey).trans hlate))
      · rw [List.find?_cons_of_neg (by simpa using hkey)]
        exact ih (fun other hother => hpast other (List.mem_cons_of_mem _ hother)) hrest hmem

/-- An alert within the cooldown is the one that the cooldown has noted. -/
theorem Alerted.noted_recent (hs : Alerted cooldownSeconds pipeline alerts)
    (hclock : pipeline.clockUs ≤ nowUs) (halert : alert ∈ alerts)
    (hrecent : elapsedSeconds alert.firedUs nowUs < cooldownSeconds) :
    pipeline.cooldown.lastAlert.get? alert.key = some alert.firedUs := by
  rw [hs.noted, find?_recent (fun other hother => (hs.past other hother).trans hclock) hs.spaced
    halert hrecent]
  rfl

/-- Such an alert suppresses a violation with its key. -/
theorem Alerted.recent_suppresses (hs : Alerted cooldownSeconds pipeline alerts)
    (hclock : pipeline.clockUs ≤ nowUs) (halert : alert ∈ alerts)
    (hrecent : elapsedSeconds alert.firedUs nowUs < cooldownSeconds) :
    (pipeline.cooldown.shouldAlert alert.key nowUs).1 = false :=
  shouldAlert_eq_false_iff.mpr
    ⟨alert.firedUs, hs.noted_recent hclock halert hrecent, hs.cooldown ▸ hrecent⟩

omit [IsStrictOrderedRing K] in
/-- The alerts stay as they are when time passes. -/
theorem Alerted.wait (hs : Alerted cooldownSeconds pipeline alerts)
    (clockUs : pipeline.clockUs ≤ next.clockUs) (cooldown : next.cooldown = pipeline.cooldown)
    (database : next.database = pipeline.database) : Alerted cooldownSeconds next alerts where
  cooldown := by rw [cooldown, hs.cooldown]
  past other hother := (hs.past other hother).trans clockUs
  spaced := hs.spaced
  noted key := by rw [cooldown, hs.noted]
  inserted other hother row hrow := by
    obtain ⟨hmem, hkey, hsince, huntil⟩ := hs.inserted other hother row hrow
    exact ⟨database ▸ hmem, hkey, hsince, huntil.trans clockUs⟩

/-- A new alert. -/
theorem Alerted.fire (hs : Alerted cooldownSeconds pipeline alerts) {key : AlertKey}
    {row : Option (ViolationRow K)} (clockUs : pipeline.clockUs ≤ nowUs)
    (nextUs : nowUs ≤ next.clockUs)
    (cooldown : next.cooldown =
      { pipeline.cooldown with lastAlert := pipeline.cooldown.lastAlert.set key nowUs })
    (database : next.database = pipeline.database ++ row.toList)
    (answer : (pipeline.cooldown.shouldAlert key nowUs).1 = true)
    (inserted : ∀ r, row = some r → r.key = key ∧ nowUs ≤ r.insertedUs ∧
      r.insertedUs ≤ next.clockUs) :
    Alerted cooldownSeconds next ({ key, firedUs := nowUs, row } :: alerts) where
  cooldown := by rw [cooldown, ← hs.cooldown]
  past other hother := by
    rcases List.mem_cons.mp hother with rfl | hmem
    · exact nextUs
    · exact (hs.past other hmem).trans (clockUs.trans nextUs)
  spaced := by
    refine List.pairwise_cons.mpr ⟨fun earlier hearlier hkey => ?_, hs.spaced⟩
    by_contra hrecent
    have hsuppresses := hs.recent_suppresses clockUs hearlier (not_le.mp hrecent)
    rw [← hkey, answer] at hsuppresses
    cases hsuppresses
  noted other := by
    rw [cooldown]
    by_cases hother : other = key
    · subst hother
      rw [Dict.get?_set_self, List.find?_cons_of_pos (by simp)]
      rfl
    · rw [Dict.get?_set_of_ne _ hother, List.find?_cons_of_neg (by simpa using Ne.symm hother),
        hs.noted]
  inserted other hother r hr := by
    rw [database]
    rcases List.mem_cons.mp hother with rfl | hmem
    · obtain rfl : row = some r := hr
      exact ⟨List.mem_append_right _ List.mem_cons_self, inserted r rfl⟩
    · obtain ⟨hrow, hkey, hsince, huntil⟩ := hs.inserted other hmem r hr
      exact ⟨List.mem_append_left _ hrow, hkey, hsince, huntil.trans (clockUs.trans nextUs)⟩

theorem Alerted.step {event : AlertEvent K} (hs : Alerted cooldownSeconds pipeline alerts)
    (h : pipeline.step event = some next) :
    Alerted cooldownSeconds next (alertsAfter alerts pipeline event) := by
  have heffect := step_effect h
  unfold alertsAfter
  generalize pipeline.encounter event = encounter at heffect
  cases heffect with
  | idle clockUs cooldown database => exact hs.wait clockUs.ge cooldown database
  | suppressed key nowUs clockUs nextUs cooldown database answer =>
    exact hs.wait (clockUs.trans nextUs.ge) cooldown database
  | fired key nowUs row clockUs nextUs cooldown database answer inserted =>
    exact hs.fire clockUs nextUs cooldown database answer inserted

end Invariant

/-- In every run, a suppressed violation goes back to one that was delivered less than the cooldown
before, exactly when no alert with its key was lost in that time. -/
theorem suppressed_delivered_iff [IsStrictOrderedRing K] (classifier : ViolationClassifier K)
    (cooldownSeconds : K) (database : List (ViolationRow K)) (clockUs : Nat)
    (events : List (AlertEvent K)) :
    ∀ taken ∈ alertSteps (.init classifier cooldownSeconds database clockUs) events,
      AlertStep.SuppressedDelivered cooldownSeconds taken ↔
        AlertStep.NoLostAlert cooldownSeconds taken := by
  intro taken htaken
  have hs : Alerted cooldownSeconds taken.source.state taken.source.history :=
    Transition.recorded_source_invariant (fun _ _ _ _ hs hstep => hs.step hstep)
      (init_alerted classifier cooldownSeconds database clockUs) events taken htaken
  have hpast {nowUs : Nat} (hclock : taken.source.state.clockUs ≤ nowUs) :
      ∀ alert ∈ taken.source.history, alert.firedUs ≤ nowUs :=
    fun alert halert => (hs.past alert halert).trans hclock
  obtain ⟨next, hnext, -⟩ := Transition.recorded_cases (Transition.step_of_mem_steps htaken)
  have heffect := step_effect hnext
  unfold AlertStep.SuppressedDelivered AlertStep.NoLostAlert
  generalize taken.source.state.encounter taken.event = encounter at heffect
  cases heffect with
  | idle clockUs cooldown database => simp
  | suppressed key nowUs clockUs nextUs cooldown database answer =>
    constructor
    · rintro hdelivered _ _ _ ⟨⟩ alert halert hkey hrecent hlost
      obtain ⟨other, hother, hotherKey, hotherRecent, row, -, hrow, -⟩ := hdelivered _ _ rfl
      -- Both alerts are within the cooldown, so they are one and the same.
      have hlast := find?_recent (hpast clockUs) hs.spaced halert hrecent
      have hotherLast := find?_recent (hpast clockUs) hs.spaced hother hotherRecent
      rw [hkey] at hlast
      rw [hotherKey, hlast] at hotherLast
      obtain rfl := Option.some.inj hotherLast
      rw [hlost] at hrow
      cases hrow
    · rintro hkept _ _ ⟨⟩
      obtain ⟨lastUs, hlast, hrecent⟩ := shouldAlert_eq_false_iff.mp answer
      rw [hs.noted] at hlast
      rw [hs.cooldown] at hrecent
      obtain ⟨alert, hfound, rfl⟩ := Option.map_eq_some_iff.mp hlast
      have halert := List.mem_of_find?_eq_some hfound
      have hkey : alert.key = key := by simpa using List.find?_some hfound
      obtain ⟨row, hrow⟩ := Option.ne_none_iff_exists'.mp
        (hkept _ _ _ rfl alert halert hkey hrecent)
      obtain ⟨hmem, hrowKey, hsince, huntil⟩ := hs.inserted alert halert row hrow
      exact ⟨alert, halert, hkey, hrecent, row, hmem, hrow, hrowKey.trans hkey, hsince,
        huntil.trans clockUs⟩
  | fired key nowUs row clockUs nextUs cooldown database answer inserted =>
    refine ⟨?_, fun _ _ _ h => by cases h⟩
    rintro - _ _ _ ⟨⟩ alert halert rfl hrecent
    rw [hs.recent_suppresses clockUs halert hrecent] at answer
    cases answer

/-- A frame with one person who wears nothing. -/
def unprotected : DetectionResult ℚ :=
  { cameraId := "cam-01", timestampUs := 0
    objects := [{ bbox := ⟨100, 100, 200, 300⟩, cls := .person, conf := 9 / 10 }] }

/-- The dispatch of the first violation ends as given; a second later the frame comes again. -/
def seenTwice (first : Dispatched) : List (AlertEvent ℚ) :=
  [.process unprotected, .iterate ⟨some true, 0, first⟩, .iterate ⟨some false, 0, .raised⟩,
    .iterate ⟨some false, 0, .raised⟩, .process unprotected,
    .iterate ⟨some true, 1000000, .raised⟩]

/-- The dispatch of a violation raises, and a second later the same violation is suppressed although
the database is empty. -/
theorem lost_alert_suppresses :
    ¬ ∀ taken ∈ alertSteps (.init {} 5 [] 0) (seenTwice .raised),
      AlertStep.SuppressedDelivered 5 taken := by
  intro h
  have hrun : ∃ taken ∈ alertSteps (.init {} 5 [] 0) (seenTwice .raised),
      taken.source.state.encounter taken.event =
        some ⟨("cam-01", .noHelmet), 1000000, .suppressed⟩ ∧ taken.source.state.database = [] := by
    decide +kernel
  obtain ⟨taken, htaken, hsuppressed, hempty⟩ := hrun
  obtain ⟨-, -, -, -, row, hrow, -⟩ := h taken htaken _ _ hsuppressed
  rw [hempty] at hrow
  cases hrow

/-- Where the dispatch returns, the suppression a second later is in order. -/
theorem suppressed_delivered_iff_returned :
    ∃ taken ∈ alertSteps (.init {} 5 [] 0) (seenTwice (.inserted 1 0 true)),
      taken.source.state.encounter taken.event =
        some ⟨("cam-01", .noHelmet), 1000000, .suppressed⟩ ∧
      AlertStep.SuppressedDelivered 5 taken := by
  have hrun : ∃ taken ∈ alertSteps (.init {} 5 [] 0) (seenTwice (.inserted 1 0 true)),
      taken.source.state.encounter taken.event =
        some ⟨("cam-01", .noHelmet), 1000000, .suppressed⟩ ∧
      ∀ alert ∈ taken.source.history, alert.row ≠ none := by
    decide +kernel
  obtain ⟨taken, htaken, hsuppressed, hkept⟩ := hrun
  refine ⟨taken, htaken, hsuppressed, (suppressed_delivered_iff _ _ _ _ _ taken htaken).mpr ?_⟩
  exact fun _ _ _ _ alert halert _ _ => hkept alert halert

end EdgeSafety
