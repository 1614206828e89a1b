import EdgeSafety.Alert.Delivered
import EdgeSafety.Alert.RoiMatcher
import EdgeSafety.Lib.RateLimit

/-!
# The pipeline as a rate limiter

`AlertPipeline.process` where the regions of interest stay as they are and every dispatch succeeds.
The loop passes the violations in their regions through a limiter (`process_eq_admitted`), so that a
run of calls meets the specification of one (`alerts_rate_limited`). The pipeline that goes step by
step does what the loop says (`Looped.step`).
-/

namespace EdgeSafety

variable {K P : Type} [Field K] [LinearOrder K]

/-- A violation, with the time at which the loop comes to it. -/
structure Sighting (K : Type) where
  violation : Violation K
  nowUs : Nat

namespace Sighting

/-- The key under which the cooldown knows it. -/
def key (sighting : Sighting K) : AlertKey := sighting.violation.key

/-- Whether it is in the region of its camera. -/
def inRoi (isInRoi : String → BBox K → Bool) (sighting : Sighting K) : Bool :=
  isInRoi sighting.violation.cameraId sighting.violation.bbox

end Sighting

namespace AlertPipeline

/-- The violations that a call of `process` finds; the clock is read once for each of them. -/
def sightings (classifier : ViolationClassifier K) (result : DetectionResult K)
    (clock : Nat → Nat) : List (Sighting K) :=
  (classifier.classify result).zipIdx.map fun (violation, i) => ⟨violation, clock i⟩

/-- The loop of `process`: the violations that it dispatches, and the cooldown that it leaves. -/
def process (isInRoi : String → BBox K → Bool) (cooldown : CooldownManager K) :
    List (Sighting K) → List (Sighting K) × CooldownManager K
  | [] => ([], cooldown)
  | sighting :: rest =>
    if ¬ sighting.inRoi isInRoi then process isInRoi cooldown rest
    else
      let (alert, cooldown) := cooldown.shouldAlert sighting.key sighting.nowUs
      if ¬ alert then process isInRoi cooldown rest
      else
        let (dispatched, cooldown) := process isInRoi cooldown rest
        (sighting :: dispatched, cooldown)

/-- Calls of `process` one after the other, with what each of them dispatches. -/
def processAll (isInRoi : String → BBox K → Bool) (cooldown : CooldownManager K) :
    List (List (Sighting K)) → List (List (Sighting K))
  | [] => []
  | call :: calls =>
    let (dispatched, cooldown) := process isInRoi cooldown call
    dispatched :: processAll isInRoi cooldown calls

/-- What a run of calls dispatches. -/
def dispatches (isInRoi : String → BBox K → Bool) (cooldownSeconds : K)
    (calls : List (List (Sighting K))) : List (Sighting K) :=
  (processAll isInRoi { cooldownSeconds } calls).flatten

end AlertPipeline

/-- Whether the cooldown is still on. -/
def recentAlert (cooldownSeconds : K) (sinceUs nowUs : Nat) : Bool :=
  decide ((elapsedSeconds sinceUs nowUs : K) < cooldownSeconds)

/-- What a limiter on the keys of the violations lets pass. -/
def limited (cooldownSeconds : K) (last : AlertKey → Option Nat) (sightings : List (Sighting K)) :
    List (Sighting K) :=
  RateLimit.admitted Sighting.key Sighting.nowUs (recentAlert cooldownSeconds) last sightings

section Cooldown
variable {manager : CooldownManager K} {sighting : Sighting K}

/-- The cooldown decides as the limiter does. -/
theorem shouldAlert_eq_not_held : (manager.shouldAlert sighting.key sighting.nowUs).1 =
    !RateLimit.held Sighting.key Sighting.nowUs (recentAlert manager.cooldownSeconds)
      manager.lastAlert.get? sighting := by
  cases hheld : RateLimit.held Sighting.key Sighting.nowUs (recentAlert manager.cooldownSeconds)
      manager.lastAlert.get? sighting with
  | true =>
    obtain ⟨lastUs, hlast, hrecent⟩ := RateLimit.held_eq_true_iff.mp hheld
    exact shouldAlert_eq_false_iff.mpr ⟨lastUs, hlast, of_decide_eq_true hrecent⟩
  | false =>
    by_contra halert
    obtain ⟨lastUs, hlast, hrecent⟩ := shouldAlert_eq_false_iff.mp (eq_false_of_ne_true halert)
    rw [← Bool.not_eq_true, RateLimit.held_eq_true_iff] at hheld
    exact hheld ⟨lastUs, hlast, decide_eq_true hrecent⟩

/-- The cooldown notes what the limiter notes. -/
theorem get?_shouldAlert (h : (manager.shouldAlert sighting.key sighting.nowUs).1 = true) :
    (manager.shouldAlert sighting.key sighting.nowUs).2.lastAlert.get? =
      RateLimit.note Sighting.key Sighting.nowUs manager.lastAlert.get? sighting := by
  rw [shouldAlert_fires h]
  funext key
  by_cases hkey : key = sighting.key
  · rw [hkey, Dict.get?_set_self, RateLimit.note_self]
  · rw [Dict.get?_set_of_ne _ hkey, RateLimit.note_of_ne hkey]

theorem shouldAlert_cooldownSeconds {key : AlertKey} {nowUs : Nat} :
    (manager.shouldAlert key nowUs).2.cooldownSeconds = manager.cooldownSeconds := by
  cases halert : (manager.shouldAlert key nowUs).1 with
  | false => rw [shouldAlert_suppresses halert]
  | true => rw [shouldAlert_fires halert]

end Cooldown

section Loop
variable {isInRoi : String → BBox K → Bool} {manager : CooldownManager K}
  {sighting : Sighting K} {rest : List (Sighting K)}

open AlertPipeline

theorem process_outside (h : ¬ sighting.inRoi isInRoi = true) :
    process isInRoi manager (sighting :: rest) = process isInRoi manager rest := by
  rw [process, if_pos h]

theorem process_suppressed (hroi : sighting.inRoi isInRoi = true)
    (h : (manager.shouldAlert sighting.key sighting.nowUs).1 = false) :
    process isInRoi manager (sighting :: rest) = process isInRoi manager rest := by
  rw [process, if_neg (not_not_intro hroi)]
  simp only [h, Bool.false_eq_true, not_false_eq_true, if_true]
  rw [shouldAlert_suppresses h]

theorem process_fired (hroi : sighting.inRoi isInRoi = true)
    (h : (manager.shouldAlert sighting.key sighting.nowUs).1 = true) :
    process isInRoi manager (sighting :: rest) =
      (sighting :: (process isInRoi (manager.shouldAlert sighting.key sighting.nowUs).2 rest).1,
        (process isInRoi (manager.shouldAlert sighting.key sighting.nowUs).2 rest).2) := by
  rw [process, if_neg (not_not_intro hroi)]
  simp only [h, not_true_eq_false, if_false]

/-- The loop is a limiter on the violations in their regions. -/
theorem process_eq_limited (sightings : List (Sighting K)) :
    (process isInRoi manager sightings).1 =
      limited manager.cooldownSeconds manager.lastAlert.get?
        (sightings.filter (Sighting.inRoi isInRoi)) := by
  induction sightings generalizing manager with
  | nil => rfl
  | cons sighting rest ih =>
    by_cases hroi : sighting.inRoi isInRoi = true
    · rw [List.filter_cons_of_pos hroi, limited, RateLimit.admitted]
      have hdecided := @shouldAlert_eq_not_held K _ _ manager sighting
      cases halert : (manager.shouldAlert sighting.key sighting.nowUs).1 with
      | false =>
        rw [process_suppressed hroi halert, if_pos (by simpa [halert] using hdecided)]
        exact ih
      | true =>
        rw [process_fired hroi halert, if_neg (by simpa [halert] using hdecided),
          ← get?_shouldAlert halert]
        have hrest := @ih (manager.shouldAlert sighting.key sighting.nowUs).2
        rw [shouldAlert_cooldownSeconds] at hrest
        exact congrArg (sighting :: ·) hrest
    · rw [process_outside hroi, List.filter_cons_of_neg hroi]
      exact ih

theorem process_append (sightings more : List (Sighting K)) :
    process isInRoi manager (sightings ++ more) =
      ((process isInRoi manager sightings).1 ++
          (process isInRoi (process isInRoi manager sightings).2 more).1,
        (process isInRoi (process isInRoi manager sightings).2 more).2) := by
  induction sightings generalizing manager with
  | nil => rfl
  | cons sighting rest ih =>
    rw [List.cons_append]
    by_cases hroi : sighting.inRoi isInRoi = true
    · cases halert : (manager.shouldAlert sighting.key sighting.nowUs).1 with
      | false => rw [process_suppressed hroi halert, process_suppressed hroi halert, ih]
      | true =>
        rw [process_fired hroi halert, process_fired hroi halert, ih]
        rfl
    · rw [process_outside hroi, process_outside hroi, ih]

/-- The calls share the cooldown, so that they dispatch what one long call would. -/
theorem flatten_processAll (calls : List (List (Sighting K))) :
    (processAll isInRoi manager calls).flatten = (process isInRoi manager calls.flatten).1 := by
  induction calls generalizing manager with
  | nil => rfl
  | cons call calls ih =>
    rw [List.flatten_cons, process_append, processAll, List.flatten_cons, ih]

/-- A run of calls dispatches what the limiter lets pass. -/
theorem dispatches_eq_limited {cooldownSeconds : K} (calls : List (List (Sighting K))) :
    dispatches isInRoi cooldownSeconds calls =
      limited cooldownSeconds (fun _ => none)
        (calls.flatten.filter (Sighting.inRoi isInRoi)) := by
  rw [dispatches, flatten_processAll, process_eq_limited]
  rfl

end Loop

section Machine
variable {isInRoi : String → BBox K → Bool} {cooldownSeconds : K} {database : List (ViolationRow K)}
  {pipeline next : AlertPipeline K} {seen : List (Sighting K)}

/-- What a step of the pipeline looks at. It reads the clock for a violation in its region only. -/
def sightingsAfter (seen : List (Sighting K)) (pipeline : AlertPipeline K) :
    AlertEvent K → List (Sighting K)
  | .process _ => seen
  | .iterate surroundings =>
    match pipeline.call with
    | .looping violation _ _ =>
      let waitUs := if surroundings.isInRoi = some true then surroundings.waitUs else 0
      seen ++ [⟨violation, pipeline.clockUs + waitUs⟩]
    | _ => seen

/-- In a step, `is_in_roi` answers as given and the dispatch succeeds. -/
def Settled (isInRoi : String → BBox K → Bool) (pipeline : AlertPipeline K) : AlertEvent K → Prop
  | .process _ => True
  | .iterate surroundings => ∀ violation rest dispatched,
      pipeline.call = .looping violation rest dispatched →
        surroundings.isInRoi = some (isInRoi violation.cameraId violation.bbox) ∧
          ∃ id waitUs, surroundings.dispatch = .inserted id waitUs true

/-- The row of a violation that was dispatched. -/
def Sighting.HasRow (sighting : Sighting K) (row : ViolationRow K) : Prop :=
  ∃ id insertedUs, row = sighting.violation.row id insertedUs ∧ sighting.nowUs ≤ insertedUs

/-- The pipeline has done to the violations so far what the loop does. -/
structure Looped (isInRoi : String → BBox K → Bool) (cooldownSeconds : K)
    (database : List (ViolationRow K)) (pipeline : AlertPipeline K) (seen : List (Sighting K)) :
    Prop where
  cooldown : pipeline.cooldown = (AlertPipeline.process isInRoi { cooldownSeconds } seen).2
  rows : ∃ rows, pipeline.database = database ++ rows ∧
    List.Forall₂ Sighting.HasRow (AlertPipeline.process isInRoi { cooldownSeconds } seen).1 rows
  past : ∀ sighting ∈ seen, sighting.nowUs ≤ pipeline.clockUs
  sorted : seen.Pairwise fun earlier later => earlier.nowUs ≤ later.nowUs

/-- One more violation. -/
theorem Looped.look (hs : Looped isInRoi cooldownSeconds database pipeline seen)
    {sighting : Sighting K} {fired : List (Sighting K)} {rows : List (ViolationRow K)}
    (clockUs : pipeline.clockUs ≤ sighting.nowUs) (nextUs : sighting.nowUs ≤ next.clockUs)
    (hprocess : AlertPipeline.process isInRoi pipeline.cooldown [sighting] =
      (fired, next.cooldown))
    (hdatabase : next.database = pipeline.database ++ rows)
    (hrows : List.Forall₂ Sighting.HasRow fired rows) :
    Looped isInRoi cooldownSeconds database next (seen ++ [sighting]) where
  cooldown := by rw [process_append, ← hs.cooldown, hprocess]
  rows := by
    obtain ⟨before, hbefore, hrowsBefore⟩ := hs.rows
    rw [process_append, ← hs.cooldown, hprocess]
    refine ⟨before ++ rows, ?_, List.rel_append hrowsBefore hrows⟩
    rw [hdatabase, hbefore, List.append_assoc]
  past other hother := by
    rcases List.mem_append.mp hother with hseen | hlast
    · exact (hs.past other hseen).trans (clockUs.trans nextUs)
    · rw [List.mem_singleton.mp hlast]
      exact nextUs
  sorted := by
    refine List.pairwise_append.mpr ⟨hs.sorted, List.pairwise_singleton _ _, ?_⟩
    intro other hother later hlater
    rw [List.mem_singleton.mp hlater]
    exact (hs.past other hother).trans clockUs

theorem iterate_suppressed {violation : Violation K}
    {rest dispatched : List (Violation K)} {waitUs : Nat} {dispatch : Dispatched}
    (h : (pipeline.cooldown.shouldAlert violation.key (pipeline.clockUs + waitUs)).1 = false) :
    pipeline.iterate violation rest dispatched ⟨some true, waitUs, dispatch⟩ =
      { pipeline with
        clockUs := pipeline.clockUs + waitUs
        call := .loop rest dispatched } := by
  simp only [AlertPipeline.iterate, h, shouldAlert_suppresses h, Bool.false_eq_true, if_false]

theorem iterate_inserted {violation : Violation K} {rest dispatched : List (Violation K)}
    {waitUs id insertUs : Nat}
    (h : (pipeline.cooldown.shouldAlert violation.key (pipeline.clockUs + waitUs)).1 = true) :
    pipeline.iterate violation rest dispatched ⟨some true, waitUs, .inserted id insertUs true⟩ =
      { pipeline with
        clockUs := pipeline.clockUs + waitUs + insertUs
        cooldown := (pipeline.cooldown.shouldAlert violation.key (pipeline.clockUs + waitUs)).2
        database := pipeline.database ++
          [violation.row id (pipeline.clockUs + waitUs + insertUs)]
        call := .loop rest (dispatched ++ [{ violation with id := some id }]) } := by
  simp only [AlertPipeline.iterate, h, if_true, AlertPipeline.dispatch]

theorem Looped.step {event : AlertEvent K}
    (hs : Looped isInRoi cooldownSeconds database pipeline seen)
    (hsettled : Settled isInRoi pipeline event) (h : pipeline.step event = some next) :
    Looped isInRoi cooldownSeconds database next (sightingsAfter seen pipeline event) := by
  cases event with
  | process result =>
    simp only [AlertPipeline.step] at h
    split at h
    · cases h
    · cases h
      exact ⟨hs.cooldown, hs.rows, hs.past, hs.sorted⟩
  | iterate surroundings =>
    simp only [AlertPipeline.step] at h
    split at h
    · next violation rest dispatched hcall =>
      obtain ⟨answer, waitUs, dispatch⟩ := surroundings
      obtain ⟨hroi, id, insertUs, hdispatch⟩ := hsettled violation rest dispatched hcall
      obtain rfl : answer = _ := hroi
      obtain rfl : dispatch = _ := hdispatch
      obtain rfl := Option.some.inj h
      simp only [sightingsAfter, hcall]
      have hwait : pipeline.clockUs ≤ pipeline.clockUs + waitUs := Nat.le_add_right _ _
      cases hinside : isInRoi violation.cameraId violation.bbox with
      | false =>
        have hprocess := @process_outside K _ _ isInRoi pipeline.cooldown
          ⟨violation, pipeline.clockUs⟩ [] (by simp [Sighting.inRoi, hinside])
        exact hs.look (Nat.le_refl _) (Nat.le_refl _) hprocess (List.append_nil _).symm .nil
      | true =>
        rw [if_pos rfl]
        cases halert : (pipeline.cooldown.shouldAlert violation.key
            (pipeline.clockUs + waitUs)).1 with
        | false =>
          have hprocess := @process_suppressed K _ _ isInRoi pipeline.cooldown
            ⟨violation, pipeline.clockUs + waitUs⟩ [] hinside halert
          rw [iterate_suppressed halert]
          exact hs.look hwait (Nat.le_refl _) hprocess (List.append_nil _).symm .nil
        | true =>
          have hprocess := @process_fired K _ _ isInRoi pipeline.cooldown
            ⟨violation, pipeline.clockUs + waitUs⟩ [] hinside halert
          rw [iterate_inserted halert]
          exact hs.look hwait (Nat.le_add_right _ insertUs) hprocess rfl
            (.cons ⟨id, _, rfl, Nat.le_add_right _ insertUs⟩ .nil)
    · cases h

/-- In every run where the answers of `is_in_roi` do not change and the dispatches succeed, the
pipeline leaves the rows of the violations that the loop dispatches. -/
theorem pipeline_looped (isInRoi : String → BBox K → Bool) (classifier : ViolationClassifier K)
    (cooldownSeconds : K) (database : List (ViolationRow K)) (clockUs : Nat)
    (events : List (AlertEvent K))
    (hsettled : ∀ taken ∈ Transition.steps (Transition.recorded AlertPipeline.step sightingsAfter)
        ⟨.init classifier cooldownSeconds database clockUs, []⟩ events,
      Settled isInRoi taken.source.state taken.event) :
    let last := Transition.exec (Transition.recorded AlertPipeline.step sightingsAfter)
      ⟨.init classifier cooldownSeconds database clockUs, []⟩ events
    Looped isInRoi cooldownSeconds database last.state last.history := by
  refine (@Transition.guarded_invariant _ _ (Transition.recorded AlertPipeline.step sightingsAfter)
    (fun reached => Looped isInRoi cooldownSeconds database reached.state reached.history)
    (fun reached event => Settled isInRoi reached.state event) ?_ _ ?_ events hsettled).1
  · intro reached event next hs hevent hstep
    obtain ⟨pipeline, hpipeline, rfl⟩ := Transition.recorded_cases hstep
    exact hs.step hevent hpipeline
  · exact ⟨rfl, ⟨[], (List.append_nil _).symm, .nil⟩, by simp, .nil⟩

end Machine

/-- As time passes, an alert becomes less recent. -/
theorem recentAlert_mono [IsStrictOrderedRing K] {cooldownSeconds : K} (sinceUs laterUs nowUs : Nat)
    (h : sinceUs ≤ laterUs) (hrecent : recentAlert cooldownSeconds sinceUs nowUs = true) :
    recentAlert cooldownSeconds laterUs nowUs = true := by
  have hcast : (sinceUs : K) ≤ laterUs := Nat.cast_le.mpr h
  have helapsed : (elapsedSeconds laterUs nowUs : K) ≤ elapsedSeconds sinceUs nowUs :=
    div_le_div_of_nonneg_right (sub_le_sub_left hcast _) (Nat.cast_nonneg _)
  exact decide_eq_true (lt_of_le_of_lt helapsed (of_decide_eq_true hrecent))

section Specification
variable {isInRoi : String → BBox K → Bool} {cooldownSeconds : K}

open AlertPipeline

/-- Alerts with one key are a cooldown apart. -/
theorem dispatches_spaced [IsStrictOrderedRing K] {calls : List (List (Sighting K))}
    (hclock : calls.flatten.Pairwise fun earlier later => earlier.nowUs ≤ later.nowUs) :
    (dispatches isInRoi cooldownSeconds calls).Pairwise fun earlier later =>
      earlier.key = later.key → cooldownSeconds ≤ elapsedSeconds earlier.nowUs later.nowUs := by
  rw [dispatches_eq_limited]
  refine (RateLimit.admitted_spaced recentAlert_mono (hclock.filter _)).imp ?_
  exact fun hfar hkey => not_lt.mp (of_decide_eq_false (hfar hkey))

theorem dispatches_prefix (before after : List (Sighting K)) :
    dispatches isInRoi cooldownSeconds [before] <+:
      dispatches isInRoi cooldownSeconds [before ++ after] := by
  simp only [dispatches_eq_limited, limited, List.flatten_singleton, List.filter_append,
    RateLimit.admitted_append]
  exact List.prefix_append _ _

/-- A violation in its region is dispatched, or an alert with its key was shortly before. -/
theorem dispatches_covered (before : List (Sighting K)) {sighting : Sighting K}
    (hroi : sighting.inRoi isInRoi = true) :
    dispatches isInRoi cooldownSeconds [before ++ [sighting]] =
        dispatches isInRoi cooldownSeconds [before] ++ [sighting] ∨
      ∃ earlier ∈ dispatches isInRoi cooldownSeconds [before], earlier.key = sighting.key ∧
        elapsedSeconds earlier.nowUs sighting.nowUs < cooldownSeconds := by
  simp only [dispatches_eq_limited, List.flatten_singleton, List.filter_append,
    List.filter_cons_of_pos hroi, List.filter_nil]
  rcases @RateLimit.admitted_covered _ _ _ _ Sighting.key Sighting.nowUs
    (recentAlert cooldownSeconds) (before.filter (Sighting.inRoi isInRoi)) sighting with
    hpassed | ⟨earlier, hearlier, hkey, hrecent⟩
  · exact .inl hpassed
  · exact .inr ⟨earlier, hearlier, hkey, of_decide_eq_true hrecent⟩

/-- Violations outside their regions, and violations of other keys, have no influence. -/
theorem dispatches_thinned {kept : AlertKey → Bool} {calls fewer : List (List (Sighting K))}
    (h : List.Forall₂ (RateLimit.Thinned fun sighting =>
      sighting.inRoi isInRoi = false ∨ kept sighting.key = false) calls fewer) :
    (dispatches isInRoi cooldownSeconds fewer).filter (kept ·.key) =
      (dispatches isInRoi cooldownSeconds calls).filter (kept ·.key) := by
  rw [dispatches_eq_limited, dispatches_eq_limited]
  symm
  apply RateLimit.admitted_filter_of_thinned
  · exact (RateLimit.Thinned.flatten h).filter
  · exact fun _ _ => rfl

end Specification

/-- The pipeline is a rate limiter: alerts with one key are a cooldown apart, a violation in its
region that is not dispatched has an alert shortly before, and neither violations outside their
regions nor those of other keys have an influence on the alerts of the keys `kept`. -/
theorem alerts_rate_limited [IsStrictOrderedRing K] (shapely : Shapely K P)
    (configs : RoiConfigs K) (classifier : ViolationClassifier K) (cooldownSeconds : K)
    (calls : List (DetectionResult K × (Nat → Nat)))
    (hclock : (calls.flatMap fun (result, clock) =>
      AlertPipeline.sightings classifier result clock).Pairwise
        fun earlier later => earlier.nowUs ≤ later.nowUs) :
    let isInRoi := shapely.isInRoi configs
    let dispatches := AlertPipeline.dispatches isInRoi cooldownSeconds
    let run := calls.map fun (result, clock) => AlertPipeline.sightings classifier result clock
    (dispatches run).Pairwise (fun earlier later => earlier.key = later.key →
      cooldownSeconds ≤ elapsedSeconds earlier.nowUs later.nowUs) ∧
    (∀ before sighting after, run.flatten = before ++ sighting :: after →
      sighting.inRoi isInRoi = true →
      dispatches [before] ++ [sighting] <+: dispatches run ∨
      ∃ earlier ∈ dispatches [before], dispatches [before] <+: dispatches run ∧
        earlier.key = sighting.key ∧
        elapsedSeconds earlier.nowUs sighting.nowUs < cooldownSeconds) ∧
    ∀ (kept : AlertKey → Bool) (fewer : List (List (Sighting K))),
      List.Forall₂ (RateLimit.Thinned fun sighting =>
        sighting.inRoi isInRoi = false ∨ kept sighting.key = false) run fewer →
      (dispatches fewer).filter (kept ·.key) = (dispatches run).filter (kept ·.key) := by
  intro isInRoi dispatches run
  have hflat : run.flatten = calls.flatMap fun (result, clock) =>
    AlertPipeline.sightings classifier result clock := rfl
  refine ⟨dispatches_spaced (hflat ▸ hclock), ?_, fun kept fewer => dispatches_thinned⟩
  intro before sighting after hsplit hroi
  have hrun : dispatches run = dispatches [before ++ [sighting] ++ after] := by
    simp only [dispatches, dispatches_eq_limited, hsplit]
    simp
  rcases dispatches_covered before hroi with hfired | ⟨earlier, hearlier, hkey, hrecent⟩
  · left
    rw [← hfired, hrun]
    exact dispatches_prefix _ _
  · right
    refine ⟨earlier, hearlier, ?_, hkey, hrecent⟩
    rw [hrun, List.append_assoc]
    exact dispatches_prefix _ _

/-- The region of `cam-01` is the whole frame. -/
def wholeFrame : RoiConfigs ℚ := Dict.empty.set "cam-01" [(0, 0), (640, 0), (640, 480), (0, 480)]

/-- The three violations of a frame are dispatched, and not again a second later. -/
theorem alerts_rate_limited_whole_frame :
    let dispatched := AlertPipeline.dispatches (rectangles.isInRoi wholeFrame) 5
      [AlertPipeline.sightings {} unprotected fun _ => 0,
        AlertPipeline.sightings {} unprotected fun _ => 1000000]
    dispatched.map Sighting.nowUs = [0, 0, 0] ∧
    dispatched.Pairwise fun earlier later => earlier.key = later.key →
      (5 : ℚ) ≤ elapsedSeconds earlier.nowUs later.nowUs :=
  ⟨by decide +kernel,
    (alerts_rate_limited rectangles wholeFrame {} 5
      [(unprotected, fun _ => 0), (unprotected, fun _ => 1000000)] (by decide +kernel)).1⟩

end EdgeSafety
