import EdgeSafety.Capture.CaptureProcess

/-!
# The pace of a capture process

Two cycles of one capture begin a frame interval apart, and the first cycle of a capture begins no
sooner after those of earlier ones than the first delay of the policy (`Paced`). What a place of the
process promises about this is said by functions of the place, such as the time at which its wait
ends.
-/

namespace EdgeSafety

/-- No delay is shorter than the first. -/
theorem ReconnectPolicy.delay_zero_le {policy next : ReconnectPolicy} {delay : ℚ}
    (h : policy.nextDelaySeconds = (.ok delay, next)) :
    policy.config.delay 0 ≤ delay ∧ next.config = policy.config := by
  rcases lt_or_ge (policy.config.multiplier ^ policy.attempts) (2 ^ 1024) with hsmall | hlarge
  · rw [nextDelaySeconds_of_lt policy hsmall] at h
    obtain ⟨hdelay, rfl⟩ := Prod.mk.inj h
    rw [← Except.ok.inj hdelay]
    exact ⟨policy.config.delay_mono (Nat.zero_le _), rfl⟩
  · rw [nextDelaySeconds_of_le policy hlarge] at h
    cases h

namespace CaptureProcess

variable {config : CaptureConfig}

namespace Pc

/-- The time at which the pause between two cycles ends, where it is `nowNs`. -/
def restsUntil? (nowNs : ℚ) : Pc → Option ℚ
  | .frames _ => some nowNs
  | .pause _ remainingNs => some (nowNs + remainingNs)
  | .paused _ deadlineNs => some deadlineNs
  | _ => none

/-- The time at which the process is back at the outer loop, where it is `nowNs`. -/
def awayUntil? (nowNs : ℚ) : Pc → Option ℚ
  | .starting | .head | .reconnecting => some nowNs
  | .wait delayNs => some (nowNs + delayNs)
  | .waiting deadlineNs => some deadlineNs
  | _ => none

/-- The start of the cycle that the process is in. -/
def cycleNs? : Pc → Option Nat
  | .reading _ startedNs => some startedNs
  | .publishing cycle _ | .counting cycle | .succeeding cycle _ | .comparing cycle _
  | .dropping cycle _ | .reporting cycle _ _ | .windowing cycle _ | .pacing cycle =>
    some cycle.startedNs
  | _ => none

/-- A cycle can begin now. -/
def begins : Pc → Bool
  | .opened | .timing _ => true
  | _ => false

/-- The process has found the stop event unset, and opens a capture or goes on with one. -/
def connects : Pc → Bool
  | .opening | .opened | .frames _ | .timing _ | .reading _ _ | .publishing _ _ | .counting _
  | .succeeding _ _ | .comparing _ _ | .dropping _ _ | .reporting _ _ _ | .windowing _ _ | .pacing _
  | .pause _ _ | .paused _ _ => true
  | _ => false

/-- The capture that is not open yet. -/
def next : Pc → Nat
  | .opening => 1
  | _ => 0

/-- Time goes on, whatever the process waits for. -/
theorem restsUntil?_mono (pc : Pc) {before after : ℚ} (h : before ≤ after) :
    ∀ untilNs, pc.restsUntil? after = some untilNs →
      ∃ earlierNs, pc.restsUntil? before = some earlierNs ∧ earlierNs ≤ untilNs := by
  intro untilNs huntil
  cases pc with
  | frames _ =>
    obtain rfl := Option.some.inj huntil
    exact ⟨before, rfl, h⟩
  | pause _ remainingNs =>
    obtain rfl := Option.some.inj huntil
    exact ⟨before + remainingNs, rfl, by linarith⟩
  | paused _ deadlineNs => exact ⟨untilNs, huntil, le_refl _⟩
  | _ => cases huntil

theorem awayUntil?_mono (pc : Pc) {before after : ℚ} (h : before ≤ after) :
    ∀ untilNs, pc.awayUntil? after = some untilNs →
      ∃ earlierNs, pc.awayUntil? before = some earlierNs ∧ earlierNs ≤ untilNs := by
  intro untilNs huntil
  cases pc with
  | starting | head | reconnecting =>
    obtain rfl := Option.some.inj huntil
    exact ⟨before, rfl, h⟩
  | wait delayNs =>
    obtain rfl := Option.some.inj huntil
    exact ⟨before + delayNs, rfl, by linarith⟩
  | waiting deadlineNs => exact ⟨untilNs, huntil, le_refl _⟩
  | _ => cases huntil

end Pc

/-- The cycles are a frame interval apart if they are of one capture, and the first delay if they
are not. -/
def Apart (config : CaptureConfig) (first second : Nat × Nat) : Prop :=
  (first.1 = second.1 → first.2 + config.frameIntervalNs ≤ second.2) ∧
    (first.1 ≠ second.1 → first.2 + config.delayNs 0 ≤ second.2)

/-- The cycles of the open capture began a frame interval before then. -/
def Rested (config : CaptureConfig) (h : History) (untilNs : ℚ) : Prop :=
  ∀ cycle ∈ h.cycles, cycle.1 = h.opened → cycle.2 + config.frameIntervalNs ≤ untilNs

/-- The cycles of the captures before `capture` began the first delay before then. -/
def Away (config : CaptureConfig) (h : History) (capture : Nat) (untilNs : ℚ) : Prop :=
  ∀ cycle ∈ h.cycles, cycle.1 < capture → cycle.2 + config.delayNs 0 ≤ untilNs

theorem Rested.mono {h : History} {untilNs laterNs : ℚ} (hrested : Rested config h untilNs)
    (hle : untilNs ≤ laterNs) : Rested config h laterNs :=
  fun cycle hcycle hsame => (hrested cycle hcycle hsame).trans hle

theorem Away.mono {h : History} {capture : Nat} {untilNs laterNs : ℚ}
    (haway : Away config h capture untilNs) (hle : untilNs ≤ laterNs) :
    Away config h capture laterNs :=
  fun cycle hcycle hless => (haway cycle hcycle hless).trans hle

/-- What the process has waited for, unless the stop event is set. -/
structure Paced (s : CaptureProcess config) (h : History) : Prop where
  policy : s.policy.config = config.reconnect
  spaced : h.cycles.Pairwise (Apart config)
  known : ∀ cycle ∈ h.cycles, cycle.1 ≤ h.opened ∧ cycle.2 ≤ s.clockNs.toNat
  connected : s.pc.connects = true → Away config h (h.opened + s.pc.next) s.clockNs.toNat
  begins : s.pc.begins = true → Rested config h s.clockNs.toNat
  rests : ∀ untilNs, s.pc.restsUntil? s.clockNs.toNat = some untilNs →
    s.stopEvent = true ∨ Rested config h untilNs
  away : ∀ untilNs, s.pc.awayUntil? s.clockNs.toNat = some untilNs →
    s.stopEvent = true ∨ Away config h (h.opened + 1) untilNs
  current : ∀ startedNs, s.pc.cycleNs? = some startedNs →
    ∀ cycle ∈ h.cycles, cycle.1 = h.opened → cycle.2 ≤ startedNs

section Paced
variable {s t : CaptureProcess config} {h h' : History}

/-- Time goes on. -/
theorem Paced.tick (hs : Paced s h) {clockNs : UInt64} (hlater : s.clockNs ≤ clockNs) :
    Paced { s with clockNs } h := by
  have hle : s.clockNs.toNat ≤ clockNs.toNat := hlater
  have hcast : (s.clockNs.toNat : ℚ) ≤ clockNs.toNat := Nat.cast_le.mpr hle
  refine { hs with known := ?_, connected := ?_, begins := ?_, rests := ?_, away := ?_ }
  · intro cycle hcycle
    obtain ⟨hopened, hclock⟩ := hs.known cycle hcycle
    exact ⟨hopened, hclock.trans hle⟩
  · intro hconnects
    exact (hs.connected hconnects).mono hcast
  · intro hbegins
    exact (hs.begins hbegins).mono hcast
  · intro untilNs huntil
    obtain ⟨earlierNs, hearlier, hbefore⟩ := s.pc.restsUntil?_mono hcast untilNs huntil
    exact (hs.rests earlierNs hearlier).imp id fun hrested => hrested.mono hbefore
  · intro untilNs huntil
    obtain ⟨earlierNs, hearlier, hbefore⟩ := s.pc.awayUntil?_mono hcast untilNs huntil
    exact (hs.away earlierNs hearlier).imp id fun haway => haway.mono hbefore

/-- A step to a place that promises nothing new. -/
theorem Paced.quiet (hs : Paced s h) {pc : Pc} (hpc : s.pc = pc) (clockNs : t.clockNs = s.clockNs)
    (policy : t.policy.config = s.policy.config) (cycles : h'.cycles = h.cycles)
    (opened : h'.opened = h.opened)
    (connects : t.pc.connects = true → pc.connects = true ∧ t.pc.next = pc.next)
    (begins : t.pc.begins = false) (rests : t.pc.restsUntil? t.clockNs.toNat = none)
    (away : t.pc.awayUntil? t.clockNs.toNat = none)
    (current : t.pc.cycleNs? = none ∨ t.pc.cycleNs? = pc.cycleNs?) : Paced t h' := by
  subst hpc
  constructor
  · rw [policy]
    exact hs.policy
  · rw [cycles]
    exact hs.spaced
  · rw [cycles, opened, clockNs]
    exact hs.known
  · intro hconnects
    obtain ⟨hbefore, hnext⟩ := connects hconnects
    rw [Away, cycles, opened, clockNs, hnext]
    exact hs.connected hbefore
  · rw [begins]
    nofun
  · rw [rests]
    nofun
  · rw [away]
    nofun
  · intro startedNs hstarted
    rcases current with hnone | hsame
    · rw [hnone] at hstarted
      cases hstarted
    · rw [cycles, opened]
      exact hs.current startedNs (hsame ▸ hstarted)

/-- The process goes on with the capture, with some promise about its next cycle. -/
theorem Paced.rest (hs : Paced s h) {pc : Pc} (hpc : s.pc = pc) (clockNs : t.clockNs = s.clockNs)
    (policy : t.policy.config = s.policy.config) (connects : pc.connects = true)
    (next : t.pc.next = pc.next) (begins : t.pc.begins = true → Rested config h t.clockNs.toNat)
    (rests : ∀ untilNs, t.pc.restsUntil? t.clockNs.toNat = some untilNs →
      t.stopEvent = true ∨ Rested config h untilNs)
    (away : t.pc.awayUntil? t.clockNs.toNat = none) (current : t.pc.cycleNs? = none) :
    Paced t h := by
  subst hpc
  refine ⟨policy.trans hs.policy, hs.spaced, ?_, ?_, begins, rests, ?_, ?_⟩
  · rw [clockNs]
    exact hs.known
  · intro _
    rw [clockNs, next]
    exact hs.connected connects
  · rw [away]
    nofun
  · rw [current]
    nofun

/-- The process is away from its captures, with some promise about the next one. -/
theorem Paced.leave (hs : Paced s h) (clockNs : t.clockNs = s.clockNs)
    (policy : t.policy.config = s.policy.config) (cycles : h'.cycles = h.cycles)
    (opened : h'.opened = h.opened) (connects : t.pc.connects = false)
    (begins : t.pc.begins = false) (rests : t.pc.restsUntil? t.clockNs.toNat = none)
    (away : ∀ untilNs, t.pc.awayUntil? t.clockNs.toNat = some untilNs →
      t.stopEvent = true ∨ Away config h (h.opened + 1) untilNs)
    (current : t.pc.cycleNs? = none) : Paced t h' := by
  constructor
  · rw [policy]
    exact hs.policy
  · rw [cycles]
    exact hs.spaced
  · rw [cycles, opened, clockNs]
    exact hs.known
  · rw [connects]
    nofun
  · rw [begins]
    nofun
  · rw [rests]
    nofun
  · unfold Away
    rw [cycles, opened]
    exact away
  · rw [current]
    nofun

/-- A cycle begins. -/
theorem Paced.cycle (hs : Paced s h) {window : Window} (hpc : s.pc = .timing window) :
    Paced { s with pc := .reading window s.clockNs.toNat }
      { h with cycles := h.cycles ++ [(h.opened, s.clockNs.toNat)] } := by
  have hrested : Rested config h s.clockNs.toNat := hs.begins (by rw [hpc]; rfl)
  have haway : Away config h h.opened s.clockNs.toNat := by
    have hconnected := hs.connected (by rw [hpc]; rfl)
    rw [hpc] at hconnected
    exact hconnected
  have hmem : ∀ cycle ∈ h.cycles ++ [(h.opened, s.clockNs.toNat)],
      cycle ∈ h.cycles ∨ cycle = (h.opened, s.clockNs.toNat) := by
    intro cycle hcycle
    rcases List.mem_append.mp hcycle with hold | hnew
    · exact .inl hold
    · exact .inr (List.mem_singleton.mp hnew)
  refine ⟨hs.policy, ?_, ?_, ?_, nofun, nofun, nofun, ?_⟩
  · refine List.pairwise_append.mpr ⟨hs.spaced, List.pairwise_singleton _ _, ?_⟩
    intro first hfirst second hsecond
    rw [List.mem_singleton.mp hsecond]
    refine ⟨hrested first hfirst, fun hne => haway first hfirst ?_⟩
    exact Nat.lt_of_le_of_ne (hs.known first hfirst).1 hne
  · intro cycle hcycle
    rcases hmem cycle hcycle with hold | rfl
    · exact hs.known cycle hold
    · exact ⟨le_refl _, le_refl _⟩
  · intro _ cycle hcycle hless
    rcases hmem cycle hcycle with hold | rfl
    · exact haway cycle hold hless
    · exact absurd hless (Nat.lt_irrefl _)
  · intro startedNs hstarted cycle hcycle hsame
    obtain rfl := Option.some.inj hstarted
    rcases hmem cycle hcycle with hold | rfl
    · exact (hs.known cycle hold).2
    · exact le_refl _

/-- The process has waited for the rest of the interval. -/
theorem Paced.remaining (hs : Paced s h) {cycle : Cycle} (hpc : s.pc = .pacing cycle) :
    Rested config h (s.clockNs.toNat + remainingNs config cycle s.clockNs.toNat) := by
  intro other hother hsame
  have hle := hs.current cycle.startedNs (by rw [hpc]; rfl) other hother hsame
  have hcast : (other.2 : ℚ) ≤ cycle.startedNs := Nat.cast_le.mpr hle
  unfold remainingNs
  linarith

theorem Paced.opening (hs : Paced s h) (hpc : s.pc = .opening) :
    Paced { s with pc := .opened } { h with opened := h.opened + 1 } := by
  have haway := hs.connected (by rw [hpc]; rfl)
  rw [hpc] at haway
  refine ⟨hs.policy, hs.spaced, ?_, fun _ => haway, ?_, nofun, nofun, nofun⟩
  · intro cycle hcycle
    obtain ⟨hopened, hclock⟩ := hs.known cycle hcycle
    exact ⟨Nat.le_succ_of_le hopened, hclock⟩
  · intro _ cycle hcycle hsame
    have hopened := (hs.known cycle hcycle).1
    change cycle.1 = h.opened + 1 at hsame
    omega

theorem Paced.step (hs : Paced s h) (hstep : RecordedStep s h t h') : Paced t h' := by
  cases hstep with
  | tick clockNs later => exact hs.tick later
  | readLatest afterSequence maxAgeMs =>
    exact ⟨hs.policy, hs.spaced, hs.known, hs.connected, hs.begins, hs.rests, hs.away, hs.current⟩
  | stop => exact { hs with rests := fun _ _ => .inl rfl, away := fun _ _ => .inl rfl }
  | notOpening pc | readNothing _ _ pc | readShapeless _ _ _ pc | unread pc | reject _ _ _ _ _ pc
  | rejected pc | degrading pc | releasing pc | raising _ pc | broken pc | disconnecting pc
  | leaveFrames _ pc | refused pc | leave pc | stopping pc =>
    exact hs.quiet pc rfl rfl rfl rfl nofun rfl rfl rfl (.inl rfl)
  | read _ _ _ _ pc | publish _ _ _ _ _ pc | counting _ _ _ pc | succeeding _ _ _ _ pc
  | comparing _ _ pc | dropping _ _ pc | reporting _ _ _ pc | windowing _ _ _ pc =>
    exact hs.quiet pc rfl rfl rfl rfl (fun _ => ⟨rfl, rfl⟩) rfl rfl rfl (.inr rfl)
  | timing window pc => exact hs.cycle pc
  | opening pc => exact hs.opening pc
  | opened pc =>
    have hrested := hs.begins (by rw [pc]; rfl)
    refine hs.rest pc rfl rfl rfl rfl nofun ?_ rfl rfl
    intro untilNs huntil
    obtain rfl := Option.some.inj huntil
    exact .inr hrested
  | frames window pc goes =>
    refine hs.rest pc rfl rfl rfl rfl (fun _ => ?_) nofun rfl rfl
    have hrests := hs.rests s.clockNs.toNat (by rw [pc]; rfl)
    exact hrests.resolve_left (by simp [goes])
  | pacing cycle pc early =>
    refine hs.rest pc rfl rfl rfl rfl nofun ?_ rfl rfl
    intro untilNs huntil
    obtain rfl := Option.some.inj huntil
    exact .inr (hs.remaining pc)
  | late cycle pc late =>
    refine hs.rest pc rfl rfl rfl rfl nofun ?_ rfl rfl
    intro untilNs huntil
    obtain rfl := Option.some.inj huntil
    refine .inr ((hs.remaining pc).mono ?_)
    exact add_le_of_nonpos_right late
  | pause window remainingNs pc =>
    refine hs.rest pc rfl rfl rfl rfl nofun ?_ rfl rfl
    intro untilNs huntil
    obtain rfl := Option.some.inj huntil
    exact hs.rests _ (by rw [pc]; rfl)
  | paused window deadlineNs pc woken =>
    refine hs.rest pc rfl rfl rfl rfl nofun ?_ rfl rfl
    intro untilNs huntil
    obtain rfl := Option.some.inj huntil
    rcases woken with hstop | hdeadline
    · exact .inl hstop
    · exact (hs.rests deadlineNs (by rw [pc]; rfl)).imp id fun hrested => hrested.mono hdeadline
  | starting pc =>
    refine hs.leave rfl rfl rfl rfl rfl rfl rfl ?_ rfl
    exact fun untilNs huntil => hs.away untilNs (by rw [pc]; exact huntil)
  | leaveBroken pc stopped =>
    exact hs.leave rfl rfl rfl rfl rfl rfl rfl (fun _ _ => .inl stopped) rfl
  | overflow error policy pc delay =>
    refine hs.leave rfl ?_ rfl rfl rfl rfl rfl nofun rfl
    have hconfig := s.policy.nextDelaySeconds_config
    rwa [delay] at hconfig
  | delaying delay policy pc delays =>
    obtain ⟨hdelay, hconfig⟩ := ReconnectPolicy.delay_zero_le delays
    refine hs.leave rfl hconfig rfl rfl rfl rfl rfl ?_ rfl
    intro untilNs huntil
    obtain rfl := Option.some.inj huntil
    refine .inr fun cycle hcycle _ => ?_
    have hclock : (cycle.2 : ℚ) ≤ s.clockNs.toNat := Nat.cast_le.mpr (hs.known cycle hcycle).2
    rw [hs.policy] at hdelay
    unfold CaptureConfig.delayNs
    linarith
  | wait delayNs pc =>
    refine hs.leave rfl rfl rfl rfl rfl rfl rfl ?_ rfl
    exact fun untilNs huntil => hs.away untilNs (by rw [pc]; exact huntil)
  | waiting deadlineNs pc woken =>
    refine hs.leave rfl rfl rfl rfl rfl rfl rfl ?_ rfl
    intro untilNs huntil
    obtain rfl := Option.some.inj huntil
    rcases woken with hstop | hdeadline
    · exact .inl hstop
    · exact (hs.away deadlineNs (by rw [pc]; rfl)).imp id fun haway => haway.mono hdeadline
  | reconnecting pc =>
    refine hs.leave rfl rfl rfl rfl rfl rfl rfl ?_ rfl
    exact fun untilNs huntil => hs.away untilNs (by rw [pc]; exact huntil)
  | head pc goes =>
    have haway := (hs.away s.clockNs.toNat (by rw [pc]; rfl)).resolve_left (by simp [goes])
    exact { hs with
      connected := fun _ => haway
      begins := nofun
      rests := nofun
      away := nofun
      current := nofun }

end Paced

/-- Over every run two cycles of one capture begin a frame interval apart, and a capture's first
cycle begins no sooner after any cycle of an earlier one than the first delay of the policy. -/
theorem cycles_apart (config : CaptureConfig) (clockNs : UInt64) (events : List Event) :
    (observe config clockNs events).history.cycles.Pairwise fun first second =>
      (first.1 = second.1 → first.2 + 1000000000 / config.captureFps ≤ (second.2 : ℚ)) ∧
        (first.1 ≠ second.1 →
          first.2 + 1000000000 * config.reconnect.delay 0 ≤ (second.2 : ℚ)) := by
  have hpaced : Paced (observe config clockNs events).state
      (observe config clockNs events).history := by
    refine Transition.recorded_invariant (I := Paced) ?_ ?_ events
    · intro s h e t hs hstep
      exact hs.step (step_recorded h hstep)
    · exact ⟨rfl, .nil, nofun, nofun, nofun, nofun, fun _ _ => .inr nofun, nofun⟩
  exact hpaced.spaced

end CaptureProcess
end EdgeSafety
