import EdgeSafety.Lib.Transition
import EdgeSafety.Supervisor.Locks

/-!
# Abandoned locks

A lock that a capture process holds when it is terminated is never released (`abandoned_stays`),
and every party that needs it waits for ever. A run leaves no such lock behind, so that every lock
can be had, exactly when its processes are terminated outside their sections
(`locks_available_iff`).
-/

namespace EdgeSafety.SharedLocks

variable {n m : Nat}

/-- No lock is held by a process that was terminated. -/
def NoneAbandoned (s : State n m) : Prop :=
  ∀ lock owner, s.holder lock = some owner → owner ∉ s.terminated

/-- Every lock is free, or its holder frees it with its own next steps. -/
def Available (s : State n m) : Prop :=
  ∀ lock, ∃ events : List (Event n m),
    (∀ e ∈ events, ∃ party incarnation, s.holder lock = some (party, incarnation) ∧
      e = .advance party) ∧
    (Transition.exec State.step s events).holder lock = none

/-- If the step terminates a process, the process holds no lock. -/
def TerminatesOutside (s : State n m) : Event n m → Prop
  | .terminate camera => ∀ lock,
    s.holder lock ≠ some (.capture camera, s.incarnation (.capture camera))
  | _ => True

/-- The party is past acquiring the lock of its call. -/
def Inside (calls : Party n m → Option (Call n)) (party : Party n m) (lock : Lock n) : Prop :=
  ∃ call, calls party = some call ∧ call.stage ≠ .acquire ∧ call.lock = lock

/-- Locks and sections fit together: a party inside a section holds its lock, and the holder of a
lock is inside a section or was terminated in one. -/
structure Linked (s : State n m) : Prop where
  held : ∀ party lock, Inside s.call party lock →
    s.holder lock = some (party, s.incarnation party)
  inside : ∀ lock party incarnation, s.holder lock = some (party, incarnation) →
    (party, incarnation) ∈ s.terminated ∨
      incarnation = s.incarnation party ∧ Inside s.call party lock
  live : ∀ party call, s.call party = some call → s.alive party
  ended : ∀ party incarnation, (party, incarnation) ∈ s.terminated →
    incarnation ≤ s.incarnation party ∧
      (incarnation = s.incarnation party → s.alive party = false)

theorem init_linked (n m : Nat) : Linked (State.init n m) where
  held _ _ h := by
    obtain ⟨_, h, -⟩ := h
    cases h
  inside _ _ _ h := by cases h
  live _ _ h := by cases h
  ended _ _ h := absurd h List.not_mem_nil

theorem inside_update_of_ne {calls : Party n m → Option (Call n)} {p q : Party n m}
    (hq : q ≠ p) (call : Option (Call n)) (lock : Lock n) :
    Inside (Function.update calls p call) q lock ↔ Inside calls q lock := by
  unfold Inside
  rw [Function.update_of_ne hq]

theorem not_inside_of_none {calls : Party n m → Option (Call n)} {p : Party n m}
    (h : calls p = none) (lock : Lock n) : ¬ Inside calls p lock := by
  rintro ⟨call, hcall, -⟩
  rw [h] at hcall
  cases hcall

/-- A party that is about to acquire a lock is inside no section. -/
theorem not_inside_of_acquire {calls : Party n m → Option (Call n)} {p : Party n m} {call : Call n}
    (h : calls p = some call) (hstage : call.stage = .acquire) (lock : Lock n) :
    ¬ Inside calls p lock := by
  rintro ⟨call', hcall', hstage', -⟩
  obtain rfl := Option.some.inj (h.symm.trans hcall')
  exact hstage' hstage

theorem inside_iff {calls : Party n m → Option (Call n)} {p : Party n m} {call : Call n}
    (h : calls p = some call) (hstage : call.stage ≠ .acquire) {lock : Lock n} :
    Inside calls p lock ↔ call.lock = lock := by
  constructor
  · rintro ⟨call', hcall', -, hlock⟩
    obtain rfl := Option.some.inj (h.symm.trans hcall')
    exact hlock
  · intro hlock
    exact ⟨call, h, hstage, hlock⟩

/-- A party that has just gone past acquiring is inside the section of its call. -/
theorem inside_update_iff (calls : Party n m → Option (Call n)) (p : Party n m) (call : Call n)
    {stage : Stage} (hstage : stage ≠ .acquire) {lock : Lock n} :
    Inside (Function.update calls p (some { call with stage := stage })) p lock ↔
      call.lock = lock := by
  have hcall : Function.update calls p (some { call with stage := stage }) p =
      some { call with stage := stage } := Function.update_self ..
  exact inside_iff hcall hstage

section Step
variable {s t : State n m}

/-- What a step within a section does. -/
theorem advance_cases {party : Party n m} (h : s.advance party = some t) :
    ∃ call, s.call party = some call ∧
      (call.stage = .acquire ∧ s.holder call.lock = none ∧
          t = { s with
            holder := Function.update s.holder call.lock (some (party, s.incarnation party))
            call := Function.update s.call party (some { call with stage := .write }) } ∨
        call.stage = .write ∧
          t = { s with
            call := Function.update s.call party (some { call with stage := .release }) } ∨
        call.stage = .release ∧
          t = { s with
            holder := Function.update s.holder call.lock none
            call := Function.update s.call party none }) := by
  unfold State.advance at h
  split at h
  · cases h
  · next call hcall =>
    refine ⟨call, hcall, ?_⟩
    split at h
    · next hstage =>
      split at h
      · next hfree => exact Or.inl ⟨hstage, hfree, (Option.some.inj h).symm⟩
      · cases h
    · next hstage => exact Or.inr (Or.inl ⟨hstage, (Option.some.inj h).symm⟩)
    · next hstage => exact Or.inr (Or.inr ⟨hstage, (Option.some.inj h).symm⟩)

/-- Two parties are never inside sections of one lock. -/
theorem Linked.inside_unique (hs : Linked s) {p q : Party n m} {lock : Lock n}
    (hp : Inside s.call p lock) (hq : Inside s.call q lock) : p = q := by
  have hboth := (hs.held p lock hp).symm.trans (hs.held q lock hq)
  exact (Prod.mk.inj (Option.some.inj hboth)).1

/-- A party outside all sections holds a lock only as one that was terminated. -/
theorem Linked.terminated_of_outside (hs : Linked s) {p : Party n m}
    (hp : ∀ lock, ¬ Inside s.call p lock) {lock : Lock n} {incarnation : Nat}
    (h : s.holder lock = some (p, incarnation)) : (p, incarnation) ∈ s.terminated :=
  (hs.inside lock p incarnation h).resolve_right fun hinside => hp lock hinside.2

/-- The calls stay those of living parties when a living one goes on or ends its call. -/
theorem Linked.live_update (hs : Linked s) {p : Party n m} {next : Option (Call n)}
    (halive : next.isSome → s.alive p) (q : Party n m) (call : Call n)
    (hcall : Function.update s.call p next q = some call) : s.alive q := by
  by_cases hqp : q = p
  · subst hqp
    rw [Function.update_self] at hcall
    exact halive (by simp [hcall])
  · rw [Function.update_of_ne hqp] at hcall
    exact hs.live q call hcall

/-- A call begins before its section. -/
theorem Linked.begin (hs : Linked s) {p : Party n m} (halive : s.alive p)
    (hnone : s.call p = none) (camera : Fin n) (method : Method) :
    Linked { s with call := Function.update s.call p (some ⟨camera, method, .acquire⟩) } := by
  have houtside : ∀ lock,
      ¬ Inside (Function.update s.call p (some ⟨camera, method, .acquire⟩)) p lock :=
    not_inside_of_acquire (Function.update_self ..) rfl
  refine ⟨?_, ?_, ?_, hs.ended⟩
  · intro q lock hq
    by_cases hqp : q = p
    · subst hqp
      exact absurd hq (houtside lock)
    · exact hs.held q lock ((inside_update_of_ne hqp _ lock).mp hq)
  · intro lock q incarnation hholder
    by_cases hqp : q = p
    · subst hqp
      exact Or.inl (hs.terminated_of_outside (not_inside_of_none hnone) hholder)
    · exact (hs.inside lock q incarnation hholder).imp_right fun h =>
        ⟨h.1, (inside_update_of_ne hqp _ lock).mpr h.2⟩
  · exact hs.live_update fun _ => halive

theorem Linked.acquire (hs : Linked s) {p : Party n m} {call : Call n}
    (hcall : s.call p = some call) (hstage : call.stage = .acquire)
    (hfree : s.holder call.lock = none) :
    Linked { s with
      holder := Function.update s.holder call.lock (some (p, s.incarnation p))
      call := Function.update s.call p (some { call with stage := .write }) } := by
  have hinside : ∀ {lock},
      Inside (Function.update s.call p (some { call with stage := .write })) p lock ↔
        call.lock = lock :=
    inside_update_iff s.call p call (by decide)
  refine ⟨?_, ?_, ?_, hs.ended⟩
  · intro q lock hq
    by_cases hqp : q = p
    · subst hqp
      obtain rfl := hinside.mp hq
      exact Function.update_self ..
    · have hold := hs.held q lock ((inside_update_of_ne hqp _ lock).mp hq)
      have hlock : lock ≠ call.lock := by
        rintro rfl
        rw [hfree] at hold
        cases hold
      exact (Function.update_of_ne hlock ..).trans hold
  · intro lock q incarnation hholder
    by_cases hlock : lock = call.lock
    · subst hlock
      simp only [Function.update_self, Option.some.injEq, Prod.mk.injEq] at hholder
      obtain ⟨rfl, rfl⟩ := hholder
      exact Or.inr ⟨rfl, hinside.mpr rfl⟩
    · simp only [Function.update_of_ne hlock] at hholder
      by_cases hqp : q = p
      · subst hqp
        exact Or.inl (hs.terminated_of_outside (not_inside_of_acquire hcall hstage) hholder)
      · exact (hs.inside lock q incarnation hholder).imp_right fun h =>
          ⟨h.1, (inside_update_of_ne hqp _ lock).mpr h.2⟩
  · exact hs.live_update fun _ => hs.live p call hcall

theorem Linked.write (hs : Linked s) {p : Party n m} {call : Call n}
    (hcall : s.call p = some call) (hstage : call.stage = .write) :
    Linked { s with call := Function.update s.call p (some { call with stage := .release }) } := by
  have hold : ∀ {lock}, Inside s.call p lock ↔ call.lock = lock :=
    inside_iff hcall (by simp [hstage])
  have hinside : ∀ q lock,
      Inside (Function.update s.call p (some { call with stage := .release })) q lock ↔
        Inside s.call q lock := by
    intro q lock
    by_cases hqp : q = p
    · subst hqp
      rw [hold]
      exact inside_update_iff s.call q call (by decide)
    · exact inside_update_of_ne hqp _ lock
  refine ⟨fun q lock hq => hs.held q lock ((hinside q lock).mp hq), ?_, ?_, hs.ended⟩
  · intro lock q incarnation hholder
    exact (hs.inside lock q incarnation hholder).imp_right fun h =>
      ⟨h.1, (hinside q lock).mpr h.2⟩
  · exact hs.live_update fun _ => hs.live p call hcall

theorem Linked.release (hs : Linked s) {p : Party n m} {call : Call n}
    (hcall : s.call p = some call) (hstage : call.stage = .release) :
    Linked { s with
      holder := Function.update s.holder call.lock none
      call := Function.update s.call p none } := by
  have hold : ∀ {lock}, Inside s.call p lock ↔ call.lock = lock :=
    inside_iff hcall (by simp [hstage])
  have hnone : ∀ lock, ¬ Inside (Function.update s.call p none) p lock :=
    not_inside_of_none (Function.update_self ..)
  refine ⟨?_, ?_, ?_, hs.ended⟩
  · intro q lock hq
    by_cases hqp : q = p
    · subst hqp
      exact absurd hq (hnone lock)
    · have hq' := (inside_update_of_ne hqp _ lock).mp hq
      have hlock : lock ≠ call.lock := by
        rintro rfl
        exact hqp (hs.inside_unique hq' (hold.mpr rfl))
      exact (Function.update_of_ne hlock ..).trans (hs.held q lock hq')
  · intro lock q incarnation hholder
    by_cases hlock : lock = call.lock
    · subst hlock
      simp only [Function.update_self] at hholder
      cases hholder
    · simp only [Function.update_of_ne hlock] at hholder
      refine (hs.inside lock q incarnation hholder).imp_right fun h => ⟨h.1, ?_⟩
      by_cases hqp : q = p
      · subst hqp
        exact absurd (hold.mp h.2).symm hlock
      · exact (inside_update_of_ne hqp _ lock).mpr h.2
  · exact hs.live_update nofun

/-- A party stops being in any section without releasing a lock. -/
theorem Linked.leave (hs : Linked s) {p : Party n m}
    (hterminated : t.terminated = s.terminated ∨
      t.terminated = s.terminated ++ [(p, s.incarnation p)])
    (houtside : t.terminated = s.terminated → ∀ lock, ¬ Inside s.call p lock)
    (holder : t.holder = s.holder) (call : t.call = Function.update s.call p none)
    (incarnation : t.incarnation = s.incarnation)
    (alive : t.alive = Function.update s.alive p false) : Linked t := by
  have hnone : ∀ lock, ¬ Inside (Function.update s.call p none) p lock :=
    not_inside_of_none (Function.update_self ..)
  have hsubset : s.terminated ⊆ t.terminated := by
    rcases hterminated with h | h <;> rw [h]
    · exact List.Subset.refl _
    · exact List.subset_append_left _ _
  refine ⟨?_, ?_, ?_, ?_⟩
  · intro q lock hq
    rw [call] at hq
    rw [holder, incarnation]
    by_cases hqp : q = p
    · subst hqp
      exact absurd hq (hnone lock)
    · exact hs.held q lock ((inside_update_of_ne hqp _ lock).mp hq)
  · intro lock q k hholder
    rw [holder] at hholder
    rw [call, incarnation]
    rcases hs.inside lock q k hholder with h | ⟨rfl, hinside⟩
    · exact Or.inl (hsubset h)
    · by_cases hqp : q = p
      · subst hqp
        rcases hterminated with h | h
        · exact absurd hinside (houtside h lock)
        · rw [h]
          exact Or.inl (List.mem_append_right _ List.mem_cons_self)
      · exact Or.inr ⟨rfl, (inside_update_of_ne hqp _ lock).mpr hinside⟩
  · intro q c hc
    rw [call] at hc
    rw [alive]
    by_cases hqp : q = p
    · subst hqp
      rw [Function.update_self] at hc
      cases hc
    · rw [Function.update_of_ne hqp] at hc ⊢
      exact hs.live q c hc
  · intro q k hk
    rw [incarnation, alive]
    have hold : (q, k) ∈ s.terminated ∨ (q, k) = (p, s.incarnation p) := by
      rcases hterminated with h | h
      · exact Or.inl (h ▸ hk)
      · rw [h] at hk
        exact (List.mem_append.mp hk).imp_right List.mem_singleton.mp
    by_cases hqp : q = p
    · subst hqp
      refine ⟨?_, fun _ => Function.update_self ..⟩
      rcases hold with h | h
      · exact (hs.ended q k h).1
      · exact (Prod.mk.inj h).2.le
    · rw [Function.update_of_ne hqp]
      rcases hold with h | h
      · exact hs.ended q k h
      · exact absurd (Prod.mk.inj h).1 hqp

theorem Linked.start (hs : Linked s) {camera : Fin n} (hdead : ¬ s.alive (.capture camera)) :
    Linked { s with
      alive := Function.update s.alive (.capture camera) true
      incarnation := Function.update s.incarnation (.capture camera)
        (s.incarnation (.capture camera) + 1)
      stopEvent := Function.update s.stopEvent camera false } := by
  have hnone : s.call (.capture camera) = none := by
    cases hcall : s.call (.capture camera) with
    | none => rfl
    | some call => exact absurd (hs.live _ call hcall) hdead
  refine ⟨?_, ?_, ?_, ?_⟩
  · intro q lock hq
    have hqp : q ≠ .capture camera := by
      rintro rfl
      exact not_inside_of_none hnone lock hq
    simp only [Function.update_of_ne hqp]
    exact hs.held q lock hq
  · intro lock q k hholder
    by_cases hqp : q = .capture camera
    · subst hqp
      exact Or.inl (hs.terminated_of_outside (not_inside_of_none hnone) hholder)
    · simp only [Function.update_of_ne hqp]
      exact hs.inside lock q k hholder
  · intro q call hcall
    by_cases hqp : q = .capture camera
    · subst hqp
      exact Function.update_self ..
    · simp only [Function.update_of_ne hqp]
      exact hs.live q call hcall
  · intro q k hk
    obtain ⟨hle, hdead'⟩ := hs.ended q k hk
    by_cases hqp : q = .capture camera
    · subst hqp
      simp only [Function.update_self]
      omega
    · simp only [Function.update_of_ne hqp]
      exact ⟨hle, hdead'⟩

theorem Linked.step {e : Event n m} (hs : Linked s) (hstep : s.step e = some t) : Linked t := by
  cases e with
  | begin party camera method =>
    simp only [State.step, Option.ite_none_right_eq_some, Option.some.injEq] at hstep
    obtain ⟨⟨halive, hnone, -⟩, rfl⟩ := hstep
    exact hs.begin halive hnone camera method
  | advance party =>
    obtain ⟨call, hcall, ⟨hstage, hfree, rfl⟩ | ⟨hstage, rfl⟩ | ⟨hstage, rfl⟩⟩ :=
      advance_cases hstep
    · exact hs.acquire hcall hstage hfree
    · exact hs.write hcall hstage
    · exact hs.release hcall hstage
  | exit camera =>
    simp only [State.step, Option.ite_none_right_eq_some, Option.some.injEq] at hstep
    obtain ⟨⟨-, hnone⟩, rfl⟩ := hstep
    exact hs.leave (Or.inl rfl) (fun _ => not_inside_of_none hnone) rfl
      (Function.update_eq_self_iff.mpr hnone.symm).symm rfl rfl
  | setStopEvent camera =>
    obtain rfl := Option.some.inj hstep
    exact ⟨hs.held, hs.inside, hs.live, hs.ended⟩
  | terminate camera =>
    simp only [State.step, Option.ite_none_right_eq_some, Option.some.injEq] at hstep
    obtain ⟨-, rfl⟩ := hstep
    exact hs.leave (Or.inr rfl) (fun h => by simp at h) rfl rfl rfl rfl
  | start camera =>
    simp only [State.step, Option.ite_none_left_eq_some, Option.some.injEq] at hstep
    obtain ⟨hdead, rfl⟩ := hstep
    exact hs.start hdead

/-- A party that is running was not terminated. -/
theorem Linked.not_terminated (hs : Linked s) {p : Party n m} {call : Call n}
    (hcall : s.call p = some call) : (p, s.incarnation p) ∉ s.terminated := by
  intro h
  have hdead := (hs.ended p _ h).2 rfl
  rw [hs.live p call hcall] at hdead
  cases hdead

/-- A step that terminates no process inside a section abandons no lock. -/
theorem NoneAbandoned.step {e : Event n m} (ha : NoneAbandoned s) (hs : Linked s)
    (hok : TerminatesOutside s e) (hstep : s.step e = some t) : NoneAbandoned t := by
  cases e with
  | begin party camera method =>
    simp only [State.step, Option.ite_none_right_eq_some, Option.some.injEq] at hstep
    obtain ⟨-, rfl⟩ := hstep
    exact ha
  | advance party =>
    obtain ⟨call, hcall, ⟨-, -, rfl⟩ | ⟨-, rfl⟩ | ⟨-, rfl⟩⟩ := advance_cases hstep
    · intro lock owner howner
      by_cases hlock : lock = call.lock
      · subst hlock
        simp only [Function.update_self, Option.some.injEq] at howner
        subst howner
        exact hs.not_terminated hcall
      · simp only [Function.update_of_ne hlock] at howner
        exact ha lock owner howner
    · exact ha
    · intro lock owner howner
      by_cases hlock : lock = call.lock
      · subst hlock
        simp only [Function.update_self] at howner
        cases howner
      · simp only [Function.update_of_ne hlock] at howner
        exact ha lock owner howner
  | exit camera =>
    simp only [State.step, Option.ite_none_right_eq_some, Option.some.injEq] at hstep
    obtain ⟨-, rfl⟩ := hstep
    exact ha
  | setStopEvent camera =>
    obtain rfl := Option.some.inj hstep
    exact ha
  | terminate camera =>
    simp only [State.step, Option.ite_none_right_eq_some, Option.some.injEq] at hstep
    obtain ⟨-, rfl⟩ := hstep
    intro lock owner howner hmem
    rcases List.mem_append.mp hmem with hold | hnew
    · exact ha lock owner howner hold
    · obtain rfl := List.mem_singleton.mp hnew
      exact hok lock howner
  | start camera =>
    simp only [State.step, Option.ite_none_left_eq_some, Option.some.injEq] at hstep
    obtain ⟨-, rfl⟩ := hstep
    exact ha

/-- Terminating a process inside a section abandons its lock. -/
theorem abandoned_of_terminate {e : Event n m} (hbad : ¬ TerminatesOutside s e)
    (hstep : s.step e = some t) : ¬ NoneAbandoned t := by
  cases e with
  | terminate camera =>
    simp only [TerminatesOutside, not_forall, not_not] at hbad
    obtain ⟨lock, hlock⟩ := hbad
    simp only [State.step, Option.ite_none_right_eq_some, Option.some.injEq] at hstep
    obtain ⟨-, rfl⟩ := hstep
    intro ha
    exact ha lock _ hlock (List.mem_append_right _ List.mem_cons_self)
  | begin => exact absurd trivial hbad
  | advance => exact absurd trivial hbad
  | exit => exact absurd trivial hbad
  | setStopEvent => exact absurd trivial hbad
  | start => exact absurd trivial hbad

theorem exec_release {p : Party n m} {call : Call n} (hcall : s.call p = some call)
    (hstage : call.stage = .release) :
    (Transition.exec State.step s [.advance p]).holder call.lock = none := by
  simp [Transition.exec, State.step, State.advance, hcall, hstage]

theorem exec_write {p : Party n m} {call : Call n} (hcall : s.call p = some call)
    (hstage : call.stage = .write) :
    (Transition.exec State.step s [.advance p, .advance p]).holder call.lock = none := by
  let written : State n m :=
    { s with call := Function.update s.call p (some { call with stage := .release }) }
  have hwrite : State.step s (.advance p) = some written := by
    simp [State.step, State.advance, hcall, hstage, written]
  have hwritten : written.call p = some { call with stage := .release } :=
    Function.update_self ..
  have hreleased := exec_release hwritten rfl
  rw [Transition.exec, hwrite, Option.getD_some]
  exact hreleased

/-- A lock that was not abandoned is had after at most two steps of its holder. -/
theorem NoneAbandoned.available (ha : NoneAbandoned s) (hs : Linked s) : Available s := by
  intro lock
  cases hholder : s.holder lock with
  | none => exact ⟨[], by simp, hholder⟩
  | some owner =>
    obtain ⟨party, incarnation⟩ := owner
    obtain ⟨-, call, hcall, hstage, rfl⟩ :=
      (hs.inside lock party incarnation hholder).resolve_left (ha lock _ hholder)
    cases hcase : call.stage with
    | acquire => exact absurd hcase hstage
    | write =>
      exact ⟨[.advance party, .advance party], by simp, exec_write hcall hcase⟩
    | release => exact ⟨[.advance party], by simp, exec_release hcall hcase⟩

/-- An abandoned lock is never released. -/
theorem abandoned_stays (hs : Linked s) {lock : Lock n} {owner : Party n m × Nat}
    (hholder : s.holder lock = some owner) (howner : owner ∈ s.terminated)
    (events : List (Event n m)) :
    (Transition.exec State.step s events).holder lock = some owner := by
  refine (Transition.exec_invariant (I := fun u : State n m => Linked u ∧
    u.holder lock = some owner ∧ owner ∈ u.terminated) ?_ ⟨hs, hholder, howner⟩ events).2.1
  intro u e v ⟨hu, hholder, howner⟩ hstep
  refine ⟨hu.step hstep, ?_⟩
  cases e with
  | begin party camera method =>
    simp only [State.step, Option.ite_none_right_eq_some, Option.some.injEq] at hstep
    obtain ⟨-, rfl⟩ := hstep
    exact ⟨hholder, howner⟩
  | advance party =>
    obtain ⟨call, hcall, ⟨-, hfree, rfl⟩ | ⟨-, rfl⟩ | ⟨hstage, rfl⟩⟩ := advance_cases hstep
    · have hlock : lock ≠ call.lock := by
        rintro rfl
        rw [hfree] at hholder
        cases hholder
      exact ⟨(Function.update_of_ne hlock ..).trans hholder, howner⟩
    · exact ⟨hholder, howner⟩
    · have hlock : lock ≠ call.lock := by
        rintro rfl
        have hown := hu.held party call.lock ((inside_iff hcall (by simp [hstage])).mpr rfl)
        obtain rfl := Option.some.inj (hown.symm.trans hholder)
        exact hu.not_terminated hcall howner
      exact ⟨(Function.update_of_ne hlock ..).trans hholder, howner⟩
  | exit camera =>
    simp only [State.step, Option.ite_none_right_eq_some, Option.some.injEq] at hstep
    obtain ⟨-, rfl⟩ := hstep
    exact ⟨hholder, howner⟩
  | setStopEvent camera =>
    obtain rfl := Option.some.inj hstep
    exact ⟨hholder, howner⟩
  | terminate camera =>
    simp only [State.step, Option.ite_none_right_eq_some, Option.some.injEq] at hstep
    obtain ⟨-, rfl⟩ := hstep
    exact ⟨hholder, List.mem_append_left _ howner⟩
  | start camera =>
    simp only [State.step, Option.ite_none_left_eq_some, Option.some.injEq] at hstep
    obtain ⟨-, rfl⟩ := hstep
    exact ⟨hholder, howner⟩

end Step

/-- In every state of a run no lock is held by a terminated process, and every lock can be had,
exactly when the run terminates processes outside their locked sections. -/
theorem locks_available_iff (n m : Nat) (events : List (Event n m)) :
    (∀ x ∈ Transition.steps State.step (State.init n m) events,
      NoneAbandoned x.target ∧ Available x.target) ↔
    ∀ x ∈ Transition.steps State.step (State.init n m) events,
      TerminatesOutside x.source x.event := by
  apply Transition.everyTarget_iff (I := fun s : State n m => Linked s ∧ NoneAbandoned s)
    (P := fun s => NoneAbandoned s ∧ Available s)
  · intro s e t ⟨hs, ha⟩ hok hstep
    have ht := hs.step hstep
    have ha' := ha.step hs hok hstep
    exact ⟨⟨ht, ha'⟩, ha', ha'.available ht⟩
  · intro s e t _ hbad hstep hgood
    exact abandoned_of_terminate hbad hstep hgood.1
  · exact ⟨init_linked n m, fun _ _ h => by cases h⟩

/-- A capture process is terminated in the middle of a publish. -/
def terminateInPublish (camera : Fin 1) : List (Event 1 1) :=
  [.start camera, .begin (.capture camera) camera .publish, .advance (.capture camera),
    .setStopEvent camera, .terminate camera]

/-- The lock of the camera's buffer is abandoned in that run, and whatever happens then, nobody
ever gets it. -/
theorem terminateInPublish_abandons :
    let s := Transition.exec State.step (State.init 1 1) (terminateInPublish 0)
    s.holder (.buffer 0) = some (.capture 0, 1) ∧ (.capture 0, 1) ∈ s.terminated ∧
      ∀ events, (Transition.exec State.step s events).holder (.buffer 0) =
        some (.capture 0, 1) := by
  intro s
  have hlinked : Linked s := Transition.exec_invariant (I := Linked)
    (fun _ _ _ h hstep => h.step hstep) (init_linked 1 1) (terminateInPublish 0)
  have hholder : s.holder (.buffer 0) = some (.capture 0, 1) := by decide +kernel
  have howner : (.capture 0, 1) ∈ s.terminated := by decide +kernel
  exact ⟨hholder, howner, abandoned_stays hlinked hholder howner⟩

end EdgeSafety.SharedLocks
