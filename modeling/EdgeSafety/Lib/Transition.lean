import Mathlib.Data.List.Basic

/-!
# Event-driven transition systems

A system is a partial step function `step : σ → ε → Option σ`: an event that is not enabled in
a state has no successor there. A run is the list of events offered to the system; an event
that is not enabled when its turn comes is skipped, so every list of events is a run and every
run of the system is one.

`steps` lists the steps a run takes and `exec` is the state it ends in. The rules below carry an
invariant along a run (`exec_invariant`), along a run whose steps all meet a condition
(`guarded_invariant`), and characterise the runs all of whose states are safe (`everyTarget_iff`).
A run can be recorded in a history beside the state (`recorded`), so that
invariants can speak about what happened before (`recorded_invariant`, and for every step of the
run `recorded_source_invariant`).
-/

namespace EdgeSafety.Transition

/-- One step of a run: the state it leaves, the event, and the state it reaches. -/
structure Taken (σ ε : Type) where
  source : σ
  event : ε
  target : σ

variable {σ ε : Type} (step : σ → ε → Option σ)

/-- The steps a run takes, in order. -/
def steps : σ → List ε → List (Taken σ ε)
  | _, [] => []
  | s, e :: es =>
    match step s e with
    | none => steps s es
    | some t => ⟨s, e, t⟩ :: steps t es

/-- The state in which a run ends. -/
def exec : σ → List ε → σ
  | s, [] => s
  | s, e :: es => exec ((step s e).getD s) es

variable {step}

theorem exec_append (s : σ) (es fs : List ε) :
    exec step s (es ++ fs) = exec step (exec step s es) fs := by
  induction es generalizing s with
  | nil => rfl
  | cons e es ih => exact ih _

/-- The steps a run takes are steps of the system. -/
theorem step_of_mem_steps {s : σ} {es : List ε} {x : Taken σ ε} (h : x ∈ steps step s es) :
    step x.source x.event = some x.target := by
  induction es generalizing s with
  | nil => cases h
  | cons e es ih =>
    cases he : step s e with
    | none =>
      simp only [steps, he] at h
      exact ih h
    | some t =>
      simp only [steps, he, List.mem_cons] at h
      rcases h with rfl | h
      · exact he
      · exact ih h

/-- The steps of a run are made by its events. -/
theorem event_mem_of_mem_steps {s : σ} {es : List ε} {x : Taken σ ε} (h : x ∈ steps step s es) :
    x.event ∈ es := by
  induction es generalizing s with
  | nil => cases h
  | cons e es ih =>
    cases he : step s e with
    | none =>
      simp only [steps, he] at h
      exact List.mem_cons_of_mem e (ih h)
    | some t =>
      simp only [steps, he, List.mem_cons] at h
      rcases h with rfl | h
      · exact List.mem_cons_self
      · exact List.mem_cons_of_mem e (ih h)

/-- A condition met by every step of a run carries an invariant along it. -/
theorem guarded_invariant {I : σ → Prop} {ok : σ → ε → Prop}
    (hstep : ∀ s e t, I s → ok s e → step s e = some t → I t) {s : σ} (h0 : I s) (es : List ε)
    (hok : ∀ x ∈ steps step s es, ok x.source x.event) :
    I (exec step s es) ∧ ∀ x ∈ steps step s es, I x.source ∧ I x.target := by
  induction es generalizing s with
  | nil => exact ⟨h0, by simp [steps]⟩
  | cons e es ih =>
    cases he : step s e with
    | none =>
      simp only [steps, exec, he, Option.getD_none] at hok ⊢
      exact ih h0 hok
    | some t =>
      simp only [steps, exec, he, Option.getD_some, List.mem_cons, forall_eq_or_imp] at hok ⊢
      have ht : I t := hstep s e t h0 hok.1 he
      obtain ⟨hend, hall⟩ := ih ht hok.2
      exact ⟨hend, ⟨h0, ht⟩, hall⟩

/-- An invariant that every step preserves holds at the end of every run. -/
theorem exec_invariant {I : σ → Prop} (hstep : ∀ s e t, I s → step s e = some t → I t) {s : σ}
    (h0 : I s) (es : List ε) : I (exec step s es) :=
  (@guarded_invariant σ ε step I (fun _ _ => True) (fun s e t h _ => hstep s e t h) s h0 es
    (fun _ _ => trivial)).1

/-- An invariant that the events of a run preserve holds at its end. -/
theorem exec_invariant_of_events {I : σ → Prop} {allowed : ε → Prop}
    (hstep : ∀ s e t, I s → allowed e → step s e = some t → I t) {s : σ} (h0 : I s)
    {es : List ε} (hes : ∀ e ∈ es, allowed e) : I (exec step s es) := by
  induction es generalizing s with
  | nil => exact h0
  | cons e es ih =>
    obtain ⟨he, hrest⟩ := List.forall_mem_cons.mp hes
    refine ih ?_ hrest
    cases ht : step s e with
    | none => exact h0
    | some t => exact hstep s e t h0 he ht

/-- A run keeps every state safe exactly when each of its steps meets the condition `ok`: steps
that meet it preserve the invariant and lead to safe states, and one that does not leads from a
state with the invariant to an unsafe one. -/
theorem everyTarget_iff {I P : σ → Prop} {ok : σ → ε → Prop}
    (good : ∀ s e t, I s → ok s e → step s e = some t → I t ∧ P t)
    (bad : ∀ s e t, I s → ¬ ok s e → step s e = some t → ¬ P t) {s : σ} (h0 : I s)
    (es : List ε) :
    (∀ x ∈ steps step s es, P x.target) ↔ ∀ x ∈ steps step s es, ok x.source x.event := by
  induction es generalizing s with
  | nil => simp [steps]
  | cons e es ih =>
    cases he : step s e with
    | none =>
      simp only [steps, he]
      exact ih h0
    | some t =>
      simp only [steps, he, List.mem_cons, forall_eq_or_imp]
      by_cases hok : ok s e
      · obtain ⟨ht, hp⟩ := good s e t h0 hok he
        simp only [hp, hok, true_and]
        exact ih ht
      · simp [hok, bad s e t h0 hok he]

/-- A state with the history of the run that led to it. -/
structure Recorded (σ η : Type) where
  state : σ
  history : η

/-- A step, which `record` adds to the history. The history has no influence on the step. -/
def recorded {η : Type} (step : σ → ε → Option σ) (record : η → σ → ε → η) (o : Recorded σ η)
    (e : ε) : Option (Recorded σ η) :=
  (step o.state e).map fun t => ⟨t, record o.history o.state e⟩

/-- What a recorded step does. -/
theorem recorded_cases {η : Type} {record : η → σ → ε → η} {o u : Recorded σ η} {e : ε}
    (h : recorded step record o e = some u) :
    ∃ t, step o.state e = some t ∧ u = ⟨t, record o.history o.state e⟩ := by
  obtain ⟨t, ht, rfl⟩ := Option.map_eq_some_iff.mp h
  exact ⟨t, ht, rfl⟩

theorem recorded_of_step {η : Type} {record : η → σ → ε → η} {o : Recorded σ η} {e : ε} {t : σ}
    (h : step o.state e = some t) :
    recorded step record o e = some ⟨t, record o.history o.state e⟩ := by
  rw [recorded, h, Option.map_some]

/-- A part of the history to which every step appends something lists what the steps of the run
append. -/
theorem recorded_flatMap {η β : Type} {record : η → σ → ε → η} (part : η → List β)
    (out : σ → ε → List β)
    (hstep : ∀ s h e t, step s e = some t → part (record h s e) = part h ++ out s e) (s : σ)
    (h : η) (es : List ε) :
    part (exec (recorded step record) ⟨s, h⟩ es).history =
      part h ++ (steps step s es).flatMap fun x => out x.source x.event := by
  induction es generalizing s h with
  | nil => simp [exec, steps]
  | cons e es ih =>
    cases he : step s e with
    | none =>
      simp only [exec, steps, recorded, he, Option.map_none, Option.getD_none]
      exact ih s h
    | some t =>
      simp only [exec, steps, recorded, he, Option.map_some, Option.getD_some, List.flatMap_cons]
      rw [ih, hstep s h e t he, List.append_assoc]

/-- An invariant of states and histories that every step preserves holds at the end of every
recorded run. -/
theorem recorded_invariant {η : Type} {record : η → σ → ε → η} {I : σ → η → Prop}
    (hstep : ∀ s h e t, I s h → step s e = some t → I t (record h s e)) {s : σ} {h : η}
    (h0 : I s h) (es : List ε) :
    I (exec (recorded step record) ⟨s, h⟩ es).state
      (exec (recorded step record) ⟨s, h⟩ es).history := by
  apply exec_invariant (I := fun o : Recorded σ η => I o.state o.history) ?_ h0
  intro o e u ho hu
  obtain ⟨t, ht, rfl⟩ := recorded_cases hu
  exact hstep _ _ _ _ ho ht

/-- Such an invariant holds wherever a recorded run takes a step. -/
theorem recorded_source_invariant {η : Type} {record : η → σ → ε → η} {I : σ → η → Prop}
    (hstep : ∀ s h e t, I s h → step s e = some t → I t (record h s e)) {s : σ} {h : η}
    (h0 : I s h) (es : List ε) :
    ∀ x ∈ steps (recorded step record) ⟨s, h⟩ es, I x.source.state x.source.history := by
  have hrun := @guarded_invariant _ ε (recorded step record) (fun o => I o.state o.history)
    (fun _ _ => True) (fun o e u ho _ hu => by
      obtain ⟨t, ht, rfl⟩ := recorded_cases hu
      exact hstep _ _ _ _ ho ht) ⟨s, h⟩ h0 es (fun _ _ => trivial)
  exact fun x hx => (hrun.2 x hx).1

/-- A condition met by every step of a recorded run carries such an invariant along it. -/
theorem recorded_guarded_invariant {η : Type} {record : η → σ → ε → η} {I : σ → η → Prop}
    {ok : σ → η → ε → Prop}
    (hstep : ∀ s h e t, I s h → ok s h e → step s e = some t → I t (record h s e)) {s : σ} {h : η}
    (h0 : I s h) (es : List ε)
    (hok : ∀ x ∈ steps (recorded step record) ⟨s, h⟩ es,
      ok x.source.state x.source.history x.event) :
    ∀ x ∈ steps (recorded step record) ⟨s, h⟩ es,
      I x.source.state x.source.history ∧ I x.target.state x.target.history := by
  have hrun := @guarded_invariant _ ε (recorded step record) (fun o => I o.state o.history)
    (fun o e => ok o.state o.history e) (fun o e u ho hguard hu => by
      obtain ⟨t, ht, rfl⟩ := recorded_cases hu
      exact hstep _ _ _ _ ho hguard ht) ⟨s, h⟩ h0 es hok
  exact hrun.2

end EdgeSafety.Transition
