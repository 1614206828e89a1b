import Mathlib.Data.Set.Insert
import Mathlib.Logic.Function.Basic

/-!
# Custody of shared resources

Resources are taken, handed from one party to another and freed again. A party holds at most one
resource at a time. In sound custody no two parties hold the same resource (`Sound`), and a taken
resource that nobody holds is leaked: nobody will ever free it (`Leaked.step`). Taking, passing on
and freeing keep all resources accounted for (`Accounted.handled`); dropping one, or putting one
where another is kept, leaks it (`Lost.leaks`).
-/

namespace EdgeSafety

/-- The resource each party holds, and the resources that are taken. -/
structure Custody (H R : Type) where
  held : H → Option R
  taken : Set R

namespace Custody

variable {H R : Type}

/-- A resource has one holder at most, and what is held is taken. -/
structure Sound (c : Custody H R) : Prop where
  exclusive : ∀ h h' r, c.held h = some r → c.held h' = some r → h = h'
  taken : ∀ h r, c.held h = some r → r ∈ c.taken

/-- Every taken resource is held. -/
def Accounted (c : Custody H R) : Prop := ∀ r ∈ c.taken, ∃ h, c.held h = some r

/-- The resource is taken and nobody holds it. -/
def Leaked (c : Custody H R) (r : R) : Prop := r ∈ c.taken ∧ ∀ h, c.held h ≠ some r

/-- Nobody holds a resource that is free. -/
theorem Sound.held_ne {c : Custody H R} (hc : c.Sound) {r : R} (hfree : r ∉ c.taken) (h : H) :
    c.held h ≠ some r :=
  fun hh => hfree (hc.taken h r hh)

theorem Leaked.not_accounted {c : Custody H R} {r : R} (h : c.Leaked r) : ¬ c.Accounted := by
  intro ha
  obtain ⟨k, hk⟩ := ha r h.1
  exact h.2 k hk

variable [DecidableEq H]

/-- What `h` held is held by `h'`. -/
def moved (held : H → Option R) (h h' : H) : H → Option R :=
  Function.update (Function.update held h none) h' (held h)

/-- The ways to handle a resource that keep track of it. -/
inductive Handled (c c' : Custody H R) : Prop
  | stay (held : c'.held = c.held) (taken : c'.taken = c.taken)
  | take (h : H) (r : R) (empty : c.held h = none) (free : r ∉ c.taken)
      (held : c'.held = Function.update c.held h (some r)) (taken : c'.taken = insert r c.taken)
  | pass (h h' : H) (empty : c.held h' = none) (held : c'.held = moved c.held h h')
      (taken : c'.taken = c.taken)
  | free (h : H) (r : R) (holds : c.held h = some r)
      (held : c'.held = Function.update c.held h none) (taken : c'.taken = c.taken \ {r})

/-- The ways to lose track of one. -/
inductive Lost (c c' : Custody H R) : Prop
  | drop (h : H) (r : R) (holds : c.held h = some r)
      (held : c'.held = Function.update c.held h none) (taken : c'.taken = c.taken)
  | overwrite (h h' : H) (r : R) (ne : h ≠ h') (holds : c.held h' = some r)
      (held : c'.held = moved c.held h h') (taken : c'.taken = c.taken)

variable {c c' : Custody H R}

/-- After a party gave a resource away, whoever holds one held it before. -/
theorem held_of_update_none {held : H → Option R} {h k : H} {r : R}
    (hk : Function.update held h none k = some r) : k ≠ h ∧ held k = some r := by
  by_cases hkh : k = h
  · subst hkh
    simp at hk
  · rw [Function.update_of_ne hkh] at hk
    exact ⟨hkh, hk⟩

/-- After a resource was passed on, its new holder has what the old one had, and every other party
has what it had before. -/
theorem held_of_moved {held : H → Option R} {h h' k : H} {r : R} (hk : moved held h h' k = some r) :
    k = h' ∧ held h = some r ∨ k ≠ h' ∧ k ≠ h ∧ held k = some r := by
  unfold moved at hk
  by_cases hkh' : k = h'
  · subst hkh'
    rw [Function.update_self] at hk
    exact Or.inl ⟨rfl, hk⟩
  · rw [Function.update_of_ne hkh'] at hk
    exact Or.inr ⟨hkh', held_of_update_none hk⟩

/-- Custody stays sound when a party lets its resource go. -/
theorem Sound.letGo (hc : c.Sound) {h : H} (held : c'.held = Function.update c.held h none)
    (taken : ∀ k r, k ≠ h → c.held k = some r → r ∈ c'.taken) : c'.Sound where
  exclusive k k' r hk hk' := by
    rw [held] at hk hk'
    exact hc.exclusive k k' r (held_of_update_none hk).2 (held_of_update_none hk').2
  taken k r hk := by
    rw [held] at hk
    obtain ⟨hkh, hk⟩ := held_of_update_none hk
    exact taken k r hkh hk

/-- Custody stays sound when a resource is passed on. -/
theorem Sound.moved (hc : c.Sound) {h h' : H} (held : c'.held = moved c.held h h')
    (taken : c'.taken = c.taken) : c'.Sound where
  exclusive k k' r hk hk' := by
    rw [held] at hk hk'
    rcases held_of_moved hk with ⟨rfl, hold⟩ | ⟨-, hkh, hold⟩
    · rcases held_of_moved hk' with ⟨rfl, -⟩ | ⟨-, hkh, hold'⟩
      · rfl
      · exact absurd (hc.exclusive k' h r hold' hold) hkh
    · rcases held_of_moved hk' with ⟨rfl, hold'⟩ | ⟨-, -, hold'⟩
      · exact absurd (hc.exclusive k h r hold hold') hkh
      · exact hc.exclusive k k' r hold hold'
  taken k r hk := by
    rw [held] at hk
    rw [taken]
    rcases held_of_moved hk with ⟨-, hk⟩ | ⟨-, -, hk⟩
    · exact hc.taken h r hk
    · exact hc.taken k r hk

/-- Custody stays sound when a party takes a free resource. -/
theorem Sound.took (hc : c.Sound) {h : H} {r : R} (free : r ∉ c.taken)
    (held : c'.held = Function.update c.held h (some r)) (taken : c'.taken = insert r c.taken) :
    c'.Sound := by
  -- the new holder's resource was free, so it is none of those held by the others
  have hothers : ∀ k r', Function.update c.held h (some r) k = some r' →
      k = h ∧ r' = r ∨ k ≠ h ∧ r' ≠ r ∧ c.held k = some r' := by
    intro k r' hk
    by_cases hkh : k = h
    · subst hkh
      rw [Function.update_self] at hk
      exact Or.inl ⟨rfl, (Option.some.inj hk).symm⟩
    · rw [Function.update_of_ne hkh] at hk
      refine Or.inr ⟨hkh, ?_, hk⟩
      rintro rfl
      exact hc.held_ne free k hk
  refine ⟨?_, ?_⟩
  · intro k k' r' hk hk'
    rw [held] at hk hk'
    rcases hothers k r' hk with ⟨rfl, rfl⟩ | ⟨-, hne, hk⟩
    · rcases hothers k' r' hk' with ⟨rfl, -⟩ | ⟨-, hne, -⟩
      · rfl
      · exact absurd rfl hne
    · rcases hothers k' r' hk' with ⟨-, rfl⟩ | ⟨-, -, hk'⟩
      · exact absurd rfl hne
      · exact hc.exclusive k k' r' hk hk'
  · intro k r' hk
    rw [held] at hk
    rw [taken]
    rcases hothers k r' hk with ⟨-, rfl⟩ | ⟨-, -, hk⟩
    · exact Set.mem_insert _ _
    · exact Set.mem_insert_of_mem _ (hc.taken k r' hk)

theorem Sound.handled (hc : c.Sound) (hstep : Handled c c') : c'.Sound := by
  cases hstep with
  | stay held taken =>
    refine ⟨?_, ?_⟩
    · rw [held]
      exact hc.exclusive
    · rw [held, taken]
      exact hc.taken
  | take h r empty free held taken => exact hc.took free held taken
  | pass h h' empty held taken => exact hc.moved held taken
  | free h r holds held taken =>
    apply hc.letGo held
    intro k r' hkh hk
    rw [taken]
    refine ⟨hc.taken k r' hk, ?_⟩
    rintro rfl
    exact hkh (hc.exclusive k h r' hk holds)

theorem Sound.lost (hc : c.Sound) (hstep : Lost c c') : c'.Sound := by
  cases hstep with
  | drop h r holds held taken =>
    apply hc.letGo held
    intro k r' _ hk
    rw [taken]
    exact hc.taken k r' hk
  | overwrite h h' r ne holds held taken => exact hc.moved held taken

/-- Handling resources with care keeps them all accounted for. -/
theorem Accounted.handled (ha : c.Accounted) (hstep : Handled c c') : c'.Accounted := by
  cases hstep with
  | stay held taken =>
    intro r hr
    rw [taken] at hr
    rw [held]
    exact ha r hr
  | take h r empty free held taken =>
    intro r' hr'
    rw [taken] at hr'
    rw [held]
    rcases Set.mem_insert_iff.mp hr' with rfl | hr'
    · exact ⟨h, Function.update_self ..⟩
    · obtain ⟨k, hk⟩ := ha r' hr'
      have hkh : k ≠ h := by
        rintro rfl
        rw [empty] at hk
        cases hk
      exact ⟨k, (Function.update_of_ne hkh ..).trans hk⟩
  | pass h h' empty held taken =>
    intro r hr
    rw [taken] at hr
    rw [held]
    obtain ⟨k, hk⟩ := ha r hr
    have hkh' : k ≠ h' := by
      rintro rfl
      rw [empty] at hk
      cases hk
    by_cases hkh : k = h
    · subst hkh
      exact ⟨h', (Function.update_self ..).trans hk⟩
    · refine ⟨k, ?_⟩
      unfold moved
      rw [Function.update_of_ne hkh', Function.update_of_ne hkh]
      exact hk
  | free h r holds held taken =>
    intro r' hr'
    rw [taken] at hr'
    rw [held]
    obtain ⟨k, hk⟩ := ha r' hr'.1
    have hkh : k ≠ h := by
      rintro rfl
      exact hr'.2 (Option.some.inj (hk.symm.trans holds))
    exact ⟨k, (Function.update_of_ne hkh ..).trans hk⟩

/-- Losing track of a resource leaks it. -/
theorem Lost.leaks (hstep : Lost c c') (hc : c.Sound) : ∃ r, c'.Leaked r := by
  cases hstep with
  | drop h r holds held taken =>
    refine ⟨r, taken ▸ hc.taken h r holds, ?_⟩
    intro k hk
    rw [held] at hk
    obtain ⟨hkh, hk⟩ := held_of_update_none hk
    exact hkh (hc.exclusive k h r hk holds)
  | overwrite h h' r ne holds held taken =>
    refine ⟨r, taken ▸ hc.taken h' r holds, ?_⟩
    intro k hk
    rw [held] at hk
    rcases held_of_moved hk with ⟨-, hk⟩ | ⟨hkh', -, hk⟩
    · exact ne (hc.exclusive h h' r hk holds)
    · exact hkh' (hc.exclusive k h' r hk holds)

/-- A leaked resource stays leaked: only its holder could free it or hand it on. -/
theorem Leaked.step {r : R} (h : c.Leaked r) (hstep : Handled c c' ∨ Lost c c') : c'.Leaked r := by
  have hletGo : ∀ {k k'}, Function.update c.held k none k' ≠ some r := fun hk' =>
    h.2 _ (held_of_update_none hk').2
  have hmoved : ∀ {k k' k''}, moved c.held k k' k'' ≠ some r := fun hk'' =>
    (held_of_moved hk'').elim (fun hk => h.2 _ hk.2) fun hk => h.2 _ hk.2.2
  rcases hstep with hstep | hstep
  · cases hstep with
    | stay held taken => exact ⟨taken ▸ h.1, held ▸ h.2⟩
    | take k r' empty free held taken =>
      have hne : r ≠ r' := by
        rintro rfl
        exact free h.1
      refine ⟨taken ▸ Set.mem_insert_of_mem r' h.1, ?_⟩
      intro k' hk'
      rw [held] at hk'
      by_cases hkk : k' = k
      · subst hkk
        rw [Function.update_self] at hk'
        exact hne (Option.some.inj hk').symm
      · rw [Function.update_of_ne hkk] at hk'
        exact h.2 k' hk'
    | pass k k' empty held taken => exact ⟨taken ▸ h.1, fun _ => held ▸ hmoved⟩
    | free k r' holds held taken =>
      have hne : r ≠ r' := by
        rintro rfl
        exact h.2 k holds
      exact ⟨taken ▸ ⟨h.1, hne⟩, fun _ => held ▸ hletGo⟩
  · cases hstep with
    | drop k r' holds held taken => exact ⟨taken ▸ h.1, fun _ => held ▸ hletGo⟩
    | overwrite k k' r' ne holds held taken => exact ⟨taken ▸ h.1, fun _ => held ▸ hmoved⟩

end Custody

end EdgeSafety
