import Mathlib.Data.List.Forall2

/-!
# Loops that may raise

`List.mapM` in `Except` is a loop that ends at the first element whose body raises. It returns
exactly where every body does, with what each of them returns, in order (`mapM_eq_ok_iff`).
-/

namespace EdgeSafety.Loops

variable {E α β γ : Type}

section Bodies
variable {f : α → Except E β}

/-- The inversion of a computation that goes on after another. -/
theorem bind_eq_ok {x : Except E α} {b : β} (h : x >>= f = .ok b) :
    ∃ a, x = .ok a ∧ f a = .ok b := by
  cases x with
  | error e => cases h
  | ok a => exact ⟨a, rfl, h⟩

theorem bind_eq_ok_iff {x : Except E α} {b : β} :
    x >>= f = .ok b ↔ ∃ a, x = .ok a ∧ f a = .ok b := by
  constructor
  · exact bind_eq_ok
  · rintro ⟨a, rfl, hb⟩
    exact hb

/-- A loop for its effect ends where every body does. -/
theorem forM_eq_ok_iff {f : α → Except E Unit} {xs : List α} :
    forM xs f = .ok () ↔ ∀ x ∈ xs, f x = .ok () := by
  induction xs with
  | nil =>
    rw [List.forM_nil]
    exact ⟨fun _ x hx => absurd hx List.not_mem_nil, fun _ => rfl⟩
  | cons x xs ih =>
    rw [List.forM_cons, bind_eq_ok_iff, List.forall_mem_cons, ← ih]
    constructor
    · rintro ⟨⟨⟩, hx, hxs⟩
      exact ⟨hx, hxs⟩
    · rintro ⟨hx, hxs⟩
      exact ⟨(), hx, hxs⟩

/-- A loop returns what its bodies return, one for each element. -/
theorem mapM_eq_ok_iff {xs : List α} {ys : List β} :
    xs.mapM f = .ok ys ↔ List.Forall₂ (fun x y => f x = .ok y) xs ys := by
  induction xs generalizing ys with
  | nil =>
    rw [List.mapM_nil, List.forall₂_nil_left_iff]
    constructor
    · intro h
      cases h
      rfl
    · rintro rfl
      rfl
  | cons x xs ih =>
    rw [List.mapM_cons, List.forall₂_cons_left_iff, bind_eq_ok_iff]
    constructor
    · rintro ⟨y, hfirst, h⟩
      obtain ⟨rest, hrest, h⟩ := bind_eq_ok h
      cases h
      exact ⟨y, rest, hfirst, ih.mp hrest, rfl⟩
    · rintro ⟨y, rest, hfirst, hrest, rfl⟩
      exact ⟨y, hfirst, bind_eq_ok_iff.mpr ⟨rest, ih.mpr hrest, rfl⟩⟩

/-- A loop that ends well got an answer for each element. -/
theorem getElem?_mapM {xs : List α} {ys : List β} (h : xs.mapM f = .ok ys) {j : Nat} {x : α}
    (hx : xs[j]? = some x) : ∃ y, ys[j]? = some y ∧ f x = .ok y := by
  have hall := mapM_eq_ok_iff.mp h
  clear h
  induction hall generalizing j with
  | nil => cases hx
  | cons hfirst _ ih =>
    cases j with
    | zero =>
      cases hx
      exact ⟨_, rfl, hfirst⟩
    | succ j => exact ih hx

/-- Every answer of a loop that ends well is that of some element. -/
theorem mem_of_mapM {xs : List α} {ys : List β} (h : xs.mapM f = .ok ys) {y : β} (hy : y ∈ ys) :
    ∃ x ∈ xs, f x = .ok y := by
  have hall := mapM_eq_ok_iff.mp h
  clear h
  induction hall with
  | nil => cases hy
  | @cons first _ _ _ hfirst _ ih =>
    rcases List.mem_cons.mp hy with rfl | hy
    · exact ⟨first, List.mem_cons_self, hfirst⟩
    · obtain ⟨x, hx, hbody⟩ := ih hy
      exact ⟨x, List.mem_cons_of_mem first hx, hbody⟩

/-- A loop ends well if no element raises. -/
theorem exists_mapM_ok {xs : List α} (h : ∀ x ∈ xs, ∃ y, f x = .ok y) :
    ∃ ys, xs.mapM f = .ok ys := by
  induction xs with
  | nil => exact ⟨[], rfl⟩
  | cons first xs ih =>
    obtain ⟨y, hy⟩ := h first List.mem_cons_self
    obtain ⟨ys, hys⟩ := ih fun x hx => h x (List.mem_cons_of_mem first hx)
    refine ⟨y :: ys, ?_⟩
    rw [List.mapM_cons, hy, hys]
    rfl

/-- A loop over something raises if each element does. -/
theorem mapM_error {xs : List α} (hne : xs ≠ []) (h : ∀ x, ∃ e, f x = .error e) :
    ∃ e, xs.mapM f = .error e := by
  obtain ⟨first, rest, rfl⟩ := List.exists_cons_of_ne_nil hne
  obtain ⟨e, he⟩ := h first
  exact ⟨e, by
    rw [List.mapM_cons, he]
    rfl⟩

end Bodies

/-- Loops over lists of pairs: the bodies agree where the elements are paired. -/
theorem mapM_congr_forall₂ {f : α → Except E γ} {g : β → Except E γ} {xs : List α} {ys : List β}
    (h : List.Forall₂ (fun x y => f x = g y) xs ys) : xs.mapM f = ys.mapM g := by
  induction h with
  | nil => rfl
  | cons hfirst _ ih => rw [List.mapM_cons, List.mapM_cons, hfirst, ih]

/-- A loop over the elements with their positions. -/
theorem mapM_zipIdx {f : α × Nat → Except E β} {g : α → Except E β} {xs : List α} (n : Nat)
    (h : ∀ i x, xs[i]? = some x → f (x, n + i) = g x) : (xs.zipIdx n).mapM f = xs.mapM g := by
  induction xs generalizing n with
  | nil => rfl
  | cons x xs ih =>
    have hrest : (xs.zipIdx (n + 1)).mapM f = xs.mapM g := by
      apply ih
      intro i y hy
      rw [Nat.add_right_comm, Nat.add_assoc]
      exact h (i + 1) y hy
    have hfirst : f (x, n) = g x := h 0 x rfl
    rw [List.zipIdx_cons, List.mapM_cons, List.mapM_cons, hfirst, hrest]

/-- A loop whose body goes on after that of another. -/
theorem mapM_then {f : α → Except E β} {g : β → α → Except E γ} {xs : List α} {ys : List β}
    (h : xs.mapM f = .ok ys) :
    (xs.mapM fun x => f x >>= fun y => g y x) = (ys.zip xs).mapM fun pair => g pair.1 pair.2 := by
  apply mapM_congr_forall₂
  induction mapM_eq_ok_iff.mp h with
  | nil => exact .nil
  | cons hfirst hrest ih =>
    apply List.Forall₂.cons
    · rw [hfirst]
      rfl
    · exact ih (mapM_eq_ok_iff.mpr hrest)

/-- A loop that is prepared by another, as a whole: it returns what the two bodies, one after the
other, return of each element. -/
theorem prepared_eq_ok_iff {f : α → Except E β} {g : β → α → Except E γ}
    {run : List β → Except E (List γ)} {xs : List α} {zs : List γ}
    (h : ∀ ys, xs.mapM f = .ok ys →
      (run ys = .ok zs ↔ ((ys.zip xs).mapM fun pair => g pair.1 pair.2) = .ok zs)) :
    xs.mapM f >>= run = .ok zs ↔
      List.Forall₂ (fun x z => (f x >>= fun y => g y x) = .ok z) xs zs := by
  rw [← mapM_eq_ok_iff]
  constructor
  · intro hrun
    obtain ⟨ys, hys, hrun⟩ := bind_eq_ok hrun
    rw [mapM_then hys]
    exact (h ys hys).mp hrun
  · intro hall
    have hprepared : ∀ x ∈ xs, ∃ y, f x = .ok y := by
      intro x hx
      obtain ⟨i, hi⟩ := List.getElem?_of_mem hx
      obtain ⟨z, -, hz⟩ := getElem?_mapM hall hi
      obtain ⟨y, hy, -⟩ := bind_eq_ok hz
      exact ⟨y, hy⟩
    obtain ⟨ys, hys⟩ := exists_mapM_ok hprepared
    rw [mapM_then hys] at hall
    rw [hys]
    exact (h ys hys).mpr hall

/-- Where there is nothing to go through, nothing is returned. -/
theorem isEmpty_eq_ok_iff {R : α → β → Prop} {body : Except E (List β)} {xs : List α}
    {ys : List β} (h : xs ≠ [] → (body = .ok ys ↔ List.Forall₂ R xs ys)) :
    (if xs.isEmpty then .ok [] else body) = .ok ys ↔ List.Forall₂ R xs ys := by
  cases xs with
  | nil =>
    rw [if_pos List.isEmpty_nil, List.forall₂_nil_left_iff, Except.ok.injEq]
    exact eq_comm
  | cons x xs =>
    have hsome : ¬(x :: xs).isEmpty = true := by simp
    rw [if_neg hsome]
    exact h (List.cons_ne_nil x xs)

end EdgeSafety.Loops
