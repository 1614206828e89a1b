import Mathlib.Data.List.Basic
import Mathlib.Logic.Function.Basic
import Mathlib.Order.Lattice

/-!
# Rate limits

A limiter looks at the items of a stream one by one. For each key it keeps the time of the last
item that passed, and it holds an item back as long as that time is recent. In a stream in the
order of time, no two items with one key pass too close to each other (`admitted_spaced`), an item
that is held back has one that passed shortly before (`admitted_covered`), and the items of some
keys pass as if the items of the others were not there (`admitted_filter_of_thinned`).
-/

namespace EdgeSafety.RateLimit

/-- `Thinned dropped items fewer`: `fewer` is `items` without some of those that may be dropped. -/
inductive Thinned {ι : Type} (dropped : ι → Prop) : List ι → List ι → Prop
  | nil : Thinned dropped [] []
  | keep (item : ι) {items fewer : List ι} (rest : Thinned dropped items fewer) :
      Thinned dropped (item :: items) (item :: fewer)
  | drop {item : ι} {items fewer : List ι} (droppable : dropped item)
      (rest : Thinned dropped items fewer) : Thinned dropped (item :: items) fewer

section Thinned
variable {ι : Type} {dropped : ι → Prop} {items fewer : List ι}

theorem Thinned.append {more fewerMore : List ι} (h : Thinned dropped items fewer)
    (hmore : Thinned dropped more fewerMore) :
    Thinned dropped (items ++ more) (fewer ++ fewerMore) := by
  induction h with
  | nil => exact hmore
  | keep item rest ih => exact .keep item ih
  | drop droppable rest ih => exact .drop droppable ih

/-- Lists that are thinned one by one. -/
theorem Thinned.flatten {lists fewerLists : List (List ι)}
    (h : List.Forall₂ (Thinned dropped) lists fewerLists) :
    Thinned dropped lists.flatten fewerLists.flatten := by
  induction h with
  | nil => exact .nil
  | cons head tail ih => exact head.append ih

/-- Among the items with a property, those that have it are dropped for another reason. -/
theorem Thinned.filter {p : ι → Bool}
    (h : Thinned (fun item => p item = false ∨ dropped item) items fewer) :
    Thinned dropped (items.filter p) (fewer.filter p) := by
  induction h with
  | nil => exact .nil
  | keep item rest ih =>
    by_cases hp : p item = true
    · rw [List.filter_cons_of_pos hp, List.filter_cons_of_pos hp]
      exact .keep item ih
    · rw [List.filter_cons_of_neg hp, List.filter_cons_of_neg hp]
      exact ih
  | @drop item items fewer droppable rest ih =>
    by_cases hp : p item = true
    · rw [List.filter_cons_of_pos hp]
      exact .drop (droppable.resolve_left (by simp [hp])) ih
    · rw [List.filter_cons_of_neg hp]
      exact ih

end Thinned

variable {ι κ τ : Type} [DecidableEq κ] (key : ι → κ) (time : ι → τ) (recent : τ → τ → Bool)

/-- Whether the last item with its key that passed is recent. -/
def held (last : κ → Option τ) (item : ι) : Bool :=
  (last (key item)).any fun since => recent since (time item)

/-- The times of the last items that passed, after one more. -/
def note (last : κ → Option τ) (item : ι) : κ → Option τ :=
  Function.update last (key item) (some (time item))

/-- The items that pass. -/
def admitted (last : κ → Option τ) : List ι → List ι
  | [] => []
  | item :: items =>
    if held key time recent last item then admitted last items
    else item :: admitted (note key time last item) items

/-- The times of the last items that passed. -/
def noted (last : κ → Option τ) : List ι → κ → Option τ
  | [] => last
  | item :: items =>
    if held key time recent last item then noted last items
    else noted (note key time last item) items

variable {key time recent} {last : κ → Option τ} {items : List ι} {item : ι}

omit [DecidableEq κ] in
theorem held_eq_true_iff : held key time recent last item = true ↔
    ∃ since, last (key item) = some since ∧ recent since (time item) = true := by
  rw [held, Option.any_eq_true]

theorem note_self : note key time last item (key item) = some (time item) :=
  Function.update_self ..

theorem note_of_ne {k : κ} (h : k ≠ key item) : note key time last item k = last k :=
  Function.update_of_ne h ..

theorem admitted_append (items more : List ι) :
    admitted key time recent last (items ++ more) = admitted key time recent last items ++
      admitted key time recent (noted key time recent last items) more := by
  induction items generalizing last with
  | nil => rfl
  | cons item items ih =>
    simp only [List.cons_append, admitted, noted]
    split
    · exact ih
    · rw [ih]
      rfl

/-- Where the limiter has a time from. -/
theorem noted_eq_some {k : κ} {since : τ}
    (h : noted key time recent last items k = some since) : last k = some since ∨
      ∃ item ∈ admitted key time recent last items, key item = k ∧ time item = since := by
  induction items generalizing last with
  | nil => exact .inl h
  | cons item items ih =>
    simp only [noted, admitted] at h ⊢
    split at h
    · next hheld =>
      rw [if_pos hheld]
      exact ih h
    · next hheld =>
      rw [if_neg hheld]
      rcases ih h with hlast | ⟨other, hother, hkey, htime⟩
      · by_cases hk : k = key item
        · subst hk
          rw [note_self] at hlast
          exact .inr ⟨item, List.mem_cons_self, rfl, Option.some.inj hlast⟩
        · rw [note_of_ne hk] at hlast
          exact .inl hlast
      · exact .inr ⟨other, List.mem_cons_of_mem _ hother, hkey, htime⟩

/-- An item passes, or one with its key has passed shortly before. -/
theorem admitted_covered (before : List ι) (item : ι) :
    admitted key time recent (fun _ => none) (before ++ [item]) =
        admitted key time recent (fun _ => none) before ++ [item] ∨
      ∃ earlier ∈ admitted key time recent (fun _ => none) before, key earlier = key item ∧
        recent (time earlier) (time item) = true := by
  rw [admitted_append]
  cases hheld : held key time recent (noted key time recent (fun _ => none) before) item with
  | false =>
    left
    simp only [admitted, hheld, Bool.false_eq_true, if_false]
  | true =>
    right
    obtain ⟨since, hsince, hrecent⟩ := held_eq_true_iff.mp hheld
    rcases noted_eq_some hsince with hlast | ⟨earlier, hearlier, hkey, rfl⟩
    · cases hlast
    · exact ⟨earlier, hearlier, hkey, hrecent⟩

section Spaced
variable [Preorder τ]

/-- An item that passes does so long after the last one before the stream. -/
theorem not_recent_of_admitted
    (mono : ∀ s t u : τ, s ≤ t → recent s u = true → recent t u = true)
    (hsorted : items.Pairwise fun earlier later => time earlier ≤ time later) {since : τ}
    (hlast : last (key item) = some since) (hpast : ∀ later ∈ items, since ≤ time later)
    (hitem : item ∈ admitted key time recent last items) : recent since (time item) = false := by
  induction items generalizing last since with
  | nil => cases hitem
  | cons head items ih =>
    obtain ⟨hhead, hrest⟩ := List.pairwise_cons.mp hsorted
    have hpastRest : ∀ later ∈ items, since ≤ time later :=
      fun later hlater => hpast later (List.mem_cons_of_mem _ hlater)
    simp only [admitted] at hitem
    split at hitem
    · exact ih hrest hlast hpastRest hitem
    · next hheld =>
      rcases List.mem_cons.mp hitem with rfl | htail
      · by_contra hrecent
        exact hheld (held_eq_true_iff.mpr ⟨since, hlast, eq_true_of_ne_false hrecent⟩)
      · by_cases hkey : key item = key head
        · -- The head has passed since, and the item is not close to the head either.
          have hnoted : note key time last head (key item) = some (time head) := by
            rw [hkey, note_self]
          have hfar := ih hrest hnoted hhead htail
          by_contra hrecent
          have hclose := mono _ _ _ (hpast head List.mem_cons_self) (eq_true_of_ne_false hrecent)
          rw [hfar] at hclose
          cases hclose
        · exact ih hrest ((note_of_ne hkey).trans hlast) hpastRest htail

/-- Two items with one key do not pass shortly after one another. -/
theorem admitted_spaced (mono : ∀ s t u : τ, s ≤ t → recent s u = true → recent t u = true)
    (hsorted : items.Pairwise fun earlier later => time earlier ≤ time later) :
    (admitted key time recent last items).Pairwise fun earlier later =>
      key earlier = key later → recent (time earlier) (time later) = false := by
  induction items generalizing last with
  | nil => exact .nil
  | cons head items ih =>
    obtain ⟨hhead, hrest⟩ := List.pairwise_cons.mp hsorted
    rw [admitted]
    split
    · exact ih hrest
    · refine List.pairwise_cons.mpr ⟨fun later hlater hkey => ?_, ih hrest⟩
      have hnoted : note key time last head (key later) = some (time head) := by
        rw [← hkey, note_self]
      exact not_recent_of_admitted mono hrest hnoted hhead hlater

end Spaced

/-- Items of other keys have no influence on which items of the keys `kept` pass. -/
theorem admitted_filter_of_thinned {kept : κ → Bool} {fewer : List ι}
    (h : Thinned (fun item => kept (key item) = false) items fewer) {other : κ → Option τ}
    (hlast : ∀ k, kept k = true → last k = other k) :
    (admitted key time recent last items).filter (fun item => kept (key item)) =
      (admitted key time recent other fewer).filter (fun item => kept (key item)) := by
  -- What the limiter notes about keys that are not kept may differ.
  have hnote {item : ι} {last other : κ → Option τ}
      (hlast : ∀ k, kept k = true → last k = other k) :
      ∀ k, kept k = true → note key time last item k = note key time other item k := by
    intro k hk
    by_cases hkey : k = key item
    · rw [hkey, note_self, note_self]
    · rw [note_of_ne hkey, note_of_ne hkey, hlast k hk]
  have hskip {item : ι} {last : κ → Option τ} (hkept : ¬ kept (key item) = true) :
      ∀ k, kept k = true → note key time last item k = last k :=
    fun k hk => note_of_ne fun hkey => hkept (hkey ▸ hk)
  induction h generalizing last other with
  | nil => rfl
  | keep item rest ih =>
    by_cases hkept : kept (key item) = true
    · have hheld : held key time recent last item = held key time recent other item := by
        rw [held, held, hlast _ hkept]
      simp only [admitted, hheld]
      split
      · exact ih hlast
      · simp only [List.filter_cons, if_pos hkept, ih (hnote hlast)]
    · simp only [admitted]
      split <;> split
      · exact ih hlast
      · simp only [List.filter_cons, if_neg hkept]
        exact ih fun k hk => (hlast k hk).trans (hskip hkept k hk).symm
      · simp only [List.filter_cons, if_neg hkept]
        exact ih fun k hk => (hskip hkept k hk).trans (hlast k hk)
      · simp only [List.filter_cons, if_neg hkept]
        exact ih (hnote hlast)
  | @drop item items fewer droppable rest ih =>
    have hkept : ¬ kept (key item) = true := by simp [droppable]
    simp only [admitted]
    split
    · exact ih hlast
    · simp only [List.filter_cons, if_neg hkept]
      exact ih fun k hk => (hskip hkept k hk).trans (hlast k hk)

end EdgeSafety.RateLimit
