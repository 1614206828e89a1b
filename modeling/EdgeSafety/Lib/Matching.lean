import Mathlib.Data.List.FinRange
import Mathlib.Data.List.Nodup
import Mathlib.Data.List.Perm.Basic
import Mathlib.Logic.Function.Basic

/-!
# One-to-one assignments between two lists

A `Matching m n` pairs some of `m` rows with some of `n` columns, no row and no column twice.
Given the two lists of things that the rows and columns stand for, a matching gives every thing
in the rows at most one thing of the columns (`partner`), and the columns it leaves over
together with the partners it hands out are the columns again (`partners_perm`).

`foldl_update_partner` is the rule for a loop that updates one cell of a store for each pair,
`foldl_update_cells` for one that updates each of the cells in a list.
-/

namespace EdgeSafety

/-- Pairs of row and column positions with pairwise distinct rows and pairwise distinct
columns. -/
structure Matching (m n : Nat) where
  pairs : List (Fin m × Fin n)
  rows_nodup : (pairs.map Prod.fst).Nodup
  columns_nodup : (pairs.map Prod.snd).Nodup

namespace Matching

variable {m n : Nat}

/-- The pairs of a matching that pass a test. -/
def filter (M : Matching m n) (keep : Fin m × Fin n → Bool) : Matching m n where
  pairs := M.pairs.filter keep
  rows_nodup := (List.filter_sublist.map Prod.fst).nodup M.rows_nodup
  columns_nodup := (List.filter_sublist.map Prod.snd).nodup M.columns_nodup

/-- The positions of the rows that have no column. -/
def freeRows (M : Matching m n) : List (Fin m) :=
  (List.finRange m).filter (· ∉ M.pairs.map Prod.fst)

/-- The positions of the columns that have no row. -/
def freeColumns (M : Matching m n) : List (Fin n) :=
  (List.finRange n).filter (· ∉ M.pairs.map Prod.snd)

/-- Positions listed once, followed by the positions that are not listed, are all positions. -/
theorem append_rest_perm {k : Nat} {l : List (Fin k)} (hl : l.Nodup) :
    (l ++ (List.finRange k).filter (· ∉ l)).Perm (List.finRange k) := by
  rw [List.perm_ext_iff_of_nodup _ (List.nodup_finRange k)]
  · intro i
    simp [Classical.em]
  · refine List.Nodup.append hl ((List.nodup_finRange k).filter _) ?_
    intro i hi hrest
    simp [hi] at hrest

/-- Filtering a list is filtering its positions. -/
theorem filter_eq_map_get {α : Type} (p : α → Bool) (l : List α) :
    l.filter p = ((List.finRange l.length).filter fun i => p (l.get i)).map l.get := by
  have h := List.filter_map (f := l.get) (p := p) (l := List.finRange l.length)
  rwa [List.map_get_finRange] at h

variable {α β γ : Type} {rows : List α} {columns : List β}

/-- The things that a matching of positions pairs up. -/
def assocs (rows : List α) (columns : List β) (M : Matching rows.length columns.length) :
    List (α × β) :=
  M.pairs.map fun p => (rows.get p.1, columns.get p.2)

/-- What a matching assigns to a thing in the rows. -/
def partner [DecidableEq α] (rows : List α) (columns : List β)
    (M : Matching rows.length columns.length) (a : α) : Option β :=
  ((assocs rows columns M).find? (·.1 = a)).map Prod.snd

section
variable (M : Matching rows.length columns.length)

theorem assocs_fst :
    (assocs rows columns M).map Prod.fst = (M.pairs.map Prod.fst).map rows.get := by
  simp [assocs, Function.comp_def]

theorem assocs_snd :
    (assocs rows columns M).map Prod.snd = (M.pairs.map Prod.snd).map columns.get := by
  simp [assocs, Function.comp_def]

theorem assocs_fst_nodup (hrows : rows.Nodup) : ((assocs rows columns M).map Prod.fst).Nodup := by
  rw [assocs_fst]
  exact M.rows_nodup.map (List.nodup_iff_injective_get.mp hrows)

variable [DecidableEq α]

/-- Without repeated keys, looking a key up in an association list finds its own entry. -/
theorem find_of_mem {l : List (α × β)} (hl : (l.map Prod.fst).Nodup) {a : α} {b : β}
    (h : (a, b) ∈ l) : l.find? (·.1 = a) = some (a, b) := by
  induction l with
  | nil => cases h
  | cons p l ih =>
    rw [List.map_cons, List.nodup_cons] at hl
    rcases List.mem_cons.mp h with rfl | h
    · simp
    · have hne : p.1 ≠ a := fun heq => hl.1 (heq ▸ List.mem_map_of_mem h)
      simpa [List.find?_cons, hne] using ih hl.2 h

theorem partner_of_mem (hrows : rows.Nodup) {a : α} {b : β} (h : (a, b) ∈ assocs rows columns M) :
    partner rows columns M a = some b := by
  simp [partner, find_of_mem (assocs_fst_nodup M hrows) h]

theorem mem_of_partner {a : α} {b : β} (h : partner rows columns M a = some b) :
    (a, b) ∈ assocs rows columns M := by
  obtain ⟨p, hp, rfl⟩ := Option.map_eq_some_iff.mp h
  have hkey : p.1 = a := by simpa using List.find?_some hp
  exact hkey ▸ List.mem_of_find?_eq_some hp

theorem partner_eq_none {a : α} :
    partner rows columns M a = none ↔ a ∉ (M.pairs.map Prod.fst).map rows.get := by
  rw [← assocs_fst]
  simp only [partner, Option.map_eq_none_iff, List.find?_eq_none, decide_eq_true_eq,
    List.mem_map, not_exists, not_and]

/-- Only things in the rows get a partner. -/
theorem mem_rows_of_partner {a : α} {b : β} (h : partner rows columns M a = some b) :
    a ∈ rows := by
  obtain ⟨p, _, hp⟩ := List.mem_map.mp (mem_of_partner M h)
  cases hp
  exact List.get_mem _ _

/-- A partner is one of the columns. -/
theorem mem_columns_of_partner {a : α} {b : β} (h : partner rows columns M a = some b) :
    b ∈ columns := by
  obtain ⟨p, _, hp⟩ := List.mem_map.mp (mem_of_partner M h)
  cases hp
  exact List.get_mem _ _

/-- The rows without a column are the things without a partner, in their order. -/
theorem freeRows_map (hrows : rows.Nodup) :
    M.freeRows.map rows.get = rows.filter (fun a => partner rows columns M a = none) := by
  have hinj := List.nodup_iff_injective_get.mp hrows
  rw [filter_eq_map_get]
  refine congrArg (List.map rows.get) (List.filter_congr fun i _ => ?_)
  simp only [partner_eq_none, List.mem_map_of_injective hinj]

/-- The partners handed out and the columns left over are the columns. -/
theorem partners_perm (hrows : rows.Nodup) :
    (rows.filterMap (partner rows columns M) ++ M.freeColumns.map columns.get).Perm columns := by
  have hsplit : rows.Perm ((assocs rows columns M).map Prod.fst ++ M.freeRows.map rows.get) := by
    rw [assocs_fst, ← List.map_append]
    conv_lhs => rw [← List.map_get_finRange rows]
    exact ((append_rest_perm M.rows_nodup).map _).symm
  have hpaired : ((assocs rows columns M).map Prod.fst).filterMap (partner rows columns M) =
      (assocs rows columns M).map Prod.snd := by
    rw [List.filterMap_map, ← List.filterMap_eq_map]
    exact List.filterMap_congr fun p hp => partner_of_mem M hrows hp
  have hfree : (M.freeRows.map rows.get).filterMap (partner rows columns M) = [] := by
    rw [freeRows_map M hrows, List.filterMap_eq_nil_iff]
    intro a ha
    simpa using (List.mem_filter.mp ha).2
  have hpartners : (rows.filterMap (partner rows columns M)).Perm
      ((assocs rows columns M).map Prod.snd) := by
    refine (hsplit.filterMap _).trans ?_
    rw [List.filterMap_append, hpaired, hfree, List.append_nil]
  refine (hpartners.append_right _).trans ?_
  rw [assocs_snd, ← List.map_append]
  conv_rhs => rw [← List.map_get_finRange columns]
  exact (append_rest_perm M.columns_nodup).map _

/-- A loop over association pairs with distinct keys that updates the cell of each key. -/
theorem foldl_update_of_nodup (f : γ → β → γ) (l : List (α × β)) (hl : (l.map Prod.fst).Nodup)
    (store : α → γ) (a : α) :
    l.foldl (fun h p => Function.update h p.1 (f (h p.1) p.2)) store a =
      ((l.find? (·.1 = a)).map Prod.snd).elim (store a) (f (store a)) := by
  induction l generalizing store with
  | nil => rfl
  | cons p l ih =>
    rw [List.map_cons, List.nodup_cons] at hl
    rw [List.foldl_cons, ih hl.2]
    by_cases hp : p.1 = a
    · have hrest : l.find? (·.1 = a) = none := by
        rw [List.find?_eq_none]
        intro q hq heq
        have hqa : q.1 = a := by simpa using heq
        exact hl.1 (hp ▸ hqa ▸ List.mem_map_of_mem hq)
      subst hp
      simp [hrest]
    · simp [hp, Function.update_of_ne (Ne.symm hp)]

/-- The loop over the pairs of a matching updates exactly the cells that have a partner. -/
theorem foldl_update_partner (f : γ → β → γ) (hrows : rows.Nodup) (store : α → γ) (a : α) :
    M.pairs.foldl (fun h p => Function.update h (rows.get p.1)
        (f (h (rows.get p.1)) (columns.get p.2))) store a =
      (partner rows columns M a).elim (store a) (f (store a)) := by
  have := foldl_update_of_nodup f (assocs rows columns M) (assocs_fst_nodup M hrows) store a
  rw [assocs, List.foldl_map] at this
  exact this

end

/-- A loop that updates each cell of a list of distinct cells. -/
theorem foldl_update_cells (f : γ → γ) [DecidableEq α] {cells : List α} (hcells : cells.Nodup)
    (store : α → γ) (a : α) :
    cells.foldl (fun h c => Function.update h c (f (h c))) store a =
      if a ∈ cells then f (store a) else store a := by
  induction cells generalizing store with
  | nil => rfl
  | cons c cells ih =>
    rw [List.nodup_cons] at hcells
    rw [List.foldl_cons, ih hcells.2]
    by_cases hc : a = c
    · subst hc
      simp [hcells.1]
    · simp [hc]

end Matching

end EdgeSafety
