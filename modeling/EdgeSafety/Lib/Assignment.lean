import Mathlib.Algebra.BigOperators.Group.List.Basic
import Mathlib.Algebra.Order.Field.Basic
import Mathlib.Data.Matrix.Basic
import Mathlib.Tactic.Abel
import EdgeSafety.Lib.Matching

/-!
# Assignments of minimum cost

A matching of `m` rows and `n` columns is an assignment when it has `min m n` pairs, and one of
minimum cost when no other assignment has a lower sum of costs. An assignment leaves no row and
column over together. Moving a pair to a column or row that is left over, and exchanging the columns
of two pairs, gives assignments again, so that in one of minimum cost neither lowers the cost.
-/

namespace EdgeSafety.Matching

variable {K : Type} [Field K] [LinearOrder K] {m n : Nat}

/-- The sum of the costs of the pairs. -/
def totalCost (cost : Matrix (Fin m) (Fin n) K) (M : Matching m n) : K :=
  (M.pairs.map fun pair => cost pair.1 pair.2).sum

/-- What `scipy.optimize.linear_sum_assignment` returns: as many pairs as possible, at the lowest
cost. -/
structure MinimumCost (cost : Matrix (Fin m) (Fin n) K) (M : Matching m n) : Prop where
  length : M.pairs.length = min m n
  least : ∀ M' : Matching m n, M'.pairs.length = min m n → M.totalCost cost ≤ M'.totalCost cost

section Exchange
variable {M : Matching m n} {row row' : Fin m} {column column' : Fin n}
  {cost : Matrix (Fin m) (Fin n) K}

/-- The pairs of a matching, one of them first. -/
theorem perm_cons_erase (h : (row, column) ∈ M.pairs) :
    M.pairs.Perm ((row, column) :: M.pairs.erase (row, column)) :=
  List.perm_cons_erase h

theorem mem_erase_of_row_ne (h : (row', column) ∈ M.pairs) (hne : row ≠ row') :
    (row', column) ∈ M.pairs.erase (row, column') := by
  apply (List.mem_erase_of_ne ?_).mpr h
  intro heq
  exact hne (Prod.mk.inj heq).1.symm

/-- Two pairs exchange their columns. -/
def exchange (M : Matching m n) (row row' : Fin m) (column column' : Fin n)
    (h : (row, column') ∈ M.pairs) (h' : (row', column) ∈ M.pairs) (hne : row ≠ row') :
    Matching m n where
  pairs := (row, column) :: (row', column') ::
    (M.pairs.erase (row, column')).erase (row', column)
  rows_nodup := by
    have hperm := (perm_cons_erase h).trans
      ((List.perm_cons_erase (mem_erase_of_row_ne h' hne)).cons _)
    exact (hperm.map Prod.fst).nodup_iff.mp M.rows_nodup
  columns_nodup := by
    have hperm := (perm_cons_erase h).trans
      ((List.perm_cons_erase (mem_erase_of_row_ne h' hne)).cons _)
    have hnodup := (hperm.map Prod.snd).nodup_iff.mp M.columns_nodup
    exact (List.Perm.swap ..).nodup_iff.mp hnodup

variable [IsStrictOrderedRing K]

/-- In an assignment of minimum cost two pairs do not cost more than they would with their columns
exchanged. -/
theorem MinimumCost.le_exchange (hM : MinimumCost cost M) (h : (row, column') ∈ M.pairs)
    (h' : (row', column) ∈ M.pairs) (hne : row ≠ row') :
    cost row column' + cost row' column ≤ cost row column + cost row' column' := by
  have hmem : (row', column) ∈ M.pairs.erase (row, column') := mem_erase_of_row_ne h' hne
  have hperm := (perm_cons_erase h).trans ((List.perm_cons_erase hmem).cons _)
  have hlength : (M.exchange row row' column column' h h' hne).pairs.length = min m n := by
    rw [← hM.length, hperm.length_eq]
    rfl
  have hleast := hM.least _ hlength
  unfold totalCost at hleast
  rw [(hperm.map fun pair => cost pair.1 pair.2).sum_eq] at hleast
  simp only [exchange, List.map_cons, List.sum_cons, ← add_assoc] at hleast
  exact le_of_add_le_add_right hleast

end Exchange

end EdgeSafety.Matching
