import Mathlib.Data.List.Basic

/-!
# Lists in which the last write wins

Of the writes to each key, `lastBy` keeps the last one, where it stands. One more write takes the
place of those to its key and comes last (`lastBy_append_singleton`).
-/

namespace EdgeSafety.LastWrite

variable {α κ : Type} [DecidableEq κ]

/-- The last write to each key, in the order of these. -/
def lastBy (key : α → κ) : List α → List α
  | [] => []
  | write :: writes =>
    if ∃ later ∈ writes, key later = key write then lastBy key writes
    else write :: lastBy key writes

theorem lastBy_append_singleton (key : α → κ) (writes : List α) (last : α) :
    lastBy key (writes ++ [last]) =
      (lastBy key writes).filter (fun write => key write ≠ key last) ++ [last] := by
  induction writes with
  | nil => simp [lastBy]
  | cons write writes ih =>
    rw [List.cons_append, lastBy, lastBy, ih]
    by_cases hsame : key last = key write
    · rw [if_pos ⟨last, by simp, hsame⟩]
      split_ifs with hlater
      · rfl
      · rw [List.filter_cons_of_neg (by simp [hsame])]
    · have hiff : (∃ later ∈ writes ++ [last], key later = key write) ↔
          ∃ later ∈ writes, key later = key write := by
        simp only [List.mem_append, List.mem_singleton, or_and_right, exists_or, exists_eq_left,
          or_iff_left hsame]
      rw [if_congr hiff rfl rfl]
      split_ifs with hlater
      · rfl
      · rw [List.filter_cons_of_pos (by simpa using Ne.symm hsame), List.cons_append]

theorem lastBy_sublist (key : α → κ) (writes : List α) : (lastBy key writes).Sublist writes := by
  induction writes with
  | nil => exact List.Sublist.slnil
  | cons write writes ih =>
    rw [lastBy]
    split_ifs with hlater
    · exact ih.cons write
    · exact ih.cons_cons write

end EdgeSafety.LastWrite
