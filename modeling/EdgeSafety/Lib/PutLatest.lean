import Mathlib.Data.List.Basic

/-!
# Putting the latest item, one access at a time

A producer keeps a queue of bounded size fresh. It looks whether the queue is full, takes the oldest
item out where it was, and puts the new item in; the last of these accesses raises if the queue is
full. Between two accesses others may take items. The producer is alone in putting, so that the room
it saw or made is still there when it puts (`Fresh.access`). What was taken and what waits is in the
order in which it was offered, and the newest item is among it except while the producer is about to
put a newer one.
-/

namespace EdgeSafety.PutLatest

variable {α : Type}

/-- The next access of a producer, with the item that it puts. -/
inductive Access (α : Type)
  | full (item : α)
  | evict (item : α)
  | put (item : α)

/-- The item that the producer puts in the end. -/
def Access.item : Access α → α
  | .full item | .evict item | .put item => item

/-- One access to a queue of the given capacity. It leaves the queue and the access after it, if
there is one; there is nothing where `put` raises. -/
def access (capacity : Nat) (queue : List α) : Access α → Option (List α × Option (Access α))
  | .full item =>
    some (queue, some (if capacity ≤ queue.length then .evict item else .put item))
  | .evict item => some (queue.tail, some (.put item))
  | .put item => if capacity ≤ queue.length then none else some (queue ++ [item], none)

/-- The items that were put so far and those that others took, each in order. -/
structure Ledger (α : Type) where
  offered : List α := []
  taken : List α := []

namespace Ledger

/-- An access of the producer. -/
def access (l : Ledger α) : Access α → Ledger α
  | .put item => { l with offered := l.offered ++ [item] }
  | _ => l

/-- Others take the item. -/
def take (l : Ledger α) (item : α) : Ledger α := { l with taken := l.taken ++ [item] }

end Ledger

/-- The queue of one producer, which is about to make the access `next?`. -/
structure Fresh (capacity : Nat) (l : Ledger α) (queue : List α) (next? : Option (Access α)) :
    Prop where
  bounded : queue.length ≤ capacity
  room : ∀ item, next? = some (.put item) → queue.length < capacity
  ordered : (l.taken ++ queue).Sublist l.offered
  newest : (∀ item, next? ≠ some (.put item)) → (l.taken ++ queue).getLast? = l.offered.getLast?

theorem fresh_empty (capacity : Nat) : Fresh capacity ({} : Ledger α) [] none where
  bounded := Nat.zero_le _
  room _ h := by cases h
  ordered := List.Sublist.refl _
  newest _ := rfl

section Fresh
variable {capacity : Nat} {l : Ledger α} {queue : List α}

/-- The producer starts on a new item. -/
theorem Fresh.start (h : Fresh capacity l queue none) (item : α) :
    Fresh capacity l queue (some (.full item)) where
  bounded := h.bounded
  room _ heq := by cases heq
  ordered := h.ordered
  newest _ := h.newest nofun

/-- No access of the producer raises. -/
theorem Fresh.access (hcapacity : 0 < capacity) {next : Access α}
    (h : Fresh capacity l queue (some next)) :
    ∃ queue' next?, PutLatest.access capacity queue next = some (queue', next?) ∧
      Fresh capacity (l.access next) queue' next? := by
  cases next with
  | full item =>
    refine ⟨queue, _, rfl, h.bounded, ?_, h.ordered, fun _ => h.newest nofun⟩
    intro other hother
    split at hother
    · cases hother
    · next hroom => exact Nat.not_le.mp hroom
  | evict item =>
    refine ⟨queue.tail, _, rfl, ?_, ?_, ?_, fun hput => absurd rfl (hput item)⟩
    · exact Nat.le_trans queue.tail_sublist.length_le h.bounded
    · intro _ _
      have hbounded := h.bounded
      rw [List.length_tail]
      omega
    · exact ((List.Sublist.refl _).append queue.tail_sublist).trans h.ordered
  | put item =>
    have hroom := h.room item rfl
    refine ⟨queue ++ [item], none, ?_, ?_, nofun, ?_, ?_⟩
    · rw [PutLatest.access, if_neg (Nat.not_le.mpr hroom)]
    · rw [List.length_append]
      exact hroom
    · rw [← List.append_assoc]
      exact h.ordered.append_right [item]
    · intro _
      simp [Ledger.access]

/-- Others take the oldest item. -/
theorem Fresh.take {rest : List α} {item : α} {next? : Option (Access α)}
    (h : Fresh capacity l (item :: rest) next?) : Fresh capacity (l.take item) rest next? where
  bounded := Nat.le_of_succ_le h.bounded
  room other hother := Nat.lt_of_succ_lt (h.room other hother)
  ordered := by
    have hordered := h.ordered
    rwa [List.append_cons] at hordered
  newest hput := by
    have hnewest := h.newest hput
    rwa [List.append_cons] at hnewest

end Fresh

end EdgeSafety.PutLatest
