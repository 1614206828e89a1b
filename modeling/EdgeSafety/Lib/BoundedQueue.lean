import Mathlib.Data.List.Basic

/-!
# Bounded queues that drop their oldest item

`push capacity queue item` appends to a queue and lets go of what exceeds the capacity at the front.
A ledger lists everything that was ever pushed, with the number of newer items pushed while it
waited and whether it was taken, beside the list of what was taken. `Kept` ties the ledger to the
queue: `Kept.push` and `Kept.pop` preserve it, and it says what became of every item
(`Kept.fate`).
-/

namespace EdgeSafety.BoundedQueue

variable {α : Type}

/-- `deque(maxlen=capacity).append(item)`. -/
def push (capacity : Nat) (queue : List α) (item : α) : List α :=
  (queue ++ [item]).drop ((queue ++ [item]).length - capacity)

theorem length_push_le (capacity : Nat) (queue : List α) (item : α) :
    (push capacity queue item).length ≤ capacity := by
  rw [push, List.length_drop]
  omega

/-- An item that was pushed. -/
structure Entry (α : Type) where
  item : α
  /-- How many items were pushed after it while it waited. -/
  newer : Nat
  taken : Bool

namespace Entry

/-- A newer item is pushed while this one waits. -/
def overtake (entry : Entry α) : Entry α := { entry with newer := entry.newer + 1 }

/-- The item is taken out. -/
def take (entry : Entry α) : Entry α := { entry with taken := true }

end Entry

/-- Every item that was pushed, and what was taken out, each in order. -/
structure Ledger (α : Type) where
  entries : List (Entry α)
  taken : List α

namespace Ledger

/-- Nothing was pushed yet. -/
def empty : Ledger α := ⟨[], []⟩

/-- An item is pushed while the last `waiting` ones wait. -/
def push (l : Ledger α) (waiting : Nat) (item : α) : Ledger α :=
  { l with
    entries := l.entries.take (l.entries.length - waiting) ++
      (l.entries.drop (l.entries.length - waiting)).map Entry.overtake ++ [⟨item, 0, false⟩] }

/-- The first of the last `waiting` items is taken out, and `item` is what one gets. -/
def pop (l : Ledger α) (waiting : Nat) (item : α) : Ledger α where
  entries := l.entries.modify (l.entries.length - waiting) Entry.take
  taken := l.taken ++ [item]

end Ledger

@[simp]
theorem Ledger.map_item_push (l : Ledger α) (waiting : Nat) (item : α) :
    (l.push waiting item).entries.map Entry.item = l.entries.map Entry.item ++ [item] := by
  have hovertake : Entry.item ∘ Entry.overtake = (Entry.item : Entry α → α) := rfl
  simp only [push, List.map_append, List.map_map, hovertake, List.map_cons, List.map_nil]
  rw [← List.map_append, List.take_append_drop]

@[simp]
theorem Ledger.map_item_pop (l : Ledger α) (waiting : Nat) (item : α) :
    (l.pop waiting item).entries.map Entry.item = l.entries.map Entry.item := by
  apply List.ext_getElem?
  intro i
  simp only [pop, List.getElem?_map, List.getElem?_modify]
  cases l.entries[i]? with
  | none => rfl
  | some entry =>
    by_cases h : l.entries.length - waiting = i <;> simp [h, Entry.take]

/-- The entries of items that wait, the oldest first: each was overtaken by those behind it. -/
def waitingEntries : List α → List (Entry α)
  | [] => []
  | item :: queue => ⟨item, queue.length, false⟩ :: waitingEntries queue

@[simp]
theorem length_waitingEntries (queue : List α) :
    (waitingEntries queue).length = queue.length := by
  induction queue with
  | nil => rfl
  | cons item queue ih => simp [waitingEntries, ih]

@[simp]
theorem map_item_waitingEntries (queue : List α) :
    (waitingEntries queue).map Entry.item = queue := by
  induction queue with
  | nil => rfl
  | cons item queue ih => simp [waitingEntries, ih]

@[simp]
theorem filter_taken_waitingEntries (queue : List α) :
    (waitingEntries queue).filter Entry.taken = [] := by
  induction queue with
  | nil => rfl
  | cons item queue ih => simp [waitingEntries, ih]

/-- A new item overtakes all that wait. -/
theorem waitingEntries_append (queue : List α) (item : α) :
    waitingEntries (queue ++ [item]) =
      (waitingEntries queue).map Entry.overtake ++ [⟨item, 0, false⟩] := by
  induction queue with
  | nil => rfl
  | cons first queue ih => simp [waitingEntries, ih, Entry.overtake]

theorem drop_waitingEntries (queue : List α) (count : Nat) :
    (waitingEntries queue).drop count = waitingEntries (queue.drop count) := by
  induction queue generalizing count with
  | nil => simp [waitingEntries]
  | cons item queue ih =>
    cases count with
    | zero => rfl
    | succ count => simpa [waitingEntries] using ih count

/-- The first `count` items that wait were overtaken by all that are left after them. -/
theorem le_newer_of_mem_take {queue : List α} {count : Nat} {entry : Entry α}
    (h : entry ∈ (waitingEntries queue).take count) : queue.length - count ≤ entry.newer := by
  induction queue generalizing count with
  | nil => simp [waitingEntries] at h
  | cons item queue ih =>
    cases count with
    | zero => simp at h
    | succ count =>
      simp only [waitingEntries, List.take_succ_cons, List.mem_cons] at h
      rcases h with rfl | h
      · simp
      · have hnewer := ih h
        simp only [List.length_cons]
        omega

/-- The ledger of a queue: what waits is its end, and everything before was taken or was overtaken
by `capacity` newer items while it waited. -/
structure Kept (capacity : Nat) (queue : List α) (l : Ledger α) : Prop where
  bounded : queue.length ≤ capacity
  split : ∃ past, l.entries = past ++ waitingEntries queue ∧
    (∀ entry ∈ past, entry.taken = true ∨ capacity ≤ entry.newer) ∧
    l.taken = (past.filter Entry.taken).map Entry.item

theorem kept_empty (capacity : Nat) : Kept capacity ([] : List α) Ledger.empty :=
  ⟨Nat.zero_le _, [], rfl, by simp, rfl⟩

/-- The part of the ledger before what waits. -/
theorem take_waiting {entries past : List (Entry α)} {queue : List α}
    (h : entries = past ++ waitingEntries queue) :
    entries.length - queue.length = past.length := by
  rw [h, List.length_append, length_waitingEntries]
  omega

theorem Kept.push {capacity : Nat} {queue : List α} {l : Ledger α} (h : Kept capacity queue l)
    (item : α) :
    Kept capacity (BoundedQueue.push capacity queue item) (l.push queue.length item) := by
  obtain ⟨past, hentries, hpast, htaken⟩ := h.split
  let excess := (queue ++ [item]).length - capacity
  have hnew : (l.push queue.length item).entries = past ++ waitingEntries (queue ++ [item]) := by
    show l.entries.take _ ++ (l.entries.drop _).map Entry.overtake ++ _ = _
    rw [take_waiting hentries, hentries, List.take_left, List.drop_left, waitingEntries_append,
      List.append_assoc]
  have hleft : ∀ entry ∈ (waitingEntries (queue ++ [item])).take excess,
      entry.taken = false ∧ capacity ≤ entry.newer := by
    intro entry hentry
    constructor
    · by_contra htrue
      have hmem : entry ∈ (waitingEntries (queue ++ [item])).filter Entry.taken :=
        List.mem_filter.mpr ⟨List.mem_of_mem_take hentry, by simpa using htrue⟩
      simp at hmem
    · have hnewer := le_newer_of_mem_take hentry
      have hbounded := h.bounded
      simp only [excess, List.length_append, List.length_singleton] at hnewer
      by_cases hfull : capacity ≤ queue.length + 1
      · omega
      · simp only [excess, List.length_append, List.length_singleton] at hentry
        rw [Nat.sub_eq_zero_of_le (by omega)] at hentry
        simp at hentry
  refine ⟨length_push_le .., past ++ (waitingEntries (queue ++ [item])).take excess, ?_, ?_, ?_⟩
  · rw [hnew, BoundedQueue.push, ← drop_waitingEntries, List.append_assoc, List.take_append_drop]
  · intro entry hentry
    rcases List.mem_append.mp hentry with hentry | hentry
    · exact hpast entry hentry
    · exact Or.inr (hleft entry hentry).2
  · have hnone : ((waitingEntries (queue ++ [item])).take excess).filter Entry.taken = [] := by
      rw [List.filter_eq_nil_iff]
      intro entry hentry
      simp [(hleft entry hentry).1]
    rw [List.filter_append, hnone, List.append_nil]
    exact htaken

theorem Kept.pop {capacity : Nat} {queue : List α} {item : α} {l : Ledger α}
    (h : Kept capacity (item :: queue) l) :
    Kept capacity queue (l.pop (item :: queue).length item) := by
  obtain ⟨past, hentries, hpast, htaken⟩ := h.split
  have hbounded := h.bounded
  have hfirst : (l.pop (item :: queue).length item).entries =
      (past ++ [⟨item, queue.length, true⟩]) ++ waitingEntries queue := by
    show l.entries.modify _ Entry.take = _
    rw [take_waiting hentries, hentries, List.modify_eq_take_drop, List.take_left, List.drop_left]
    simp [waitingEntries, Entry.take]
  refine ⟨by rw [List.length_cons] at hbounded; omega, _, hfirst, ?_, ?_⟩
  · intro entry hentry
    rcases List.mem_append.mp hentry with hentry | hentry
    · exact hpast entry hentry
    · rw [List.mem_singleton.mp hentry]
      exact Or.inl rfl
  · show l.taken ++ [item] = _
    rw [htaken, List.filter_append, List.map_append]
    rfl

/-- What was taken are the entries marked so, in the order in which they were pushed. -/
theorem Kept.taken_eq {capacity : Nat} {queue : List α} {l : Ledger α}
    (h : Kept capacity queue l) : l.taken = (l.entries.filter Entry.taken).map Entry.item := by
  obtain ⟨past, hentries, -, htaken⟩ := h.split
  rw [htaken, hentries, List.filter_append, filter_taken_waitingEntries, List.append_nil]

/-- What waits are the last entries. -/
theorem Kept.waiting_eq {capacity : Nat} {queue : List α} {l : Ledger α}
    (h : Kept capacity queue l) :
    queue = (l.entries.drop (l.entries.length - queue.length)).map Entry.item := by
  obtain ⟨past, hentries, -, -⟩ := h.split
  rw [take_waiting hentries, hentries, List.drop_left, map_item_waitingEntries]

/-- An item was taken, or was overtaken by `capacity` newer ones while it waited, or waits. -/
theorem Kept.fate {capacity : Nat} {queue : List α} {l : Ledger α} (h : Kept capacity queue l)
    {i : Nat} {entry : Entry α} (hentry : l.entries[i]? = some entry) :
    entry.taken = true ∨ capacity ≤ entry.newer ∨ l.entries.length - queue.length ≤ i := by
  obtain ⟨past, hentries, hpast, -⟩ := h.split
  rw [take_waiting hentries]
  by_cases hi : i < past.length
  · rw [hentries, List.getElem?_append_left hi] at hentry
    rcases hpast entry (List.mem_of_getElem? hentry) with htaken | hnewer
    · exact Or.inl htaken
    · exact Or.inr (Or.inl hnewer)
  · exact Or.inr (Or.inr (Nat.le_of_not_lt hi))

end EdgeSafety.BoundedQueue
