import Mathlib.Algebra.Ring.Nat
import Mathlib.Data.Multiset.AddSub
import Mathlib.Order.Lattice

/-!
# A bounded priority bag

What a bounded queue of prioritised work is for, apart from how it is kept: a bag of at most
`capacity` items. An item is taken in the order of `rank` and, within a rank, of `age`; when the
bag is full a new item takes the place of a largest one, and of the oldest among those of its
rank, unless it is itself of a larger rank than all. `Run` strings such steps together, and the
laws say what every run keeps.
-/

namespace EdgeSafety.PriorityBag

variable {α ρ τ : Type} [LinearOrder ρ] [LinearOrder τ]

/-- A call with its answer. -/
inductive Exchange (α : Type)
  | put (item : α) (kept : Bool)
  | get (answer : Option α)

/-- The items that an exchange brings in. -/
def Exchange.offered : Exchange α → Nat
  | .put _ _ => 1
  | .get _ => 0

/-- The items that an exchange hands out. -/
def Exchange.handed : Exchange α → Nat
  | .get (some _) => 1
  | _ => 0

/-- One step: the exchange, the item that was discarded in it, and the bag it leaves. -/
structure Entry (α : Type) where
  exchange : Exchange α
  discarded : Option α
  after : Multiset α

theorem length_discarded_cons (entry : Entry α) (log : List (Entry α)) :
    ((entry :: log).filterMap Entry.discarded).length =
      entry.discarded.toList.length + (log.filterMap Entry.discarded).length := by
  rw [List.filterMap_cons]
  cases entry.discarded <;> simp [Nat.add_comm]

/-- What the bag may do. -/
inductive Step (rank : α → ρ) (age : α → τ) (capacity : Nat) : Multiset α → Entry α → Prop
  /-- There is room. -/
  | keep (bag : Multiset α) (item : α) (room : bag.card < capacity) :
    Step rank age capacity bag ⟨.put item true, none, item ::ₘ bag⟩
  /-- The item takes the place of a largest one, the oldest of its rank. -/
  | replace (bag : Multiset α) (item victim : α) (full : (victim ::ₘ bag).card = capacity)
      (item_le : rank item ≤ rank victim)
      (largest : ∀ other ∈ bag, rank other ≤ rank victim)
      (oldest : ∀ other ∈ bag, rank other = rank victim → age victim ≤ age other) :
    Step rank age capacity (victim ::ₘ bag) ⟨.put item true, some victim, item ::ₘ bag⟩
  /-- The item is of a larger rank than all. -/
  | refuse (bag : Multiset α) (item : α) (full : bag.card = capacity)
      (largest : ∀ other ∈ bag, rank other < rank item) :
    Step rank age capacity bag ⟨.put item false, some item, bag⟩
  /-- There is nothing to take. -/
  | none : Step rank age capacity 0 ⟨.get none, none, 0⟩
  /-- A least item is taken. -/
  | take (bag : Multiset α) (item : α)
      (least : ∀ other ∈ bag, rank item < rank other ∨
        rank item = rank other ∧ age item ≤ age other) :
    Step rank age capacity (item ::ₘ bag) ⟨.get (some item), none, bag⟩

/-- A run of the bag. -/
inductive Run (rank : α → ρ) (age : α → τ) (capacity : Nat) :
    Multiset α → List (Entry α) → Multiset α → Prop
  | nil (bag : Multiset α) : Run rank age capacity bag [] bag
  | cons {bag last : Multiset α} {entry : Entry α} {log : List (Entry α)}
      (step : Step rank age capacity bag entry) (run : Run rank age capacity entry.after log last) :
    Run rank age capacity bag (entry :: log) last

section Laws
variable {rank : α → ρ} {age : α → τ} {capacity : Nat}

theorem Step.card_le {bag : Multiset α} {entry : Entry α} (h : Step rank age capacity bag entry)
    (hbag : bag.card ≤ capacity) : entry.after.card ≤ capacity := by
  cases h with
  | keep bag item room =>
    rw [Multiset.card_cons]
    exact room
  | replace bag item victim full =>
    rw [Multiset.card_cons] at full ⊢
    exact full.le
  | refuse => exact hbag
  | none => exact hbag
  | take bag item =>
    rw [Multiset.card_cons] at hbag
    exact Nat.le_of_succ_le hbag

/-- What comes in is handed out, kept or discarded. -/
theorem Step.conserves {bag : Multiset α} {entry : Entry α}
    (h : Step rank age capacity bag entry) :
    bag.card + entry.exchange.offered =
      entry.exchange.handed + entry.after.card + entry.discarded.toList.length := by
  cases h <;> simp [Exchange.offered, Exchange.handed, Nat.add_comm]

/-- What is discarded is at least as large as everything that is kept. -/
theorem Step.discarded_largest {bag : Multiset α} {entry : Entry α}
    (h : Step rank age capacity bag entry) {victim : α} (hvictim : entry.discarded = some victim) :
    ∀ other ∈ entry.after, rank other ≤ rank victim := by
  intro other hother
  cases h with
  | keep | none | take => cases hvictim
  | replace bag item victim full item_le largest =>
    obtain rfl := Option.some.inj hvictim
    rcases Multiset.mem_cons.mp hother with rfl | hother
    · exact item_le
    · exact largest other hother
  | refuse bag item full largest =>
    obtain rfl := Option.some.inj hvictim
    exact (largest other hother).le

theorem Run.card_le {bag last : Multiset α} {log : List (Entry α)}
    (h : Run rank age capacity bag log last) (hbag : bag.card ≤ capacity) :
    last.card ≤ capacity := by
  induction h with
  | nil => exact hbag
  | cons step _ ih => exact ih (step.card_le hbag)

theorem Run.conserves {bag last : Multiset α} {log : List (Entry α)}
    (h : Run rank age capacity bag log last) :
    bag.card + (log.map (·.exchange.offered)).sum =
      (log.map (·.exchange.handed)).sum + last.card + (log.filterMap Entry.discarded).length := by
  induction h with
  | nil => simp
  | @cons bag last entry log step _ ih =>
    have hstep := step.conserves
    rw [List.map_cons, List.map_cons, List.sum_cons, List.sum_cons, length_discarded_cons]
    omega

theorem Run.discarded_largest {bag last : Multiset α} {log : List (Entry α)}
    (h : Run rank age capacity bag log last) :
    ∀ entry ∈ log, ∀ victim, entry.discarded = some victim →
      ∀ other ∈ entry.after, rank other ≤ rank victim := by
  induction h with
  | nil => exact fun _ h => absurd h List.not_mem_nil
  | cons step _ ih =>
    rw [List.forall_mem_cons]
    exact ⟨fun _ => step.discarded_largest, ih⟩

end Laws

end EdgeSafety.PriorityBag
