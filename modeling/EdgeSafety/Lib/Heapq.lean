import Mathlib.Data.List.Perm.Basic
import Mathlib.Order.Lattice

/-!
# The heap queue

Python's `heapq` over items compared by a key: `heappush`, `heappop` and `heapify`. The item that is
sifted is swapped along its path, which puts every item where `heapq` puts it. Both sifts end
with the items they began with (`siftdown_perm`, `siftup_perm`) and in heap order. The order they
need to begin with, `UpReady` and `DownReady`, leaves out the pairs of parent and child at the
position of the sifted item, whose children may however stand under its parent.
-/

namespace EdgeSafety.Heapq

variable {α κ : Type} [LinearOrder κ] (key : α → κ) {n : Nat}

/-- Position `c` is a child of position `p`. -/
def Child (p c : Nat) : Prop := c = 2 * p + 1 ∨ c = 2 * p + 2

theorem Child.lt {p c : Nat} (h : Child p c) : p < c := by
  unfold Child at h
  omega

theorem Child.parent_eq {p c : Nat} (h : Child p c) : (c - 1) / 2 = p := by
  unfold Child at h
  omega

theorem child_parent {c : Nat} (h : 0 < c) : Child ((c - 1) / 2) c := by
  unfold Child
  omega

/-- The position lies in the subtree of `start`. -/
inductive Under (start : Nat) : Nat → Prop
  | root : Under start start
  | child {p c : Nat} (parent : Under start p) (child : Child p c) : Under start c

theorem Under.le {start pos : Nat} (h : Under start pos) : start ≤ pos := by
  induction h with
  | root => exact Nat.le_refl _
  | child _ hchild ih => exact Nat.le_trans ih (Nat.le_of_lt hchild.lt)

theorem Under.parent {start pos : Nat} (h : Under start pos) (hpos : start < pos) :
    Under start ((pos - 1) / 2) := by
  cases h with
  | root => exact absurd hpos (Nat.lt_irrefl _)
  | child hparent hchild => exact hchild.parent_eq ▸ hparent

theorem under_zero (pos : Nat) : Under 0 pos := by
  induction pos using Nat.strongRecOn with
  | ind pos ih =>
    rcases Nat.eq_zero_or_pos pos with rfl | hpos
    · exact .root
    · exact .child (ih _ (by omega)) (child_parent hpos)

/-- `_siftdown`: the item at `pos` moves towards `start` past every parent that it is less than. -/
def siftdown (start : Nat) (xs : Vector α n) (pos : Nat) (hpos : pos < n) : Vector α n :=
  if start < pos then
    if key xs[pos] < key xs[(pos - 1) / 2] then
      siftdown start (xs.swap pos ((pos - 1) / 2)) ((pos - 1) / 2) (by omega)
    else xs
  else xs
termination_by pos

/-- The child that `_siftup` moves up: the left one only when it is less. -/
def smallerChild (xs : Vector α n) (pos : Nat) (hchild : 2 * pos + 1 < n) : Fin n :=
  if hright : 2 * pos + 2 < n then
    if key xs[2 * pos + 1] < key xs[2 * pos + 2] then ⟨2 * pos + 1, hchild⟩
    else ⟨2 * pos + 2, hright⟩
  else ⟨2 * pos + 1, hchild⟩

theorem smallerChild_child (xs : Vector α n) (pos : Nat) (hchild : 2 * pos + 1 < n) :
    Child pos (smallerChild key xs pos hchild) := by
  unfold smallerChild
  split
  · split
    · exact Or.inl rfl
    · exact Or.inr rfl
  · exact Or.inl rfl

theorem smallerChild_le (xs : Vector α n) {pos c : Nat} (hchild : 2 * pos + 1 < n) (hc : c < n)
    (h : Child pos c) : key xs[smallerChild key xs pos hchild] ≤ key xs[c] := by
  unfold smallerChild
  rcases h with rfl | rfl
  · split
    · split
      · exact le_refl _
      · next hless => exact not_lt.mp hless
    · exact le_refl _
  · split
    · split
      · next hless => exact le_of_lt hless
      · exact le_refl _
    · next hright => exact absurd hc hright

/-- The first half of `_siftup`: the item at `pos` moves down to a leaf, past the smaller child
each time. -/
def descend (xs : Vector α n) (pos : Nat) (hpos : pos < n) : Vector α n × Fin n :=
  if hchild : 2 * pos + 1 < n then
    descend (xs.swap pos (smallerChild key xs pos hchild)) (smallerChild key xs pos hchild)
      (smallerChild key xs pos hchild).isLt
  else (xs, ⟨pos, hpos⟩)
termination_by n - pos
decreasing_by
  have hlt := (smallerChild_child key xs pos hchild).lt
  omega

/-- `_siftup`: the item at `pos` moves down to a leaf and from there to its place. -/
def siftup (xs : Vector α n) (pos : Nat) (hpos : pos < n) : Vector α n :=
  let (ys, leaf) := descend key xs pos hpos
  siftdown key pos ys leaf leaf.isLt

/-- The loop of `heapify`, which sifts the positions below `count`, the last first. -/
def heapifyFrom (xs : Vector α n) : (count : Nat) → count ≤ n → Vector α n
  | 0, _ => xs
  | pos + 1, hcount => heapifyFrom (siftup key xs pos hcount) pos (Nat.le_of_succ_le hcount)

/-- `heapq.heapify`. -/
def heapify (heap : Array α) : Array α :=
  (heapifyFrom key (⟨heap, rfl⟩ : Vector α heap.size) (heap.size / 2) (Nat.div_le_self _ _)).toArray

/-- `heapq.heappush`. -/
def heappush (heap : Array α) (item : α) : Array α :=
  (siftdown key 0 ((⟨heap, rfl⟩ : Vector α heap.size).push item) heap.size
    (Nat.lt_succ_self _)).toArray

/-- `heapq.heappop`; an empty heap raises an `IndexError`. -/
def heappop (heap : Array α) : Option (α × Array α) :=
  if hempty : 0 < heap.size then
    if hrest : 0 < heap.pop.size then
      some (heap.pop[0], (siftup key
        ((⟨heap.pop, rfl⟩ : Vector α heap.pop.size).set 0 (heap.back hempty)) 0 hrest).toArray)
    else some (heap.back hempty, heap.pop)
  else none

section Perm

theorem siftdown_perm (start : Nat) (xs : Vector α n) (pos : Nat) (hpos : pos < n) :
    (siftdown key start xs pos hpos).toList.Perm xs.toList := by
  fun_induction siftdown key start xs pos hpos with
  | case1 xs pos hpos hstart hless ih => exact ih.trans (Vector.swap_perm hpos _).toList
  | case2 xs pos hpos hstart hless => exact List.Perm.refl _
  | case3 xs pos hpos hstart => exact List.Perm.refl _

theorem descend_perm (xs : Vector α n) (pos : Nat) (hpos : pos < n) :
    (descend key xs pos hpos).1.toList.Perm xs.toList := by
  fun_induction descend key xs pos hpos with
  | case1 xs pos hpos hchild ih => exact ih.trans (Vector.swap_perm hpos _).toList
  | case2 xs pos hpos hchild => exact List.Perm.refl _

theorem siftup_perm (xs : Vector α n) (pos : Nat) (hpos : pos < n) :
    (siftup key xs pos hpos).toList.Perm xs.toList :=
  (siftdown_perm key pos _ _ _).trans (descend_perm key xs pos hpos)

theorem heapifyFrom_perm (xs : Vector α n) (count : Nat) (hcount : count ≤ n) :
    (heapifyFrom key xs count hcount).toList.Perm xs.toList := by
  induction count generalizing xs with
  | zero => exact List.Perm.refl _
  | succ pos ih => exact (ih _ _).trans (siftup_perm key xs pos hcount)

end Perm

/-- The pairs of parent and child from position `start` on are in order. -/
def Ordered (start : Nat) (xs : Vector α n) : Prop :=
  ∀ (p c : Nat) (hc : c < n) (h : Child p c), start ≤ p →
    haveI : p < n := Nat.lt_trans h.lt hc
    key xs[p] ≤ key xs[c]

/-- The children of `pos` may stand under its parent. -/
def Grand (start : Nat) (xs : Vector α n) (pos : Nat) : Prop :=
  ∀ (p c : Nat) (hc : c < n) (h : Child p pos) (h' : Child pos c), start ≤ p →
    haveI : p < n := Nat.lt_trans (Nat.lt_trans h.lt h'.lt) hc
    key xs[p] ≤ key xs[c]

/-- All is in order but the item at `pos` under its parent. -/
structure UpReady (start : Nat) (xs : Vector α n) (pos : Nat) : Prop where
  under : Under start pos
  others : ∀ (p c : Nat) (hc : c < n) (h : Child p c), start ≤ p → c ≠ pos →
    haveI : p < n := Nat.lt_trans h.lt hc
    key xs[p] ≤ key xs[c]
  grand : Grand key start xs pos

/-- All is in order but the item at `pos`, over its children and under its parent. -/
structure DownReady (start : Nat) (xs : Vector α n) (pos : Nat) : Prop where
  under : Under start pos
  others : ∀ (p c : Nat) (hc : c < n) (h : Child p c), start ≤ p → p ≠ pos → c ≠ pos →
    haveI : p < n := Nat.lt_trans h.lt hc
    key xs[p] ≤ key xs[c]
  grand : Grand key start xs pos

section Sift
variable {key} {start pos : Nat} {xs : Vector α n}

/-- The item is not less than its parent. -/
theorem UpReady.ordered (hs : UpReady key start xs pos) (hpos : pos < n) (hstart : start < pos)
    (hle : key xs[(pos - 1) / 2] ≤ key xs[pos]) : Ordered key start xs := by
  intro p c hc h hp
  by_cases hcpos : c = pos
  · subst hcpos
    obtain rfl := h.parent_eq
    exact hle
  · exact hs.others p c hc h hp hcpos

/-- The item has arrived at the top. -/
theorem UpReady.ordered_top (hs : UpReady key start xs pos) (hstart : ¬ start < pos) :
    Ordered key start xs := by
  intro p c hc h hp
  have hlt := h.lt
  exact hs.others p c hc h hp (by omega)

/-- The item swaps places with its parent. -/
theorem UpReady.swap (hs : UpReady key start xs pos) {q : Nat} (hpos : pos < n)
    (hstart : start < pos) (hq : q < n) (hparent : Child q pos) (hless : key xs[pos] < key xs[q]) :
    UpReady key start (xs.swap pos q) q := by
  have hunder : Under start q := hparent.parent_eq ▸ hs.under.parent hstart
  have hqpos := hparent.lt
  refine ⟨hunder, ?_, ?_⟩
  · intro p c hc h hp hcq
    have hpc := h.lt
    by_cases hcpos : c = pos
    · -- the old parent, now under the item
      subst hcpos
      obtain rfl : p = q := by rw [← h.parent_eq, hparent.parent_eq]
      simp only [Vector.getElem_swap_left, Vector.getElem_swap_right]
      exact le_of_lt hless
    · rw [Vector.getElem_swap_of_ne hcpos hcq]
      by_cases hpq : p = q
      · -- the other child of the old parent
        subst hpq
        rw [Vector.getElem_swap_right]
        exact le_trans (le_of_lt hless) (hs.others p c hc h hp hcpos)
      · by_cases hppos : p = pos
        · -- a child of the item, now under the old parent
          subst hppos
          rw [Vector.getElem_swap_left]
          exact hs.grand q c hc hparent h hunder.le
        · rw [Vector.getElem_swap_of_ne hppos hpq]
          exact hs.others p c hc h hp hcpos
  · intro p c hc h h' hp
    have hpq := h.lt
    have hqc := h'.lt
    rw [Vector.getElem_swap_of_ne (by omega) (by omega)]
    have hgrand := hs.others p q (by omega) h hp (by omega)
    by_cases hcpos : c = pos
    · subst hcpos
      rw [Vector.getElem_swap_left]
      exact hgrand
    · rw [Vector.getElem_swap_of_ne hcpos (by omega)]
      exact le_trans hgrand (hs.others q c hc h' hunder.le hcpos)

theorem siftdown_ordered (hs : UpReady key start xs pos) (hpos : pos < n) :
    Ordered key start (siftdown key start xs pos hpos) := by
  fun_induction siftdown key start xs pos hpos with
  | case1 xs pos hpos hstart hless ih =>
    exact ih (hs.swap hpos hstart _ (child_parent (Nat.zero_lt_of_lt hstart)) hless)
  | case2 xs pos hpos hstart hless => exact hs.ordered hpos hstart (not_lt.mp hless)
  | case3 xs pos hpos hstart => exact hs.ordered_top hstart

/-- The item has arrived at a leaf. -/
theorem DownReady.leaf (hs : DownReady key start xs pos) (hleaf : ¬ 2 * pos + 1 < n) :
    UpReady key start xs pos := by
  refine ⟨hs.under, ?_, hs.grand⟩
  intro p c hc h hp hcpos
  refine hs.others p c hc h hp ?_ hcpos
  rintro rfl
  unfold Child at h
  omega

/-- The item swaps places with its least child. -/
theorem DownReady.swap (hs : DownReady key start xs pos) {m : Nat} (hpos : pos < n) (hmn : m < n)
    (hm : Child pos m) (hmin : ∀ c (hc : c < n), Child pos c → key xs[m] ≤ key xs[c]) :
    DownReady key start (xs.swap pos m) m := by
  have hposm := hm.lt
  refine ⟨.child hs.under hm, ?_, ?_⟩
  · intro p c hc h hp hpm hcm
    have hpc := h.lt
    by_cases hppos : p = pos
    · -- the other child, now under the smaller one
      subst hppos
      rw [Vector.getElem_swap_left, Vector.getElem_swap_of_ne (by omega) hcm]
      exact hmin c hc h
    · rw [Vector.getElem_swap_of_ne hppos hpm]
      by_cases hcpos : c = pos
      · subst hcpos
        rw [Vector.getElem_swap_left]
        exact hs.grand p m hmn h hm hp
      · rw [Vector.getElem_swap_of_ne hcpos hcm]
        exact hs.others p c hc h hp hppos hcpos
  · intro p c hc h h' hp
    have hmc := h'.lt
    obtain rfl : p = pos := by rw [← h.parent_eq, hm.parent_eq]
    rw [Vector.getElem_swap_left, Vector.getElem_swap_of_ne (by omega) (by omega)]
    exact hs.others m c hc h' (by omega) (by omega) (by omega)

theorem descend_ready (hs : DownReady key start xs pos) (hpos : pos < n) :
    UpReady key start (descend key xs pos hpos).1 (descend key xs pos hpos).2 := by
  fun_induction descend key xs pos hpos with
  | case1 xs pos hpos hchild ih =>
    exact ih (hs.swap hpos _ (smallerChild_child key xs pos hchild) fun _ hc h =>
      smallerChild_le key xs hchild hc h)
  | case2 xs pos hpos hchild => exact hs.leaf hchild

/-- An item at the top of what is in order. -/
theorem Ordered.ready (hs : Ordered key (pos + 1) xs) : DownReady key pos xs pos where
  under := .root
  others p c hc h hp hppos hcpos := hs p c hc h (by omega)
  grand p c hc h h' hp := absurd h.lt (Nat.not_lt.mpr hp)

theorem siftup_ordered (hs : Ordered key (pos + 1) xs) (hpos : pos < n) :
    Ordered key pos (siftup key xs pos hpos) :=
  siftdown_ordered (descend_ready hs.ready hpos) _

theorem heapifyFrom_ordered {count : Nat} (hs : Ordered key count xs) (hcount : count ≤ n) :
    Ordered key 0 (heapifyFrom key xs count hcount) := by
  induction count generalizing xs with
  | zero => exact hs
  | succ pos ih => exact ih (siftup_ordered hs hcount) _

end Sift

/-- The heap invariant. -/
def IsHeap (heap : Array α) : Prop := Ordered key 0 (⟨heap, rfl⟩ : Vector α heap.size)

section Heap
variable {key}

theorem Ordered.isHeap {xs : Vector α n} (hs : Ordered key 0 xs) : IsHeap key xs.toArray := by
  obtain ⟨heap, rfl⟩ := xs
  exact hs

theorem isHeap_empty : IsHeap key #[] := fun _ _ hc => absurd hc (Nat.not_lt_zero _)

/-- The first item is a least one. -/
theorem IsHeap.root_le {heap : Array α} (hs : IsHeap key heap) {i : Nat} (hi : i < heap.size) :
    key heap[0] ≤ key heap[i] := by
  induction i using Nat.strongRecOn with
  | ind i ih =>
    rcases Nat.eq_zero_or_pos i with rfl | hpos
    · exact le_refl _
    · have hparent := child_parent hpos
      exact le_trans (ih _ hparent.lt (Nat.lt_trans hparent.lt hi))
        (hs _ i hi hparent (Nat.zero_le _))

/-- A new item at the end waits to be sifted up. -/
theorem IsHeap.push_ready {heap : Array α} (hs : IsHeap key heap) (item : α) :
    UpReady key 0 ((⟨heap, rfl⟩ : Vector α heap.size).push item) heap.size where
  under := under_zero _
  others p c hc h hp hcpos := by
    have hpc := h.lt
    rw [Vector.getElem_push_lt (by omega), Vector.getElem_push_lt (by omega)]
    exact hs p c (by omega) h hp
  grand p c hc h h' hp := by
    have hlt := h'.lt
    omega

theorem heappush_isHeap {heap : Array α} (hs : IsHeap key heap) (item : α) :
    IsHeap key (heappush key heap item) :=
  (siftdown_ordered (hs.push_ready item) _).isHeap

theorem heappush_perm (heap : Array α) (item : α) :
    (heappush key heap item).toList.Perm (item :: heap.toList) := by
  refine (siftdown_perm key 0 _ _ _).trans ?_
  simp

theorem size_heappush (heap : Array α) (item : α) :
    (heappush key heap item).size = heap.size + 1 :=
  (heappush_perm heap item).length_eq

theorem heapify_isHeap (heap : Array α) : IsHeap key (heapify key heap) := by
  refine (heapifyFrom_ordered ?_ _).isHeap
  intro p c hc h hp
  unfold Child at h
  omega

theorem heapify_perm (heap : Array α) : (heapify key heap).toList.Perm heap.toList :=
  heapifyFrom_perm key _ _ _

theorem size_heapify (heap : Array α) : (heapify key heap).size = heap.size :=
  (heapify_perm heap).length_eq

theorem heappop_eq_none {heap : Array α} : heappop key heap = none ↔ heap = #[] := by
  unfold heappop
  constructor
  · intro h
    split at h
    · split at h <;> cases h
    · next hempty => exact Array.eq_empty_of_size_eq_zero (by omega)
  · rintro rfl
    rfl

/-- Taking the last item off leaves the pairs of the others as they are. -/
theorem IsHeap.pop_ordered {heap : Array α} (hs : IsHeap key heap) (hrest : 0 < heap.pop.size)
    (last : α) :
    Ordered key (0 + 1) ((⟨heap.pop, rfl⟩ : Vector α heap.pop.size).set 0 last) := by
  intro p c hc h hp
  have hpc := h.lt
  have hsize : c < heap.size := by
    rw [Array.size_pop] at hc
    omega
  rw [Vector.getElem_set_ne _ _ (by omega), Vector.getElem_set_ne _ _ (by omega)]
  simp only [Vector.getElem_mk, Array.getElem_pop]
  exact hs p c hsize h (Nat.zero_le _)

/-- What `heappop` returns is a least item, and the heap is left with the others. -/
theorem heappop_spec {heap rest : Array α} {item : α} (hs : IsHeap key heap)
    (h : heappop key heap = some (item, rest)) :
    heap.toList.Perm (item :: rest.toList) ∧ IsHeap key rest ∧
      ∀ other ∈ heap.toList, key item ≤ key other := by
  unfold heappop at h
  obtain ⟨hempty, h⟩ := Option.dite_none_right_eq_some.mp h
  have hlast : heap.toList = heap.pop.toList ++ [heap.back hempty] := by
    have hne : heap.toList ≠ [] := List.ne_nil_of_length_pos hempty
    rw [Array.toList_pop, Array.back_eq_getElem, ← Array.getElem_toList]
    exact (List.dropLast_append_getLast hne).symm.trans (by rw [List.getLast_eq_getElem]; rfl)
  have hleast : ∀ other ∈ heap.toList, key heap[0] ≤ key other := by
    intro other hother
    obtain ⟨i, hi, rfl⟩ := List.getElem_of_mem hother
    exact hs.root_le hi
  split at h
  · next hrest =>
    obtain ⟨rfl, rfl⟩ := Prod.mk.inj (Option.some.inj h)
    refine ⟨?_, (siftup_ordered (hs.pop_ordered hrest _) hrest).isHeap, ?_⟩
    · obtain ⟨first, tail, hcons⟩ : ∃ first tail, heap.pop.toList = first :: tail :=
        List.exists_cons_of_length_pos hrest
      have hfirst : heap.pop[0] = first := by
        rw [← Array.getElem_toList]
        simp only [hcons, List.getElem_cons_zero]
      have hset : ((⟨heap.pop, rfl⟩ : Vector α heap.pop.size).set 0 (heap.back hempty)).toList =
          heap.back hempty :: tail := by
        rw [Vector.toList_set]
        change heap.pop.toList.set 0 _ = _
        rw [hcons, List.set_cons_zero]
      have hsifted := siftup_perm key
        ((⟨heap.pop, rfl⟩ : Vector α heap.pop.size).set 0 (heap.back hempty)) 0 hrest
      rw [hset] at hsifted
      rw [hfirst, hlast, hcons, List.cons_append]
      exact ((List.perm_append_singleton _ _).trans hsifted.symm).cons first
    · rw [Array.getElem_pop]
      exact hleast
  · next hrest =>
    obtain ⟨rfl, rfl⟩ := Prod.mk.inj (Option.some.inj h)
    have hnone : heap.pop = #[] := Array.eq_empty_of_size_eq_zero (Nat.eq_zero_of_not_pos hrest)
    rw [hnone] at hlast ⊢
    refine ⟨by rw [hlast]; rfl, isHeap_empty, ?_⟩
    rw [hlast]
    intro other hother
    rw [List.mem_singleton.mp hother]

theorem size_heappop {heap rest : Array α} {item : α} (hs : IsHeap key heap)
    (h : heappop key heap = some (item, rest)) : heap.size = rest.size + 1 :=
  (heappop_spec hs h).1.length_eq

end Heap

end EdgeSafety.Heapq
