import Mathlib.Algebra.BigOperators.Group.List.Basic
import Mathlib.Analysis.Convex.Segment
import Mathlib.Data.List.Rotate
import Mathlib.Tactic.FieldSimp
import Mathlib.Tactic.Linarith
import Mathlib.Tactic.Ring

/-!
# Rings of points

A ring is a list of points of which the last is joined with the first. Its edges are those of every
rotation of it (`edges_rotate`) and, the other way round, of its reverse (`edges_reverse`); going
round, a property of points changes an even number of times (`changes_even`). A ring is `Simple` if
its edges meet only where one ends and the next begins, which no scaling of the axes changes.
-/

namespace EdgeSafety.PointRing

section Edges
variable {α β : Type}

/-- One element of a list has a property, and no other has. -/
theorem countP_eq_one {xs : List α} {p : α → Bool} {i : Nat} {a : α} (hi : xs[i]? = some a)
    (ha : p a = true) (hothers : ∀ k b, k ≠ i → xs[k]? = some b → p b = false) :
    xs.countP p = 1 := by
  induction xs generalizing i with
  | nil => cases hi
  | cons x xs ih =>
    rw [List.countP_cons]
    cases i with
    | zero =>
      obtain rfl : x = a := Option.some.inj hi
      have hrest : xs.countP p = 0 := by
        rw [List.countP_eq_zero]
        intro b hb
        obtain ⟨k, hk⟩ := List.getElem?_of_mem hb
        simpa using hothers (k + 1) b (Nat.succ_ne_zero k) hk
      rw [hrest, if_pos ha]
    | succ i =>
      have hx : p x = false := hothers 0 x (Nat.succ_ne_zero i).symm rfl
      have hrest := ih hi fun k b hk hb => hothers (k + 1) b (by omega) hb
      rw [hrest, hx]
      rfl

theorem zip_rotate {xs : List α} {ys : List β} (h : xs.length = ys.length) (n : Nat) :
    (xs.zip ys).rotate n = (xs.rotate n).zip (ys.rotate n) :=
  List.zipWith_rotate_distrib Prod.mk xs ys n h

theorem reverse_zip {xs : List α} {ys : List β} (h : xs.length = ys.length) :
    (xs.zip ys).reverse = xs.reverse.zip ys.reverse :=
  List.reverse_zipWith h

/-- The pairs of a point and the next one. -/
def edges (ring : List α) : List (α × α) := ring.zip (ring.tail ++ ring.take 1)

theorem tail_append_take (ring : List α) : ring.tail ++ ring.take 1 = ring.rotate 1 := by
  cases ring with
  | nil => rfl
  | cons p ring => simp

theorem edges_eq_zip_rotate (ring : List α) : edges ring = ring.zip (ring.rotate 1) := by
  rw [edges, tail_append_take]

theorem edges_map (f : α → β) (ring : List α) :
    edges (ring.map f) = (edges ring).map (Prod.map f f) := by
  rw [edges_eq_zip_rotate, edges_eq_zip_rotate, ← List.map_rotate, List.zip_map]

theorem mem_of_mem_edges {ring : List α} {e : α × α} (h : e ∈ edges ring) :
    e.1 ∈ ring ∧ e.2 ∈ ring := by
  rw [edges_eq_zip_rotate] at h
  obtain ⟨hfirst, hsecond⟩ := List.of_mem_zip h
  exact ⟨hfirst, List.mem_rotate.mp hsecond⟩

theorem getElem?_edges {ring : List α} {i : Nat} {e : α × α} :
    (edges ring)[i]? = some e ↔
      ring[i]? = some e.1 ∧ ring[(i + 1) % ring.length]? = some e.2 := by
  rw [edges_eq_zip_rotate, List.getElem?_zip_eq_some]
  by_cases h : i < ring.length
  · rw [List.getElem?_rotate h]
  · rw [List.getElem?_eq_none (Nat.le_of_not_lt h)]
    simp

/-- An edge begins at each point. -/
theorem exists_edge_from {ring : List α} {a : α} (h : a ∈ ring) :
    ∃ e ∈ edges ring, e.1 = a := by
  have hfirst : (edges ring).map Prod.fst = ring := by
    rw [edges_eq_zip_rotate, List.map_fst_zip (List.length_rotate ring 1).ge]
  rw [← hfirst] at h
  simpa using h

/-- An edge ends at each point. -/
theorem exists_edge_to {ring : List α} {a : α} (h : a ∈ ring) : ∃ e ∈ edges ring, e.2 = a := by
  have hsecond : (edges ring).map Prod.snd = ring.rotate 1 := by
    rw [edges_eq_zip_rotate, List.map_snd_zip (List.length_rotate ring 1).le]
  rw [← List.mem_rotate (n := 1), ← hsecond] at h
  simpa using h

theorem edges_rotate (ring : List α) (n : Nat) :
    edges (ring.rotate n) = (edges ring).rotate n := by
  have hlength : ring.length = (ring.rotate 1).length := (List.length_rotate ring 1).symm
  rw [edges_eq_zip_rotate, edges_eq_zip_rotate, List.rotate_rotate, Nat.add_comm n 1,
    ← List.rotate_rotate, zip_rotate hlength]

/-- The edges of the reversed ring are those of the ring, each the other way round. -/
theorem edges_reverse (ring : List α) :
    (edges ring.reverse).Perm ((edges ring).map Prod.swap) := by
  match ring with
  | [] => exact .refl _
  | [p] => exact .refl _
  | p :: q :: ring =>
    set points := p :: q :: ring with hpoints
    have hpos : 1 < points.length := by simp [hpoints]
    have hmod : 1 % points.length = 1 := Nat.mod_eq_of_lt hpos
    have hlength : (points.rotate 1).length = points.length := List.length_rotate points 1
    have hback : (points.rotate 1).rotate (points.length - 1) = points := by
      rw [List.rotate_rotate, Nat.add_sub_cancel' hpos.le, List.rotate_length]
    have hzip : points.zip (points.rotate (points.length - 1)) =
        ((points.rotate 1).zip points).rotate (points.length - 1) := by
      conv_lhs => rw [← hback]
      rw [zip_rotate hlength, hback]
    have hreverse : edges points.reverse =
        (points.zip (points.rotate (points.length - 1))).reverse := by
      rw [edges_eq_zip_rotate, List.rotate_reverse, hmod,
        reverse_zip (List.length_rotate points _).symm]
    rw [hreverse, hzip, edges_eq_zip_rotate, List.zip_swap]
    exact (List.reverse_perm _).trans (List.rotate_perm _ _)

/-- The pairs of a point and the one before it, where `last` comes before the first. -/
def incoming (last : α) (ring : List α) : List (α × α) := (last :: ring).zip ring

@[simp]
theorem incoming_cons (last p : α) (ring : List α) :
    incoming last (p :: ring) = (last, p) :: incoming p ring := rfl

/-- Every edge comes into one of the points. -/
theorem incoming_perm_edges {ring : List α} {last : α} (h : ring.getLast? = some last) :
    (incoming last ring).Perm (edges ring) := by
  obtain ⟨init, rfl⟩ := List.getLast?_eq_some_iff.mp h
  have hrotate : (init ++ [last]).rotate init.length = last :: init := by
    rw [List.rotate_append_length_eq]
    rfl
  have hnext : (init ++ [last]).rotate (init.length + 1) = init ++ [last] := by
    have hfull := List.rotate_length (init ++ [last])
    rwa [List.length_append, List.length_singleton] at hfull
  have hincoming :
      incoming last (init ++ [last]) = (edges (init ++ [last])).rotate init.length := by
    rw [← edges_rotate, edges_eq_zip_rotate, List.rotate_rotate, hrotate, hnext, incoming]
    have htake : (last :: (init ++ [last])) = (last :: init) ++ [last] := rfl
    have hlength : (last :: init).length = (init ++ [last]).length := by simp
    conv_lhs => rw [htake, ← List.append_nil (init ++ [last])]
    rw [List.zip_append hlength, List.zip_nil_right, List.append_nil]
  rw [hincoming]
  exact List.rotate_perm _ _

/-- A property changes an even number of times between two points that agree in it. -/
theorem even_countP_changes (p : α → Bool) (first last : α) (points : List α) :
    Even (((first :: points).zip (points ++ [last])).countP fun e => p e.1 != p e.2) ↔
      p first = p last := by
  induction points generalizing first with
  | nil => cases hfirst : p first <;> cases hlast : p last <;> simp [hfirst, hlast]
  | cons q points ih =>
    rw [List.cons_append, List.zip_cons_cons, List.countP_cons]
    by_cases hstep : p first = p q
    · simp only [hstep, bne_self_eq_false, Bool.false_eq_true, if_false, Nat.add_zero]
      exact ih q
    · have hne : (p first != p q) = true := by simpa using hstep
      simp only [hne, if_true, Nat.even_add_one, ih q]
      cases hfirst : p first <;> cases hq : p q <;> cases hlast : p last <;> simp_all

/-- Going round a ring, a property of its points changes an even number of times. -/
theorem changes_even (p : α → Bool) (ring : List α) :
    Even ((edges ring).countP fun e => p e.1 != p e.2) := by
  cases ring with
  | nil => exact Even.zero
  | cons first ring => exact (even_countP_changes p first first ring).mpr rfl

/-- Going from a point without a property to one with it, there is a step where it begins. -/
theorem exists_rising_step {p : α → Bool} (first last : α) (points : List α)
    (hfirst : p first = false) (hsome : ∃ q ∈ points, p q = true) :
    ∃ e ∈ (first :: points).zip (points ++ [last]), p e.1 = false ∧ p e.2 = true := by
  induction points generalizing first with
  | nil => simp at hsome
  | cons q points ih =>
    rw [List.cons_append, List.zip_cons_cons]
    cases hq : p q with
    | true => exact ⟨(first, q), List.mem_cons_self, hfirst, hq⟩
    | false =>
      obtain ⟨r, hr, hrIs⟩ := hsome
      have hrest : r ∈ points := by
        rcases List.mem_cons.mp hr with rfl | hr
        · rw [hq] at hrIs
          cases hrIs
        · exact hr
      obtain ⟨e, he, hrising⟩ := ih q hq ⟨r, hrest, hrIs⟩
      exact ⟨e, List.mem_cons_of_mem _ he, hrising⟩

/-- The same going round: a ring with points of both kinds has such an edge. -/
theorem exists_rising {p : α → Bool} {ring : List α} {low high : α} (hlow : low ∈ ring)
    (hlowNot : p low = false) (hhigh : high ∈ ring) (hhighIs : p high = true) :
    ∃ e ∈ edges ring, p e.1 = false ∧ p e.2 = true := by
  obtain ⟨before, after, rfl⟩ := List.append_of_mem hlow
  have hrotate : (before ++ low :: after).rotate before.length = low :: (after ++ before) := by
    rw [List.rotate_append_length_eq]
    rfl
  have hedges : (edges (low :: (after ++ before))).Perm (edges (before ++ low :: after)) := by
    rw [← hrotate, edges_rotate]
    exact List.rotate_perm _ _
  have hrest : high ∈ after ++ before := by
    have hne : high ≠ low := fun heq => by
      rw [heq, hlowNot] at hhighIs
      cases hhighIs
    simpa [hne, or_comm] using hhigh
  obtain ⟨e, he, hrising⟩ :=
    exists_rising_step low low (after ++ before) hlowNot ⟨high, hrest, hhighIs⟩
  exact ⟨e, hedges.mem_iff.mp he, hrising⟩

end Edges

section Plane
variable {K : Type} [Field K]

/-- The sum of the cross products of the edges: twice the area that the ring encloses, with the sign
of the way round. -/
def shoelace (ring : List (K × K)) : K :=
  ((edges ring).map fun e => e.1.1 * e.2.2 - e.2.1 * e.1.2).sum

/-- A point with its coordinates multiplied. -/
def scale (w h : K) (p : K × K) : K × K := (p.1 * w, p.2 * h)

theorem shoelace_scale (w h : K) (ring : List (K × K)) :
    shoelace (ring.map (scale w h)) = w * h * shoelace ring := by
  unfold shoelace
  rw [edges_map, List.map_map, ← List.sum_map_mul_left]
  congr 1
  apply List.map_congr_left
  rintro ⟨p, q⟩ -
  simp only [Function.comp_apply, Prod.map_apply, scale]
  ring

section Scaling
variable {w h : K}

theorem scale_injective (hw : w ≠ 0) (hh : h ≠ 0) : Function.Injective (scale w h) := by
  rintro ⟨x, y⟩ ⟨x', y'⟩ heq
  obtain ⟨hx, hy⟩ := Prod.mk.inj heq
  exact Prod.ext (mul_left_injective₀ hw hx) (mul_left_injective₀ hh hy)

theorem scale_surjective (hw : w ≠ 0) (hh : h ≠ 0) : Function.Surjective (scale w h) := by
  rintro ⟨x, y⟩
  exact ⟨(x / w, y / h), Prod.ext (div_mul_cancel₀ x hw) (div_mul_cancel₀ y hh)⟩

variable [LinearOrder K]

theorem scale_mem_segment (hw : w ≠ 0) (hh : h ≠ 0) {p a b : K × K} :
    scale w h p ∈ segment K (scale w h a) (scale w h b) ↔ p ∈ segment K a b := by
  have hcombination (s t : K) :
      s • scale w h a + t • scale w h b = scale w h (s • a + t • b) := by
    apply Prod.ext
    · simp only [scale, Prod.fst_add, Prod.smul_fst, smul_eq_mul]
      ring
    · simp only [scale, Prod.snd_add, Prod.smul_snd, smul_eq_mul]
      ring
  constructor
  · rintro ⟨s, t, hs, ht, hsum, hp⟩
    rw [hcombination] at hp
    exact ⟨s, t, hs, ht, hsum, scale_injective hw hh hp⟩
  · rintro ⟨s, t, hs, ht, hsum, rfl⟩
    exact ⟨s, t, hs, ht, hsum, hcombination s t⟩

end Scaling

variable [LinearOrder K]

/-- The area that the ring encloses, if it does not cross itself. -/
def enclosed (ring : List (K × K)) : K := |shoelace ring| / (2 : Nat)

/-- The edges that lead somewhere: a point that is repeated makes none. -/
def properEdges (ring : List (K × K)) : List ((K × K) × (K × K)) :=
  (edges ring).filter fun e => e.1 ≠ e.2

/-- Of `n` edges, the `i`-th and the `j`-th meet only where one ends and the other begins. -/
def MeetAtEnds (n i j : Nat) (e f : (K × K) × (K × K)) : Prop :=
  ∀ p, p ∈ segment K e.1 e.2 → p ∈ segment K f.1 f.2 →
    (i + 1 = j ∧ p = f.1) ∨ (i = 0 ∧ j + 1 = n ∧ p = e.1)

/-- The ring does not cross or touch itself. -/
def Simple (ring : List (K × K)) : Prop :=
  3 ≤ (properEdges ring).length ∧
    ∀ i j, i < j → ∀ e f, (properEdges ring)[i]? = some e → (properEdges ring)[j]? = some f →
      MeetAtEnds (properEdges ring).length i j e f

variable {w h : K}

theorem properEdges_scale (hw : w ≠ 0) (hh : h ≠ 0) (ring : List (K × K)) :
    properEdges (ring.map (scale w h)) =
      (properEdges ring).map (Prod.map (scale w h) (scale w h)) := by
  unfold properEdges
  rw [edges_map, List.filter_map]
  congr 1
  apply List.filter_congr
  rintro ⟨p, q⟩ -
  simp only [Function.comp_apply, Prod.map_apply, ne_eq, (scale_injective hw hh).eq_iff]

theorem meetAtEnds_scale (hw : w ≠ 0) (hh : h ≠ 0) {n i j : Nat} {e f : (K × K) × (K × K)} :
    MeetAtEnds n i j (Prod.map (scale w h) (scale w h) e) (Prod.map (scale w h) (scale w h) f) ↔
      MeetAtEnds n i j e f := by
  unfold MeetAtEnds
  rw [(scale_surjective hw hh).forall]
  apply forall_congr'
  intro p
  simp only [Prod.map_fst, Prod.map_snd, scale_mem_segment hw hh,
    (scale_injective hw hh).eq_iff]

/-- Scaling the axes makes no edges meet and none come apart. -/
theorem simple_scale (hw : w ≠ 0) (hh : h ≠ 0) {ring : List (K × K)} :
    Simple (ring.map (scale w h)) ↔ Simple ring := by
  unfold Simple
  rw [properEdges_scale hw hh, List.length_map]
  apply and_congr_right
  intro _
  simp only [List.getElem?_map, Option.map_eq_some_iff]
  constructor
  · intro hall i j hij e f he hf
    exact (meetAtEnds_scale hw hh).mp (hall i j hij _ _ ⟨e, he, rfl⟩ ⟨f, hf, rfl⟩)
  · rintro hall i j hij _ _ ⟨e, he, rfl⟩ ⟨f, hf, rfl⟩
    exact (meetAtEnds_scale hw hh).mpr (hall i j hij e f he hf)

end Plane

end EdgeSafety.PointRing
