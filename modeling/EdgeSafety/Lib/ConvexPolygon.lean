import EdgeSafety.Lib.RayCasting
import Mathlib.Analysis.Convex.Hull
import Mathlib.Analysis.Convex.Join

/-!
# Rays and convex polygons

Ray casting decides strictly convex polygons. Off the edges only points of the convex hull are
inside (`mem_convexHull_of_odd`): a ray that crosses an odd number of edges leaves some that its
height crosses on the other side of the point. All of the hull is inside
(`inside_of_mem_convexHull`): at each height one edge leads up, and to its left one leads down.
-/

namespace EdgeSafety.RayCasting

open PointRing

variable {K : Type} [Field K] [LinearOrder K] [IsStrictOrderedRing K]

/-- The points of a ring. -/
def vertices (ring : List (K × K)) : Set (K × K) := { v | v ∈ ring }

/-- The edge begins at a height or below it, and ends above it. -/
def Upward (y : K) (e : (K × K) × (K × K)) : Prop := e.1.2 ≤ y ∧ y < e.2.2

instance (y : K) : DecidablePred (Upward y) := fun _ => inferInstanceAs (Decidable (_ ∧ _))

section Edge
variable {y : K} {p : K × K} {e : (K × K) × (K × K)}

omit [Field K] [IsStrictOrderedRing K] in
theorem straddles_iff : Straddles y e ↔ Upward y e ∨ Upward y e.swap := by
  unfold Straddles Upward
  rw [Prod.fst_swap, Prod.snd_swap]
  by_cases hfirst : y < e.1.2 <;> by_cases hsecond : y < e.2.2 <;>
    simp [hfirst, hsecond, not_le.mpr, not_lt.mp]

/-- An edge that straddles a height has a point there. -/
theorem atHeight_mem_segment (h : Straddles y e) : (atHeight y e, y) ∈ segment K e.1 e.2 := by
  obtain ⟨a, b⟩ := e
  have hne : b.2 - a.2 ≠ 0 := sub_ne_zero.mpr h.ne.symm
  have hfraction : 0 ≤ (y - a.2) / (b.2 - a.2) ∧ (y - a.2) / (b.2 - a.2) ≤ 1 := by
    rcases straddles_iff.mp h with ⟨hle, hlt⟩ | ⟨hle, hlt⟩
    · have hpos : 0 < b.2 - a.2 := sub_pos.mpr (hle.trans_lt hlt)
      exact ⟨div_nonneg (sub_nonneg.mpr hle) hpos.le,
        (div_le_one hpos).mpr (sub_le_sub_right hlt.le _)⟩
    · have hneg : b.2 - a.2 < 0 := sub_neg.mpr (hle.trans_lt hlt)
      exact ⟨div_nonneg_of_nonpos (sub_nonpos.mpr hlt.le) hneg.le,
        (div_le_one_of_neg hneg).mpr (sub_le_sub_right hle _)⟩
  refine ⟨1 - (y - a.2) / (b.2 - a.2), (y - a.2) / (b.2 - a.2), sub_nonneg.mpr hfraction.2,
    hfraction.1, sub_add_cancel _ _, Prod.ext ?_ ?_⟩
  · simp only [atHeight, Prod.fst_add, Prod.smul_fst, smul_eq_mul]
    field_simp
    ring
  · simp only [Prod.snd_add, Prod.smul_snd, smul_eq_mul]
    field_simp
    ring

/-- The ray from a point to the left of an edge crosses it if it leads up. -/
theorem crosses_of_left (h : 0 < cross e.1 e.2 p) : Crosses p e ↔ Upward p.2 e := by
  unfold Crosses
  constructor
  · rintro ⟨hstraddles, hright⟩
    rcases straddles_iff.mp hstraddles with hup | ⟨hle, hlt⟩
    · exact hup
    · have hdown : e.2.2 - e.1.2 < 0 := sub_neg.mpr (hle.trans_lt hlt)
      have hproduct := mul_neg_of_pos_of_neg (sub_pos.mpr hright) hdown
      rw [← cross_eq_atHeight hstraddles.ne] at hproduct
      exact absurd h hproduct.not_gt
  · intro hup
    have hstraddles : Straddles p.2 e := straddles_iff.mpr (.inl hup)
    rw [cross_eq_atHeight hstraddles.ne] at h
    exact ⟨hstraddles, sub_pos.mp (pos_of_mul_pos_left h (sub_pos.mpr (hup.1.trans_lt hup.2)).le)⟩

theorem convex_cross_nonneg (a b : K × K) : Convex K { q | 0 ≤ cross a b q } := by
  intro q hq r hr s t hs ht hsum
  rw [Set.mem_ofPred_eq, cross_combination a b q r hsum]
  exact add_nonneg (mul_nonneg hs hq) (mul_nonneg ht hr)

theorem convex_cross_pos (a b : K × K) : Convex K { q | 0 < cross a b q } := by
  intro q hq r hr s t hs ht hsum
  rw [Set.mem_ofPred_eq, cross_combination a b q r hsum]
  rcases hs.eq_or_lt with rfl | hs
  · rw [zero_add] at hsum
    rw [hsum, zero_mul, zero_add, one_mul]
    exact hr
  · exact add_pos_of_pos_of_nonneg (mul_pos hs hq) (mul_nonneg ht (le_of_lt hr))

end Edge

/-- Where an edge of a ring crosses a height is in the polygon. -/
theorem atHeight_mem_convexHull {ring : List (K × K)} {y : K} {e : (K × K) × (K × K)}
    (he : e ∈ edges ring) (h : Straddles y e) :
    (atHeight y e, y) ∈ convexHull K (vertices ring) := by
  obtain ⟨hfirst, hsecond⟩ := mem_of_mem_edges he
  exact segment_subset_convexHull (s := vertices ring) hfirst hsecond (atHeight_mem_segment h)

omit [Field K] [IsStrictOrderedRing K] in
/-- The edges that straddle a height are even in number. -/
theorem even_countP_straddles (ring : List (K × K)) (y : K) :
    Even ((edges ring).countP (Straddles y)) := by
  have hchanges := changes_even (fun q : K × K => decide (y < q.2)) ring
  convert hchanges using 1
  apply List.countP_congr
  intro e _
  rw [decide_eq_true_iff, bne_iff_ne, ne_eq, decide_eq_decide]
  exact Iff.rfl

/-- A point from which a ray crosses an odd number of edges has some on both sides. -/
theorem mem_convexHull_of_odd {p : K × K} {ring : List (K × K)}
    (h : Odd ((edges ring).countP (Crosses p))) : p ∈ convexHull K (vertices ring) := by
  obtain ⟨right, hright, hcrosses⟩ : ∃ e ∈ edges ring, Crosses p e := by
    simpa using List.countP_pos_iff.mp h.pos
  obtain ⟨left, hleft, hstraddles, hbehind⟩ :
      ∃ e ∈ edges ring, Straddles p.2 e ∧ ¬ Crosses p e := by
    by_contra hall
    push Not at hall
    have hsame : (edges ring).countP (Crosses p) = (edges ring).countP (Straddles p.2) := by
      apply List.countP_congr
      intro e he
      simpa using ⟨And.left, hall e he⟩
    rw [hsame] at h
    exact Nat.not_even_iff_odd.mpr h (even_countP_straddles ring p.2)
  have hbetween : p ∈ segment K (atHeight p.2 left, p.2) (atHeight p.2 right, p.2) := by
    have hle : atHeight p.2 left ≤ p.1 := not_lt.mp fun hlt => hbehind ⟨hstraddles, hlt⟩
    rw [← Prod.image_mk_segment_left, segment_eq_Icc (hle.trans hcrosses.2.le)]
    exact ⟨p.1, ⟨hle, hcrosses.2.le⟩, rfl⟩
  exact (convex_convexHull K _).segment_subset (atHeight_mem_convexHull hleft hstraddles)
    (atHeight_mem_convexHull hright hcrosses.1) hbetween

section Left
variable {ring : List (K × K)} {p : K × K} (hp : p ∈ convexHull K (vertices ring))
include hp

omit [IsStrictOrderedRing K] in
/-- A convex set that has the heights of the vertices has those of all points of the polygon. -/
theorem height_mem (s : Set K) (hs : Convex K s) (hall : ∀ v ∈ ring, v.2 ∈ s) : p.2 ∈ s :=
  convexHull_min (t := Set.preimage Prod.snd s) hall
    (hs.linear_preimage (LinearMap.snd K K K)) hp

variable (hleft : ∀ e ∈ edges ring, 0 < cross e.1 e.2 p)
include hleft

/-- Some vertex is higher than a point of the polygon that is to the left of all edges. -/
theorem exists_higher : ∃ v ∈ ring, p.2 < v.2 := by
  by_contra hall
  push Not at hall
  -- a vertex that is as high as the point would have the point on both its sides
  obtain ⟨v, hv, hsame⟩ : ∃ v ∈ ring, v.2 = p.2 := by
    by_contra hne
    push Not at hne
    exact lt_irrefl p.2 (height_mem hp (Set.Iio p.2) (convex_Iio p.2) fun v hv =>
      (hall v hv).lt_of_ne (hne v hv))
  obtain ⟨⟨_, next⟩, hout, rfl⟩ := exists_edge_from hv
  obtain ⟨⟨before, v⟩, hin, rfl⟩ := exists_edge_to hv
  have hnext : 0 ≤ p.2 - next.2 := sub_nonneg.mpr (hall _ (mem_of_mem_edges hout).2)
  have hbefore : 0 ≤ p.2 - before.2 := sub_nonneg.mpr (hall _ (mem_of_mem_edges hin).1)
  have hsame : v.2 = p.2 := hsame
  have hlater : cross v next p = (p.1 - v.1) * (p.2 - next.2) := by
    rw [cross, hsame]
    ring
  have hearlier : cross before v p = (v.1 - p.1) * (p.2 - before.2) := by
    rw [cross, hsame]
    ring
  have hright := pos_of_mul_pos_left (hlater ▸ hleft _ hout) hnext
  have hleft := pos_of_mul_pos_left (hearlier ▸ hleft _ hin) hbefore
  linarith

/-- Some edge leads up at the height of a point of the polygon that is to the left of all edges. -/
theorem exists_upward : ∃ e ∈ edges ring, Upward p.2 e := by
  obtain ⟨low, hlow, hlowNot⟩ : ∃ v ∈ ring, v.2 ≤ p.2 := by
    by_contra hall
    push Not at hall
    exact lt_irrefl p.2 (height_mem hp (Set.Ioi p.2) (convex_Ioi p.2) hall)
  obtain ⟨high, hhigh, hhighIs⟩ := exists_higher hp hleft
  obtain ⟨e, he, hfirst, hsecond⟩ := exists_rising (p := fun q : K × K => decide (p.2 < q.2)) hlow
    (by simpa using hlowNot) hhigh (by simpa using hhighIs)
  exact ⟨e, he, by simpa using hfirst, by simpa using hsecond⟩

end Left

/-- All points but the two of an edge are to the left of it. -/
def TurnsLeft (ring : List (K × K)) : Prop :=
  ∀ i j a b c, j ≠ i → j ≠ (i + 1) % ring.length → ring[i]? = some a →
    ring[(i + 1) % ring.length]? = some b → ring[j]? = some c → 0 < cross a b c

/-- All points but the two of an edge are to the right of it. -/
def TurnsRight (ring : List (K × K)) : Prop :=
  ∀ i j a b c, j ≠ i → j ≠ (i + 1) % ring.length → ring[i]? = some a →
    ring[(i + 1) % ring.length]? = some b → ring[j]? = some c → cross a b c < 0

/-- The ring is a strictly convex polygon, with its points in order. -/
def StrictlyConvex (ring : List (K × K)) : Prop :=
  3 ≤ ring.length ∧ (TurnsLeft ring ∨ TurnsRight ring)

omit [Field K] [LinearOrder K] [IsStrictOrderedRing K] in
theorem exists_other {ring : List (K × K)} (h : 3 ≤ ring.length) (i : Nat) :
    ∃ j c, j ≠ i ∧ j ≠ (i + 1) % ring.length ∧ ring[j]? = some c := by
  obtain ⟨j, hj, hji, hjnext⟩ : ∃ j < ring.length, j ≠ i ∧ j ≠ (i + 1) % ring.length := by
    by_contra hall
    push Not at hall
    have hzero := hall 0 (by omega)
    have hone := hall 1 (by omega)
    have htwo := hall 2 (by omega)
    omega
  exact ⟨j, ring[j], hji, hjnext, List.getElem?_eq_getElem hj⟩

omit [Field K] [LinearOrder K] [IsStrictOrderedRing K] in
/-- A vertex is one of the two of an edge, or another. -/
theorem vertex_cases {ring : List (K × K)} {i j : Nat} {e : (K × K) × (K × K)} {c : K × K}
    (he : (edges ring)[i]? = some e) (hj : ring[j]? = some c) :
    c = e.1 ∨ c = e.2 ∨ j ≠ i ∧ j ≠ (i + 1) % ring.length := by
  obtain ⟨hfirst, hsecond⟩ := getElem?_edges.mp he
  by_cases hji : j = i
  · subst hji
    exact .inl (Option.some.inj (hj.symm.trans hfirst))
  · by_cases hjnext : j = (i + 1) % ring.length
    · subst hjnext
      exact .inr (.inl (Option.some.inj (hj.symm.trans hsecond)))
    · exact .inr (.inr ⟨hji, hjnext⟩)

section Convex
variable {ring : List (K × K)} (h : TurnsLeft ring) {i : Nat} {p : K × K} {e : (K × K) × (K × K)}
include h

theorem TurnsLeft.cross_nonneg (he : (edges ring)[i]? = some e)
    (hp : p ∈ convexHull K (vertices ring)) : 0 ≤ cross e.1 e.2 p := by
  have hvertices : vertices ring ⊆ { q | 0 ≤ cross e.1 e.2 q } := by
    intro c hc
    obtain ⟨j, hj⟩ := List.getElem?_of_mem hc
    rcases vertex_cases he hj with rfl | rfl | ⟨hji, hjnext⟩
    · exact (cross_left _ _).ge
    · exact (cross_right _ _).ge
    · obtain ⟨hfirst, hsecond⟩ := getElem?_edges.mp he
      exact (h i j _ _ _ hji hjnext hfirst hsecond hj).le
  exact convexHull_min hvertices (convex_cross_nonneg e.1 e.2) hp

omit [IsStrictOrderedRing K] in
theorem TurnsLeft.edge_ne (hlength : 3 ≤ ring.length) (he : (edges ring)[i]? = some e) :
    e.1 ≠ e.2 := by
  intro heq
  obtain ⟨hfirst, hsecond⟩ := getElem?_edges.mp he
  obtain ⟨j, c, hji, hjnext, hj⟩ := exists_other hlength i
  have hleft := h i j _ _ _ hji hjnext hfirst hsecond hj
  simp [cross, heq] at hleft

/-- A point of the polygon that is on the line of an edge is on the edge. -/
theorem TurnsLeft.mem_segment (hlength : 3 ≤ ring.length) (he : (edges ring)[i]? = some e)
    (hp : p ∈ convexHull K (vertices ring)) (hline : cross e.1 e.2 p = 0) :
    p ∈ segment K e.1 e.2 := by
  obtain ⟨hfirst, hsecond⟩ := getElem?_edges.mp he
  -- the vertices that are not on the line
  let others : Set (K × K) :=
    { c | ∃ j, j ≠ i ∧ j ≠ (i + 1) % ring.length ∧ ring[j]? = some c }
  have hothers : others.Nonempty := by
    obtain ⟨j, c, hji, hjnext, hj⟩ := exists_other hlength i
    exact ⟨c, j, hji, hjnext, hj⟩
  have hvertices : vertices ring ⊆ {e.1, e.2} ∪ others := by
    intro c hc
    obtain ⟨j, hj⟩ := List.getElem?_of_mem hc
    rcases vertex_cases he hj with hc | hc | ⟨hji, hjnext⟩
    · exact .inl (.inl hc)
    · exact .inl (.inr hc)
    · exact .inr ⟨j, hji, hjnext, hj⟩
  have hjoin := convexHull_mono hvertices hp
  rw [convexHull_union (Set.insert_nonempty _ _) hothers, convexHull_pair] at hjoin
  obtain ⟨q, hq, r, hr, s, t, hs, ht, hsum, rfl⟩ := mem_convexJoin.mp hjoin
  have hright : 0 < cross e.1 e.2 r := by
    have hsubset : others ⊆ { q | 0 < cross e.1 e.2 q } := by
      rintro c ⟨j, hji, hjnext, hj⟩
      exact h i j _ _ _ hji hjnext hfirst hsecond hj
    exact convexHull_min hsubset (convex_cross_pos e.1 e.2) hr
  have hon : cross e.1 e.2 q = 0 := by
    obtain ⟨s, t, -, -, hsum, rfl⟩ := hq
    rw [cross_combination _ _ _ _ hsum, cross_left, cross_right, mul_zero, mul_zero, add_zero]
  rw [cross_combination _ _ _ _ hsum, hon, mul_zero, zero_add] at hline
  obtain rfl : t = 0 := (mul_eq_zero.mp hline).resolve_right hright.ne'
  obtain rfl : s = 1 := by rwa [add_zero] at hsum
  rwa [one_smul, zero_smul, add_zero]

/-- An edge that leads up at a height has the others to its left there. -/
theorem TurnsLeft.atHeight_le {y : K} {f : (K × K) × (K × K)} (he : (edges ring)[i]? = some e)
    (hf : f ∈ edges ring) (hupward : Upward y e) (hstraddles : Straddles y f) :
    atHeight y f ≤ atHeight y e := by
  have hsides := h.cross_nonneg he (atHeight_mem_convexHull hf hstraddles)
  rw [cross_eq_atHeight (hupward.1.trans_lt hupward.2).ne] at hsides
  have hpos : 0 < e.2.2 - e.1.2 := sub_pos.mpr (hupward.1.trans_lt hupward.2)
  exact sub_nonneg.mp (nonneg_of_mul_nonneg_left hsides hpos)

/-- Of two edges that lead up at a height, one would begin where the other ends. -/
theorem TurnsLeft.upward_unique {y : K} {k : Nat} {f : (K × K) × (K × K)}
    (he : (edges ring)[i]? = some e) (hf : (edges ring)[k]? = some f) (hne : k ≠ i)
    (hupward : Upward y e) (hupward' : Upward y f) : False := by
  have hle := h.atHeight_le he (List.mem_of_getElem? hf) hupward (straddles_iff.mpr (.inl hupward'))
  have hge := h.atHeight_le hf (List.mem_of_getElem? he) hupward' (straddles_iff.mpr (.inl hupward))
  have hmeet : cross e.1 e.2 (atHeight y f, y) = 0 := by
    rw [cross_eq_atHeight (hupward.1.trans_lt hupward.2).ne, le_antisymm hge hle, sub_self,
      zero_mul]
  obtain ⟨s, t, hs, ht, hsum, hmeets⟩ := atHeight_mem_segment (straddles_iff.mpr (.inl hupward'))
  obtain ⟨hfirst, hsecond⟩ := mem_of_mem_edges (List.mem_of_getElem? hf)
  have hfirst_nonneg := h.cross_nonneg he (subset_convexHull K _ hfirst)
  have hsecond_nonneg := h.cross_nonneg he (subset_convexHull K _ hsecond)
  have hspos : 0 < s := by
    apply hs.lt_of_ne
    rintro rfl
    have hheight := congrArg Prod.snd hmeets
    rw [zero_add] at hsum
    rw [hsum, zero_smul, zero_add, one_smul] at hheight
    exact hupward'.2.ne' hheight
  have hbegins : cross e.1 e.2 f.1 = 0 := by
    rw [← hmeets, cross_combination _ _ _ _ hsum] at hmeet
    have hparts := (add_eq_zero_iff_of_nonneg (mul_nonneg hs hfirst_nonneg)
      (mul_nonneg ht hsecond_nonneg)).mp hmeet
    exact (mul_eq_zero.mp hparts.1).resolve_left hspos.ne'
  obtain ⟨hi, hinext⟩ := getElem?_edges.mp he
  obtain ⟨hk, -⟩ := getElem?_edges.mp hf
  by_cases hnext : k = (i + 1) % ring.length
  · subst hnext
    have hends : f.1 = e.2 := Option.some.inj (hk.symm.trans hinext)
    have hbelow := hupward'.1
    rw [hends] at hbelow
    exact hbelow.not_gt hupward.2
  · exact (h i k _ _ _ hne hnext hi hinext hk).ne' hbegins

/-- All points of a convex polygon that turns left are inside. -/
theorem TurnsLeft.inside (hlength : 3 ≤ ring.length) (hp : p ∈ convexHull K (vertices ring)) :
    Inside p ring := by
  by_cases hline : ∃ e ∈ edges ring, cross e.1 e.2 p = 0
  · obtain ⟨e, he, hline⟩ := hline
    obtain ⟨i, hi⟩ := List.getElem?_of_mem he
    exact .inl ⟨e, he, near_of_mem_segment (h.edge_ne hlength hi)
      (h.mem_segment hlength hi hp hline)⟩
  · push Not at hline
    have hleft : ∀ e ∈ edges ring, 0 < cross e.1 e.2 p := by
      intro e he
      obtain ⟨i, hi⟩ := List.getElem?_of_mem he
      exact (h.cross_nonneg hi hp).lt_of_ne' (hline e he)
    have hcount : (edges ring).countP (Crosses p) = (edges ring).countP (Upward p.2) := by
      apply List.countP_congr
      intro e he
      simp only [decide_eq_true_eq, crosses_of_left (hleft e he)]
    obtain ⟨e, he, hupward⟩ := exists_upward hp hleft
    obtain ⟨i, hi⟩ := List.getElem?_of_mem he
    have hone : (edges ring).countP (Upward p.2) = 1 := by
      apply countP_eq_one hi (by simpa using hupward)
      intro k f hne hf
      have hnot : ¬ Upward p.2 f := h.upward_unique hi hf hne hupward
      simpa using hnot
    exact .inr (by rw [hcount, hone]; exact odd_one)

end Convex

/-- The other way round, a polygon that turns right turns left. -/
theorem TurnsRight.reverse {ring : List (K × K)} (h : TurnsRight ring) :
    TurnsLeft ring.reverse := by
  intro i j a b c hji hjnext ha hb hc
  rw [List.length_reverse] at hjnext hb
  have hi : i < ring.length := by simpa using (List.getElem?_eq_some_iff.mp ha).1
  have hj : j < ring.length := by simpa using (List.getElem?_eq_some_iff.mp hc).1
  have hnext : (i + 1) % ring.length < ring.length := Nat.mod_lt _ (Nat.zero_lt_of_lt hi)
  rw [List.getElem?_reverse hi] at ha
  rw [List.getElem?_reverse hnext] at hb
  rw [List.getElem?_reverse hj] at hc
  -- the same edge of the ring begins where that of the reverse ends
  have hback : (ring.length - 1 - (i + 1) % ring.length + 1) % ring.length =
      ring.length - 1 - i := by
    rcases Nat.lt_or_ge (i + 1) ring.length with hlt | hge
    · rw [Nat.mod_eq_of_lt hlt, Nat.mod_eq_of_lt (by omega)]
      omega
    · obtain rfl : i = ring.length - 1 := by omega
      rw [Nat.sub_add_cancel (by omega), Nat.mod_self, Nat.sub_zero,
        Nat.sub_add_cancel (by omega), Nat.mod_self, Nat.sub_self]
  have hright := h (ring.length - 1 - (i + 1) % ring.length) (ring.length - 1 - j) b a c (by omega)
    (by rw [hback]; omega) hb (by rwa [hback]) hc
  rw [cross_swap] at hright
  exact neg_neg_iff_pos.mp hright

/-- All points of a strictly convex polygon are inside. -/
theorem inside_of_mem_convexHull {ring : List (K × K)} {p : K × K} (h : StrictlyConvex ring)
    (hp : p ∈ convexHull K (vertices ring)) : Inside p ring := by
  obtain ⟨hlength, hleft | hright⟩ := h
  · exact hleft.inside hlength hp
  · have hvertices : vertices ring.reverse = vertices ring := by
      ext v
      exact List.mem_reverse
    rw [← inside_reverse]
    apply hright.reverse.inside
    · rwa [List.length_reverse]
    · rwa [hvertices]

end EdgeSafety.RayCasting
