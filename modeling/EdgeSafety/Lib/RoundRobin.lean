import Mathlib.Data.List.Nodup
import Mathlib.Data.Nat.ModEq

/-!
# Round robin

`turns n start length` lists whose turn it is, among `n` parties served in a circle, from turn
number `start` on. A window of at most `n` turns has no party twice, a window of `n` turns has
every party once, and between two turns of one party lies a whole number of laps, each with one
turn of every other party. `Before` says who comes first from a place on.
-/

namespace EdgeSafety.RoundRobin

variable {n : Nat}

/-- Whose turn it is, in `length` turns from number `start` on. -/
def turns (n start length : Nat) : List Nat := (List.range' start length).map (· % n)

@[simp]
theorem length_turns (n start length : Nat) : (turns n start length).length = length := by
  simp [turns]

@[simp]
theorem turns_zero (n start : Nat) : turns n start 0 = [] := rfl

theorem turns_append (n start a b : Nat) :
    turns n start (a + b) = turns n start a ++ turns n (start + a) b := by
  rw [turns, turns, turns, ← List.range'_append_1, List.map_append]

theorem turns_succ (n start length : Nat) :
    turns n start (length + 1) = turns n start length ++ [(start + length) % n] :=
  turns_append n start length 1

/-- A whole lap more or less at the start changes nothing. -/
theorem turns_mod (n start length : Nat) : turns n (start % n) length = turns n start length := by
  apply List.ext_getElem
  · simp
  · intro i _ _
    simp [turns]

theorem getElem?_turns {start length i turn : Nat} (h : (turns n start length)[i]? = some turn) :
    i < length ∧ turn = (start + i) % n := by
  obtain ⟨hi, hturn⟩ := List.getElem?_eq_some_iff.mp h
  rw [length_turns] at hi
  simp only [turns, List.getElem_map, List.getElem_range', Nat.one_mul] at hturn
  exact ⟨hi, hturn.symm⟩

theorem getElem?_turns_of_lt {start length i : Nat} (h : i < length) :
    (turns n start length)[i]? = some ((start + i) % n) := by
  rw [List.getElem?_eq_getElem (by rwa [length_turns])]
  simp [turns]

/-- The part of a list of turns between two of its positions. -/
theorem window_turns {start length i k : Nat} (h : i + k ≤ length) :
    ((turns n start length).drop i).take k = turns n (start + i) k := by
  obtain ⟨rest, rfl⟩ := Nat.exists_eq_add_of_le h
  rw [turns_append, turns_append, List.append_assoc, List.drop_left' (length_turns ..),
    List.take_left' (length_turns ..)]

theorem nodup_turns {start length : Nat} (h : length ≤ n) : (turns n start length).Nodup := by
  refine List.Nodup.map_on ?_ List.nodup_range'
  intro a ha b hb hsame
  have ha := List.mem_range'_1.mp ha
  have hb := List.mem_range'_1.mp hb
  exact Nat.ModEq.eq_of_abs_lt hsame (by rw [abs_lt]; omega)

theorem mem_turns (start : Nat) {length party : Nat} (hparty : party < n) (h : n ≤ length) :
    party ∈ turns n start length := by
  have hn : 0 < n := Nat.zero_lt_of_lt hparty
  let ahead := (party + (n - start % n)) % n
  have hlt : ahead < length := (Nat.mod_lt _ hn).trans_le h
  have hturn : (start + ahead) % n = party := by
    have hstart := Nat.mod_lt start hn
    rw [Nat.add_mod, Nat.mod_mod, ← Nat.add_mod, ← Nat.mod_add_mod,
      show start % n + (party + (n - start % n)) = party + n by omega, Nat.add_mod_right,
      Nat.mod_eq_of_lt hparty]
  exact List.mem_of_getElem? (hturn ▸ getElem?_turns_of_lt hlt)

theorem count_lap (start : Nat) {party : Nat} (hparty : party < n) :
    (turns n start n).count party = 1 :=
  List.count_eq_one_of_mem (nodup_turns (Nat.le_refl n)) (mem_turns start hparty (Nat.le_refl n))

/-- Every party has one turn in each lap. -/
theorem count_laps (start laps : Nat) {party : Nat} (hparty : party < n) :
    (turns n start (laps * n)).count party = laps := by
  induction laps with
  | zero => rw [Nat.zero_mul, turns_zero, List.count_nil]
  | succ laps ih =>
    rw [Nat.add_mul, Nat.one_mul, turns_append, List.count_append, ih, count_lap _ hparty]

/-- Between two turns of one party lies a whole number of laps. -/
theorem laps_between {i j : Nat} (hij : i ≤ j) (h : i % n = j % n) : ∃ laps, j = i + laps * n := by
  obtain ⟨laps, hlaps⟩ := (Nat.modEq_iff_dvd' hij).mp h
  exact ⟨laps, by rw [Nat.mul_comm, ← hlaps]; omega⟩

/-- Going round the circle from `start` one comes to `stop` before one comes to `party`. The circle
may grow at its end meanwhile. -/
def Before (party start stop : Nat) : Prop :=
  party < start ∧ (start ≤ stop ∨ stop < party) ∨ start ≤ stop ∧ stop < party

theorem Before.ne {party start stop : Nat} (h : Before party start stop) : party ≠ start := by
  unfold Before at h
  omega

theorem succ_mod_of_lt {i : Nat} (h : i < n) :
    (i + 1) % n = if i + 1 = n then 0 else i + 1 := by
  split
  · next hlast => rw [hlast, Nat.mod_self]
  · exact Nat.mod_eq_of_lt (by omega)

theorem Before.next {party start stop : Nat} (h : Before party start stop) (hstart : start < n)
    (hstop : stop < n) (hne : start ≠ stop) : Before party ((start + 1) % n) stop := by
  rw [succ_mod_of_lt hstart]
  unfold Before at h ⊢
  split <;> omega

/-- Right after a party's turn all others come before it. -/
theorem before_succ_mod {party stop : Nat} (hparty : party < n) (hstop : stop < n)
    (hne : party ≠ stop) : Before party ((party + 1) % n) stop := by
  rw [succ_mod_of_lt hparty]
  unfold Before
  split <;> omega

/-- As many groups as it takes to cover the circle, each of `size` turns or of all, cover it. -/
theorem le_groups (n : Nat) {size : Nat} (hsize : 1 ≤ size) :
    n ≤ (n + size - 1) / size * min n size := by
  rcases Nat.le_total n size with hle | hle
  · rw [min_eq_left hle]
    rcases Nat.eq_zero_or_pos n with rfl | hn
    · exact Nat.zero_le _
    · have hone : 1 ≤ (n + size - 1) / size := (Nat.one_le_div_iff hsize).mpr (by omega)
      exact Nat.le_mul_of_pos_left n hone
  · rw [min_eq_right hle, Nat.mul_comm]
    have hdivide := Nat.div_add_mod (n + size - 1) size
    have hrest := Nat.mod_lt (n + size - 1) hsize
    omega

end EdgeSafety.RoundRobin
