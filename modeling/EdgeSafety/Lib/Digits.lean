import Mathlib.Data.List.Lex
import Mathlib.Data.Nat.Digits.Lemmas

/-!
# Digits of a fixed number of places

The digits of a number in a base, the most significant first and with leading zeros up to a number
of places. Writing and reading are inverse to each other for the numbers that have so many places,
and the lexicographic order of their digits is the order of the numbers.
-/

namespace EdgeSafety.Digits

/-- The last `places` digits of a number. -/
def ofNat (base places n : Nat) : List Nat :=
  (List.range places).map fun position => n / base ^ (places - 1 - position) % base

/-- The number that digits stand for. -/
def toNat (base : Nat) (digits : List Nat) : Nat := Nat.ofDigits base digits.reverse

variable {base : Nat}

@[simp] theorem length_ofNat (base places n : Nat) : (ofNat base places n).length = places := by
  simp [ofNat]

theorem ofNat_lt (hbase : 0 < base) {places n d : Nat} (hd : d ∈ ofNat base places n) :
    d < base := by
  obtain ⟨position, -, rfl⟩ := List.mem_map.mp hd
  exact Nat.mod_lt _ hbase

/-- The last digit is the remainder, and the others are those of the quotient. -/
theorem ofNat_succ (base places n : Nat) :
    ofNat base (places + 1) n = ofNat base places (n / base) ++ [n % base] := by
  rw [ofNat, List.range_succ, List.map_append, ofNat]
  congr 1
  · apply List.map_congr_left
    intro position hposition
    have hlt := List.mem_range.mp hposition
    rw [show places + 1 - 1 - position = places - 1 - position + 1 by omega, Nat.pow_succ',
      Nat.div_div_eq_div_mul]
  · simp

theorem toNat_append_singleton (digits : List Nat) (d : Nat) :
    toNat base (digits ++ [d]) = d + base * toNat base digits := by
  rw [toNat, List.reverse_append, List.reverse_singleton, List.singleton_append,
    Nat.ofDigits_cons, toNat]

theorem toNat_ofNat (base places n : Nat) :
    toNat base (ofNat base places n) = n % base ^ places := by
  induction places generalizing n with
  | zero => simp [ofNat, toNat, Nat.mod_one]
  | succ places ih =>
    rw [ofNat_succ, toNat_append_singleton, ih, Nat.pow_succ', Nat.mod_mul]

theorem toNat_lt (hbase : 1 < base) {digits : List Nat} (hdigits : ∀ d ∈ digits, d < base) :
    toNat base digits < base ^ digits.length := by
  rw [toNat, ← List.length_reverse]
  exact Nat.ofDigits_lt_base_pow_length hbase fun d hd => hdigits d (List.mem_reverse.mp hd)

theorem ofNat_toNat (hbase : 1 < base) {digits : List Nat} (hdigits : ∀ d ∈ digits, d < base) :
    ofNat base digits.length (toNat base digits) = digits := by
  have hvalue : toNat base (ofNat base digits.length (toNat base digits)) = toNat base digits := by
    rw [toNat_ofNat, Nat.mod_eq_of_lt (toNat_lt hbase hdigits)]
  apply List.reverse_injective
  refine Nat.ofDigits_inj_of_len_eq hbase (by simp) ?_ ?_ hvalue
  · intro d hd
    exact ofNat_lt (Nat.zero_lt_of_lt hbase) (List.mem_reverse.mp hd)
  · intro d hd
    exact hdigits d (List.mem_reverse.mp hd)

section Order

/-- Lists with prefixes of one length are in the order of these, and of the rests after a tie. -/
theorem append_lt_append_iff {α : Type} [LT α] {xs ys : List α}
    (h : xs.length = ys.length) {xs' ys' : List α} :
    xs ++ xs' < ys ++ ys' ↔ xs < ys ∨ xs = ys ∧ xs' < ys' := by
  induction xs generalizing ys with
  | nil =>
    obtain rfl := List.length_eq_zero_iff.mp h.symm
    simp
  | cons x xs ih =>
    cases ys with
    | nil => exact absurd h (by simp)
    | cons y ys =>
      have htail := ih (Nat.succ.inj h)
      simp only [List.cons_append, List.cons_lt_cons_iff, htail, List.cons.injEq]
      tauto

theorem ofNat_inj {places m n : Nat} (hm : m < base ^ places) (hn : n < base ^ places) :
    ofNat base places m = ofNat base places n ↔ m = n := by
  constructor
  · intro heq
    have hvalue := congrArg (toNat base) heq
    rwa [toNat_ofNat, toNat_ofNat, Nat.mod_eq_of_lt hm, Nat.mod_eq_of_lt hn] at hvalue
  · rintro rfl
    rfl

/-- A number is before another where its quotient is, or its remainder after a tie. -/
theorem lt_iff_div_mod (base : Nat) {m n : Nat} :
    m < n ↔ m / base < n / base ∨ m / base = n / base ∧ m % base < n % base := by
  have hm := Nat.div_add_mod m base
  have hn := Nat.div_add_mod n base
  constructor
  · intro hlt
    rcases Nat.lt_or_eq_of_le (Nat.div_le_div_right (c := base) hlt.le) with hdiv | hdiv
    · exact Or.inl hdiv
    · rw [hdiv] at hm
      exact Or.inr ⟨hdiv, by omega⟩
  · rintro (hdiv | ⟨hdiv, hmod⟩)
    · by_contra hle
      exact absurd (Nat.div_le_div_right (c := base) (not_lt.mp hle)) (not_le.mpr hdiv)
    · rw [hdiv] at hm
      omega

theorem ofNat_lt_ofNat_iff {places m n : Nat} (hm : m < base ^ places)
    (hn : n < base ^ places) : ofNat base places m < ofNat base places n ↔ m < n := by
  induction places generalizing m n with
  | zero =>
    rw [Nat.pow_zero, Nat.lt_one_iff] at hm hn
    simp [hm, hn]
  | succ places ih =>
    have hm' : m / base < base ^ places := Nat.div_lt_of_lt_mul (by rwa [← Nat.pow_succ'])
    have hn' : n / base < base ^ places := Nat.div_lt_of_lt_mul (by rwa [← Nat.pow_succ'])
    rw [ofNat_succ, ofNat_succ, append_lt_append_iff (by simp), ih hm' hn', ofNat_inj hm' hn',
      List.cons_lt_cons_iff, lt_iff_div_mod base (m := m) (n := n)]
    simp

end Order

section Decimal

/-- The last `places` decimal digits of a number, as a text. -/
def decimal (places n : Nat) : List Char := (ofNat 10 places n).map Nat.digitChar

@[simp] theorem length_decimal (places n : Nat) : (decimal places n).length = places := by
  simp [decimal]

theorem digitChar_lt_iff : ∀ d < 10, ∀ e < 10, (Nat.digitChar d < Nat.digitChar e ↔ d < e) := by
  decide

theorem digitChar_inj : ∀ d < 10, ∀ e < 10, (Nat.digitChar d = Nat.digitChar e ↔ d = e) := by
  decide

/-- Digits are in the order of their texts. -/
theorem map_digitChar_lt_iff {ds es : List Nat} (hds : ∀ d ∈ ds, d < 10) (hes : ∀ e ∈ es, e < 10) :
    ds.map Nat.digitChar < es.map Nat.digitChar ↔ ds < es := by
  induction ds generalizing es with
  | nil => cases es <;> simp
  | cons d ds ih =>
    cases es with
    | nil => simp
    | cons e es =>
      rw [List.forall_mem_cons] at hds hes
      rw [List.map_cons, List.map_cons, List.cons_lt_cons_iff, List.cons_lt_cons_iff,
        digitChar_lt_iff d hds.1 e hes.1, digitChar_inj d hds.1 e hes.1, ih hds.2 hes.2]

/-- Numbers of so many places are in the order of their digits. -/
theorem decimal_lt_decimal_iff {places m n : Nat} (hm : m < 10 ^ places) (hn : n < 10 ^ places) :
    decimal places m < decimal places n ↔ m < n := by
  have hdigit : ∀ n, ∀ d ∈ ofNat 10 places n, d < 10 := fun n d hd => ofNat_lt (by decide) hd
  rw [decimal, decimal, map_digitChar_lt_iff (hdigit m) (hdigit n),
    ofNat_lt_ofNat_iff hm hn]

/-- Fields of one width are in the order of their numbers, and of what follows after a tie. -/
theorem decimal_append_lt_iff {places m n : Nat} (hm : m < 10 ^ places) (hn : n < 10 ^ places)
    {xs ys : List Char} :
    decimal places m ++ xs < decimal places n ++ ys ↔ m < n ∨ m = n ∧ xs < ys := by
  have hinj : decimal places m = decimal places n ↔ m = n := by
    constructor
    · intro heq
      have hle := mt (decimal_lt_decimal_iff hm hn).mpr (heq ▸ List.lt_irrefl _)
      have hge := mt (decimal_lt_decimal_iff hn hm).mpr (heq ▸ List.lt_irrefl _)
      omega
    · rintro rfl
      rfl
  rw [append_lt_append_iff (by simp), decimal_lt_decimal_iff hm hn, hinj]

end Decimal

end EdgeSafety.Digits
