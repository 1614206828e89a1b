import Mathlib.Data.List.Basic

/-!
# Base64

`encode` writes three bytes as four digits of six bits and fills up the last group with `=`;
`decode` reads it back (`decode_encode`).
-/

namespace EdgeSafety.Base64

/-- The digit of a number below 64: the letters, the decimal digits and two signs. -/
def digit (n : Nat) : Char :=
  if n < 26 then Char.ofNat (n + 65)
  else if n < 52 then Char.ofNat (n + 71)
  else if n < 62 then Char.ofNat (n - 4)
  else if n = 62 then '+' else '/'

/-- The number of a digit. -/
def value (c : Char) : Option Nat :=
  if 'A' ≤ c ∧ c ≤ 'Z' then some (c.toNat - 65)
  else if 'a' ≤ c ∧ c ≤ 'z' then some (c.toNat - 71)
  else if '0' ≤ c ∧ c ≤ '9' then some (c.toNat + 4)
  else if c = '+' then some 62
  else if c = '/' then some 63 else none

/-- The digits of some bytes, in groups of four. -/
def encode : List UInt8 → List Char
  | [] => []
  | [a] => [digit (a.toNat / 4), digit (a.toNat % 4 * 16), '=', '=']
  | [a, b] =>
    [digit (a.toNat / 4), digit (a.toNat % 4 * 16 + b.toNat / 16), digit (b.toNat % 16 * 4), '=']
  | a :: b :: c :: rest =>
    digit (a.toNat / 4) :: digit (a.toNat % 4 * 16 + b.toNat / 16) ::
      digit (b.toNat % 16 * 4 + c.toNat / 64) :: digit (c.toNat % 64) :: encode rest

/-- The bytes of some digits, in groups of four of which only the last may be filled up. -/
def decode : List Char → Option (List UInt8)
  | [] => some []
  | w :: x :: y :: z :: rest => do
    let i ← value w
    let j ← value x
    let first := UInt8.ofNat (i * 4 + j / 16)
    if y = '=' ∧ z = '=' ∧ rest = [] then return [first]
    let k ← value y
    let second := UInt8.ofNat (j % 16 * 16 + k / 4)
    if z = '=' ∧ rest = [] then return [first, second]
    let l ← value z
    return first :: second :: UInt8.ofNat (k % 4 * 64 + l) :: (← decode rest)
  | _ => none

theorem value_digit {n : Nat} (h : n < 64) : value (digit n) = some n := by
  have hall : ∀ n : Fin 64, value (digit n) = some n.1 := by decide
  exact hall ⟨n, h⟩

theorem digit_ne {n : Nat} (h : n < 64) : digit n ≠ '=' := by
  have hall : ∀ n : Fin 64, digit n ≠ '=' := by decide
  exact hall ⟨n, h⟩

/-- A byte is put together from the parts that its digits carry. -/
theorem ofNat_parts (a : UInt8) {n : Nat} (h : n = a.toNat) : UInt8.ofNat n = a := by
  rw [h, UInt8.ofNat_toNat]

theorem decode_encode (bytes : List UInt8) : decode (encode bytes) = some bytes := by
  induction bytes using encode.induct with
  | case1 => rfl
  | case2 a =>
    have ha := a.toNat_lt
    rw [encode, decode, value_digit (by omega), value_digit (by omega)]
    simp only [Option.bind_eq_bind, Option.bind_some, and_self, if_true]
    rw [ofNat_parts a (by omega)]
    rfl
  | case3 a b =>
    have ha := a.toNat_lt
    have hb := b.toNat_lt
    rw [encode, decode, value_digit (by omega), value_digit (by omega), value_digit (by omega)]
    simp only [Option.bind_eq_bind, Option.bind_some, and_self, if_true,
      digit_ne (show b.toNat % 16 * 4 < 64 by omega), false_and, if_false]
    rw [ofNat_parts a (by omega), ofNat_parts b (by omega)]
    rfl
  | case4 a b c rest ih =>
    have ha := a.toNat_lt
    have hb := b.toNat_lt
    have hc := c.toNat_lt
    rw [encode, decode, value_digit (by omega), value_digit (by omega), value_digit (by omega),
      value_digit (by omega), ih]
    simp only [Option.bind_eq_bind, Option.bind_some, false_and, if_false,
      digit_ne (show b.toNat % 16 * 4 + c.toNat / 64 < 64 by omega),
      digit_ne (show c.toNat % 64 < 64 by omega)]
    rw [ofNat_parts a (by omega), ofNat_parts b (by omega), ofNat_parts c (by omega)]
    rfl

end EdgeSafety.Base64
