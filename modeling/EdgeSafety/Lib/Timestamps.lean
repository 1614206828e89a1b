import Mathlib.Data.Prod.Lex
import Mathlib.Data.String.Basic
import EdgeSafety.Lib.Digits

/-!
# Timestamps as texts

A date is written `YYYY-MM-DD` and a time of day behind it `HH:MM:SS`, so that texts of one format
are in the order of what they say (`Date.text_append_lt_iff`, `Timestamp.text_le_iff`).
-/

namespace EdgeSafety

/-- The days of a month. -/
def daysInMonth (year month : Nat) : Nat :=
  if month = 2 then
    if year % 4 = 0 ∧ (year % 100 ≠ 0 ∨ year % 400 = 0) then 29 else 28
  else if month ∈ [4, 6, 9, 11] then 30
  else 31

theorem daysInMonth_le (year month : Nat) : daysInMonth year month ≤ 31 := by
  unfold daysInMonth
  split_ifs <;> simp

/-- A date of a year of four digits. -/
structure Date where
  year : Nat
  month : Nat
  day : Nat
  year_lt : year < 10000
  month_pos : 1 ≤ month
  month_le : month ≤ 12
  day_pos : 1 ≤ day
  day_le : day ≤ daysInMonth year month
  deriving DecidableEq

namespace Date

/-- A day of January. -/
def january (year day : Nat) (hyear : year < 10000 := by decide) (hpos : 1 ≤ day := by decide)
    (hle : day ≤ daysInMonth year 1 := by decide) : Date :=
  { year, month := 1, day, year_lt := hyear, month_pos := by decide, month_le := by decide
    day_pos := hpos, day_le := hle }

/-- What dates are ordered by. -/
def key (date : Date) : ℕ ×ₗ ℕ ×ₗ ℕ := toLex (date.year, toLex (date.month, date.day))

theorem key_injective : Function.Injective key := by
  rintro ⟨year, month, day⟩ ⟨year', month', day'⟩ h
  simp only [key, toLex_inj, Prod.mk.injEq] at h
  obtain ⟨rfl, rfl, rfl⟩ := h
  rfl

instance : LinearOrder Date := LinearOrder.lift' key key_injective

theorem lt_iff {d e : Date} : d < e ↔ d.year < e.year ∨ d.year = e.year ∧
    (d.month < e.month ∨ d.month = e.month ∧ d.day < e.day) := by
  change d.key < e.key ↔ _
  rw [key, key, Prod.Lex.toLex_lt_toLex, Prod.Lex.toLex_lt_toLex]

theorem eq_iff {d e : Date} :
    d = e ↔ d.year = e.year ∧ d.month = e.month ∧ d.day = e.day := by
  cases d
  cases e
  simp

/-- The characters of a date. -/
def chars (date : Date) : List Char :=
  Digits.decimal 4 date.year ++ '-' :: (Digits.decimal 2 date.month ++
    '-' :: Digits.decimal 2 date.day)

/-- `YYYY-MM-DD`. -/
def text (date : Date) : String := String.ofList date.chars

theorem month_lt (date : Date) : date.month < 10 ^ 2 := date.month_le.trans_lt (by decide)

theorem day_lt (date : Date) : date.day < 10 ^ 2 :=
  (date.day_le.trans (daysInMonth_le _ _)).trans_lt (by decide)

theorem chars_append_lt_iff {d e : Date} {xs ys : List Char} :
    d.chars ++ xs < e.chars ++ ys ↔ d < e ∨ d = e ∧ xs < ys := by
  simp only [chars, List.append_assoc, List.cons_append]
  rw [Digits.decimal_append_lt_iff d.year_lt e.year_lt, List.cons_lt_cons_iff,
    Digits.decimal_append_lt_iff d.month_lt e.month_lt, List.cons_lt_cons_iff,
    Digits.decimal_append_lt_iff d.day_lt e.day_lt, lt_iff, eq_iff]
  simp only [lt_irrefl, false_or, true_and]
  tauto

/-- Texts that begin with a date are in the order of the dates, and of the rest after a tie. -/
theorem text_append_lt_iff {d e : Date} {s t : String} :
    d.text ++ s < e.text ++ t ↔ d < e ∨ d = e ∧ s < t := by
  simp only [String.lt_iff_toList_lt, String.toList_append, text, String.toList_ofList,
    chars_append_lt_iff]

end Date

/-- A second of a day. -/
structure Timestamp where
  date : Date
  hour : Nat
  minute : Nat
  second : Nat
  hour_lt : hour < 24
  minute_lt : minute < 60
  second_lt : second < 60
  deriving DecidableEq

namespace Timestamp

/-- A full hour. -/
def fullHour (date : Date) (hour : Nat) (h : hour < 24 := by decide) : Timestamp :=
  { date, hour, minute := 0, second := 0, hour_lt := h, minute_lt := by decide
    second_lt := by decide }

/-- What timestamps are ordered by. -/
def key (time : Timestamp) : Date ×ₗ ℕ ×ₗ ℕ ×ₗ ℕ :=
  toLex (time.date, toLex (time.hour, toLex (time.minute, time.second)))

theorem key_injective : Function.Injective key := by
  rintro ⟨date, hour, minute, second⟩ ⟨date', hour', minute', second'⟩ h
  simp only [key, toLex_inj, Prod.mk.injEq] at h
  obtain ⟨rfl, rfl, rfl, rfl⟩ := h
  rfl

instance : LinearOrder Timestamp := LinearOrder.lift' key key_injective

theorem lt_iff {a b : Timestamp} : a < b ↔ a.date < b.date ∨ a.date = b.date ∧
    (a.hour < b.hour ∨ a.hour = b.hour ∧
      (a.minute < b.minute ∨ a.minute = b.minute ∧ a.second < b.second)) := by
  change a.key < b.key ↔ _
  rw [key, key, Prod.Lex.toLex_lt_toLex, Prod.Lex.toLex_lt_toLex, Prod.Lex.toLex_lt_toLex]

/-- The characters of a time of day. -/
def clockChars (time : Timestamp) : List Char :=
  Digits.decimal 2 time.hour ++ ':' :: (Digits.decimal 2 time.minute ++
    ':' :: (Digits.decimal 2 time.second ++ []))

/-- `HH:MM:SS`. -/
def clock (time : Timestamp) : String := String.ofList time.clockChars

/-- `YYYY-MM-DD HH:MM:SS`. -/
def text (time : Timestamp) : String := time.date.text ++ (" " ++ time.clock)

theorem clockChars_lt_iff {a b : Timestamp} :
    a.clockChars < b.clockChars ↔ a.hour < b.hour ∨ a.hour = b.hour ∧
      (a.minute < b.minute ∨ a.minute = b.minute ∧ a.second < b.second) := by
  rw [clockChars, clockChars,
    Digits.decimal_append_lt_iff (a.hour_lt.trans (by decide)) (b.hour_lt.trans (by decide)),
    List.cons_lt_cons_iff,
    Digits.decimal_append_lt_iff (a.minute_lt.trans (by decide)) (b.minute_lt.trans (by decide)),
    List.cons_lt_cons_iff,
    Digits.decimal_append_lt_iff (a.second_lt.trans (by decide)) (b.second_lt.trans (by decide))]
  simp

theorem text_lt_iff {a b : Timestamp} : a.text < b.text ↔ a < b := by
  have hclock : " " ++ a.clock < " " ++ b.clock ↔ a.clockChars < b.clockChars := by
    rw [String.lt_iff_toList_lt, String.toList_append, String.toList_append, clock, clock,
      String.toList_ofList, String.toList_ofList]
    simp
  rw [text, text, Date.text_append_lt_iff, hclock, clockChars_lt_iff, lt_iff]

theorem text_le_iff {a b : Timestamp} : a.text ≤ b.text ↔ a ≤ b := by
  rw [← not_lt, ← not_lt, text_lt_iff]

end Timestamp

end EdgeSafety
