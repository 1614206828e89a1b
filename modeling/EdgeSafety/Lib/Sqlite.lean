import Mathlib.Data.List.Nodup
import Mathlib.Data.Prod.Lex
import Mathlib.Order.Lattice

/-!
# Tables of SQLite

What SQLite documents of a table whose key is an `INTEGER PRIMARY KEY AUTOINCREMENT`, and of the
clauses `ORDER BY`, `LIMIT` and `OFFSET`. An order leaves open how ties are broken, so that what
stands in a limited listing whatever the order does is a matter of counting
(`mem_take_of_countFrom_le`, `exists_order_notMem_take`).
-/

namespace EdgeSafety.Sqlite

/-- How a statement fails. -/
inductive Error
  /-- `SQLITE_CONSTRAINT`. -/
  | constraint
  /-- `SQLITE_FULL`. -/
  | full
  deriving DecidableEq

/-- The largest integer. -/
def maxInteger : Int := 9223372036854775807

/-- A row: its key and its other columns. -/
structure Row (R : Type) where
  id : Int
  data : R
  deriving DecidableEq

/-- A table: its rows in increasing id, and the largest id that it ever had. -/
structure Table (R : Type) where
  rows : List (Row R)
  last : Int
  increasing : rows.Pairwise fun row later => row.id < later.id
  le_last : ∀ row ∈ rows, row.id ≤ last

namespace Table

variable {R : Type} {table : Table R}

/-- A new table. -/
def empty : Table R := ⟨[], 0, List.Pairwise.nil, fun _ h => nomatch h⟩

theorem increasing_append (table : Table R) (data : R) :
    List.Pairwise (fun row later : Row R => row.id < later.id)
      (table.rows ++ [⟨table.last + 1, data⟩]) := by
  rw [List.pairwise_append]
  refine ⟨table.increasing, List.pairwise_singleton _ _, ?_⟩
  intro row hrow later hlater
  rw [List.mem_singleton.mp hlater]
  exact Int.lt_add_one_of_le (table.le_last row hrow)

theorem le_last_append (table : Table R) (data : R) :
    ∀ row ∈ table.rows ++ [⟨table.last + 1, data⟩], row.id ≤ table.last + 1 := by
  intro row hrow
  rcases List.mem_append.mp hrow with hold | hnew
  · exact (table.le_last row hold).trans (Int.le_add_one le_rfl)
  · rw [List.mem_singleton.mp hnew]

/-- The table with one more row. -/
def append (table : Table R) (data : R) : Table R :=
  ⟨table.rows ++ [⟨table.last + 1, data⟩], table.last + 1, table.increasing_append data,
    table.le_last_append data⟩

/-- `INSERT`, with the id of the new row. -/
def insert (table : Table R) (data : R) : Except Error (Table R × Int) :=
  if table.last < maxInteger then .ok (table.append data, table.last + 1) else .error .full

theorem le_last_filter (table : Table R) (p : Row R → Bool) :
    ∀ row ∈ table.rows.filter p, row.id ≤ table.last := by
  intro row hrow
  exact table.le_last row (List.mem_of_mem_filter hrow)

/-- `DELETE`. -/
def delete (table : Table R) (p : Row R → Bool) : Table R :=
  ⟨table.rows.filter fun row => !p row, table.last, table.increasing.filter _,
    table.le_last_filter _⟩

@[simp] theorem rows_empty : (empty : Table R).rows = [] := rfl

@[simp] theorem last_empty : (empty : Table R).last = 0 := rfl

@[simp] theorem rows_append (data : R) :
    (table.append data).rows = table.rows ++ [⟨table.last + 1, data⟩] := rfl

@[simp] theorem last_append (data : R) : (table.append data).last = table.last + 1 := rfl

@[simp] theorem rows_delete (p : Row R → Bool) :
    (table.delete p).rows = table.rows.filter fun row => !p row := rfl

@[simp] theorem last_delete (p : Row R → Bool) : (table.delete p).last = table.last := rfl

theorem insert_of_lt (h : table.last < maxInteger) (data : R) :
    table.insert data = .ok (table.append data, table.last + 1) := if_pos h

theorem insert_of_not_lt (h : ¬ table.last < maxInteger) (data : R) :
    table.insert data = .error .full := if_neg h

theorem nodup (table : Table R) : table.rows.Nodup :=
  table.increasing.imp fun h heq => (heq ▸ h).ne rfl

/-- The key of a row is its own. -/
theorem eq_of_id_eq {row other : Row R} (hrow : row ∈ table.rows) (hother : other ∈ table.rows)
    (hid : row.id = other.id) : row = other := by
  have hids : (table.rows.map Row.id).Nodup := by
    rw [List.Nodup, List.pairwise_map]
    exact table.increasing.imp fun h => h.ne
  exact List.inj_on_of_nodup_map hids hrow hother hid

section Find
variable {listed : List (Row R)} {row : Row R}

/-- A listing finds a row by its key where it lists the row. -/
theorem find?_of_mem (hlisted : listed ⊆ table.rows) (hrow : row ∈ listed) :
    listed.find? (fun r => r.id = row.id) = some row := by
  cases hfound : listed.find? (fun r => r.id = row.id) with
  | none => simpa using List.find?_eq_none.mp hfound row hrow
  | some found =>
    have hmem := hlisted (List.mem_of_find?_eq_some hfound)
    have hid : found.id = row.id := by simpa using List.find?_some hfound
    rw [eq_of_id_eq hmem (hlisted hrow) hid]

theorem find?_of_notMem (hlisted : listed ⊆ table.rows) (hrow : row ∈ table.rows)
    (hnot : row ∉ listed) : listed.find? (fun r => r.id = row.id) = none := by
  rw [List.find?_eq_none]
  intro r hr
  have hne : r.id ≠ row.id := by
    intro hid
    rw [eq_of_id_eq (hlisted hr) hrow hid] at hr
    exact hnot hr
  simpa using hne

end Find

end Table

section Listing
variable {α κ : Type} [LinearOrder κ]

/-- `LIMIT limit OFFSET offset`: a negative limit is none, a negative offset is zero. -/
def limitOffset (limit offset : Int) (rows : List α) : List α :=
  if limit < 0 then rows.drop offset.toNat else (rows.drop offset.toNat).take limit.toNat

/-- `ORDER BY key DESC`, which may break ties in any way. -/
structure OrdersDescending (orderBy : List α → List α) (key : α → κ) : Prop where
  perm : ∀ rows, (orderBy rows).Perm rows
  descending : ∀ rows, (orderBy rows).Pairwise fun row later => key later ≤ key row

/-- How many rows have a key as large as that of a row. -/
def countFrom (key : α → κ) (row : α) (rows : List α) : Nat :=
  rows.countP fun r => key row ≤ key r

/-- How many rows have a larger key. -/
def countAbove (key : α → κ) (row : α) (rows : List α) : Nat :=
  rows.countP fun r => key row < key r

/-- A stable order. -/
def sortDescending (key : α → κ) (rows : List α) : List α :=
  rows.mergeSort fun row later => key later ≤ key row

theorem ordersDescending_sortDescending (key : α → κ) :
    OrdersDescending (sortDescending key) key where
  perm rows := List.mergeSort_perm _ _
  descending rows := by
    have hsorted : (sortDescending key rows).Pairwise
        fun row later => decide (key later ≤ key row) :=
      List.pairwise_mergeSort
        (fun a b c hab hbc => by simpa using le_trans (by simpa using hbc) (by simpa using hab))
        (fun a b => by simpa using le_total (key b) (key a)) rows
    exact hsorted.imp fun h => by simpa using h

/-- An order by more than the key breaks the ties of the key. -/
theorem OrdersDescending.of_lex {orderBy : List α → List α} {key : α → κ} {rank : α → Nat}
    (h : OrdersDescending orderBy fun row => toLex (key row, rank row)) :
    OrdersDescending orderBy key where
  perm := h.perm
  descending rows := (h.descending rows).imp fun hle => Prod.Lex.monotone_fst _ _ hle

theorem countAbove_map {β : Type} (key : α → κ) (column : β → α) (row : β) (rows : List β) :
    countAbove key (column row) (rows.map column) =
      countAbove (fun r => key (column r)) row rows := by
  rw [countAbove, countAbove, List.countP_map]
  rfl

theorem limitOffset_of_length_le {limit : Int} {rows : List α}
    (h : limit < 0 ∨ (rows.length : Int) ≤ limit) : limitOffset limit 0 rows = rows := by
  unfold limitOffset
  split_ifs with hneg
  · rfl
  · exact List.take_of_length_le (by simp; omega)

theorem limitOffset_natCast (limit offset : Nat) (rows : List α) :
    limitOffset limit offset rows = (rows.drop offset).take limit := by
  rw [limitOffset, if_neg (by omega)]
  rfl

/-- Limits and offsets from the start on give the rows page by page. -/
theorem flatMap_limitOffset (size count : Nat) (rows : List α) :
    (List.range count).flatMap (fun page => limitOffset size (page * size : Nat) rows) =
      rows.take (count * size) := by
  induction count with
  | zero => simp
  | succ count ih =>
    rw [List.range_succ, List.flatMap_append, ih, List.flatMap_singleton, limitOffset_natCast,
      Nat.succ_mul, List.take_add]

theorem mem_take_iff {row : α} {rows : List α} {n : Nat} :
    row ∈ rows.take n ↔ ∃ before after, rows = before ++ row :: after ∧ before.length < n := by
  constructor
  · intro hmem
    obtain ⟨before, after, hsplit⟩ := List.append_of_mem hmem
    refine ⟨before, after ++ rows.drop n, ?_, ?_⟩
    · rw [← List.cons_append, ← List.append_assoc, ← hsplit, List.take_append_drop]
    · have hlength := congrArg List.length hsplit
      simp only [List.length_take, List.length_append, List.length_cons] at hlength
      omega
  · rintro ⟨before, after, rfl, hlt⟩
    rw [List.take_append]
    obtain ⟨more, hmore⟩ := Nat.exists_eq_add_of_lt hlt
    rw [show n - before.length = more + 1 by omega]
    simp

variable {orderBy : List α → List α} {key : α → κ} {rows : List α} {row : α} {n : Nat}

/-- A row is among the first of a descending order where few have a key as large. -/
theorem mem_take_of_countFrom_le (h : OrdersDescending orderBy key) (hrow : row ∈ rows)
    (hn : countFrom key row rows ≤ n) : row ∈ (orderBy rows).take n := by
  obtain ⟨before, after, hsplit⟩ := List.append_of_mem ((h.perm rows).mem_iff.mpr hrow)
  refine mem_take_iff.mpr ⟨before, after, hsplit, ?_⟩
  rw [countFrom, ← (h.perm rows).countP_eq, hsplit, List.countP_append,
    List.countP_cons_of_pos (by simp)] at hn
  have hdescending := h.descending rows
  rw [hsplit, List.pairwise_append] at hdescending
  have hbefore : before.countP (fun r => key row ≤ key r) = before.length :=
    List.countP_eq_length.mpr fun r hr => by
      simpa using hdescending.2.2 r hr row List.mem_cons_self
  omega

/-- A row is not among the first where many have a larger key. -/
theorem notMem_take_of_le_countAbove (h : OrdersDescending orderBy key)
    (hn : n ≤ countAbove key row rows) : row ∉ (orderBy rows).take n := by
  intro hmem
  obtain ⟨before, after, hsplit, hlt⟩ := mem_take_iff.mp hmem
  have hdescending := h.descending rows
  rw [hsplit, List.pairwise_append, List.pairwise_cons] at hdescending
  have hafter : after.countP (fun r => key row < key r) = 0 :=
    List.countP_eq_zero.mpr fun r hr => by simpa using hdescending.2.1.1 r hr
  have hbefore : before.countP (fun r => key row < key r) ≤ before.length := List.countP_le_length
  rw [countAbove, ← (h.perm rows).countP_eq, hsplit, List.countP_append,
    List.countP_cons_of_neg (by simp)] at hn
  omega

/-- Where many rows have a key as large, an order that puts the row after its ties leaves it out. -/
theorem exists_order_notMem_take [DecidableEq α] (hnodup : rows.Nodup)
    (hn : n < countFrom key row rows) :
    ∃ orderBy : List α → List α, OrdersDescending orderBy key ∧ row ∉ (orderBy rows).take n := by
  let rank : α → Nat := fun r => if r = row then 0 else 1
  have horder := ordersDescending_sortDescending fun r => toLex (key r, rank r)
  refine ⟨_, horder.of_lex, ?_⟩
  intro hmem
  obtain ⟨before, after, hsplit, hlt⟩ := mem_take_iff.mp hmem
  have hdescending := horder.descending rows
  have hunique := (horder.perm rows).nodup_iff.mpr hnodup
  rw [hsplit, List.pairwise_append, List.pairwise_cons] at hdescending
  rw [hsplit, List.nodup_append, List.nodup_cons] at hunique
  have hafter : after.countP (fun r => key row ≤ key r) = 0 := by
    rw [List.countP_eq_zero]
    intro r hr
    have hle := hdescending.2.1.1 r hr
    have hne : r ≠ row := fun heq => hunique.2.1.1 (heq ▸ hr)
    rw [Prod.Lex.toLex_le_toLex] at hle
    rcases hle with hlt | ⟨-, hrank⟩
    · simpa using hlt
    · simp [rank, hne] at hrank
  have hbefore : before.countP (fun r => key row ≤ key r) ≤ before.length := List.countP_le_length
  rw [countFrom, ← (horder.perm rows).countP_eq, hsplit, List.countP_append,
    List.countP_cons_of_pos (by simp)] at hn
  omega

end Listing

end EdgeSafety.Sqlite
