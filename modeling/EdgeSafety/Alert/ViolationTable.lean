import EdgeSafety.Lib.Sqlite
import EdgeSafety.Lib.Timestamps

/-!
# The table of violations

`insert_violation` and `get_violations` of `alert/db.py`. `CURRENT_TIMESTAMP` is the time of a call
in seconds, and SQLite compares it as the text that it stores. Which of several rows of one second
a listing has first is up to SQLite.
-/

namespace EdgeSafety

open Sqlite

/-- The columns of `violations` beside the key. `bbox` is what `json.dumps` wrote. -/
structure StoredViolation where
  cameraId : String
  type : String
  severity : String
  bbox : String
  thumbnailPath : Option String
  createdAt : Timestamp
  deriving DecidableEq

/-- `insert_violation`, called at the time `now`. -/
def insertViolation (table : Table StoredViolation) (now : Timestamp)
    (cameraId violationType severity bbox : String) (thumbnailPath : Option String) :
    Except Error (Table StoredViolation × Int) :=
  table.insert
    { cameraId, type := violationType, severity, bbox, thumbnailPath, createdAt := now }

/-- The parameters of `get_violations`, with their defaults. -/
structure ViolationQuery where
  cameraId : Option String := none
  violationType : Option String := none
  fromTime : Option String := none
  toTime : Option String := none
  limit : Int := 100
  offset : Int := 0

/-- A condition on a column, which a filter that is `None` or empty leaves out. -/
def condition (filter : Option String) (holds : String → Bool) : Bool :=
  match filter with
  | none => true
  | some value => value = "" || holds value

/-- The `WHERE` clause. The bounds are no numbers, which the type of the column would convert. -/
def ViolationQuery.selects (query : ViolationQuery) (row : Row StoredViolation) : Bool :=
  condition query.cameraId (row.data.cameraId = ·) &&
    condition query.violationType (row.data.type = ·) &&
    condition query.fromTime (fun time => time ≤ row.data.createdAt.text) &&
    condition query.toTime (fun time => row.data.createdAt.text ≤ time)

/-- What `ORDER BY created_at DESC` goes by. -/
def createdText (row : Row StoredViolation) : String := row.data.createdAt.text

/-- `get_violations`. -/
def getViolations (orderBy : List (Row StoredViolation) → List (Row StoredViolation))
    (table : Table StoredViolation) (query : ViolationQuery) : List (Row StoredViolation) :=
  limitOffset query.limit query.offset (orderBy (table.rows.filter query.selects))

@[simp] theorem condition_none (holds : String → Bool) : condition none holds = true := rfl

theorem condition_some {value : String} (h : value ≠ "") (holds : String → Bool) :
    condition (some value) holds = holds value := by
  simp [condition, h]

/-- With a limit that is no bound, a listing has the rows that its conditions select. -/
theorem getViolations_perm {orderBy : List (Row StoredViolation) → List (Row StoredViolation)}
    (horder : OrdersDescending orderBy createdText) (table : Table StoredViolation)
    (query : ViolationQuery) (hoffset : query.offset = 0)
    (hlimit : query.limit < 0 ∨ ((table.rows.countP query.selects : Nat) : Int) ≤ query.limit) :
    (getViolations orderBy table query).Perm (table.rows.filter query.selects) := by
  have hperm := horder.perm (table.rows.filter query.selects)
  rw [getViolations, hoffset, limitOffset_of_length_le]
  · exact hperm
  · rwa [hperm.length_eq, ← List.countP_eq_length_filter]

section Run

/-- A call of `insert_violation`, with the arguments and the time of the row that it is to write. A
call that raises writes nothing. -/
def afterInsert (table : Table StoredViolation) (call : StoredViolation) : Table StoredViolation :=
  match insertViolation table call.createdAt call.cameraId call.type call.severity call.bbox
      call.thumbnailPath with
  | .ok (inserted, _) => inserted
  | .error _ => table

/-- The table after any calls. -/
def afterInserts (table : Table StoredViolation) (calls : List StoredViolation) :
    Table StoredViolation :=
  calls.foldl afterInsert table

theorem afterInsert_of_lt {table : Table StoredViolation} (h : table.last < maxInteger)
    (call : StoredViolation) : afterInsert table call = table.append call := by
  simp only [afterInsert, insertViolation, Table.insert_of_lt h]

theorem afterInsert_of_not_lt {table : Table StoredViolation} (h : ¬ table.last < maxInteger)
    (call : StoredViolation) : afterInsert table call = table := by
  simp only [afterInsert, insertViolation, Table.insert_of_not_lt h]

/-- A call keeps the rows that are there. -/
theorem mem_afterInsert {table : Table StoredViolation} {row : Row StoredViolation}
    (h : row ∈ table.rows) (call : StoredViolation) : row ∈ (afterInsert table call).rows := by
  by_cases hlast : table.last < maxInteger
  · rw [afterInsert_of_lt hlast]
    exact List.mem_append_left _ h
  · rwa [afterInsert_of_not_lt hlast]

/-- Calls keep the rows that are there. -/
theorem mem_afterInserts {table : Table StoredViolation} {row : Row StoredViolation}
    (h : row ∈ table.rows) (calls : List StoredViolation) :
    row ∈ (afterInserts table calls).rows := by
  induction calls generalizing table with
  | nil => exact h
  | cons call calls ih => exact ih (mem_afterInsert h call)

/-- As long as there are ids, each call writes its row. -/
theorem data_afterInserts {table : Table StoredViolation} {calls : List StoredViolation}
    (h : table.last + calls.length ≤ maxInteger) :
    (afterInserts table calls).rows.map Row.data = table.rows.map Row.data ++ calls := by
  induction calls generalizing table with
  | nil => simp [afterInserts]
  | cons call calls ih =>
    rw [List.length_cons] at h
    have hlast : table.last < maxInteger := by omega
    have hids : (table.append call).last + calls.length ≤ maxInteger := by
      rw [Table.last_append]
      omega
    have hrest := ih hids
    rw [← afterInsert_of_lt hlast] at hrest
    refine hrest.trans ?_
    rw [afterInsert_of_lt hlast]
    simp

/-- The first call writes the row with the id 1, which stays. -/
theorem first_mem_afterInserts (first : StoredViolation) (later : List StoredViolation) :
    ⟨1, first⟩ ∈ (afterInserts Table.empty (first :: later)).rows := by
  have hfirst : ⟨1, first⟩ ∈ (afterInsert Table.empty first).rows := by
    rw [afterInsert_of_lt (by decide)]
    exact List.mem_singleton_self _
  exact mem_afterInserts hfirst later

end Run

end EdgeSafety
