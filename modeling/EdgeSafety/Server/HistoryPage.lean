import EdgeSafety.Alert.ViolationTable

/-!
# The history page

What `fetchPage` of `history.html` asks of `get_violations`. The page writes the bounds of a day
with a `T`, which stands behind the space of a stored timestamp in the order of texts. So the lower
bound is after every second of its own day (`from_text_le_iff`), and the upper bound does what it
should (`text_le_to_iff`).
-/

namespace EdgeSafety.HistoryPage

open Sqlite

/-- The rows of a page. -/
def limit : Int := 20

/-- What the page sends for a first day. -/
def fromTime (date : Date) : String := date.text ++ "T00:00:00"

/-- What the page sends for a last day. -/
def toTime (date : Date) : String := date.text ++ "T23:59:59"

/-- The request of `fetchPage`, which leaves out the filters that are empty. -/
def fetchPage (page : Int) (camera type : String) (firstDay lastDay : Option Date) :
    ViolationQuery where
  cameraId := if camera = "" then none else some camera
  violationType := if type = "" then none else some type
  fromTime := firstDay.map fromTime
  toTime := lastDay.map toTime
  limit := limit
  offset := (page - 1) * limit

/-- `api_get_violations`: the parameters of `Query` refuse other limits and offsets. -/
def apiGetViolations (orderBy : List (Row StoredViolation) → List (Row StoredViolation))
    (table : Table StoredViolation) (query : ViolationQuery) :
    Except Nat (List (Row StoredViolation)) :=
  if 1 ≤ query.limit ∧ query.limit ≤ 1000 ∧ 0 ≤ query.offset then
    .ok (getViolations orderBy table query)
  else .error 422

/-- The query of the first page for the days from `first` to `last`, with another limit. -/
def daysQuery (first last : Date) (limit : Int) : ViolationQuery :=
  { fetchPage 1 "" "" (some first) (some last) with limit }

/-- The row was created on a day from `first` to `last`. -/
def onDays (first last : Date) (row : Row StoredViolation) : Bool :=
  first ≤ row.data.createdAt.date ∧ row.data.createdAt.date ≤ last

/-- The page shows exactly the rows of the chosen days. -/
def SelectsDays (orderBy : List (Row StoredViolation) → List (Row StoredViolation))
    (table : Table StoredViolation) (first last : Date) (limit : Int) : Prop :=
  (getViolations orderBy table (daysQuery first last limit)).Perm
    (table.rows.filter (onDays first last))

section Pages

variable (orderBy : List (Row StoredViolation) → List (Row StoredViolation))
  (table : Table StoredViolation) (camera type : String) (firstDay lastDay : Option Date)

/-- The rows of all pages of a filter. -/
def filtered : List (Row StoredViolation) :=
  orderBy (table.rows.filter (fetchPage 1 camera type firstDay lastDay).selects)

/-- The requests of the pages are accepted. -/
theorem apiGetViolations_fetchPage (page : Nat) :
    apiGetViolations orderBy table (fetchPage (page + 1) camera type firstDay lastDay) =
      .ok (limitOffset (20 : Nat) (page * 20 : Nat)
        (filtered orderBy table camera type firstDay lastDay)) := by
  have hoffset :
      (fetchPage (page + 1) camera type firstDay lastDay).offset = (page * 20 : Nat) := by
    simp [fetchPage, limit]
  have hlimit : (fetchPage (page + 1) camera type firstDay lastDay).limit = 20 := rfl
  rw [apiGetViolations, if_pos (by omega), getViolations, hoffset]
  rfl

/-- While the table does not change, the pages show each row that the filter selects once. -/
theorem pages_perm (horder : OrdersDescending orderBy createdText) {pages : Nat}
    (henough : (filtered orderBy table camera type firstDay lastDay).length ≤ pages * 20) :
    ((List.range pages).flatMap fun page => limitOffset (20 : Nat) (page * 20 : Nat)
      (filtered orderBy table camera type firstDay lastDay)).Perm
        (table.rows.filter (fetchPage 1 camera type firstDay lastDay).selects) := by
  rw [flatMap_limitOffset, List.take_of_length_le henough]
  exact horder.perm _

end Pages

section Bounds

theorem clock_lt_bound (time : Timestamp) (bound : String) :
    " " ++ time.clock < "T" ++ bound := by
  rw [String.lt_iff_toList_lt, String.toList_append, String.toList_append]
  exact List.cons_lt_cons_iff.mpr (Or.inl (by decide))

theorem from_text_le_iff (day : Date) (time : Timestamp) :
    fromTime day ≤ time.text ↔ day < time.date := by
  have hclock : " " ++ time.clock < "T00:00:00" := clock_lt_bound time "00:00:00"
  have hlt : time.text < fromTime day ↔ time.date ≤ day := by
    rw [fromTime, Timestamp.text, Date.text_append_lt_iff, and_iff_left hclock, le_iff_lt_or_eq]
  rw [← not_lt, hlt, not_le]

theorem text_le_to_iff (day : Date) (time : Timestamp) :
    time.text ≤ toTime day ↔ time.date ≤ day := by
  have hclock : ¬ "T23:59:59" < " " ++ time.clock := (clock_lt_bound time "23:59:59").not_gt
  have hlt : toTime day < time.text ↔ day < time.date := by
    rw [toTime, Timestamp.text, Date.text_append_lt_iff]
    exact or_iff_left fun h => hclock h.2
  rw [← not_lt, hlt, not_lt]

theorem text_append_ne (day : Date) {bound : String} (h : bound ≠ "") : day.text ++ bound ≠ "" := by
  simp [h]

/-- The query selects the days after the first one. -/
theorem selects_daysQuery (first last : Date) (limit : Int) (row : Row StoredViolation) :
    (daysQuery first last limit).selects row =
      decide (first < row.data.createdAt.date ∧ row.data.createdAt.date ≤ last) := by
  have hfrom : fromTime first ≠ "" := text_append_ne first (by decide)
  have hto : toTime last ≠ "" := text_append_ne last (by decide)
  simp only [ViolationQuery.selects, daysQuery, fetchPage, Option.map_some, if_true,
    condition_none, condition_some hfrom, condition_some hto, from_text_le_iff, text_le_to_iff,
    Bool.true_and, Bool.decide_and]

end Bounds

/-- On the days after the first one the query selects what it should. -/
theorem selects_eq_onDays_iff {first last : Date} (hle : first ≤ last) (limit : Int)
    (row : Row StoredViolation) :
    (daysQuery first last limit).selects row = onDays first last row ↔
      row.data.createdAt.date ≠ first := by
  rw [selects_daysQuery, onDays, decide_eq_decide]
  constructor
  · rintro hiff heq
    rw [heq] at hiff
    exact absurd (hiff.mpr ⟨le_rfl, hle⟩).1 (lt_irrefl first)
  · intro hne
    rw [lt_iff_le_and_ne]
    tauto

theorem countP_selects_le {first last : Date} (table : Table StoredViolation) (limit : Int) :
    table.rows.countP (daysQuery first last limit).selects ≤
      table.rows.countP (onDays first last) := by
  apply List.countP_mono_left
  intro row _ hselects
  rw [selects_daysQuery, decide_eq_true_eq] at hselects
  exact decide_eq_true ⟨hselects.1.le, hselects.2⟩

section SelectsDays

variable {orderBy : List (Row StoredViolation) → List (Row StoredViolation)}
  {table : Table StoredViolation} {first last : Date} {limit : Int}

/-- With a sufficient limit, the listing has the rows that the query selects. -/
theorem getViolations_daysQuery (horder : OrdersDescending orderBy createdText)
    (hlimit : limit < 0 ∨ ((table.rows.countP (onDays first last) : Nat) : Int) ≤ limit) :
    (getViolations orderBy table (daysQuery first last limit)).Perm
      (table.rows.filter (daysQuery first last limit).selects) := by
  refine getViolations_perm horder table (daysQuery first last limit) rfl ?_
  refine hlimit.imp_right fun henough => le_trans ?_ henough
  exact_mod_cast countP_selects_le table limit

theorem date_ne_of_selectsDays (horder : OrdersDescending orderBy createdText) (hle : first ≤ last)
    (hlimit : limit < 0 ∨ ((table.rows.countP (onDays first last) : Nat) : Int) ≤ limit)
    (hdays : SelectsDays orderBy table first last limit) {row : Row StoredViolation}
    (hrow : row ∈ table.rows) : row.data.createdAt.date ≠ first := by
  intro heq
  have honDays : row ∈ table.rows.filter (onDays first last) :=
    List.mem_filter.mpr ⟨hrow, decide_eq_true ⟨heq.ge, heq.le.trans hle⟩⟩
  have hselected := (hdays.symm.trans (getViolations_daysQuery horder hlimit)).mem_iff.mp honDays
  have hselects := (List.mem_filter.mp hselected).2
  rw [selects_daysQuery, decide_eq_true_eq] at hselects
  exact hselects.1.ne heq.symm

theorem selectsDays_of_date_ne (horder : OrdersDescending orderBy createdText) (hle : first ≤ last)
    (hlimit : limit < 0 ∨ ((table.rows.countP (onDays first last) : Nat) : Int) ≤ limit)
    (hne : ∀ row ∈ table.rows, row.data.createdAt.date ≠ first) :
    SelectsDays orderBy table first last limit := by
  have hsame : table.rows.filter (daysQuery first last limit).selects =
      table.rows.filter (onDays first last) :=
    List.filter_congr fun row hrow => (selects_eq_onDays_iff hle limit row).mpr (hne row hrow)
  rw [SelectsDays, ← hsame]
  exact getViolations_daysQuery horder hlimit

/-- The date filter of the history page is right where nothing happened on the first day. -/
theorem selectsDays_iff (horder : OrdersDescending orderBy createdText) (hle : first ≤ last)
    (hlimit : limit < 0 ∨ ((table.rows.countP (onDays first last) : Nat) : Int) ≤ limit) :
    SelectsDays orderBy table first last limit ↔
      ∀ row ∈ table.rows, row.data.createdAt.date ≠ first :=
  ⟨fun hdays _ => date_ne_of_selectsDays horder hle hlimit hdays,
    selectsDays_of_date_ne horder hle hlimit⟩

end SelectsDays

section NewYear

/-- A table with one violation. -/
def oneViolation (createdAt : Timestamp) : Table StoredViolation :=
  Table.empty.append
    { cameraId := "cam-01", type := "NO_HELMET", severity := "HIGH", bbox := "[10, 20, 30, 40]"
      thumbnailPath := some "/t1.jpg", createdAt }

/-- A violation of the second of January is listed for the first three days of the year. -/
theorem selectsDays_second_day :
    SelectsDays (sortDescending createdText) (oneViolation (.fullHour (.january 2024 2) 10))
      (.january 2024 1) (.january 2024 3) 100 := by
  refine (selectsDays_iff (ordersDescending_sortDescending _) (by decide) (by decide)).mpr ?_
  intro row hrow
  rw [List.mem_singleton.mp hrow]
  decide

/-- A violation of New Year's Day is not listed for this day. -/
theorem not_selectsDays_first_day :
    let newYear := Date.january 2024 1
    let table := oneViolation (.fullHour newYear 10)
    OrdersDescending (sortDescending createdText) createdText ∧ newYear ≤ newYear ∧
      table.rows.countP (onDays newYear newYear) ≤ 100 ∧
      ¬ SelectsDays (sortDescending createdText) table newYear newYear 100 := by
  intro newYear table
  refine ⟨ordersDescending_sortDescending _, le_rfl, by decide, ?_⟩
  intro hdays
  exact date_ne_of_selectsDays (ordersDescending_sortDescending _) le_rfl (by decide) hdays
    (List.mem_singleton_self _) rfl

end NewYear

end EdgeSafety.HistoryPage
