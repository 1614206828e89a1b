import EdgeSafety.Server.HistoryPage

/-!
# Thumbnails of violations

`api_get_thumbnail` of `dashboard/server.py`, which looks for the violation among the newest
thousand. So a violation loses its thumbnail when enough newer ones have been recorded
(`serves_iff`), and the history page links thumbnails that are not found
(`notFound_on_late_pages`).
-/

namespace EdgeSafety.Thumbnails

open Sqlite

/-- The response to a request. -/
inductive Response
  | httpException (statusCode : Nat) (detail : String)
  | fileResponse (path mediaType : String)
  deriving DecidableEq

/-- `api_get_thumbnail`, where `fileExists` tells which paths exist. -/
def apiGetThumbnail (orderBy : List (Row StoredViolation) → List (Row StoredViolation))
    (table : Table StoredViolation) (fileExists : String → Bool) (violationId : Int) : Response :=
  let rows := getViolations orderBy table { limit := 1000 }
  match rows.find? (fun r => r.id = violationId) with
  | none => .httpException 404 "Thumbnail not found"
  | some found =>
    -- `None` and the empty text are both false
    let path := found.data.thumbnailPath.getD ""
    if path = "" then .httpException 404 "Thumbnail not found"
    else if fileExists path then .fileResponse path "image/jpeg"
    else .httpException 404 "Thumbnail file missing"

/-- The newest rows, as the request lists them. -/
def newest (orderBy : List (Row StoredViolation) → List (Row StoredViolation))
    (table : Table StoredViolation) : List (Row StoredViolation) :=
  (orderBy table.rows).take 1000

/-- Whatever order SQLite gives to the violations of one second, the request gets the file of the
row. -/
def Serves (table : Table StoredViolation) (fileExists : String → Bool)
    (row : Row StoredViolation) (path : String) : Prop :=
  ∀ orderBy, OrdersDescending orderBy createdText →
    apiGetThumbnail orderBy table fileExists row.id = .fileResponse path "image/jpeg"

section Lookup

variable {orderBy : List (Row StoredViolation) → List (Row StoredViolation)}
  {table : Table StoredViolation} {fileExists : String → Bool} {row : Row StoredViolation}
  {path : String}

theorem getViolations_newest (orderBy : List (Row StoredViolation) → List (Row StoredViolation))
    (table : Table StoredViolation) :
    getViolations orderBy table { limit := 1000 } = newest orderBy table := by
  have hselects : table.rows.filter ({ limit := 1000 } : ViolationQuery).selects = table.rows :=
    List.filter_eq_self.mpr fun _ _ => rfl
  rw [getViolations, hselects]
  exact limitOffset_natCast 1000 0 _

theorem newest_subset (horder : OrdersDescending orderBy createdText) :
    newest orderBy table ⊆ table.rows := fun _ h =>
  (horder.perm table.rows).subset (List.mem_of_mem_take h)

/-- A violation among the newest ones is found. -/
theorem apiGetThumbnail_of_mem (horder : OrdersDescending orderBy createdText)
    (hmem : row ∈ newest orderBy table) (hpath : row.data.thumbnailPath = some path)
    (hne : path ≠ "") (hexists : fileExists path = true) :
    apiGetThumbnail orderBy table fileExists row.id = .fileResponse path "image/jpeg" := by
  rw [apiGetThumbnail, getViolations_newest, Table.find?_of_mem (newest_subset horder) hmem]
  simp [hpath, hne, hexists]

/-- Any other one is not. -/
theorem apiGetThumbnail_of_notMem (horder : OrdersDescending orderBy createdText)
    (hrow : row ∈ table.rows) (hnot : row ∉ newest orderBy table) :
    apiGetThumbnail orderBy table fileExists row.id =
      .httpException 404 "Thumbnail not found" := by
  rw [apiGetThumbnail, getViolations_newest,
    Table.find?_of_notMem (newest_subset horder) hrow hnot]

theorem createdText_le_iff {r : Row StoredViolation} :
    createdText row ≤ createdText r ↔ row.data.createdAt ≤ r.data.createdAt :=
  Timestamp.text_le_iff

/-- How many violations are as new as a row. -/
theorem countFrom_createdText (row : Row StoredViolation) (rows : List (Row StoredViolation)) :
    countFrom createdText row rows =
      rows.countP fun r => row.data.createdAt ≤ r.data.createdAt :=
  List.countP_congr fun r _ => by simp [createdText_le_iff]

theorem serves_of_countP_le (hrow : row ∈ table.rows)
    (hpath : row.data.thumbnailPath = some path) (hne : path ≠ "")
    (hexists : fileExists path = true)
    (hcount : table.rows.countP (fun r => row.data.createdAt ≤ r.data.createdAt) ≤ 1000) :
    Serves table fileExists row path := by
  intro orderBy horder
  rw [← countFrom_createdText] at hcount
  exact apiGetThumbnail_of_mem horder (mem_take_of_countFrom_le horder hrow hcount) hpath hne
    hexists

/-- An order that has the row behind all that are as new does not serve it. -/
theorem countP_le_of_serves (hrow : row ∈ table.rows)
    (hserves : Serves table fileExists row path) :
    table.rows.countP (fun r => row.data.createdAt ≤ r.data.createdAt) ≤ 1000 := by
  by_contra hcount
  rw [not_le, ← countFrom_createdText] at hcount
  obtain ⟨orderBy, horder, hnot⟩ := exists_order_notMem_take table.nodup hcount
  have hserved := hserves orderBy horder
  rw [apiGetThumbnail_of_notMem horder hrow hnot] at hserved
  exact Response.noConfusion hserved

/-- After any calls of `insert_violation`, the thumbnail of a violation can be fetched as long as at
most a thousand violations, this one included, are as new. -/
theorem serves_iff (calls : List StoredViolation)
    (hrow : row ∈ (afterInserts Table.empty calls).rows)
    (hpath : row.data.thumbnailPath = some path) (hne : path ≠ "")
    (hexists : fileExists path = true) :
    Serves (afterInserts Table.empty calls) fileExists row path ↔
      (afterInserts Table.empty calls).rows.countP
        (fun r => row.data.createdAt ≤ r.data.createdAt) ≤ 1000 :=
  ⟨countP_le_of_serves hrow, serves_of_countP_le hrow hpath hne hexists⟩

/-- The first violation is not found after a thousand later ones, whatever the order. -/
theorem notFound_after_later (horder : OrdersDescending orderBy createdText)
    {first : StoredViolation} {later : List StoredViolation} (hmany : 1000 ≤ later.length)
    (hids : (later.length + 1 : Int) ≤ maxInteger)
    (hlater : ∀ call ∈ later, first.createdAt < call.createdAt) :
    apiGetThumbnail orderBy (afterInserts Table.empty (first :: later)) fileExists 1 =
      .httpException 404 "Thumbnail not found" := by
  have hids' : (Table.empty : Table StoredViolation).last + (first :: later).length ≤
      maxInteger := by
    simpa using hids
  have hdata := data_afterInserts hids'
  have hcount : 1000 ≤ countAbove createdText ⟨1, first⟩
      (afterInserts Table.empty (first :: later)).rows := by
    have hcolumn : countAbove (fun data => data.createdAt.text) first
        ((afterInserts Table.empty (first :: later)).rows.map Row.data) =
          countAbove createdText ⟨1, first⟩ (afterInserts Table.empty (first :: later)).rows :=
      countAbove_map (fun data : StoredViolation => data.createdAt.text) Row.data ⟨1, first⟩ _
    rw [← hcolumn, hdata, Table.rows_empty, List.map_nil, List.nil_append, countAbove,
      List.countP_cons_of_neg (by simp), List.countP_eq_length.mpr]
    · exact hmany
    · intro call hcall
      exact decide_eq_true (Timestamp.text_lt_iff.mpr (hlater call hcall))
  exact apiGetThumbnail_of_notMem horder (first_mem_afterInserts first later)
    (notMem_take_of_le_countAbove horder hcount)

/-- From the 51st page on, without filters, the history page has no thumbnail. -/
theorem notFound_on_late_pages (horder : OrdersDescending orderBy createdText) {page : Nat}
    (hpage : 50 ≤ page) (hrow : row ∈ limitOffset (20 : Nat) (page * 20 : Nat)
      (HistoryPage.filtered orderBy table "" "" none none)) :
    apiGetThumbnail orderBy table fileExists row.id =
      .httpException 404 "Thumbnail not found" := by
  have hselects : table.rows.filter (HistoryPage.fetchPage 1 "" "" none none).selects =
      table.rows := List.filter_eq_self.mpr fun _ _ => rfl
  rw [HistoryPage.filtered, hselects, limitOffset_natCast] at hrow
  have hdropped := List.mem_of_mem_take hrow
  have hnodup := (horder.perm table.rows).nodup_iff.mpr table.nodup
  have hdisjoint := List.disjoint_take_drop hnodup (show 1000 ≤ page * 20 by omega)
  exact apiGetThumbnail_of_notMem horder ((horder.perm table.rows).subset
    (List.mem_of_mem_drop hdropped)) fun hnewest => hdisjoint hnewest hdropped

end Lookup

section NewYear

/-- A violation with a thumbnail. -/
def fallAt (createdAt : Timestamp) : StoredViolation :=
  { cameraId := "cam-01", type := "FALL", severity := "HIGH", bbox := "[50, 60, 70, 80]"
    thumbnailPath := some "/t2.jpg", createdAt }

/-- The thumbnail of the only violation is served. -/
theorem serves_only :
    let newYear := Date.january 2024 1
    Serves (afterInserts Table.empty [fallAt (.fullHour newYear 10)]) (fun _ => true)
      ⟨1, fallAt (.fullHour newYear 10)⟩ "/t2.jpg" :=
  (serves_iff [fallAt _] (List.mem_singleton_self _) rfl (by decide) rfl).mpr (by decide)

/-- After a thousand violations of the next hour, it is not found, though it is still there. -/
theorem not_served_after_thousand :
    let newYear := Date.january 2024 1
    let first := fallAt (.fullHour newYear 10)
    let calls := first :: List.replicate 1000 (fallAt (.fullHour newYear 11))
    ⟨1, first⟩ ∈ (afterInserts Table.empty calls).rows ∧ first.thumbnailPath = some "/t2.jpg" ∧
      (∀ orderBy, OrdersDescending orderBy createdText →
        apiGetThumbnail orderBy (afterInserts Table.empty calls) (fun _ => true) 1 =
          .httpException 404 "Thumbnail not found") ∧
      ¬ Serves (afterInserts Table.empty calls) (fun _ => true) ⟨1, first⟩ "/t2.jpg" := by
  intro newYear first calls
  have hnotFound : ∀ orderBy, OrdersDescending orderBy createdText →
      apiGetThumbnail orderBy (afterInserts Table.empty calls) (fun _ => true) 1 =
        .httpException 404 "Thumbnail not found" := by
    intro orderBy horder
    apply notFound_after_later horder
    · rw [List.length_replicate]
    · rw [List.length_replicate]
      decide
    · intro call hcall
      rw [List.eq_of_mem_replicate hcall]
      decide
  refine ⟨first_mem_afterInserts _ _, rfl, hnotFound, ?_⟩
  intro hserves
  have hserved := hserves _ (ordersDescending_sortDescending createdText)
  rw [hnotFound _ (ordersDescending_sortDescending createdText)] at hserved
  exact Response.noConfusion hserved

end NewYear

end EdgeSafety.Thumbnails
