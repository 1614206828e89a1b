import EdgeSafety.Lib.Dict
import EdgeSafety.Shared.Models
import Mathlib.Algebra.Order.Field.Rat

/-!
# Regions of interest

The decision of `ROIMatcher` in `alert/roi_matcher.py`, over the table `roi_configs`. The polygons
are Shapely's, of which the matcher uses the constructor and two predicates.
-/

namespace EdgeSafety

/-- What the matcher uses of Shapely. -/
structure Shapely (K P : Type) where
  polygon : List (K × K) → P
  contains : P → K × K → Bool
  touches : P → K × K → Bool

/-- `roi_configs`: the points of the cameras that have a region. -/
abbrev RoiConfigs (K : Type) := Dict String (List (K × K))

/-- `ROIMatcher._load_polygon`, with what `get_roi` returns. -/
def Shapely.loadPolygon {K P : Type} (shapely : Shapely K P) (row : Option (List (K × K))) :
    Option P :=
  match row with
  | none => none
  | some points => if points.length < 3 then none else some (shapely.polygon points)

variable {K P : Type} [Field K] [LinearOrder K]

/-- The centre that `is_in_roi` looks at. -/
def BBox.center (box : BBox K) : K × K :=
  ((box.x1 + box.x2) / (2 : Nat), (box.y1 + box.y2) / (2 : Nat))

/-- `ROIMatcher.is_in_roi`, once it has the polygon of the camera. -/
def Shapely.isInPolygon (shapely : Shapely K P) (polygon : Option P) (bbox : BBox K) : Bool :=
  match polygon with
  | none => true
  | some polygon => shapely.contains polygon bbox.center || shapely.touches polygon bbox.center

/-- What `is_in_roi` answers while the table stays as it is. -/
def Shapely.isInRoi (shapely : Shapely K P) (configs : RoiConfigs K) (cameraId : String)
    (bbox : BBox K) : Bool :=
  shapely.isInPolygon (shapely.loadPolygon (configs.get? cameraId)) bbox

/-- Shapely on rectangles with sides along the axes. -/
def rectangles : Shapely ℚ (BBox ℚ) where
  polygon points :=
    let xs := points.map Prod.fst
    let ys := points.map Prod.snd
    ⟨xs.foldl min (xs.headD 0), ys.foldl min (ys.headD 0), xs.foldl max (xs.headD 0),
      ys.foldl max (ys.headD 0)⟩
  contains box point := box.x1 < point.1 ∧ point.1 < box.x2 ∧ box.y1 < point.2 ∧ point.2 < box.y2
  touches box point := box.x1 ≤ point.1 ∧ point.1 ≤ box.x2 ∧ box.y1 ≤ point.2 ∧ point.2 ≤ box.y2 ∧
    (point.1 = box.x1 ∨ point.1 = box.x2 ∨ point.2 = box.y1 ∨ point.2 = box.y2)

end EdgeSafety
