import EdgeSafety.Detection.PpeChecker
import EdgeSafety.Detection.RoiBounds
import EdgeSafety.Lib.Transition

/-!
# The camera threads of the desktop application

`run` of `gpu/cam1_thread.py` and `gpu/cam2_thread.py`. The two loops receive frames, look for
persons on every third one and tell the user interface what they see. Beside what is called on a
frame they differ in three things, which are parameters here: the second one skips frames without
motion, survives an exception of the detector and classifies the equipment of the persons.

The zones of a thread may be replaced at any time by another thread (`reload`), so a step ends
wherever `run` looks at them.
-/

namespace EdgeSafety
open Loops

/-- A record of `roi_config` with its name. -/
structure ZoneRecord (K : Type) extends RoiRecord K where
  zoneName : String

/-- What the signal `alert` carries. -/
structure CameraAlert (K : Type) where
  type : String
  zoneName : String
  personIdx : Nat
  bbox : BBox K

/-- What is drawn, from what. -/
inductive Picture (K : Type)
  | disconnected
  | frame (frame : NdArray)
  | detectionOffline (frame : NdArray)
  | overlay (frame : NdArray) (persons : List (DetectedObject K))
      (labels : Option (List (PpeResult K))) (rois : List (ZoneRecord K))

/-- The signals that a thread emits. -/
inductive Signal (K : Type)
  | frameReady (cameraId : String) (picture : Picture K)
  | alert (alert : CameraAlert K)

/-- What the threads call on frames and zones. -/
structure Vision (K Gray : Type) where
  /-- `cv2.imdecode`. -/
  imdecode : List UInt8 → Except String (Option NdArray)
  /-- `cv2.cvtColor` and `cv2.GaussianBlur` in `_has_motion`. -/
  gray : NdArray → Gray
  /-- `cv2.absdiff(previous, gray).mean()`. -/
  meanDiff : Gray → Gray → K
  /-- `point_in_polygon`. -/
  pointInPolygon : K × K → List (K × K) → Except ZeroDivisionError Bool
  /-- The frame size of the thread's `ROIChecker`. -/
  frameSize : Option (Int × Int) := some (320, 240)

/-- What makes a thread one of the two. -/
structure CameraSetup (K Gray : Type) extends Vision K Gray where
  cameraId : String
  gatesMotion : Bool
  catchesDetect : Bool
  ppeManager : Option (PPEManager K)

/-- `Cam1Thread`. -/
def Cam1Thread {K Gray : Type} (vision : Vision K Gray) : CameraSetup K Gray :=
  { vision with
    cameraId := "cam1"
    gatesMotion := false
    catchesDetect := false
    ppeManager := none }

/-- `Cam2Thread`. -/
def Cam2Thread {K Gray : Type} (vision : Vision K Gray) (ppeManager : PPEManager K) :
    CameraSetup K Gray :=
  { vision with
    cameraId := "cam2", gatesMotion := true, catchesDetect := true, ppeManager := some ppeManager }

/-- Where `run` is. -/
inductive CameraPc (K : Type)
  | head
  | receiving
  /-- About to call `get_bounds`. -/
  | bounding (frame : NdArray)
  /-- In `detect_roi`. -/
  | detecting (frame : NdArray) (roiBounds : Option RoiBounds)
  /-- In the loop over the persons, with those that are left; after it, about to classify and draw. -/
  | checking (frame : NdArray) (persons rest : List (DetectedObject K))
      (zoneAlerts : List (CameraAlert K))
  | ended
  | raised

/-- A camera thread, with the zones of its `ROIChecker`, the `_frame_counter` of its `PPEChecker`
and the signals that it emitted. -/
structure CameraThread (K Gray : Type) where
  running : Bool := true
  disconnected : Bool := false
  frameCount : Nat := 0
  prevGray : Option Gray := none
  modelOk : Bool := true
  ppeFrames : Nat := 0
  rois : List (ZoneRecord K)
  signals : List (Signal K) := []
  pc : CameraPc K := .head

variable {K Gray : Type} [Field K] [LinearOrder K] [FloorRing K]

/-- What `detect_roi` makes of the persons that `detect` finds on the frame, or on the part of it
that the zones are in. -/
def YOLODetector.detectRoi (detected : Except DetectError (List (DetectedObject K)))
    (roiBounds : Option RoiBounds) : Except DetectError (List (DetectedObject K)) :=
  match roiBounds with
  | none => detected
  | some bounds =>
    if bounds.w < 32 ∨ bounds.h < 32 then .ok []
    else detected.map fun objects => objects.map fun object =>
      { object with bbox :=
          { x1 := object.bbox.x1 + bounds.x, y1 := object.bbox.y1 + bounds.y
            x2 := object.bbox.x2 + bounds.x, y2 := object.bbox.y2 + bounds.y } }

/-- The point where a person stands. -/
def footPoint (person : DetectedObject K) : K × K :=
  (person.bbox.x1 + person.bbox.width / (2 : ℕ), person.bbox.y2)

/-- The alerts about a person in zones; the index is cut out of the person's address. -/
def zoneAlertsOf (person : DetectedObject K) (address : Nat) (zones : List (ZoneRecord K)) :
    List (CameraAlert K) :=
  zones.map fun zone =>
    { type := "PERSON_IN_ZONE", zoneName := zone.zoneName, personIdx := address % 65536,
      bbox := person.bbox }

/-- The alerts about missing equipment. -/
def ppeAlertsOf (results : List (PpeResult K)) : List (CameraAlert K) :=
  results.flatMap fun result => result.violations.map fun violation =>
    { type := violation, zoneName := "", personIdx := result.personIdx, bbox := result.bbox }

namespace CameraSetup

variable (setup : CameraSetup K Gray)

/-- `_has_motion`, with the `_prev_gray` it finds and the one it leaves. -/
def hasMotion (previous : Option Gray) (frame : NdArray) : Bool × Option Gray :=
  let gray := setup.gray frame
  match previous with
  | none => (true, some gray)
  | some previous => (decide (setup.meanDiff previous gray > (30 : ℕ)), some gray)

/-- `ROIChecker.check_person`, on zones with names. -/
def checkPerson (rois : List (ZoneRecord K)) (point : K × K) :
    Except ZeroDivisionError (List (ZoneRecord K)) :=
  (rois.filter fun roi => roi.isEnabled).filterM fun roi => setup.pointInPolygon point roi.points

/-- `process_persons` of the thread's `PPEChecker`, if it has one. -/
def processPersons (frameCounter : Nat) (frame : NdArray) (persons : List (DetectedObject K)) :
    Except DetectError (Option (List (PpeResult K))) × Nat :=
  match setup.ppeManager with
  | none => (.ok none, frameCounter)
  | some ppe =>
    let (outcome, checker) := ({ ppe, frameCounter } : PPEChecker K).processPersons frame persons
    (outcome.map some, checker.frameCounter)

end CameraSetup

namespace CameraThread

/-- What happens next. -/
inductive Event (K : Type)
  /-- `stop`. -/
  | stop
  /-- `update_rois`. -/
  | reload (rois : List (ZoneRecord K))
  /-- The condition of the loop. -/
  | loop
  /-- `recv` times out. -/
  | again
  /-- `recv` returns. -/
  | message (data : List UInt8)
  | getBounds
  /-- `detect` answers or raises, if `detect_roi` calls it. -/
  | detect (detected : Except DetectError (List (DetectedObject K)))
  /-- `check_person` for the next person, who is at an address. -/
  | checkPerson (address : Nat)
  /-- `process_persons`, and the drawing, which may raise. -/
  | draw (raised : Bool)

variable (setup : CameraSetup K Gray) (s : CameraThread K Gray)

/-- The picture is emitted, and the loop goes on. -/
def shows (picture : Picture K) : CameraThread K Gray :=
  { s with signals := s.signals ++ [.frameReady setup.cameraId picture], pc := .head }

/-- A frame is decoded. -/
def decoded (frame : NdArray) : CameraThread K Gray :=
  let s := { s with frameCount := s.frameCount + 1 }
  if s.frameCount % 3 ≠ 0 then s.shows setup (.frame frame)
  else if setup.gatesMotion then
    let (moved, prevGray) := setup.hasMotion s.prevGray frame
    let s := { s with prevGray }
    if moved then { s with pc := .bounding frame } else s.shows setup (.frame frame)
  else { s with pc := .bounding frame }

/-- The detector is done. -/
def detected (frame : NdArray) (outcome : Except DetectError (List (DetectedObject K))) :
    CameraThread K Gray :=
  match outcome with
  | .ok persons => { s with modelOk := true, pc := .checking frame persons persons [] }
  | .error _ =>
    if setup.catchesDetect then
      if s.modelOk then { s with modelOk := false }.shows setup (.detectionOffline frame)
      else { s with pc := .head }
    else { s with pc := .raised }

/-- The persons are checked. -/
def drawn (frame : NdArray) (persons : List (DetectedObject K)) (zoneAlerts : List (CameraAlert K))
    (raised : Bool) : CameraThread K Gray :=
  let (outcome, ppeFrames) := setup.processPersons s.ppeFrames frame persons
  let s := { s with ppeFrames }
  match outcome with
  | .error _ => { s with pc := .raised }
  | .ok labels =>
    if raised then { s with pc := .raised }
    else
      let s := s.shows setup (.overlay frame persons labels s.rois)
      { s with signals := s.signals ++ (zoneAlerts ++ ppeAlertsOf (labels.getD [])).map .alert }

/-- One step of a thread, or of another that calls `stop` or `update_rois`. -/
def step : Event K → Option (CameraThread K Gray)
  | .stop => some { s with running := false }
  | .reload rois => some { s with rois }
  | .loop =>
    match s.pc with
    | .head => some { s with pc := if s.running then .receiving else .ended }
    | _ => none
  | .again =>
    match s.pc with
    | .receiving =>
      some (if s.disconnected then { s with pc := .head }
        else { s with disconnected := true }.shows setup .disconnected)
    | _ => none
  | .message data =>
    match s.pc with
    | .receiving =>
      let s := { s with disconnected := false }
      some (match setup.imdecode data with
        | .error _ => { s with pc := .raised }
        | .ok none => { s with pc := .head }
        | .ok (some frame) => s.decoded setup frame)
    | _ => none
  | .getBounds =>
    match s.pc with
    | .bounding frame =>
      let roiBounds := computeRoiBounds (s.rois.map ZoneRecord.toRoiRecord) (16 : ℕ) setup.frameSize
      some { s with pc := .detecting frame roiBounds }
    | _ => none
  | .detect detected =>
    match s.pc with
    | .detecting frame roiBounds =>
      some (s.detected setup frame (YOLODetector.detectRoi detected roiBounds))
    | _ => none
  | .checkPerson address =>
    match s.pc with
    | .checking frame persons (person :: rest) zoneAlerts =>
      some { s with pc :=
        match setup.checkPerson s.rois (footPoint person) with
        | .error _ => .raised
        | .ok zones =>
          .checking frame persons rest (zoneAlerts ++ zoneAlertsOf person address zones) }
    | _ => none
  | .draw raised =>
    match s.pc with
    | .checking frame persons [] zoneAlerts => some (s.drawn setup frame persons zoneAlerts raised)
    | _ => none

end CameraThread

end EdgeSafety
