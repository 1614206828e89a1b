import EdgeSafety.Alert.Classifier
import EdgeSafety.Alert.Cooldown

/-!
# The alert pipeline

`AlertPipeline` of `alert/__init__.py`, with the dispatcher. A run is a sequence of calls of
`process`, each of which handles the violations of one frame one by one. What the pipeline does not
decide comes with the event: the answer of `is_in_roi`, the time that passes, and how the dispatch
ends. Either of the two calls may raise, which ends the call of `process`; the caller catches the
exception and goes on with the next frame.
-/

namespace EdgeSafety

variable {K : Type} [Field K] [LinearOrder K]

/-- A row of the table `violations`; `insertedUs` is the time of the INSERT. -/
structure ViolationRow (K : Type) where
  id : Nat
  cameraId : String
  type : ViolationType
  severity : SeverityLevel
  bbox : BBox K
  insertedUs : Nat
  deriving DecidableEq

/-- The key of a row. -/
def ViolationRow.key (row : ViolationRow K) : AlertKey := (row.cameraId, row.type)

/-- The key of a violation. -/
def Violation.key (violation : Violation K) : AlertKey := (violation.cameraId, violation.type)

/-- The row that `insert_violation` writes. -/
def Violation.row (violation : Violation K) (id insertedUs : Nat) : ViolationRow K :=
  { id, cameraId := violation.cameraId, type := violation.type, severity := violation.severity,
    bbox := violation.bbox, insertedUs }

/-- How a dispatch ends: it raises before the row is committed, or the row gets an id and the rest
of the dispatch returns or raises. -/
inductive Dispatched where
  | raised
  | inserted (id : Nat) (waitUs : Nat) (returned : Bool)

/-- What the pipeline meets at one violation: the answer of `is_in_roi` (`none` when it raises), the
time that passes before the cooldown reads the clock, and the end of a dispatch. -/
structure Surroundings where
  isInRoi : Option Bool
  waitUs : Nat
  dispatch : Dispatched

/-- The call of `process` that is under way, or the end of the last one. -/
inductive ProcessCall (K : Type) where
  | looping (violation : Violation K) (rest dispatched : List (Violation K))
  | returned (dispatched : List (Violation K))
  | raised

/-- The loop goes on with the violations that remain. -/
def ProcessCall.loop (remaining dispatched : List (Violation K)) : ProcessCall K :=
  match remaining with
  | [] => .returned dispatched
  | violation :: rest => .looping violation rest dispatched

/-- An event of a run. -/
inductive AlertEvent (K : Type) where
  | process (result : DetectionResult K)
  | iterate (surroundings : Surroundings)

/-- The state of a pipeline. -/
structure AlertPipeline (K : Type) [Field K] where
  classifier : ViolationClassifier K
  cooldown : CooldownManager K
  database : List (ViolationRow K)
  clockUs : Nat
  call : ProcessCall K

namespace AlertPipeline

/-- A new pipeline over a database. -/
def init (classifier : ViolationClassifier K) (cooldownSeconds : K)
    (database : List (ViolationRow K)) (clockUs : Nat) : AlertPipeline K :=
  { classifier, cooldown := { cooldownSeconds }, database, clockUs, call := .returned [] }

/-- `Dispatcher.dispatch`, and the loop after it. -/
def dispatch (pipeline : AlertPipeline K) (violation : Violation K)
    (rest dispatched : List (Violation K)) : Dispatched → AlertPipeline K
  | .raised => { pipeline with call := .raised }
  | .inserted id waitUs returned =>
    let nowUs := pipeline.clockUs + waitUs
    let row := violation.row id nowUs
    let violation := { violation with id := some id }
    { pipeline with
      clockUs := nowUs
      database := pipeline.database ++ [row]
      call := if returned then .loop rest (dispatched ++ [violation]) else .raised }

/-- One iteration of the loop of `process`. -/
def iterate (pipeline : AlertPipeline K) (violation : Violation K)
    (rest dispatched : List (Violation K)) (surroundings : Surroundings) : AlertPipeline K :=
  match surroundings.isInRoi with
  | none => { pipeline with call := .raised }
  | some false => { pipeline with call := .loop rest dispatched }
  | some true =>
    let nowUs := pipeline.clockUs + surroundings.waitUs
    let (alert, cooldown) := pipeline.cooldown.shouldAlert violation.key nowUs
    let pipeline := { pipeline with clockUs := nowUs, cooldown }
    if alert then pipeline.dispatch violation rest dispatched surroundings.dispatch
    else { pipeline with call := .loop rest dispatched }

/-- One step: a call of `process` starts when the last one is over, and handles one violation
after the other. -/
def step (pipeline : AlertPipeline K) : AlertEvent K → Option (AlertPipeline K)
  | .process result =>
    match pipeline.call with
    | .looping _ _ _ => none
    | _ => some { pipeline with call := .loop (pipeline.classifier.classify result) [] }
  | .iterate surroundings =>
    match pipeline.call with
    | .looping violation rest dispatched =>
      some (pipeline.iterate violation rest dispatched surroundings)
    | _ => none

end AlertPipeline

end EdgeSafety
