/-!
# Runtime configuration

The settings of `shared/schemas` the modelled components read. A bound that the schema checks is a
field, so that a value it rejects cannot be built.
-/

namespace EdgeSafety

/-- `SchedulerConfig`. -/
structure SchedulerConfig where
  maxFrameAgeMs : Nat := 500
  detectorBatchSize : Nat := 1
  inferenceTimeoutMs : Nat := 1000
  circuitBreakerFailures : Nat := 3
  circuitBreakerResetMs : Nat := 10000
  maxFrameAgeMs_bounds : 50 ≤ maxFrameAgeMs ∧ maxFrameAgeMs ≤ 10000 := by decide
  detectorBatchSize_bounds : 1 ≤ detectorBatchSize ∧ detectorBatchSize ≤ 8 := by decide
  inferenceTimeoutMs_bounds : 10 ≤ inferenceTimeoutMs ∧ inferenceTimeoutMs ≤ 30000 := by decide
  circuitBreakerFailures_bounds :
    1 ≤ circuitBreakerFailures ∧ circuitBreakerFailures ≤ 100 := by decide
  circuitBreakerResetMs_bounds :
    100 ≤ circuitBreakerResetMs ∧ circuitBreakerResetMs ≤ 300000 := by decide

/-- `ReconnectConfig`. -/
structure ReconnectConfig where
  readTimeoutMs : Nat := 2000
  readTimeoutMs_bounds : 100 ≤ readTimeoutMs ∧ readTimeoutMs ≤ 30000 := by decide

/-- `ModelRole`. -/
inductive ModelRole
  | detector
  | ppe
  | pose
  deriving DecidableEq

/-- `ModelConfig`. -/
structure ModelConfig where
  name : String
  role : ModelRole
  backend : String := "onnxruntime"
  provider : String := "CUDAExecutionProvider"
  enabled : Bool := true
  outputFormat : Option String := none
  name_bounds : 1 ≤ name.length ∧ name.length ≤ 128 := by decide
  deriving DecidableEq

/-- `CameraConfig`. -/
structure CameraConfig where
  cameraId : String
  enabled : Bool := true
  cameraId_bounds : 1 ≤ cameraId.length ∧ cameraId.length ≤ 128 := by decide
  deriving DecidableEq

/-- `EdgeConfiguration`, with what `validate_references` checks. -/
structure EdgeConfiguration where
  cameras : List CameraConfig
  models : List ModelConfig
  cameraIds_nodup : (cameras.map CameraConfig.cameraId).Nodup := by decide
  names_nodup : (models.map ModelConfig.name).Nodup := by decide
  deriving DecidableEq

end EdgeSafety
