import EdgeSafety.Lib.Transition
import EdgeSafety.Lib.Custody
import EdgeSafety.Lib.Matching
import EdgeSafety.Lib.RoundRobin
import EdgeSafety.Lib.Heapq
import EdgeSafety.Lib.PriorityBag
import EdgeSafety.Lib.Family
import EdgeSafety.Lib.Dict
import EdgeSafety.Lib.FirstWrite
import EdgeSafety.Lib.Suppression
import EdgeSafety.Shared.Vision
import EdgeSafety.Shared.NdArray
import EdgeSafety.Shared.Configuration
import EdgeSafety.Tracking.Manager
import EdgeSafety.Tracking.CompatiblePairs
import EdgeSafety.Tracking.Covariance
import EdgeSafety.Capture.FrameRegister
import EdgeSafety.Capture.ReconnectPolicy
import EdgeSafety.Inference.Staleness
import EdgeSafety.Inference.CircuitBreaker
import EdgeSafety.Inference.Fairness
import EdgeSafety.Inference.PoseQueue
import EdgeSafety.Inference.LoadOrder
import EdgeSafety.Inference.RegistryInvariant
import EdgeSafety.Runtime.Readiness
import EdgeSafety.Runtime.PoseRequests
import EdgeSafety.Runtime.Metrics
import EdgeSafety.Supervisor.Watchdog
import EdgeSafety.Supervisor.Shutdown
import EdgeSafety.Supervisor.AbandonedLocks
import EdgeSafety.SharedMemory.ExactOverlay
import EdgeSafety.SharedMemory.LeakedSlots
import EdgeSafety.SharedMemory.Attach
import EdgeSafety.SharedMemory.ResultSteps
import EdgeSafety.Server.Events
import EdgeSafety.Server.Previews
import EdgeSafety.Detection.ClassNames
import EdgeSafety.Detection.NonMaximum
import EdgeSafety.Detection.PpeChecker
import EdgeSafety.Detection.Scheduler
import EdgeSafety.Lib.SharedDevice
import EdgeSafety.Lib.Rounding
import EdgeSafety.Inference.PipelineBatches
import EdgeSafety.Lib.Assignment
import EdgeSafety.Edge.MotionGate
import EdgeSafety.Edge.SourceManager
import EdgeSafety.Alert.RateLimiting
import EdgeSafety.Alert.RoiCache
import EdgeSafety.Analytics.Occlusion
import EdgeSafety.Lib.ConvexPolygon
import EdgeSafety.Detection.RoiBounds
import EdgeSafety.Inference.OnnxBackend
import EdgeSafety.Lib.Digits
import EdgeSafety.Server.EventKeys
import EdgeSafety.Runtime.MetricsText
import EdgeSafety.SharedMemory.ResultRoundTrip
import EdgeSafety.Alert.LowConfidence
import EdgeSafety.Lib.Overlap
import EdgeSafety.Alert.BoxOverlap
import EdgeSafety.Lib.Sqlite
import EdgeSafety.Lib.Timestamps
import EdgeSafety.Alert.ViolationTable
import EdgeSafety.Server.HistoryPage
import EdgeSafety.Server.Thumbnails
import EdgeSafety.Server.RoiZones
import EdgeSafety.Lib.LastWrite
import EdgeSafety.Lib.PutLatest
import EdgeSafety.Inference.ResultFrames
import EdgeSafety.Runtime.Phase2Threads
import EdgeSafety.Runtime.PoseFlow
import EdgeSafety.Runtime.PoseAccounts
import EdgeSafety.Runtime.PoseOrigin
import EdgeSafety.Capture.CaptureProcess
import EdgeSafety.Capture.CaptureAccounts
import EdgeSafety.Capture.CapturePacing
import EdgeSafety.Capture.CaptureStop
import EdgeSafety.Lib.Fanout
import EdgeSafety.Lib.Base64
import EdgeSafety.Server.Broadcasts
import EdgeSafety.Server.RemoteFrames
import EdgeSafety.Alert.CameraThreads
import EdgeSafety.Alert.ThreadAlerts
import EdgeSafety.Alert.ThreadAnnouncements
import EdgeSafety.Desktop.CameraThread
import EdgeSafety.Desktop.FrameJournal
import EdgeSafety.Desktop.FrameFates
import EdgeSafety.Desktop.CameraSignals
import EdgeSafety.Desktop.EdgeSender
import EdgeSafety.Scripts.ModelInstall
import EdgeSafety.Scripts.VerifiedArtifacts
