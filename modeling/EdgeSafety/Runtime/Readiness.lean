import EdgeSafety.Capture.CameraHealth
import EdgeSafety.Inference.LoadOrder
import EdgeSafety.Tracking.Manager

/-!
# Readiness

`main.py` up to its `readiness`, with what `Phase2Runtime.__init__` checks. Readiness looks at the
cameras and at the health of the enabled models; whether detection runs at all depends on their
roles and output formats, which it does not look at. It can be trusted exactly where the
configuration has what `Phase2Runtime` asks for, or something is not ready
(`readiness_implies_inference_iff`).
-/

namespace EdgeSafety

/-- What the constructors called in `main` raise. -/
inductive StartError
  | registry (raised : RegistryError)
  | valueError (text : String)
  deriving DecidableEq

/-- A pipeline over one backend. -/
structure Pipeline where
  backend : Nat
  configuration : ModelConfig
  deriving DecidableEq

/-- The check of the output format with which the pipelines begin. -/
def Pipeline.checked (name outputFormat : String) (backend : Nat) (configuration : ModelConfig) :
    Except StartError Pipeline :=
  if configuration.outputFormat ≠ some outputFormat then
    .error (.valueError s!"{name} requires output_format={outputFormat}")
  else .ok { backend, configuration }

/-- `RTMDetPipeline.__init__`. -/
def rtmDetPipeline : Nat → ModelConfig → Except StartError Pipeline :=
  Pipeline.checked "RTMDet" "mmdeploy-dets-labels"

/-- `RTMPosePipeline.__init__`. -/
def rtmPosePipeline : Nat → ModelConfig → Except StartError Pipeline :=
  Pipeline.checked "RTMPose" "simcc-coco17"

/-- `Phase2Runtime`. -/
structure Phase2Runtime (K : Type) [Field K] [LinearOrder K] where
  detector : Pipeline
  trackers : PerCameraTrackerManager K
  posePipeline : Option Pipeline

section
variable {K : Type} [Field K] [LinearOrder K]

namespace Phase2Runtime

/-- The pipeline over the backend of a model. -/
def pipelineOf (registry : ModelRegistry)
    (pipeline : Nat → ModelConfig → Except StartError Pipeline) (name : String) :
    Except StartError Pipeline := do
  let backend ← (registry.get name).mapError .registry
  let configuration ← (registry.configuration name).mapError .registry
  pipeline backend configuration

/-- `__init__`, from the ids of the cameras that the supervisor has. The options of the trackers,
which the code leaves at their defaults, decide nothing here. -/
def init (options : TrackerOptions K) (cameraIds : List String) (registry : ModelRegistry) :
    Except StartError (Phase2Runtime K) :=
  match registry.namesForRole .detector with
  | [detectorName] => do
    let detector ← pipelineOf registry rtmDetPipeline detectorName
    let trackers ← (PerCameraTrackerManager.init cameraIds options).mapError .valueError
    match registry.namesForRole .pose with
    | [] => .ok { detector, trackers, posePipeline := none }
    | [poseName] => do
      let posePipeline ← pipelineOf registry rtmPosePipeline poseName
      .ok { detector, trackers, posePipeline := some posePipeline }
    | _ => .error (.valueError "Phase 2 supports one shared pose model")
  | _ => .error (.valueError "Phase 2 requires exactly one enabled person detector")

end Phase2Runtime

/-- `ReadinessSnapshot`. -/
structure ReadinessSnapshot where
  ready : Bool
  configurationLoaded : Bool
  camerasReady : Bool
  modelsReady : Bool
  details : List (String × String)
  deriving DecidableEq

/-- The cameras of `EdgeSupervisor`. -/
def EdgeConfiguration.enabledCameras (configuration : EdgeConfiguration) : List CameraConfig :=
  configuration.cameras.filter fun camera => camera.enabled

/-- What `main` has when it defines `readiness`. -/
structure EdgeMain (K : Type) [Field K] [LinearOrder K] where
  configuration : EdgeConfiguration
  registry : ModelRegistry
  phase2 : Option (Phase2Runtime K)

namespace EdgeMain

/-- `main` up to there; the exceptions that it does not catch end it. -/
def start (options : TrackerOptions K) (configuration : EdgeConfiguration)
    (construction : String → Construction) : Except StartError (EdgeMain K) := do
  let registry ← (ModelRegistry.init configuration.models ∅).mapError .valueError
  let registry ← match registry.loadEnabled construction with
    | (.ok _, registry) => .ok registry
    | (.error (.modelUnavailable _), registry) => .ok registry
    | (.error raised, _) => .error (.registry raised)
  if registry.namesForRole .detector = [] then
    .ok { configuration, registry, phase2 := none }
  else
    match Phase2Runtime.init options (configuration.enabledCameras.map CameraConfig.cameraId)
      registry with
    | .ok phase2 => .ok { configuration, registry, phase2 := some phase2 }
    | .error (.registry (.modelUnavailable _)) => .ok { configuration, registry, phase2 := none }
    | .error (.valueError _) => .ok { configuration, registry, phase2 := none }
    | .error raised => .error raised

/-- `readiness`, from the health snapshots of the supervisor. -/
def readiness (edge : EdgeMain K) (snapshots : String → Option CameraHealthSnapshot) :
    ReadinessSnapshot :=
  let enabledCameras := edge.configuration.cameras.filter fun camera => camera.enabled
  let camerasReady := !enabledCameras.isEmpty && enabledCameras.all fun camera =>
    (snapshots camera.cameraId).any fun snapshot => snapshot.state = .running
  let enabledModels := edge.configuration.models.filter fun model => model.enabled
  let statuses := edge.registry.statuses.filter fun status =>
    enabledModels.any fun model => model.name = status.name ∧ model.enabled
  let modelsReady := !enabledModels.isEmpty && statuses.all fun status => status.health = .ready
  { ready := camerasReady && modelsReady
    configurationLoaded := true
    camerasReady
    modelsReady
    details := [("phase", "phase2"),
      ("inference", if edge.phase2.isSome then "active" else "unavailable")] }

end EdgeMain

/-- The enabled models of a role. -/
def EdgeConfiguration.enabledModels (configuration : EdgeConfiguration) (role : ModelRole) :
    List ModelConfig :=
  configuration.models.filter fun model => model.role = role ∧ model.enabled = true

/-- Detection runs: there is a `Phase2Runtime`, and the models that it needs are enabled and ready,
as are all others that are enabled. -/
structure WorkingInference (edge : EdgeMain K) : Prop where
  phase2 : edge.phase2.isSome
  detector : ∃ detector, edge.configuration.enabledModels .detector = [detector]
  pose : (edge.configuration.enabledModels .pose).length ≤ 1
  loaded : ∀ model ∈ edge.configuration.models, model.enabled → ∃ record,
    edge.registry.records.get? model.name = some record ∧ record.health = .ready ∧
      record.backend.isSome

/-- There are enabled cameras, and all of them run. -/
def AllRunning (configuration : EdgeConfiguration)
    (snapshots : String → Option CameraHealthSnapshot) : Prop :=
  (∃ camera ∈ configuration.cameras, camera.enabled) ∧
    ∀ camera ∈ configuration.cameras, camera.enabled →
      ∃ snapshot, snapshots camera.cameraId = some snapshot ∧ snapshot.state = .running

/-- There are enabled models, and all of them can be loaded. -/
def AllLoad (configuration : EdgeConfiguration) (construction : String → Construction) : Prop :=
  (∃ model ∈ configuration.models, model.enabled) ∧
    ∀ model ∈ configuration.models, model.enabled →
      model.backend = "onnxruntime" ∧ construction model.name = .loads

/-- The configuration has what `Phase2Runtime` asks for. -/
def Phase2Configured (configuration : EdgeConfiguration) : Prop :=
  (∃ detector, configuration.enabledModels .detector = [detector] ∧
      detector.outputFormat = some "mmdeploy-dets-labels") ∧
    (configuration.enabledModels .pose).length ≤ 1 ∧
    ∀ pose ∈ configuration.enabledModels .pose, pose.outputFormat = some "simcc-coco17"

/-! ## The registry after `load_enabled` -/

namespace ModelRegistry

/-- The models are ready and hold their backends. -/
def HoldsAll (registry : ModelRegistry) (configurations : List ModelConfig) : Prop :=
  ∀ configuration ∈ configurations, configuration.enabled → ∃ record,
    registry.records.get? configuration.name = some record ∧
      record.configuration = configuration ∧ record.health = .ready ∧ record.backend.isSome

section Loading
variable {registry : ModelRegistry} {configuration : ModelConfig}
  {configurations : List ModelConfig} {construction : String → Construction}

/-- The load of an untouched model succeeds, or raises and leaves it not ready. -/
theorem load_untouched_cases
    (hrecord : registry.records.get? configuration.name = some configuration.record)
    (henabled : configuration.enabled) (construction : Construction) :
    let result := registry.load configuration.name construction
    ((configuration.backend ∈ registry.factories ∧ construction = .loads) ∧
        (∃ backend, result.1 = .ok backend) ∧ HoldsAll result.2 [configuration]) ∨
      (¬ (configuration.backend ∈ registry.factories ∧ construction = .loads) ∧
        (∃ raised, result.1 = .error raised) ∧ ∃ record,
          result.2.records.get? configuration.name = some record ∧ record.health ≠ .ready) := by
  rw [load_eq_attempt hrecord henabled (ready_record configuration)]
  unfold attempt
  split
  · next hunknown =>
    exact Or.inr ⟨fun h => hunknown h.1, ⟨_, rfl⟩, _, Dict.get?_set_self _ _ _,
      (fun h => by cases h)⟩
  · next hknown =>
    cases construction with
    | loads =>
      refine Or.inl ⟨⟨not_not.mp hknown, rfl⟩, ⟨_, rfl⟩, fun _ hmem _ => ?_⟩
      obtain rfl := List.mem_singleton.mp hmem
      exact ⟨_, Dict.get?_set_self _ _ _, rfl, rfl, rfl⟩
    | factoryRaises | loadRaises _ | loadInterrupted =>
      exact Or.inr ⟨(fun h => by cases h.2), ⟨_, rfl⟩, _, Dict.get?_set_self _ _ _,
        (fun h => by cases h)⟩

/-- If all enabled models are ready after the loop, all can be loaded; and if they can, they are
ready and hold their backends. -/
theorem loadItems_ready (hnodup : (configurations.map ModelConfig.name).Nodup)
    (h : Untouched registry configurations) :
    let after := (loadItems construction (itemsOf configurations) registry).2
    ((∀ configuration ∈ configurations, configuration.enabled → ∃ record,
        after.records.get? configuration.name = some record ∧ record.health = .ready) →
      ∀ configuration ∈ configurations, configuration.enabled →
        configuration.backend ∈ registry.factories ∧
          construction configuration.name = .loads) ∧
    ((∀ configuration ∈ configurations, configuration.enabled →
        configuration.backend ∈ registry.factories ∧
          construction configuration.name = .loads) →
      HoldsAll after configurations) := by
  induction configurations generalizing registry with
  | nil => exact ⟨fun _ _ hmem => absurd hmem List.not_mem_nil,
      fun _ _ hmem => absurd hmem List.not_mem_nil⟩
  | cons first rest ih =>
    rw [List.map_cons, List.nodup_cons] at hnodup
    obtain ⟨hfirst, hrest⟩ := List.forall_mem_cons.mp h
    rw [itemsOf, List.map_cons]
    by_cases henabled : first.enabled
    · have hrest' := load_rest_untouched hrest hnodup.1 (construction first.name)
      rcases load_untouched_cases hfirst henabled (construction first.name) with
        ⟨hloads, ⟨backend, hok⟩, hholds⟩ | ⟨hnot, ⟨raised, herror⟩, hunready⟩
      · rw [loadItems_cons_ok henabled hok, ← itemsOf]
        obtain ⟨hready, hhold⟩ := ih hnodup.2 hrest'
        rw [load_factories] at hready hhold
        refine ⟨fun hall => List.forall_mem_cons.mpr ⟨fun _ => hloads,
          hready (List.forall_mem_cons.mp hall).2⟩, fun hall => List.forall_mem_cons.mpr
            ⟨fun _ => ?_, hhold (List.forall_mem_cons.mp hall).2⟩⟩
        obtain ⟨record, hrecord, hheld⟩ := hholds first (List.mem_singleton_self _) henabled
        exact ⟨record, (loadItems_get? _ hnodup.1 _).trans hrecord, hheld⟩
      · -- the loop ends with a model that is not ready
        rw [loadItems_cons_error henabled herror]
        obtain ⟨record, hrecord, hhealth⟩ := hunready
        refine ⟨fun hall => ?_, fun hall =>
          absurd ((List.forall_mem_cons.mp hall).1 henabled) hnot⟩
        obtain ⟨record', hrecord', hready⟩ := (List.forall_mem_cons.mp hall).1 henabled
        rw [Option.some.inj (hrecord.symm.trans hrecord')] at hhealth
        exact absurd hready hhealth
    · rw [loadItems_cons_disabled henabled, ← itemsOf]
      obtain ⟨hready, hhold⟩ := ih hnodup.2 hrest
      exact ⟨fun hall => List.forall_mem_cons.mpr ⟨fun h => absurd h henabled,
        hready (List.forall_mem_cons.mp hall).2⟩, fun hall => List.forall_mem_cons.mpr
          ⟨fun h => absurd h henabled, hhold (List.forall_mem_cons.mp hall).2⟩⟩

/-- The names and configurations of the records. -/
def named (registry : ModelRegistry) : List (String × ModelConfig) :=
  registry.records.entries.map fun entry => (entry.1, entry.2.configuration)

theorem load_named (registry : ModelRegistry) (name : String) (construction : Construction) :
    (registry.load name construction).2.named = registry.named := by
  rcases load_cases registry name construction with ⟨hsame, -⟩ | ⟨record, hrecord, -, -, hattempt⟩
  · rw [hsame]
  · obtain ⟨-, after, hrecords, hafter⟩ := registry.attempt_records name record construction
    rw [hattempt, named, hrecords]
    exact Dict.map_set _ hrecord (congrArg (Prod.mk name) hafter)

theorem loadItems_named (construction : String → Construction)
    (items : List (String × ModelRecord)) (registry : ModelRegistry) :
    (loadItems construction items registry).2.named = registry.named :=
  loadItems_preserves (I := fun after => after.named = registry.named)
    (fun name _ after construction hnamed => (load_named after name construction).trans hnamed) rfl

theorem namesForRole_eq
    (h : registry.named = configurations.map fun configuration =>
      (configuration.name, configuration)) (role : ModelRole) :
    registry.namesForRole role =
      (configurations.filter fun configuration =>
        configuration.role = role ∧ configuration.enabled = true).map ModelConfig.name := by
  have hnames : registry.namesForRole role = (registry.named.filter fun entry =>
      entry.2.role = role ∧ entry.2.enabled = true).map Prod.fst := by
    rw [named, List.filter_map, List.map_map]
    rfl
  rw [hnames, h, List.filter_map, List.map_map]
  rfl

end Loading

end ModelRegistry

/-! ## Start and readiness -/

/-- What `main` has at `readiness`: the registry after its load, and a `Phase2Runtime` if its
constructor returns. -/
theorem EdgeMain.start_cases {options : TrackerOptions K} {configuration : EdgeConfiguration}
    {construction : String → Construction} {edge : EdgeMain K}
    (h : EdgeMain.start options configuration construction = .ok edge) :
    edge.configuration = configuration ∧
      (∃ registry, ModelRegistry.init configuration.models ∅ = .ok registry ∧
        edge.registry = (registry.loadEnabled construction).2) ∧
      (edge.phase2.isSome ↔ ∃ phase2 : Phase2Runtime K, Phase2Runtime.init options
        (configuration.enabledCameras.map CameraConfig.cameraId) edge.registry = .ok phase2) := by
  unfold EdgeMain.start at h
  cases hinit : ModelRegistry.init configuration.models ∅ with
  | error text =>
    rw [hinit] at h
    cases h
  | ok registry =>
    rw [hinit] at h
    simp only [Except.mapError, bind, Except.bind] at h
    obtain ⟨after, hafter, h⟩ : ∃ after, after = (registry.loadEnabled construction).2 ∧
        (if after.namesForRole .detector = [] then
          .ok { configuration, registry := after, phase2 := none }
        else
          match Phase2Runtime.init options (configuration.enabledCameras.map CameraConfig.cameraId)
            after with
          | .ok phase2 => .ok { configuration, registry := after, phase2 := some phase2 }
          | .error (.registry (.modelUnavailable _)) =>
            .ok { configuration, registry := after, phase2 := none }
          | .error (.valueError _) => .ok { configuration, registry := after, phase2 := none }
          | .error raised => .error raised) = (.ok edge : Except StartError (EdgeMain K)) := by
      refine ⟨_, rfl, ?_⟩
      generalize registry.loadEnabled construction = loaded at h ⊢
      obtain ⟨answer, after⟩ := loaded
      cases answer with
      | ok _ => exact h
      | error raised =>
        cases raised with
        | modelUnavailable text => exact h
        | keyError text => cases h
        | passedOn => cases h
    split at h
    · next hnone =>
      obtain rfl := Except.ok.inj h
      refine ⟨rfl, ⟨registry, rfl, hafter⟩, ⟨(fun h => by cases h), fun ⟨phase2, hphase2⟩ => ?_⟩⟩
      simp only [Phase2Runtime.init, hnone] at hphase2
      cases hphase2
    · split at h
      · next phase2 hphase2 =>
        obtain rfl := Except.ok.inj h
        exact ⟨rfl, ⟨registry, rfl, hafter⟩, ⟨fun _ => ⟨phase2, hphase2⟩, fun _ => rfl⟩⟩
      · next hphase2 =>
        obtain rfl := Except.ok.inj h
        refine ⟨rfl, ⟨registry, rfl, hafter⟩, ⟨(fun h => by cases h), fun ⟨phase2, h⟩ => ?_⟩⟩
        cases hphase2.symm.trans h
      · next hphase2 =>
        obtain rfl := Except.ok.inj h
        refine ⟨rfl, ⟨registry, rfl, hafter⟩, ⟨(fun h => by cases h), fun ⟨phase2, h⟩ => ?_⟩⟩
        cases hphase2.symm.trans h
      · cases h

theorem Pipeline.checked_ok_iff (name outputFormat : String) (backend : Nat)
    (configuration : ModelConfig) :
    (∃ pipeline, Pipeline.checked name outputFormat backend configuration = .ok pipeline) ↔
      configuration.outputFormat = some outputFormat := by
  unfold Pipeline.checked
  split
  · next hne => exact ⟨(fun ⟨_, h⟩ => by cases h), fun h => absurd h hne⟩
  · next heq => exact ⟨fun _ => not_not.mp heq, fun _ => ⟨_, rfl⟩⟩

/-- Over a model that is ready, a pipeline can be made if its output format is the one required. -/
theorem Phase2Runtime.pipelineOf_ok_iff {configuration : EdgeConfiguration}
    {registry : ModelRegistry} (hholds : registry.HoldsAll configuration.models) {role : ModelRole}
    {model : ModelConfig} (hmodel : model ∈ configuration.enabledModels role)
    (name outputFormat : String) :
    (∃ pipeline,
        pipelineOf registry (Pipeline.checked name outputFormat) model.name = .ok pipeline) ↔
      model.outputFormat = some outputFormat := by
  obtain ⟨hmem, hrole⟩ := List.mem_filter.mp hmodel
  obtain ⟨record, hrecord, hconfiguration, hready, hbackend⟩ :=
    hholds model hmem (of_decide_eq_true hrole).2
  obtain ⟨backend, hsome⟩ := Option.isSome_iff_exists.mp hbackend
  have hget : registry.get model.name = .ok backend := by
    simp only [ModelRegistry.get, hrecord, ModelRecord.ready, hready, hsome, if_true]
  have hconfig : registry.configuration model.name = .ok model := by
    rw [ModelRegistry.configuration, hrecord, ← hconfiguration]
  rw [pipelineOf, hget, hconfig]
  exact Pipeline.checked_ok_iff name outputFormat backend model

theorem EdgeConfiguration.trackers_init (configuration : EdgeConfiguration)
    (options : TrackerOptions K) : ∃ trackers : PerCameraTrackerManager K,
      PerCameraTrackerManager.init (configuration.enabledCameras.map CameraConfig.cameraId)
        options = .ok trackers := by
  refine PerCameraTrackerManager.init_succeeds ?_ (fun hmem => ?_) options
  · exact configuration.cameraIds_nodup.sublist (List.filter_sublist.map _)
  · obtain ⟨camera, -, hid⟩ := List.mem_map.mp hmem
    have hlength := camera.cameraId_bounds.1
    rw [hid] at hlength
    exact absurd hlength (by decide)

/-- With all enabled models ready, the constructor returns for the right configurations. -/
theorem Phase2Runtime.init_ok_iff (options : TrackerOptions K)
    {configuration : EdgeConfiguration} {registry : ModelRegistry}
    (hnamed : registry.named = configuration.models.map fun model => (model.name, model))
    (hholds : registry.HoldsAll configuration.models) :
    (∃ phase2 : Phase2Runtime K, Phase2Runtime.init options
        (configuration.enabledCameras.map CameraConfig.cameraId) registry = .ok phase2) ↔
      Phase2Configured configuration := by
  have hdetectorNames : registry.namesForRole .detector =
      (configuration.enabledModels .detector).map ModelConfig.name :=
    ModelRegistry.namesForRole_eq hnamed .detector
  have hposeNames : registry.namesForRole .pose =
      (configuration.enabledModels .pose).map ModelConfig.name :=
    ModelRegistry.namesForRole_eq hnamed .pose
  have hdetectors : ∀ model ∈ configuration.enabledModels .detector,
      (∃ pipeline, pipelineOf registry rtmDetPipeline model.name = .ok pipeline) ↔
        model.outputFormat = some "mmdeploy-dets-labels" := fun _ hmodel =>
    pipelineOf_ok_iff hholds hmodel "RTMDet" "mmdeploy-dets-labels"
  have hposes : ∀ model ∈ configuration.enabledModels .pose,
      (∃ pipeline, pipelineOf registry rtmPosePipeline model.name = .ok pipeline) ↔
        model.outputFormat = some "simcc-coco17" := fun _ hmodel =>
    pipelineOf_ok_iff hholds hmodel "RTMPose" "simcc-coco17"
  obtain ⟨trackers, htrackers⟩ := configuration.trackers_init options
  unfold Phase2Runtime.init Phase2Configured
  rw [hdetectorNames, hposeNames, htrackers]
  generalize configuration.enabledModels .detector = detectors at hdetectors ⊢
  generalize configuration.enabledModels .pose = poses at hposes ⊢
  match detectors with
  | [] => exact ⟨(fun ⟨_, h⟩ => by cases h), (fun h => by simp at h)⟩
  | _ :: _ :: _ => exact ⟨(fun ⟨_, h⟩ => by cases h), (fun h => by simp at h)⟩
  | [detector] =>
    have hformat := hdetectors detector (List.mem_singleton_self _)
    simp only [List.map_cons, List.map_nil]
    cases hdetector : pipelineOf registry rtmDetPipeline detector.name with
    | error raised =>
      refine ⟨(fun ⟨_, h⟩ => by cases h), fun ⟨⟨other, hother, h⟩, _⟩ => ?_⟩
      obtain rfl := List.singleton_inj.mp hother
      obtain ⟨_, hok⟩ := hformat.mpr h
      cases hdetector.symm.trans hok
    | ok pipeline =>
      have hdetectorFormat := hformat.mp ⟨pipeline, hdetector⟩
      match poses with
      | [] => exact ⟨fun _ => ⟨⟨detector, rfl, hdetectorFormat⟩, by simp⟩, fun _ => ⟨_, rfl⟩⟩
      | _ :: _ :: _ => exact ⟨(fun ⟨_, h⟩ => by cases h), (fun h => by simp at h)⟩
      | [pose] =>
        have hposeFormat := hposes pose (List.mem_singleton_self _)
        simp only [List.map_cons, List.map_nil]
        cases hpose : pipelineOf registry rtmPosePipeline pose.name with
        | error raised =>
          refine ⟨(fun ⟨_, h⟩ => by cases h), fun ⟨_, _, h⟩ => ?_⟩
          obtain ⟨_, hok⟩ := hposeFormat.mpr (h pose (List.mem_singleton_self _))
          cases hpose.symm.trans hok
        | ok posePipeline =>
          refine ⟨fun _ => ⟨⟨detector, rfl, hdetectorFormat⟩, le_rfl, fun other hother => ?_⟩,
            fun _ => ⟨_, rfl⟩⟩
          obtain rfl := List.mem_singleton.mp hother
          exact hposeFormat.mp ⟨posePipeline, hpose⟩

/-- A record of each model, under its name, and no others. -/
theorem ModelRegistry.mem_entries_iff {registry : ModelRegistry} {configurations : List ModelConfig}
    (hnamed : registry.named = configurations.map fun model => (model.name, model)) :
    (∀ entry ∈ registry.records.entries,
        entry.2.configuration ∈ configurations ∧ entry.1 = entry.2.configuration.name) ∧
      ∀ model ∈ configurations, ∃ record, (model.name, record) ∈ registry.records.entries ∧
        record.configuration = model := by
  constructor
  · intro entry hentry
    have hmem : (entry.1, entry.2.configuration) ∈ registry.named :=
      List.mem_map.mpr ⟨entry, hentry, rfl⟩
    rw [hnamed] at hmem
    obtain ⟨model, hmodel, heq⟩ := List.mem_map.mp hmem
    obtain ⟨hname, hconfiguration⟩ := Prod.mk.inj heq
    rw [← hconfiguration, ← hname]
    exact ⟨hmodel, rfl⟩
  · intro model hmodel
    have hmem : (model.name, model) ∈ registry.named := by
      rw [hnamed]
      exact List.mem_map.mpr ⟨model, hmodel, rfl⟩
    obtain ⟨⟨name, record⟩, hentry, heq⟩ := List.mem_map.mp hmem
    obtain ⟨rfl, hconfiguration⟩ := Prod.mk.inj heq
    exact ⟨record, hentry, hconfiguration⟩

/-- What the statuses say that `readiness` looks at. -/
theorem EdgeMain.statuses_ready_iff {edge : EdgeMain K}
    (hnamed : edge.registry.named = edge.configuration.models.map fun model =>
      (model.name, model)) :
    (∀ status ∈ edge.registry.statuses,
        (∃ model ∈ edge.configuration.models, model.enabled ∧ model.name = status.name) →
          status.health = .ready) ↔
      ∀ model ∈ edge.configuration.models, model.enabled → ∃ record,
        edge.registry.records.get? model.name = some record ∧ record.health = .ready := by
  obtain ⟨hentries, hmodels⟩ := ModelRegistry.mem_entries_iff hnamed
  constructor
  · intro h model hmodel henabled
    obtain ⟨record, hrecord, -⟩ := hmodels model hmodel
    exact ⟨record, Dict.get?_eq_some_iff.mpr hrecord, h _ (List.mem_map.mpr ⟨_, hrecord, rfl⟩)
      ⟨model, hmodel, henabled, rfl⟩⟩
  · rintro h status hstatus ⟨model, hmodel, henabled, hname⟩
    obtain ⟨⟨name, record⟩, hentry, rfl⟩ := List.mem_map.mp hstatus
    change model.name = name at hname
    obtain ⟨found, hfound, hready⟩ := h model hmodel henabled
    rw [hname, Dict.get?_eq_some_iff.mpr hentry] at hfound
    rw [← Option.some.inj hfound] at hready
    exact hready

/-- When `readiness` says that the runtime is ready. -/
theorem EdgeMain.ready_iff {edge : EdgeMain K}
    (hnamed : edge.registry.named = edge.configuration.models.map fun model =>
      (model.name, model)) (snapshots : String → Option CameraHealthSnapshot) :
    (edge.readiness snapshots).ready ↔ AllRunning edge.configuration snapshots ∧
      (∃ model ∈ edge.configuration.models, model.enabled) ∧
        ∀ model ∈ edge.configuration.models, model.enabled → ∃ record,
          edge.registry.records.get? model.name = some record ∧ record.health = .ready := by
  rw [← EdgeMain.statuses_ready_iff hnamed, AllRunning]
  have hnonempty : ∀ {α : Type} (l : List α), (!l.isEmpty) = true ↔ ∃ a, a ∈ l := fun l => by
    cases l <;> simp
  -- the source asks for `enabled` twice
  have htwice : ∀ a b : Prop, (a ∧ b ∧ a) ↔ (a ∧ b) := by tauto
  simp only [EdgeMain.readiness, Bool.and_eq_true, hnonempty, List.all_eq_true, List.any_eq_true,
    List.mem_filter, Option.any_eq_true, decide_eq_true_eq, and_assoc, and_imp, htwice]

/-- What `readiness` reports can be trusted, that is, detection runs when it says ready, if and only
if the cameras and models are not all ready or the configuration has what `Phase2Runtime` asks
for. -/
theorem readiness_implies_inference_iff {options : TrackerOptions K}
    {configuration : EdgeConfiguration} {construction : String → Construction} {edge : EdgeMain K}
    (hstart : EdgeMain.start options configuration construction = .ok edge)
    (snapshots : String → Option CameraHealthSnapshot) :
    ((edge.readiness snapshots).ready → WorkingInference edge) ↔
      (AllRunning configuration snapshots → AllLoad configuration construction →
        Phase2Configured configuration) := by
  obtain ⟨rfl, ⟨registry, hinit, hregistry⟩, hphase2⟩ := EdgeMain.start_cases hstart
  obtain ⟨hnodup, hfactories, hentries, huntouched⟩ := ModelRegistry.init_untouched hinit
  have hnamed : edge.registry.named =
      edge.configuration.models.map fun model => (model.name, model) := by
    rw [hregistry, ModelRegistry.loadEnabled, ModelRegistry.loadItems_named, ModelRegistry.named,
      hentries, ModelRegistry.itemsOf, List.map_map]
    rfl
  obtain ⟨hloads, hholds⟩ := @ModelRegistry.loadItems_ready _ _ construction hnodup huntouched
  rw [← hentries, ← ModelRegistry.loadEnabled, ← hregistry] at hloads hholds
  have hknown : ∀ model : ModelConfig,
      model.backend ∈ registry.factories ↔ model.backend = "onnxruntime" := fun model => by
    simp [hfactories]
  simp only [hknown] at hloads hholds
  rw [EdgeMain.ready_iff hnamed]
  constructor
  · intro h hrunning hload
    have hall := hholds hload.2
    have hready : ∀ model ∈ edge.configuration.models, model.enabled → ∃ record,
        edge.registry.records.get? model.name = some record ∧ record.health = .ready :=
      fun model hmodel henabled => by
        obtain ⟨record, hrecord, -, hhealth, -⟩ := hall model hmodel henabled
        exact ⟨record, hrecord, hhealth⟩
    have hworking := h ⟨hrunning, hload.1, hready⟩
    exact (Phase2Runtime.init_ok_iff options hnamed hall).mp (hphase2.mp hworking.phase2)
  · rintro h ⟨hrunning, hsome, hready⟩
    have hload := hloads hready
    have hall := hholds hload
    have hconfigured := h hrunning ⟨hsome, hload⟩
    have hexists := hphase2.mpr ((Phase2Runtime.init_ok_iff options hnamed hall).mpr hconfigured)
    obtain ⟨⟨detector, hdetector, -⟩, hpose, -⟩ := hconfigured
    refine ⟨hexists, ⟨detector, hdetector⟩, hpose, fun model hmodel henabled => ?_⟩
    obtain ⟨record, hrecord, -, hhealth, hbackend⟩ := hall model hmodel henabled
    exact ⟨record, hrecord, hhealth, hbackend⟩

/-- One camera that runs, and the shipped detector. -/
def detectorOnly : EdgeConfiguration where
  cameras := [{ cameraId := "cam-a" }]
  models := [ModelRegistry.personDetector]

/-- One camera that runs, and no model but a PPE model. -/
def ppeOnly : EdgeConfiguration where
  cameras := [{ cameraId := "cam-a" }]
  models := [ModelRegistry.ppeDetector]

/-- A camera that runs, as its snapshot shows it. -/
def runningCamera : String → Option CameraHealthSnapshot := fun _ =>
  some
    { state := .running, capturedFrames := 1, captureFailures := 0, reconnectCount := 0
      resolutionMismatchCount := 0, droppedFrames := 0, captureFps := 15
      lastSuccessMonotonicNs := 1, lastSuccessUnixNs := 1, width := 1280, height := 720 }

theorem readiness_implies_inference_iff_detectorOnly :
    ∃ edge : EdgeMain ℚ, EdgeMain.start {} detectorOnly (fun _ => .loads) = .ok edge ∧
      (((edge.readiness runningCamera).ready → WorkingInference edge) ↔
        (AllRunning detectorOnly runningCamera → AllLoad detectorOnly (fun _ => .loads) →
          Phase2Configured detectorOnly)) := by
  have hstart : EdgeMain.start (K := ℚ) {} detectorOnly (fun _ => .loads) = .ok _ := rfl
  exact ⟨_, hstart, readiness_implies_inference_iff hstart runningCamera⟩

/-- With no detector enabled, a loaded PPE model and a running camera are enough to be ready. -/
theorem ppeOnly_ready_without_inference :
    ∃ edge : EdgeMain ℚ, EdgeMain.start {} ppeOnly (fun _ => .loads) = .ok edge ∧
      (edge.readiness runningCamera).ready = true ∧ edge.phase2 = none ∧
        ¬ ((edge.readiness runningCamera).ready → WorkingInference edge) := by
  refine ⟨_, rfl, rfl, rfl, fun h => ?_⟩
  cases (h rfl).phase2

end

end EdgeSafety
