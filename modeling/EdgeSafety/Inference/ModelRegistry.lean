import Mathlib.Data.Finset.Basic
import EdgeSafety.Lib.Dict
import EdgeSafety.Shared.Configuration

/-!
# The model registry

`inference/model_registry.py`. A factory makes a new backend in every call, so backends are numbered
in the order in which they are made. What the factories and the backends do is an argument of the
method that calls them: `Construction` for a load, `Closing` for a close.
-/

namespace EdgeSafety

/-- `ModelHealth`. -/
inductive ModelHealth
  | disabled
  | loading
  | ready
  | degraded
  | unavailable
  | circuitOpen
  deriving DecidableEq

/-- `_ModelRecord`. -/
structure ModelRecord where
  configuration : ModelConfig
  health : ModelHealth := .disabled
  detail : String := ""
  backend : Option Nat := none
  deriving DecidableEq

/-- `ModelStatus`. -/
structure ModelStatus where
  name : String
  health : ModelHealth
  provider : String
  detail : String
  deriving DecidableEq

/-- What a call of a factory and of `load` on its backend does. -/
inductive Construction
  | factoryRaises
  /-- `backend.load` raises an `Exception` with this text. -/
  | loadRaises (text : String)
  /-- `backend.load` ends with what is no `Exception`, such as `KeyboardInterrupt`. -/
  | loadInterrupted
  | loads
  deriving DecidableEq

/-- What a call of `backend.close` does; where it raises, it may have unloaded the model before. -/
inductive Closing
  | returns
  | raises (unloaded : Bool)
  deriving DecidableEq

/-- What a method of the registry raises. -/
inductive RegistryError
  | keyError (text : String)
  | modelUnavailable (text : String)
  /-- What a factory or a backend raised. -/
  | passedOn
  deriving DecidableEq

/-- `ModelRegistry`, with the number of backends made and those that are loaded. -/
structure ModelRegistry where
  factories : Finset String
  records : Dict String ModelRecord
  made : Nat := 0
  loaded : Finset Nat := ∅

/-- `ModelHealth.UNAVAILABLE if configuration.enabled else ModelHealth.DISABLED`. -/
def ModelConfig.idleHealth (configuration : ModelConfig) : ModelHealth :=
  if configuration.enabled then .unavailable else .disabled

/-- A record as `__init__` makes it. -/
def ModelConfig.record (configuration : ModelConfig) : ModelRecord where
  configuration
  health := configuration.idleHealth

/-- The backend that `load` and `get` return at once. -/
def ModelRecord.ready (record : ModelRecord) : Option Nat :=
  if record.health = .ready then record.backend else none

namespace ModelRegistry

/-- `__init__`, with the keys of `factories`. -/
def init (configurations : List ModelConfig) (factories : Finset String) :
    Except String ModelRegistry :=
  if h : (configurations.map ModelConfig.name).Nodup then
    .ok
      { factories := insert "onnxruntime" factories
        records := ⟨configurations.map fun c => (c.name, c.record), by rwa [List.map_map]⟩ }
  else .error "model names must be unique"

/-- A new registry: an idle record for each model, and no backend. -/
theorem init_ok {configurations : List ModelConfig} {factories : Finset String}
    {registry : ModelRegistry} (h : init configurations factories = .ok registry) :
    (configurations.map ModelConfig.name).Nodup ∧
      registry.factories = insert "onnxruntime" factories ∧
      registry.records.entries = configurations.map (fun c => (c.name, c.record)) ∧
      registry.loaded = ∅ := by
  unfold init at h
  split at h
  · next hnodup =>
    obtain rfl := Except.ok.inj h
    exact ⟨hnodup, rfl, rfl, rfl⟩
  · cases h

/-- `self._records[name]` is updated in place. -/
def put (registry : ModelRegistry) (name : String) (record : ModelRecord) : ModelRegistry :=
  { registry with records := registry.records.set name record }

/-- `load`, from the choice of the factory on. -/
def attempt (registry : ModelRegistry) (name : String) (record : ModelRecord)
    (construction : Construction) : Except RegistryError Nat × ModelRegistry :=
  if record.configuration.backend ∉ registry.factories then
    let detail := s!"unknown backend: {record.configuration.backend}"
    (.error (.modelUnavailable detail),
      registry.put name { record with health := .unavailable, detail })
  else
    let record := { record with health := .loading, detail := "" }
    let backend := registry.made
    let made := { registry with made := registry.made + 1 }
    match construction with
    | .factoryRaises => (.error .passedOn, registry.put name record)
    | .loadRaises text =>
      (.error (.modelUnavailable s!"model {name} failed to load: {text}"),
        made.put name { record with health := .unavailable, detail := text, backend := none })
    | .loadInterrupted => (.error .passedOn, made.put name record)
    | .loads =>
      (.ok backend,
        { made.put name { record with backend := some backend, health := .ready } with
          loaded := insert backend registry.loaded })

/-- `load`. -/
def load (registry : ModelRegistry) (name : String) (construction : Construction) :
    Except RegistryError Nat × ModelRegistry :=
  match registry.records.get? name with
  | none => (.error (.keyError s!"unknown model: {name}"), registry)
  | some record =>
    if record.configuration.enabled then
      match record.ready with
      | some backend => (.ok backend, registry)
      | none => registry.attempt name record construction
    else (.error (.modelUnavailable s!"model {name} is disabled"), registry)

/-- The loop of `load_enabled` over the items that are left. -/
def loadItems (construction : String → Construction) :
    List (String × ModelRecord) → ModelRegistry → Except RegistryError Unit × ModelRegistry
  | [], registry => (.ok (), registry)
  | (name, record) :: items, registry =>
    if record.configuration.enabled then
      match registry.load name (construction name) with
      | (.error raised, registry) => (.error raised, registry)
      | (.ok _, registry) => loadItems construction items registry
    else loadItems construction items registry

/-- `load_enabled`. -/
def loadEnabled (registry : ModelRegistry) (construction : String → Construction) :
    Except RegistryError Unit × ModelRegistry :=
  loadItems construction registry.records.entries registry

/-- `get`. -/
def get (registry : ModelRegistry) (name : String) : Except RegistryError Nat :=
  match registry.records.get? name with
  | none => .error (.keyError s!"unknown model: {name}")
  | some record =>
    match record.ready with
    | none => .error (.modelUnavailable s!"model {name} is not ready: {record.detail}")
    | some backend => .ok backend

/-- `configuration`. -/
def configuration (registry : ModelRegistry) (name : String) : Except RegistryError ModelConfig :=
  match registry.records.get? name with
  | none => .error (.keyError s!"unknown model: {name}")
  | some record => .ok record.configuration

/-- `names_for_role`. -/
def namesForRole (registry : ModelRegistry) (role : ModelRole) : List String :=
  (registry.records.entries.filter fun (_, record) =>
    record.configuration.role = role ∧ record.configuration.enabled = true).map Prod.fst

/-- `statuses`. -/
def statuses (registry : ModelRegistry) : List ModelStatus :=
  registry.records.entries.map fun (name, record) =>
    { name
      health := record.health
      provider := record.configuration.provider
      detail := record.detail }

/-- The loop of `close` over the items that are left. -/
def closeItems (closing : String → Closing) :
    List (String × ModelRecord) → ModelRegistry → Except RegistryError Unit × ModelRegistry
  | [], registry => (.ok (), registry)
  | (name, record) :: items, registry =>
    let idle := { record with backend := none, health := record.configuration.idleHealth }
    match record.backend with
    | none => closeItems closing items (registry.put name idle)
    | some backend =>
      let unloaded := { registry with loaded := registry.loaded.erase backend }
      match closing name with
      | .raises true => (.error .passedOn, unloaded)
      | .raises false => (.error .passedOn, registry)
      | .returns => closeItems closing items (unloaded.put name idle)

/-- `close`. -/
def close (registry : ModelRegistry) (closing : String → Closing) :
    Except RegistryError Unit × ModelRegistry :=
  closeItems closing registry.records.entries registry

section Load
variable {registry : ModelRegistry} {name : String} {record : ModelRecord}

/-- A load that finds an enabled model without a backend makes an attempt. -/
theorem load_eq_attempt (hrecord : registry.records.get? name = some record)
    (henabled : record.configuration.enabled) (hready : record.ready = none)
    (construction : Construction) :
    registry.load name construction = registry.attempt name record construction := by
  rw [load, hrecord]
  simp only [henabled, hready, if_true]

/-- Every other load answers from what it finds and changes nothing. -/
theorem load_cases (registry : ModelRegistry) (name : String) (construction : Construction) :
    ((registry.load name construction).2 = registry ∧
        ∀ backend, (registry.load name construction).1 = .ok backend →
          ∃ record, registry.records.get? name = some record ∧ record.ready = some backend) ∨
      ∃ record, registry.records.get? name = some record ∧ record.configuration.enabled ∧
        record.ready = none ∧
          registry.load name construction = registry.attempt name record construction := by
  cases hrecord : registry.records.get? name with
  | none =>
    refine Or.inl ?_
    rw [load, hrecord]
    exact ⟨rfl, fun _ h => by cases h⟩
  | some record =>
    by_cases henabled : record.configuration.enabled
    · cases hready : record.ready with
      | none =>
        exact Or.inr ⟨record, rfl, henabled, hready, load_eq_attempt hrecord henabled hready _⟩
      | some backend =>
        refine Or.inl ?_
        rw [load, hrecord]
        simp only [henabled, hready, if_true]
        exact ⟨trivial, fun _ h => ⟨record, rfl, by rw [hready, Except.ok.inj h]⟩⟩
    · refine Or.inl ?_
      rw [load, hrecord]
      simp only [henabled]
      exact ⟨rfl, fun _ h => by cases h⟩

/-- An attempt updates the record of its model and leaves the factories. -/
theorem attempt_records (registry : ModelRegistry) (name : String) (record : ModelRecord)
    (construction : Construction) :
    (registry.attempt name record construction).2.factories = registry.factories ∧
      ∃ after : ModelRecord,
        (registry.attempt name record construction).2.records =
          registry.records.set name after ∧ after.configuration = record.configuration := by
  unfold attempt
  split
  · exact ⟨rfl, _, rfl, rfl⟩
  · cases construction <;> exact ⟨rfl, _, rfl, rfl⟩

theorem load_factories (construction : Construction) :
    (registry.load name construction).2.factories = registry.factories := by
  rcases load_cases registry name construction with ⟨hsame, -⟩ | ⟨record, -, -, -, hattempt⟩
  · rw [hsame]
  · rw [hattempt]
    exact (registry.attempt_records name record construction).1

theorem load_get?_of_ne (registry : ModelRegistry) {name other : String} (h : other ≠ name)
    (construction : Construction) :
    (registry.load name construction).2.records.get? other = registry.records.get? other := by
  rcases load_cases registry name construction with ⟨hsame, -⟩ | ⟨record, -, -, -, hattempt⟩
  · rw [hsame]
  · obtain ⟨-, after, hrecords, -⟩ :=
      registry.attempt_records name record construction
    rw [hattempt, hrecords]
    exact Dict.get?_set_of_ne _ h _

end Load

section LoadItems
variable {registry : ModelRegistry} {name : String} {record : ModelRecord}
  {items : List (String × ModelRecord)} {construction : String → Construction}

/-- The loop of `load_enabled` passes over a disabled model. -/
theorem loadItems_cons_disabled (h : ¬ record.configuration.enabled) :
    loadItems construction ((name, record) :: items) registry =
      loadItems construction items registry := by
  rw [loadItems, if_neg h]

/-- It goes on after a load that returns. -/
theorem loadItems_cons_ok (henabled : record.configuration.enabled) {backend : Nat}
    (h : (registry.load name (construction name)).1 = .ok backend) :
    loadItems construction ((name, record) :: items) registry =
      loadItems construction items (registry.load name (construction name)).2 := by
  rw [loadItems, if_pos henabled]
  generalize registry.load name (construction name) = result at h ⊢
  obtain ⟨answer, after⟩ := result
  obtain rfl : answer = .ok backend := h
  rfl

/-- It ends with a load that raises. -/
theorem loadItems_cons_error (henabled : record.configuration.enabled) {raised : RegistryError}
    (h : (registry.load name (construction name)).1 = .error raised) :
    loadItems construction ((name, record) :: items) registry =
      (.error raised, (registry.load name (construction name)).2) := by
  rw [loadItems, if_pos henabled]
  generalize registry.load name (construction name) = result at h ⊢
  obtain ⟨answer, after⟩ := result
  obtain rfl : answer = .error raised := h
  rfl

/-- What the load of each item preserves, the loop preserves. -/
theorem loadItems_preserves {I : ModelRegistry → Prop}
    (hload : ∀ name ∈ items.map Prod.fst, ∀ registry construction,
      I registry → I (registry.load name construction).2) (h : I registry) :
    I (loadItems construction items registry).2 := by
  induction items generalizing registry with
  | nil => exact h
  | cons entry items ih =>
    obtain ⟨name, record⟩ := entry
    rw [List.map_cons, List.forall_mem_cons] at hload
    by_cases henabled : record.configuration.enabled
    · have hafter := hload.1 registry (construction name) h
      cases hanswer : (registry.load name (construction name)).1 with
      | ok backend =>
        rw [loadItems_cons_ok henabled hanswer]
        exact ih hload.2 hafter
      | error raised =>
        rw [loadItems_cons_error henabled hanswer]
        exact hafter
    · rw [loadItems_cons_disabled henabled]
      exact ih hload.2 h

end LoadItems

/-- The detector of the shipped configuration. -/
def personDetector : ModelConfig where
  name := "person-detector"
  role := .detector
  outputFormat := some "mmdeploy-dets-labels"

/-- The PPE model of the shipped configuration. -/
def ppeDetector : ModelConfig where
  name := "ppe-detector"
  role := .ppe
  outputFormat := some "explicit-negative-ppe"

end ModelRegistry

end EdgeSafety
