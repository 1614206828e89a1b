import EdgeSafety.Runtime.Readiness
import Mathlib.Data.String.Basic

/-!
# Metrics

The registry of `health/metrics.py` and the `render_metrics` of `main.py`. Every camera has gauges
of its own, under names made of its id: there `-` and `.` become `_`, which metric names may hold.
Ids may hold all three, and the cameras whose ids become one share their gauges. Each has its own
in the text exactly where no two enabled cameras are such (`own_metrics_iff`).
-/

namespace EdgeSafety

/-- The texts of values, `str` of a float and `repr` of a string, and what `str.isalnum` accepts,
which is letters and digits of any script. -/
structure Format (V : Type) where
  float : V → String
  repr : String → String
  isalnum : Char → Bool
  isalnum_ascii : ∀ character : Char, character.toNat < 128 →
    isalnum character = character.isAlphanum

/-- What the text says about one metric. -/
def expose (kind name value : String) : String :=
  s!"# TYPE {name} {kind}\n{name} {value}"

/-- `MetricsRegistry`, where the values of gauges are of the type `V`. -/
structure MetricsRegistry (V : Type) where
  gauges : Dict String V
  counters : Dict String Nat

namespace MetricsRegistry
variable {V : Type}

/-- `__init__`. -/
def init : MetricsRegistry V := ⟨.empty, .empty⟩

/-- What a metric name may hold. -/
def nameChar (format : Format V) (character : Char) : Bool :=
  format.isalnum character || character = '_' || character = ':'

/-- `_validate_name`. -/
def validateName (format : Format V) (name : String) : Except String Unit :=
  if name.isEmpty ∨ ¬ name.toList.all (nameChar format) then
    .error s!"invalid Prometheus metric name: {format.repr name}"
  else .ok ()

/-- `set_gauge`. -/
def setGauge (format : Format V) (registry : MetricsRegistry V) (name : String) (value : V) :
    Except String (MetricsRegistry V) := do
  validateName format name
  .ok { registry with gauges := registry.gauges.set name value }

/-- `increment`. -/
def increment (format : Format V) (registry : MetricsRegistry V) (name : String)
    (value : Int := 1) : Except String (MetricsRegistry V) := do
  validateName format name
  if value < 0 then .error "counter increments must be non-negative"
  else
    let count := (registry.counters.get? name).getD 0 + value.toNat
    .ok { registry with counters := registry.counters.set name count }

/-- The entries of a dictionary in the order of their keys. -/
def sorted {α : Type} (metrics : Dict String α) : List (String × α) :=
  metrics.entries.mergeSort fun entry other => entry.1 ≤ other.1

/-- `render_prometheus`. -/
def renderPrometheus (format : Format V) (registry : MetricsRegistry V) : String :=
  let gauges := (sorted registry.gauges).map fun (name, value) =>
    expose "gauge" name (format.float value)
  let counters := (sorted registry.counters).map fun (name, value) =>
    expose "counter" name (toString value)
  "\n".intercalate (gauges ++ counters) ++ "\n"

end MetricsRegistry

/-- `str.replace`, of one character by another. -/
def replaceChar (old new : Char) (text : String) : String :=
  text.map fun character => if character = old then new else character

/-- The `safe_id` of a camera. -/
def safeId (cameraId : String) : String :=
  replaceChar '.' '_' (replaceChar '-' '_' cameraId)

/-- The name of a gauge of a camera. -/
def gaugeName (cameraId metric : String) : String :=
  s!"edge_camera_{safeId cameraId}_{metric}"

/-- What `render_metrics` reads of a camera. -/
def cameraGauges (snapshot : CameraHealthSnapshot) : List (String × ℚ) :=
  [("capture_fps", snapshot.captureFps),
    ("dropped_frames", snapshot.droppedFrames),
    ("capture_failures", snapshot.captureFailures),
    ("reconnects", snapshot.reconnectCount),
    ("resolution_mismatches", snapshot.resolutionMismatchCount)]

/-- The gauges that `render_metrics` sets for a camera. -/
def namedGauges (entry : String × CameraHealthSnapshot) : List (String × ℚ) :=
  (cameraGauges entry.2).map fun (metric, value) => (gaugeName entry.1 metric, value)

/-- `EdgeSupervisor.health_snapshots`, where `snapshots` says what the cameras report. -/
def EdgeConfiguration.healthSnapshots (configuration : EdgeConfiguration)
    (snapshots : String → CameraHealthSnapshot) : List (String × CameraHealthSnapshot) :=
  configuration.enabledCameras.map fun camera => (camera.cameraId, snapshots camera.cameraId)

/-- `render_metrics`: the text, and the registry that it leaves. -/
def renderMetrics (format : Format ℚ) (registry : MetricsRegistry ℚ)
    (entries : List (String × CameraHealthSnapshot)) :
    Except String (String × MetricsRegistry ℚ) := do
  let registry ← (entries.flatMap namedGauges).foldlM
    (fun registry gauge => registry.setGauge format gauge.1 gauge.2) registry
  .ok (registry.renderPrometheus format, registry)

/-- A character of the pattern of `camera_id`. -/
def idChar (character : Char) : Bool :=
  character.isAlphanum || character = '_' || character = '.' || character = '-'

/-- The ids match the pattern that `CameraConfig` has for them. -/
def EdgeConfiguration.IdsMatch (configuration : EdgeConfiguration) : Prop :=
  ∀ camera ∈ configuration.cameras, camera.cameraId.toList.all idChar = true

/-- A text has the two lines of a gauge. -/
def Exposes (text name value : String) : Prop :=
  ∃ before after, text = before ++ (expose "gauge" name value ++ "\n" ++ after) ∧
    (before = "" ∨ ∃ lines, before = lines ++ "\n")

/-- Every enabled camera has its own value of each of its gauges in the text, and a gauge of one
camera is not a gauge of another. -/
structure OwnMetrics (format : Format ℚ) (registry : MetricsRegistry ℚ)
    (configuration : EdgeConfiguration) (snapshots : String → CameraHealthSnapshot) : Prop where
  exposed : ∃ text after,
    renderMetrics format registry (configuration.healthSnapshots snapshots) = .ok (text, after) ∧
      ∀ camera ∈ configuration.enabledCameras,
        ∀ gauge ∈ cameraGauges (snapshots camera.cameraId),
          Exposes text (gaugeName camera.cameraId gauge.1) (format.float gauge.2)
  separate : ∀ camera ∈ configuration.enabledCameras, ∀ other ∈ configuration.enabledCameras,
    camera.cameraId ≠ other.cameraId → ∀ gauge ∈ cameraGauges (snapshots camera.cameraId),
      ∀ gauge' ∈ cameraGauges (snapshots other.cameraId),
        gaugeName camera.cameraId gauge.1 ≠ gaugeName other.cameraId gauge'.1

/-- No two enabled cameras have ids that differ only in which of `-`, `.` and `_` they hold. -/
def EdgeConfiguration.SafeIdsDistinct (configuration : EdgeConfiguration) : Prop :=
  ∀ camera ∈ configuration.enabledCameras, ∀ other ∈ configuration.enabledCameras,
    safeId camera.cameraId = safeId other.cameraId → camera.cameraId = other.cameraId

/-! Names. -/

/-- The metrics of a camera. -/
def metrics : List String :=
  ["capture_fps", "dropped_frames", "capture_failures", "reconnects", "resolution_mismatches"]

theorem map_fst_cameraGauges (snapshot : CameraHealthSnapshot) :
    (cameraGauges snapshot).map Prod.fst = metrics := rfl

theorem mem_metrics {snapshot : CameraHealthSnapshot} {gauge : String × ℚ}
    (h : gauge ∈ cameraGauges snapshot) : gauge.1 ∈ metrics :=
  map_fst_cameraGauges snapshot ▸ List.mem_map_of_mem h

/-- No metric's name is the end of another's. -/
theorem metrics_suffix_free : ∀ metric ∈ metrics, ∀ other ∈ metrics,
    metric.toList <:+ other.toList → metric = other := by
  decide +kernel

theorem toList_gaugeName (cameraId metric : String) :
    (gaugeName cameraId metric).toList =
      "edge_camera_".toList ++ ((safeId cameraId).toList ++ '_' :: metric.toList) := by
  show ("edge_camera_" ++ safeId cameraId ++ "_" ++ metric).toList = _
  simp only [String.toList_append, List.append_assoc]
  rfl

/-- What a gauge belongs to can be read off its name. -/
theorem gaugeName_inj {cameraId other metric metric' : String} (hm : metric ∈ metrics)
    (hm' : metric' ∈ metrics) :
    gaugeName cameraId metric = gaugeName other metric' ↔
      safeId cameraId = safeId other ∧ metric = metric' := by
  constructor
  · intro h
    have hlists := congrArg String.toList h
    rw [toList_gaugeName, toList_gaugeName, List.append_cancel_left_eq] at hlists
    have hmetric : metric = metric' := by
      have hsuffix : metric.toList <:+ (safeId other).toList ++ '_' :: metric'.toList :=
        hlists ▸ ⟨(safeId cameraId).toList ++ ['_'], by simp⟩
      have hsuffix' : metric'.toList <:+ (safeId other).toList ++ '_' :: metric'.toList :=
        ⟨(safeId other).toList ++ ['_'], by simp⟩
      rcases List.suffix_or_suffix_of_suffix hsuffix hsuffix' with hend | hend
      · exact metrics_suffix_free metric hm metric' hm' hend
      · exact (metrics_suffix_free metric' hm' metric hm hend).symm
    subst hmetric
    exact ⟨String.toList_inj.mp (List.append_cancel_right hlists), rfl⟩
  · rintro ⟨hid, rfl⟩
    rw [gaugeName, gaugeName, hid]

theorem toList_replaceChar (old new : Char) (text : String) :
    (replaceChar old new text).toList =
      text.toList.map fun character => if character = old then new else character :=
  String.toList_map

/-- What becomes of the characters of an id. -/
def safeChar (character : Char) : Char :=
  if character = '-' ∨ character = '.' then '_' else character

theorem toList_safeId (cameraId : String) :
    (safeId cameraId).toList = cameraId.toList.map safeChar := by
  rw [safeId, toList_replaceChar, toList_replaceChar, List.map_map]
  refine List.map_congr_left fun character _ => ?_
  simp only [Function.comp_apply, safeChar]
  split_ifs <;> simp_all

theorem safeId_eq_iff {cameraId other : String} :
    safeId cameraId = safeId other ↔
      cameraId.toList.map safeChar = other.toList.map safeChar := by
  rw [← String.toList_inj, toList_safeId, toList_safeId]

/-- What a metric name may hold of ASCII. -/
def asciiNameChar (character : Char) : Bool :=
  character.isAlphanum || character = '_' || character = ':'

/-- An ASCII character may be in a metric name if it is a letter or a digit. -/
theorem nameChar_of_ascii {V : Type} (format : Format V) {character : Char}
    (hascii : character.toNat < 128) :
    MetricsRegistry.nameChar format character = asciiNameChar character := by
  rw [MetricsRegistry.nameChar, format.isalnum_ascii character hascii, asciiNameChar]

theorem toNat_lt_of_isAlphanum {character : Char} (h : character.isAlphanum = true) :
    character.toNat < 128 := by
  delta Char.isAlphanum Char.isAlpha Char.isUpper Char.isLower Char.isDigit at h
  simp only [Bool.or_eq_true, Bool.and_eq_true, decide_eq_true_iff, ge_iff_le,
    UInt32.le_iff_toNat_le] at h
  change character.val.toNat < 128
  rcases h with (h | h) | h
  all_goals exact Nat.lt_of_le_of_lt h.2 (by decide)

theorem nameChar_of_asciiNameChar {V : Type} (format : Format V) {character : Char}
    (h : asciiNameChar character = true) : MetricsRegistry.nameChar format character = true := by
  have hascii : character.toNat < 128 := by
    simp only [asciiNameChar, Bool.or_eq_true, decide_eq_true_iff] at h
    rcases h with (h | rfl) | rfl
    · exact toNat_lt_of_isAlphanum h
    · decide
    · decide
  rw [nameChar_of_ascii format hascii, h]

theorem asciiNameChar_safeChar {character : Char} (h : idChar character = true) :
    asciiNameChar (safeChar character) = true := by
  simp only [idChar, Bool.or_eq_true, decide_eq_true_iff] at h
  rcases h with ((h | rfl) | rfl) | rfl
  · unfold safeChar
    split_ifs
    · decide
    · simp [asciiNameChar, h]
  · decide
  · decide
  · decide

theorem asciiNameChar_safeId {cameraId : String} (h : cameraId.toList.all idChar = true) :
    (safeId cameraId).toList.all asciiNameChar = true := by
  rw [toList_safeId, List.all_map, List.all_eq_true]
  exact fun character hchar => asciiNameChar_safeChar (List.all_eq_true.mp h character hchar)

theorem asciiNameChar_metrics :
    ∀ metric ∈ metrics, metric.toList.all asciiNameChar = true := by
  decide +kernel

theorem validateName_gaugeName (format : Format ℚ) {cameraId metric : String}
    (h : cameraId.toList.all idChar = true) (hm : metric ∈ metrics) :
    MetricsRegistry.validateName format (gaugeName cameraId metric) = .ok () := by
  have hascii : (gaugeName cameraId metric).toList.all asciiNameChar = true := by
    have hbegin : "edge_camera_".toList.all asciiNameChar = true := by decide +kernel
    have hbar : asciiNameChar '_' = true := by decide
    rw [toList_gaugeName, List.all_append, List.all_append, List.all_cons, hbegin,
      asciiNameChar_safeId h, hbar, asciiNameChar_metrics metric hm]
    rfl
  have hall : (gaugeName cameraId metric).toList.all (MetricsRegistry.nameChar format) = true :=
    List.all_eq_true.mpr fun character hcharacter =>
      nameChar_of_asciiNameChar format (List.all_eq_true.mp hascii character hcharacter)
  refine if_neg (not_or.mpr ⟨?_, not_not.mpr hall⟩)
  rw [String.isEmpty_iff]
  intro hempty
  have hlist := congrArg String.toList hempty
  rw [toList_gaugeName] at hlist
  simp at hlist

namespace MetricsRegistry

/-- The registry with more gauges set. -/
def withGauges (registry : MetricsRegistry ℚ) (gauges : List (String × ℚ)) : MetricsRegistry ℚ :=
  { registry with gauges := registry.gauges.setAll gauges }

theorem gauges_withGauges (registry : MetricsRegistry ℚ) (gauges : List (String × ℚ)) :
    (registry.withGauges gauges).gauges = registry.gauges.setAll gauges := rfl

/-- Setting gauges whose names are good. -/
theorem foldlM_setGauge (format : Format ℚ) (registry : MetricsRegistry ℚ)
    {gauges : List (String × ℚ)} (h : ∀ gauge ∈ gauges, validateName format gauge.1 = .ok ()) :
    gauges.foldlM (fun registry gauge => registry.setGauge format gauge.1 gauge.2) registry =
      .ok (registry.withGauges gauges) := by
  induction gauges generalizing registry with
  | nil => rfl
  | cons gauge gauges ih =>
    have hset : registry.setGauge format gauge.1 gauge.2 =
        .ok { registry with gauges := registry.gauges.set gauge.1 gauge.2 } := by
      rw [setGauge, h gauge List.mem_cons_self]
      rfl
    rw [List.foldlM_cons, hset]
    exact ih _ fun other hother => h other (List.mem_cons_of_mem _ hother)

/-- A line of a text is in it between two ends of lines. -/
theorem mem_lines {line : String} {lines : List String} (h : line ∈ lines) :
    ∃ before after, "\n".intercalate lines ++ "\n" = before ++ (line ++ "\n" ++ after) ∧
      (before = "" ∨ ∃ head, before = head ++ "\n") := by
  obtain ⟨init, rest, rfl⟩ := List.append_of_mem h
  have htail : ∃ after, "\n".intercalate (line :: rest) ++ "\n" = line ++ "\n" ++ after := by
    by_cases hrest : rest = []
    · exact ⟨"", by simp [hrest]⟩
    · exact ⟨"\n".intercalate rest ++ "\n", by
        rw [String.intercalate_cons_of_ne_nil hrest, String.append_assoc]⟩
  obtain ⟨after, htail⟩ := htail
  by_cases hinit : init = []
  · exact ⟨"", after, by rw [hinit, List.nil_append, htail, String.empty_append], .inl rfl⟩
  · refine ⟨"\n".intercalate init ++ "\n", after, ?_, .inr ⟨_, rfl⟩⟩
    rw [String.intercalate_append_of_ne_nil hinit (List.cons_ne_nil line rest),
      String.append_assoc, htail]

/-- The gauges that a registry has are in its text. -/
theorem exposes_renderPrometheus (format : Format ℚ) {registry : MetricsRegistry ℚ} {name : String}
    {value : ℚ} (h : registry.gauges.get? name = some value) :
    Exposes (registry.renderPrometheus format) name (format.float value) := by
  refine mem_lines (List.mem_append_left _ (List.mem_map.mpr ⟨(name, value), ?_, rfl⟩))
  exact List.mem_mergeSort.mpr (Dict.get?_eq_some_iff.mp h)

end MetricsRegistry

/-! Rendering. -/

namespace EdgeConfiguration

variable {configuration : EdgeConfiguration} {snapshots : String → CameraHealthSnapshot}

theorem mem_healthSnapshots {entry : String × CameraHealthSnapshot} :
    entry ∈ configuration.healthSnapshots snapshots ↔
      ∃ camera ∈ configuration.enabledCameras,
        (camera.cameraId, snapshots camera.cameraId) = entry :=
  List.mem_map

theorem enabledIds_nodup (configuration : EdgeConfiguration) :
    (configuration.enabledCameras.map CameraConfig.cameraId).Nodup :=
  configuration.cameraIds_nodup.sublist (List.filter_sublist.map _)

end EdgeConfiguration

theorem map_fst_namedGauges (entry : String × CameraHealthSnapshot) :
    (namedGauges entry).map Prod.fst = metrics.map (gaugeName entry.1) := rfl

section
variable {configuration : EdgeConfiguration}

theorem namedGauges_nodup (entry : String × CameraHealthSnapshot) :
    ((namedGauges entry).map Prod.fst).Nodup := by
  have hmetrics : metrics.Nodup := by decide
  rw [map_fst_namedGauges]
  exact hmetrics.map_on fun metric hm metric' hm' hname => ((gaugeName_inj hm hm').mp hname).2

/-- The names of all gauges are different if the ids stay so. -/
theorem gaugeNames_nodup (snapshots : String → CameraHealthSnapshot)
    (h : configuration.SafeIdsDistinct) :
    (((configuration.healthSnapshots snapshots).flatMap namedGauges).map Prod.fst).Nodup := by
  rw [List.map_flatMap, List.nodup_flatMap]
  constructor
  · exact fun entry _ => namedGauges_nodup entry
  · have hids := configuration.enabledIds_nodup
    rw [List.Nodup, List.pairwise_map] at hids
    rw [EdgeConfiguration.healthSnapshots, List.pairwise_map]
    refine hids.imp_of_mem fun {camera other} hcamera hother hne => ?_
    intro name hname hname'
    simp only [map_fst_namedGauges] at hname hname'
    obtain ⟨metric, hm, rfl⟩ := List.mem_map.mp hname
    obtain ⟨metric', hm', heq⟩ := List.mem_map.mp hname'
    exact hne (h camera hcamera other hother ((gaugeName_inj hm hm').mp heq.symm).1)

/-- What `render_metrics` does with ids that the pattern admits. -/
theorem renderMetrics_eq (format : Format ℚ) (registry : MetricsRegistry ℚ)
    (snapshots : String → CameraHealthSnapshot) (hids : configuration.IdsMatch)
    {after : MetricsRegistry ℚ} (hafter : after = registry.withGauges
      ((configuration.healthSnapshots snapshots).flatMap namedGauges)) :
    renderMetrics format registry (configuration.healthSnapshots snapshots) =
      .ok (after.renderPrometheus format, after) := by
  have hnames : ∀ gauge ∈ (configuration.healthSnapshots snapshots).flatMap namedGauges,
      MetricsRegistry.validateName format gauge.1 = .ok () := by
    intro gauge hgauge
    obtain ⟨entry, hentry, hnamed⟩ := List.mem_flatMap.mp hgauge
    obtain ⟨camera, hcamera, rfl⟩ := EdgeConfiguration.mem_healthSnapshots.mp hentry
    obtain ⟨own, hown, rfl⟩ := List.mem_map.mp hnamed
    exact validateName_gaugeName format (hids camera (List.mem_filter.mp hcamera).1)
      (mem_metrics hown)
  rw [renderMetrics, MetricsRegistry.foldlM_setGauge format registry hnames, hafter]
  rfl

/-- Of the cameras whose ids become one, the last says what all their gauges are. -/
theorem gauge_of_last (registry : MetricsRegistry ℚ) {snapshots : String → CameraHealthSnapshot}
    {cameras : List CameraConfig} {camera : CameraConfig}
    (hlast : configuration.enabledCameras = cameras ++ [camera]) {cameraId : String}
    (hsafe : safeId cameraId = safeId camera.cameraId) {metric : String} {value : ℚ}
    (hgauge : (metric, value) ∈ cameraGauges (snapshots camera.cameraId)) :
    (registry.withGauges
      ((configuration.healthSnapshots snapshots).flatMap namedGauges)).gauges.get?
        (gaugeName cameraId metric) = some value := by
  have hname : gaugeName cameraId metric = gaugeName camera.cameraId metric := by
    rw [gaugeName, gaugeName, hsafe]
  have hmem : (gaugeName camera.cameraId metric, value) ∈
      namedGauges (camera.cameraId, snapshots camera.cameraId) :=
    List.mem_map.mpr ⟨(metric, value), hgauge, rfl⟩
  rw [MetricsRegistry.gauges_withGauges, EdgeConfiguration.healthSnapshots, hlast,
    List.map_append, List.flatMap_append, Dict.setAll_append, List.map_singleton,
    List.flatMap_singleton, hname]
  exact Dict.get?_setAll_of_mem _ (namedGauges_nodup _) hmem

theorem OwnMetrics.safeIdsDistinct {format : Format ℚ} {registry : MetricsRegistry ℚ}
    {snapshots : String → CameraHealthSnapshot}
    (h : OwnMetrics format registry configuration snapshots) : configuration.SafeIdsDistinct := by
  intro camera hcamera other hother hsafe
  by_contra hne
  refine h.separate camera hcamera other hother hne _ List.mem_cons_self _ List.mem_cons_self ?_
  rw [gaugeName, gaugeName, hsafe]

/-- Every camera has its own metrics in what `render_metrics` returns exactly where the ids of the
enabled cameras stay different when `-` and `.` become `_`. -/
theorem own_metrics_iff (format : Format ℚ) (registry : MetricsRegistry ℚ)
    (configuration : EdgeConfiguration) (snapshots : String → CameraHealthSnapshot)
    (hids : configuration.IdsMatch) :
    OwnMetrics format registry configuration snapshots ↔ configuration.SafeIdsDistinct := by
  refine ⟨OwnMetrics.safeIdsDistinct, fun h => ?_⟩
  refine ⟨⟨_, _, renderMetrics_eq format registry snapshots hids rfl, ?_⟩, ?_⟩
  · intro camera hcamera gauge hgauge
    refine MetricsRegistry.exposes_renderPrometheus format
      (Dict.get?_setAll_of_mem _ (gaugeNames_nodup snapshots h) ?_)
    exact List.mem_flatMap.mpr ⟨(camera.cameraId, snapshots camera.cameraId),
      EdgeConfiguration.mem_healthSnapshots.mpr ⟨camera, hcamera, rfl⟩,
      List.mem_map_of_mem hgauge⟩
  · intro camera hcamera other hother hne gauge hgauge gauge' hgauge' hname
    exact hne (h camera hcamera other hother
      ((gaugeName_inj (mem_metrics hgauge) (mem_metrics hgauge')).mp hname).1)

end

/-- A way to write floats for whole numbers, and texts that need no escapes. -/
def Format.whole : Format ℚ where
  float value := s!"{value.num}.0"
  repr text := s!"'{text}'"
  isalnum := Char.isAlphanum
  isalnum_ascii _ _ := rfl

/-- What a camera reports that runs at a rate of its own. -/
def snapshotAt (captureFps : ℚ) : CameraHealthSnapshot :=
  ({ state := .running, fps := captureFps } : CameraHealth).snapshot

theorem own_metrics_iff_two :
    OwnMetrics .whole .init ⟨[⟨"cam-1", true, by decide⟩, ⟨"cam-2", true, by decide⟩], [],
      by decide, by decide⟩ (fun _ => snapshotAt 15) := by
  refine (own_metrics_iff .whole .init _ _ ?_).mpr ?_
  · unfold EdgeConfiguration.IdsMatch
    decide +kernel
  · simp only [EdgeConfiguration.SafeIdsDistinct, safeId_eq_iff]
    decide +kernel

/-- Two cameras whose ids become one. -/
def lookalikes : EdgeConfiguration where
  cameras := [{ cameraId := "cam-1" }, { cameraId := "cam.1" }]
  models := []

theorem lookalikes_idsMatch : lookalikes.IdsMatch := by
  unfold EdgeConfiguration.IdsMatch
  decide +kernel

/-- What they report. -/
def lookalikeSnapshots (cameraId : String) : CameraHealthSnapshot :=
  if cameraId = "cam-1" then snapshotAt 15 else snapshotAt 0

/-- The cameras `cam-1` and `cam.1` share their gauges, and where the first captures at 15 frames a
second, its gauge says what the second does. -/
theorem cameras_share_gauges :
    lookalikes.IdsMatch ∧ ¬ OwnMetrics .whole .init lookalikes lookalikeSnapshots ∧
      ∃ text after, renderMetrics .whole .init (lookalikes.healthSnapshots lookalikeSnapshots) =
          .ok (text, after) ∧
        (lookalikeSnapshots "cam-1").captureFps = 15 ∧
        after.gauges.get? (gaugeName "cam-1" "capture_fps") = some 0 := by
  refine ⟨lookalikes_idsMatch, fun h => ?_, _, _,
    renderMetrics_eq .whole .init lookalikeSnapshots lookalikes_idsMatch rfl, ?_, ?_⟩
  · have hdistinct := h.safeIdsDistinct
    simp only [EdgeConfiguration.SafeIdsDistinct, safeId_eq_iff] at hdistinct
    revert hdistinct
    decide +kernel
  · decide +kernel
  · have hcameras : lookalikes.enabledCameras =
        [⟨"cam-1", true, by decide⟩] ++ [⟨"cam.1", true, by decide⟩] := by decide +kernel
    have hsafe : safeId "cam-1" = safeId "cam.1" := safeId_eq_iff.mpr (by decide +kernel)
    have hgauge : ("capture_fps", (0 : ℚ)) ∈ cameraGauges (lookalikeSnapshots "cam.1") :=
      List.mem_cons_self
    exact gauge_of_last .init hcameras hsafe hgauge

end EdgeSafety
