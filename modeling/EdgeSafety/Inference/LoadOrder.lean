import EdgeSafety.Inference.ModelRegistry

/-!
# The order in which models are loaded

`load_enabled` should load every enabled model, but it ends with the first exception of a load: the
models listed later keep the health that `__init__` gave them. Its outcome is the one that every
model deserves by itself exactly when nothing listed after a failing model would have shown a
different one (`loadEnabled_exact_iff`).
-/

namespace EdgeSafety.ModelRegistry

/-- What a known backend does, from the text with which its `load` fails, if it does. -/
def constructionOf (failure : String → Option String) (name : String) : Construction :=
  match failure name with
  | none => .loads
  | some text => .loadRaises text

/-- A model has the health and the reason that its own configuration and load give it. -/
structure OnItsOwn (failure : String → Option String) (record : ModelRecord) : Prop where
  ready_iff : record.health = .ready ↔
    record.configuration.enabled ∧ failure record.configuration.name = none
  failed : record.configuration.enabled → ∀ text,
    failure record.configuration.name = some text →
      record.health = .unavailable ∧ record.detail = text

/-- So it is for every model of a list of configurations. -/
def LoadedOnItsOwn (failure : String → Option String) (configurations : List ModelConfig)
    (registry : ModelRegistry) : Prop :=
  ∀ configuration ∈ configurations, ∃ record,
    registry.records.get? configuration.name = some record ∧
      record.configuration = configuration ∧ OnItsOwn failure record

/-- The later of two models would fail without a text if the earlier one fails. -/
def Hidden (failure : String → Option String) (first later : ModelConfig) : Prop :=
  first.enabled → failure first.name ≠ none → later.enabled → failure later.name = some ""

instance (failure : String → Option String) (first later : ModelConfig) :
    Decidable (Hidden failure first later) :=
  inferInstanceAs (Decidable (_ → _))

/-- The items of the loop for a list of configurations. -/
def itemsOf (configurations : List ModelConfig) : List (String × ModelRecord) :=
  configurations.map fun configuration => (configuration.name, configuration.record)

/-- The records of a list of models are as `__init__` made them. -/
def Untouched (registry : ModelRegistry) (configurations : List ModelConfig) : Prop :=
  ∀ configuration ∈ configurations,
    registry.records.get? configuration.name = some configuration.record

theorem ready_record (configuration : ModelConfig) : configuration.record.ready = none := by
  unfold ModelRecord.ready
  split <;> rfl

variable {failure : String → Option String} {registry : ModelRegistry}
  {configuration : ModelConfig} {configurations : List ModelConfig}

/-- A record as `__init__` made it is as it should be only if there is nothing to report. -/
theorem onItsOwn_record_iff (failure : String → Option String) (configuration : ModelConfig) :
    OnItsOwn failure configuration.record ↔
      (configuration.enabled → failure configuration.name = some "") := by
  constructor
  · intro h henabled
    cases hfailure : failure configuration.name with
    | none =>
      have hready := h.ready_iff.mpr ⟨henabled, hfailure⟩
      rw [ModelConfig.record, ModelConfig.idleHealth, if_pos henabled] at hready
      cases hready
    | some text => rw [← (h.failed henabled text hfailure).2, ModelConfig.record]
  · intro h
    refine ⟨⟨fun hready => ?_, fun ⟨henabled, hnone⟩ => ?_⟩, fun henabled text htext => ?_⟩
    · change configuration.idleHealth = .ready at hready
      unfold ModelConfig.idleHealth at hready
      split at hready <;> cases hready
    · cases (h henabled).symm.trans hnone
    · obtain rfl := Option.some.inj ((h henabled).symm.trans htext)
      exact ⟨if_pos henabled, rfl⟩

/-- An enabled model that was not touched: what its load answers and makes of its record. -/
theorem load_untouched (failure : String → Option String)
    (hrecord : registry.records.get? configuration.name = some configuration.record)
    (hknown : configuration.backend ∈ registry.factories) (henabled : configuration.enabled) :
    let after := registry.load configuration.name (constructionOf failure configuration.name)
    ((∃ backend, after.1 = .ok backend) ↔ failure configuration.name = none) ∧
      ∃ record, after.2.records.get? configuration.name = some record ∧
        record.configuration = configuration ∧ OnItsOwn failure record := by
  rw [load_eq_attempt hrecord henabled (ready_record configuration), constructionOf]
  have hnot : ¬ configuration.record.configuration.backend ∉ registry.factories :=
    not_not.mpr hknown
  cases hfailure : failure configuration.name with
  | none =>
    simp only [attempt, if_neg hnot]
    refine ⟨⟨fun _ => trivial, fun _ => ⟨_, rfl⟩⟩, _, Dict.get?_set_self _ _ _, rfl, ?_⟩
    refine ⟨⟨fun _ => ⟨henabled, hfailure⟩, fun _ => rfl⟩, fun _ text htext => ?_⟩
    cases hfailure.symm.trans htext
  | some reason =>
    simp only [attempt, if_neg hnot]
    refine ⟨⟨(fun ⟨_, h⟩ => by cases h), (fun h => by cases h)⟩, _, Dict.get?_set_self _ _ _, rfl,
      ?_⟩
    refine ⟨⟨(fun h => by cases h), fun ⟨_, h⟩ => ?_⟩, fun _ text htext => ?_⟩
    · cases hfailure.symm.trans h
    · exact ⟨rfl, Option.some.inj (hfailure.symm.trans htext)⟩

/-- A load of one model leaves the others untouched. -/
theorem load_rest_untouched {name : String} (h : Untouched registry configurations)
    (hname : name ∉ configurations.map ModelConfig.name) (construction : Construction) :
    Untouched (registry.load name construction).2 configurations := by
  intro configuration hmem
  have hne : configuration.name ≠ name := fun heq =>
    hname (List.mem_map.mpr ⟨configuration, hmem, heq⟩)
  rw [load_get?_of_ne registry hne construction]
  exact h configuration hmem

/-- The loop leaves alone what is not among its items. -/
theorem loadItems_get? (construction : String → Construction) {name : String}
    (hname : name ∉ configurations.map ModelConfig.name) (registry : ModelRegistry) :
    (loadItems construction (itemsOf configurations) registry).2.records.get? name =
      registry.records.get? name := by
  refine loadItems_preserves (I := fun after =>
    after.records.get? name = registry.records.get? name) ?_ rfl
  intro other hother after load hsame
  have hne : name ≠ other := fun heq => by
    rw [itemsOf, List.map_map] at hother
    exact hname (heq ▸ hother)
  rw [load_get?_of_ne after hne, hsame]

/-- Models that no load reached are as they should be only if they have nothing to show. -/
theorem untouched_exact_iff (h : Untouched registry configurations) :
    LoadedOnItsOwn failure configurations registry ↔
      ∀ later ∈ configurations, later.enabled → failure later.name = some "" := by
  refine forall₂_congr fun later hlater => ?_
  rw [← onItsOwn_record_iff]
  constructor
  · rintro ⟨record, hrecord, -, hown⟩
    rwa [← Option.some.inj (hrecord.symm.trans (h later hlater))]
  · exact fun hown => ⟨_, h later hlater, rfl, hown⟩

/-- The loop over untouched models gives each what it deserves by itself exactly when no model has
anything to show that an earlier failure hides. -/
theorem loadItems_exact_iff (hnodup : (configurations.map ModelConfig.name).Nodup)
    (h : Untouched registry configurations)
    (hknown : ∀ configuration ∈ configurations,
      configuration.backend ∈ registry.factories) :
    LoadedOnItsOwn failure configurations
        (loadItems (constructionOf failure) (itemsOf configurations) registry).2 ↔
      configurations.Pairwise (Hidden failure) := by
  induction configurations generalizing registry with
  | nil => simp [LoadedOnItsOwn]
  | cons first rest ih =>
    rw [List.map_cons, List.nodup_cons] at hnodup
    obtain ⟨hfirst, hrest⟩ := List.forall_mem_cons.mp h
    obtain ⟨hknownFirst, hknownRest⟩ := List.forall_mem_cons.mp hknown
    rw [LoadedOnItsOwn, List.forall_mem_cons, List.pairwise_cons, itemsOf, List.map_cons]
    by_cases henabled : first.enabled
    · obtain ⟨hok, record, hrecord, hfor, hown⟩ :=
        load_untouched failure hfirst hknownFirst henabled
      have hrest' := load_rest_untouched hrest hnodup.1 (constructionOf failure first.name)
      have hknown' : ∀ configuration ∈ rest, configuration.backend ∈
          (registry.load first.name (constructionOf failure first.name)).2.factories := by
        rwa [load_factories]
      cases hanswer : (registry.load first.name (constructionOf failure first.name)).1 with
      | ok backend =>
        -- the first model is ready, so it hides nothing
        rw [loadItems_cons_ok henabled hanswer, ← itemsOf]
        have hnone := hok.mp ⟨backend, hanswer⟩
        have hhides : ∀ later ∈ rest, Hidden failure first later :=
          fun _ _ _ hfails => absurd hnone hfails
        have hih := ih hnodup.2 hrest' hknown'
        refine ⟨fun h => ⟨hhides, hih.mp h.2⟩, fun h => ⟨⟨record, ?_, hfor, hown⟩, hih.mpr h.2⟩⟩
        exact (loadItems_get? _ hnodup.1 _).trans hrecord
      | error raised =>
        -- the loop ends here, and the rest stays untouched
        rw [loadItems_cons_error henabled hanswer]
        have hfails : failure first.name ≠ none := fun hnone => by
          obtain ⟨_, h⟩ := hok.mpr hnone
          cases hanswer.symm.trans h
        have hhides : (∀ later ∈ rest, Hidden failure first later) ↔
            ∀ later ∈ rest, later.enabled → failure later.name = some "" :=
          forall₂_congr fun later _ =>
            ⟨fun h => h henabled hfails, fun h _ _ => h⟩
        rw [hhides]
        refine ⟨fun ⟨_, h⟩ => ?_, fun ⟨h, _⟩ => ⟨⟨record, hrecord, hfor, hown⟩, ?_⟩⟩
        · have hempty := (untouched_exact_iff hrest').mp h
          exact ⟨hempty, List.pairwise_of_forall_mem_list fun _ _ later hlater _ _ =>
            hempty later hlater⟩
        · exact (untouched_exact_iff hrest').mpr h
    · rw [loadItems_cons_disabled henabled, ← itemsOf]
      have hhides : ∀ later ∈ rest, Hidden failure first later :=
        fun _ _ h => absurd h henabled
      have hih := ih hnodup.2 hrest hknownRest
      refine ⟨fun h => ⟨hhides, hih.mp h.2⟩, fun h => ⟨⟨first.record, ?_, rfl, ?_⟩, hih.mpr h.2⟩⟩
      · exact (loadItems_get? _ hnodup.1 registry).trans hfirst
      · exact (onItsOwn_record_iff failure first).mpr fun h => absurd h henabled

theorem init_untouched {factories : Finset String}
    (hinit : init configurations factories = .ok registry) :
    (configurations.map ModelConfig.name).Nodup ∧
      registry.factories = insert "onnxruntime" factories ∧
      registry.records.entries = itemsOf configurations ∧ Untouched registry configurations := by
  obtain ⟨hnodup, hfactories, hentries, -⟩ := init_ok hinit
  refine ⟨hnodup, hfactories, hentries, fun configuration hmem => ?_⟩
  rw [Dict.get?_eq_some_iff, hentries]
  exact List.mem_map.mpr ⟨configuration, hmem, rfl⟩

/-- After one `load_enabled`, every model is READY if it is enabled and its own load succeeds, and
otherwise has its own reason, if and only if no enabled model listed after one that fails has
anything to show. -/
theorem loadEnabled_exact_iff {factories : Finset String}
    (hinit : init configurations factories = .ok registry)
    (hknown : ∀ configuration ∈ configurations,
      configuration.backend ∈ insert "onnxruntime" factories)
    (failure : String → Option String) :
    LoadedOnItsOwn failure configurations
        (registry.loadEnabled (constructionOf failure)).2 ↔
      configurations.Pairwise (Hidden failure) := by
  obtain ⟨hnodup, hfactories, hentries, huntouched⟩ := init_untouched hinit
  rw [← hfactories] at hknown
  rw [loadEnabled, hentries]
  exact loadItems_exact_iff hnodup huntouched hknown

/-- The file of the PPE model is not the one that its checksum was made for. -/
def ppeFails (name : String) : Option String :=
  if name = "ppe-detector" then some "checksum mismatch" else none

theorem loadEnabled_exact_iff_detectorFirst :
    ∃ registry, init [personDetector, ppeDetector] ∅ = .ok registry ∧
      (LoadedOnItsOwn ppeFails [personDetector, ppeDetector]
          (registry.loadEnabled (constructionOf ppeFails)).2 ↔
        [personDetector, ppeDetector].Pairwise (Hidden ppeFails)) := by
  have hknown : ∀ configuration ∈ [personDetector, ppeDetector],
      configuration.backend ∈ insert "onnxruntime" (∅ : Finset String) := by decide
  exact ⟨_, rfl, loadEnabled_exact_iff rfl hknown ppeFails⟩

/-- With the PPE model listed first, its failure keeps the detector from being loaded; with the
detector listed first it does not. -/
theorem failingPpe_hides_detector :
    ∃ ppeFirst detectorFirst,
      init [ppeDetector, personDetector] ∅ = .ok ppeFirst ∧
      init [personDetector, ppeDetector] ∅ = .ok detectorFirst ∧
      (ppeFirst.loadEnabled (constructionOf ppeFails)).2.statuses.map ModelStatus.health =
        [.unavailable, .unavailable] ∧
      (detectorFirst.loadEnabled (constructionOf ppeFails)).2.statuses.map ModelStatus.health =
        [.ready, .unavailable] ∧
      ¬ LoadedOnItsOwn ppeFails [ppeDetector, personDetector]
        (ppeFirst.loadEnabled (constructionOf ppeFails)).2 := by
  refine ⟨_, _, rfl, rfl, rfl, rfl, fun h => ?_⟩
  obtain ⟨record, hrecord, -, hown⟩ := h personDetector (by decide)
  obtain rfl : personDetector.record = record := Option.some.inj hrecord
  cases hown.ready_iff.mpr ⟨rfl, rfl⟩

end EdgeSafety.ModelRegistry
