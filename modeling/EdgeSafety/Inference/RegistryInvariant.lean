import EdgeSafety.Lib.Transition
import EdgeSafety.Inference.ModelRegistry

/-!
# What a record of the registry says

Between calls a record should be READY exactly when it holds a loaded backend, DISABLED exactly when
its model is disabled, and otherwise UNAVAILABLE. Two exceptions leave a record half changed: that
of a factory, which `load` calls outside its `try`, so that the record stays LOADING, and that of a
`backend.close` which unloaded the model. All records are settled after every call of a run exactly
when no call of the run ends so (`registry_settled_iff`).
-/

namespace EdgeSafety

/-- The health of a record is the one that its backend and its configuration give it. -/
structure ModelRecord.Settled (loaded : Finset Nat) (record : ModelRecord) : Prop where
  ready_iff : record.health = .ready ↔ ∃ backend, record.backend = some backend ∧ backend ∈ loaded
  disabled_iff : record.health = .disabled ↔ record.configuration.enabled = false
  otherwise : record.health ≠ .ready → record.health ≠ .disabled → record.health = .unavailable

/-- What a record is between calls: it holds a loaded backend, or it is idle. -/
def ModelRecord.Consistent (made : Nat) (loaded : Finset Nat) (record : ModelRecord) : Prop :=
  match record.backend with
  | some backend => record.configuration.enabled ∧ record.health = .ready ∧ backend ∈ loaded ∧
      backend < made
  | none => record.health = record.configuration.idleHealth

/-- A load of the model calls its factory. -/
def ModelRecord.Constructs (factories : Finset String) (record : ModelRecord) : Prop :=
  record.configuration.enabled ∧ record.ready = none ∧ record.configuration.backend ∈ factories

/-- A load of the enabled model raises. -/
def ModelRecord.LoadRaises (factories : Finset String) (construction : Construction)
    (record : ModelRecord) : Prop :=
  record.configuration.enabled ∧ record.ready = none ∧
    (record.configuration.backend ∈ factories → construction ≠ .loads)

/-- A load of the model is left by an exception that `load` does not catch. -/
def ModelRecord.LeftLoading (factories : Finset String) (construction : Construction)
    (record : ModelRecord) : Prop :=
  record.Constructs factories ∧
    (construction = .factoryRaises ∨ construction = .loadInterrupted)

instance (factories : Finset String) (construction : Construction) (record : ModelRecord) :
    Decidable (record.LoadRaises factories construction) :=
  inferInstanceAs (Decidable (_ ∧ _))

namespace ModelRecord

variable {made : Nat} {loaded : Finset Nat} {record : ModelRecord}

theorem consistent_of_none (h : record.backend = none) :
    record.Consistent made loaded ↔ record.health = record.configuration.idleHealth := by
  rw [Consistent, h]

theorem consistent_of_some {backend : Nat} (h : record.backend = some backend) :
    record.Consistent made loaded ↔ record.configuration.enabled ∧ record.health = .ready ∧
      backend ∈ loaded ∧ backend < made := by
  rw [Consistent, h]

theorem Consistent.settled (h : record.Consistent made loaded) : record.Settled loaded := by
  cases hbackend : record.backend with
  | some backend =>
    obtain ⟨henabled, hready, hloaded, -⟩ := (consistent_of_some hbackend).mp h
    exact ⟨⟨fun _ => ⟨backend, hbackend, hloaded⟩, fun _ => hready⟩, by simp [hready, henabled],
      fun hnot => absurd hready hnot⟩
  | none =>
    have hidle := (consistent_of_none hbackend).mp h
    unfold ModelConfig.idleHealth at hidle
    constructor
    · rw [hidle, hbackend]
      split <;> simp
    · rw [hidle]
      split <;> simp [*]
    · rw [hidle]
      split <;> simp

theorem Consistent.backend_of_ready (h : record.Consistent made loaded)
    (hready : record.ready = none) : record.backend = none := by
  cases hbackend : record.backend with
  | none => rfl
  | some backend =>
    obtain ⟨-, hhealth, -⟩ := (consistent_of_some hbackend).mp h
    rw [ready, if_pos hhealth, hbackend] at hready
    cases hready

theorem LeftLoading.raises {factories : Finset String} {construction : Construction}
    (h : record.LeftLoading factories construction) : record.LoadRaises factories construction := by
  obtain ⟨⟨henabled, hready, -⟩, rfl | rfl⟩ := h <;>
    exact ⟨henabled, hready, fun _ => by decide⟩

end ModelRecord

namespace ModelRegistry

/-- A call of a method of the registry. -/
inductive Call
  | load (name : String) (construction : Construction)
  | loadEnabled (construction : String → Construction)
  | get (name : String)
  | close (closing : String → Closing)

/-- The backends of the models since the last call of `close`: those that were loaded, and those
that `load` and `get` returned. -/
structure Served where
  loads : List (String × Nat) := []
  returned : List (String × Nat) := []

/-- What a call of `load` adds: a backend that it made and that is loaded now, and its answer. -/
def Served.load (served : Served) (registry : ModelRegistry) (name : String)
    (construction : Construction) : Served :=
  let (answer, after) := registry.load name construction
  { loads := served.loads ++ if registry.made ∈ after.loaded then [(name, registry.made)] else []
    returned := served.returned ++ answer.toOption.toList.map fun backend => (name, backend) }

/-- What the loop of `load_enabled` adds. -/
def Served.loadItems (construction : String → Construction) :
    List (String × ModelRecord) → ModelRegistry → Served → Served
  | [], _, served => served
  | (name, record) :: items, registry, served =>
    if record.configuration.enabled then
      match registry.load name (construction name) with
      | (.error _, _) => served.load registry name (construction name)
      | (.ok _, after) =>
        loadItems construction items after (served.load registry name (construction name))
    else loadItems construction items registry served

/-- What a call adds; `close` begins anew. -/
def Served.add (served : Served) (registry : ModelRegistry) : Call → Served
  | .load name construction => served.load registry name construction
  | .loadEnabled construction =>
    served.loadItems construction registry.records.entries registry
  | .get name =>
    { served with
      returned := served.returned ++
        (registry.get name).toOption.toList.map fun backend => (name, backend) }
  | .close _ => {}

/-- The registry after a call. -/
def after (registry : ModelRegistry) : Call → ModelRegistry
  | .load name construction => (registry.load name construction).2
  | .loadEnabled construction => (registry.loadEnabled construction).2
  | .get _ => registry
  | .close closing => (registry.close closing).2

/-- The registry with what it served. -/
abbrev Observed := Transition.Recorded ModelRegistry Served

/-- One call, whether it returns or raises. -/
def step : Observed → Call → Option Observed :=
  Transition.recorded (fun registry call => some (registry.after call)) Served.add

/-- Every record is settled, and since the last `close` every model was loaded at most once and
always served by one backend. -/
structure Sound (o : Observed) : Prop where
  settled : ∀ entry ∈ o.state.records.entries, entry.2.Settled o.state.loaded
  loaded_once : (o.history.loads.map Prod.fst).Nodup
  same_backend : ∀ first ∈ o.history.loads ++ o.history.returned,
    ∀ second ∈ o.history.loads ++ o.history.returned, first.1 = second.1 → first.2 = second.2

/-- The first of the items whose load raises, if any, is not left by an uncaught exception. -/
def LoadsOrderly (factories : Finset String) (construction : String → Construction)
    (items : List (String × ModelRecord)) : Prop :=
  ∀ entry, items.find? (fun entry => entry.2.LoadRaises factories (construction entry.1)) =
    some entry → ¬ entry.2.LeftLoading factories (construction entry.1)

/-- The first of the items whose backend raises in `close`, if any, has not unloaded its model. -/
def ClosesOrderly (closing : String → Closing) (items : List (String × ModelRecord)) : Prop :=
  ∀ entry, items.find? (fun entry => entry.2.backend.isSome ∧ closing entry.1 ≠ .returns) =
    some entry → closing entry.1 = .raises false

/-- The call is not left by an exception that leaves a record half changed. -/
def Orderly (registry : ModelRegistry) : Call → Prop
  | .load name construction => ∀ record, registry.records.get? name = some record →
      ¬ record.LeftLoading registry.factories construction
  | .loadEnabled construction =>
    LoadsOrderly registry.factories construction registry.records.entries
  | .get _ => True
  | .close closing => ClosesOrderly closing registry.records.entries

/-! ## The records -/

/-- Every record is consistent, and no backend is held by two. -/
structure Consistent (registry : ModelRegistry) : Prop where
  records : ∀ entry ∈ registry.records.entries,
    entry.2.Consistent registry.made registry.loaded
  distinct : ∀ first ∈ registry.records.entries, ∀ second ∈ registry.records.entries,
    ∀ backend, first.2.backend = some backend → second.2.backend = some backend →
      first.1 = second.1

section Records
variable {registry : ModelRegistry} {name : String} {record : ModelRecord}
  {items : List (String × ModelRecord)}

/-- A record can be replaced if the new one is consistent and the others keep their backends. -/
theorem Consistent.put (h : Consistent registry) {made : Nat} {loaded : Finset Nat}
    (hmade : registry.made ≤ made)
    (hkept : ∀ entry ∈ registry.records.entries, entry.1 ≠ name →
      ∀ backend, entry.2.backend = some backend → backend ∈ loaded)
    (hrecord : record.Consistent made loaded)
    (hnew : ∀ backend, record.backend = some backend → registry.made ≤ backend) :
    Consistent
      { registry with records := registry.records.set name record, made, loaded } := by
  have hlt : ∀ entry ∈ registry.records.entries, ∀ backend,
      entry.2.backend = some backend → backend < registry.made := by
    intro entry hentry backend hbackend
    exact ((ModelRecord.consistent_of_some hbackend).mp (h.records entry hentry)).2.2.2
  constructor
  · intro entry hentry
    rcases Dict.mem_set.mp hentry with rfl | ⟨hne, hold⟩
    · exact hrecord
    · have hconsistent := h.records entry hold
      cases hbackend : entry.2.backend with
      | none =>
        rw [ModelRecord.consistent_of_none hbackend] at hconsistent ⊢
        exact hconsistent
      | some backend =>
        rw [ModelRecord.consistent_of_some hbackend] at hconsistent ⊢
        obtain ⟨henabled, hready, -, hbelow⟩ := hconsistent
        exact ⟨henabled, hready, hkept entry hold hne backend hbackend,
          lt_of_lt_of_le hbelow hmade⟩
  · intro first hfirst second hsecond backend hbackend hbackend'
    rcases Dict.mem_set.mp hfirst with rfl | ⟨-, hfirst⟩ <;>
      rcases Dict.mem_set.mp hsecond with rfl | ⟨-, hsecond⟩
    · rfl
    · exact absurd (hlt second hsecond backend hbackend') (not_lt.mpr (hnew backend hbackend))
    · exact absurd (hlt first hfirst backend hbackend) (not_lt.mpr (hnew backend hbackend'))
    · exact h.distinct first hfirst second hsecond backend hbackend hbackend'

theorem Consistent.backend_mem (h : Consistent registry) {entry : String × ModelRecord}
    (hentry : entry ∈ registry.records.entries) {backend : Nat}
    (hbackend : entry.2.backend = some backend) : backend ∈ registry.loaded :=
  ((ModelRecord.consistent_of_some hbackend).mp (h.records entry hentry)).2.2.1

/-- An attempt that is not left by an uncaught exception keeps the records consistent. -/
theorem attempt_consistent (h : Consistent registry)
    (hrecord : registry.records.get? name = some record) (henabled : record.configuration.enabled)
    (hready : record.ready = none) {construction : Construction}
    (hclean : ¬ record.LeftLoading registry.factories construction) :
    Consistent (registry.attempt name record construction).2 := by
  have hentry := Dict.get?_eq_some_iff.mp hrecord
  have hnone := (h.records _ hentry).backend_of_ready hready
  have hkept : ∀ entry ∈ registry.records.entries, entry.1 ≠ name →
      ∀ backend, entry.2.backend = some backend → backend ∈ registry.loaded :=
    fun entry hentry _ _ => h.backend_mem hentry
  have hidle : record.configuration.idleHealth = .unavailable := if_pos henabled
  unfold attempt
  split
  · refine h.put le_rfl hkept ?_ fun _ hsome => ?_
    · refine (ModelRecord.consistent_of_none ?_).mpr hidle.symm
      exact hnone
    · cases hnone.symm.trans hsome
  · next hknown =>
    have hconstructs : record.Constructs registry.factories :=
      ⟨henabled, hready, not_not.mp hknown⟩
    cases construction with
    | factoryRaises => exact absurd ⟨hconstructs, Or.inl rfl⟩ hclean
    | loadInterrupted => exact absurd ⟨hconstructs, Or.inr rfl⟩ hclean
    | loadRaises text =>
      exact h.put (Nat.le_succ _) hkept hidle.symm (fun _ hsome => by cases hsome)
    | loads =>
      refine h.put (Nat.le_succ _) (fun entry hentry hne backend hbackend =>
        Finset.mem_insert_of_mem (hkept entry hentry hne backend hbackend)) ?_ ?_
      · exact ⟨henabled, rfl, Finset.mem_insert_self _ _, Nat.lt_succ_self _⟩
      · intro backend hsome
        exact (Option.some.inj hsome).le

/-- One that is leaves the record LOADING. -/
theorem attempt_loading {construction : Construction}
    (hleft : record.LeftLoading registry.factories construction) :
    ∃ entry ∈ (registry.attempt name record construction).2.records.entries,
      entry.2.health = .loading := by
  obtain ⟨⟨-, -, hknown⟩, rfl | rfl⟩ := hleft
  · rw [attempt, if_neg (not_not.mpr hknown)]
    exact ⟨_, Dict.mem_set.mpr (Or.inl rfl), rfl⟩
  · rw [attempt, if_neg (not_not.mpr hknown)]
    exact ⟨_, Dict.mem_set.mpr (Or.inl rfl), rfl⟩

theorem load_consistent (h : Consistent registry) {construction : Construction}
    (hclean : ∀ record, registry.records.get? name = some record →
      ¬ record.LeftLoading registry.factories construction) :
    Consistent (registry.load name construction).2 := by
  rcases load_cases registry name construction with
    ⟨hsame, -⟩ | ⟨record, hrecord, henabled, hready, hattempt⟩
  · rwa [hsame]
  · rw [hattempt]
    exact attempt_consistent h hrecord henabled hready (hclean record hrecord)

theorem load_loading (hrecord : registry.records.get? name = some record)
    {construction : Construction} (hleft : record.LeftLoading registry.factories construction) :
    ∃ entry ∈ (registry.load name construction).2.records.entries,
      entry.2.health = .loading := by
  rw [load_eq_attempt hrecord hleft.1.1 hleft.1.2.1]
  exact attempt_loading hleft

/-- An enabled model's load raises or answers, as `LoadRaises` says. -/
theorem load_raises_iff (hrecord : registry.records.get? name = some record)
    (henabled : record.configuration.enabled) (construction : Construction) :
    (∃ raised, (registry.load name construction).1 = .error raised) ↔
      record.LoadRaises registry.factories construction := by
  unfold ModelRecord.LoadRaises
  cases hready : record.ready with
  | some backend =>
    rw [load, hrecord]
    simp [henabled, hready]
  | none =>
    rw [load_eq_attempt hrecord henabled hready, attempt]
    by_cases hknown : record.configuration.backend ∈ registry.factories
    · rw [if_neg (not_not.mpr hknown)]
      cases construction <;> simp [henabled, hknown]
    · rw [if_pos hknown]
      simp [henabled, hknown]

end Records

/-! ## The loops -/

section Loops
variable {registry : ModelRegistry} {factories : Finset String}
  {construction : String → Construction} {closing : String → Closing}
  {entry : String × ModelRecord} {items : List (String × ModelRecord)}

theorem loadsOrderly_cons_of_raises
    (h : entry.2.LoadRaises factories (construction entry.1)) :
    LoadsOrderly factories construction (entry :: items) ↔
      ¬ entry.2.LeftLoading factories (construction entry.1) := by
  simp [LoadsOrderly, h]

theorem loadsOrderly_cons_of_not
    (h : ¬ entry.2.LoadRaises factories (construction entry.1)) :
    LoadsOrderly factories construction (entry :: items) ↔
      LoadsOrderly factories construction items := by
  simp [LoadsOrderly, h]

/-- The items of a loop are records of the registry, each once. -/
structure Pending (registry : ModelRegistry) (items : List (String × ModelRecord)) : Prop where
  records : ∀ entry ∈ items, registry.records.get? entry.1 = some entry.2
  nodup : (items.map Prod.fst).Nodup

theorem pending_entries (registry : ModelRegistry) : Pending registry registry.records.entries :=
  ⟨fun _ hentry => Dict.get?_eq_some_iff.mpr hentry, registry.records.keys_nodup⟩

/-- What changes the record of the first item leaves the others pending. -/
theorem Pending.tail (h : Pending registry (entry :: items)) {after : ModelRegistry}
    (hafter : ∀ other, other ≠ entry.1 →
      after.records.get? other = registry.records.get? other) : Pending after items := by
  have hnodup := h.nodup
  rw [List.map_cons, List.nodup_cons] at hnodup
  refine ⟨fun later hlater => ?_, hnodup.2⟩
  rw [hafter later.1 fun heq => hnodup.1 (List.mem_map.mpr ⟨later, hlater, heq⟩)]
  exact h.records later (List.mem_cons_of_mem _ hlater)

/-- The loop of `load_enabled` keeps the records consistent or leaves one LOADING. -/
theorem loadItems_spec (h : Consistent registry) (hitems : Pending registry items) :
    (LoadsOrderly registry.factories construction items →
        Consistent (loadItems construction items registry).2) ∧
      (¬ LoadsOrderly registry.factories construction items →
        ∃ entry ∈ (loadItems construction items registry).2.records.entries,
          entry.2.health = .loading) := by
  induction items generalizing registry with
  | nil => exact ⟨fun _ => h, fun hnot => absurd (by simp [LoadsOrderly]) hnot⟩
  | cons entry items ih =>
    obtain ⟨name, record⟩ := entry
    have hrecord := hitems.records _ List.mem_cons_self
    by_cases henabled : record.configuration.enabled
    · have hiff := load_raises_iff hrecord henabled (construction name)
      by_cases hraises : record.LoadRaises registry.factories (construction name)
      · -- the loop ends with this load
        obtain ⟨raised, herror⟩ := hiff.mpr hraises
        rw [loadsOrderly_cons_of_raises hraises, loadItems_cons_error henabled herror]
        refine ⟨fun hleft => load_consistent h fun found hfound => ?_,
          fun hleft => load_loading hrecord (not_not.mp hleft)⟩
        rwa [← Option.some.inj (hrecord.symm.trans hfound)]
      · rw [loadsOrderly_cons_of_not hraises]
        have hclean : Consistent (registry.load name (construction name)).2 :=
          load_consistent h fun found hfound hleft => hraises (by
            obtain rfl := Option.some.inj (hrecord.symm.trans hfound)
            exact ModelRecord.LeftLoading.raises hleft)
        have hrest := hitems.tail fun other hother =>
          load_get?_of_ne registry hother (construction name)
        cases hanswer : (registry.load name (construction name)).1 with
        | error raised => exact absurd (hiff.mp ⟨raised, hanswer⟩) hraises
        | ok backend =>
          rw [loadItems_cons_ok henabled hanswer,
            ← @load_factories registry name (construction name)]
          exact ih hclean hrest
    · have hnot : ¬ record.LoadRaises registry.factories (construction name) :=
        fun hraises => henabled hraises.1
      rw [loadsOrderly_cons_of_not hnot, loadItems_cons_disabled henabled]
      exact ih h (hitems.tail fun _ _ => rfl)

/-- Replacing the record of an item of `close` by an idle one, its backend being unloaded. -/
theorem put_idle_consistent (h : Consistent registry)
    (hentry : registry.records.get? entry.1 = some entry.2) {loaded : Finset Nat}
    (hloaded : ∀ backend ∈ registry.loaded, entry.2.backend ≠ some backend → backend ∈ loaded) :
    Consistent
      { registry with
        loaded
        records := registry.records.set entry.1
          { entry.2 with backend := none, health := entry.2.configuration.idleHealth } } := by
  refine h.put le_rfl (fun other hother hne backend hbackend => ?_)
    ((ModelRecord.consistent_of_none rfl).mpr rfl) (fun _ hsome => by cases hsome)
  refine hloaded backend (h.backend_mem hother hbackend) fun hsame => hne ?_
  exact h.distinct other hother entry (Dict.get?_eq_some_iff.mp hentry) backend hbackend hsame

theorem closesOrderly_cons_of_raises (hbackend : entry.2.backend.isSome)
    (h : closing entry.1 ≠ .returns) :
    ClosesOrderly closing (entry :: items) ↔ closing entry.1 = .raises false := by
  simp [ClosesOrderly, hbackend, h]

theorem closesOrderly_cons_of_not (h : entry.2.backend = none ∨ closing entry.1 = .returns) :
    ClosesOrderly closing (entry :: items) ↔ ClosesOrderly closing items := by
  rcases h with h | h <;> simp [ClosesOrderly, h]

/-- The loop of `close` keeps the records consistent or leaves one that is not settled. -/
theorem closeItems_spec (h : Consistent registry) (hitems : Pending registry items) :
    (ClosesOrderly closing items → Consistent (closeItems closing items registry).2) ∧
      (¬ ClosesOrderly closing items →
        ∃ entry ∈ (closeItems closing items registry).2.records.entries,
          ¬ entry.2.Settled (closeItems closing items registry).2.loaded) := by
  induction items generalizing registry with
  | nil => exact ⟨fun _ => h, fun hnot => absurd (by simp [ClosesOrderly]) hnot⟩
  | cons entry items ih =>
    have hrecord := hitems.records entry List.mem_cons_self
    have hrest : ∀ loaded after, Pending
        { registry with loaded, records := registry.records.set entry.1 after } items :=
      fun loaded after => hitems.tail fun other hother => Dict.get?_set_of_ne _ hother _
    obtain ⟨name, record⟩ := entry
    rw [closeItems]
    cases hbackend : record.backend with
    | none =>
      rw [closesOrderly_cons_of_not (Or.inl hbackend)]
      exact ih (put_idle_consistent h hrecord fun backend hloaded _ => hloaded) (hrest _ _)
    | some backend =>
      cases hclosing : closing name with
      | returns =>
        rw [closesOrderly_cons_of_not (Or.inr hclosing)]
        refine ih (put_idle_consistent h hrecord fun other hloaded hne => ?_) (hrest _ _)
        refine Finset.mem_erase.mpr ⟨fun heq => hne ?_, hloaded⟩
        rw [heq]
        exact hbackend
      | raises unloaded =>
        have hraises : closing name ≠ .returns := fun hreturns => by
          cases hclosing.symm.trans hreturns
        rw [closesOrderly_cons_of_raises (by rw [hbackend]; rfl) hraises, hclosing]
        cases unloaded with
        | false => exact ⟨fun _ => h, fun hnot => absurd rfl hnot⟩
        | true =>
          refine ⟨(fun hfalse => by cases hfalse), fun _ => ?_⟩
          have hentry := Dict.get?_eq_some_iff.mp hrecord
          refine ⟨(name, record), hentry, fun hsettled => ?_⟩
          -- the record is READY and holds the backend that was unloaded
          have hready := ((ModelRecord.consistent_of_some hbackend).mp (h.records _ hentry)).2.1
          obtain ⟨held, hheld, hloaded⟩ := hsettled.ready_iff.mp hready
          obtain rfl := Option.some.inj (hbackend.symm.trans hheld)
          exact Finset.notMem_erase _ _ hloaded

end Loops

/-! ## The backends served -/

/-- Whatever raises: what was served since the last `close` is what the records hold. -/
structure Agrees (registry : ModelRegistry) (served : Served) : Prop where
  numbered : ∀ backend ∈ registry.loaded, backend < registry.made
  held : ∀ pair ∈ served.loads ++ served.returned, ∃ record,
    registry.records.get? pair.1 = some record ∧ record.ready = some pair.2
  loaded_once : (served.loads.map Prod.fst).Nodup

section Served
variable {registry : ModelRegistry} {served : Served}

/-- An attempt raises, or it answers with the backend that it made and loaded. -/
theorem attempt_answer (registry : ModelRegistry) (name : String) (record : ModelRecord)
    (construction : Construction) :
    let result := registry.attempt name record construction
    ((∃ raised, result.1 = .error raised) ∧ result.2.loaded = registry.loaded ∧
        registry.made ≤ result.2.made) ∨
      (result.1 = .ok registry.made ∧ result.2.loaded = insert registry.made registry.loaded ∧
        result.2.made = registry.made + 1 ∧ ∃ after,
          result.2.records.get? name = some after ∧ after.ready = some registry.made) := by
  unfold attempt
  split
  · exact Or.inl ⟨⟨_, rfl⟩, rfl, le_rfl⟩
  · cases construction with
    | factoryRaises => exact Or.inl ⟨⟨_, rfl⟩, rfl, le_rfl⟩
    | loadRaises text => exact Or.inl ⟨⟨_, rfl⟩, rfl, Nat.le_succ _⟩
    | loadInterrupted => exact Or.inl ⟨⟨_, rfl⟩, rfl, Nat.le_succ _⟩
    | loads => exact Or.inr ⟨rfl, rfl, rfl, _, Dict.get?_set_self _ _ _, rfl⟩

/-- A model whose record holds no backend has not been served. -/
theorem Agrees.ne_of_ready_none (h : Agrees registry served) {name : String} {record : ModelRecord}
    (hrecord : registry.records.get? name = some record) (hready : record.ready = none) :
    ∀ pair ∈ served.loads ++ served.returned, pair.1 ≠ name := by
  rintro pair hpair rfl
  obtain ⟨found, hfound, hsome⟩ := h.held pair hpair
  rw [Option.some.inj (hfound.symm.trans hrecord), hready] at hsome
  cases hsome

/-- A load of one model keeps what the records of the others hold. -/
theorem Agrees.held_after_load (h : Agrees registry served) {name : String}
    (construction : Construction)
    (hnot : ∀ pair ∈ served.loads ++ served.returned, pair.1 ≠ name) :
    ∀ pair ∈ served.loads ++ served.returned, ∃ record,
      (registry.load name construction).2.records.get? pair.1 = some record ∧
        record.ready = some pair.2 := by
  intro pair hpair
  rw [load_get?_of_ne registry (hnot pair hpair)]
  exact h.held pair hpair

/-- A load serves what its record holds afterwards. -/
theorem load_agrees (h : Agrees registry served) (name : String) (construction : Construction) :
    Agrees (registry.load name construction).2 (served.load registry name construction) := by
  have hfresh : registry.made ∉ registry.loaded := fun hmem =>
    lt_irrefl _ (h.numbered _ hmem)
  unfold Served.load
  rcases load_cases registry name construction with
    ⟨hsame, hanswer⟩ | ⟨record, hrecord, -, hready, hattempt⟩
  · -- nothing changed: the answer is the backend that the record holds
    simp only [hsame, if_neg hfresh, List.append_nil]
    refine ⟨h.numbered, fun pair hpair => ?_, h.loaded_once⟩
    rw [← List.append_assoc, List.mem_append] at hpair
    rcases hpair with hold | hnew
    · exact h.held pair hold
    · cases hresult : (registry.load name construction).1 with
      | error raised =>
        rw [hresult] at hnew
        cases hnew
      | ok backend =>
        rw [hresult] at hnew
        obtain rfl := List.mem_singleton.mp hnew
        exact hanswer backend hresult
  · -- the model was not served yet, because its record held no backend
    have hnot := h.ne_of_ready_none hrecord hready
    have hothers := h.held_after_load construction hnot
    rw [hattempt] at hothers ⊢
    rcases attempt_answer registry name record construction with
      ⟨⟨raised, herror⟩, hloaded, hmade⟩ | ⟨hok, hloaded, hmade, after, hafter, hheld⟩
    · simp only [herror, hloaded, if_neg hfresh, List.append_nil]
      refine ⟨fun backend hmem => ?_, fun pair hpair => hothers pair ?_, h.loaded_once⟩
      · rw [hloaded] at hmem
        exact lt_of_lt_of_le (h.numbered backend hmem) hmade
      · simpa [Except.toOption] using hpair
    · simp only [hok, hloaded, if_pos (Finset.mem_insert_self _ _)]
      refine ⟨fun backend hmem => ?_, fun pair hpair => ?_, ?_⟩
      · rw [hloaded] at hmem
        rw [hmade]
        rcases Finset.mem_insert.mp hmem with rfl | hmem
        · exact Nat.lt_succ_self _
        · exact Nat.lt_succ_of_lt (h.numbered backend hmem)
      · have hcases : pair ∈ served.loads ++ served.returned ∨ pair = (name, registry.made) := by
          simp only [Except.toOption, Option.toList, List.map_cons, List.map_nil,
            List.mem_append, List.mem_singleton] at hpair ⊢
          tauto
        rcases hcases with hold | rfl
        · exact hothers pair hold
        · exact ⟨after, hafter, hheld⟩
      · rw [List.map_append]
        refine h.loaded_once.append (List.nodup_singleton _) (List.disjoint_singleton.mpr ?_)
        intro hmem
        obtain ⟨pair, hpair, hname⟩ := List.mem_map.mp hmem
        exact hnot pair (List.mem_append_left _ hpair) hname

theorem loadItems_agrees (h : Agrees registry served) (construction : String → Construction)
    (items : List (String × ModelRecord)) :
    Agrees (loadItems construction items registry).2
      (served.loadItems construction items registry) := by
  induction items generalizing registry served with
  | nil => exact h
  | cons entry items ih =>
    obtain ⟨name, record⟩ := entry
    rw [loadItems, Served.loadItems]
    by_cases henabled : record.configuration.enabled
    · rw [if_pos henabled, if_pos henabled]
      have hload := load_agrees h name (construction name)
      generalize served.load registry name (construction name) = served' at hload ⊢
      generalize registry.load name (construction name) = result at hload ⊢
      obtain ⟨_ | _, after⟩ := result
      · exact hload
      · exact ih hload
    · rw [if_neg henabled, if_neg henabled]
      exact ih h

theorem closeItems_loaded (closing : String → Closing) (items : List (String × ModelRecord))
    (registry : ModelRegistry) :
    (closeItems closing items registry).2.made = registry.made ∧
      (closeItems closing items registry).2.loaded ⊆ registry.loaded := by
  induction items generalizing registry with
  | nil => exact ⟨rfl, Finset.Subset.refl _⟩
  | cons entry items ih =>
    obtain ⟨name, record⟩ := entry
    rw [closeItems]
    cases record.backend with
    | none => exact ih _
    | some backend =>
      have herase := Finset.erase_subset backend registry.loaded
      cases closing name with
      | returns => exact ⟨(ih _).1, (ih _).2.trans herase⟩
      | raises unloaded =>
        cases unloaded with
        | true => exact ⟨rfl, herase⟩
        | false => exact ⟨rfl, Finset.Subset.refl _⟩

/-- Every call serves what the records hold afterwards. -/
theorem after_agrees (h : Agrees registry served) (call : Call) :
    Agrees (registry.after call) (served.add registry call) := by
  cases call with
  | load name construction => exact load_agrees h name construction
  | loadEnabled construction => exact loadItems_agrees h construction _
  | get name =>
    refine ⟨h.numbered, fun pair hpair => ?_, h.loaded_once⟩
    rw [Served.add, ← List.append_assoc, List.mem_append] at hpair
    rcases hpair with hold | hnew
    · exact h.held pair hold
    · change pair ∈ (registry.get name).toOption.toList.map _ at hnew
      unfold get at hnew
      cases hrecord : registry.records.get? name with
      | none =>
        rw [hrecord] at hnew
        cases hnew
      | some record =>
        rw [hrecord] at hnew
        cases hready : record.ready with
        | none =>
          simp only [hready] at hnew
          cases hnew
        | some backend =>
          simp only [hready] at hnew
          obtain rfl := List.mem_singleton.mp hnew
          exact ⟨record, hrecord, hready⟩
  | close closing =>
    obtain ⟨hmade, hloaded⟩ := closeItems_loaded closing registry.records.entries registry
    refine ⟨fun backend hmem => ?_, fun _ hpair => absurd hpair List.not_mem_nil, List.nodup_nil⟩
    change backend < (closeItems closing registry.records.entries registry).2.made
    rw [hmade]
    exact h.numbered backend (hloaded hmem)

end Served

/-! ## Runs -/

section Run
variable {registry : ModelRegistry}

theorem orderly_consistent (h : Consistent registry) {call : Call}
    (horderly : Orderly registry call) : Consistent (registry.after call) := by
  cases call with
  | load name construction => exact load_consistent h horderly
  | loadEnabled construction =>
    exact (loadItems_spec h (pending_entries registry)).1 horderly
  | get name => exact h
  | close closing => exact (closeItems_spec h (pending_entries registry)).1 horderly

theorem not_settled_of_loading {loaded : Finset Nat} {record : ModelRecord}
    (h : record.health = .loading) : ¬ record.Settled loaded := by
  intro hsettled
  have hunavailable := hsettled.otherwise (by rw [h]; decide) (by rw [h]; decide)
  cases h.symm.trans hunavailable

theorem disorderly_unsettled (h : Consistent registry) {call : Call}
    (hnot : ¬ Orderly registry call) :
    ∃ entry ∈ (registry.after call).records.entries,
      ¬ entry.2.Settled (registry.after call).loaded := by
  cases call with
  | load name construction =>
    simp only [Orderly, not_forall, not_not] at hnot
    obtain ⟨record, hrecord, hleft⟩ := hnot
    obtain ⟨entry, hentry, hloading⟩ := load_loading hrecord hleft
    exact ⟨entry, hentry, not_settled_of_loading hloading⟩
  | loadEnabled construction =>
    obtain ⟨entry, hentry, hloading⟩ :=
      (loadItems_spec h (pending_entries registry)).2 hnot
    exact ⟨entry, hentry, not_settled_of_loading hloading⟩
  | get name => exact absurd trivial hnot
  | close closing => exact (closeItems_spec h (pending_entries registry)).2 hnot

theorem sound_of_consistent {o : Observed} (h : Consistent o.state)
    (hserved : Agrees o.state o.history) : Sound o := by
  refine ⟨fun entry hentry => (h.records entry hentry).settled, hserved.loaded_once, ?_⟩
  intro first hfirst second hsecond hname
  obtain ⟨record, hrecord, hready⟩ := hserved.held first hfirst
  obtain ⟨record', hrecord', hready'⟩ := hserved.held second hsecond
  rw [← hname] at hrecord'
  obtain rfl := Option.some.inj (hrecord.symm.trans hrecord')
  exact Option.some.inj (hready.symm.trans hready')

theorem init_consistent {configurations : List ModelConfig} {factories : Finset String}
    (hinit : init configurations factories = .ok registry) :
    Consistent registry ∧ Agrees registry {} := by
  obtain ⟨-, -, hentries, hloaded⟩ := init_ok hinit
  have hidle : ∀ entry ∈ registry.records.entries, entry.2.backend = none ∧
      entry.2.health = entry.2.configuration.idleHealth := by
    intro entry hentry
    rw [hentries] at hentry
    obtain ⟨configuration, -, rfl⟩ := List.mem_map.mp hentry
    exact ⟨rfl, rfl⟩
  constructor
  · refine ⟨fun entry hentry => ?_, fun first hfirst _ _ backend hbackend => ?_⟩
    · exact (ModelRecord.consistent_of_none (hidle entry hentry).1).mpr (hidle entry hentry).2
    · cases (hidle first hfirst).1.symm.trans hbackend
  · refine ⟨fun backend hmem => ?_, fun _ hpair => absurd hpair List.not_mem_nil, List.nodup_nil⟩
    rw [hloaded] at hmem
    exact absurd hmem (Finset.notMem_empty backend)

/-- In a run of calls, whether they return or raise, the registry is sound after every call if and
only if no call is left by an exception that leaves a record half changed. -/
theorem registry_settled_iff {configurations : List ModelConfig} {factories : Finset String}
    (hinit : init configurations factories = .ok registry) (calls : List Call) :
    (∀ x ∈ Transition.steps step ⟨registry, {}⟩ calls, Sound x.target) ↔
      ∀ x ∈ Transition.steps step ⟨registry, {}⟩ calls, Orderly x.source.state x.event := by
  refine @Transition.everyTarget_iff _ _ step
    (fun o : Observed => Consistent o.state ∧ Agrees o.state o.history) Sound
    (fun o call => Orderly o.state call) ?_ ?_ _ (init_consistent hinit) calls
  · rintro o call u ⟨hconsistent, hserved⟩ horderly hu
    obtain ⟨_, hafter, rfl⟩ := Transition.recorded_cases hu
    obtain rfl := Option.some.inj hafter
    have h := orderly_consistent hconsistent horderly
    have hserved' := after_agrees hserved call
    exact ⟨⟨h, hserved'⟩, sound_of_consistent h hserved'⟩
  · rintro o call u ⟨hconsistent, -⟩ hnot hu hsound
    obtain ⟨_, hafter, rfl⟩ := Transition.recorded_cases hu
    obtain rfl := Option.some.inj hafter
    obtain ⟨entry, hentry, hunsettled⟩ := disorderly_unsettled hconsistent hnot
    exact hunsettled (hsound.settled entry hentry)

/-- One detector, which is loaded, asked for and closed. -/
theorem registry_settled_iff_detector :
    ∃ registry, init [personDetector] ∅ = .ok registry ∧
      ((∀ x ∈ Transition.steps step ⟨registry, {}⟩ [.load "person-detector" .loads,
          .get "person-detector", .close fun _ => .returns], Sound x.target) ↔
        ∀ x ∈ Transition.steps step ⟨registry, {}⟩ [.load "person-detector" .loads,
          .get "person-detector", .close fun _ => .returns],
          Orderly x.source.state x.event) := by
  have hinit : init [personDetector] ∅ = .ok _ := rfl
  exact ⟨_, hinit, registry_settled_iff hinit _⟩

/-- A factory that raises leaves the record of its model LOADING. -/
theorem factoryRaises_loading :
    ∃ registry, init [personDetector] ∅ = .ok registry ∧
      (registry.load "person-detector" .factoryRaises).2.statuses.map ModelStatus.health =
        [.loading] ∧
      ¬ ∀ x ∈ Transition.steps step ⟨registry, {}⟩ [.load "person-detector" .factoryRaises],
        Sound x.target := by
  refine ⟨_, rfl, rfl, fun h => ?_⟩
  have hsound := h _ List.mem_cons_self
  exact not_settled_of_loading rfl (hsound.settled _ List.mem_cons_self)

end Run

end ModelRegistry

end EdgeSafety
