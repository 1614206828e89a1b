import EdgeSafety.Lib.Loops
import EdgeSafety.Shared.Configuration

/-!
# Loading a model file

`OnnxRuntimeBackend.load` of `inference/onnx_backend.py`, over whatever the file system and
onnxruntime answer. No session is made of a file without its checksum, and a load that ends well
leaves a session of the provider asked for. What is raised after the session is made leaves it
behind, except where its provider is another one (`allOrNothing_iff`).
-/

namespace EdgeSafety

/-- `ModelConfig`, with the fields that only the backend reads; `path` is `str` of it. -/
structure OnnxModelConfig extends ModelConfig where
  path : String
  warmupRuns : Nat := 2
  sha256 : Option String := none
  warmupRuns_bounds : warmupRuns ≤ 20 := by decide

/-- What is raised. -/
inductive Raised
  | modelUnavailable (text : String)
  | importError (text : String)
  /-- Another `Exception`. -/
  | exception (text : String)
  /-- What is no `Exception`, such as `KeyboardInterrupt`. -/
  | interrupted
  deriving DecidableEq

/-- An element of the shape of an input: an `int`, or what is none. -/
inductive ShapeEntry
  | int (n : Int)
  | symbolic
  deriving DecidableEq

/-- `dimension if isinstance(dimension, int) else 1`. -/
def ShapeEntry.size : ShapeEntry → Int
  | .int n => n
  | .symbolic => 1

/-- The description of an input. -/
structure InputMeta where
  name : String
  shape : List ShapeEntry
  deriving DecidableEq

/-- A session of onnxruntime: what its methods answer, `get_inputs` and `run` in their calls in
turn. The outputs of `run` are not used in a load. -/
structure InferenceSession where
  getProviders : Except Raised (List String)
  getInputs : Nat → Except Raised (List InputMeta)
  run : Nat → String → List Int → Except Raised Unit

/-- What `InferenceSession` is called with. -/
structure SessionRequest where
  path : String
  configEntries : List (String × String)
  providers : List String
  deriving DecidableEq

/-- What a load meets: the modules it imports and the file system, with `hexdigest` of SHA-256. -/
structure Environment where
  importOnnxruntime : Except Raised Unit
  getAvailableProviders : Except Raised (List String)
  sessionOptions : Except Raised Unit
  addSessionConfigEntry : String → String → Except Raised Unit
  inferenceSession : SessionRequest → Except Raised InferenceSession
  zeros : List Int → Except Raised Unit
  isFile : String → Except Raised Bool
  readText : String → Except Raised String
  readBytes : String → Except Raised (List UInt8)
  hexdigest : List UInt8 → String

/-- `OnnxRuntimeBackend`. -/
structure OnnxRuntimeBackend where
  configuration : OnnxModelConfig
  session : Option InferenceSession := none
  inputName : String := ""

/-- What a load ends with: its result, the backend after it, and what a session was asked for
with. -/
structure Loading where
  result : Except Raised Unit
  backend : OnnxRuntimeBackend
  request : Option SessionRequest

/-! ## The checksum -/

/-- What `str.split` splits a text of ASCII characters at. -/
def isSpace (c : Char) : Bool :=
  (9 ≤ c.toNat && c.toNat ≤ 13) || (28 ≤ c.toNat && c.toNat ≤ 32)

/-- `str.strip`. -/
def strip (text : String) : String :=
  .ofList ((text.toList.dropWhile isSpace).reverse.dropWhile isSpace).reverse

/-- `str.split`. -/
def splitSpaces (text : String) : List String :=
  ((text.toList.splitOnP isSpace).filter (· ≠ [])).map .ofList

example : splitSpaces (strip " 0af1  model.onnx\n") = ["0af1", "model.onnx"] := by decide

/-- `model_path.with_suffix(model_path.suffix + ".sha256")`. The current directory and a root have
no name. -/
def sidecar (path : String) : Except Raised String :=
  if path = "." ∨ path.toList.getLast? = some '/' then
    .error (.exception s!"{path} has an empty name")
  else .ok (path ++ ".sha256")

section Load
variable (env : Environment)

/-- `expected_sha256`. -/
def expectedSha256 (configuration : OnnxModelConfig) (sidecar : String) :
    Except Raised (Option String) := do
  match configuration.sha256 with
  | some digest => .ok (some digest)
  | none =>
    if ← env.isFile sidecar then
      let text ← env.readText sidecar
      match splitSpaces (strip text) with
      | [] => .error (.exception "list index out of range")
      | word :: _ => .ok (some word)
    else .ok none

/-- The part of `load` about the checksum. -/
def verifyChecksum (configuration : OnnxModelConfig) : Except Raised Unit := do
  let path := configuration.path
  let sidecar ← sidecar path
  match ← expectedSha256 env configuration sidecar with
  | none =>
    .error (.modelUnavailable
      s!"model checksum is not configured and sidecar is missing: {sidecar}")
  | some expected =>
    let digest := env.hexdigest (← env.readBytes path)
    if digest ≠ expected then
      .error (.modelUnavailable
        s!"checksum mismatch for {path}: expected {expected}, got {digest}")
    else .ok ()

/-- `repr` of a list of names; there is nothing to escape in a name. -/
def namesText (names : List String) : String :=
  "[" ++ ", ".intercalate (names.map fun name => "'" ++ name ++ "'") ++ "]"

/-- `load`, up to the options of the session. -/
def prepare (configuration : OnnxModelConfig) : Except Raised Unit := do
  match env.importOnnxruntime with
  | .error (.importError _) => .error (.modelUnavailable "onnxruntime is not installed")
  | .error raised => .error raised
  | .ok () =>
    let path := configuration.path
    if !(← env.isFile path) then
      .error (.modelUnavailable s!"model file does not exist: {path}")
    else
      let available ← env.getAvailableProviders
      let provider := configuration.provider
      if provider ∉ available then
        .error (.modelUnavailable
          s!"required provider {provider} unavailable; available={namesText available}")
      else
        verifyChecksum env configuration
        env.sessionOptions
        if provider ≠ "CPUExecutionProvider" then
          env.addSessionConfigEntry "session.disable_cpu_ep_fallback" "1"

end Load

/-- What `load` calls `InferenceSession` with. -/
def OnnxModelConfig.request (configuration : OnnxModelConfig) : SessionRequest where
  path := configuration.path
  configEntries :=
    if configuration.provider ≠ "CPUExecutionProvider" then
      [("session.disable_cpu_ep_fallback", "1")]
    else []
  providers := [configuration.provider]

/-- The text of an `Exception`. -/
def Raised.text? : Raised → Option String
  | .modelUnavailable text => some text
  | .importError text => some text
  | .exception text => some text
  | .interrupted => none

/-- What `load` raises where `InferenceSession` raises. -/
def OnnxModelConfig.sessionError (configuration : OnnxModelConfig) (raised : Raised) : Raised :=
  match raised.text? with
  | some text =>
    .modelUnavailable s!"failed to load {configuration.name} with {configuration.provider}: {text}"
  | none => raised

/-- `get_inputs()[0]` in the call `call`. -/
def InferenceSession.firstInput (session : InferenceSession) (call : Nat) :
    Except Raised InputMeta := do
  match ← session.getInputs call with
  | [] => .error (.exception "list index out of range")
  | input :: _ => .ok input

namespace OnnxRuntimeBackend

/-- `__init__`. -/
def init (configuration : OnnxModelConfig) : OnnxRuntimeBackend where
  configuration

/-- The property `session`. -/
def getSession (backend : OnnxRuntimeBackend) : Except Raised InferenceSession :=
  match backend.session with
  | none => .error (.modelUnavailable s!"model {backend.configuration.name} is not loaded")
  | some session => .ok session

/-- `close`. -/
def close (backend : OnnxRuntimeBackend) : OnnxRuntimeBackend :=
  { backend with session := none, inputName := "" }

/-- `_warmup`, after the first call of `get_inputs`. -/
def warmup (env : Environment) (backend : OnnxRuntimeBackend) : Except Raised Unit :=
  match backend.session with
  | none => .ok ()
  | some session => do
    if backend.configuration.warmupRuns = 0 then .ok ()
    else
      let input ← session.firstInput 1
      let shape := input.shape.map ShapeEntry.size
      if shape.length ≠ 4 then
        .error (.modelUnavailable
          s!"expected a 4D input for {backend.configuration.name}, got {shape}")
      else
        env.zeros shape
        forM (List.range backend.configuration.warmupRuns) fun call =>
          session.run call backend.inputName shape

/-- `load`, after the session is made. -/
def activate (env : Environment) (backend : OnnxRuntimeBackend) (session : InferenceSession) :
    Except Raised Unit × OnnxRuntimeBackend :=
  let configuration := backend.configuration
  match session.getProviders with
  | .error raised => (.error raised, backend)
  | .ok active =>
    if active.head? ≠ some configuration.provider then
      (.error (.modelUnavailable
        s!"provider mismatch for {configuration.name}: active={namesText active}"), backend.close)
    else
      match session.firstInput 0 with
      | .error raised => (.error raised, backend)
      | .ok input =>
        let backend := { backend with inputName := input.name }
        (backend.warmup env, backend)

/-- `load`. -/
def load (env : Environment) (backend : OnnxRuntimeBackend) : Loading :=
  match prepare env backend.configuration with
  | .error raised => ⟨.error raised, backend, none⟩
  | .ok () =>
    let request := backend.configuration.request
    match env.inferenceSession request with
    | .error raised => ⟨.error (backend.configuration.sessionError raised), backend, some request⟩
    | .ok session =>
      let (result, backend) := activate env { backend with session := some session } session
      ⟨result, backend, some request⟩

end OnnxRuntimeBackend

/-! ## What a load passes before it makes a session -/

/-- The checksum asked for: that of the configuration, or the first word of the sidecar. -/
def Expects (env : Environment) (configuration : OnnxModelConfig) (digest : String) : Prop :=
  configuration.sha256 = some digest ∨
    configuration.sha256 = none ∧ ∃ file, sidecar configuration.path = .ok file ∧
      env.isFile file = .ok true ∧
      ∃ text, env.readText file = .ok text ∧ (splitSpaces (strip text)).head? = some digest

/-- The model file has the checksum asked for. -/
def Verified (env : Environment) (configuration : OnnxModelConfig) : Prop :=
  ∃ data, env.readBytes configuration.path = .ok data ∧
    Expects env configuration (env.hexdigest data)

/-- A load goes on to make a session. -/
structure Admitted (env : Environment) (configuration : OnnxModelConfig) : Prop where
  installed : env.importOnnxruntime = .ok ()
  modelFile : env.isFile configuration.path = .ok true
  available : ∃ providers, env.getAvailableProviders = .ok providers ∧
    configuration.provider ∈ providers
  named : ∃ file, sidecar configuration.path = .ok file
  verified : Verified env configuration
  options : env.sessionOptions = .ok ()
  configEntry : configuration.provider ≠ "CPUExecutionProvider" →
    env.addSessionConfigEntry "session.disable_cpu_ep_fallback" "1" = .ok ()

section Prepare
open Loops
variable {env : Environment} {configuration : OnnxModelConfig}

theorem expectedSha256_eq_some_iff {file digest : String}
    (hfile : sidecar configuration.path = .ok file) :
    expectedSha256 env configuration file = .ok (some digest) ↔
      Expects env configuration digest := by
  unfold expectedSha256 Expects
  cases hsha : configuration.sha256 with
  | some configured => simp
  | none =>
    have hunique : (∃ other, sidecar configuration.path = .ok other ∧ env.isFile other = .ok true ∧
        ∃ text, env.readText other = .ok text ∧
          (splitSpaces (strip text)).head? = some digest) ↔
        env.isFile file = .ok true ∧ ∃ text, env.readText file = .ok text ∧
          (splitSpaces (strip text)).head? = some digest := by
      constructor
      · rintro ⟨other, hother, h⟩
        obtain rfl := Except.ok.inj (hfile.symm.trans hother)
        exact h
      · exact fun h => ⟨file, hfile, h⟩
    rw [hunique]
    simp only [reduceCtorEq, false_or, true_and]
    rw [bind_eq_ok_iff]
    constructor
    · rintro ⟨present, hpresent, h⟩
      cases present with
      | false => cases h
      | true =>
        obtain ⟨text, htext, h⟩ := bind_eq_ok h
        cases hwords : splitSpaces (strip text) with
        | nil =>
          rw [hwords] at h
          cases h
        | cons word words =>
          rw [hwords] at h
          cases h
          exact ⟨hpresent, text, htext, by rw [hwords]; rfl⟩
    · rintro ⟨hpresent, text, htext, hword⟩
      obtain ⟨words, hwords⟩ := List.head?_eq_some_iff.mp hword
      refine ⟨true, hpresent, bind_eq_ok_iff.mpr ⟨text, htext, ?_⟩⟩
      rw [hwords]

theorem verifyChecksum_eq_ok_iff :
    verifyChecksum env configuration = .ok () ↔
      (∃ file, sidecar configuration.path = .ok file) ∧ Verified env configuration := by
  unfold verifyChecksum Verified
  rw [bind_eq_ok_iff]
  constructor
  · rintro ⟨file, hfile, h⟩
    obtain ⟨expected, hexpected, h⟩ := bind_eq_ok h
    cases expected with
    | none => cases h
    | some digest =>
      obtain ⟨data, hdata, h⟩ := bind_eq_ok h
      dsimp only at h
      split at h
      · cases h
      · next heq =>
        refine ⟨⟨file, hfile⟩, data, hdata, (expectedSha256_eq_some_iff hfile).mp ?_⟩
        rw [hexpected, not_not.mp heq]
  · rintro ⟨⟨file, hfile⟩, data, hdata, hexpects⟩
    refine ⟨file, hfile, bind_eq_ok_iff.mpr
      ⟨_, (expectedSha256_eq_some_iff hfile).mpr hexpects, bind_eq_ok_iff.mpr ⟨data, hdata, ?_⟩⟩⟩
    exact if_neg (not_not.mpr rfl)

theorem prepare_eq_ok_iff : prepare env configuration = .ok () ↔ Admitted env configuration := by
  unfold prepare
  constructor
  · intro h
    split at h
    · cases h
    · cases h
    · next hinstalled =>
      obtain ⟨present, hpresent, h⟩ := bind_eq_ok h
      cases present with
      | false => cases h
      | true =>
        obtain ⟨providers, hproviders, h⟩ := bind_eq_ok h
        dsimp only at h
        split at h
        · cases h
        · next hmem =>
          obtain ⟨⟨⟩, hchecksum, h⟩ := bind_eq_ok h
          obtain ⟨⟨⟩, hoptions, h⟩ := bind_eq_ok h
          obtain ⟨hnamed, hverified⟩ := verifyChecksum_eq_ok_iff.mp hchecksum
          refine ⟨hinstalled, hpresent, ⟨providers, hproviders, not_not.mp hmem⟩, hnamed, hverified,
            hoptions, ?_⟩
          intro hprovider
          rwa [if_pos hprovider] at h
  · intro h
    obtain ⟨providers, hproviders, hmem⟩ := h.available
    rw [h.installed]
    refine bind_eq_ok_iff.mpr ⟨true, h.modelFile, bind_eq_ok_iff.mpr ⟨providers, hproviders, ?_⟩⟩
    rw [if_neg (not_not.mpr hmem)]
    refine bind_eq_ok_iff.mpr ⟨(), verifyChecksum_eq_ok_iff.mpr ⟨h.named, h.verified⟩,
      bind_eq_ok_iff.mpr ⟨(), h.options, ?_⟩⟩
    split
    · next hprovider => exact h.configEntry hprovider
    · rfl

end Prepare

/-! ## All or nothing -/

/-- No model is loaded. -/
def OnnxRuntimeBackend.Unloaded (backend : OnnxRuntimeBackend) : Prop :=
  backend.session.isNone ∧ backend.inputName = "" ∧
    backend.getSession =
      .error (.modelUnavailable s!"model {backend.configuration.name} is not loaded")

/-- A load leaves a session of the provider and the model file asked for, or raises and leaves
nothing; it asks for a session only of a model file with its checksum. -/
structure AllOrNothing (env : Environment) (configuration : OnnxModelConfig) (loading : Loading) :
    Prop where
  loaded : loading.result = .ok () → ∃ session others, loading.backend.getSession = .ok session ∧
    session.getProviders = .ok (configuration.provider :: others) ∧ Verified env configuration
  unloaded : ∀ raised, loading.result = .error raised → loading.backend.Unloaded
  gated : ∀ request, loading.request = some request → Verified env configuration

/-- Nothing raises in the warm-up of a session with this input. -/
def WarmsUp (env : Environment) (configuration : OnnxModelConfig) (session : InferenceSession)
    (inputName : String) : Prop :=
  configuration.warmupRuns = 0 ∨
    ∃ input, session.firstInput 1 = .ok input ∧ input.shape.length = 4 ∧
      env.zeros (input.shape.map ShapeEntry.size) = .ok () ∧
      ∀ call < configuration.warmupRuns,
        session.run call inputName (input.shape.map ShapeEntry.size) = .ok ()

/-- A session that is there tells its providers, and where the first is the one asked for, it has an
input and nothing raises in its warm-up. -/
def Settles (env : Environment) (configuration : OnnxModelConfig) (session : InferenceSession) :
    Prop :=
  ∃ active, session.getProviders = .ok active ∧
    (active.head? = some configuration.provider →
      ∃ input, session.firstInput 0 = .ok input ∧ WarmsUp env configuration session input.name)

namespace OnnxRuntimeBackend
open Loops
variable {env : Environment} {backend : OnnxRuntimeBackend} {session : InferenceSession}

theorem init_unloaded (configuration : OnnxModelConfig) : (init configuration).Unloaded :=
  ⟨rfl, rfl, rfl⟩

theorem close_unloaded : backend.close.Unloaded := ⟨rfl, rfl, rfl⟩

theorem not_unloaded (hsession : backend.session = some session) : ¬ backend.Unloaded := by
  rintro ⟨hnone, -⟩
  rw [hsession] at hnone
  cases hnone

theorem warmup_eq_ok_iff (hsession : backend.session = some session) :
    backend.warmup env = .ok () ↔
      WarmsUp env backend.configuration session backend.inputName := by
  unfold warmup WarmsUp
  rw [hsession]
  by_cases hruns : backend.configuration.warmupRuns = 0
  · simp [hruns]
  · simp only [hruns, if_false, false_or]
    rw [bind_eq_ok_iff]
    apply exists_congr
    intro input
    rw [and_congr_right_iff]
    intro _
    rw [List.length_map]
    by_cases hlength : input.shape.length = 4
    · simp only [hlength, ne_eq, not_true_eq_false, if_false, true_and]
      rw [bind_eq_ok_iff, forM_eq_ok_iff]
      simp only [List.mem_range]
      constructor
      · rintro ⟨⟨⟩, hzeros, hruns⟩
        exact ⟨hzeros, hruns⟩
      · rintro ⟨hzeros, hruns⟩
        exact ⟨(), hzeros, hruns⟩
    · simp [hlength]

/-- What follows the making of a session: it does not tell its providers, or it is closed because
the first is another, or it does not tell its input, or it is warmed up. -/
theorem activate_cases (env : Environment) (backend : OnnxRuntimeBackend)
    (session : InferenceSession) :
    (∃ raised, session.getProviders = .error raised ∧
      activate env backend session = (.error raised, backend)) ∨
    ∃ active, session.getProviders = .ok active ∧
      (active.head? ≠ some backend.configuration.provider ∧
        (∃ raised, activate env backend session = (.error raised, backend.close)) ∨
      active.head? = some backend.configuration.provider ∧
        ((∃ raised, session.firstInput 0 = .error raised ∧
          activate env backend session = (.error raised, backend)) ∨
        ∃ input, session.firstInput 0 = .ok input ∧
          activate env backend session =
            (warmup env { backend with inputName := input.name },
              { backend with inputName := input.name }))) := by
  unfold activate
  cases session.getProviders with
  | error raised => exact Or.inl ⟨raised, rfl, rfl⟩
  | ok active =>
    refine Or.inr ⟨active, rfl, ?_⟩
    by_cases hprovider : active.head? = some backend.configuration.provider
    · refine Or.inr ⟨hprovider, ?_⟩
      dsimp only
      rw [if_neg (not_not.mpr hprovider)]
      cases session.firstInput 0 with
      | error raised => exact Or.inl ⟨raised, rfl, rfl⟩
      | ok input => exact Or.inr ⟨input, rfl, rfl⟩
    · refine Or.inl ⟨hprovider, ?_⟩
      dsimp only
      rw [if_pos hprovider]
      exact ⟨_, rfl⟩

/-- What is raised after a session is made leaves nothing exactly if the session settles. -/
theorem activate_unloaded_iff (hsession : backend.session = some session) :
    (∀ raised, (activate env backend session).1 = .error raised →
      (activate env backend session).2.Unloaded) ↔ Settles env backend.configuration session := by
  have hleft : ¬ backend.Unloaded := not_unloaded hsession
  unfold Settles
  rcases activate_cases env backend session with ⟨raised, hproviders, hactivate⟩ |
    ⟨active, hproviders, ⟨hother, raised, hactivate⟩ |
      ⟨hprovider, ⟨raised, hinput, hactivate⟩ | ⟨input, hinput, hactivate⟩⟩⟩
  · simp [hactivate, hproviders, hleft]
  · simp [hactivate, hproviders, hother, close_unloaded]
  · simp [hactivate, hproviders, hprovider, hinput, hleft]
  · have hwarmup : warmup env { backend with inputName := input.name } = .ok () ↔
        WarmsUp env backend.configuration session input.name :=
      warmup_eq_ok_iff hsession
    have hnamed : ¬ ({ backend with inputName := input.name } : OnnxRuntimeBackend).Unloaded :=
      not_unloaded hsession
    simp only [hactivate, hproviders, Except.ok.injEq, exists_eq_left', hprovider, true_implies,
      hinput, ← hwarmup]
    cases warmup env { backend with inputName := input.name } with
    | error raised => simp [hnamed]
    | ok _ => simp

/-- A session that is activated is kept, and it is one of the provider asked for. -/
theorem activate_ok (hsession : backend.session = some session)
    (hok : (activate env backend session).1 = .ok ()) :
    (activate env backend session).2.getSession = .ok session ∧
      ∃ others, session.getProviders = .ok (backend.configuration.provider :: others) := by
  rcases activate_cases env backend session with ⟨raised, -, hactivate⟩ |
    ⟨active, hproviders, ⟨-, raised, hactivate⟩ |
      ⟨hprovider, ⟨raised, -, hactivate⟩ | ⟨input, -, hactivate⟩⟩⟩
  · rw [hactivate] at hok
    cases hok
  · rw [hactivate] at hok
    cases hok
  · rw [hactivate] at hok
    cases hok
  · obtain ⟨others, rfl⟩ := List.head?_eq_some_iff.mp hprovider
    rw [hactivate]
    exact ⟨by rw [getSession, hsession], others, hproviders⟩

/-- What a load does: it raises before it makes a session, or the session is not made, or it is
activated. -/
theorem load_cases (env : Environment) (backend : OnnxRuntimeBackend) :
    (¬ Admitted env backend.configuration ∧
      ∃ raised, load env backend = ⟨.error raised, backend, none⟩) ∨
    Admitted env backend.configuration ∧
      ((∃ raised, env.inferenceSession backend.configuration.request = .error raised ∧
        load env backend = ⟨.error (backend.configuration.sessionError raised), backend,
          some backend.configuration.request⟩) ∨
      ∃ session, env.inferenceSession backend.configuration.request = .ok session ∧
        load env backend =
          ⟨(activate env { backend with session := some session } session).1,
            (activate env { backend with session := some session } session).2,
            some backend.configuration.request⟩) := by
  unfold load
  cases hprepare : prepare env backend.configuration with
  | error raised =>
    left
    refine ⟨?_, raised, rfl⟩
    intro hadmitted
    cases hprepare.symm.trans (prepare_eq_ok_iff.mpr hadmitted)
  | ok _ =>
    right
    refine ⟨prepare_eq_ok_iff.mp hprepare, ?_⟩
    dsimp only
    cases hmade : env.inferenceSession backend.configuration.request with
    | error raised => exact Or.inl ⟨raised, rfl, rfl⟩
    | ok session => exact Or.inr ⟨session, rfl, rfl⟩

/-- No session is asked for of a model file without its checksum. -/
theorem request_verified {request : SessionRequest}
    (h : (load env backend).request = some request) : Verified env backend.configuration := by
  rcases load_cases env backend with ⟨-, raised, hload⟩ | ⟨hadmitted, -⟩
  · rw [hload] at h
    cases h
  · exact hadmitted.verified

/-- A load is all or nothing exactly if every session that it makes settles. -/
theorem allOrNothing_iff (env : Environment) (configuration : OnnxModelConfig) :
    AllOrNothing env configuration (load env (init configuration)) ↔
      ∀ session, Admitted env configuration →
        env.inferenceSession configuration.request = .ok session →
        Settles env configuration session := by
  have hgated : ∀ request, (load env (init configuration)).request = some request →
      Verified env configuration := fun _ => request_verified
  rcases load_cases env (init configuration) with ⟨hnot, raised, hload⟩ |
    ⟨hadmitted, ⟨raised, hmade, hload⟩ | ⟨session, hmade, hload⟩⟩
  · rw [hload] at hgated ⊢
    constructor
    · exact fun _ _ hadmitted => absurd hadmitted hnot
    · exact fun _ => ⟨nofun, fun _ _ => init_unloaded configuration, hgated⟩
  · rw [hload] at hgated ⊢
    constructor
    · intro _ session _ hsession
      cases hmade.symm.trans hsession
    · exact fun _ => ⟨nofun, fun _ _ => init_unloaded configuration, hgated⟩
  · have hactivate : (∀ raised,
        (activate env { init configuration with session := some session } session).1 =
            .error raised →
          (activate env { init configuration with session := some session }
            session).2.Unloaded) ↔ Settles env configuration session :=
      activate_unloaded_iff rfl
    rw [hload] at hgated ⊢
    constructor
    · intro h other _ hother
      obtain rfl := Except.ok.inj (hmade.symm.trans hother)
      exact hactivate.mp h.unloaded
    · intro h
      refine ⟨?_, hactivate.mpr (h session hadmitted hmade), hgated⟩
      intro hok
      obtain ⟨hkept, others, hproviders⟩ := activate_ok rfl hok
      exact ⟨session, others, hkept, hproviders, hadmitted.verified⟩

/-- A detector for the CPU, with its checksum. -/
def cpuDetector : OnnxModelConfig where
  name := "detector"
  role := .detector
  provider := "CPUExecutionProvider"
  path := "models/detector.onnx"
  sha256 := some "ba7816bf8f01cfea414140de5dae2223b00361a396177a9cb410ff61f20015ad"

/-- Everything is there, and the input of the model file is a vector. -/
def vectorInput : Environment where
  importOnnxruntime := .ok ()
  getAvailableProviders := .ok ["CPUExecutionProvider"]
  sessionOptions := .ok ()
  addSessionConfigEntry _ _ := .ok ()
  inferenceSession request := .ok
    { getProviders := .ok request.providers
      getInputs _ := .ok [⟨"input", [.symbolic, .int 16]⟩]
      run _ _ _ := .ok () }
  zeros _ := .ok ()
  isFile path := .ok (path = "models/detector.onnx")
  readText _ := .error (.exception "No such file or directory")
  readBytes _ := .ok [97, 98, 99]
  hexdigest _ := "ba7816bf8f01cfea414140de5dae2223b00361a396177a9cb410ff61f20015ad"

/-- The warm-up raises, and the session is still there. -/
theorem vectorInput_keeps_session :
    ¬ AllOrNothing vectorInput cpuDetector (load vectorInput (init cpuDetector)) := by
  intro h
  obtain ⟨hnone, -⟩ := h.unloaded
    (.modelUnavailable "expected a 4D input for detector, got [1, 16]") (by rfl)
  cases hnone

end OnnxRuntimeBackend
end EdgeSafety
