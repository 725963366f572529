import ClusterDiagnosis.Completion.ErrorCode
import ClusterDiagnosis.Completion.Message
import ClusterDiagnosis.Completion.Service
import ClusterDiagnosis.Settings.Environment

/-!
The completion service that asks a chat model. For each prompt a model is made anew, with as much
time as is left; whatever goes wrong ends in a completion fault with a stable code.
-/

set_option autoImplicit false
set_option relaxedAutoImplicit false

namespace ClusterDiagnosis

/-- The settings of a chat model. -/
structure ChatSettings where
  model : String
  temperature : Double
  maxTokens : Int
  timeout : Int

/-- The settings of a chat model, as the environment has them, each within its limits. -/
def ChatSettings.ofEnvironment (env : Environment) : ChatSettings where
  model := env.textOr "LLM_MODEL" "gemini-2.5-flash"
  temperature := env.double "LLM_TEMPERATURE" (.ofFraction false 1 5) .zero (.ofNat 1)
  maxTokens := env.int "LLM_MAX_OUTPUT_TOKENS" 4096 64 8192
  timeout := env.int "LLM_TIMEOUT_SECONDS" 120 5 300

/-- The packages through which chat models are reached. -/
inductive ChatPackage where
  | anthropic
  | vertex
  deriving DecidableEq, Repr

def ChatPackage.name : ChatPackage → String
  | anthropic => "langchain_anthropic"
  | vertex => "langchain_google_vertexai"

/-- What is known of the outside world of chat models. Each part may fail. -/
structure ChatWorld (τ : Type) where
  /-- Loads the package for credentials. -/
  loadCredentials : Moment → τ → Except Fault Unit × Moment × τ
  /-- Finds credentials for a scope. -/
  findCredentials : (scope : String) → Moment → τ → Except Fault Unit × Moment × τ
  /-- Loads a package of chat models. -/
  load : ChatPackage → Moment → τ → Except Fault Unit × Moment × τ
  /-- Makes a model. -/
  make : ChatPackage → List (String × Value) → Moment → τ → Except Fault Unit × Moment × τ
  /-- Asks the model just made, and gives the content of its message. -/
  invoke : (prompt : String) → Moment → τ → Except Fault Value × Moment × τ

/-- Something done with the world of chat models. -/
inductive ChatStep where
  | findCredentials (scope : String)
  | make (package : ChatPackage) (arguments : List (String × Value)) (start : Moment)
  | invoke (prompt : String)

/-- The steps done so far, and the state of the world of chat models. -/
structure ChatState (τ : Type) where
  steps : List ChatStep := []
  state : τ

/-- A step in the world of chat models. -/
abbrev Chatting (τ α : Type) := Moment → ChatState τ → Except Fault α × Moment × ChatState τ

/-- A service that asks chat models: the name of the provider, and the settings of its models. -/
structure Chat where
  provider : String
  settings : ChatSettings

namespace Chat

variable {τ α β : Type}

/-- A step followed by another one, unless it fails. -/
def andThen (p : Chatting τ α) (f : α → Chatting τ β) : Chatting τ β := fun m c ↦
  match p m c with
  | (.ok a, m, c) => f a m c
  | (.error e, m, c) => (.error e, m, c)

/-- A step with its fault changed. -/
def orFault (p : Chatting τ α) (change : Fault → Fault) : Chatting τ α := fun m c ↦
  match p m c with
  | (.ok a, m, c) => (.ok a, m, c)
  | (.error e, m, c) => (.error (change e), m, c)

/-- A step that fails with a completion fault. -/
def refuse (code : String) (message : String := "") : Chatting τ α := fun m c ↦
  (.error (.ofCode code message), m, c)

/-- A step of the world of chat models, not put on record. -/
def quietly (p : Moment → τ → Except Fault α × Moment × τ) : Chatting τ α := fun m c ↦
  let (r, m, state) := p m c.state
  (r, m, { c with state })

/-- A step of the world of chat models, put on record. -/
def perform (step : Moment → ChatStep) (p : Moment → τ → Except Fault α × Moment × τ) :
    Chatting τ α := fun m c ↦
  quietly p m { c with steps := c.steps ++ [step m] }

/-- The fault of a package that is not installed, under a code; other faults as they are. -/
def missingPackage (code : String) (f : Fault) : Fault :=
  if f.isNotInstalled then .ofCode code f.text else f

/-- The time limit of a model: that of the settings, or the time left if it is less, but at least
a second. -/
def timeLimit (s : ChatSettings) : Option Double → Value
  | none => .int s.timeout
  | some left =>
    .float (Double.maxOf (.ofNat 1) (Double.minOf (.ofNat s.timeout.toNat) left))

/-- The scope of the credentials that a model in the cloud needs. -/
def cloudScope : String := "https://www.googleapis.com/auth/cloud-platform"

/-- Makes a model in the cloud. -/
def makeVertex (w : ChatWorld τ) (s : ChatSettings) (env : Environment) (limit : Value) :
    Chatting τ Unit :=
  let project := env.text "GOOGLE_CLOUD_PROJECT"
  let location := env.text "GOOGLE_CLOUD_LOCATION"
  if project.isEmpty then refuse "missing_gcp_project"
  else if location.isEmpty then refuse "missing_gcp_location"
  else
    andThen (orFault (quietly w.loadCredentials) (missingPackage "adc_import_failed")) fun _ ↦
    andThen (orFault (perform (fun _ ↦ .findCredentials cloudScope) (w.findCredentials cloudScope))
      fun f ↦ .ofCode "missing_adc_credentials" f.text) fun _ ↦
    andThen (orFault (quietly (w.load .vertex))
      (missingPackage "sdk_import_failed:langchain_google_vertexai")) fun _ ↦
    let arguments := [
      ("model", .str s.model), ("temperature", .float s.temperature),
      ("max_output_tokens", .int s.maxTokens), ("project", .str project),
      ("location", .str location), ("timeout", limit)]
    perform (.make .vertex arguments) (w.make .vertex arguments)

/-- Makes a model that is reached with a key. -/
def makeAnthropic (w : ChatWorld τ) (s : ChatSettings) (env : Environment) (limit : Value) :
    Chatting τ Unit :=
  let key := env.text "ANTHROPIC_API_KEY"
  if key.isEmpty then refuse "missing_api_key"
  else
    andThen (orFault (quietly (w.load .anthropic))
      (missingPackage "sdk_import_failed:langchain_anthropic")) fun _ ↦
    let arguments := [
      ("model", .str s.model), ("temperature", .float s.temperature),
      ("max_tokens", .int s.maxTokens), ("anthropic_api_key", .str key), ("timeout", limit)]
    perform (.make .anthropic arguments) (w.make .anthropic arguments)

/-- The names of the provider of models in the cloud. -/
def vertexNames : List String := ["vertexai", "vertex", "gcp_vertexai"]

/-- Makes a model of the provider. -/
def make (c : Chat) (w : ChatWorld τ) (env : Environment) (left : Option Double) :
    Chatting τ Unit :=
  let limit := timeLimit c.settings left
  if vertexNames.contains c.provider then makeVertex w c.settings env limit
  else if c.provider = "anthropic" then makeAnthropic w c.settings env limit
  else refuse "provider_not_configured" ("unsupported LLM_PROVIDER: " ++ c.provider)

/-- The answer of the service when no model is to be asked. -/
def mockText : String := "LLM_MOCK enabled: no external call was made."

/-- Asks a model, with the time left if there is a deadline. -/
def ask (c : Chat) (w : ChatWorld τ) (env : Environment) (prompt : String)
    (left : Option Double) : Chatting τ String :=
  if env.switch "LLM_MOCK" then fun m s ↦ (.ok mockText, m, s)
  else
    andThen (c.make w env left) fun _ ↦
    andThen (orFault (perform (fun _ ↦ .invoke prompt) (w.invoke prompt)) fun f ↦
      .ofCode (ErrorCode.of c.settings.model f) f.text) fun content m s ↦
    (.ok (Message.text content), m, s)

/-- The chat as a completion service. Explanations are asked for without regard to the deadline. -/
def service (c : Chat) (w : ChatWorld τ) (env : Environment) :
    CompletionService (ChatState τ) where
  explain prompt := andThen (c.ask w env prompt none) fun reply m s ↦ (.ok (.str reply), m, s)
  correct deadline prompt := fun m s ↦
    match allowance deadline m with
    | .error f => (.error f, m, s)
    | .ok left => c.ask w env prompt left m s

/-- The provider that the environment names. -/
def providerOf (env : Environment) : String :=
  if (env.text "LLM_PROVIDER").isEmpty then "vertexai" else Text.lower (env.text "LLM_PROVIDER")

/-- The chat that the environment asks for, if it names a provider or wants none to be asked. -/
def ofEnvironment (env : Environment) : Option Chat :=
  if (env.text "LLM_PROVIDER").isEmpty && !env.switch "LLM_MOCK" then none
  else some ⟨providerOf env, .ofEnvironment env⟩

end Chat

end ClusterDiagnosis
