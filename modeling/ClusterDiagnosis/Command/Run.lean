import ClusterDiagnosis.Analyzer.Registry
import ClusterDiagnosis.Cluster.Api
import ClusterDiagnosis.Command.Arguments
import ClusterDiagnosis.Completion.Chat
import ClusterDiagnosis.Pipeline
import ClusterDiagnosis.Settings.Integrations

/-!
The command: reads its arguments, and then lists the analyzers or runs an analysis. A fault of the
configuration is a regular end; every other fault is passed on.
-/

set_option autoImplicit false
set_option relaxedAutoImplicit false

namespace ClusterDiagnosis

namespace Command

variable {σ τ : Type}

/-- What an analysis changes: the world of the cluster, that of the chat models, and the output. -/
abbrev Workspace (σ τ : Type) := Session (Connection σ) (ChatState τ)

/-- How the command ends: with an exit code or a fault, after a complaint or none. -/
structure Ending where
  exit : Except Fault Nat
  complaint : Option String := none

/-- The registry for a file of settings. -/
def registry (file : Option String) (t : FileTree) : Except Fault Registry :=
  match IntegrationSettings.load file t with
  | .error e => .error e.fault
  | .ok settings => Registry.withIntegrations (some (.ofSettings [] settings))

/-- The time limit of a run; a limit of zero is as good as none given. -/
def timeLimit (o : Options) (s : RunSettings) : Double :=
  match o.timeout with
  | some d => if d.isZero then s.timeout else d
  | none => s.timeout

/-- What an analysis is to do: as the options say, and else as the settings say. -/
def plan (o : Options) (s : RunSettings) : Plan where
  selection := ⟨o.scope.getD s.scope, o.selector.getD s.selector⟩
  explain := o.explain || s.explain
  fix := o.fix || s.fix
  anonymize := o.anonymize || s.anonymize
  asJson := o.asJson
  outputDir := s.outputDir

/-- The analyzers that the options ask for. -/
def analyzers (o : Options) (s : RunSettings) (t : FileTree) : Except Fault (List Analyzer) := do
  let file := (o.settingsFile.filter (!·.isEmpty)).or s.integrationFile
  (← registry file t).resolve o.filters o.withAdditional

/-- Runs an analysis. -/
def runAnalysis (api : Api σ) (chats : ChatWorld τ) (env : Environment) (o : Options)
    (w : Workspace σ τ) : Except Fault Unit × Workspace σ τ :=
  let s := RunSettings.ofEnvironment env
  match analyzers o s w.output.files,
    Deadline.start w.world.moment.now (.float (timeLimit o s)) with
  | .error f, _ => (.error f, w)
  | _, .error f => (.error f, w)
  | .ok as, .ok deadline =>
    let service := if (plan o s).explain then
        (Chat.ofEnvironment env).map fun c ↦ c.service chats env
      else none
    match analyze (plan o s) (Api.source api) service deadline as w with
    | (.ok _, w) => (.ok (), w)
    | (.error f, w) => (.error f, w)

/-- Prints the listing of all analyzers. -/
def listFilters (o : Options) (w : Workspace σ τ) : Except Fault Unit × Workspace σ τ :=
  match registry o.settingsFile w.output.files with
  | .error f => (.error f, w)
  | .ok r => (.ok (), { w with output := r.listing.foldl Output.print w.output })

/-- What is said about a fault. -/
def complaint (f : Fault) : String :=
  if f.isConfiguration then "❌ " ++ f.text
  else match f with
    | .mismatch _ => "❌ Error during analysis"
    | f => "❌ Error during analysis: " ++ f.text

/-- How the command ends after what it was to do. -/
def ending : Except Fault Unit → Ending
  | .ok () => ⟨.ok 0, none⟩
  | .error f => ⟨if f.isConfiguration then .ok 1 else .error f, some (complaint f)⟩

/-- Runs the command with its arguments. -/
def run (api : Api σ) (chats : ChatWorld τ) (env : Environment) (args : List String)
    (w : Workspace σ τ) : Ending × Workspace σ τ :=
  match Options.ofArguments args with
  | .error .help => (⟨.ok 0, none⟩, w)
  | .error .refused => (⟨.ok 2, none⟩, w)
  | .ok o =>
    let (r, w) := if o.listFilters then listFilters o w else runAnalysis api chats env o w
    (ending r, w)

end Command

end ClusterDiagnosis
