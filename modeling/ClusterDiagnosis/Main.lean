import ClusterDiagnosis.Command.Run

/-!
The program. It has no connection to a cluster or to chat models of its own: without them every
analysis ends in the fault that says so, while listing the analyzers needs neither.
-/

set_option autoImplicit false
set_option relaxedAutoImplicit false

namespace ClusterDiagnosis.Program

/-- The variables that are read from the environment. -/
def variableNames : List String := [
  "TRIAGE_NAMESPACE", "TRIAGE_LABEL_SELECTOR", "TRIAGE_EXPLAIN", "TRIAGE_FIX",
  "TRIAGE_ANONYMIZE", "TRIAGE_TIMEOUT_SECONDS", "TRIAGE_OUTPUT_DIR", "TRIAGE_CONFIG",
  "LLM_PROVIDER", "LLM_MOCK", "LLM_MODEL", "LLM_TEMPERATURE", "LLM_MAX_OUTPUT_TOKENS",
  "LLM_TIMEOUT_SECONDS", "GOOGLE_CLOUD_PROJECT", "GOOGLE_CLOUD_LOCATION", "ANTHROPIC_API_KEY"]

/-- A place for the cluster configuration that holds none. -/
def unconfigured (message : String) (m : Moment) (s : Unit) :
    Except Fault Unit × Moment × Unit :=
  (.error (.external ⟨"NotConfigured", message, .noConfiguration⟩), m, s)

/-- What is asked of something that cannot be reached. -/
def unreachable {α : Type} (m : Moment) (s : Unit) : Except Fault α × Moment × Unit :=
  (.error (.external ⟨"NotConnected", "not connected", .plain⟩), m, s)

/-- The interface of a cluster that is not configured. -/
def api : Api Unit where
  inCluster := unconfigured "not inside a cluster"
  ofUser := unconfigured "no cluster configuration found"
  connect _ := unreachable
  call _ := unreachable

/-- A package that is not installed. -/
def notInstalled (name : String) (m : Moment) (s : Unit) : Except Fault Unit × Moment × Unit :=
  (.error (.external ⟨"NotInstalled", "package " ++ name ++ " is not installed", .notInstalled⟩),
    m, s)

/-- Chat models of which no package is installed. -/
def chats : ChatWorld Unit where
  loadCredentials := notInstalled "google.auth"
  findCredentials _ := unreachable
  load p := notInstalled p.name
  make _ _ := unreachable
  invoke _ := unreachable

/-- The variables that are set. -/
def environment : IO Environment := do
  let found ← variableNames.mapM fun name ↦ return (name, ← IO.getEnv name)
  return found.filterMap fun (name, v) ↦ v.map fun v ↦ (name, v)

/-- The files that a run may read: the one with settings, if there is one. -/
def files (args : List String) (env : Environment) : IO FileTree := do
  let here := (Path.of (← IO.currentDir).toString).names
  let bare : FileTree := { ({} : FileTree).makeDirectories "/" here |>.2 with current := here }
  let named := match Options.ofArguments args with
    | .ok o => o.settingsFile
    | .error _ => none
  match named.or (RunSettings.ofEnvironment env).integrationFile with
  | none => return bare
  | some file =>
    let p := Path.of file
    try
      let bytes ← IO.FS.readBinFile file
      let (_, t) := bare.makeDirectories p.root p.parent.names
      match t.writeFile p bytes.toList with
      | (.ok (), t) => return t
      | (.error _, _) => return bare
    catch _ => return bare

/-- Writes the files of a tree that another one does not have. -/
def save (before after : FileTree) : IO Unit := do
  for (place, n) in after.nodes do
    if !before.nodes.contains (place, n) then
      let path := "/" ++ "/".intercalate place
      match n with
      | .directory => IO.FS.createDirAll path
      | .file bytes => IO.FS.writeBinFile path ⟨bytes.toArray⟩

/-- Runs the command and gives its exit code. -/
def run (args : List String) : IO UInt32 := do
  let env ← environment
  let tree ← files args env
  let now := Double.ofFraction false (← IO.monoMsNow) 1000
  let w : Command.Workspace Unit Unit := {
    world := { moment := ⟨now, false⟩, cluster := { state := () }, gauge := some {} }
    completion := { state := () }
    output := { files := tree } }
  let (e, w) := Command.run api chats env args w
  for line in w.output.lines do
    IO.println line
  save tree w.output.files
  if let some c := e.complaint then
    IO.eprintln c
  match e.exit with
  | .ok n => return n.toUInt32
  | .error _ => return 1

end ClusterDiagnosis.Program

/-- The program. -/
def main (args : List String) : IO UInt32 :=
  ClusterDiagnosis.Program.run args
