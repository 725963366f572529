import ClusterDiagnosis.Analyzer.Basic
import ClusterDiagnosis.Completion.Service
import ClusterDiagnosis.Manifest.Prompt
import ClusterDiagnosis.Masking
import ClusterDiagnosis.Report.Artifact
import ClusterDiagnosis.Report.Json
import ClusterDiagnosis.Report.Text

/-!
A run from beginning to end: the cluster is scanned, the diagnoses are enriched with explanations
and corrected manifests, and the report is given out. Nothing is given out before everything before
it went well.
-/

set_option autoImplicit false
set_option relaxedAutoImplicit false

namespace ClusterDiagnosis

/-- What a run is asked to do. -/
structure Plan where
  selection : Selection := {}
  explain : Bool := false
  fix : Bool := false
  anonymize : Bool := false
  asJson : Bool := false
  outputDir : String := "."

/-- The diagnoses of all analyzers, in order, up to the first fault. -/
def examineAll (selection : Selection) : List Analyzer → Scan (List Diagnosis)
  | [] => pure []
  | a :: analyzers => do
    Scan.check
    let found ← a.examine selection
    let others ← examineAll selection analyzers
    return found ++ others

namespace Enrichment

/-- The kinds whose manifests can be corrected. -/
def fixableKinds : List String := ["Pod"]

/-- The failure texts as they may leave the program. -/
def failureTexts (anonymize : Bool) (d : Diagnosis) : List String :=
  d.failures.map fun f ↦ if anonymize then Masking.maskFailure f else f.text

/-- The name of the object as it may leave the program. -/
def displayName (anonymize : Bool) (d : Diagnosis) : String :=
  if anonymize then Masking.maskText d.name d.failures else d.name

/-- A reply with its masks undone. -/
def restored (anonymize : Bool) (d : Diagnosis) (reply : String) : String :=
  if anonymize then Masking.unmaskText reply d.failures else reply

/-- An explanation with its masks undone. Where there are masks, one that counts has to be a
text. -/
def restoredExplanation (anonymize : Bool) (d : Diagnosis) : Value → Except Fault Value
  | .str s => .ok (.str (restored anonymize d s))
  | v =>
    if anonymize && v.counts && !(Masking.secrets d.failures).isEmpty then
      .error (.mismatch .wrongType)
    else .ok v

/-- The prompt that asks for an explanation. -/
def explanationPrompt (anonymize : Bool) (d : Diagnosis) : String :=
  "Given the following Kubernetes error:\n" ++
  "Error: " ++ "\n".intercalate (failureTexts anonymize d) ++ "\n" ++
  "Context: " ++ displayName anonymize d ++ "\n" ++
  "\n" ++
  "Please explain the problem and provide a solution."

/-- The prompt that asks for a corrected manifest. -/
def manifestPrompt (anonymize : Bool) (d : Diagnosis) : String :=
  Manifest.prompt (displayName anonymize d) (failureTexts anonymize d) d.failures

/-- A step that asks a completion service. -/
abbrev Step (τ α : Type) := Moment → τ → Except Fault α × Moment × τ

variable {τ : Type}

/-- An explanation of a diagnosis. -/
def explanation (service : Option (CompletionService τ)) (anonymize : Bool) (d : Diagnosis) :
    Step τ Value := fun m s ↦
  match service with
  | none => (.error .noService, m, s)
  | some service =>
    match service.explain (explanationPrompt anonymize d) m s with
    | (.ok reply, m, s) => (restoredExplanation anonymize d reply, m, s)
    | (.error f, m, s) => (.error f, m, s)

/-- A reply to the given prompt for a corrected manifest, trimmed. -/
def correction (service : Option (CompletionService τ)) (deadline : Option Deadline)
    (prompt : String) : Step τ String := fun m s ↦
  match service with
  | none => (.error .noService, m, s)
  | some service =>
    match service.correct deadline prompt m s with
    | (.ok reply, m, s) => (.ok (Text.trim reply), m, s)
    | (.error f, m, s) => (.error f, m, s)

/-- A diagnosis with its corrected manifest, if one is wanted and the kind has one. -/
def addManifest (plan : Plan) (service : Option (CompletionService τ))
    (deadline : Option Deadline) (d : Diagnosis) : Step τ Diagnosis := fun m s ↦
  if plan.fix && plan.explain && fixableKinds.contains d.kind then
    match correction service deadline (manifestPrompt plan.anonymize d) m s with
    | (.ok reply, m, s) =>
      (.ok { d with manifest := Manifest.fromOpening (restored plan.anonymize d reply) }, m, s)
    | (.error f, m, s) => (.error f, m, s)
  else (.ok d, m, s)

/-- A diagnosis with its explanation, if one is wanted. -/
def addExplanation (plan : Plan) (service : Option (CompletionService τ))
    (deadline : Option Deadline) (d : Diagnosis) : Step τ Diagnosis := fun m s ↦
  if plan.explain then
    match runOver? deadline m with
    | some f => (.error f, m, s)
    | none =>
      match explanation service plan.anonymize d m s with
      | (.ok reply, m, s) => (.ok { d with explanation := reply }, m, s)
      | (.error f, m, s) => (.error f, m, s)
  else (.ok d, m, s)

/-- Whether a diagnosis can be gone on with: an explanation that was asked for has to have a
length. -/
def hasUsableExplanation (plan : Plan) (d : Diagnosis) : Bool :=
  !plan.explain || d.explanation.hasLength

/-- A diagnosis with its explanation and then its manifest, up to the first fault. In that case it
has what it was given before. -/
def enrich (plan : Plan) (service : Option (CompletionService τ)) (deadline : Option Deadline)
    (d : Diagnosis) (m : Moment) (s : τ) : Except Fault Unit × Diagnosis × Moment × τ :=
  match addExplanation plan service deadline d m s with
  | (.error f, m, s) => (.error f, d, m, s)
  | (.ok d, m, s) =>
    if hasUsableExplanation plan d then
      match addManifest plan service deadline d m s with
      | (.error f, m, s) => (.error f, d, m, s)
      | (.ok d, m, s) => (.ok (), d, m, s)
    else (.error (.mismatch .wrongType), d, m, s)

/-- The diagnoses, each enriched in turn, up to the first fault. In that case the diagnoses are
those enriched so far, the current one with what it has, and the others as they were. -/
def enrichAll (plan : Plan) (service : Option (CompletionService τ))
    (deadline : Option Deadline) :
    List Diagnosis → Moment → τ → Except Fault Unit × List Diagnosis × Moment × τ
  | [], m, s => (.ok (), [], m, s)
  | d :: ds, m, s =>
    match enrich plan service deadline d m s with
    | (.error f, d, m, s) => (.error f, d :: ds, m, s)
    | (.ok (), d, m, s) =>
      let (r, ds, m, s) := enrichAll plan service deadline ds m s
      (r, d :: ds, m, s)

end Enrichment

/-- What a run leaves: printed texts, and files. -/
structure Output where
  lines : List String := []
  files : FileTree := {}

namespace Output

/-- A text printed. -/
def print (o : Output) (line : String) : Output :=
  { o with lines := o.lines ++ [line] }

/-- Prints diagnoses for reading, numbered from `start`. -/
def printAll (start : Nat) : List Diagnosis → Output → Except Fault Unit × Output
  | [], o => (.ok (), o)
  | d :: ds, o =>
    match Report.render start d with
    | .ok line => printAll (start + 1) ds (o.print line)
    | .error f => (.error f, o)

/-- Prints the report. -/
def report (plan : Plan) (ds : List Diagnosis) (o : Output) : Except Fault Unit × Output :=
  if plan.asJson then (.ok (), o.print (Report.json ds))
  else if ds.isEmpty then (.ok (), o.print Report.nothingFound)
  else printAll 0 ds o

/-- Writes the manifests in order; each one written is announced unless the report is JSON. -/
def writeManifests (plan : Plan) : List Diagnosis → Output → Except Fault Unit × Output
  | [], o => (.ok (), o)
  | d :: ds, o =>
    match Report.writeManifest plan.outputDir d o.files with
    | (.error f, files) => (.error f, { o with files })
    | (.ok none, files) => writeManifests plan ds { o with files }
    | (.ok (some p), files) =>
      let o := { o with files }
      writeManifests plan ds
        (if plan.asJson then o else o.print ("\nFixed YAML has been saved to: " ++ p.text))

/-- Gives out the report, and then the manifests. -/
def give (plan : Plan) (ds : List Diagnosis) (o : Output) : Except Fault Unit × Output :=
  match report plan ds o with
  | (.error f, o) => (.error f, o)
  | (.ok (), o) => writeManifests plan ds o

end Output

/-- Everything that a run changes. -/
structure Session (σ τ : Type) where
  world : World σ
  completion : τ
  output : Output := {}

variable {σ τ : Type}

/-- Runs everything, and gives the diagnoses as they are in the end. -/
def analyze (plan : Plan) (source : Source σ) (service : Option (CompletionService τ))
    (deadline : Option Deadline) (analyzers : List Analyzer) (s : Session σ τ) :
    Except Fault (List Diagnosis) × Session σ τ :=
  if plan.explain && service.isNone then (.error .noService, s)
  else
    match (examineAll plan.selection analyzers).run source deadline s.world with
    | (.error f, world) => (.error f, { s with world })
    | (.ok found, world) =>
      match Enrichment.enrichAll plan service deadline found world.moment s.completion with
      | (.error f, _, moment, completion) =>
        (.error f, { s with world := { world with moment }, completion })
      | (.ok (), ds, moment, completion) =>
        match Output.give plan ds s.output with
        | (.error f, output) => (.error f, ⟨{ world with moment }, completion, output⟩)
        | (.ok (), output) => (.ok ds, ⟨{ world with moment }, completion, output⟩)

end ClusterDiagnosis
