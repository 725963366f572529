import ClusterDiagnosis.Number.Decimal
import ClusterDiagnosis.Text.Letters
import ClusterDiagnosis.Value.Basic

/-!
Settings in environment variables: texts, switches and numbers within limits.
-/

set_option autoImplicit false
set_option relaxedAutoImplicit false

namespace ClusterDiagnosis

/-- Variables with their values. -/
abbrev Environment := List (String × String)

namespace Environment

/-- The value of a variable without the blanks around it; empty if it is not set. -/
def text (env : Environment) (name : String) : String :=
  Text.trim ((entryAt? name env).getD "")

/-- The value of a variable, or another text if there is no value. -/
def textOr (env : Environment) (name other : String) : String :=
  if (env.text name).isEmpty then other else env.text name

/-- The words that turn a switch on. -/
def switchWords : List String := ["1", "true", "yes", "y", "on"]

/-- Whether a switch is turned on. -/
def switch (env : Environment) (name : String) : Bool :=
  switchWords.contains (Text.lower (env.text name))

/-- A whole number within limits; the usual one where the variable holds none. -/
def int (env : Environment) (name : String) (usual least most : Int) : Int :=
  let n := if (env.text name).isEmpty then usual
    else (Decimal.toInt? (env.text name)).getD usual
  max least (min n most)

/-- A number within limits; the usual one where the variable holds none. What is not a number
becomes the least one. -/
def double (env : Environment) (name : String) (usual least most : Double) : Double :=
  let d := if (env.text name).isEmpty then usual
    else (Decimal.toDouble? (env.text name)).getD usual
  Double.maxOf least (Double.minOf d most)

end Environment

/-- The settings of a run. -/
structure RunSettings where
  scope : String
  selector : String
  explain : Bool
  fix : Bool
  anonymize : Bool
  timeout : Double
  outputDir : String
  integrationFile : Option String

/-- The settings of a run, as the environment has them. The time limit lies between five seconds
and an hour. -/
def RunSettings.ofEnvironment (env : Environment) : RunSettings where
  scope := env.text "TRIAGE_NAMESPACE"
  selector := env.text "TRIAGE_LABEL_SELECTOR"
  explain := env.switch "TRIAGE_EXPLAIN"
  fix := env.switch "TRIAGE_FIX"
  anonymize := env.switch "TRIAGE_ANONYMIZE"
  timeout := env.double "TRIAGE_TIMEOUT_SECONDS" (.ofNat 300) (.ofNat 5) (.ofNat 3600)
  outputDir := env.textOr "TRIAGE_OUTPUT_DIR" "."
  integrationFile :=
    let file := env.text "TRIAGE_CONFIG"
    if file.isEmpty then none else some file

end ClusterDiagnosis
