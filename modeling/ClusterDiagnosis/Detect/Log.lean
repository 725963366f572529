import ClusterDiagnosis.Detect.Snapshot
import ClusterDiagnosis.Text.Letters
import ClusterDiagnosis.Text.Lines

/-!
Lines of container logs that look like errors.
-/

set_option autoImplicit false
set_option relaxedAutoImplicit false

namespace ClusterDiagnosis.Detect

/-- The words that make a line look like an error. -/
def errorWords : List String := ["error", "exception", "fail"]

/-- Whether one of the words occurs in a line, in letters of either case. -/
def looksLikeError (line : List Char) : Bool :=
  errorWords.any fun word ↦ Text.containsWord word.toList line

/-- The lines of a log that look like errors. -/
def errorLines (log : String) : List String :=
  ((Text.lines log.toList).filter looksLikeError).map String.ofList

/-- The number of lines that are read of a log, counted from its end. -/
def lastLines : Nat := 100

/-- The failure that the log of a container tells of. -/
def logFailure (scope pod container : Value) : Scan (Option Failure) := do
  let name ← container.label "name"
  let log : Option String ← Scan.ask (.log pod scope name lastLines)
  let found := errorLines (log.getD "")
  if found.isEmpty then return none
  let text := "container=" ++ name.text ++ " pod=" ++ pod.text ++ "\n" ++ "\n".intercalate found
  return some (← Scan.lift (failure text [pod]))

/-- The failures that the logs of a pod tell of, container by container. -/
def podLogs (object : Value) : Scan (List Failure) := do
  let md ← object.metadata
  let scope ← md.label "namespace"
  let name ← md.label "name"
  let spec ← object.spec
  collect (logFailure scope name) (← spec.each "containers")

end ClusterDiagnosis.Detect
