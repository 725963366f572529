import ClusterDiagnosis.Diagnosis.Basic
import ClusterDiagnosis.Scan.Basic

/-!
Snapshots of objects: their three sections, their key in the cluster, and the small steps that all
detections share.
-/

set_option autoImplicit false
set_option relaxedAutoImplicit false

namespace ClusterDiagnosis

namespace Value

def metadata (object : Value) : Except Fault Value := object.section? "metadata"

def spec (object : Value) : Except Fault Value := object.section? "spec"

def status (object : Value) : Except Fault Value := object.section? "status"

/-- The key of an object: namespace and name, or the bare name of an object without namespace. -/
def objectKey (object : Value) : Except Fault Value := do
  let md ← object.metadata
  let name ← md.label "name"
  let scope ← md.label "namespace"
  return if scope.counts then .str (scope.text ++ "/" ++ name.text) else name

end Value

namespace Detect

/-- A failure with a fixed text and the values in it that are secret. -/
def failure (text : String) (secrets : List Value) : Except Fault Failure :=
  (secretsOf secrets).map fun s ↦ ⟨text, s⟩

/-- Runs a step for each item and keeps what is found, in order. -/
def collect {α : Type} (step : α → Scan (Option Failure)) : List α → Scan (List Failure)
  | [] => pure []
  | x :: xs => do
    let found ← step x
    let others ← collect step xs
    return found.toList ++ others

/-- The same for steps that need no more than the item. -/
def collectPure {α : Type} (step : α → Except Fault (Option Failure)) :
    List α → Except Fault (List Failure)
  | [] => .ok []
  | x :: xs => do
    let found ← step x
    let others ← collectPure step xs
    return found.toList ++ others

/-- Whether an object is missing from the cluster. -/
def isMissing (kind : String) (scope name : Value) : Scan Bool := do
  let object : Option Value ← Scan.ask (.get kind scope name)
  return object.isNone

/-- Labels as a text of `key=value` parts, ordered by key, with commas between them. -/
def selectorText (labels : Value) : Except Fault String := do
  let parts ← (← labels.sortedKeys).mapM fun key ↦ do
    return key.text ++ "=" ++ (← labels.item key).text
  return ",".intercalate parts

end Detect

end ClusterDiagnosis
