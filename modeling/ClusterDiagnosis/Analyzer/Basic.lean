import ClusterDiagnosis.Detect.Snapshot
import ClusterDiagnosis.Scan.Owner

/-!
Analyzers. An analyzer scans the objects of a kind and makes a diagnosis of each that fails. All
built-in analyzers share one way of scanning, `Check.scan`, and differ in what they detect.
-/

set_option autoImplicit false
set_option relaxedAutoImplicit false

namespace ClusterDiagnosis

/-- Which objects are scanned: those of a namespace, of all if it is empty, with the labels that a
selector asks for. -/
structure Selection where
  scope : String := ""
  selector : String := ""
  deriving Repr

/-- Something that scans a cluster. -/
structure Analyzer where
  kind : String
  examine : Selection → Scan (List Diagnosis)

/-- What sets a built-in analyzer apart from the others. -/
structure Check where
  kind : String
  /-- The kind of the objects that are listed. -/
  listed : String
  /-- Whether the objects have no namespace, so that all of them are listed. -/
  everywhere : Bool := false
  /-- Whether the owner of a failing object is looked for. -/
  owned : Bool := true
  /-- The failures of an object, in the order in which they are shown. -/
  detect : Value → Scan (List Failure)

/-- An object with failures, under its key. -/
structure Finding where
  key : Value
  object : Value
  failures : List Failure

namespace Finding

/-- Findings with a further one. An earlier finding with the same key keeps its place and gives way
to the later one. -/
def put (f : Finding) : List Finding → List Finding
  | [] => [f]
  | g :: r => if g.key.sameKey f.key then { f with key := g.key } :: r else g :: put f r

end Finding

namespace Check

/-- The objects to look at. -/
def list (c : Check) (s : Selection) : Scan (List Value) :=
  Scan.ask (.list c.listed (.str (if c.everywhere then "" else s.scope)) (.str s.selector))

/-- Records the number of failures of an object. -/
def recordFailures (c : Check) (object : Value) (count : Nat) : Scan Unit := do
  let md ← object.metadata
  let name ← md.label "name"
  let scope ← md.label "namespace"
  Scan.record (.set c.kind name scope (.int count))

/-- The key of a failing object, which has to be fit for a table. -/
def keyOf (object : Value) : Except Fault Value := do
  let key ← object.objectKey
  if key.isKey then return key else .error (.mismatch .wrongType)

/-- Looks at an object, and adds what is found to the findings. -/
def look (c : Check) (found : List Finding) (object : Value) : Scan (List Finding) := do
  Scan.check
  let failures ← c.detect object
  if failures.isEmpty then return found
  let key ← keyOf object
  c.recordFailures object failures.length
  return Finding.put ⟨key, object, failures⟩ found

/-- Looks at one object after the other. -/
def lookAll (c : Check) (found : List Finding) : List Value → Scan (List Finding)
  | [] => pure found
  | object :: objects => do lookAll c (← c.look found object) objects

/-- The diagnosis of a finding, with the topmost owner of the object. -/
def diagnose (c : Check) (f : Finding) : Scan Diagnosis := do
  let name ← f.key.toText
  if c.owned then
    let limit ← Scan.time
    let owner ← Owner.find f.object limit Owner.maxSteps
    return { kind := c.kind, name, owner, failures := f.failures }
  return { kind := c.kind, name, failures := f.failures }

/-- The diagnoses of findings, in order. -/
def diagnoseAll (c : Check) : List Finding → Scan (List Diagnosis)
  | [] => pure []
  | f :: fs => do
    let d ← c.diagnose f
    let ds ← c.diagnoseAll fs
    return d :: ds

/-- Scans the selected objects: resets the gauge, lists the objects, looks at each, and then makes
the diagnoses in the order in which the objects were found. -/
def scan (c : Check) (s : Selection) : Scan (List Diagnosis) := do
  Scan.record (.reset c.kind)
  let objects ← c.list s
  let found ← c.lookAll [] objects
  c.diagnoseAll found

/-- The analyzer of a check. -/
def analyzer (c : Check) : Analyzer :=
  ⟨c.kind, c.scan⟩

/-- A check that detects nothing because nothing says how. -/
def bare : Check where
  kind := ""
  listed := ""
  detect _ := .fail (.notImplemented "BaseAnalyzer does not implement detect()")

end Check

end ClusterDiagnosis
