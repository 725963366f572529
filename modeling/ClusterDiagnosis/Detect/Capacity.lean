import ClusterDiagnosis.Detect.Network
import ClusterDiagnosis.Scan.Event

/-!
Failures of what pods need in order to run: storage claims, nodes, and the objects that govern how
many of them there are.
-/

set_option autoImplicit false
set_option relaxedAutoImplicit false

namespace ClusterDiagnosis.Detect

/-- A pending storage claim fails if its latest event says that no storage could be provided. -/
def storageClaim (object : Value) : Scan (List Failure) := do
  let md ← object.metadata
  let status ← object.status
  if !(← status.field "phase").isText "Pending" then return []
  let scope ← md.label "namespace"
  let name ← md.label "name"
  match ← Scan.latestEvent scope name with
  | none => return []
  | some event =>
    if (← event.field "reason").isText "ProvisioningFailed" then
      let message ← event.field "message"
      if message.counts then return [← Failure.ofValue message]
    return []

/-- A condition of a node is good if it is `Ready` and true, or any other and false. -/
def isGoodCondition (type state : Value) : Bool :=
  if type.isText "Ready" then state.isText "True" else state.isText "False"

/-- The failure that a condition of a node tells of. -/
def nodeFailure (name condition : Value) : Except Fault (Option Failure) := do
  let type ← condition.field "type"
  let state ← condition.field "status"
  if isGoodCondition type state then return none
  let reason ← condition.field "reason"
  let message ← condition.field "message"
  let text := name.text ++ " has condition of type " ++ type.text ++ ", reason " ++ reason.text ++
    ": " ++ message.text
  return some (← failure text [name])

/-- A node fails with each condition that is not good. -/
def node (object : Value) : Except Fault (List Failure) := do
  let md ← object.metadata
  let name ← md.label "name"
  let status ← object.status
  collectPure (nodeFailure name) (← status.each "conditions")

/-- The kinds that can be scaled. -/
def scaledKinds : List String :=
  ["Deployment", "ReplicaSet", "StatefulSet", "ReplicationController"]

/-- Whether a container states what it needs or may use. -/
def statesResources (container : Value) : Except Fault Bool := do
  let resources ← container.section? "resources"
  if (← resources.field "requests").counts then return true
  return (← resources.field "limits").counts

/-- Whether all containers state what they need or may use. -/
def allStateResources : List Value → Except Fault Bool
  | [] => .ok true
  | c :: cs => do if ← statesResources c then allStateResources cs else return false

/-- The containers that a scaled object makes. -/
def containersOf (target : Value) : Except Fault (List Value) := do
  let spec ← target.spec
  let template ← spec.section? "template"
  (← template.section? "spec").each "containers"

/-- An autoscaler fails if what it scales cannot be scaled, does not exist, or has containers that
state no resources. -/
def autoscaler (object : Value) : Scan (List Failure) := do
  let md ← object.metadata
  let spec ← object.spec
  let scope ← md.label "namespace"
  let ref ← spec.section? "scale_target_ref"
  let kind ← ref.label "kind"
  let name ← ref.label "name"
  match scaledKinds.find? kind.isText with
  | none =>
    return [⟨"HorizontalPodAutoscaler uses " ++ kind.text ++
      " as ScaleTargetRef which is not an option.", []⟩]
  | some known =>
    if known == "ReplicationController" then return []
    let target : Option Value ← Scan.ask (.get known scope name)
    match target with
    | none =>
      let text := "HorizontalPodAutoscaler uses " ++ known ++ "/" ++ name.text ++
        " as ScaleTargetRef which does not exist."
      return [← Scan.lift (failure text [name])]
    | some target =>
      if ← allStateResources (← containersOf target) then return []
      let text := known ++ " " ++ scope.text ++ "/" ++ name.text ++
        " does not have resource configured."
      return [← Scan.lift (failure text [scope, name])]

/-- The failures that a condition of a disruption budget tells of. -/
def budgetFailures (spec condition : Value) : Except Fault (List Failure) := do
  if !(← condition.field "type").isText "DisruptionAllowed" then return []
  if !(← condition.field "status").isText "False" then return []
  let reason ← condition.label "reason"
  let labels ← (← spec.section? "selector").section? "match_labels"
  if labels.counts then
    labelFailures (reason.text ++ ", expected pdb pod label ") labels
  else
    let message ← condition.label "message"
    return [⟨reason.text ++ ": " ++ message.text, []⟩]

/-- A disruption budget fails while it allows no disruption. -/
def disruptionBudget (object : Value) : Except Fault (List Failure) := do
  let spec ← object.spec
  let status ← object.status
  let found ← (← status.each "conditions").mapM (budgetFailures spec)
  return found.flatten

end ClusterDiagnosis.Detect
