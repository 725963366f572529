import ClusterDiagnosis.Detect.Snapshot
import ClusterDiagnosis.Scan.Event

/-!
Failures of pods, in the order in which they are shown: what keeps a pending pod from being
scheduled, then its init containers, then its containers.
-/

set_option autoImplicit false
set_option relaxedAutoImplicit false

namespace ClusterDiagnosis.Detect.Pod

/-- How the latest event about an object of a namespace is looked up. -/
abbrev EventLookup := (scope name : Value) → Scan (Option Value)

/-- The reasons for waiting that are failures. -/
def errorReasons : List String := [
  "CrashLoopBackOff", "ImagePullBackOff", "CreateContainerConfigError", "PreCreateHookError",
  "CreateContainerError", "PreStartHookError", "RunContainerError", "ImageInspectError",
  "ErrImagePull", "ErrImageNeverPull", "InvalidImageName"]

/-- The reasons of events that explain why a container is not created. -/
def errorEventReasons : List String := ["FailedCreatePodSandBox", "FailedMount"]

/-- Whether a reason is one of the given ones. -/
def isReasonOf (reasons : List String) (reason : Value) : Except Fault Bool :=
  (reason.orElse (.str "")).isAmong (reasons.map .str)

def isErrorReason (reason : Value) : Except Fault Bool :=
  isReasonOf errorReasons reason

def isErrorEventReason (reason : Value) : Except Fault Bool :=
  isReasonOf errorEventReasons reason

/-- The failure whose text is the message of a condition, an event or a waiting state, if the
message says anything. -/
def messageFailure (source : Value) : Except Fault (Option Failure) := do
  let message ← source.field "message"
  if message.counts then return some (← Failure.ofValue message)
  return none

/-- A condition that says that a pod cannot be scheduled. -/
def unschedulable (condition : Value) : Except Fault (Option Failure) := do
  if (← condition.field "type").isText "PodScheduled" then
    if (← condition.field "reason").isText "Unschedulable" then
      return ← messageFailure condition
  return none

/-- The failure text of a container that crashes again and again. -/
def crashText (reason container pod : Value) : String :=
  "the last termination reason is " ++ reason.text ++ " container=" ++ container.text ++ " pod=" ++
    pod.text

/-- The failure of a container that is being created in a pending pod: its status says nothing, so
the latest event has to. -/
def creating (latest : EventLookup) (scope pod : Value) : Scan (Option Failure) := do
  match ← latest scope pod with
  | none => return none
  | some event =>
    if ← isErrorEventReason (← event.field "reason") then
      return ← messageFailure event
    return none

/-- The failure of a container that waits for any other reason. -/
def waitingFailure (pod status waiting reason : Value) : Except Fault (Option Failure) := do
  let last ← status.section? "last_state"
  let ended ← last.field "terminated"
  if reason.isText "CrashLoopBackOff" && ended.counts then
    let why ← ended.label "reason"
    let container ← status.label "name"
    return some ⟨crashText why container pod, []⟩
  if ← isErrorReason reason then
    return ← messageFailure waiting
  return none

/-- The failure of a container that runs but is not ready: only an event tells of a failing
probe. -/
def unready (latest : EventLookup) (scope pod : Value) : Scan (Option Failure) := do
  match ← latest scope pod with
  | none => return none
  | some event =>
    if (← event.field "reason").isText "Unhealthy" then
      return ← messageFailure event
    return none

/-- The failure of a container, told by its status; each status tells of one at most. -/
def containerFailure (latest : EventLookup) (pod scope phase status : Value) :
    Scan (Option Failure) := do
  let state ← status.section? "state"
  let waiting ← state.field "waiting"
  if waiting.counts then
    let reason ← waiting.label "reason"
    if reason.isText "ContainerCreating" && phase.isText "Pending" then
      creating latest scope pod
    else
      Scan.lift (waitingFailure pod status waiting reason)
  else
    let ready ← status.field "ready"
    if !ready.counts && phase.isText "Running" then
      unready latest scope pod
    else
      return none

/-- All failures of a pod. -/
def failures (latest : EventLookup) (pod : Value) : Scan (List Failure) := do
  let md ← pod.metadata
  let status ← pod.status
  let name ← md.label "name"
  let scope ← md.label "namespace"
  let phase ← status.label "phase"
  let scheduling ←
    if phase.isText "Pending" then do
      Scan.lift (collectPure unschedulable (← status.each "conditions"))
    else pure []
  let initial ← status.each "init_container_statuses"
  let started ← collect (containerFailure latest name scope phase) initial
  let regular ← status.each "container_statuses"
  let running ← collect (containerFailure latest name scope phase) regular
  return scheduling ++ started ++ running

end ClusterDiagnosis.Detect.Pod
