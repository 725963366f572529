import ClusterDiagnosis.Detect.Snapshot
import ClusterDiagnosis.Text.Blank
import ClusterDiagnosis.Text.Search

/-!
Failures of the objects that bring about other objects: deployments, replica sets, stateful sets
and cron jobs.
-/

set_option autoImplicit false
set_option relaxedAutoImplicit false

namespace ClusterDiagnosis.Detect

/-- A count of replicas in a status, zero when nothing that counts is there. -/
def replicaCount (status : Value) (key : String) : Except Fault Int := do
  (← status.fieldOr key (.int 0)).toInt

/-- A deployment fails while it has more replicas than wanted, or fewer that are ready. -/
def deployment (object : Value) : Except Fault (List Failure) := do
  let md ← object.metadata
  let spec ← object.spec
  let status ← object.status
  let scope ← md.label "namespace"
  let name ← md.label "name"
  let wanted ← spec.field "replicas"
  let wanted ← match wanted with
    | .null => .ok 1
    | v => v.toInt
  let current ← replicaCount status "replicas"
  let ready ← replicaCount status "ready_replicas"
  let subject := "Deployment " ++ scope.text ++ "/" ++ name.text ++ " has " ++ toString wanted
  if wanted < current then
    let updated ← replicaCount status "updated_replicas"
    let text := subject ++ " replicas in spec but " ++ toString current ++
      " replicas in status because status field is not updated yet after scaling and " ++
      toString updated ++ " updated replicas"
    return [← failure text [scope, name]]
  if ready < wanted then
    let text := subject ++ " replicas but " ++ toString ready ++
      " are available with status running"
    return [← failure text [scope, name]]
  return []

/-- A condition that says that a replica set could not create its pods. -/
def creationFailure (condition : Value) : Except Fault (Option Failure) := do
  if (← condition.field "type").isText "ReplicaFailure" then
    if (← condition.field "reason").isText "FailedCreate" then
      let message ← condition.field "message"
      if message.counts then return some (← Failure.ofValue message)
  return none

/-- A replica set without replicas fails if a condition says why. -/
def replicaSet (object : Value) : Except Fault (List Failure) := do
  let status ← object.status
  if (← replicaCount status "replicas") ≠ 0 then return []
  collectPure creationFailure (← status.each "conditions")

/-- The storage classes that claim templates name and that do not exist. Each is looked up once;
`seen` holds those that were. -/
def missingClasses (seen : List Value) : List Value → Scan (List Failure)
  | [] => pure []
  | template :: templates => do
    let spec ← template.section? "spec"
    let name ← spec.label "storage_class_name"
    if name.counts then
      if ← name.isAmong seen then missingClasses seen templates
      else
        let missing ← isMissing "StorageClass" (.str "") name
        let others ← missingClasses (name :: seen) templates
        let text := "StatefulSet uses the storage class " ++ name.text ++ " which does not exist."
        return if missing then ⟨text, []⟩ :: others else others
    else missingClasses seen templates

/-- A stateful set fails if its service or one of its storage classes does not exist. -/
def statefulSet (object : Value) : Scan (List Failure) := do
  let md ← object.metadata
  let spec ← object.spec
  let scope ← md.label "namespace"
  let service ← spec.label "service_name"
  let first ←
    if service.counts then do
      if ← isMissing "Service" scope service then
        let text := "StatefulSet uses the service " ++ scope.text ++ "/" ++ service.text ++
          " which does not exist."
        pure [← Scan.lift (failure text [scope, service])]
      else pure []
    else pure []
  let others ← missingClasses [] (← spec.each "volume_claim_templates")
  return first ++ others

/-- The schedules that go by a name. -/
def scheduleNames : List String := [
  "@yearly", "@annually", "@monthly", "@weekly", "@daily", "@midnight", "@hourly"]

/-- Whether a text looks like a schedule: a name, an interval, or five fields, with the time zone in
front if one is given. -/
def isSchedule (text : String) : Bool :=
  let cs := Text.trimChars text.toList
  match cs with
  | [] => false
  | '@' :: _ =>
    scheduleNames.contains (String.ofList cs) || Text.startsWith "@every ".toList cs
  | cs =>
    let fields := Text.words cs
    let zoned := fields.head?.any fun f ↦
      Text.startsWith "TZ=".toList f || Text.startsWith "CRON_TZ=".toList f
    (if zoned then fields.drop 1 else fields).length == 5

/-- The same for a value that may be absent. -/
def isScheduleValue (v : Value) : Except Fault Bool :=
  match v.orElse (.str "") with
  | .str s => .ok (isSchedule s)
  | _ => .error (.mismatch .noField)

/-- A cron job fails if it is suspended, or else if its schedule or its deadline is no good. -/
def cronJob (object : Value) : Except Fault (List Failure) := do
  let md ← object.metadata
  let spec ← object.spec
  let name ← md.label "name"
  let subject := "CronJob " ++ name.text
  if (← spec.field "suspend").counts then
    return [← failure (subject ++ " is suspended") [name]]
  let schedule ← spec.label "schedule"
  let timing ←
    if ← isScheduleValue schedule then .ok []
    else do
      .ok [← failure (subject ++ " has an invalid schedule: " ++ schedule.text) [name]]
  let starting ← match ← spec.field "starting_deadline_seconds" with
    | .null => .ok []
    | v => do
      if (← v.toInt) < 0 then
        .ok [← failure (subject ++ " has a negative starting deadline") [name]]
      else .ok []
  return timing ++ starting

end ClusterDiagnosis.Detect
