import ClusterDiagnosis.Cluster.EventTime
import ClusterDiagnosis.Cluster.Kind
import ClusterDiagnosis.Cluster.Query

/-!
The cluster's interface: its configuration, which is loaded once, the clients of its groups, and
its operations. On top of it stand the four accesses that a scan makes, which turn every failure
into a fault of access or into an answer.
-/

set_option autoImplicit false
set_option relaxedAutoImplicit false

namespace ClusterDiagnosis

/-- An event as the interface gives it. -/
structure ApiEvent where
  type : Value
  reason : Value
  message : Value
  count : Value
  first : Option DateTime
  last : Option DateTime
  happened : Option DateTime
  /-- Kind, name and namespace of the object it is about. -/
  involved : Option (Value × Value × Value)

/-- An operation of the interface. -/
inductive ApiCall where
  | list (r : Resource) (scope : Option Value) (selector limit : Value)
  | read (r : Resource) (scope : Option Value) (name limit : Value)
  | events (scope : Value) (fields : String) (limit : Value)
  | log (pod scope : Value) (container : Option Value) (lastLines limit : Value)

namespace ApiCall

/-- What an operation gives. A list may be absent. -/
def Reply : ApiCall → Type
  | list _ _ _ _ => Option (List Value)
  | read _ _ _ _ => Value
  | events _ _ _ => Option (List ApiEvent)
  | log _ _ _ _ _ => Option String

def group : ApiCall → Group
  | list r _ _ _ => r.group
  | read r _ _ _ => r.group
  | events _ _ _ => .core
  | log _ _ _ _ _ => .core

def method : ApiCall → String
  | list r scope _ _ => r.listing scope.isSome
  | read r _ _ _ => r.reading
  | events _ _ _ => "list_namespaced_event"
  | log _ _ _ _ _ => "read_namespaced_pod_log"

/-- An argument that is given only if there is one. -/
def given (key : String) : Option Value → List (String × Value)
  | none => []
  | some v => [(key, v)]

/-- The time limit of an operation, if there is one. -/
def limited : Value → List (String × Value)
  | .null => []
  | v => [("_request_timeout", v)]

/-- The named arguments of an operation. -/
def arguments : ApiCall → List (String × Value)
  | list _ scope selector limit =>
    given "namespace" scope ++ limited limit ++
      (if selector.counts then [("label_selector", selector)] else [])
  | read _ scope name limit => ("name", name) :: (given "namespace" scope ++ limited limit)
  | events scope fields limit =>
    [("namespace", scope), ("field_selector", .str fields)] ++ limited limit
  | log pod scope container lastLines limit =>
    [("name", pod), ("namespace", scope), ("tail_lines", lastLines)] ++
      given "container" container ++ limited limit

end ApiCall

/-- The interface itself. Each of its parts may fail, takes time, and changes its state. -/
structure Api (σ : Type) where
  /-- Loads the configuration that a pod of the cluster finds. -/
  inCluster : Moment → σ → Except Fault Unit × Moment × σ
  /-- Loads the configuration of the user. -/
  ofUser : Moment → σ → Except Fault Unit × Moment × σ
  /-- Makes the client of a group. -/
  connect : Group → Moment → σ → Except Fault Unit × Moment × σ
  call : (c : ApiCall) → Moment → σ → Except Fault c.Reply × Moment × σ

/-- Something done at the interface. -/
inductive ApiStep where
  | inCluster
  | ofUser
  | connect (g : Group)
  | call (c : ApiCall)

/-- The interface in use: whether the configuration is loaded, the groups that have a client, and
what was done so far. -/
structure Connection (σ : Type) where
  loaded : Bool := false
  clients : List Group := []
  steps : List ApiStep := []
  state : σ

/-- A step at a connection, with its outcome. -/
abbrev Connected (σ α : Type) := Moment → Connection σ → Except Fault α × Moment × Connection σ

namespace Connection

variable {σ α β : Type}

/-- A step followed by another one, unless it fails. -/
def andThen (p : Connected σ α) (f : α → Connected σ β) : Connected σ β := fun m c ↦
  match p m c with
  | (.ok a, m, c) => f a m c
  | (.error e, m, c) => (.error e, m, c)

/-- A step of the interface, put on record. -/
def perform (step : ApiStep) (p : Moment → σ → Except Fault α × Moment × σ) : Connected σ α :=
  fun m c ↦
    let (r, m, state) := p m c.state
    (r, m, { c with steps := c.steps ++ [step], state })

/-- Whether a fault says that a place holds no configuration. -/
def isNoConfiguration : Fault → Bool
  | .external e => match e.origin with
    | .noConfiguration => true
    | _ => false
  | _ => false

/-- Loads the configuration: that of a pod, or if there is none, that of the user. -/
def configure (api : Api σ) : Connected σ Unit := fun m c ↦
  match perform .inCluster api.inCluster m c with
  | (.error f, m, c) =>
    if isNoConfiguration f then perform .ofUser api.ofUser m c else (.error f, m, c)
  | done => done

/-- Makes sure that the configuration is loaded. -/
def ensureLoaded (api : Api σ) : Connected σ Unit := fun m c ↦
  if c.loaded then (.ok (), m, c)
  else andThen (configure api) (fun _ m c ↦ (.ok (), m, { c with loaded := true })) m c

/-- Makes sure that a group has a client. -/
def ensureClient (api : Api σ) (g : Group) : Connected σ Unit := fun m c ↦
  if c.clients.contains g then (.ok (), m, c)
  else
    andThen (ensureLoaded api) (fun _ ↦
      andThen (perform (.connect g) (api.connect g)) fun _ m c ↦
        (.ok (), m, { c with clients := c.clients ++ [g] })) m c

/-- Calls an operation at the client of its group. -/
def call (api : Api σ) (c : ApiCall) : Connected σ c.Reply :=
  andThen (ensureClient api c.group) fun _ ↦ perform (.call c) (api.call c)

end Connection

namespace Api

variable {σ : Type}

/-- The fault that a failing operation ends in. -/
def accessFault (what : String) : Fault → Fault
  | .external e => match e.origin with
    | .cluster _ reason body => .access ("Failed to " ++ what ++ ": Kubernetes API error: " ++
        reason.text ++ " - " ++ body.text)
    | _ => .access ("Failed to " ++ what ++ ": " ++ e.text)
  | f => .access ("Failed to " ++ what ++ ": " ++ f.text)

/-- The supported kind that a value names. A list or a map cannot name one. -/
def resource : Value → Except Fault Resource
  | .list _ => .error (.mismatch .wrongType)
  | .map _ => .error (.mismatch .wrongType)
  | kind => match Resource.ofKind? kind.text with
    | some r => .ok r
    | none => .error (.access ("unsupported kind: " ++ kind.text))

/-- Whether a fault says that an object does not exist. -/
def isNotFound : Fault → Bool
  | .external e => match e.origin with
    | .cluster status _ _ => status.sameKey (.int 404)
    | _ => false
  | _ => false

/-- The objects of a kind, of one namespace if one is given and the kind has namespaces. -/
def listObjects (api : Api σ) (kind scope selector limit : Value) :
    Connected σ (List Value) := fun m c ↦
  match resource kind with
  | .error f => (.error f, m, c)
  | .ok r =>
    let ofNamespace := if scope.counts && r.namespaced then some scope else none
    match Connection.call api (.list r ofNamespace selector limit) m c with
    | (.ok items, m, c) => (.ok (items.getD []), m, c)
    | (.error f, m, c) => (.error (accessFault ("list " ++ r.kind) f), m, c)

/-- One object, if it exists. -/
def getObject (api : Api σ) (kind scope name limit : Value) :
    Connected σ (Option Value) := fun m c ↦
  match resource kind with
  | .error f => (.error f, m, c)
  | .ok r =>
    match Connection.call api (.read r (if r.namespaced then some scope else none) name limit) m c
    with
    | (.ok object, m, c) => (.ok (some object), m, c)
    | (.error f, m, c) =>
      if isNotFound f then (.ok none, m, c)
      else
        (.error (accessFault ("read " ++ r.kind ++ " " ++ scope.text ++ "/" ++ name.text) f), m, c)

/-- An event as a map. -/
def eventRecord (e : ApiEvent) : Value :=
  let stamp (t : Option DateTime) : Value := .ofText (t.map Iso.text)
  .map [
    ("type", e.type), ("reason", e.reason), ("message", e.message), ("count", e.count),
    ("first_timestamp", stamp e.first), ("last_timestamp", stamp e.last),
    ("event_time", stamp e.happened),
    ("involved_object", match e.involved with
      | none => .null
      | some (kind, name, scope) => .map [("kind", kind), ("name", name), ("namespace", scope)])]

/-- What events are asked for: those about an object of a name, and of a kind if one is given. -/
def eventFields (name kind : Value) : String :=
  (if kind.counts then "involvedObject.kind=" ++ kind.text ++ "," else "") ++
    "involvedObject.name=" ++ name.text

/-- How many events a limit lets through. A limit below zero lets none through; above zero it has to
be a whole number. -/
def eventCount : Value → Except Fault Nat
  | .int n => .ok n.toNat
  | .bool b => .ok (if b then 1 else 0)
  | .float d => if Double.lt .zero d then .error (.mismatch .wrongType) else .ok 0
  | _ => .error (.mismatch .wrongType)

/-- The newest events among those given, as many as the limit lets through. -/
def newest (events : List ApiEvent) (most : Value) : Except Fault (List Value) := do
  let sorted ← Event.sorted (events.map eventRecord)
  return sorted.take (← eventCount most)

/-- The newest events about an object. -/
def getEvents (api : Api σ) (scope name kind most limit : Value) : Connected σ (List Value) :=
  fun m c ↦
    match Connection.call api (.events scope (eventFields name kind) limit) m c with
    | (.error f, m, c) => (.error (accessFault "fetch events" f), m, c)
    | (.ok events, m, c) =>
      match newest (events.getD []) most with
      | .ok found => (.ok found, m, c)
      | .error f => (.error (accessFault "fetch events" f), m, c)

/-- The last lines of a log; none if it cannot be had. -/
def readLog (api : Api σ) (pod scope container lastLines limit : Value) :
    Connected σ (Option String) := fun m c ↦
  let container := if container.counts then some container else none
  match Connection.call api (.log pod scope container lastLines limit) m c with
  | (.ok text, m, c) => (.ok text, m, c)
  | (.error _, m, c) => (.ok none, m, c)

/-- The interface as a source of answers for scans. -/
def source (api : Api σ) : Source (Connection σ) where
  answer
    | .list kind scope selector, limit => listObjects api (.str kind) scope selector limit
    | .get kind scope name, limit => getObject api (.str kind) scope name limit
    | .events scope name most, limit => getEvents api scope name .null (.int most) limit
    | .log pod scope container lastLines, limit =>
      readLog api pod scope container (.int lastLines) limit

end Api

end ClusterDiagnosis
