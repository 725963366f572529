import ClusterDiagnosis.Cluster.Api
import ClusterDiagnosis.Proofs.Cluster.Shape

/-!
# The contract of a cluster

A scan of a cluster asks for objects of the supported kinds only. It is told objects and events of
the declared shapes, or that the access failed, and it ends in nothing else than such a failure or
the end of the run (`Contract.cluster`). Whatever goes wrong at the interface of a cluster, what
stands on top of it keeps to this contract as soon as the operations that succeed give what is
declared (`Api.source_heldBy`).
-/

set_option autoImplicit false
set_option relaxedAutoImplicit false

namespace ClusterDiagnosis

/-! ### The declared shapes -/

namespace Shape

def ownerReference : Shape :=
  record [("kind", text), ("name", text), ("controller", flag)]

def metadata : Shape :=
  record [
    ("name", text), ("namespace", text), ("annotations", labels),
    ("owner_references", list ownerReference)]

def condition : Shape :=
  record [("type", text), ("status", text), ("reason", text), ("message", text)]

def containerState : Shape :=
  record [
    ("waiting", record [("reason", text), ("message", text)]),
    ("terminated", record [("reason", text)])]

def containerStatus : Shape :=
  record [
    ("name", text), ("ready", flag), ("state", containerState), ("last_state", containerState)]

def container : Shape :=
  record [("name", text), ("resources", record [("requests", labels), ("limits", labels)])]

def podSpec : Shape :=
  record [("containers", list container)]

def podTemplate : Shape :=
  record [("spec", podSpec)]

def labelSelector : Shape :=
  record [("match_labels", labels), ("match_expressions", list (record []))]

def claimTemplate : Shape :=
  record [("spec", record [("storage_class_name", text)])]

def address : Shape :=
  record [("ip", text), ("target_ref", record [("kind", text), ("name", text)])]

def endpointSubset : Shape :=
  record [("not_ready_addresses", list address)]

def ingressPath : Shape :=
  record [("backend", record [("service", record [("name", text)])])]

def ingressRule : Shape :=
  record [("http", record [("paths", list ingressPath)])]

def certificate : Shape :=
  record [("secret_name", text)]

/-- The sections of an object besides its metadata, by kind. -/
def sections : String → List (String × Shape)
  | "Pod" => [
      ("spec", podSpec),
      ("status", record [
        ("phase", text), ("conditions", list condition),
        ("init_container_statuses", list containerStatus),
        ("container_statuses", list containerStatus)])]
  | "Service" => [("spec", record [("selector", labels)])]
  | "Endpoints" => [("subsets", list endpointSubset)]
  | "PersistentVolumeClaim" => [("status", record [("phase", text)])]
  | "Node" => [("status", record [("conditions", list condition)])]
  | "Deployment" => [
      ("spec", record [("replicas", whole), ("template", podTemplate)]),
      ("status", record [
        ("replicas", whole), ("ready_replicas", whole), ("updated_replicas", whole)])]
  | "ReplicaSet" => [
      ("spec", record [("template", podTemplate)]),
      ("status", record [("replicas", whole), ("conditions", list condition)])]
  | "StatefulSet" => [
      ("spec", record [
        ("service_name", text), ("template", podTemplate),
        ("volume_claim_templates", list claimTemplate)])]
  | "CronJob" => [
      ("spec", record [
        ("suspend", flag), ("schedule", text), ("starting_deadline_seconds", whole)])]
  | "Ingress" => [
      ("spec", record [
        ("ingress_class_name", text), ("rules", list ingressRule), ("tls", list certificate)])]
  | "NetworkPolicy" => [("spec", record [("pod_selector", labelSelector)])]
  | "HorizontalPodAutoscaler" => [
      ("spec", record [("scale_target_ref", record [("kind", text), ("name", text)])])]
  | "PodDisruptionBudget" => [
      ("spec", record [("selector", labelSelector)]),
      ("status", record [("conditions", list condition)])]
  | _ => []

/-- An object of a kind. -/
def object (kind : String) : Shape :=
  record (("metadata", metadata) :: sections kind)

def event : Shape :=
  record [("reason", text), ("message", text)]

end Shape

/-! ### The contract -/

/-- Whether a fault says that an access to the cluster failed. Its text begins as no text about an
unsupported kind does. -/
def Fault.IsAccess (f : Fault) : Prop :=
  ∃ details, f = .access ("Failed to " ++ details)

/-- An answer of a property, or a failed access. -/
def AnswersWith {α : Type} (P : α → Prop) : Except Fault α → Prop
  | .ok a => P a
  | .error f => f.IsAccess

/-- An access that names no kind but a supported one. -/
def Query.IsSupported : Query → Prop
  | .list kind _ _ => Resource.isKind kind = true
  | .get kind _ _ => Resource.isKind kind = true
  | .events _ _ _ => True
  | .log _ _ _ _ => True

/-- What scans of clusters keep to. -/
def Contract.cluster : Contract where
  asks := Query.IsSupported
  told
    | .list kind _ _ => AnswersWith fun objects : List Value ↦
        ∀ v ∈ objects, (Shape.object kind).fits v = true
    | .get kind _ _ => AnswersWith fun object : Option Value ↦
        ∀ v ∈ object, (Shape.object kind).fits v = true
    | .events _ _ _ => AnswersWith fun events : List Value ↦
        ∀ v ∈ events, Shape.event.fits v = true
    | .log _ _ _ _ => AnswersWith fun _ : Option String ↦ True
  ends f := f.IsAccess ∨ f.endsRun = true

/-! ### Interfaces that keep to it -/

/-- Events in the order of their times are the same events. -/
theorem Event.mem_of_sorted {events found : List Value} (h : Event.sorted events = .ok found) :
    ∀ v ∈ found, v ∈ events := by
  obtain ⟨timed, htimed, h⟩ := bind_eq_ok_iff.mp h
  cases h
  intro v hv
  obtain ⟨⟨t, u⟩, hu, rfl⟩ := List.mem_map.mp hv
  obtain ⟨e, he, h⟩ := exists_of_mem_mapM htimed _ (List.mem_mergeSort.mp hu)
  rcases ht : Event.time e with f | t'
  · rw [ht] at h
    cases h
  · rw [ht] at h
    cases h
    exact he

namespace Api

variable {σ : Type} {api : Api σ} {m : Moment} {connection : Connection σ}

/-- An interface whose operations give objects and events of the declared shapes if they succeed.
Nothing is said about how and when they fail, about the configuration, or about time. -/
structure WellShaped (api : Api σ) : Prop where
  list : ∀ r scope selector limit m s items,
    (api.call (.list r scope selector limit) m s).1 = .ok (some items) →
      ∀ v ∈ items, (Shape.object r.kind).fits v = true
  read : ∀ r scope name limit m s v, (api.call (.read r scope name limit) m s).1 = .ok v →
    (Shape.object r.kind).fits v = true
  events : ∀ scope fields limit m s events,
    (api.call (.events scope fields limit) m s).1 = .ok (some events) →
      ∀ e ∈ events, Shape.text.Optional e.reason ∧ Shape.text.Optional e.message

/-- An interface outside of the cluster, of a user with a configuration. Every list is empty, and
nothing can be read. -/
def vacant : Api σ where
  inCluster m s := (.error (.external ⟨"ConfigException", "not in a pod", .noConfiguration⟩), m, s)
  ofUser m s := (.ok (), m, s)
  connect _ m s := (.ok (), m, s)
  call
    | .list _ _ _ _, m, s => (.ok none, m, s)
    | .read _ _ _ _, m, s => (.error (.external ⟨"OSError", "connection refused", .plain⟩), m, s)
    | .events _ _ _, m, s => (.ok none, m, s)
    | .log _ _ _ _ _, m, s => (.error (.external ⟨"OSError", "broken pipe", .plain⟩), m, s)

/-- Every fault in reading the cluster is told as one of the access. -/
theorem isAccess_accessFault (what : String) (f : Fault) : (accessFault what f).IsAccess := by
  have hplain (s : String) : Fault.IsAccess (.access ("Failed to " ++ what ++ ": " ++ s)) :=
    ⟨what ++ ": " ++ s, by simp only [String.append_assoc]⟩
  cases f with
  | external e =>
    obtain ⟨label, message, origin⟩ := e
    cases origin with
    | cluster status reason body =>
      refine ⟨what ++ ": Kubernetes API error: " ++ reason.text ++ " - " ++ body.text, ?_⟩
      simp only [accessFault, String.append_assoc]
    | _ => exact hplain _
  | _ => exact hplain _

/-- A call that succeeds gives what the operation of the interface gave. -/
theorem exists_of_call {c : ApiCall} {reply : c.Reply}
    (h : (Connection.call api c m connection).1 = .ok reply) :
    ∃ m' s, (api.call c m' s).1 = .ok reply := by
  unfold Connection.call Connection.andThen at h
  split at h
  · next m' connection' _ => exact ⟨m', connection'.state, h⟩
  · cases h

/-- A supported kind names a resource of that kind. -/
theorem resource_of_isKind {kind : String} (h : Resource.isKind kind = true) :
    ∃ r, resource (.str kind) = .ok r ∧ r.kind = kind := by
  obtain ⟨r, hr⟩ := Option.isSome_iff_exists.mp h
  refine ⟨r, ?_, by simpa using List.find?_some hr⟩
  have htext : (Value.str kind).text = kind := rfl
  simp only [resource, htext, hr]

/-- Listing a supported kind gives objects of its shape, or an access fails. -/
theorem answersWith_listObjects (h : api.WellShaped) {kind : String}
    (hkind : Resource.isKind kind = true) (scope selector limit : Value) :
    AnswersWith (fun objects ↦ ∀ v ∈ objects, (Shape.object kind).fits v = true)
      (listObjects api (.str kind) scope selector limit m connection).1 := by
  obtain ⟨r, hresource, rfl⟩ := resource_of_isKind hkind
  unfold listObjects
  rw [hresource]
  dsimp only
  split
  · next items _ _ hcall =>
    obtain ⟨m', s, hreply⟩ := exists_of_call (congrArg Prod.fst hcall)
    cases items with
    | none => exact List.forall_mem_nil _
    | some items => exact h.list _ _ _ _ _ _ _ hreply
  · exact isAccess_accessFault _ _

/-- Looking up an object gives one of its kind's shape or none, or an access fails. -/
theorem answersWith_getObject (h : api.WellShaped) {kind : String}
    (hkind : Resource.isKind kind = true) (scope name limit : Value) :
    AnswersWith (fun object ↦ ∀ v ∈ object, (Shape.object kind).fits v = true)
      (getObject api (.str kind) scope name limit m connection).1 := by
  obtain ⟨r, hresource, rfl⟩ := resource_of_isKind hkind
  unfold getObject
  rw [hresource]
  dsimp only
  split
  · next object _ _ hcall =>
    obtain ⟨m', s, hreply⟩ := exists_of_call (congrArg Prod.fst hcall)
    intro v hv
    obtain rfl := Option.some.inj hv
    exact h.read _ _ _ _ _ _ _ hreply
  · split
    · intro v hv
      cases hv
    · exact isAccess_accessFault _ _

/-- The newest events are records of events that were read. -/
theorem mem_of_newest {events : List ApiEvent} {most : Value} {found : List Value}
    (h : newest events most = .ok found) : ∀ v ∈ found, ∃ e ∈ events, v = eventRecord e := by
  obtain ⟨sorted, hsorted, h⟩ := bind_eq_ok_iff.mp h
  obtain ⟨count, -, h⟩ := bind_eq_ok_iff.mp h
  cases h
  intro v hv
  obtain ⟨e, he, rfl⟩ := List.mem_map.mp (Event.mem_of_sorted hsorted v (List.mem_of_mem_take hv))
  exact ⟨e, he, rfl⟩

/-- An event whose reason and message are texts or absent has a record of the declared shape. -/
theorem fits_eventRecord {e : ApiEvent} (hreason : Shape.text.Optional e.reason)
    (hmessage : Shape.text.Optional e.message) : Shape.event.fits (eventRecord e) = true := by
  obtain ⟨type, reason, message, count, first, last, happened, involved⟩ := e
  rcases hreason.text_cases with rfl | ⟨t, rfl⟩ <;>
    rcases hmessage.text_cases with rfl | ⟨u, rfl⟩ <;> rfl

/-- Reading events gives records of the declared shape, or an access fails. -/
theorem answersWith_getEvents (h : api.WellShaped) (scope name kind most limit : Value) :
    AnswersWith (fun events ↦ ∀ v ∈ events, Shape.event.fits v = true)
      (getEvents api scope name kind most limit m connection).1 := by
  unfold getEvents
  split
  · exact isAccess_accessFault _ _
  · next events _ _ hcall =>
    obtain ⟨m', s, hreply⟩ := exists_of_call (congrArg Prod.fst hcall)
    split
    · next found hnewest =>
      intro v hv
      obtain ⟨e, he, rfl⟩ := mem_of_newest hnewest v hv
      cases events with
      | none => cases he
      | some events =>
        have hfits := h.events _ _ _ _ _ _ hreply e he
        exact fits_eventRecord hfits.1 hfits.2
    · exact isAccess_accessFault _ _

/-- An interface that gives what is declared keeps to the contract of a cluster. -/
theorem WellShaped.source_heldBy (h : api.WellShaped) (deadline : Option Deadline) :
    Contract.cluster.HeldBy api.source deadline where
  told q limit m connection hq := by
    cases q with
    | list kind scope selector => exact answersWith_listObjects h hq scope selector limit
    | get kind scope name => exact answersWith_getObject h hq scope name limit
    | events scope name most => exact answersWith_getEvents h scope name .null (.int most) limit
    | log pod scope container lastLines =>
      change AnswersWith _ (readLog api pod scope container (.int lastLines) limit m connection).1
      unfold readLog
      dsimp only
      split <;> trivial
  ended m f hover := .inr (endsRun_of_runOver? hover)

end Api

end ClusterDiagnosis
