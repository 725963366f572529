/-!
The kinds of objects that a cluster can be asked for, and where its interface offers them.
-/

set_option autoImplicit false
set_option relaxedAutoImplicit false

namespace ClusterDiagnosis

/-- The parts of the cluster's interface. Each has a client of its own. -/
inductive Group where
  | core
  | apps
  | batch
  | networking
  | autoscaling
  | policy
  | storage
  deriving DecidableEq, Repr

def Group.name : Group → String
  | core => "core"
  | apps => "apps"
  | batch => "batch"
  | networking => "networking"
  | autoscaling => "autoscaling"
  | policy => "policy"
  | storage => "storage"

/-- A kind of object: the group it belongs to, its name in the names of operations, and whether its
objects live in namespaces. -/
structure Resource where
  kind : String
  group : Group
  noun : String
  namespaced : Bool := true
  deriving DecidableEq, Repr

namespace Resource

/-- All supported kinds. -/
def all : List Resource := [
  ⟨"Pod", .core, "pod", true⟩,
  ⟨"Service", .core, "service", true⟩,
  ⟨"Endpoints", .core, "endpoints", true⟩,
  ⟨"Secret", .core, "secret", true⟩,
  ⟨"PersistentVolumeClaim", .core, "persistent_volume_claim", true⟩,
  ⟨"Node", .core, "node", false⟩,
  ⟨"Deployment", .apps, "deployment", true⟩,
  ⟨"ReplicaSet", .apps, "replica_set", true⟩,
  ⟨"StatefulSet", .apps, "stateful_set", true⟩,
  ⟨"DaemonSet", .apps, "daemon_set", true⟩,
  ⟨"Job", .batch, "job", true⟩,
  ⟨"CronJob", .batch, "cron_job", true⟩,
  ⟨"Ingress", .networking, "ingress", true⟩,
  ⟨"IngressClass", .networking, "ingress_class", false⟩,
  ⟨"NetworkPolicy", .networking, "network_policy", true⟩,
  ⟨"HorizontalPodAutoscaler", .autoscaling, "horizontal_pod_autoscaler", true⟩,
  ⟨"PodDisruptionBudget", .policy, "pod_disruption_budget", true⟩,
  ⟨"StorageClass", .storage, "storage_class", false⟩]

/-- The supported kind of the given name. -/
def ofKind? (kind : String) : Option Resource :=
  all.find? fun r ↦ r.kind == kind

/-- Whether a kind is supported. -/
def isKind (kind : String) : Bool :=
  (ofKind? kind).isSome

/-- The operation that lists the objects, of one namespace or of all. -/
def listing (r : Resource) (ofNamespace : Bool) : String :=
  if ofNamespace then "list_namespaced_" ++ r.noun
  else if r.namespaced then "list_" ++ r.noun ++ "_for_all_namespaces"
  else "list_" ++ r.noun

/-- The operation that reads one object. -/
def reading (r : Resource) : String :=
  if r.namespaced then "read_namespaced_" ++ r.noun else "read_" ++ r.noun

end Resource

end ClusterDiagnosis
