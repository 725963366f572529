import ClusterDiagnosis.Analyzer.Basic
import ClusterDiagnosis.Detect.Capacity
import ClusterDiagnosis.Detect.Log
import ClusterDiagnosis.Detect.Pod
import ClusterDiagnosis.Detect.Workload

/-!
The built-in analyzers, under the names they are asked for by.
-/

set_option autoImplicit false
set_option relaxedAutoImplicit false

namespace ClusterDiagnosis.Check

def pod : Check where
  kind := "Pod"
  listed := "Pod"
  detect := Detect.Pod.failures Scan.latestEvent

def deployment : Check where
  kind := "Deployment"
  listed := "Deployment"
  detect object := Scan.lift (Detect.deployment object)

def replicaSet : Check where
  kind := "ReplicaSet"
  listed := "ReplicaSet"
  detect object := Scan.lift (Detect.replicaSet object)

def storageClaim : Check where
  kind := "PersistentVolumeClaim"
  listed := "PersistentVolumeClaim"
  detect := Detect.storageClaim

def service : Check where
  kind := "Service"
  listed := "Service"
  detect := Detect.service

def ingress : Check where
  kind := "Ingress"
  listed := "Ingress"
  detect := Detect.ingress

def statefulSet : Check where
  kind := "StatefulSet"
  listed := "StatefulSet"
  detect := Detect.statefulSet

def cronJob : Check where
  kind := "CronJob"
  listed := "CronJob"
  detect object := Scan.lift (Detect.cronJob object)

/-- Nodes have neither namespace nor owner. -/
def node : Check where
  kind := "Node"
  listed := "Node"
  everywhere := true
  owned := false
  detect object := Scan.lift (Detect.node object)

def autoscaler : Check where
  kind := "HorizontalPodAutoscaler"
  listed := "HorizontalPodAutoscaler"
  detect := Detect.autoscaler

def disruptionBudget : Check where
  kind := "PodDisruptionBudget"
  listed := "PodDisruptionBudget"
  detect object := Scan.lift (Detect.disruptionBudget object)

def networkPolicy : Check where
  kind := "NetworkPolicy"
  listed := "NetworkPolicy"
  detect := Detect.networkPolicy

/-- The logs are those of pods. -/
def log : Check where
  kind := "Log"
  listed := "Pod"
  detect := Detect.podLogs

/-- The checks that are always run, by name. -/
def core : List (String × Check) := [
  ("Pod", pod),
  ("Deployment", deployment),
  ("ReplicaSet", replicaSet),
  ("PersistentVolumeClaim", storageClaim),
  ("Service", service),
  ("Ingress", ingress),
  ("StatefulSet", statefulSet),
  ("CronJob", cronJob),
  ("Node", node)]

/-- The checks that are run on request, by name. -/
def additional : List (String × Check) := [
  ("HorizontalPodAutoScaler", autoscaler),
  ("PodDisruptionBudget", disruptionBudget),
  ("NetworkPolicy", networkPolicy),
  ("Log", log)]

end ClusterDiagnosis.Check
