import ClusterDiagnosis.Analyzer.Builtin
import ClusterDiagnosis.Proofs.Scan.Plain

/-!
# Every detection is plain

None of the built-in checks reads the clock except to give an access the time left, and none touches
the gauge: `plain_detect` for all of them, from one lemma for each detection that asks the cluster.
-/

set_option autoImplicit false
set_option relaxedAutoImplicit false

namespace ClusterDiagnosis

open Scan

namespace Detect

/-- The check of storage claims asks for the latest event of a claim that is pending. -/
theorem plain_storageClaim (object : Value) : Plain (storageClaim object) := by
  refine .bind (.lifted _) fun md ↦ .bind (.lifted _) fun status ↦ .bind (.lifted _) fun phase ↦ ?_
  split
  · exact .pure _
  · refine .bind (.lifted _) fun scope ↦ .bind (.lifted _) fun name ↦ ?_
    refine .bind (.latestEvent scope name) fun event ↦ ?_
    split
    · exact .pure _
    · refine .bind (.lifted _) fun reason ↦ ?_
      dsimp only
      split
      · refine .bind (.lifted _) fun message ↦ ?_
        split
        · exact .bind (.lifted _) fun _ ↦ .pure _
        · exact .pure _
      · exact .pure _

/-- The check of services looks up the endpoints of a service and nothing else. -/
theorem plain_service (object : Value) : Plain (service object) := by
  refine .bind (.lifted _) fun md ↦ .bind (.lifted _) fun spec ↦ ?_
  refine .bind (.lifted _) fun scope ↦ .bind (.lifted _) fun name ↦ ?_
  refine .bind (.lifted _) fun selector ↦ ?_
  split
  · exact .pure _
  · refine .bind (.asking (Query.firm_get _ _ _)) fun endpoints ↦ ?_
    refine .bind (.lifted _) fun subsets ↦ ?_
    split
    · exact .lift _
    · exact .lift _

/-- The class of an ingress is looked up if one is named. -/
theorem plain_classFailures (md spec scope name : Value) :
    Plain (classFailures md spec scope name) := by
  refine .bind (.lifted _) fun own ↦ ?_
  split
  · refine .bind (.isMissing _ _ _) fun missing ↦ ?_
    split
    · exact .pure _
    · exact .pure _
  · refine .bind (.lifted _) fun annotations ↦ .bind (.lifted _) fun annotation ↦ ?_
    split
    · exact .pure _
    · exact .bind (.lift _) fun _ ↦ .pure _

/-- The services behind the paths of a rule are looked up, each one once. -/
theorem plain_missingBackends (scope : Value) (seen paths : List Value) :
    Plain (missingBackends scope seen paths) := by
  induction paths generalizing seen with
  | nil => exact .pure _
  | cons path paths ih =>
    refine .bind (.lifted _) fun name ↦ ?_
    split
    · refine .bind (.lifted _) fun known ↦ ?_
      split
      · exact ih _
      · have hrest (found : List Failure) :
            Plain (missingBackends scope (name :: seen) paths >>= fun others ↦
              pure (found ++ others.1, others.2)) :=
          .bind (ih _) fun _ ↦ .pure _
        refine .bind (.isMissing _ _ _) fun missing ↦ ?_
        split
        · exact .bind (.lift _) fun _ ↦ .bind (.pure _) hrest
        · exact .bind (.pure _) hrest
    · exact ih _

/-- The services behind several rules are looked up rule by rule. -/
theorem plain_missingServices (scope : Value) (seen rules : List Value) :
    Plain (missingServices scope seen rules) := by
  induction rules generalizing seen with
  | nil => exact .pure _
  | cons rule rules ih =>
    refine .bind (.lifted _) fun http ↦ .bind (.lifted _) fun paths ↦ ?_
    exact .bind (plain_missingBackends _ _ _) fun found ↦ .bind (ih _) fun others ↦ .pure _

/-- The certificate of an entry is looked up as a secret. -/
theorem plain_missingCertificate (scope entry : Value) :
    Plain (missingCertificate scope entry) := by
  refine .bind (.lifted _) fun name ↦ ?_
  dsimp only
  split
  · refine .bind (.isMissing _ _ _) fun missing ↦ ?_
    split
    · exact .bind (.lift _) fun _ ↦ .pure _
    · exact .pure _
  · exact .pure _

/-- The check of ingresses is the three lookups one after the other. -/
theorem plain_ingress (object : Value) : Plain (ingress object) := by
  refine .bind (.lifted _) fun md ↦ .bind (.lifted _) fun spec ↦ ?_
  refine .bind (.lifted _) fun scope ↦ .bind (.lifted _) fun name ↦ ?_
  refine .bind (plain_classFailures _ _ _ _) fun ofClass ↦ .bind (.lifted _) fun rules ↦ ?_
  refine .bind (plain_missingServices _ _ _) fun ofServices ↦ .bind (.lifted _) fun entries ↦ ?_
  exact .bind (.collect (plain_missingCertificate scope) _) fun ofCertificates ↦ .pure _

/-- The storage classes of claim templates are looked up, each one once. -/
theorem plain_missingClasses (seen templates : List Value) :
    Plain (missingClasses seen templates) := by
  induction templates generalizing seen with
  | nil => exact .pure _
  | cons template templates ih =>
    refine .bind (.lifted _) fun spec ↦ .bind (.lifted _) fun name ↦ ?_
    split
    · refine .bind (.lifted _) fun known ↦ ?_
      split
      · exact ih _
      · exact .bind (.isMissing _ _ _) fun missing ↦ .bind (ih _) fun others ↦ .pure _
    · exact ih _

/-- The check of stateful sets looks up the service and the storage classes. -/
theorem plain_statefulSet (object : Value) : Plain (statefulSet object) := by
  refine .bind (.lifted _) fun md ↦ .bind (.lifted _) fun spec ↦ ?_
  refine .bind (.lifted _) fun scope ↦ .bind (.lifted _) fun service ↦ ?_
  have hrest (first : List Failure) : Plain (do
      let others ← missingClasses [] (← spec.each "volume_claim_templates")
      return first ++ others) :=
    .bind (.lifted _) fun _ ↦ .bind (plain_missingClasses _ _) fun _ ↦ .pure _
  dsimp only
  split
  · refine .bind (.isMissing _ _ _) fun missing ↦ ?_
    split
    · exact .bind (.lift _) fun _ ↦ .bind (.pure _) hrest
    · exact .bind (.pure _) hrest
  · exact .bind (.pure _) hrest

/-- The check of autoscalers looks up what is scaled. -/
theorem plain_autoscaler (object : Value) : Plain (autoscaler object) := by
  refine .bind (.lifted _) fun md ↦ .bind (.lifted _) fun spec ↦ ?_
  refine .bind (.lifted _) fun scope ↦ .bind (.lifted _) fun ref ↦ ?_
  refine .bind (.lifted _) fun kind ↦ .bind (.lifted _) fun name ↦ ?_
  split
  · exact .pure _
  · split
    · exact .pure _
    · refine .bind (.asking (Query.firm_get _ _ _)) fun target ↦ ?_
      split
      · exact .bind (.lift _) fun _ ↦ .pure _
      · refine .bind (.lifted _) fun containers ↦ .bind (.lifted _) fun stated ↦ ?_
        split
        · exact .pure _
        · exact .bind (.lift _) fun _ ↦ .pure _

/-- The check of network policies lists the pods that a policy selects. -/
theorem plain_networkPolicy (object : Value) : Plain (networkPolicy object) := by
  refine .bind (.lifted _) fun md ↦ .bind (.lifted _) fun spec ↦ ?_
  refine .bind (.lifted _) fun scope ↦ .bind (.lifted _) fun name ↦ ?_
  refine .bind (.lifted _) fun selector ↦ .bind (.lifted _) fun labels ↦ ?_
  split
  · refine .bind (.lifted _) fun expressions ↦ ?_
    split
    · exact .pure _
    · exact .bind (.lift _) fun _ ↦ .pure _
  · refine .bind (.lifted _) fun chosen ↦ .bind (.asking (Query.firm_list _ _ _)) fun pods ↦ ?_
    split
    · exact .bind (.lift _) fun _ ↦ .pure _
    · exact .pure _

/-- The check of one container's log asks for that log only. -/
theorem plain_logFailure (scope pod container : Value) :
    Plain (logFailure scope pod container) := by
  refine .bind (.lifted _) fun name ↦ .askLog pod scope name lastLines (fun log ↦ ?_) rfl
  dsimp only
  split
  · exact .pure _
  · exact .bind (.lift _) fun _ ↦ .pure _

/-- The check of logs reads the log of each container. -/
theorem plain_podLogs (object : Value) : Plain (podLogs object) := by
  refine .bind (.lifted _) fun md ↦ .bind (.lifted _) fun scope ↦ ?_
  refine .bind (.lifted _) fun name ↦ .bind (.lifted _) fun spec ↦ ?_
  exact .bind (.lifted _) fun containers ↦ .collect (plain_logFailure scope name) _

namespace Pod

/-! ### Pods, whatever the events are looked up with -/

variable {latest : EventLookup} (hlatest : ∀ scope name, Plain (latest scope name))

include hlatest

/-- A container that is being created is judged by the latest event. -/
theorem plain_creating (scope pod : Value) : Plain (creating latest scope pod) := by
  refine .bind (hlatest scope pod) fun event ↦ ?_
  split
  · exact .pure _
  · refine .bind (.lifted _) fun reason ↦ .bind (.lifted _) fun isError ↦ ?_
    split
    · exact .lifted _
    · exact .pure _

/-- A container that is not ready is judged by the latest event. -/
theorem plain_unready (scope pod : Value) : Plain (unready latest scope pod) := by
  refine .bind (hlatest scope pod) fun event ↦ ?_
  split
  · exact .pure _
  · refine .bind (.lifted _) fun reason ↦ ?_
    split
    · exact .lifted _
    · exact .pure _

/-- The check of one container asks for the latest event at most. -/
theorem plain_containerFailure (pod scope phase status : Value) :
    Plain (containerFailure latest pod scope phase status) := by
  refine .bind (.lifted _) fun state ↦ .bind (.lifted _) fun waiting ↦ ?_
  split
  · refine .bind (.lifted _) fun reason ↦ ?_
    split
    · exact plain_creating hlatest scope pod
    · exact .lift _
  · refine .bind (.lifted _) fun ready ↦ ?_
    split
    · exact plain_unready hlatest scope pod
    · exact .pure _

/-- The check of pods goes through the containers one after the other. -/
theorem plain_failures (pod : Value) : Plain (failures latest pod) := by
  refine .bind (.lifted _) fun md ↦ .bind (.lifted _) fun status ↦ ?_
  refine .bind (.lifted _) fun name ↦ .bind (.lifted _) fun scope ↦ ?_
  refine .bind (.lifted _) fun phase ↦ ?_
  have hstep := plain_containerFailure hlatest name scope phase
  have hrest (scheduling : List Failure) : Plain (do
      let initial ← status.each "init_container_statuses"
      let started ← collect (containerFailure latest name scope phase) initial
      let regular ← status.each "container_statuses"
      let running ← collect (containerFailure latest name scope phase) regular
      return scheduling ++ started ++ running) :=
    .bind (.lifted _) fun _ ↦ .bind (.collect hstep _) fun _ ↦
      .bind (.lifted _) fun _ ↦ .bind (.collect hstep _) fun _ ↦ .pure _
  dsimp only
  split
  · exact .bind (.lifted _) fun _ ↦ .bind (.lift _) hrest
  · exact .bind (.pure _) hrest

end Pod

end Detect

namespace Check

/-- All built-in checks: those that are always run, and those that are run on request. -/
def builtin : List Check :=
  core.map Prod.snd ++ additional.map Prod.snd

/-- A built-in check only checks, asks and computes to find the failures of an object. -/
theorem plain_detect {c : Check} (hc : c ∈ builtin) (object : Value) :
    Plain (c.detect object) := by
  simp only [builtin, core, additional, List.map_cons, List.map_nil, List.cons_append,
    List.nil_append, List.mem_cons, List.not_mem_nil, or_false] at hc
  rcases hc with rfl | rfl | rfl | rfl | rfl | rfl | rfl | rfl | rfl | rfl | rfl | rfl | rfl
  · exact Detect.Pod.plain_failures .latestEvent object
  · exact .lift _
  · exact .lift _
  · exact Detect.plain_storageClaim object
  · exact Detect.plain_service object
  · exact Detect.plain_ingress object
  · exact Detect.plain_statefulSet object
  · exact .lift _
  · exact .lift _
  · exact Detect.plain_autoscaler object
  · exact .lift _
  · exact Detect.plain_networkPolicy object
  · exact Detect.plain_podLogs object

end Check

end ClusterDiagnosis
