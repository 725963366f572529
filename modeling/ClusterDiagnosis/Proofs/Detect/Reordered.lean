import ClusterDiagnosis.Proofs.Cluster.Reordered
import ClusterDiagnosis.Proofs.Detect.Plain

/-!
# Detections do not depend on the order of entries

On two objects of the declared shape that are the same up to the order of the entries of maps, each
detection goes in step: it makes the same accesses, and as long as these are answered alike it finds
the same failures in the same order, with the same secrets. There is one lemma for each detection,
from one for each of its parts; `inStep_detect` is for all of them.
-/

set_option autoImplicit false
set_option relaxedAutoImplicit false

namespace ClusterDiagnosis

open Scan Shape

variable {object object' : Value}

namespace Detect

/-! ### Steps that all detections share -/

/-- Failures are collected alike from lists that are paired item by item. -/
theorem same_collectPure {R : Value → Value → Prop}
    {step step' : Value → Except Fault (Option Failure)} {xs ys : List Value}
    (h : List.Forall₂ R xs ys) (hstep : ∀ x y, R x y → step x = step' y) :
    collectPure step xs = collectPure step' ys := by
  induction h with
  | nil => rfl
  | cons hxy _ ih => rw [collectPure, collectPure, hstep _ _ hxy, ih]

/-- A lookup is made alike, and what it finds is paired. -/
theorem inStep_get (kind : String) (scope name : Value) :
    InStep Query.Reordered (Option.Rel (Shape.object kind).Pair)
      (Scan.ask (.get kind scope name)) (Scan.ask (.get kind scope name)) :=
  @InStep.asking _ (.get kind scope name) _ fun _ _ h ↦ h

/-- Whether an object is missing is found out alike. -/
theorem inStep_isMissing (kind : String) (scope name : Value) :
    InStep Query.Reordered Eq (isMissing kind scope name) (isMissing kind scope name) := by
  refine .bind (inStep_get kind scope name) fun object object' h ↦ ?_
  cases h with
  | some _ => exact .pure rfl
  | none => exact .pure rfl

/-- The latest event is asked for alike, and the events found are paired. -/
theorem inStep_latestEvent (scope name : Value) :
    InStep Query.Reordered (Option.Rel Shape.event.Pair) (Scan.latestEvent scope name)
      (Scan.latestEvent scope name) := by
  refine .andThen .time fun limit ↦ .consult _ limit fun r r' h ↦ ?_
  cases h with
  | error f =>
    simp only [firstOf]
    split
    · exact .done (.error f)
    · exact .pure .none
  | ok h =>
    cases h with
    | nil => exact .pure .none
    | cons hevent _ =>
      obtain ⟨es, es', rfl, rfl, -⟩ := hevent.exists_entries
      exact .pure (.some hevent)

/-- Labels give the same failures: they are gone through in the order of their keys. -/
theorem same_labelFailures (intro : String) {labels labels' : Value}
    (h : Shape.labels.Pair labels labels') :
    labelFailures intro labels = labelFailures intro labels' := by
  have hitem : labels.item = labels'.item := funext h.same_item
  rw [labelFailures, labelFailures, h.same_sortedKeys, hitem]

/-- Labels give the same selector: it is written in the order of their keys. -/
theorem same_selectorText {labels labels' : Value} (h : Shape.labels.Pair labels labels') :
    selectorText labels = selectorText labels' := by
  have hitem : labels.item = labels'.item := funext h.same_item
  rw [selectorText, selectorText, h.same_sortedKeys, hitem]

/-! ### Workloads -/

variable {status status' : Value}

theorem same_replicaCount {fields : List (String × Shape)} {key : String}
    (h : (record fields).Pair status status') (hkey : entryAt? key fields = some whole) :
    replicaCount status key = replicaCount status' key := by
  rw [replicaCount, replicaCount, same_fieldOr h hkey trivial]

theorem same_deployment (h : (Shape.object "Deployment").Pair object object') :
    deployment object = deployment object' := by
  refine Agree.eq ?_
  refine (agree_section h rfl).bind fun md md' hmd ↦ ?_
  refine (agree_section h rfl).bind fun spec spec' hspec ↦ ?_
  refine (agree_section h rfl).bind fun status status' hstatus ↦ ?_
  have hwanted : spec.field "replicas" = spec'.field "replicas" := same_field hspec rfl trivial
  have hcount {key : String} := @same_replicaCount status status' _ key hstatus
  have hscope : md.label "namespace" = md'.label "namespace" := same_label hmd rfl
  have hname : md.label "name" = md'.label "name" := same_label hmd rfl
  refine .of_eq ?_
  rw [hscope, hname, hwanted, hcount rfl, hcount rfl, hcount rfl]

/-- A failed creation is read alike from paired conditions. -/
theorem same_creationFailure {condition condition' : Value}
    (h : Shape.condition.Pair condition condition') :
    creationFailure condition = creationFailure condition' := by
  have htype : condition.field "type" = condition'.field "type" := same_field h rfl trivial
  have hreason : condition.field "reason" = condition'.field "reason" := same_field h rfl trivial
  have hmessage : condition.field "message" = condition'.field "message" :=
    same_field h rfl trivial
  rw [creationFailure, creationFailure, htype, hreason, hmessage]

theorem same_replicaSet (h : (Shape.object "ReplicaSet").Pair object object') :
    replicaSet object = replicaSet object' := by
  refine Agree.eq ?_
  refine (agree_section h rfl).bind fun status status' hstatus ↦ ?_
  refine .same (same_replicaCount hstatus rfl) fun replicas ↦ ?_
  split
  · exact .of_eq rfl
  · refine (agree_each hstatus rfl).bind fun conditions conditions' hconditions ↦ ?_
    exact .of_eq (same_collectPure hconditions fun _ _ ↦ same_creationFailure)

/-- The storage classes of paired templates are looked up alike. -/
theorem inStep_missingClasses (seen : List Value) {templates templates' : List Value}
    (h : List.Forall₂ claimTemplate.Pair templates templates') :
    InStep Query.Reordered Eq (missingClasses seen templates) (missingClasses seen templates') := by
  induction h generalizing seen with
  | nil => exact .pure rfl
  | cons htemplate _ ih =>
    refine .lifting (agree_section htemplate rfl) fun spec spec' hspec ↦ ?_
    refine .same (same_label hspec rfl) fun name ↦ ?_
    split
    · refine .same rfl fun known ↦ ?_
      split
      · exact ih _
      · exact .andThen (inStep_isMissing _ _ _) fun _ ↦ .andThen (ih _) fun _ ↦ .pure rfl
    · exact ih _

theorem inStep_statefulSet (h : (Shape.object "StatefulSet").Pair object object') :
    InStep Query.Reordered Eq (statefulSet object) (statefulSet object') := by
  refine .lifting (agree_section h rfl) fun md md' hmd ↦ ?_
  refine .lifting (agree_section h rfl) fun spec spec' hspec ↦ ?_
  refine .same (same_label hmd rfl) fun scope ↦ .same (same_label hspec rfl) fun service ↦ ?_
  have hrest (first : List Failure) : InStep Query.Reordered Eq (do
      let others ← missingClasses [] (← spec.each "volume_claim_templates")
      return first ++ others) (do
      let others ← missingClasses [] (← spec'.each "volume_claim_templates")
      return first ++ others) :=
    .lifting (agree_each hspec rfl) fun _ _ htemplates ↦
      .andThen (inStep_missingClasses [] htemplates) fun _ ↦ .pure rfl
  dsimp only
  split
  · refine .andThen (inStep_isMissing _ _ _) fun missing ↦ ?_
    split
    · exact .andThen (.lift (.of_eq rfl)) fun _ ↦ .andThen (.pure rfl) hrest
    · exact .andThen (.pure rfl) hrest
  · exact .andThen (.pure rfl) hrest

theorem same_cronJob (h : (Shape.object "CronJob").Pair object object') :
    cronJob object = cronJob object' := by
  refine Agree.eq ?_
  refine (agree_section h rfl).bind fun md md' hmd ↦ ?_
  refine (agree_section h rfl).bind fun spec spec' hspec ↦ .of_eq ?_
  have hname : md.label "name" = md'.label "name" := same_label hmd rfl
  have hsuspend : spec.field "suspend" = spec'.field "suspend" := same_field hspec rfl trivial
  have hschedule : spec.label "schedule" = spec'.label "schedule" := same_label hspec rfl
  have hstarting : spec.field "starting_deadline_seconds" =
      spec'.field "starting_deadline_seconds" := same_field hspec rfl trivial
  rw [hname, hsuspend, hschedule, hstarting]

/-! ### Capacity -/

theorem inStep_storageClaim (h : (Shape.object "PersistentVolumeClaim").Pair object object') :
    InStep Query.Reordered Eq (storageClaim object) (storageClaim object') := by
  refine .lifting (agree_section h rfl) fun md md' hmd ↦ ?_
  refine .lifting (agree_section h rfl) fun status status' hstatus ↦ ?_
  refine .same (same_field hstatus rfl trivial) fun phase ↦ ?_
  split
  · exact .pure rfl
  · refine .same (same_label hmd rfl) fun scope ↦ .same (same_label hmd rfl) fun name ↦ ?_
    refine .bind (inStep_latestEvent scope name) fun event event' hevent ↦ ?_
    cases hevent with
    | none => exact .pure rfl
    | some hevent =>
      refine .same (same_field hevent rfl trivial) fun reason ↦ ?_
      dsimp only
      split
      · refine .same (same_field hevent rfl trivial) fun message ↦ ?_
        split
        · exact .same rfl fun _ ↦ .pure rfl
        · exact .pure rfl
      · exact .pure rfl

/-- A node's condition gives the same failure. -/
theorem same_nodeFailure (name : Value) {condition condition' : Value}
    (h : Shape.condition.Pair condition condition') :
    nodeFailure name condition = nodeFailure name condition' := by
  have htype : condition.field "type" = condition'.field "type" := same_field h rfl trivial
  have hstate : condition.field "status" = condition'.field "status" := same_field h rfl trivial
  have hreason : condition.field "reason" = condition'.field "reason" := same_field h rfl trivial
  have hmessage : condition.field "message" = condition'.field "message" :=
    same_field h rfl trivial
  rw [nodeFailure, nodeFailure, htype, hstate, hreason, hmessage]

theorem same_node (h : (Shape.object "Node").Pair object object') : node object = node object' := by
  refine Agree.eq ?_
  refine (agree_section h rfl).bind fun md md' hmd ↦ .same (same_label hmd rfl) fun name ↦ ?_
  refine (agree_section h rfl).bind fun status status' hstatus ↦ ?_
  refine (agree_each hstatus rfl).bind fun conditions conditions' hconditions ↦ ?_
  exact .of_eq (same_collectPure hconditions fun _ _ ↦ same_nodeFailure name)

/-- Whether a container states its resources is read alike. -/
theorem same_statesResources {container container' : Value}
    (h : Shape.container.Pair container container') :
    statesResources container = statesResources container' := by
  refine Agree.eq ?_
  refine (agree_section h rfl).bind fun resources resources' hresources ↦ ?_
  refine (agree_field hresources rfl).bind fun requests requests' hrequests ↦ ?_
  rw [← hrequests.counts_eq]
  split
  · exact .of_eq rfl
  · refine (agree_field hresources rfl).bind fun limits limits' hlimits ↦ ?_
    rw [hlimits.counts_eq]
    exact .of_eq rfl

/-- So is whether all containers do. -/
theorem same_allStateResources {containers containers' : List Value}
    (h : List.Forall₂ Shape.container.Pair containers containers') :
    allStateResources containers = allStateResources containers' := by
  induction h with
  | nil => rfl
  | cons hcontainer _ ih =>
    rw [allStateResources, allStateResources, same_statesResources hcontainer, ih]

/-- The containers of a scaled object are paired, wherever its kind keeps them. -/
theorem agree_containersOf {kind : String} (h : kind ∈ scaledKinds)
    (hne : kind ≠ "ReplicationController") {target target' : Value}
    (htarget : (Shape.object kind).Pair target target') :
    Agree (List.Forall₂ Shape.container.Pair) (containersOf target) (containersOf target') := by
  simp only [scaledKinds, List.mem_cons, List.not_mem_nil, or_false] at h
  rcases h with rfl | rfl | rfl | rfl
  on_goal 4 => exact absurd rfl hne
  all_goals
    refine (agree_section htarget rfl).bind fun spec spec' hspec ↦ ?_
    refine (agree_section hspec rfl).bind fun template template' htemplate ↦ ?_
    exact (agree_section htemplate rfl).bind fun pod pod' hpod ↦ agree_each hpod rfl

theorem inStep_autoscaler (h : (Shape.object "HorizontalPodAutoscaler").Pair object object') :
    InStep Query.Reordered Eq (autoscaler object) (autoscaler object') := by
  refine .lifting (agree_section h rfl) fun md md' hmd ↦ ?_
  refine .lifting (agree_section h rfl) fun spec spec' hspec ↦ ?_
  refine .same (same_label hmd rfl) fun scope ↦ ?_
  refine .lifting (agree_section hspec rfl) fun ref ref' href ↦ ?_
  refine .same (same_label href rfl) fun kind ↦ .same (same_label href rfl) fun name ↦ ?_
  split
  · exact .pure rfl
  · next known hknown =>
    have hmem : known ∈ scaledKinds := List.mem_of_find?_eq_some hknown
    split
    · exact .pure rfl
    · next hread =>
      have hne : known ≠ "ReplicationController" := by simpa using hread
      refine .bind (inStep_get known scope name) fun target target' htarget ↦ ?_
      cases htarget with
      | none => exact .andThen (.lift (.of_eq rfl)) fun _ ↦ .pure rfl
      | some htarget =>
        refine .lifting (agree_containersOf hmem hne htarget)
          fun containers containers' hcontainers ↦ ?_
        refine .same (same_allStateResources hcontainers) fun all ↦ ?_
        split
        · exact .pure rfl
        · exact .andThen (.lift (.of_eq rfl)) fun _ ↦ .pure rfl

/-- A budget's condition gives the same failures, with the labels in the order of their keys. -/
theorem same_budgetFailures {fields : List (String × Shape)}
    {spec spec' condition condition' : Value}
    (hspec : (record fields).Pair spec spec')
    (hfield : entryAt? "selector" fields = some labelSelector)
    (h : Shape.condition.Pair condition condition') :
    budgetFailures spec condition = budgetFailures spec' condition' := by
  refine Agree.eq ?_
  refine .same (same_field h rfl trivial) fun type ↦ ?_
  split
  · exact .of_eq rfl
  · refine .same (same_field h rfl trivial) fun state ↦ ?_
    split
    · exact .of_eq rfl
    · refine .same (same_label h rfl) fun reason ↦ ?_
      refine (agree_section hspec hfield).bind fun selector selector' hselector ↦ ?_
      refine (agree_labels hselector rfl).bind fun labels labels' hlabels ↦ ?_
      rw [← hlabels.counts_eq]
      split
      · exact .of_eq (same_labelFailures _ hlabels)
      · exact .same (same_label h rfl) fun message ↦ .of_eq rfl

theorem same_disruptionBudget (h : (Shape.object "PodDisruptionBudget").Pair object object') :
    disruptionBudget object = disruptionBudget object' := by
  refine Agree.eq ?_
  refine (agree_section h rfl).bind fun spec spec' hspec ↦ ?_
  refine (agree_section h rfl).bind fun status status' hstatus ↦ ?_
  refine (agree_each hstatus rfl).bind fun conditions conditions' hconditions ↦ ?_
  refine .same ?_ fun _ ↦ .of_eq rfl
  exact Agree.mapM_eq hconditions fun _ _ ↦ same_budgetFailures hspec rfl

/-! ### Network -/

theorem same_notReady {a a' : Value} (h : address.Pair a a') : notReady a = notReady a' := by
  refine Agree.eq ?_
  refine (agree_section h rfl).bind fun target target' htarget ↦ ?_
  refine .same (same_field htarget rfl trivial) fun name ↦ ?_
  split
  · exact .same (same_fieldOr htarget rfl trivial) fun kind ↦ .of_eq rfl
  · exact .of_eq (same_label h rfl)

/-- The addresses that are not ready are reported alike. -/
theorem same_endpointFailures {subsets subsets' : List Value}
    (h : List.Forall₂ endpointSubset.Pair subsets subsets') :
    endpointFailures subsets = endpointFailures subsets' := by
  have hwaiting : subsets.mapM notReadyIn = subsets'.mapM notReadyIn := by
    refine Agree.mapM_eq h fun subset subset' hsubset ↦ Agree.eq ?_
    refine (agree_each hsubset rfl).bind fun addresses addresses' haddresses ↦ ?_
    exact .of_eq (Agree.mapM_eq haddresses fun _ _ ↦ same_notReady)
  rw [endpointFailures, endpointFailures, hwaiting]

theorem inStep_service (h : (Shape.object "Service").Pair object object') :
    InStep Query.Reordered Eq (service object) (service object') := by
  refine .lifting (agree_section h rfl) fun md md' hmd ↦ ?_
  refine .lifting (agree_section h rfl) fun spec spec' hspec ↦ ?_
  refine .same (same_label hmd rfl) fun scope ↦ .same (same_label hmd rfl) fun name ↦ ?_
  refine .lifting (agree_labels hspec rfl) fun selector selector' hselector ↦ ?_
  rw [← hselector.counts_eq]
  split
  · exact .pure rfl
  · refine .bind (inStep_get "Endpoints" scope name) fun endpoints endpoints' hendpoints ↦ ?_
    have hpair : (Shape.object "Endpoints").Pair ((endpoints.getD .null).orElse (.map []))
        ((endpoints'.getD .null).orElse (.map [])) := by
      cases hendpoints with
      | none => exact pair_record_empty _
      | some hendpoints =>
        simp only [Option.getD_some, Value.orElse, ← hendpoints.counts_eq]
        split
        · exact hendpoints
        · exact pair_record_empty _
    refine .lifting (agree_fieldOr hpair rfl (pair_list_empty _)) fun subsets subsets' hsubsets ↦ ?_
    rw [← hsubsets.counts_eq]
    split
    · obtain ⟨items, items', rfl, rfl, hitems⟩ := pair_list_iff.mp hsubsets
      exact .lift (.of_eq (same_endpointFailures hitems))
    · exact .lift (.of_eq (same_labelFailures _ hselector))

/-- The class of an ingress is looked up alike. -/
theorem inStep_classFailures {md md' spec spec' : Value} {fields : List (String × Shape)}
    (hmd : Shape.metadata.Pair md md') (hspec : (record fields).Pair spec spec')
    (hfield : entryAt? "ingress_class_name" fields = some text) (scope name : Value) :
    InStep Query.Reordered Eq (classFailures md spec scope name)
      (classFailures md' spec' scope name) := by
  refine .same (same_field hspec hfield trivial) fun own ↦ ?_
  split
  · refine .andThen (inStep_isMissing _ _ _) fun missing ↦ ?_
    split
    · exact .pure rfl
    · exact .pure rfl
  · refine .lifting (agree_labels hmd rfl) fun annotations annotations' hannotations ↦ ?_
    refine .same (hannotations.same_entry _) fun annotation ↦ ?_
    split
    · exact .pure rfl
    · exact .andThen (.lift (.of_eq rfl)) fun _ ↦ .pure rfl

/-- Paired paths have the same service behind them. -/
theorem same_backend {path path' : Value} (h : ingressPath.Pair path path') :
    backend path = backend path' := by
  refine Agree.eq ?_
  refine (agree_section h rfl).bind fun backend backend' hbackend ↦ ?_
  refine (agree_section hbackend rfl).bind fun service service' hservice ↦ ?_
  exact .of_eq (same_label hservice rfl)

/-- The services behind paired paths are looked up alike. -/
theorem inStep_missingBackends (scope : Value) (seen : List Value) {paths paths' : List Value}
    (h : List.Forall₂ ingressPath.Pair paths paths') :
    InStep Query.Reordered Eq (missingBackends scope seen paths)
      (missingBackends scope seen paths') := by
  induction h generalizing seen with
  | nil => exact .pure rfl
  | @cons _ _ paths paths' hpath _ ih =>
    refine .same (same_backend hpath) fun name ↦ ?_
    split
    · refine .same rfl fun known ↦ ?_
      split
      · exact ih _
      · have hrest (found : List Failure) : InStep Query.Reordered Eq
            (missingBackends scope (name :: seen) paths >>= fun others ↦
              pure (found ++ others.1, others.2))
            (missingBackends scope (name :: seen) paths' >>= fun others ↦
              pure (found ++ others.1, others.2)) :=
          .andThen (ih _) fun _ ↦ .pure rfl
        refine .andThen (inStep_isMissing _ _ _) fun missing ↦ ?_
        split
        · exact .andThen (.lift (.of_eq rfl)) fun _ ↦ .andThen (.pure rfl) hrest
        · exact .andThen (.pure rfl) hrest
    · exact ih _

/-- The services behind paired rules are looked up alike. -/
theorem inStep_missingServices (scope : Value) (seen : List Value) {rules rules' : List Value}
    (h : List.Forall₂ ingressRule.Pair rules rules') :
    InStep Query.Reordered Eq (missingServices scope seen rules)
      (missingServices scope seen rules') := by
  induction h generalizing seen with
  | nil => exact .pure rfl
  | cons hrule _ ih =>
    refine .lifting (agree_section hrule rfl) fun http http' hhttp ↦ ?_
    refine .lifting (agree_each hhttp rfl) fun paths paths' hpaths ↦ ?_
    exact .andThen (inStep_missingBackends scope seen hpaths) fun found ↦
      .andThen (ih _) fun others ↦ .pure rfl

/-- The certificates of paired entries are looked up alike. -/
theorem inStep_missingCertificate (scope : Value) {entry entry' : Value}
    (h : certificate.Pair entry entry') :
    InStep Query.Reordered Eq (missingCertificate scope entry)
      (missingCertificate scope entry') := by
  refine .same (same_label h rfl) fun name ↦ ?_
  dsimp only
  split
  · refine .andThen (inStep_isMissing _ _ _) fun missing ↦ ?_
    split
    · exact .andThen (.lift (.of_eq rfl)) fun _ ↦ .pure rfl
    · exact .pure rfl
  · exact .pure rfl

theorem inStep_ingress (h : (Shape.object "Ingress").Pair object object') :
    InStep Query.Reordered Eq (ingress object) (ingress object') := by
  refine .lifting (agree_section h rfl) fun md md' hmd ↦ ?_
  refine .lifting (agree_section h rfl) fun spec spec' hspec ↦ ?_
  refine .same (same_label hmd rfl) fun scope ↦ .same (same_label hmd rfl) fun name ↦ ?_
  refine .andThen (inStep_classFailures hmd hspec rfl scope name) fun ofClass ↦ ?_
  refine .lifting (agree_each hspec rfl) fun rules rules' hrules ↦ ?_
  refine .andThen (inStep_missingServices scope [] hrules) fun ofServices ↦ ?_
  refine .lifting (agree_each hspec rfl) fun entries entries' hentries ↦ ?_
  refine .andThen (.collect hentries fun _ _ ↦ inStep_missingCertificate scope) fun _ ↦ .pure rfl

/-- The selector of a policy is written alike, so the same pods are listed. -/
theorem inStep_networkPolicy (h : (Shape.object "NetworkPolicy").Pair object object') :
    InStep Query.Reordered Eq (networkPolicy object) (networkPolicy object') := by
  refine .lifting (agree_section h rfl) fun md md' hmd ↦ ?_
  refine .lifting (agree_section h rfl) fun spec spec' hspec ↦ ?_
  refine .same (same_label hmd rfl) fun scope ↦ .same (same_label hmd rfl) fun name ↦ ?_
  refine .lifting (agree_section hspec rfl) fun selector selector' hselector ↦ ?_
  refine .lifting (agree_labels hselector rfl) fun labels labels' hlabels ↦ ?_
  rw [← hlabels.counts_eq]
  split
  · refine .lifting (agree_field hselector rfl) fun expressions expressions' hexpressions ↦ ?_
    rw [← hexpressions.counts_eq]
    split
    · exact .pure rfl
    · exact .andThen (.lift (.of_eq rfl)) fun _ ↦ .pure rfl
  · refine .same (same_selectorText hlabels) fun chosen ↦ ?_
    have hpods : InStep Query.Reordered (List.Forall₂ (Shape.object "Pod").Pair)
        (Scan.ask (.list "Pod" scope (.str chosen))) (Scan.ask (.list "Pod" scope (.str chosen))) :=
      @InStep.asking _ (.list "Pod" scope (.str chosen)) _ fun _ _ h ↦ h
    refine .bind hpods fun pods pods' hpods ↦ ?_
    cases hpods with
    | nil => exact .andThen (.lift (.of_eq rfl)) fun _ ↦ .pure rfl
    | cons _ _ => exact .pure rfl

/-! ### Logs -/

theorem inStep_podLogs (h : (Shape.object "Pod").Pair object object') :
    InStep Query.Reordered Eq (podLogs object) (podLogs object') := by
  refine .lifting (agree_section h rfl) fun md md' hmd ↦ ?_
  refine .same (same_label hmd rfl) fun scope ↦ .same (same_label hmd rfl) fun pod ↦ ?_
  refine .lifting (agree_section h rfl) fun spec spec' hspec ↦ ?_
  refine .lifting (agree_each hspec rfl) fun containers containers' hcontainers ↦ ?_
  refine .collect hcontainers fun container container' hcontainer ↦ ?_
  refine .same (same_label hcontainer rfl) fun name ↦ ?_
  have hlog : InStep Query.Reordered Eq (Scan.ask (.log pod scope name lastLines))
      (Scan.ask (.log pod scope name lastLines)) :=
    @InStep.asking _ (.log pod scope name lastLines) _ fun _ _ h ↦ .of_eq h
  refine .andThen hlog fun log ↦ ?_
  dsimp only
  split
  · exact .pure rfl
  · exact .andThen (.lift (.of_eq rfl)) fun _ ↦ .pure rfl

/-! ### Pods -/

namespace Pod

/-- The message of paired sources is the same failure. -/
theorem same_messageFailure {fields : List (String × Shape)} {source source' : Value}
    (h : (record fields).Pair source source') (hfield : entryAt? "message" fields = some text) :
    messageFailure source = messageFailure source' := by
  rw [messageFailure, messageFailure, same_field h hfield trivial]

/-- A condition reports an unschedulable pod alike. -/
theorem same_unschedulable {condition condition' : Value}
    (h : Shape.condition.Pair condition condition') :
    unschedulable condition = unschedulable condition' := by
  have htype : condition.field "type" = condition'.field "type" := same_field h rfl trivial
  have hreason : condition.field "reason" = condition'.field "reason" := same_field h rfl trivial
  rw [unschedulable, unschedulable, htype, hreason, same_messageFailure h rfl]

theorem inStep_creating (scope pod : Value) :
    InStep Query.Reordered Eq (creating Scan.latestEvent scope pod)
      (creating Scan.latestEvent scope pod) := by
  refine .bind (inStep_latestEvent scope pod) fun event event' hevent ↦ ?_
  cases hevent with
  | none => exact .pure rfl
  | some hevent =>
    refine .same (same_field hevent rfl trivial) fun reason ↦ .same rfl fun isError ↦ ?_
    split
    · exact .lifted (.of_eq (same_messageFailure hevent rfl))
    · exact .pure rfl

theorem inStep_unready (scope pod : Value) :
    InStep Query.Reordered Eq (unready Scan.latestEvent scope pod)
      (unready Scan.latestEvent scope pod) := by
  refine .bind (inStep_latestEvent scope pod) fun event event' hevent ↦ ?_
  cases hevent with
  | none => exact .pure rfl
  | some hevent =>
    refine .same (same_field hevent rfl trivial) fun reason ↦ ?_
    split
    · exact .lifted (.of_eq (same_messageFailure hevent rfl))
    · exact .pure rfl

/-- A waiting container gives the same failure. -/
theorem same_waitingFailure (pod reason : Value) {status status' waiting waiting' : Value}
    (hstatus : containerStatus.Pair status status')
    (hwaiting : (record [("reason", text), ("message", text)]).Pair waiting waiting') :
    waitingFailure pod status waiting reason = waitingFailure pod status' waiting' reason := by
  refine Agree.eq ?_
  refine (agree_section hstatus rfl).bind fun last last' hlast ↦ ?_
  refine (agree_field hlast rfl).bind fun ended ended' hended ↦ ?_
  rw [← hended.counts_eq]
  split
  · next hcrash =>
    have hpair := hended.of_counts (Bool.and_eq_true_iff.mp hcrash).2
    refine .same (same_label hpair rfl) fun why ↦ ?_
    exact .same (same_label hstatus rfl) fun container ↦ .of_eq rfl
  · refine .same rfl fun isError ↦ ?_
    split
    · exact .of_eq (same_messageFailure hwaiting rfl)
    · exact .of_eq rfl

theorem inStep_containerFailure (pod scope phase : Value) {status status' : Value}
    (h : containerStatus.Pair status status') :
    InStep Query.Reordered Eq (containerFailure Scan.latestEvent pod scope phase status)
      (containerFailure Scan.latestEvent pod scope phase status') := by
  refine .lifting (agree_section h rfl) fun state state' hstate ↦ ?_
  refine .lifting (agree_field hstate rfl) fun waiting waiting' hwaiting ↦ ?_
  rw [← hwaiting.counts_eq]
  split
  · next hcounts =>
    have hpair := hwaiting.of_counts hcounts
    refine .same (same_label hpair rfl) fun reason ↦ ?_
    split
    · exact inStep_creating scope pod
    · exact .lift (.of_eq (same_waitingFailure pod reason h hpair))
  · refine .same (same_field h rfl trivial) fun ready ↦ ?_
    split
    · exact inStep_unready scope pod
    · exact .pure rfl

theorem inStep_failures (h : (Shape.object "Pod").Pair object object') :
    InStep Query.Reordered Eq (failures Scan.latestEvent object)
      (failures Scan.latestEvent object') := by
  refine .lifting (agree_section h rfl) fun md md' hmd ↦ ?_
  refine .lifting (agree_section h rfl) fun status status' hstatus ↦ ?_
  refine .same (same_label hmd rfl) fun name ↦ .same (same_label hmd rfl) fun scope ↦ ?_
  refine .same (same_label hstatus rfl) fun phase ↦ ?_
  have hstep {statuses statuses' : List Value}
      (hpairs : List.Forall₂ containerStatus.Pair statuses statuses') :
      InStep Query.Reordered Eq
        (collect (containerFailure Scan.latestEvent name scope phase) statuses)
        (collect (containerFailure Scan.latestEvent name scope phase) statuses') :=
    .collect hpairs fun _ _ ↦ inStep_containerFailure name scope phase
  have hrest (scheduling : List Failure) : InStep Query.Reordered Eq (do
      let initial ← status.each "init_container_statuses"
      let started ← collect (containerFailure Scan.latestEvent name scope phase) initial
      let regular ← status.each "container_statuses"
      let running ← collect (containerFailure Scan.latestEvent name scope phase) regular
      return scheduling ++ started ++ running) (do
      let initial ← status'.each "init_container_statuses"
      let started ← collect (containerFailure Scan.latestEvent name scope phase) initial
      let regular ← status'.each "container_statuses"
      let running ← collect (containerFailure Scan.latestEvent name scope phase) regular
      return scheduling ++ started ++ running) :=
    .lifting (agree_each hstatus rfl) fun _ _ hinitial ↦ .andThen (hstep hinitial) fun _ ↦
      .lifting (agree_each hstatus rfl) fun _ _ hregular ↦ .andThen (hstep hregular) fun _ ↦
        .pure rfl
  dsimp only
  split
  · refine .lifting (agree_each hstatus rfl) fun conditions conditions' hconditions ↦ ?_
    refine .andThen (.lift (.of_eq ?_)) hrest
    exact same_collectPure hconditions fun _ _ ↦ same_unschedulable
  · exact .andThen (.pure rfl) hrest

end Pod

end Detect

namespace Check

/-- The detection of a built-in check goes in step on objects, of the kind that the check lists,
that are the same up to the order of the entries of maps. -/
theorem inStep_detect {c : Check} (hc : c ∈ builtin)
    (h : (Shape.object c.listed).Pair object object') :
    InStep Query.Reordered Eq (c.detect object) (c.detect object') := by
  simp only [builtin, core, additional, List.map_cons, List.map_nil, List.cons_append,
    List.nil_append, List.mem_cons, List.not_mem_nil, or_false] at hc
  rcases hc with rfl | rfl | rfl | rfl | rfl | rfl | rfl | rfl | rfl | rfl | rfl | rfl | rfl
  · exact Detect.Pod.inStep_failures h
  · exact .lift (.of_eq (Detect.same_deployment h))
  · exact .lift (.of_eq (Detect.same_replicaSet h))
  · exact Detect.inStep_storageClaim h
  · exact Detect.inStep_service h
  · exact Detect.inStep_ingress h
  · exact Detect.inStep_statefulSet h
  · exact .lift (.of_eq (Detect.same_cronJob h))
  · exact .lift (.of_eq (Detect.same_node h))
  · exact Detect.inStep_autoscaler h
  · exact .lift (.of_eq (Detect.same_disruptionBudget h))
  · exact Detect.inStep_networkPolicy h
  · exact Detect.inStep_podLogs h

end Check

end ClusterDiagnosis
