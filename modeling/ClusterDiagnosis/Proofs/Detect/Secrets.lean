import ClusterDiagnosis.Proofs.Detect.Plain
import ClusterDiagnosis.Proofs.Scan.Contract

/-!
# Secrets stand in their failures

The text of a failure and its secrets are written side by side. Each secret is some value that is
not empty and stands in the text, with the mask of that value (`Failure.Coherent`). There is one
lemma for each detection, on any object and whatever the cluster answers; `meets_detect_coherent`
is for all of them.
-/

set_option autoImplicit false
set_option relaxedAutoImplicit false

namespace ClusterDiagnosis

open Scan

/-! ### Texts within texts -/

/-- Whether a text stands somewhere in another one. -/
def Occurs (part whole : String) : Prop :=
  part.toList <:+: whole.toList

namespace Occurs

variable {part a b : String}

theorem refl : Occurs a a :=
  List.infix_refl _

theorem left (h : Occurs part a) : Occurs part (a ++ b) := by
  rw [Occurs, String.toList_append]
  exact h.trans (List.prefix_append _ _).isInfix

theorem right (h : Occurs part b) : Occurs part (a ++ b) := by
  rw [Occurs, String.toList_append]
  exact h.trans (List.suffix_append _ _).isInfix

end Occurs

/-! ### Failures -/

/-- A secret that is fit for a text: it says something, it stands in the text, and its mask is the
one of its value. -/
structure Secret.DeclaredIn (s : Secret) (text : String) : Prop where
  nonempty : s.plain ≠ ""
  occurs : Occurs s.plain text
  mask_eq : s.mask = maskOf s.plain

/-- A failure whose secrets are fit for its text. -/
def Failure.Coherent (f : Failure) : Prop :=
  ∀ s ∈ f.secrets, s.DeclaredIn f.text

namespace Detect

variable {object : Value}

/-- A failure without secrets is coherent. -/
theorem coherent_of_secrets_eq_nil {f : Failure} (h : f.secrets = []) : f.Coherent := by
  rw [Failure.Coherent, h]
  exact List.forall_mem_nil _

/-- Values that stand in a text are fit to be its secrets. -/
theorem gives_failure {t : String} {values : List Value} (h : ∀ v ∈ values, Occurs v.text t) :
    Gives Failure.Coherent (failure t values) := by
  intro f hf
  cases hsecrets : secretsOf values with
  | error e =>
    rw [failure, hsecrets] at hf
    cases hf
  | ok secrets =>
    rw [failure, hsecrets] at hf
    cases hf
    intro s hs
    obtain ⟨v, hv, hvs⟩ := exists_of_mem_mapM hsecrets s hs
    obtain ⟨hmem, hcounts⟩ := List.mem_filter.mp hv
    cases v with
    | str plain =>
      have hplain : plain ≠ "" := by simpa [Value.counts] using hcounts
      cases hvs
      exact ⟨hplain, h _ hmem, rfl⟩
    | _ => cases hvs

theorem gives_failure_one {t : String} {v : Value} (h : Occurs v.text t) :
    Gives Failure.Coherent (failure t [v]) :=
  gives_failure (List.forall_mem_singleton.mpr h)

theorem gives_failure_two {t : String} {v w : Value} (hv : Occurs v.text t) (hw : Occurs w.text t) :
    Gives Failure.Coherent (failure t [v, w]) :=
  gives_failure (List.forall_mem_cons.mpr ⟨hv, List.forall_mem_singleton.mpr hw⟩)

/-- A failure that is a value's text has no secrets. -/
theorem gives_ofValue (v : Value) : Gives Failure.Coherent (Failure.ofValue v) := by
  intro f hf
  cases v with
  | str s =>
    cases hf
    exact coherent_of_secrets_eq_nil rfl
  | _ => cases hf

/-- Failures that are all coherent. -/
def AllCoherent (fs : List Failure) : Prop :=
  ∀ f ∈ fs, f.Coherent

theorem allCoherent_nil : AllCoherent [] :=
  List.forall_mem_nil _

theorem allCoherent_singleton {f : Failure} (h : f.Coherent) : AllCoherent [f] :=
  List.forall_mem_singleton.mpr h

theorem allCoherent_append {fs gs : List Failure} (hf : AllCoherent fs) (hg : AllCoherent gs) :
    AllCoherent (fs ++ gs) :=
  List.forall_mem_append.mpr ⟨hf, hg⟩

/-- A failure that may be there, and is coherent if it is. -/
def MaybeCoherent (found : Option Failure) : Prop :=
  AllCoherent found.toList

/-- Failures that are coherent one by one are collected as coherent ones. -/
theorem gives_collectPure {step : Value → Except Fault (Option Failure)} {xs : List Value}
    (h : ∀ x, Gives MaybeCoherent (step x)) : Gives AllCoherent (collectPure step xs) := by
  induction xs with
  | nil => exact .ok allCoherent_nil
  | cons x xs ih =>
    exact (h x).bind fun _ hfound ↦ ih.bind fun _ hothers ↦ .ok (allCoherent_append hfound hothers)

/-- The same where the cluster is asked for each of them. -/
theorem meets_collect_coherent {step : Value → Scan (Option Failure)} {xs : List Value}
    (h : ∀ x, (step x).Meets .free MaybeCoherent) :
    (collect step xs).Meets .free AllCoherent := by
  induction xs with
  | nil => exact .pure allCoherent_nil
  | cons x xs ih =>
    exact .bind (h x) fun _ hfound ↦ .bind ih fun _ hothers ↦
      .pure (allCoherent_append hfound hothers)

/-- Labels stand in the failures that they are in. -/
theorem gives_labelFailures (intro : String) (labels : Value) :
    Gives AllCoherent (labelFailures intro labels) := by
  refine .after fun keys ↦ Gives.mapM fun key _ ↦ .after fun value ↦ ?_
  exact gives_failure_two (.left (.left (.right .refl))) (.right .refl)

/-! ### Workloads -/

/-- A deployment's failure names its namespace and itself. -/
theorem gives_deployment (object : Value) : Gives AllCoherent (deployment object) := by
  refine .after fun md ↦ .after fun spec ↦ .after fun status ↦ .after fun scope ↦ ?_
  refine .after fun name ↦ .after fun wanted ↦ ?_
  dsimp only
  split
  all_goals
    refine .after fun wanted ↦ .after fun current ↦ .after fun ready ↦ ?_
    have hscope : Occurs scope.text
        ("Deployment " ++ scope.text ++ "/" ++ name.text ++ " has " ++ toString wanted) :=
      .left (.left (.left (.left (.right .refl))))
    have hname : Occurs name.text
        ("Deployment " ++ scope.text ++ "/" ++ name.text ++ " has " ++ toString wanted) :=
      .left (.left (.right .refl))
    split
    · refine .after fun updated ↦ (gives_failure_two ?_ ?_).bind fun f hf ↦
        .ok (allCoherent_singleton hf)
      · exact .left (.left (.left (.left (.left hscope))))
      · exact .left (.left (.left (.left (.left hname))))
    · split
      · refine (gives_failure_two ?_ ?_).bind fun f hf ↦ .ok (allCoherent_singleton hf)
        · exact .left (.left (.left hscope))
        · exact .left (.left (.left hname))
      · exact .ok allCoherent_nil

theorem gives_replicaSet (object : Value) : Gives AllCoherent (replicaSet object) := by
  refine .after fun status ↦ .after fun replicas ↦ ?_
  split
  · exact .ok allCoherent_nil
  · refine .after fun conditions ↦ gives_collectPure fun condition ↦ .after fun type ↦ ?_
    dsimp only
    split
    · refine .after fun reason ↦ ?_
      split
      · refine .after fun message ↦ ?_
        split
        · exact (gives_ofValue message).bind fun f hf ↦ .ok (allCoherent_singleton hf)
        · exact .ok allCoherent_nil
      · exact .ok allCoherent_nil
    · exact .ok allCoherent_nil

/-- A missing storage class is named in the failure that hides it. -/
theorem meets_missingClasses_coherent (seen templates : List Value) :
    (missingClasses seen templates).Meets .free AllCoherent := by
  induction templates generalizing seen with
  | nil => exact .pure allCoherent_nil
  | cons template templates ih =>
    refine .after fun spec ↦ .after fun name ↦ ?_
    split
    · refine .after fun known ↦ ?_
      split
      · exact ih _
      · refine .after fun missing ↦ .bind (ih _) fun others hothers ↦ .pure ?_
        split
        · exact List.forall_mem_cons.mpr ⟨coherent_of_secrets_eq_nil rfl, hothers⟩
        · exact hothers
    · exact ih _

theorem meets_statefulSet_coherent (object : Value) :
    (statefulSet object).Meets .free AllCoherent := by
  refine .after fun md ↦ .after fun spec ↦ .after fun scope ↦ .after fun service ↦ ?_
  have hrest (first : List Failure) (hfirst : AllCoherent first) : (do
      let others ← missingClasses [] (← spec.each "volume_claim_templates")
      return first ++ others : Scan (List Failure)).Meets .free AllCoherent :=
    .after fun _ ↦ .bind (meets_missingClasses_coherent _ _) fun _ hothers ↦
      .pure (allCoherent_append hfirst hothers)
  dsimp only
  split
  · refine .after fun missing ↦ ?_
    split
    · refine .bind (.given (gives_failure_two ?_ ?_)) fun f hf ↦ ?_
      · exact .left (.left (.left (.right .refl)))
      · exact .left (.right .refl)
      · exact .bind (.pure (allCoherent_singleton hf)) hrest
    · exact .bind (.pure allCoherent_nil) hrest
  · exact .bind (.pure allCoherent_nil) hrest

theorem gives_cronJob (object : Value) : Gives AllCoherent (cronJob object) := by
  refine .after fun md ↦ .after fun spec ↦ .after fun name ↦ .after fun suspend ↦ ?_
  have hsubject : Occurs name.text ("CronJob " ++ name.text) := .right .refl
  dsimp only
  split
  · exact (gives_failure_one (.left hsubject)).bind fun f hf ↦ .ok (allCoherent_singleton hf)
  · refine .after fun schedule ↦ .after fun valid ↦ ?_
    split
    on_goal 1 => refine Gives.bind (.ok allCoherent_nil) fun timing htiming ↦ ?_
    on_goal 2 =>
      refine (gives_failure_one (.left (.left hsubject))).bind fun f hf ↦ ?_
      refine Gives.bind (.ok (allCoherent_singleton hf)) fun timing htiming ↦ ?_
    all_goals
      refine .after fun limit ↦ ?_
      split
      · exact .ok (allCoherent_append htiming allCoherent_nil)
      · refine .after fun seconds ↦ ?_
        split
        · refine (gives_failure_one (.left hsubject)).bind fun f hf ↦ ?_
          exact .ok (allCoherent_append htiming (allCoherent_singleton hf))
        · exact .ok (allCoherent_append htiming allCoherent_nil)

/-! ### Capacity -/

theorem meets_storageClaim_coherent (object : Value) :
    (storageClaim object).Meets .free AllCoherent := by
  refine .after fun md ↦ .after fun status ↦ .after fun phase ↦ ?_
  split
  · exact .pure allCoherent_nil
  · refine .after fun scope ↦ .after fun name ↦ .after fun event ↦ ?_
    split
    · exact .pure allCoherent_nil
    · refine .after fun reason ↦ ?_
      dsimp only
      split
      · refine .after fun message ↦ ?_
        split
        · exact .bind (.given (gives_ofValue message)) fun f hf ↦ .pure (allCoherent_singleton hf)
        · exact .pure allCoherent_nil
      · exact .pure allCoherent_nil

theorem gives_node (object : Value) : Gives AllCoherent (node object) := by
  refine .after fun md ↦ .after fun name ↦ .after fun status ↦ .after fun conditions ↦ ?_
  refine gives_collectPure fun condition ↦ .after fun type ↦ .after fun state ↦ ?_
  split
  · exact .ok allCoherent_nil
  · refine .after fun reason ↦ .after fun message ↦ (gives_failure_one ?_).bind fun f hf ↦
      .ok (allCoherent_singleton hf)
    exact .left (.left (.left (.left (.left (.left .refl)))))

theorem meets_autoscaler_coherent (object : Value) :
    (autoscaler object).Meets .free AllCoherent := by
  refine .after fun md ↦ .after fun spec ↦ .after fun scope ↦ .after fun ref ↦ ?_
  refine .after fun kind ↦ .after fun name ↦ ?_
  split
  · exact .pure (allCoherent_singleton (coherent_of_secrets_eq_nil rfl))
  · split
    · exact .pure allCoherent_nil
    · refine .after fun target ↦ ?_
      split
      · refine .bind (.given (gives_failure_one ?_)) fun f hf ↦ .pure (allCoherent_singleton hf)
        exact .left (.right .refl)
      · refine .after fun containers ↦ .after fun all ↦ ?_
        split
        · exact .pure allCoherent_nil
        · refine .bind (.given (gives_failure_two ?_ ?_)) fun f hf ↦
            .pure (allCoherent_singleton hf)
          · exact .left (.left (.left (.right .refl)))
          · exact .left (.right .refl)

theorem gives_disruptionBudget (object : Value) : Gives AllCoherent (disruptionBudget object) := by
  refine .after fun spec ↦ .after fun status ↦ .after fun conditions ↦ ?_
  refine (Gives.mapM (Q := AllCoherent) fun condition _ ↦ ?_).bind fun found hfound ↦ .ok ?_
  · refine .after fun type ↦ ?_
    split
    · exact .ok allCoherent_nil
    · refine .after fun state ↦ ?_
      split
      · exact .ok allCoherent_nil
      · refine .after fun reason ↦ .after fun selector ↦ .after fun labels ↦ ?_
        split
        · exact gives_labelFailures _ labels
        · refine .after fun message ↦ .ok ?_
          exact allCoherent_singleton (coherent_of_secrets_eq_nil rfl)
  · exact List.forall_mem_flatten.mpr hfound

/-! ### Network -/

/-- The failure of endpoints that are not ready has no secrets. -/
theorem gives_endpointFailures (subsets : List Value) :
    Gives AllCoherent (endpointFailures subsets) := by
  refine .after fun waiting ↦ ?_
  dsimp only
  split
  · exact .ok allCoherent_nil
  · exact .after fun names ↦ .ok (allCoherent_singleton (coherent_of_secrets_eq_nil rfl))

theorem meets_service_coherent (object : Value) : (service object).Meets .free AllCoherent := by
  refine .after fun md ↦ .after fun spec ↦ .after fun scope ↦ .after fun name ↦ ?_
  refine .after fun selector ↦ ?_
  split
  · exact .pure allCoherent_nil
  · refine .after fun endpoints ↦ .after fun subsets ↦ ?_
    split
    · exact .given (.after fun subsets ↦ gives_endpointFailures subsets)
    · exact .given (gives_labelFailures _ selector)

theorem meets_classFailures_coherent (md spec scope name : Value) :
    (classFailures md spec scope name).Meets .free AllCoherent := by
  refine .after fun own ↦ ?_
  split
  · refine .after fun missing ↦ ?_
    split
    · exact .pure (allCoherent_singleton (coherent_of_secrets_eq_nil rfl))
    · exact .pure allCoherent_nil
  · refine .after fun annotations ↦ .after fun annotation ↦ ?_
    split
    · exact .pure allCoherent_nil
    · refine .bind (.given (gives_failure_two ?_ ?_)) fun f hf ↦ .pure (allCoherent_singleton hf)
      · exact .left (.left (.left (.right .refl)))
      · exact .left (.right .refl)

/-- The services that are missing behind one rule are named in their failures. -/
theorem meets_missingBackends_coherent (scope : Value) (seen paths : List Value) :
    (missingBackends scope seen paths).Meets .free fun found ↦ AllCoherent found.1 := by
  induction paths generalizing seen with
  | nil => exact .pure allCoherent_nil
  | cons path paths ih =>
    refine .after fun name ↦ ?_
    split
    · refine .after fun known ↦ ?_
      split
      · exact ih _
      · have hrest (found : List Failure) (hfound : AllCoherent found) :
            (missingBackends scope (name :: seen) paths >>= fun others ↦
              pure (found ++ others.1, others.2)).Meets .free fun found ↦ AllCoherent found.1 :=
          .bind (ih _) fun _ hothers ↦ .pure (allCoherent_append hfound hothers)
        refine .after fun missing ↦ ?_
        split
        · refine .bind (.given (gives_failure_two ?_ ?_)) fun f hf ↦ ?_
          · exact .left (.left (.left (.right .refl)))
          · exact .left (.right .refl)
          · exact .bind (.pure (allCoherent_singleton hf)) hrest
        · exact .bind (.pure allCoherent_nil) hrest
    · exact ih _

theorem meets_missingServices_coherent (scope : Value) (seen rules : List Value) :
    (missingServices scope seen rules).Meets .free AllCoherent := by
  induction rules generalizing seen with
  | nil => exact .pure allCoherent_nil
  | cons rule rules ih =>
    refine .after fun http ↦ .after fun paths ↦ ?_
    exact .bind (meets_missingBackends_coherent _ _ _) fun found hfound ↦
      .bind (ih _) fun others hothers ↦ .pure (allCoherent_append hfound hothers)

theorem meets_missingCertificate_coherent (scope entry : Value) :
    (missingCertificate scope entry).Meets .free MaybeCoherent := by
  refine .after fun name ↦ ?_
  dsimp only
  split
  · refine .after fun missing ↦ ?_
    split
    · refine .bind (.given (gives_failure_two ?_ ?_)) fun f hf ↦ .pure (allCoherent_singleton hf)
      · exact .left (.left (.left (.right .refl)))
      · exact .left (.right .refl)
    · exact .pure allCoherent_nil
  · exact .pure allCoherent_nil

theorem meets_ingress_coherent (object : Value) : (ingress object).Meets .free AllCoherent := by
  refine .after fun md ↦ .after fun spec ↦ .after fun scope ↦ .after fun name ↦ ?_
  refine .bind (meets_classFailures_coherent _ _ _ _) fun ofClass hclass ↦ .after fun rules ↦ ?_
  refine .bind (meets_missingServices_coherent _ _ _) fun ofServices hservices ↦ ?_
  refine .after fun entries ↦ ?_
  refine .bind (meets_collect_coherent (meets_missingCertificate_coherent scope)) fun _ htls ↦ ?_
  exact .pure (allCoherent_append (allCoherent_append hclass hservices) htls)

theorem meets_networkPolicy_coherent (object : Value) :
    (networkPolicy object).Meets .free AllCoherent := by
  refine .after fun md ↦ .after fun spec ↦ .after fun scope ↦ .after fun name ↦ ?_
  refine .after fun selector ↦ .after fun labels ↦ ?_
  have hfailure (t : String) : ((do
      return [← Scan.lift (failure (t ++ name.text) [name])] : Scan (List Failure))).Meets .free
        AllCoherent :=
    .bind (.given (gives_failure_one (.right .refl))) fun f hf ↦ .pure (allCoherent_singleton hf)
  split
  · refine .after fun expressions ↦ ?_
    split
    · exact .pure allCoherent_nil
    · exact hfailure _
  · refine .after fun chosen ↦ .after fun pods ↦ ?_
    split
    · exact hfailure _
    · exact .pure allCoherent_nil

/-! ### Logs and pods -/

theorem meets_podLogs_coherent (object : Value) : (podLogs object).Meets .free AllCoherent := by
  refine .after fun md ↦ .after fun scope ↦ .after fun name ↦ .after fun spec ↦ ?_
  refine .after fun containers ↦ meets_collect_coherent fun container ↦ ?_
  refine .after fun container ↦ .after fun log ↦ ?_
  dsimp only
  split
  · exact .pure allCoherent_nil
  · refine .bind (.given (gives_failure_one ?_)) fun f hf ↦ .pure (allCoherent_singleton hf)
    exact .left (.left (.right .refl))

namespace Pod

/-- A failure that is a message of the cluster's has no secrets. -/
theorem gives_messageFailure (source : Value) : Gives MaybeCoherent (messageFailure source) := by
  refine .after fun message ↦ ?_
  split
  · exact (gives_ofValue message).bind fun f hf ↦ .ok (allCoherent_singleton hf)
  · exact .ok allCoherent_nil

theorem gives_unschedulable (condition : Value) :
    Gives MaybeCoherent (unschedulable condition) := by
  refine .after fun type ↦ ?_
  dsimp only
  split
  · refine .after fun reason ↦ ?_
    split
    · exact gives_messageFailure condition
    · exact .ok allCoherent_nil
  · exact .ok allCoherent_nil

theorem gives_waitingFailure (pod status waiting reason : Value) :
    Gives MaybeCoherent (waitingFailure pod status waiting reason) := by
  refine .after fun last ↦ .after fun ended ↦ ?_
  split
  · refine .after fun why ↦ .after fun container ↦ .ok ?_
    exact allCoherent_singleton (coherent_of_secrets_eq_nil rfl)
  · refine .after fun known ↦ ?_
    split
    · exact gives_messageFailure waiting
    · exact .ok allCoherent_nil

variable {latest : EventLookup}

theorem meets_creating_coherent (scope pod : Value) :
    (creating latest scope pod).Meets .free MaybeCoherent := by
  refine .after fun event ↦ ?_
  split
  · exact .pure allCoherent_nil
  · refine .after fun reason ↦ .after fun known ↦ ?_
    split
    · exact .given (gives_messageFailure _)
    · exact .pure allCoherent_nil

theorem meets_unready_coherent (scope pod : Value) :
    (unready latest scope pod).Meets .free MaybeCoherent := by
  refine .after fun event ↦ ?_
  split
  · exact .pure allCoherent_nil
  · refine .after fun reason ↦ ?_
    split
    · exact .given (gives_messageFailure _)
    · exact .pure allCoherent_nil

theorem meets_containerFailure_coherent (pod scope phase status : Value) :
    (containerFailure latest pod scope phase status).Meets .free MaybeCoherent := by
  refine .after fun state ↦ .after fun waiting ↦ ?_
  split
  · refine .after fun reason ↦ ?_
    split
    · exact meets_creating_coherent scope pod
    · exact .given (gives_waitingFailure pod status waiting reason)
  · refine .after fun ready ↦ ?_
    split
    · exact meets_unready_coherent scope pod
    · exact .pure allCoherent_nil

theorem meets_failures_coherent (pod : Value) :
    (failures latest pod).Meets .free AllCoherent := by
  refine .after fun md ↦ .after fun status ↦ .after fun name ↦ .after fun scope ↦ ?_
  refine .after fun phase ↦ ?_
  have hstep (status : Value) :
      (containerFailure latest name scope phase status).Meets .free MaybeCoherent :=
    meets_containerFailure_coherent name scope phase status
  have hrest (scheduling : List Failure) (hscheduling : AllCoherent scheduling) : (do
      let initial ← status.each "init_container_statuses"
      let started ← collect (containerFailure latest name scope phase) initial
      let regular ← status.each "container_statuses"
      let running ← collect (containerFailure latest name scope phase) regular
      return scheduling ++ started ++ running : Scan (List Failure)).Meets .free AllCoherent :=
    .after fun _ ↦ .bind (meets_collect_coherent hstep) fun _ hstarted ↦
      .after fun _ ↦ .bind (meets_collect_coherent hstep) fun _ hrunning ↦
        .pure (allCoherent_append (allCoherent_append hscheduling hstarted) hrunning)
  dsimp only
  split
  · exact .after fun _ ↦ .bind (.given (gives_collectPure gives_unschedulable)) hrest
  · exact .bind (.pure allCoherent_nil) hrest

end Pod

end Detect

namespace Check

/-- The failures that a built-in check detects are coherent. -/
theorem meets_detect_coherent {c : Check} (hc : c ∈ builtin) (object : Value) :
    (c.detect object).Meets .free Detect.AllCoherent := by
  simp only [builtin, core, additional, List.map_cons, List.map_nil, List.cons_append,
    List.nil_append, List.mem_cons, List.not_mem_nil, or_false] at hc
  rcases hc with rfl | rfl | rfl | rfl | rfl | rfl | rfl | rfl | rfl | rfl | rfl | rfl | rfl
  · exact Detect.Pod.meets_failures_coherent object
  · exact .given (Detect.gives_deployment object)
  · exact .given (Detect.gives_replicaSet object)
  · exact Detect.meets_storageClaim_coherent object
  · exact Detect.meets_service_coherent object
  · exact Detect.meets_ingress_coherent object
  · exact Detect.meets_statefulSet_coherent object
  · exact .given (Detect.gives_cronJob object)
  · exact .given (Detect.gives_node object)
  · exact Detect.meets_autoscaler_coherent object
  · exact .given (Detect.gives_disruptionBudget object)
  · exact Detect.meets_networkPolicy_coherent object
  · exact Detect.meets_podLogs_coherent object

end Check

end ClusterDiagnosis
