import ClusterDiagnosis.Proofs.Cluster.Contract
import ClusterDiagnosis.Proofs.Detect.Plain

/-!
# Detections keep to the contract of a cluster

On an object of the declared shape each detection runs through: every value that it reads is there
or has a substitute, every step that it takes is possible for a value of that shape, and it asks for
supported kinds only. There is one lemma for each detection, from one for each of its parts;
`meets_detect` is for all of them.
-/

set_option autoImplicit false
set_option relaxedAutoImplicit false

namespace ClusterDiagnosis

open Scan Shape

variable {object : Value}

namespace Detect

/-! ### Steps that all detections share -/

/-- A failure whose secrets are texts can be made. -/
theorem yields_failure (t : String) {secrets : List Value}
    (h : ∀ v ∈ secrets, text.fits v = true) : Yields (fun _ ↦ True) (failure t secrets) := by
  have hsecrets : Yields (fun ys ↦ ∀ y ∈ ys, True) (secretsOf secrets) := by
    refine Yields.mapM fun v hv ↦ ?_
    obtain ⟨s, rfl⟩ := fits_text_iff.mp (h v (List.mem_filter.mp hv).1)
    exact .ok trivial
  exact hsecrets.map fun _ _ ↦ trivial

/-- So can one of a message that is there. -/
theorem yields_ofValue {message : Value} (h : text.Optional message)
    (hcounts : message.counts = true) : Yields (fun _ ↦ True) (Failure.ofValue message) := by
  obtain ⟨s, rfl⟩ := fits_text_iff.mp (h.of_counts hcounts)
  exact .ok trivial

/-- Failures that can be made one by one can be collected. -/
theorem yields_collectPure {step : Value → Except Fault (Option Failure)} {xs : List Value}
    (h : ∀ x ∈ xs, Yields (fun _ ↦ True) (step x)) :
    Yields (fun _ ↦ True) (collectPure step xs) := by
  induction xs with
  | nil => exact .ok trivial
  | cons x xs ih =>
    exact (h x List.mem_cons_self).bind fun _ _ ↦
      (ih fun x hx ↦ h x (List.mem_cons_of_mem _ hx)).bind fun _ _ ↦ .ok trivial

/-- The same where the cluster is asked for each of them. -/
theorem meets_collect {step : Value → Scan (Option Failure)} {xs : List Value}
    (h : ∀ x ∈ xs, (step x).Meets .cluster fun _ ↦ True) :
    (collect step xs).Meets .cluster fun _ ↦ True := by
  induction xs with
  | nil => exact .pure trivial
  | cons x xs ih =>
    exact .bind (h x List.mem_cons_self) fun _ _ ↦
      .bind (ih fun x hx ↦ h x (List.mem_cons_of_mem _ hx)) fun _ _ ↦ .pure trivial

/-- A lookup of a supported kind gives an object of its shape or none. -/
theorem meets_get {kind : String} (hkind : Resource.isKind kind = true) (scope name : Value) :
    (Scan.ask (.get kind scope name)).Meets .cluster fun target : Option Value ↦
      ∀ v ∈ target, (Shape.object kind).fits v = true :=
  .asking hkind (fun _ h ↦ h) fun _ h ↦ .inl h

theorem meets_isMissing {kind : String} (hkind : Resource.isKind kind = true)
    (scope name : Value) : (isMissing kind scope name).Meets .cluster fun _ ↦ True :=
  .bind (meets_get hkind scope name) fun _ _ ↦ .pure trivial

/-- The latest event has the declared shape. -/
theorem meets_latestEvent (scope name : Value) :
    (Scan.latestEvent scope name).Meets .cluster fun event : Option Value ↦
      ∀ v ∈ event, Shape.event.fits v = true := by
  refine .bind .time fun limit _ ↦ ⟨trivial, fun r hr ↦ ?_⟩
  unfold firstOf
  split
  · intro v hv
    cases hv
  · intro v hv
    exact hr v (List.mem_of_mem_head? hv)
  · split
    · next hends => exact .inr hends
    · intro v hv
      cases hv

/-- A key of a table has an entry. -/
theorem exists_entryAt? {key : String} {entries : List (String × Value)}
    (h : key ∈ entries.map Prod.fst) : ∃ v, entryAt? key entries = some v := by
  induction entries with
  | nil => cases h
  | cons e entries ih =>
    rw [entryAt?]
    split
    · exact ⟨e.2, rfl⟩
    · next hne => exact ih ((List.mem_cons.mp h).resolve_left (Ne.symm hne))

/-- The keys of labels are texts, and each has a value. -/
theorem yields_sortedKeys {labels : Value} (h : Shape.labels.fits labels = true) :
    Yields (fun keys ↦ ∀ key ∈ keys,
      text.fits key = true ∧ Yields (fun _ ↦ True) (labels.item key)) labels.sortedKeys := by
  obtain ⟨entries, rfl, -⟩ := fits_labels_iff.mp h
  refine .ok fun key hkey ↦ ?_
  obtain ⟨k, hk, rfl⟩ := List.mem_map.mp hkey
  obtain ⟨v, hv⟩ := exists_entryAt? (List.mem_mergeSort.mp hk)
  refine ⟨rfl, v, ?_, trivial⟩
  rw [Value.item, hv]

/-- Well-shaped labels can be written out one by one. -/
theorem yields_labelFailures (intro : String) {labels : Value}
    (h : Shape.labels.fits labels = true) :
    Yields (fun _ ↦ True) (labelFailures intro labels) := by
  refine (yields_sortedKeys h).bind fun keys hkeys ↦ ?_
  have hmap : Yields (fun ys ↦ ∀ y ∈ ys, True) (keys.mapM fun key ↦ do
      let value ← labels.item key
      failure (intro ++ key.text ++ "=" ++ value.text) [key, .str value.text]) := by
    refine Yields.mapM fun key hkey ↦ (hkeys key hkey).2.bind fun value _ ↦ ?_
    exact yields_failure _ (by simp [(hkeys key hkey).1, fits])
  exact hmap.mono fun _ _ ↦ trivial

/-- Well-shaped labels can be written as a selector. -/
theorem yields_selectorText {labels : Value} (h : Shape.labels.fits labels = true) :
    Yields (fun _ ↦ True) (selectorText labels) := by
  refine (yields_sortedKeys h).bind fun keys hkeys ↦ ?_
  refine (Yields.mapM (Q := fun _ ↦ True) fun key hkey ↦ ?_).bind fun parts _ ↦ .ok trivial
  exact (hkeys key hkey).2.bind fun _ _ ↦ .ok trivial

theorem yields_field_of_labels {annotations : Value} (h : Shape.labels.fits annotations = true)
    (key : String) : Yields (fun _ ↦ True) (annotations.field key) := by
  obtain ⟨entries, rfl, -⟩ := fits_labels_iff.mp h
  exact .ok trivial

/-! ### Workloads -/

variable {status : Value}

/-- A declared number of replicas can be read. -/
theorem yields_replicaCount {fields : List (String × Shape)} {key : String}
    (h : (record fields).fits status = true) (hkey : entryAt? key fields = some whole) :
    Yields (fun _ ↦ True) (replicaCount status key) := by
  refine (yields_fieldOr h hkey rfl).bind fun v hv ↦ ?_
  obtain ⟨n, rfl⟩ := fits_whole_iff.mp hv
  exact .ok trivial

/-- A well-shaped deployment can be judged; a number of replicas that is absent is taken to be
one. -/
theorem yields_deployment (h : (Shape.object "Deployment").fits object = true) :
    Yields (fun _ ↦ True) (deployment object) := by
  refine (yields_section h rfl).bind fun md hmd ↦ (yields_section h rfl).bind fun spec hspec ↦ ?_
  refine (yields_section h rfl).bind fun status hstatus ↦ ?_
  refine (yields_label hmd rfl).bind fun scope hscope ↦ ?_
  refine (yields_label hmd rfl).bind fun name hname ↦ ?_
  refine (yields_field hspec rfl).bind fun wanted hwanted ↦ ?_
  have hfailure (t : String) : Yields (fun _ ↦ True) (failure t [scope, name]) :=
    yields_failure t (by simp [hscope, hname])
  rcases hwanted.imp_right fits_whole_iff.mp with rfl | ⟨n, rfl⟩
  all_goals
    refine .ok_bind ?_
    refine (yields_replicaCount hstatus rfl).bind fun current _ ↦ ?_
    refine (yields_replicaCount hstatus rfl).bind fun ready _ ↦ ?_
    dsimp only
    split
    · refine (yields_replicaCount hstatus rfl).bind fun updated _ ↦ ?_
      exact (hfailure _).bind fun _ _ ↦ .ok trivial
    · split
      · exact (hfailure _).bind fun _ _ ↦ .ok trivial
      · exact .ok trivial

theorem yields_replicaSet (h : (Shape.object "ReplicaSet").fits object = true) :
    Yields (fun _ ↦ True) (replicaSet object) := by
  refine (yields_section h rfl).bind fun status hstatus ↦ ?_
  refine (yields_replicaCount hstatus rfl).bind fun replicas _ ↦ ?_
  split
  · exact .ok trivial
  · refine (yields_each hstatus rfl).bind fun conditions hconditions ↦ ?_
    refine yields_collectPure fun condition hcondition ↦ ?_
    have h := hconditions condition hcondition
    refine (yields_field h rfl).bind fun type _ ↦ ?_
    dsimp only
    split
    · refine (yields_field h rfl).bind fun reason _ ↦ ?_
      split
      · refine (yields_field h rfl).bind fun message hmessage ↦ ?_
        split
        · next hcounts => exact (yields_ofValue hmessage hcounts).bind fun _ _ ↦ .ok trivial
        · exact .ok trivial
      · exact .ok trivial
    · exact .ok trivial

/-- Names that were looked up are texts. -/
theorem yields_isAmong {name : Value} (h : text.fits name = true) (seen : List Value) :
    Yields (fun _ ↦ True) (name.isAmong seen) := by
  obtain ⟨t, rfl⟩ := fits_text_iff.mp h
  exact .ok trivial

/-- Going through the storage classes of well-shaped templates fails only as the cluster does. -/
theorem meets_missingClasses (seen : List Value) {templates : List Value}
    (h : ∀ v ∈ templates, claimTemplate.fits v = true) :
    (missingClasses seen templates).Meets .cluster fun _ ↦ True := by
  induction templates generalizing seen with
  | nil => exact .pure trivial
  | cons template templates ih =>
    obtain ⟨htemplate, hrest⟩ := List.forall_mem_cons.mp h
    refine .lifting (yields_section htemplate rfl) fun spec hspec ↦ ?_
    refine .lifting (yields_label hspec rfl) fun name hname ↦ ?_
    split
    · refine .lifting (yields_isAmong hname seen) fun known _ ↦ ?_
      split
      · exact ih _ hrest
      · exact .bind (meets_isMissing rfl _ _) fun _ _ ↦ .bind (ih _ hrest) fun _ _ ↦ .pure trivial
    · exact ih _ hrest

theorem meets_statefulSet (h : (Shape.object "StatefulSet").fits object = true) :
    (statefulSet object).Meets .cluster fun _ ↦ True := by
  refine .lifting (yields_section h rfl) fun md hmd ↦ ?_
  refine .lifting (yields_section h rfl) fun spec hspec ↦ ?_
  refine .lifting (yields_label hmd rfl) fun scope hscope ↦ ?_
  refine .lifting (yields_label hspec rfl) fun service hservice ↦ ?_
  have hrest (first : List Failure) (_ : True) : (do
      let others ← missingClasses [] (← spec.each "volume_claim_templates")
      return first ++ others : Scan (List Failure)).Meets .cluster fun _ ↦ True :=
    .lifting (yields_each hspec rfl) fun _ htemplates ↦
      .bind (meets_missingClasses [] htemplates) fun _ _ ↦ .pure trivial
  dsimp only
  split
  · refine .bind (meets_isMissing rfl _ _) fun missing _ ↦ ?_
    split
    · refine .bind (.lift (yields_failure _ (by simp [hscope, hservice]))) fun _ _ ↦ ?_
      exact .bind (.pure trivial) hrest
    · exact .bind (.pure trivial) hrest
  · exact .bind (.pure trivial) hrest

/-- A schedule that is a text can be judged. -/
theorem yields_isScheduleValue {schedule : Value} (h : text.fits schedule = true) :
    Yields (fun _ ↦ True) (isScheduleValue schedule) := by
  obtain ⟨t, rfl⟩ := fits_text_iff.mp h
  unfold isScheduleValue Value.orElse
  split
  · exact .ok trivial
  · next hother => split at hother <;> exact absurd rfl (hother _)

theorem yields_cronJob (h : (Shape.object "CronJob").fits object = true) :
    Yields (fun _ ↦ True) (cronJob object) := by
  refine (yields_section h rfl).bind fun md hmd ↦ (yields_section h rfl).bind fun spec hspec ↦ ?_
  refine (yields_label hmd rfl).bind fun name hname ↦ ?_
  refine (yields_field hspec rfl).bind fun suspend _ ↦ ?_
  have hfailure (t : String) : Yields (fun _ ↦ True) (failure t [name]) :=
    yields_failure t (by simp [hname])
  dsimp only
  split
  · exact (hfailure _).bind fun _ _ ↦ .ok trivial
  · refine (yields_label hspec rfl).bind fun schedule hschedule ↦ ?_
    refine (yields_isScheduleValue hschedule).bind fun valid _ ↦ ?_
    split
    on_goal 2 => refine (hfailure _).bind fun timing _ ↦ ?_
    all_goals
      refine .ok_bind ?_
      refine (yields_field hspec rfl).bind fun limit hlimit ↦ ?_
      rcases hlimit.imp_right fits_whole_iff.mp with rfl | ⟨n, rfl⟩
      · exact .ok_bind (.ok trivial)
      · refine .ok_bind ?_
        split
        · exact (hfailure _).bind fun _ _ ↦ .ok_bind (.ok trivial)
        · exact .ok_bind (.ok trivial)

/-! ### Capacity -/

theorem meets_storageClaim (h : (Shape.object "PersistentVolumeClaim").fits object = true) :
    (storageClaim object).Meets .cluster fun _ ↦ True := by
  refine .lifting (yields_section h rfl) fun md hmd ↦ ?_
  refine .lifting (yields_section h rfl) fun status hstatus ↦ ?_
  refine .lifting (yields_field hstatus rfl) fun phase _ ↦ ?_
  split
  · exact .pure trivial
  · refine .lifting (yields_label hmd rfl) fun scope _ ↦ ?_
    refine .lifting (yields_label hmd rfl) fun name _ ↦ ?_
    refine .bind (meets_latestEvent scope name) fun event hevent ↦ ?_
    split
    · exact .pure trivial
    · next e =>
      have he := hevent e rfl
      refine .lifting (yields_field he rfl) fun reason _ ↦ ?_
      dsimp only
      split
      · refine .lifting (yields_field he rfl) fun message hmessage ↦ ?_
        split
        · next hcounts =>
          exact .lifting (yields_ofValue hmessage hcounts) fun _ _ ↦ .pure trivial
        · exact .pure trivial
      · exact .pure trivial

theorem yields_node (h : (Shape.object "Node").fits object = true) :
    Yields (fun _ ↦ True) (node object) := by
  refine (yields_section h rfl).bind fun md hmd ↦ (yields_label hmd rfl).bind fun name hname ↦ ?_
  refine (yields_section h rfl).bind fun status hstatus ↦ ?_
  refine (yields_each hstatus rfl).bind fun conditions hconditions ↦ ?_
  refine yields_collectPure fun condition hcondition ↦ ?_
  have hfits := hconditions condition hcondition
  refine (yields_field hfits rfl).bind fun type _ ↦ (yields_field hfits rfl).bind fun state _ ↦ ?_
  split
  · exact .ok trivial
  · refine (yields_field hfits rfl).bind fun reason _ ↦ ?_
    refine (yields_field hfits rfl).bind fun message _ ↦ ?_
    exact (yields_failure _ (by simp [hname])).bind fun _ _ ↦ .ok trivial

/-- Whether well-shaped containers state their resources can be judged. -/
theorem yields_allStateResources {containers : List Value}
    (h : ∀ v ∈ containers, Shape.container.fits v = true) :
    Yields (fun _ ↦ True) (allStateResources containers) := by
  induction containers with
  | nil => exact .ok trivial
  | cons c cs ih =>
    obtain ⟨hc, hcs⟩ := List.forall_mem_cons.mp h
    have hstates : Yields (fun _ ↦ True) (statesResources c) := by
      refine (yields_section hc rfl).bind fun resources hresources ↦ ?_
      refine (yields_field hresources rfl).bind fun requests _ ↦ ?_
      split
      · exact .ok trivial
      · exact (yields_field hresources rfl).bind fun limits _ ↦ .ok trivial
    refine hstates.bind fun states _ ↦ ?_
    split
    · exact ih hcs
    · exact .ok trivial

/-- The kinds that can be scaled can be read, but for one. -/
theorem isKind_of_scaled {kind : String} (h : kind ∈ scaledKinds)
    (hne : kind ≠ "ReplicationController") : Resource.isKind kind = true := by
  simp only [scaledKinds, List.mem_cons, List.not_mem_nil, or_false] at h
  rcases h with rfl | rfl | rfl | rfl
  · rfl
  · rfl
  · rfl
  · exact absurd rfl hne

/-- What can be scaled and read has containers of the declared shape. -/
theorem yields_containersOf {kind : String} (h : kind ∈ scaledKinds)
    (hne : kind ≠ "ReplicationController") {target : Value}
    (htarget : (Shape.object kind).fits target = true) :
    Yields (fun containers ↦ ∀ v ∈ containers, Shape.container.fits v = true)
      (containersOf target) := by
  simp only [scaledKinds, List.mem_cons, List.not_mem_nil, or_false] at h
  rcases h with rfl | rfl | rfl | rfl
  on_goal 4 => exact absurd rfl hne
  all_goals
    refine (yields_section htarget rfl).bind fun spec hspec ↦ ?_
    refine (yields_section hspec rfl).bind fun template htemplate ↦ ?_
    exact (yields_section htemplate rfl).bind fun pod hpod ↦ yields_each hpod rfl

theorem meets_autoscaler (h : (Shape.object "HorizontalPodAutoscaler").fits object = true) :
    (autoscaler object).Meets .cluster fun _ ↦ True := by
  refine .lifting (yields_section h rfl) fun md hmd ↦ ?_
  refine .lifting (yields_section h rfl) fun spec hspec ↦ ?_
  refine .lifting (yields_label hmd rfl) fun scope hscope ↦ ?_
  refine .lifting (yields_section hspec rfl) fun ref href ↦ ?_
  refine .lifting (yields_label href rfl) fun kind _ ↦ ?_
  refine .lifting (yields_label href rfl) fun name hname ↦ ?_
  split
  · exact .pure trivial
  · next known hknown =>
    have hmem : known ∈ scaledKinds := List.mem_of_find?_eq_some hknown
    split
    · exact .pure trivial
    · next hread =>
      have hne : known ≠ "ReplicationController" := by simpa using hread
      refine .bind (meets_get (isKind_of_scaled hmem hne) scope name) fun target htarget ↦ ?_
      split
      · exact .bind (.lift (yields_failure _ (by simp [hname]))) fun _ _ ↦ .pure trivial
      · next target =>
        refine .lifting (yields_containersOf hmem hne (htarget target rfl))
          fun containers hcontainers ↦ ?_
        refine .lifting (yields_allStateResources hcontainers) fun all _ ↦ ?_
        split
        · exact .pure trivial
        · exact .bind (.lift (yields_failure _ (by simp [hscope, hname]))) fun _ _ ↦ .pure trivial

theorem yields_disruptionBudget (h : (Shape.object "PodDisruptionBudget").fits object = true) :
    Yields (fun _ ↦ True) (disruptionBudget object) := by
  refine (yields_section h rfl).bind fun spec hspec ↦ ?_
  refine (yields_section h rfl).bind fun status hstatus ↦ ?_
  refine (yields_each hstatus rfl).bind fun conditions hconditions ↦ ?_
  refine (Yields.mapM (Q := fun _ ↦ True) fun condition hcondition ↦ ?_).bind fun _ _ ↦ .ok trivial
  have hfits := hconditions condition hcondition
  refine (yields_field hfits rfl).bind fun type _ ↦ ?_
  split
  · exact .ok trivial
  · refine (yields_field hfits rfl).bind fun state _ ↦ ?_
    split
    · exact .ok trivial
    · refine (yields_label hfits rfl).bind fun reason _ ↦ ?_
      refine (yields_section hspec rfl).bind fun selector hselector ↦ ?_
      refine (yields_labels hselector rfl).bind fun labels hlabels ↦ ?_
      split
      · exact yields_labelFailures _ hlabels
      · exact (yields_label hfits rfl).bind fun message _ ↦ .ok trivial

/-! ### Network -/

/-- Well-shaped subsets of endpoints can be gone through. -/
theorem yields_endpointFailures {subsets : List Value}
    (h : ∀ v ∈ subsets, endpointSubset.fits v = true) :
    Yields (fun _ ↦ True) (endpointFailures subsets) := by
  have hnotReady {a : Value} (ha : address.fits a = true) :
      Yields (fun v ↦ text.fits v = true) (notReady a) := by
    refine (yields_section ha rfl).bind fun target htarget ↦ ?_
    refine (yields_field htarget rfl).bind fun name _ ↦ ?_
    split
    · exact (yields_fieldOr htarget rfl rfl).bind fun _ _ ↦ .ok rfl
    · exact yields_label ha rfl
  have hwaiting : Yields (fun vss ↦ ∀ vs ∈ vss, ∀ v ∈ vs, text.fits v = true)
      (subsets.mapM notReadyIn) := by
    refine Yields.mapM fun subset hsubset ↦ ?_
    refine (yields_each (h subset hsubset) rfl).bind fun addresses haddresses ↦ ?_
    exact Yields.mapM fun a ha ↦ hnotReady (haddresses a ha)
  refine hwaiting.bind fun waiting hwaiting ↦ ?_
  dsimp only
  split
  · exact .ok trivial
  · refine (Yields.mapM (Q := fun _ ↦ True) fun v hv ↦ ?_).bind fun _ _ ↦ .ok trivial
    obtain ⟨vs, hvs, hv⟩ := List.mem_flatten.mp hv
    obtain ⟨t, rfl⟩ := fits_text_iff.mp (hwaiting vs hvs v hv)
    exact .ok trivial

theorem meets_service (h : (Shape.object "Service").fits object = true) :
    (service object).Meets .cluster fun _ ↦ True := by
  refine .lifting (yields_section h rfl) fun md hmd ↦ ?_
  refine .lifting (yields_section h rfl) fun spec hspec ↦ ?_
  refine .lifting (yields_label hmd rfl) fun scope _ ↦ ?_
  refine .lifting (yields_label hmd rfl) fun name _ ↦ ?_
  refine .lifting (yields_labels hspec rfl) fun selector hselector ↦ ?_
  split
  · exact .pure trivial
  · have hkind : Resource.isKind "Endpoints" = true := rfl
    refine .bind (meets_get hkind scope name) fun endpoints hendpoints ↦ ?_
    have hfits : (Shape.object "Endpoints").fits
        ((endpoints.getD .null).orElse (.map [])) = true := by
      cases endpoints with
      | none => exact fits_record_empty _
      | some v =>
        unfold Value.orElse
        split
        · exact hendpoints v rfl
        · exact fits_record_empty _
    refine .lifting (yields_fieldOr hfits rfl rfl) fun subsets hsubsets ↦ ?_
    split
    · obtain ⟨items, rfl, hitems⟩ := fits_list_iff.mp hsubsets
      exact .lift ((Yields.ok hitems).bind fun items hitems ↦ yields_endpointFailures hitems)
    · exact .lift (yields_labelFailures _ hselector)

/-- Looking up the class of a well-shaped ingress fails only as the cluster does. -/
theorem meets_classFailures {md spec scope name : Value} {fields : List (String × Shape)}
    (hmd : Shape.metadata.fits md = true) (hspec : (record fields).fits spec = true)
    (hfield : entryAt? "ingress_class_name" fields = some text) (hscope : text.fits scope = true)
    (hname : text.fits name = true) :
    (classFailures md spec scope name).Meets .cluster fun _ ↦ True := by
  refine .lifting (yields_field hspec hfield) fun own _ ↦ ?_
  split
  · refine .bind (meets_isMissing rfl _ _) fun missing _ ↦ ?_
    split
    · exact .pure trivial
    · exact .pure trivial
  · refine .lifting (yields_labels hmd rfl) fun annotations hannotations ↦ ?_
    refine .lifting (yields_field_of_labels hannotations _) fun annotation _ ↦ ?_
    split
    · exact .pure trivial
    · exact .bind (.lift (yields_failure _ (by simp [hscope, hname]))) fun _ _ ↦ .pure trivial

/-- The service behind a well-shaped path has a text as its name. -/
theorem yields_backend {path : Value} (h : ingressPath.fits path = true) :
    Yields (fun name ↦ text.fits name = true) (backend path) :=
  (yields_section h rfl).bind fun _ hbackend ↦ (yields_section hbackend rfl).bind fun _ hservice ↦
    yields_label hservice rfl

theorem meets_missingBackends {scope : Value} (hscope : text.fits scope = true)
    (seen : List Value) {paths : List Value} (h : ∀ v ∈ paths, ingressPath.fits v = true) :
    (missingBackends scope seen paths).Meets .cluster fun _ ↦ True := by
  induction paths generalizing seen with
  | nil => exact .pure trivial
  | cons path paths ih =>
    obtain ⟨hpath, hpaths⟩ := List.forall_mem_cons.mp h
    refine .lifting (yields_backend hpath) fun name hname ↦ ?_
    split
    · refine .lifting (yields_isAmong hname seen) fun known _ ↦ ?_
      split
      · exact ih _ hpaths
      · have hrest (found : List Failure) (_ : True) :
            (missingBackends scope (name :: seen) paths >>= fun others ↦
              pure (found ++ others.1, others.2)).Meets .cluster fun _ ↦ True :=
          .bind (ih _ hpaths) fun _ _ ↦ .pure trivial
        refine .bind (meets_isMissing rfl _ _) fun missing _ ↦ ?_
        split
        · refine .bind (.lift (yields_failure _ (by simp [hscope, hname]))) fun _ _ ↦ ?_
          exact .bind (.pure trivial) hrest
        · exact .bind (.pure trivial) hrest
    · exact ih _ hpaths

/-- Going through well-shaped rules fails only as the cluster does. -/
theorem meets_missingServices {scope : Value} (hscope : text.fits scope = true)
    (seen : List Value) {rules : List Value}
    (h : ∀ v ∈ rules, ingressRule.fits v = true) :
    (missingServices scope seen rules).Meets .cluster fun _ ↦ True := by
  induction rules generalizing seen with
  | nil => exact .pure trivial
  | cons rule rules ih =>
    obtain ⟨hrule, hrules⟩ := List.forall_mem_cons.mp h
    refine .lifting (yields_section hrule rfl) fun http hhttp ↦ ?_
    refine .lifting (yields_each hhttp rfl) fun paths hpaths ↦ ?_
    exact .bind (meets_missingBackends hscope seen hpaths) fun found _ ↦
      .bind (ih _ hrules) fun others _ ↦ .pure trivial

theorem meets_missingCertificate {scope entry : Value} (hscope : text.fits scope = true)
    (h : certificate.fits entry = true) :
    (missingCertificate scope entry).Meets .cluster fun _ ↦ True := by
  refine .lifting (yields_label h rfl) fun name hname ↦ ?_
  dsimp only
  split
  · refine .bind (meets_isMissing rfl _ _) fun missing _ ↦ ?_
    split
    · exact .bind (.lift (yields_failure _ (by simp [hscope, hname]))) fun _ _ ↦ .pure trivial
    · exact .pure trivial
  · exact .pure trivial

theorem meets_ingress (h : (Shape.object "Ingress").fits object = true) :
    (ingress object).Meets .cluster fun _ ↦ True := by
  refine .lifting (yields_section h rfl) fun md hmd ↦ ?_
  refine .lifting (yields_section h rfl) fun spec hspec ↦ ?_
  refine .lifting (yields_label hmd rfl) fun scope hscope ↦ ?_
  refine .lifting (yields_label hmd rfl) fun name hname ↦ ?_
  refine .bind (meets_classFailures hmd hspec rfl hscope hname) fun ofClass _ ↦ ?_
  refine .lifting (yields_each hspec rfl) fun rules hrules ↦ ?_
  refine .bind (meets_missingServices hscope [] hrules) fun ofServices _ ↦ ?_
  refine .lifting (yields_each hspec rfl) fun entries hentries ↦ ?_
  refine .bind (meets_collect fun entry hentry ↦ ?_) fun ofCertificates _ ↦ .pure trivial
  exact meets_missingCertificate hscope (hentries entry hentry)

theorem meets_networkPolicy (h : (Shape.object "NetworkPolicy").fits object = true) :
    (networkPolicy object).Meets .cluster fun _ ↦ True := by
  refine .lifting (yields_section h rfl) fun md hmd ↦ ?_
  refine .lifting (yields_section h rfl) fun spec hspec ↦ ?_
  refine .lifting (yields_label hmd rfl) fun scope _ ↦ ?_
  refine .lifting (yields_label hmd rfl) fun name hname ↦ ?_
  refine .lifting (yields_section hspec rfl) fun selector hselector ↦ ?_
  refine .lifting (yields_labels hselector rfl) fun labels hlabels ↦ ?_
  have hfailure (t : String) : Yields (fun _ ↦ True) (failure t [name]) :=
    yields_failure t (by simp [hname])
  split
  · refine .lifting (yields_field hselector rfl) fun expressions _ ↦ ?_
    split
    · exact .pure trivial
    · exact .bind (.lift (hfailure _)) fun _ _ ↦ .pure trivial
  · refine .lifting (yields_selectorText hlabels) fun chosen _ ↦ ?_
    have hpods : (Scan.ask (.list "Pod" scope (.str chosen))).Meets .cluster fun _ ↦ True :=
      .asking rfl (fun _ _ ↦ trivial) fun _ h ↦ .inl h
    refine .bind hpods fun pods _ ↦ ?_
    split
    · exact .bind (.lift (hfailure _)) fun _ _ ↦ .pure trivial
    · exact .pure trivial

/-! ### Logs -/

theorem meets_podLogs (h : (Shape.object "Pod").fits object = true) :
    (podLogs object).Meets .cluster fun _ ↦ True := by
  refine .lifting (yields_section h rfl) fun md hmd ↦ ?_
  refine .lifting (yields_label hmd rfl) fun scope _ ↦ ?_
  refine .lifting (yields_label hmd rfl) fun pod hpod ↦ ?_
  refine .lifting (yields_section h rfl) fun spec hspec ↦ ?_
  refine .lifting (yields_each hspec rfl) fun containers hcontainers ↦ ?_
  refine meets_collect fun container hcontainer ↦ ?_
  refine .lifting (yields_label (hcontainers container hcontainer) rfl) fun name _ ↦ ?_
  have hlog : (Scan.ask (.log pod scope name lastLines)).Meets .cluster fun _ ↦ True :=
    .asking trivial (fun _ _ ↦ trivial) fun _ h ↦ .inl h
  refine .bind hlog fun log _ ↦ ?_
  dsimp only
  split
  · exact .pure trivial
  · exact .bind (.lift (yields_failure _ (by simp [hpod]))) fun _ _ ↦ .pure trivial

/-! ### Pods -/

namespace Pod

/-- The message of a well-shaped source can be made a failure. -/
theorem yields_messageFailure {fields : List (String × Shape)} {source : Value}
    (h : (record fields).fits source = true) (hfield : entryAt? "message" fields = some text) :
    Yields (fun _ ↦ True) (messageFailure source) := by
  refine (yields_field h hfield).bind fun message hmessage ↦ ?_
  split
  · next hcounts => exact (yields_ofValue hmessage hcounts).bind fun _ _ ↦ .ok trivial
  · exact .ok trivial

/-- A reason that is a text or absent can be looked for. -/
theorem yields_isReasonOf (reasons : List String) {reason : Value} (h : text.Optional reason) :
    Yields (fun _ ↦ True) (isReasonOf reasons reason) := by
  rcases h.text_cases with rfl | ⟨t, rfl⟩
  · exact .ok trivial
  · unfold isReasonOf Value.orElse
    split
    · exact .ok trivial
    · exact .ok trivial

theorem yields_unschedulable {condition : Value} (h : Shape.condition.fits condition = true) :
    Yields (fun _ ↦ True) (unschedulable condition) := by
  refine (yields_field h rfl).bind fun type _ ↦ ?_
  dsimp only
  split
  · refine (yields_field h rfl).bind fun reason _ ↦ ?_
    split
    · exact yields_messageFailure h rfl
    · exact .ok trivial
  · exact .ok trivial

theorem meets_creating (scope pod : Value) :
    (creating Scan.latestEvent scope pod).Meets .cluster fun _ ↦ True := by
  refine .bind (meets_latestEvent scope pod) fun event hevent ↦ ?_
  split
  · exact .pure trivial
  · next e =>
    have he := hevent e rfl
    refine .lifting (yields_field he rfl) fun reason hreason ↦ ?_
    refine .lifting (yields_isReasonOf _ hreason) fun isError _ ↦ ?_
    split
    · exact .lifted (yields_messageFailure he rfl)
    · exact .pure trivial

theorem meets_unready (scope pod : Value) :
    (unready Scan.latestEvent scope pod).Meets .cluster fun _ ↦ True := by
  refine .bind (meets_latestEvent scope pod) fun event hevent ↦ ?_
  split
  · exact .pure trivial
  · next e =>
    have he := hevent e rfl
    refine .lifting (yields_field he rfl) fun reason hreason ↦ ?_
    split
    · exact .lifted (yields_messageFailure he rfl)
    · exact .pure trivial

/-- A waiting container of the declared shape can be judged. -/
theorem yields_waitingFailure {pod status waiting reason : Value}
    (hstatus : containerStatus.fits status = true)
    (hwaiting : (record [("reason", text), ("message", text)]).fits waiting = true)
    (hreason : text.fits reason = true) :
    Yields (fun _ ↦ True) (waitingFailure pod status waiting reason) := by
  refine (yields_section hstatus rfl).bind fun last hlast ↦ ?_
  refine (yields_field hlast rfl).bind fun ended hended ↦ ?_
  split
  · next hcrash =>
    have hfits := hended.of_counts (Bool.and_eq_true_iff.mp hcrash).2
    refine (yields_label hfits rfl).bind fun why _ ↦ ?_
    exact (yields_label hstatus rfl).bind fun container _ ↦ .ok trivial
  · refine (yields_isReasonOf _ (.inr hreason)).bind fun isError _ ↦ ?_
    split
    · exact yields_messageFailure hwaiting rfl
    · exact .ok trivial

theorem meets_containerFailure (pod scope phase : Value) {status : Value}
    (h : containerStatus.fits status = true) :
    (containerFailure Scan.latestEvent pod scope phase status).Meets .cluster fun _ ↦ True := by
  refine .lifting (yields_section h rfl) fun state hstate ↦ ?_
  refine .lifting (yields_field hstate rfl) fun waiting hwaiting ↦ ?_
  split
  · next hcounts =>
    have hfits := hwaiting.of_counts hcounts
    refine .lifting (yields_label hfits rfl) fun reason hreason ↦ ?_
    split
    · exact meets_creating scope pod
    · exact .lift (yields_waitingFailure h hfits hreason)
  · refine .lifting (yields_field h rfl) fun ready _ ↦ ?_
    split
    · exact meets_unready scope pod
    · exact .pure trivial

theorem meets_failures (h : (Shape.object "Pod").fits object = true) :
    (failures Scan.latestEvent object).Meets .cluster fun _ ↦ True := by
  refine .lifting (yields_section h rfl) fun md hmd ↦ ?_
  refine .lifting (yields_section h rfl) fun status hstatus ↦ ?_
  refine .lifting (yields_label hmd rfl) fun name _ ↦ ?_
  refine .lifting (yields_label hmd rfl) fun scope _ ↦ ?_
  refine .lifting (yields_label hstatus rfl) fun phase _ ↦ ?_
  have hstep {statuses : List Value} (hfits : ∀ v ∈ statuses, containerStatus.fits v = true) :
      (collect (containerFailure Scan.latestEvent name scope phase) statuses).Meets .cluster
        fun _ ↦ True :=
    meets_collect fun s hs ↦ meets_containerFailure name scope phase (hfits s hs)
  have hrest (scheduling : List Failure) (_ : True) : (do
      let initial ← status.each "init_container_statuses"
      let started ← collect (containerFailure Scan.latestEvent name scope phase) initial
      let regular ← status.each "container_statuses"
      let running ← collect (containerFailure Scan.latestEvent name scope phase) regular
      return scheduling ++ started ++ running : Scan (List Failure)).Meets .cluster fun _ ↦ True :=
    .lifting (yields_each hstatus rfl) fun _ hinitial ↦ .bind (hstep hinitial) fun _ _ ↦
      .lifting (yields_each hstatus rfl) fun _ hregular ↦ .bind (hstep hregular) fun _ _ ↦
        .pure trivial
  dsimp only
  split
  · refine .lifting (yields_each hstatus rfl) fun conditions hconditions ↦ ?_
    refine .bind (.lift (yields_collectPure fun c hc ↦ ?_)) hrest
    exact yields_unschedulable (hconditions c hc)
  · exact .bind (.pure trivial) hrest

end Pod

end Detect

namespace Check

/-- The detection of a built-in check keeps to the contract of a cluster on objects of the kind that
the check lists. -/
theorem meets_detect {c : Check} (hc : c ∈ builtin)
    (h : (Shape.object c.listed).fits object = true) :
    (c.detect object).Meets .cluster fun _ ↦ True := by
  simp only [builtin, core, additional, List.map_cons, List.map_nil, List.cons_append,
    List.nil_append, List.mem_cons, List.not_mem_nil, or_false] at hc
  rcases hc with rfl | rfl | rfl | rfl | rfl | rfl | rfl | rfl | rfl | rfl | rfl | rfl | rfl
  · exact Detect.Pod.meets_failures h
  · exact .lift (Detect.yields_deployment h)
  · exact .lift (Detect.yields_replicaSet h)
  · exact Detect.meets_storageClaim h
  · exact Detect.meets_service h
  · exact Detect.meets_ingress h
  · exact Detect.meets_statefulSet h
  · exact .lift (Detect.yields_cronJob h)
  · exact .lift (Detect.yields_node h)
  · exact Detect.meets_autoscaler h
  · exact .lift (Detect.yields_disruptionBudget h)
  · exact Detect.meets_networkPolicy h
  · exact Detect.meets_podLogs h

/-- Each built-in check lists a supported kind. -/
theorem isKind_listed {c : Check} (hc : c ∈ builtin) : Resource.isKind c.listed = true := by
  simp only [builtin, core, additional, List.map_cons, List.map_nil, List.cons_append,
    List.nil_append, List.mem_cons, List.not_mem_nil, or_false] at hc
  rcases hc with rfl | rfl | rfl | rfl | rfl | rfl | rfl | rfl | rfl | rfl | rfl | rfl | rfl <;> rfl

end Check

end ClusterDiagnosis
