import ClusterDiagnosis.Detect.Network
import ClusterDiagnosis.Detect.Workload
import ClusterDiagnosis.Proofs.Cluster.Contract
import ClusterDiagnosis.Proofs.Scan.Lookup
import ClusterDiagnosis.Proofs.Value.Declared
import ClusterDiagnosis.Proofs.Value.Entries

/-!
# References that dangle

An ingress refers to a class, to the services behind its paths and to the secrets of its
certificates; a stateful set refers to a service and to the storage classes of its claim templates.
In a cluster in which what is looked up stays as it is, `looksUp_ingress` and `looksUp_statefulSet`
say which of them are looked up and what is reported: services and storage classes are looked up
once for each name, in the order in which the names first come up (`unseen`), and there is one
failure for each that dangles. `looksUp_references` is about both.
-/

set_option autoImplicit false
set_option relaxedAutoImplicit false

namespace ClusterDiagnosis.Detect

open Scan Shape

variable {σ : Type} {source : Source σ} {deadline : Option Deadline} {holdings : Holdings}
  {scope : String}

/-! ### Names that come up for the first time -/

/-- The names among the given ones that were not seen before, in the order in which they first come
up. -/
def unseen (seen names : List String) : List String :=
  (names.removeAll seen).eraseDups

/-- A name that was seen is passed over. -/
theorem unseen_cons_of_mem {seen names : List String} {n : String} (h : n ∈ seen) :
    unseen seen (n :: names) = unseen seen names := by
  rw [unseen, unseen, List.removeAll, List.filter_cons_of_neg (by simpa using h)]
  rfl

/-- A name that was not seen is taken and counts as seen from then on. -/
theorem unseen_cons_of_notMem {seen names : List String} {n : String} (h : n ∉ seen) :
    unseen seen (n :: names) = n :: unseen (n :: seen) names := by
  rw [unseen, unseen, List.removeAll, List.filter_cons_of_pos (by simpa using h),
    List.eraseDups_cons]
  congr 2
  rw [List.removeAll, List.filter_filter]
  congr 1
  funext x
  simp [beq_eq_decide]

/-- The names of a second list are unseen if neither seen before nor taken from the first list. -/
theorem unseen_append (seen names others : List String) :
    unseen seen (names ++ others) =
      unseen seen names ++ unseen ((unseen seen names).reverse ++ seen) others := by
  induction names generalizing seen with
  | nil => rfl
  | cons n names ih =>
    rw [List.cons_append]
    by_cases hn : n ∈ seen
    · rw [unseen_cons_of_mem hn, unseen_cons_of_mem hn, ih]
    · rw [unseen_cons_of_notMem hn, unseen_cons_of_notMem hn, ih, List.reverse_cons,
        List.append_assoc, List.singleton_append, List.cons_append]

/-- With nothing seen before, the names are taken without their repetitions. -/
theorem unseen_nil_left (names : List String) : unseen [] names = names.eraseDups := by
  have hall : names.removeAll [] = names := List.filter_eq_self.mpr fun _ _ ↦ rfl
  rw [unseen, hall]

/-- No name is taken twice. -/
theorem nodup_unseen (seen names : List String) : (unseen seen names).Nodup :=
  nodup_eraseDups _

/-- The names that items give, without the empty ones. -/
def named (nameIn : Value → String) (items : List Value) : List String :=
  (items.map nameIn).filter (· ≠ "")

/-- An item without a name is passed over. -/
theorem named_cons (nameIn : Value → String) (item : Value) (items : List Value) :
    named nameIn (item :: items) =
      (if nameIn item = "" then [] else [nameIn item]) ++ named nameIn items := by
  rw [named, List.map_cons, List.filter_cons]
  by_cases h : nameIn item = ""
  · rw [if_pos h, if_neg (by simpa using h)]
    rfl
  · rw [if_neg h, if_pos (by simpa using h)]
    rfl

/-- The names of two lists of items are those of the first and those of the second. -/
theorem named_append (nameIn : Value → String) (items others : List Value) :
    named nameIn (items ++ others) = named nameIn items ++ named nameIn others := by
  rw [named, List.map_append, List.filter_append]
  rfl

/-- The names of items are collected item by item. -/
theorem named_eq_flatMap (nameIn : Value → String) (items : List Value) :
    named nameIn items =
      items.flatMap fun item ↦ if nameIn item = "" then [] else [nameIn item] := by
  induction items with
  | nil => rfl
  | cons item items ih => rw [named_cons, List.flatMap_cons, ih]

/-- The names of objects that are missing, among those of objects that others refer to. -/
def missingAmong (holdings : Holdings) (refOf : String → Reference) (names : List String) :
    List String :=
  names.filter fun n ↦ (refOf n).dangles holdings

/-- A name is missing if its reference dangles, and the others are looked at by themselves. -/
theorem missingAmong_cons (holdings : Holdings) (refOf : String → Reference) (n : String)
    (names : List String) :
    missingAmong holdings refOf (n :: names) =
      (if (refOf n).dangles holdings then [n] else []) ++ missingAmong holdings refOf names := by
  rw [missingAmong, List.filter_cons]
  split <;> rfl

/-! ### Failures with secret names -/

/-- The secrets of a failure that names texts: those that are not empty. -/
def hidden (texts : List String) : List Secret :=
  (texts.filter (· ≠ "")).map Secret.of

/-- A failure with texts as its secrets hides each of them. -/
theorem failure_eq (t : String) (texts : List String) :
    failure t (texts.map .str) = .ok ⟨t, hidden texts⟩ := by
  have hsecrets : secretsOf (texts.map .str) = .ok (hidden texts) := by
    rw [hidden]
    induction texts with
    | nil => rfl
    | cons s texts ih =>
      by_cases hs : s = ""
      · rw [List.filter_cons_of_neg (by simpa using hs), ← ih, hs]
        rfl
      · have hcounts : (Value.str s).counts = true := Value.counts_str_iff.mpr hs
        rw [List.filter_cons_of_pos (by simpa using hs), List.map_cons]
        unfold secretsOf at ih ⊢
        rw [List.map_cons, List.filter_cons_of_pos hcounts, List.mapM_cons, ih]
        rfl
  rw [failure, hsecrets]
  rfl

/-- Steps after a failure that names texts go on with it. -/
theorem lift_failure_bind {α : Type} (t : String) (texts : List String) (f : Failure → Scan α) :
    lift (failure t (texts.map .str)) >>= f = f ⟨t, hidden texts⟩ := by
  rw [failure_eq]
  rfl

/-! ### The class of an ingress -/

def ingressClassRef (name : String) : Reference :=
  ⟨"IngressClass", "", name⟩

/-- The class that an ingress names in its specification is looked up. -/
def classRefs (own : String) : List Reference :=
  if own = "" then [] else [ingressClassRef own]

/-- What is wrong with the class of an ingress: it names one that does not exist, or none, not even
by an annotation. -/
def classFailure? (holdings : Holdings) (own : String) (annotated : Bool) (scope name : String) :
    Option Failure :=
  if own = "" then
    if annotated then none
    else some ⟨"Ingress " ++ scope ++ "/" ++ name ++ " does not specify an Ingress class.",
      hidden [scope, name]⟩
  else if (ingressClassRef own).dangles holdings then
    some ⟨"Ingress uses the ingress class " ++ own ++ " which does not exist.", []⟩
  else none

/-- The class of an ingress is looked up if its specification names one. -/
theorem looksUp_classFailures (hsource : source.Holds holdings) {md spec : Value}
    {fields : List (String × Shape)} (hmd : Shape.metadata.fits md = true)
    (hspec : (record fields).fits spec = true)
    (hkey : entryAt? "ingress_class_name" fields = some text) (scope name : String) :
    LooksUp source deadline (classFailures md spec (.str scope) (.str name))
      (classRefs (spec.textAt "ingress_class_name"))
      (classFailure? holdings (spec.textAt "ingress_class_name")
        ((md.partAt "annotations").countsAt classAnnotation) scope name).toList := by
  have hsays := says_at? hspec hkey
  rw [classFailures, field_eq hspec, liftM_ok_bind, hsays.counts_eq]
  generalize spec.textAt "ingress_class_name" = own at hsays ⊢
  by_cases hown : own = ""
  · rw [classRefs, if_pos hown, classFailure?, if_pos hown, hown]
    rw [if_neg (by decide), labels_eq hmd rfl, liftM_ok_bind, field_partAt, liftM_ok_bind,
      counts_at?]
    split
    · exact .pure _
    · change LooksUp source deadline
        (lift (failure _ ([scope, name].map .str)) >>= fun x ↦ pure [x]) _ _
      rw [lift_failure_bind]
      exact .pure _
  · obtain hown' | ⟨-, hown'⟩ := hsays
    on_goal 2 => exact absurd hown' hown
    rw [classRefs, if_neg hown, classFailure?, if_neg hown, hown', if_pos (by simpa using hown)]
    refine (LooksUp.isMissing hsource (ingressClassRef own)).bind_nil ?_
    split
    · exact .pure _
    · exact .pure _

/-! ### The services behind an ingress -/

/-- The name of the service behind a path. -/
def backendOf (path : Value) : String :=
  ((path.partAt "backend").partAt "service").textAt "name"

def serviceRef (scope name : String) : Reference :=
  ⟨"Service", scope, name⟩

def backendFailure (scope name : String) : Failure :=
  ⟨"Ingress uses the service " ++ scope ++ "/" ++ name ++ " which does not exist.",
    hidden [scope, name]⟩

/-- The service behind a well-shaped path. -/
theorem backend_eq {path : Value} (h : ingressPath.fits path = true) :
    backend path = .ok (.str (backendOf path)) := by
  have hbackend : (record [("service", record [("name", text)])]).fits (path.partAt "backend") =
      true := fits_partAt h rfl
  have hservice : (record [("name", text)]).fits
      ((path.partAt "backend").partAt "service") = true := fits_partAt hbackend rfl
  have hsection : path.section? "backend" = .ok (path.partAt "backend") := section_eq h rfl
  have hsection' : (path.partAt "backend").section? "service" =
      .ok ((path.partAt "backend").partAt "service") := section_eq hbackend rfl
  rw [backend, hsection, ok_bind, hsection', ok_bind]
  exact label_eq hservice rfl

/-- A service that was not seen before is looked up. The paths hand on the names seen so far, so the
induction is for any such names. -/
theorem looksUp_missingBackends (hsource : source.Holds holdings) {paths : List Value}
    (h : ∀ path ∈ paths, ingressPath.fits path = true) (seen : List String) :
    LooksUp source deadline (missingBackends (.str scope) (seen.map .str) paths)
      ((unseen seen (named backendOf paths)).map (serviceRef scope))
      ((missingAmong holdings (serviceRef scope) (unseen seen (named backendOf paths))).map
          (backendFailure scope),
        ((unseen seen (named backendOf paths)).reverse ++ seen).map .str) := by
  induction paths generalizing seen with
  | nil => exact .pure _
  | cons path paths ih =>
    obtain ⟨hpath, hrest⟩ := List.forall_mem_cons.mp h
    rw [missingBackends, backend_eq hpath, liftM_ok_bind, named_cons]
    generalize backendOf path = name
    by_cases hname : name = ""
    · rw [if_pos hname, hname, if_neg (by decide)]
      exact ih hrest seen
    · rw [if_neg hname, if_pos (Value.counts_str_iff.mpr hname), Value.isAmong_texts, liftM_ok_bind,
        List.singleton_append]
      by_cases hseen : name ∈ seen
      · rw [unseen_cons_of_mem hseen, if_pos (decide_eq_true hseen)]
        exact ih hrest seen
      · have hothers := (ih hrest (name :: seen)).map fun others ↦
          ((if (serviceRef scope name).dangles holdings then [backendFailure scope name] else []) ++
            others.1, others.2)
        rw [if_neg (by simpa using hseen), unseen_cons_of_notMem hseen, missingAmong_cons,
          List.map_append, List.reverse_cons, List.append_assoc, List.singleton_append]
        refine (LooksUp.isMissing hsource (serviceRef scope name)).bind ?_
        split at hothers
        · next hmissing =>
          rw [if_pos hmissing, if_pos hmissing]
          change LooksUp source deadline
            (lift (failure _ ([scope, name].map .str)) >>= fun x ↦ _) _ _
          rw [lift_failure_bind]
          exact hothers
        · next hthere =>
          rw [if_neg hthere, if_neg hthere]
          exact hothers

/-- The paths of a rule. -/
def pathsOf (rule : Value) : List Value :=
  (rule.partAt "http").itemsAt "paths"

/-- The services behind all rules are looked up without repetition across the rules. -/
theorem looksUp_missingServices (hsource : source.Holds holdings) {rules : List Value}
    (h : ∀ rule ∈ rules, ingressRule.fits rule = true) (seen : List String) :
    LooksUp source deadline (missingServices (.str scope) (seen.map .str) rules)
      ((unseen seen (named backendOf (rules.flatMap pathsOf))).map (serviceRef scope))
      ((missingAmong holdings (serviceRef scope)
        (unseen seen (named backendOf (rules.flatMap pathsOf)))).map (backendFailure scope)) := by
  induction rules generalizing seen with
  | nil => exact .pure _
  | cons rule rules ih =>
    obtain ⟨hrule, hrest⟩ := List.forall_mem_cons.mp h
    have hhttp : (record [("paths", list ingressPath)]).fits (rule.partAt "http") = true :=
      fits_partAt hrule rfl
    have hpaths : ∀ path ∈ pathsOf rule, ingressPath.fits path = true := fits_itemsAt hhttp rfl
    have heach : (rule.partAt "http").each "paths" = .ok (pathsOf rule) := each_eq hhttp rfl
    rw [missingServices, section_eq hrule rfl, liftM_ok_bind, heach, liftM_ok_bind,
      List.flatMap_cons, named_append, unseen_append, List.map_append, missingAmong,
      List.filter_append, List.map_append]
    exact (looksUp_missingBackends hsource hpaths seen).bind ((ih hrest _).map _)

/-! ### Certificates -/

def secretRef (scope name : String) : Reference :=
  ⟨"Secret", scope, name⟩

def certificateFailure (scope name : String) : Failure :=
  ⟨"Ingress uses the secret " ++ scope ++ "/" ++ name ++
      " as a TLS certificate which does not exist.", hidden [scope, name]⟩

/-- The name of the secret that a certificate is in. -/
def secretOf (entry : Value) : String :=
  entry.textAt "secret_name"

/-- Every certificate with a secret has it looked up, also if an earlier one is in the same. -/
theorem looksUp_missingCertificates (hsource : source.Holds holdings) {certificates : List Value}
    (h : ∀ entry ∈ certificates, certificate.fits entry = true) :
    LooksUp source deadline (collect (missingCertificate (.str scope)) certificates)
      ((named secretOf certificates).map (secretRef scope))
      ((missingAmong holdings (secretRef scope) (named secretOf certificates)).map
        (certificateFailure scope)) := by
  rw [named_eq_flatMap, missingAmong, List.filter_flatMap, List.map_flatMap, List.map_flatMap]
  refine LooksUp.collect fun entry hentry ↦ ?_
  have hlabel : entry.label "secret_name" = .ok (.str (secretOf entry)) :=
    label_eq (h entry hentry) rfl
  rw [missingCertificate, hlabel, liftM_ok_bind]
  generalize secretOf entry = name
  by_cases hname : name = ""
  · rw [hname]
    exact ⟨none, .pure _, rfl⟩
  · rw [if_pos (Value.counts_str_iff.mpr hname), if_neg hname, List.filter_cons]
    by_cases hmissing : (secretRef scope name).dangles holdings
    · refine ⟨some (certificateFailure scope name),
        (LooksUp.isMissing hsource (secretRef scope name)).bind_nil ?_, ?_⟩
      · rw [if_pos hmissing]
        change LooksUp source deadline
          (lift (failure _ ([scope, name].map .str)) >>= fun x ↦ pure (some x)) _ _
        rw [lift_failure_bind]
        exact .pure _
      · rw [if_pos hmissing]
        rfl
    · refine ⟨none, (LooksUp.isMissing hsource (secretRef scope name)).bind_nil ?_, ?_⟩
      · rw [if_neg hmissing]
        exact .pure _
      · rw [if_neg hmissing]
        rfl

/-! ### Ingresses -/

def scopeOf (object : Value) : String :=
  (object.partAt "metadata").textAt "namespace"

def nameOf (object : Value) : String :=
  (object.partAt "metadata").textAt "name"

namespace Ingress

/-- The class that the specification names. -/
def className (object : Value) : String :=
  (object.partAt "spec").textAt "ingress_class_name"

/-- Whether an annotation names a class. -/
def isAnnotated (object : Value) : Bool :=
  ((object.partAt "metadata").partAt "annotations").countsAt classAnnotation

/-- The services behind an ingress, each once, in the order in which they first come up over all
rules and paths. -/
def services (object : Value) : List String :=
  (named backendOf (((object.partAt "spec").itemsAt "rules").flatMap pathsOf)).eraseDups

/-- The secrets of an ingress, one for each certificate that has one. -/
def secrets (object : Value) : List String :=
  named secretOf ((object.partAt "spec").itemsAt "tls")

/-- What an ingress refers to: its class, its services and its secrets. -/
def refs (object : Value) : List Reference :=
  classRefs (className object) ++ (services object).map (serviceRef (scopeOf object)) ++
    (secrets object).map (secretRef (scopeOf object))

/-- What is wrong with an ingress, given what is there: its class, each missing service, and each
missing secret. -/
def failures (holdings : Holdings) (object : Value) : List Failure :=
  (classFailure? holdings (className object) (isAnnotated object) (scopeOf object)
      (nameOf object)).toList ++
    (missingAmong holdings (serviceRef (scopeOf object)) (services object)).map
      (backendFailure (scopeOf object)) ++
    (missingAmong holdings (secretRef (scopeOf object)) (secrets object)).map
      (certificateFailure (scopeOf object))

end Ingress

/-- An ingress has its class, its services and its certificates looked up, in this order. -/
theorem looksUp_ingress (hsource : source.Holds holdings) {object : Value}
    (h : (Shape.object "Ingress").fits object = true) :
    LooksUp source deadline (ingress object) (Ingress.refs object)
      (Ingress.failures holdings object) := by
  have hmd : Shape.metadata.fits (object.partAt "metadata") = true := fits_partAt h rfl
  have hspec : (record [("ingress_class_name", text), ("rules", list ingressRule),
      ("tls", list certificate)]).fits (object.partAt "spec") = true := fits_partAt h rfl
  have hmetadata : object.metadata = .ok (object.partAt "metadata") := section_eq h rfl
  have hsection : object.spec = .ok (object.partAt "spec") := section_eq h rfl
  have hscope : (object.partAt "metadata").label "namespace" = .ok (.str (scopeOf object)) :=
    label_eq hmd rfl
  have hname : (object.partAt "metadata").label "name" = .ok (.str (nameOf object)) :=
    label_eq hmd rfl
  have hrules : ∀ rule ∈ (object.partAt "spec").itemsAt "rules", ingressRule.fits rule = true :=
    fits_itemsAt hspec rfl
  rw [ingress, hmetadata, liftM_ok_bind, hsection, liftM_ok_bind, hscope, liftM_ok_bind, hname,
    liftM_ok_bind, each_eq hspec rfl, Ingress.refs, List.append_assoc, Ingress.failures]
  refine (looksUp_classFailures hsource hmd hspec rfl _ _).bind ?_
  rw [liftM_ok_bind, Ingress.services, ← unseen_nil_left]
  refine (looksUp_missingServices hsource hrules []).bind ?_
  rw [each_eq hspec rfl, liftM_ok_bind]
  exact (looksUp_missingCertificates hsource (fits_itemsAt hspec rfl)).map _

/-! ### Stateful sets -/

def storageClassRef (name : String) : Reference :=
  ⟨"StorageClass", "", name⟩

def storageClassFailure (name : String) : Failure :=
  ⟨"StatefulSet uses the storage class " ++ name ++ " which does not exist.", []⟩

/-- The name of the storage class of a claim template. -/
def storageClassOf (template : Value) : String :=
  (template.partAt "spec").textAt "storage_class_name"

/-- The storage classes of all templates are looked up without repetition. -/
theorem looksUp_missingClasses (hsource : source.Holds holdings) {templates : List Value}
    (h : ∀ template ∈ templates, claimTemplate.fits template = true) (seen : List String) :
    LooksUp source deadline (missingClasses (seen.map .str) templates)
      ((unseen seen (named storageClassOf templates)).map storageClassRef)
      ((missingAmong holdings storageClassRef (unseen seen (named storageClassOf templates))).map
        storageClassFailure) := by
  induction templates generalizing seen with
  | nil => exact .pure _
  | cons template templates ih =>
    obtain ⟨htemplate, hrest⟩ := List.forall_mem_cons.mp h
    have hspec : (record [("storage_class_name", text)]).fits (template.partAt "spec") = true :=
      fits_partAt htemplate rfl
    have hlabel : (template.partAt "spec").label "storage_class_name" =
        .ok (.str (storageClassOf template)) := label_eq hspec rfl
    rw [missingClasses, section_eq htemplate rfl, liftM_ok_bind, hlabel, liftM_ok_bind, named_cons]
    generalize storageClassOf template = name
    by_cases hname : name = ""
    · rw [if_pos hname, hname, if_neg (by decide)]
      exact ih hrest seen
    · rw [if_neg hname, if_pos (Value.counts_str_iff.mpr hname), Value.isAmong_texts, liftM_ok_bind,
        List.singleton_append]
      by_cases hseen : name ∈ seen
      · rw [unseen_cons_of_mem hseen, if_pos (decide_eq_true hseen)]
        exact ih hrest seen
      · rw [if_neg (by simpa using hseen), unseen_cons_of_notMem hseen, missingAmong_cons,
          List.map_append]
        refine (LooksUp.isMissing hsource (storageClassRef name)).bind ?_
        have hothers := (ih hrest (name :: seen)).map fun others ↦
          if (storageClassRef name).dangles holdings then storageClassFailure name :: others
          else others
        split at hothers
        · next hmissing =>
          rw [if_pos hmissing]
          simp only [hmissing] at hothers ⊢
          exact hothers
        · next hthere =>
          rw [if_neg hthere]
          simp only [hthere] at hothers ⊢
          exact hothers

namespace StatefulSet

/-- The service that governs a stateful set, if it names one. -/
def services (object : Value) : List String :=
  if (object.partAt "spec").textAt "service_name" = "" then []
  else [(object.partAt "spec").textAt "service_name"]

/-- The storage classes of a stateful set, each once, in the order in which they first come up over
its claim templates. -/
def storageClasses (object : Value) : List String :=
  (named storageClassOf ((object.partAt "spec").itemsAt "volume_claim_templates")).eraseDups

/-- What a stateful set refers to: its service and its storage classes. -/
def refs (object : Value) : List Reference :=
  (services object).map (serviceRef (scopeOf object)) ++
    (storageClasses object).map storageClassRef

/-- The failure of a stateful set without its service. -/
def serviceFailure (scope name : String) : Failure :=
  ⟨"StatefulSet uses the service " ++ scope ++ "/" ++ name ++ " which does not exist.",
    hidden [scope, name]⟩

/-- What is wrong with a stateful set, given what is there: its service and each storage class that
is missing. -/
def failures (holdings : Holdings) (object : Value) : List Failure :=
  (missingAmong holdings (serviceRef (scopeOf object)) (services object)).map
      (serviceFailure (scopeOf object)) ++
    (missingAmong holdings storageClassRef (storageClasses object)).map storageClassFailure

end StatefulSet

/-- A stateful set has its service and then its storage classes looked up. -/
theorem looksUp_statefulSet (hsource : source.Holds holdings) {object : Value}
    (h : (Shape.object "StatefulSet").fits object = true) :
    LooksUp source deadline (statefulSet object) (StatefulSet.refs object)
      (StatefulSet.failures holdings object) := by
  have hmd : Shape.metadata.fits (object.partAt "metadata") = true := fits_partAt h rfl
  have hspec : (record [("service_name", text), ("template", podTemplate),
      ("volume_claim_templates", list claimTemplate)]).fits (object.partAt "spec") = true :=
    fits_partAt h rfl
  have hmetadata : object.metadata = .ok (object.partAt "metadata") := section_eq h rfl
  have hsection : object.spec = .ok (object.partAt "spec") := section_eq h rfl
  have hscope : (object.partAt "metadata").label "namespace" = .ok (.str (scopeOf object)) :=
    label_eq hmd rfl
  have hservice : (object.partAt "spec").label "service_name" =
      .ok (.str ((object.partAt "spec").textAt "service_name")) := label_eq hspec rfl
  have htemplates : ∀ template ∈ (object.partAt "spec").itemsAt "volume_claim_templates",
      claimTemplate.fits template = true := fits_itemsAt hspec rfl
  have hclasses (first : List Failure) : LooksUp source deadline
      (missingClasses [] ((object.partAt "spec").itemsAt "volume_claim_templates") >>=
        fun others ↦ pure (first ++ others))
      ((StatefulSet.storageClasses object).map storageClassRef)
      (first ++ (missingAmong holdings storageClassRef (StatefulSet.storageClasses object)).map
        storageClassFailure) := by
    rw [StatefulSet.storageClasses, ← unseen_nil_left]
    exact (looksUp_missingClasses hsource htemplates []).map _
  rw [statefulSet, hmetadata, liftM_ok_bind, hsection, liftM_ok_bind, hscope, liftM_ok_bind,
    hservice, liftM_ok_bind, each_eq hspec rfl, StatefulSet.refs, StatefulSet.failures,
    StatefulSet.services]
  generalize (object.partAt "spec").textAt "service_name" = service
  by_cases hempty : service = ""
  · rw [if_pos hempty, hempty]
    exact hclasses []
  · rw [if_neg hempty, if_pos (Value.counts_str_iff.mpr hempty), missingAmong_cons]
    refine (LooksUp.isMissing hsource (serviceRef (scopeOf object) service)).bind ?_
    by_cases hmissing : (serviceRef (scopeOf object) service).dangles holdings
    · rw [if_pos hmissing, if_pos hmissing]
      change LooksUp source deadline
        (lift (failure _ ([scopeOf object, service].map .str)) >>= fun x ↦ _) _ _
      rw [lift_failure_bind]
      exact hclasses [StatefulSet.serviceFailure (scopeOf object) service]
    · rw [if_neg hmissing, if_neg hmissing]
      exact hclasses []

/-! ### Both kinds of objects -/

/-- An ingress and a stateful set look up what they refer to, with no service and no storage class
twice, and report what dangles. -/
theorem looksUp_references (hsource : source.Holds holdings) :
    (∀ object, (Shape.object "Ingress").fits object = true →
      (Ingress.services object).Nodup ∧
        LooksUp source deadline (ingress object) (Ingress.refs object)
          (Ingress.failures holdings object)) ∧
    ∀ object, (Shape.object "StatefulSet").fits object = true →
      (StatefulSet.storageClasses object).Nodup ∧
        LooksUp source deadline (statefulSet object) (StatefulSet.refs object)
          (StatefulSet.failures holdings object) := by
  refine ⟨fun object h ↦ ⟨?_, looksUp_ingress hsource h⟩,
    fun object h ↦ ⟨?_, looksUp_statefulSet hsource h⟩⟩
  · rw [Ingress.services, ← unseen_nil_left]
    exact nodup_unseen _ _
  · rw [StatefulSet.storageClasses, ← unseen_nil_left]
    exact nodup_unseen _ _

/-! ### A shop -/

namespace Shop

/-- One service and one storage class are there. -/
def stock : Holdings := fun kind _ name ↦
  if kind = "Service" ∧ name = "web" ∨ kind = "StorageClass" ∧ name = "fast" then some (.map [])
  else none

def path (service : String) : Value :=
  .map [("backend", .map [("service", .map [("name", .str service)])])]

def rule (services : List String) : Value :=
  .map [("http", .map [("paths", .list (services.map path))])]

/-- An ingress of no class, where services come up again in other rules and two certificates are in
one secret. -/
def front : Value :=
  .map [
    ("metadata", .map [("namespace", .str "shop"), ("name", .str "front")]),
    ("spec", .map [
      ("rules", .list [
        rule ["web", "cart", ""], .map [("http", .null)], rule ["cart", "web", "ads"]]),
      ("tls", .list [
        .map [("secret_name", .str "cert")], .map [], .map [("secret_name", .str "cert")]])])]

def template (storageClass : Value) : Value :=
  .map [("spec", .map [("storage_class_name", storageClass)])]

/-- A stateful set with a storage class that is there, and one that is not in two templates. -/
def store : Value :=
  .map [
    ("metadata", .map [("namespace", .str "shop")]),
    ("spec", .map [
      ("service_name", .str "db"),
      ("volume_claim_templates", .list [
        template (.str "fast"), template (.str "big"), template .null, template (.str "big")])])]

theorem looksUp_references_shop :
    LooksUp (Source.holding stock) none (ingress front)
      [⟨"Service", "shop", "web"⟩, ⟨"Service", "shop", "cart"⟩, ⟨"Service", "shop", "ads"⟩,
        ⟨"Secret", "shop", "cert"⟩, ⟨"Secret", "shop", "cert"⟩]
      [⟨"Ingress shop/front does not specify an Ingress class.", [.of "shop", .of "front"]⟩,
        ⟨"Ingress uses the service shop/cart which does not exist.", [.of "shop", .of "cart"]⟩,
        ⟨"Ingress uses the service shop/ads which does not exist.", [.of "shop", .of "ads"]⟩,
        ⟨"Ingress uses the secret shop/cert as a TLS certificate which does not exist.",
          [.of "shop", .of "cert"]⟩,
        ⟨"Ingress uses the secret shop/cert as a TLS certificate which does not exist.",
          [.of "shop", .of "cert"]⟩] ∧
    LooksUp (Source.holding stock) none (statefulSet store)
      [⟨"Service", "shop", "db"⟩, ⟨"StorageClass", "", "fast"⟩, ⟨"StorageClass", "", "big"⟩]
      [⟨"StatefulSet uses the service shop/db which does not exist.", [.of "shop", .of "db"]⟩,
        ⟨"StatefulSet uses the storage class big which does not exist.", []⟩] := by
  obtain ⟨hingress, hstatefulSet⟩ :=
    @looksUp_references Unit (Source.holding stock) none stock (Source.holds_holding stock)
  exact ⟨(hingress front rfl).2, (hstatefulSet store rfl).2⟩

end Shop

end ClusterDiagnosis.Detect
