import ClusterDiagnosis.Proofs.Analyzer.Composition
import ClusterDiagnosis.Proofs.Detect.Reordered

/-!
# Runs do not depend on the order of entries

Two clusters may give the same snapshots, of the declared shapes, but for the order of the entries
of maps: labels, selectors and whatever else is nested in them. Runs of built-in analyzers against
both make the same accesses with the same arguments at the same times, leave the same gauge, and
give the same diagnoses or end in the same fault (`examineAll_run_reordered`).
-/

set_option autoImplicit false
set_option relaxedAutoImplicit false

namespace ClusterDiagnosis

open Scan Shape

/-! ### Owners -/

namespace Owner

/-- Reordered labels do not change which owner reference is the controlling one. -/
theorem agree_controlling {refs refs' : List Value}
    (h : List.Forall₂ ownerReference.Pair refs refs') :
    Agree (Option.Rel ownerReference.Pair) (controlling refs) (controlling refs') := by
  induction h with
  | nil => exact .ok .none
  | cons href _ ih =>
    refine .same (same_field href rfl trivial) fun controller ↦ ?_
    split
    · exact .ok (.some href)
    · exact ih

/-- Objects that differ in the order of their maps have matching controlling references. -/
theorem agree_reference {metadata metadata' : Value}
    (h : Shape.metadata.Pair metadata metadata') :
    Agree (Option.Rel ownerReference.Pair) (reference metadata) (reference metadata') := by
  refine (agree_each h rfl).bind fun refs refs' hrefs ↦ ?_
  refine (agree_controlling hrefs).bind fun own own' hown ↦ .ok ?_
  cases hown with
  | some hown => exact .some hown
  | none =>
    cases hrefs with
    | nil => exact .none
    | cons href _ => exact .some href

/-- Matching references name the same object to read. -/
theorem same_ofReference (scope : Value) {ref ref' : Value} (h : ownerReference.Pair ref ref') :
    ofReference scope ref = ofReference scope ref' := by
  have hkind : ref.label "kind" = ref'.label "kind" := same_label h rfl
  have hname : ref.label "name" = ref'.label "name" := same_label h rfl
  rw [ofReference, ofReference, hkind, hname]

/-- The walk up the owners asks the same questions in both runs. -/
theorem inStep_walk (scope limit : Value) (steps : Nat) (here : ObjectRef) :
    InStep Query.Reordered Eq (walk scope limit steps here) (walk scope limit steps here) := by
  induction steps generalizing here with
  | zero => exact .pure rfl
  | succ steps ih =>
    unfold walk
    split
    · refine .consult _ limit fun r r' h ↦ ?_
      cases h with
      | error f => cases f <;> first | exact .pure rfl | exact .done (.error _)
      | ok h =>
        cases h with
        | none => exact .pure rfl
        | @some owner owner' howner =>
          dsimp only
          rw [← howner.counts_eq]
          split
          · have habove : Agree (Option.Rel ownerReference.Pair) (above owner) (above owner') :=
              (agree_section howner rfl).bind fun _ _ ↦ agree_reference
            refine .lifting habove fun ref ref' href ↦ ?_
            cases href with
            | none => exact .pure rfl
            | some href => exact .same (same_ofReference scope href) fun next ↦ ih next
          · exact .pure rfl
    · exact .pure rfl

/-- The search for the outermost owner runs in step on objects that differ in map order. -/
theorem inStep_search {kind : String} {object object' : Value}
    (h : (Shape.object kind).Pair object object') :
    InStep Query.Reordered Eq (search object) (search object') := by
  refine .andThen .time fun limit ↦ .lifting (agree_section h rfl) fun md md' hmd ↦ ?_
  refine .same (same_label hmd rfl) fun scope ↦ ?_
  refine .lifting (agree_reference hmd) fun ref ref' href ↦ ?_
  cases href with
  | none => exact .pure rfl
  | some href =>
    refine .same (same_ofReference scope href) fun first ↦ ?_
    exact .andThen (inStep_walk scope limit maxSteps first) fun _ ↦ .pure rfl

end Owner

namespace Check

variable {c : Check} {object object' : Value}

/-! ### Findings -/

/-- Two findings under the same key with the same failures, about an object and the same with the
entries of its maps in another order. -/
structure FindingPair (c : Check) (f f' : Finding) : Prop where
  key : f.key = f'.key
  object : (Shape.object c.listed).Pair f.object f'.object
  failures : f.failures = f'.failures

/-- The key of an object does not depend on the order of its maps. -/
theorem same_objectKey {kind : String} (h : (Shape.object kind).Pair object object') :
    object.objectKey = object'.objectKey := by
  refine Agree.eq ?_
  refine (agree_section h rfl).bind fun md md' hmd ↦ ?_
  exact .same (same_label hmd rfl) fun name ↦ .same (same_label hmd rfl) fun scope ↦ .of_eq rfl

/-- Both runs count the same failures on the gauge. -/
theorem inStep_recordFailures (c : Check) {kind : String}
    (h : (Shape.object kind).Pair object object') (count : Nat) :
    InStep Query.Reordered Eq (c.recordFailures object count) (c.recordFailures object' count) := by
  refine .lifting (agree_section h rfl) fun md md' hmd ↦ ?_
  exact .same (same_label hmd rfl) fun name ↦ .same (same_label hmd rfl) fun scope ↦ .record _

/-- Entering paired findings among paired findings keeps the lists paired. -/
theorem forall₂_put {f f' : Finding} {found found' : List Finding} (hf : c.FindingPair f f')
    (h : List.Forall₂ c.FindingPair found found') :
    List.Forall₂ c.FindingPair (f.put found) (f'.put found') := by
  induction h with
  | nil => exact .cons hf .nil
  | cons hg hrest ih =>
    rw [Finding.put, Finding.put, ← hf.key, ← hg.key]
    split
    · exact .cons ⟨rfl, hf.object, hf.failures⟩ hrest
    · exact .cons hg ih

/-- A built-in check looks at paired objects in step and keeps the findings paired. -/
theorem inStep_look (hc : c ∈ builtin) {found found' : List Finding}
    (hfound : List.Forall₂ c.FindingPair found found')
    (h : (Shape.object c.listed).Pair object object') :
    InStep Query.Reordered (List.Forall₂ c.FindingPair) (c.look found object)
      (c.look found' object') := by
  refine .andThen .check fun _ ↦ .andThen (inStep_detect hc h) fun failures ↦ ?_
  split
  · exact .pure hfound
  · have hkey : keyOf object = keyOf object' := by rw [keyOf, keyOf, same_objectKey h]
    refine .same hkey fun key ↦ .andThen (inStep_recordFailures c h _) fun _ ↦ .pure ?_
    exact forall₂_put ⟨rfl, h, rfl⟩ hfound

/-- The same of lists of paired objects, by induction on the pairing. -/
theorem inStep_lookAll (hc : c ∈ builtin) {found found' : List Finding}
    (hfound : List.Forall₂ c.FindingPair found found') {objects objects' : List Value}
    (h : List.Forall₂ (Shape.object c.listed).Pair objects objects') :
    InStep Query.Reordered (List.Forall₂ c.FindingPair) (c.lookAll found objects)
      (c.lookAll found' objects') := by
  induction h generalizing found found' with
  | nil => exact .pure hfound
  | cons hobject _ ih =>
    exact .bind (inStep_look hc hfound hobject) fun found found' hfound ↦ ih hfound

/-! ### Diagnoses -/

/-- Paired findings get the same diagnosis. -/
theorem inStep_diagnose {f f' : Finding} (h : c.FindingPair f f') :
    InStep Query.Reordered Eq (c.diagnose f) (c.diagnose f') := by
  rw [diagnose_eq, diagnose_eq, h.key, h.failures]
  have howner : InStep Query.Reordered Eq (c.ownerOf f.object) (c.ownerOf f'.object) := by
    unfold ownerOf
    split
    · exact Owner.inStep_search h.object
    · exact .pure rfl
  exact .same rfl fun name ↦ .andThen howner fun owner ↦ .pure rfl

theorem inStep_diagnoseAll {fs fs' : List Finding} (h : List.Forall₂ c.FindingPair fs fs') :
    InStep Query.Reordered Eq (c.diagnoseAll fs) (c.diagnoseAll fs') := by
  induction h with
  | nil => exact .pure rfl
  | cons hf _ ih => exact .andThen (inStep_diagnose hf) fun _ ↦ .andThen ih fun _ ↦ .pure rfl

/-- A built-in check's scan runs in step with itself on a reordered cluster. -/
theorem inStep_scan (hc : c ∈ builtin) (selection : Selection) :
    InStep Query.Reordered Eq (c.scan selection) (c.scan selection) := by
  refine .andThen (.record _) fun _ ↦ ?_
  have hlist : InStep Query.Reordered (List.Forall₂ (Shape.object c.listed).Pair)
      (c.list selection) (c.list selection) :=
    @InStep.asking _ (.list _ _ _) _ fun _ _ h ↦ h
  refine .bind hlist fun objects objects' hobjects ↦ ?_
  refine .bind (inStep_lookAll hc .nil hobjects) fun found found' hfound ↦ ?_
  exact inStep_diagnoseAll hfound

end Check

/-! ### Whole runs -/

/-- So does a run of any built-in checks, by induction on the list of checks. -/
theorem inStep_examineAll {checks : List Check} (hchecks : ∀ c ∈ checks, c ∈ Check.builtin)
    (selection : Selection) :
    InStep Query.Reordered Eq (examineAll selection (checks.map Check.analyzer))
      (examineAll selection (checks.map Check.analyzer)) := by
  induction checks with
  | nil => exact .pure rfl
  | cons c checks ih =>
    rw [List.forall_mem_cons] at hchecks
    rw [examineAll_cons]
    refine .andThen .check fun _ ↦ .andThen (Check.inStep_scan hchecks.1 selection) fun found ↦ ?_
    exact .andThen (ih hchecks.2) fun others ↦ .pure rfl

/-- Against two clusters that answer each access with the same snapshots of the declared shapes but
for the order of the entries of maps, a run of built-in analyzers gives the same diagnoses, or ends
in the same fault, and it makes the same accesses with the same arguments, at the same times, and
leaves the same gauge. -/
theorem examineAll_run_reordered {σ τ : Type} {R : σ → τ → Prop} {source : Source σ}
    {source' : Source τ} (hsource : source.Paired Query.Reordered R source')
    {checks : List Check} (hchecks : ∀ c ∈ checks, c ∈ Check.builtin) (selection : Selection)
    (deadline : Option Deadline) {w : World σ} {w' : World τ} (hw : w.Paired R w') :
    let run := (examineAll selection (checks.map Check.analyzer)).run source deadline w
    let run' := (examineAll selection (checks.map Check.analyzer)).run source' deadline w'
    run.1 = run'.1 ∧ run.2.asked = run'.2.asked ∧ run.2.moment = run'.2.moment ∧
      run.2.gauge = run'.2.gauge ∧ R run.2.cluster run'.2.cluster := by
  obtain ⟨hresult, hworld⟩ := (inStep_examineAll hchecks selection).run hsource deadline hw
  exact ⟨hresult.eq, hworld.asked, hworld.moment, hworld.gauge, hworld.cluster⟩

namespace TwoOrders

/-- A network policy that selects pods by two labels. The entries of its maps are in one of two
orders. -/
def policy (reversed : Bool) : Value :=
  let labels := [("app", Value.str "web"), ("tier", .str "front")]
  let metadata := Value.map [("name", .str "p"), ("namespace", .str "n")]
  let spec := Value.map [("pod_selector", .map [
    ("match_labels", .map (if reversed then labels.reverse else labels))])]
  let sections := [("metadata", metadata), ("spec", spec)]
  .map (if reversed then sections.reverse else sections)

/-- The objects of a cluster with this policy. -/
def objects (reversed : Bool) (kind : String) : List Value :=
  if kind = "NetworkPolicy" then [policy reversed] else []

def cluster (reversed : Bool) : Source Unit where
  answer
    | .list kind _ _, _, m, s => (.ok (objects reversed kind), m, s)
    | .get _ _ _, _, m, s => (.ok none, m, s)
    | .events _ _ _, _, m, s => (.ok [], m, s)
    | .log _ _ _ _, _, m, s => (.ok none, m, s)

def start : World Unit where
  moment := ⟨.zero, false⟩
  cluster := ()

/-- The two network policies below differ in the order of their selector's labels. -/
theorem reordered_policy : (policy false).Reordered (policy true) := by
  have hmetadata : (Value.map [("name", .str "p"), ("namespace", .str "n")]).Reordered
      (.map [("name", .str "p"), ("namespace", .str "n")]) :=
    .of_perm (by decide) (.refl _) (.cons ⟨rfl, .atom rfl⟩ (.cons ⟨rfl, .atom rfl⟩ .nil))
  have hlabels : (Value.map [("app", .str "web"), ("tier", .str "front")]).Reordered
      (.map [("tier", .str "front"), ("app", .str "web")]) :=
    .of_perm (by decide) (.swap _ _ _) (.cons ⟨rfl, .atom rfl⟩ (.cons ⟨rfl, .atom rfl⟩ .nil))
  refine .of_perm (by decide) (.swap _ _ _) (.cons ⟨rfl, ?_⟩ (.cons ⟨rfl, hmetadata⟩ .nil))
  refine .of_perm (by decide) (.refl _) (.cons ⟨rfl, ?_⟩ .nil)
  exact .of_perm (by decide) (.refl _) (.cons ⟨rfl, hlabels⟩ .nil)

theorem forall₂_objects (kind : String) :
    List.Forall₂ (Shape.object kind).Pair (objects false kind) (objects true kind) := by
  unfold objects
  split
  · next hkind =>
    subst hkind
    exact .cons ⟨rfl, reordered_policy⟩ .nil
  · exact .nil

/-- The two clusters below answer every question with paired objects. -/
theorem paired_cluster :
    (cluster false).Paired Query.Reordered (fun _ _ ↦ True) (cluster true) where
  told q _ _ _ _ _ := by
    cases q with
    | list kind scope selector => exact .ok (forall₂_objects kind)
    | get kind scope name => exact .ok .none
    | events scope name most => exact .ok .nil
    | log pod scope container lastLines => rfl
  moment q _ _ _ _ _ := by cases q <;> rfl
  state _ _ _ _ _ _ := trivial

/-- The diagnosis that both clusters lead to. -/
def diagnosis : Diagnosis where
  kind := "NetworkPolicy"
  name := "n/p"
  failures := [⟨"Network policy is not applied to any pods: p", [.of "p"]⟩]

/-- The selector text written for the policy's two labels. -/
theorem selectorText_labels :
    Detect.selectorText (.map [("app", .str "web"), ("tier", .str "front")]) =
      .ok "app=web,tier=front" := by
  have hsorted : ["app", "tier"].mergeSort = ["app", "tier"] :=
    List.mergeSort_of_pairwise (by decide)
  rw [Detect.selectorText, Value.sortedKeys]
  simp only [List.map_cons, List.map_nil, hsorted]
  rfl

/-- What the check asks for the policy: the pods its selector names. -/
theorem detect_policy :
    Check.networkPolicy.detect (policy false) =
      Scan.ask (.list "Pod" (.str "n") (.str "app=web,tier=front")) >>= fun pods : List Value ↦
        if pods.isEmpty then do
          return [← Scan.lift
            (Detect.failure "Network policy is not applied to any pods: p" [.str "p"])]
        else return [] := by
  change (liftM (Detect.selectorText (.map [("app", .str "web"), ("tier", .str "front")])) >>= _ :
    Scan (List Failure)) = _
  rw [selectorText_labels]
  rfl

theorem run_policy :
    (examineAll {} ([Check.networkPolicy].map Check.analyzer)).run (cluster false) none start =
      (.ok [diagnosis], { start with asked :=
        [⟨.list "NetworkPolicy" (.str "") (.str ""), .null, start.moment⟩,
          ⟨.list "Pod" (.str "n") (.str "app=web,tier=front"), .null, start.moment⟩] }) := by
  have hlook : Check.networkPolicy.look [] (policy false) =
      Scan.check >>= fun _ ↦ Check.networkPolicy.detect (policy false) >>= fun failures ↦
        if failures.isEmpty then return []
        else do
          let key ← Check.keyOf (policy false)
          Check.networkPolicy.recordFailures (policy false) failures.length
          return Finding.put ⟨key, policy false, failures⟩ [] := rfl
  rw [detect_policy] at hlook
  have hrun : (examineAll {} ([Check.networkPolicy].map Check.analyzer)).run (cluster false) none
      start = (((Check.networkPolicy.look [] (policy false) >>= fun found ↦
        Check.networkPolicy.lookAll found []) >>= Check.networkPolicy.diagnoseAll) >>= fun ds ↦
          examineAll {} [] >>= fun others ↦ pure (ds ++ others)).run (cluster false) none
        { start with
          asked := [⟨.list "NetworkPolicy" (.str "") (.str ""), .null, start.moment⟩] } := rfl
  rw [hrun, hlook]
  rfl

theorem examineAll_run_reordered_policy :
    (cluster false).Paired Query.Reordered (fun _ _ ↦ True) (cluster true) ∧
      (∀ c ∈ [Check.networkPolicy], c ∈ Check.builtin) ∧
      start.Paired (fun _ _ ↦ True) start ∧
      ((examineAll {} ([Check.networkPolicy].map Check.analyzer)).run (cluster true) none start).1 =
        .ok [diagnosis] ∧
      ((examineAll {} ([Check.networkPolicy].map Check.analyzer)).run (cluster true) none
          start).2.asked =
        [⟨.list "NetworkPolicy" (.str "") (.str ""), .null, start.moment⟩,
          ⟨.list "Pod" (.str "n") (.str "app=web,tier=front"), .null, start.moment⟩] := by
  have hchecks : ∀ c ∈ [Check.networkPolicy], c ∈ Check.builtin := by
    simp [Check.builtin, Check.core, Check.additional]
  have hstart : start.Paired (fun _ _ ↦ True) start := ⟨rfl, trivial, rfl, rfl⟩
  obtain ⟨hresult, hasked, -⟩ := examineAll_run_reordered paired_cluster hchecks {} none hstart
  rw [run_policy] at hresult hasked
  exact ⟨paired_cluster, hchecks, hstart, hresult.symm, hasked.symm⟩

end TwoOrders

end ClusterDiagnosis
