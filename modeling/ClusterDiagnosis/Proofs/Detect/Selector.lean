import ClusterDiagnosis.Proofs.Detect.References
import ClusterDiagnosis.Proofs.Text.Parts
import ClusterDiagnosis.Proofs.Value.Entries

/-!
# Selectors and the labels that they ask for

A selector is written as a text of `key=value` parts, and whoever lists objects by it has to cut the
text at its commas, and each part at its first equals sign (`Selector.labels`). For labels whose
keys and values hold no separator in the wrong place (`Selector.Separable`) that gives the labels
back (`exists_selectorText`). So a network policy is reported as applied to no pod exactly if there
is no pod that it selects (`networkPolicy_selects`), at every source that lists pods by namespaces
and by this reading of selectors.
-/

set_option autoImplicit false
set_option relaxedAutoImplicit false

namespace ClusterDiagnosis

/-! ### Reading selectors -/

namespace Selector

/-- The label that a part of a selector asks for; none if it has no equals sign. -/
def label? (part : List Char) : Option (String × String) :=
  (Text.cutFirst? '=' part).map fun cut ↦ (String.ofList cut.1, String.ofList cut.2)

/-- The labels that a selector asks for. -/
def labels (selector : String) : List (String × String) :=
  (Text.splitAt ',' selector.toList).filterMap label?

/-- Labels that a selector can tell apart: no key occurs twice, and where a comma or an equals sign
would be mistaken for a separator there is none. A value may hold equals signs. -/
structure Separable (labels : List (String × String)) : Prop where
  nodup : (labels.map Prod.fst).Nodup
  keys : ∀ e ∈ labels, ',' ∉ e.1.toList ∧ '=' ∉ e.1.toList
  values : ∀ e ∈ labels, ',' ∉ e.2.toList

/-- A label as a part of a selector. -/
def part (e : String × String) : String :=
  e.1 ++ "=" ++ e.2

variable {e : String × String}

theorem toList_part (e : String × String) : (part e).toList = e.1.toList ++ '=' :: e.2.toList := by
  simp [part]

/-- One part of a selector is read back as the label it was written for. -/
theorem label?_part (h : '=' ∉ e.1.toList) : label? (part e).toList = some e := by
  rw [label?, toList_part, Text.cutFirst?_append_cons h, Option.map_some, String.ofList_toList,
    String.ofList_toList]

/-- A part has no comma in it if its label has none. -/
theorem comma_notMem_part (hkey : ',' ∉ e.1.toList) (hvalue : ',' ∉ e.2.toList) :
    ',' ∉ (part e).toList := by
  rw [toList_part, List.mem_append, List.mem_cons]
  rintro (h | h | h)
  · exact hkey h
  · exact absurd h (by decide)
  · exact hvalue h

/-- Parts with commas between them are read as their labels, in the same order. -/
theorem labels_intercalate {es : List (String × String)}
    (hkeys : ∀ e ∈ es, ',' ∉ e.1.toList ∧ '=' ∉ e.1.toList) (hvalues : ∀ e ∈ es, ',' ∉ e.2.toList) :
    labels (",".intercalate (es.map part)) = es := by
  cases es with
  | nil => rfl
  | cons e es =>
    have hparts : ∀ cs ∈ (e :: es).map fun e ↦ (part e).toList, ',' ∉ cs := by
      intro cs hcs
      obtain ⟨e', he', rfl⟩ := List.mem_map.mp hcs
      exact comma_notMem_part (hkeys e' he').1 (hvalues e' he')
    have hcut : Text.splitAt ',' (",".intercalate ((e :: es).map part)).toList =
        (e :: es).map fun e ↦ (part e).toList := by
      rw [String.toList_intercalate, List.map_map]
      exact Text.splitAt_intercalate (List.cons_ne_nil _ _) hparts
    rw [labels, hcut, List.filterMap_map]
    refine (List.filterMap_congr fun e' he' ↦ ?_).trans (List.filterMap_some ..)
    exact label?_part (hkeys e' he').2

end Selector

/-- A map of labels. -/
def Value.ofLabels (labels : List (String × String)) : Value :=
  .map (labels.map fun e ↦ (e.1, .str e.2))

namespace Detect

open Scan Shape

variable {labels : List (String × String)}

/-! ### Writing selectors -/

/-- The labels in the order of their keys. -/
def inKeyOrder (labels : List (String × String)) : List (String × String) :=
  (labels.map Prod.fst).mergeSort.map fun key ↦ (key, (entryAt? key labels).getD "")

/-- Labels in the order of their keys are the same labels. -/
theorem inKeyOrder_perm (hnodup : (labels.map Prod.fst).Nodup) :
    (inKeyOrder labels).Perm labels := by
  have hsame : (labels.map Prod.fst).map (fun key ↦ (key, (entryAt? key labels).getD "")) =
      labels := by
    rw [List.map_map]
    refine (List.map_congr_left fun e he ↦ ?_).trans (List.map_id labels)
    have hentry : entryAt? e.1 labels = some e.2 := (entryAt?_eq_some_iff hnodup).mpr he
    rw [Function.comp_apply, hentry]
    rfl
  have hkeys : (labels.map Prod.fst).mergeSort.Perm (labels.map Prod.fst) :=
    List.mergeSort_perm _ _
  have hperm := hkeys.map fun key ↦ (key, (entryAt? key labels).getD "")
  rwa [hsame] at hperm

/-- A selector is written part by part, in the order of the keys. -/
theorem selectorText_ofLabels (labels : List (String × String)) :
    selectorText (.ofLabels labels) =
      .ok (",".intercalate ((inKeyOrder labels).map Selector.part)) := by
  have hkeys : (Value.ofLabels labels).sortedKeys =
      .ok ((labels.map Prod.fst).mergeSort.map .str) := by
    rw [Value.ofLabels, Value.sortedKeys, List.map_map]
    rfl
  have hpart : ∀ key ∈ (labels.map Prod.fst).mergeSort.map Value.str,
      (do return key.text ++ "=" ++ (← (Value.ofLabels labels).item key).text :
        Except Fault String) =
      .ok (key.text ++ "=" ++ (entryAt? key.text labels).getD "") := by
    intro v hv
    obtain ⟨key, hkey, rfl⟩ := List.mem_map.mp hv
    obtain ⟨value, hvalue⟩ : ∃ value, entryAt? key labels = some value := by
      rw [← Option.ne_none_iff_exists', ne_eq, entryAt?_eq_none_iff, not_not]
      exact List.mem_mergeSort.mp hkey
    have hitem : (Value.ofLabels labels).item (.str key) = .ok (.str value) := by
      rw [Value.ofLabels, Value.item, entryAt?_map, hvalue]
      rfl
    have htext : (Value.str key).text = key := rfl
    rw [hitem, htext, hvalue]
    rfl
  rw [selectorText, hkeys, ok_bind, mapM_eq_ok_map hpart, ok_bind, inKeyOrder, List.map_map,
    List.map_map]
  rfl

/-- Labels that can be told apart are what their selector asks for. -/
theorem exists_selectorText (h : Selector.Separable labels) :
    ∃ selector, selectorText (.ofLabels labels) = .ok selector ∧
      (Selector.labels selector).Perm labels := by
  have hperm : (inKeyOrder labels).Perm labels := inKeyOrder_perm h.nodup
  refine ⟨_, selectorText_ofLabels labels, ?_⟩
  rw [Selector.labels_intercalate (fun e he ↦ h.keys e (hperm.mem_iff.mp he))
    fun e he ↦ h.values e (hperm.mem_iff.mp he)]
  exact hperm

/-! ### Objects with labels -/

/-- An object carries labels if it has each of them with the same value. -/
def Carries (labels : List (String × String)) (object : Value) : Prop :=
  ∀ e ∈ labels, ((object.partAt "metadata").partAt "labels").at? e.1 = some (.str e.2)

/-- An object is in a namespace; the empty one stands for all. -/
def IsIn (scope : String) (object : Value) : Prop :=
  scope = "" ∨ scopeOf object = scope

instance (labels : List (String × String)) (object : Value) : Decidable (Carries labels object) :=
  inferInstanceAs (Decidable (∀ e ∈ labels, _ = _))

instance (scope : String) (object : Value) : Decidable (IsIn scope object) :=
  inferInstanceAs (Decidable (_ ∨ _))

/-- Whether an object carries labels does not depend on their order. -/
theorem carries_congr {labels' : List (String × String)} (h : labels.Perm labels')
    (object : Value) : Carries labels object ↔ Carries labels' object :=
  forall_congr' fun _ ↦ imp_congr_left h.mem_iff

end Detect

/-- A source that lists pods by namespaces and by the labels that selectors ask for. Which pods
there are may change with its state. -/
def Source.ListsPods {σ : Type} (source : Source σ) (pods : σ → List Value) : Prop :=
  ∀ scope selector limit m s, ∃ listed : List Value,
    (source.answer (.list "Pod" (.str scope) (.str selector)) limit m s).1 = .ok listed ∧
      ∀ pod, pod ∈ listed ↔
        pod ∈ pods s ∧ Detect.IsIn scope pod ∧ Detect.Carries (Selector.labels selector) pod

/-- The source that lists the pods of a cluster and tells of nothing else. -/
def Source.withPods (pods : List Value) : Source Unit where
  answer
    | .list "Pod" (.str scope) (.str selector), _, m, s =>
      (.ok (pods.filter fun pod ↦
        Detect.IsIn scope pod ∧ Detect.Carries (Selector.labels selector) pod), m, s)
    | .list _ _ _, _, m, s => (.ok [], m, s)
    | .get _ _ _, _, m, s => (.ok none, m, s)
    | .events _ _ _, _, m, s => (.ok [], m, s)
    | .log _ _ _ _, _, m, s => (.ok none, m, s)

/-- The source made of a list of pods lists those that are selected. -/
theorem Source.listsPods_withPods (pods : List Value) :
    (Source.withPods pods).ListsPods fun _ ↦ pods :=
  fun _ _ _ _ _ ↦ ⟨_, rfl, fun _ ↦ by rw [List.mem_filter, decide_eq_true_iff]⟩

namespace Detect

open Scan Shape

/-! ### Network policies -/

namespace NetworkPolicy

/-- The labels by which a network policy selects pods. -/
def matchLabels (policy : Value) : Value :=
  ((policy.partAt "spec").partAt "pod_selector").partAt "match_labels"

/-- The failure of a network policy that selects no pod. -/
def unapplied (policy : Value) : Failure :=
  ⟨"Network policy is not applied to any pods: " ++ nameOf policy, hidden [nameOf policy]⟩

end NetworkPolicy

open NetworkPolicy

variable {labels : List (String × String)} {σ : Type} {source : Source σ}
  {deadline : Option Deadline} {w : World σ} {pods : σ → List Value} {policy : Value}
  {selector : String}

/-- The listing of the pods of a namespace that a selector asks for. -/
def listPods (scope selector : String) : Scan (List Value) :=
  Scan.ask (.list "Pod" (.str scope) (.str selector))

/-- While there is time left, listing gives exactly the pods in scope that carry the labels. -/
theorem exists_run_listPods (hsource : source.ListsPods pods)
    (hover : runOver? deadline w.moment = none) (scope selector : String) :
    ∃ listed : List Value, ((listPods scope selector).run source deadline w).1 = .ok listed ∧
      ∀ pod, pod ∈ listed ↔
        pod ∈ pods w.cluster ∧ IsIn scope pod ∧ Carries (Selector.labels selector) pod := by
  obtain ⟨listed, hanswer, hlisted⟩ :=
    hsource scope selector (.seconds (timeLeft deadline w.moment)) w.moment w.cluster
  have hrun := @run_ask σ source deadline (.list "Pod" (.str scope) (.str selector)) w
  rw [hover] at hrun
  exact ⟨listed, (congrArg Prod.fst hrun).trans hanswer, hlisted⟩

/-- What is left of a network policy that selects pods by labels: one listing of pods. -/
theorem networkPolicy_eq (h : (Shape.object "NetworkPolicy").fits policy = true)
    (hcounts : (matchLabels policy).counts = true)
    (hselector : selectorText (matchLabels policy) = .ok selector) :
    networkPolicy policy =
      listPods (scopeOf policy) selector >>= fun pods ↦
        pure (if pods.isEmpty then [unapplied policy] else []) := by
  have hmd : Shape.metadata.fits (policy.partAt "metadata") = true := fits_partAt h rfl
  have hspec : (record [("pod_selector", labelSelector)]).fits (policy.partAt "spec") = true :=
    fits_partAt h rfl
  have hpodSelector : labelSelector.fits ((policy.partAt "spec").partAt "pod_selector") = true :=
    fits_partAt hspec rfl
  have hmetadata : policy.metadata = .ok (policy.partAt "metadata") := section_eq h rfl
  have hsection : policy.spec = .ok (policy.partAt "spec") := section_eq h rfl
  have hscope : (policy.partAt "metadata").label "namespace" = .ok (.str (scopeOf policy)) :=
    label_eq hmd rfl
  have hname : (policy.partAt "metadata").label "name" = .ok (.str (nameOf policy)) :=
    label_eq hmd rfl
  have hchosen : (policy.partAt "spec").section? "pod_selector" =
      .ok ((policy.partAt "spec").partAt "pod_selector") := section_eq hspec rfl
  have hlabels : ((policy.partAt "spec").partAt "pod_selector").section? "match_labels" =
      .ok (matchLabels policy) := labels_eq hpodSelector rfl
  rw [networkPolicy, hmetadata, liftM_ok_bind, hsection, liftM_ok_bind, hscope, liftM_ok_bind,
    hname, liftM_ok_bind, hchosen, liftM_ok_bind, hlabels, liftM_ok_bind, hcounts,
    if_neg (by decide), hselector, liftM_ok_bind]
  congr 1
  funext pods
  split
  · change lift (failure _ ([nameOf policy].map .str)) >>= (fun f ↦ pure [f]) = _
    rw [lift_failure_bind]
    rfl
  · rfl

/-- A selector can be decoded: cut at its commas and at the first equals sign of each part, it gives
back exactly the labels that it was written for. So a network policy that selects pods by such
labels is reported as applied to no pod exactly if no pod of its namespace, or of any namespace if
it has none, carries all of the labels, and if there is one nothing is reported. -/
theorem networkPolicy_selects (hlabels : Selector.Separable labels) :
    (∃ selector, selectorText (.ofLabels labels) = .ok selector ∧
      (Selector.labels selector).Perm labels) ∧
    ∀ (σ : Type) (source : Source σ) (pods : σ → List Value), source.ListsPods pods →
      ∀ policy, (Shape.object "NetworkPolicy").fits policy = true →
        matchLabels policy = .ofLabels labels → labels ≠ [] →
      ∀ deadline (w : World σ), runOver? deadline w.moment = none →
        (((networkPolicy policy).run source deadline w).1 = .ok [unapplied policy] ↔
          ¬∃ pod ∈ pods w.cluster, IsIn (scopeOf policy) pod ∧ Carries labels pod) ∧
        (((networkPolicy policy).run source deadline w).1 = .ok [] ↔
          ∃ pod ∈ pods w.cluster, IsIn (scopeOf policy) pod ∧ Carries labels pod) := by
  obtain ⟨selector, hselector, hperm⟩ := exists_selectorText hlabels
  refine ⟨⟨selector, hselector, hperm⟩, ?_⟩
  intro σ source pods hsource policy hpolicy hmatch hne deadline w hover
  have hcounts : (matchLabels policy).counts = true := by
    obtain ⟨e, es, rfl⟩ := List.exists_cons_of_ne_nil hne
    rw [hmatch]
    rfl
  obtain ⟨listed, hlist, hlisted⟩ := exists_run_listPods hsource hover (scopeOf policy) selector
  have hrun : ((networkPolicy policy).run source deadline w).1 =
      .ok (if listed.isEmpty then [unapplied policy] else []) := by
    rw [networkPolicy_eq hpolicy hcounts (hmatch ▸ hselector), run_bind,
      ← Prod.eta ((listPods _ _).run source deadline w), hlist]
    rfl
  have hselected : (∃ pod ∈ pods w.cluster, IsIn (scopeOf policy) pod ∧ Carries labels pod) ↔
      listed.isEmpty = false := by
    rw [List.isEmpty_eq_false_iff_exists_mem]
    refine exists_congr fun pod ↦ ?_
    rw [hlisted, carries_congr hperm]
  rw [hrun, hselected]
  cases listed.isEmpty <;> simp

end Detect

namespace Detect.TwoLabels

open NetworkPolicy

/-- Labels with an equals sign in one value, and nothing in the other. -/
def labels : List (String × String) :=
  [("app", "a=b"), ("tier", "")]

def pod (scope : String) (labels : List (String × String)) : Value :=
  .map [("metadata", .map [("namespace", .str scope), ("labels", .ofLabels labels)])]

def policy (scope : String) : Value :=
  .map [("metadata", .map [("name", .str "p"), ("namespace", .str scope)]),
    ("spec", .map [("pod_selector", .map [("match_labels", .ofLabels labels)])])]

/-- A pod with one of the labels, and one with both in another namespace. -/
def pods : List Value :=
  [pod "n" [("app", "a=b")], pod "m" labels]

def start : World Unit where
  moment := ⟨.zero, false⟩
  cluster := ()

/-- The labels of the example below can be told apart in a selector. -/
theorem separable_labels : Selector.Separable labels where
  nodup := by decide
  keys := by decide
  values := by decide

/-- The policy selects no pod of its namespace, but it would select one without a namespace. -/
theorem networkPolicy_selects_elsewhere :
    (∃ selector, selectorText (.ofLabels labels) = .ok selector ∧
      (Selector.labels selector).Perm labels) ∧
    ((networkPolicy (policy "n")).run (.withPods pods) none start).1 =
      .ok [unapplied (policy "n")] ∧
    ((networkPolicy (policy "")).run (.withPods pods) none start).1 = .ok [] := by
  obtain ⟨hdecoded, hpolicies⟩ := networkPolicy_selects separable_labels
  have happlied (scope : String) := hpolicies Unit (.withPods pods) (fun _ ↦ pods)
    (Source.listsPods_withPods pods) (policy scope)
  refine ⟨hdecoded, ?_, ?_⟩
  · refine (happlied "n" (by decide) (by decide) (by decide) none start rfl).1.mpr ?_
    decide
  · refine (happlied "" (by decide) (by decide) (by decide) none start rfl).2.mpr ?_
    decide

end Detect.TwoLabels

end ClusterDiagnosis
