import ClusterDiagnosis.Analyzer.Registry
import ClusterDiagnosis.Proofs.Analyzer.Steady
import ClusterDiagnosis.Proofs.Value.Entries

/-!
# Kinds of diagnoses as names of analyzers

An analyzer is asked for by a name, and its diagnoses tell a kind. For all built-in analyzers but
one the two are the same: the diagnoses of `HorizontalPodAutoScaler` have the kind
`HorizontalPodAutoscaler`, which no analyzer can be asked for by. `resolve_kind` says so for every
run. Against a cluster that does not change the kind of any other diagnosis leads back to it: what a
scan gives against fixed answers is settled up to the limits of the run (`Scan.Settled`), so that
the analyzer of that name makes the diagnosis again.
-/

set_option autoImplicit false
set_option relaxedAutoImplicit false

namespace ClusterDiagnosis

open Scan

/-! ### Names and kinds of the built-in checks -/

namespace Check

/-- The built-in checks, each with the name it is asked for by. -/
def named : List (String × Check) :=
  core ++ additional

/-- Every name of the table belongs to a built-in check. -/
theorem mem_builtin_of_named {e : String × Check} (h : e ∈ named) : e.2 ∈ builtin := by
  rw [builtin, ← List.map_append]
  exact List.mem_map_of_mem h

/-- No name of the table is given twice. -/
theorem nodup_named : (named.map Prod.fst).Nodup := by
  decide

/-- The kind of the diagnoses of a check is its name, but for one that is spelled differently. -/
theorem kind_of_named {e : String × Check} (h : e ∈ named) :
    e.2.kind = if e.1 = "HorizontalPodAutoScaler" then "HorizontalPodAutoscaler" else e.1 := by
  revert e
  simp only [named, core, additional, List.cons_append, List.nil_append, List.forall_mem_cons]
  decide

/-- A diagnosis carries the kind of the check that made it. -/
theorem meets_diagnose_kind (c : Check) (f : Finding) :
    (c.diagnose f).Meets .free fun d ↦ d.kind = c.kind := by
  rw [diagnose_eq]
  exact .bind (.free _) fun name _ ↦ .bind (.free _) fun owner _ ↦ .pure rfl

end Check

/-! ### What a request is resolved to -/

namespace Registry

/-- Without integrations the merged table is the table of the built-in checks. -/
theorem merged_builtin :
    builtin.merged = Check.named.map fun e ↦ (e.1, e.2.analyzer) := by
  simp [merged, overlay, builtin, Check.named, Check.core, Check.additional, putEntry]

/-- The names that a request stands for. -/
def requested (request : List String) (withAdditional : Bool) : List String :=
  if request.isEmpty then (if withAdditional then Check.named else Check.core).map Prod.fst
  else request

/-- The merged table gives a built-in name its own check. -/
theorem entryAt?_merged_of_mem {e : String × Check} (h : e ∈ Check.named) :
    entryAt? e.1 builtin.merged = some e.2.analyzer := by
  rw [merged_builtin, entryAt?_map, (entryAt?_eq_some_iff Check.nodup_named).mpr h]
  rfl

/-- The merged table has no entry under any other name. -/
theorem entryAt?_merged_of_notMem {name : String} (h : name ∉ Check.named.map Prod.fst) :
    entryAt? name builtin.merged = none := by
  rw [merged_builtin, entryAt?_map, entryAt?_eq_none_iff.mpr h]
  rfl

/-- A request for one name gives the analyzer of that name, if there is one. -/
theorem resolve_singleton {e : String × Check} (h : e ∈ Check.named) (withAdditional : Bool) :
    builtin.resolve [e.1] withAdditional = .ok [e.2.analyzer] := by
  rw [resolve, List.isEmpty_cons, if_neg Bool.false_ne_true, lookUp, entryAt?_merged_of_mem h]
  rfl

/-- A request for one name that no built-in check has is refused with that name. -/
theorem resolve_singleton_of_notMem {name : String} (h : name ∉ Check.named.map Prod.fst)
    (withAdditional : Bool) :
    builtin.resolve [name] withAdditional = .error (.unknownAnalyzer name) := by
  rw [resolve, List.isEmpty_cons, if_neg Bool.false_ne_true, lookUp, entryAt?_merged_of_notMem h]

/-- What a successful lookup chose are entries of the table, one for each name and in their
order. -/
theorem exists_of_lookUp {names : List String} {analyzers : List Analyzer}
    (h : lookUp builtin.merged names = .ok analyzers) :
    ∃ chosen : List (String × Check), (∀ e ∈ chosen, e ∈ Check.named) ∧
      chosen.map Prod.fst = names ∧ analyzers = (chosen.map Prod.snd).map Check.analyzer := by
  induction names generalizing analyzers with
  | nil => exact ⟨[], List.forall_mem_nil _, rfl, (Except.ok.inj h).symm⟩
  | cons name names ih =>
    rw [lookUp, merged_builtin, entryAt?_map, ← merged_builtin] at h
    rcases hentry : entryAt? name Check.named with _ | c
    · rw [hentry] at h
      cases h
    · rw [hentry] at h
      dsimp only [Option.map_some] at h
      rcases hrest : lookUp builtin.merged names with f | others
      · rw [hrest] at h
        cases h
      · rw [hrest] at h
        obtain ⟨chosen, hchosen, rfl, rfl⟩ := ih hrest
        have hmem : (name, c) ∈ Check.named := mem_of_entryAt? hentry
        exact ⟨(name, c) :: chosen, List.forall_mem_cons.mpr ⟨hmem, hchosen⟩, rfl,
          (Except.ok.inj h).symm⟩

/-- A request that is resolved is resolved to the checks of the requested names, in order. -/
theorem exists_of_resolve {request : List String} {withAdditional : Bool}
    {analyzers : List Analyzer} (h : builtin.resolve request withAdditional = .ok analyzers) :
    ∃ chosen : List (String × Check), (∀ e ∈ chosen, e ∈ Check.named) ∧
      chosen.map Prod.fst = requested request withAdditional ∧
        analyzers = (chosen.map Prod.snd).map Check.analyzer := by
  rw [resolve] at h
  rw [requested]
  by_cases hempty : request.isEmpty = true
  · rw [if_pos hempty] at h
    rw [if_pos hempty]
    obtain rfl := Except.ok.inj h
    cases withAdditional with
    | false =>
      refine ⟨Check.core, fun e he ↦ List.mem_append_left _ he, rfl, ?_⟩
      rw [if_neg Bool.false_ne_true, builtin, List.map_map, List.map_map]
      rfl
    | true =>
      refine ⟨Check.named, fun e he ↦ he, rfl, ?_⟩
      rw [if_pos rfl, merged_builtin, List.map_map, List.map_map]
      rfl
  · rw [if_neg hempty] at h
    rw [if_neg hempty]
    exact exists_of_lookUp h

end Registry

/-! ### The kinds of the diagnoses of a run -/

section Run

variable {σ : Type} {source : Source σ} {deadline : Option Deadline} {selection : Selection}

/-- The diagnoses of a run stand in parts, one for each scan. -/
theorem exists_parts_of_run_examineAll {checks : List Check} {w w' : World σ}
    {ds : List Diagnosis}
    (h : (examineAll selection (checks.map Check.analyzer)).run source deadline w = (.ok ds, w')) :
    ∃ parts : List (List Diagnosis), ds = parts.flatten ∧
      List.Forall₂ (fun c part ↦ ∃ v v',
        (c.scan selection).run source deadline v = (.ok part, v')) checks parts := by
  induction checks generalizing w w' ds with
  | nil =>
    obtain ⟨hds, -⟩ := Prod.mk.inj h
    exact ⟨[], (Except.ok.inj hds).symm, .nil⟩
  | cons c checks ih =>
    rw [examineAll_cons] at h
    obtain ⟨-, v, -, h⟩ := run_bind_eq_ok_iff.mp h
    obtain ⟨found, v', hscan, h⟩ := run_bind_eq_ok_iff.mp h
    obtain ⟨others, v'', hothers, h⟩ := run_bind_eq_ok_iff.mp h
    obtain ⟨hds, -⟩ := Prod.mk.inj h
    obtain ⟨parts, rfl, hparts⟩ := ih hothers
    exact ⟨found :: parts, (Except.ok.inj hds).symm, .cons ⟨v, v', hscan⟩ hparts⟩

/-- All results of a check's scan have the check's kind. -/
theorem kind_eq_of_run_scan {c : Check} {w w' : World σ} {ds : List Diagnosis}
    (h : (c.scan selection).run source deadline w = (.ok ds, w')) : ∀ d ∈ ds, d.kind = c.kind := by
  have hrun := (Check.meets_scan_free c.meets_diagnose_kind selection).run
    (Contract.free_heldBy source deadline) w
  rw [h] at hrun
  exact hrun.1

/-- An analyzer makes a diagnosis whenever it examines a cluster with the given answers: each run
gives it, unless it ends because it is over, and one without a deadline that nothing cancels gives
it. -/
def Analyzer.Makes (a : Analyzer) (selection : Selection) (answers : Answers) (d : Diagnosis) :
    Prop :=
  ∀ (τ : Type) (source : Source τ), source.Steady answers → ∀ deadline (w : World τ),
    ((∃ ds, ((a.examine selection).run source deadline w).1 = .ok ds ∧ d ∈ ds) ∨
      ∃ f, ((a.examine selection).run source deadline w).1 = .error f ∧ f.endsRun = true) ∧
    (deadline = none → source.Patient → w.moment.cancelled = false →
      ∃ ds, ((a.examine selection).run source deadline w).1 = .ok ds ∧ d ∈ ds)

/-- A diagnosis from a check's scan is one the check makes of an object it listed. -/
theorem Check.makes {c : Check} (hc : c ∈ Check.builtin) {answers : Answers} {ds : List Diagnosis}
    (houtcome : (c.scan selection).outcome answers = .ok ds) {d : Diagnosis} (hd : d ∈ ds) :
    c.analyzer.Makes selection answers d := by
  intro τ source hsteady deadline w
  refine ⟨?_, ?_⟩
  · have hsettled : Settled source deadline answers (c.scan selection) :=
      .composed hsteady (Check.composed_scan hc selection)
    rcases hsettled w with hrun | hover
    · exact .inl ⟨ds, hrun.trans houtcome, hd⟩
    · exact .inr hover
  · rintro rfl hpatient hw
    exact ⟨ds, (run_eq_outcome hsteady hpatient _ hw).trans houtcome, hd⟩

/-- Of every run of analyzers that were asked for by names, the diagnoses stand in parts, one for
each name: those that a scan of the analyzer of this name gave. All of them have the name as their
kind, but those of the one analyzer whose name is spelled differently. So an analyzer can be asked
for by the kind of a diagnosis if and only if the diagnosis comes from another analyzer than this
one, and then, if the cluster does not change, that analyzer makes the diagnosis again. -/
theorem resolve_kind {request : List String} {withAdditional : Bool} {analyzers : List Analyzer}
    (hresolve : Registry.builtin.resolve request withAdditional = .ok analyzers)
    {w w' : World σ} {ds : List Diagnosis}
    (hrun : (examineAll selection analyzers).run source deadline w = (.ok ds, w')) :
    (∃ parts : List (List Diagnosis), ds = parts.flatten ∧
      List.Forall₂ (fun name part ↦
        (∃ a v v', (∀ b, Registry.builtin.resolve [name] b = .ok [a]) ∧
          (a.examine selection).run source deadline v = (.ok part, v')) ∧
        ∀ d ∈ part, d.kind =
          if name = "HorizontalPodAutoScaler" then "HorizontalPodAutoscaler" else name)
        (Registry.requested request withAdditional) parts) ∧
    ∀ d ∈ ds,
      (d.kind = "HorizontalPodAutoscaler" →
        ∀ b, Registry.builtin.resolve [d.kind] b = .error (.unknownAnalyzer d.kind)) ∧
      (d.kind ≠ "HorizontalPodAutoscaler" →
        ∃ a, (∀ b, Registry.builtin.resolve [d.kind] b = .ok [a]) ∧
          ∀ answers, source.Steady answers → a.Makes selection answers d) := by
  obtain ⟨chosen, hchosen, hnames, rfl⟩ := Registry.exists_of_resolve hresolve
  obtain ⟨parts, rfl, hparts⟩ := exists_parts_of_run_examineAll hrun
  rw [List.forall₂_map_left_iff] at hparts
  constructor
  · refine ⟨parts, rfl, ?_⟩
    rw [← hnames, List.forall₂_map_left_iff]
    refine ((List.forall₂_and_left chosen parts).mpr ⟨hchosen, hparts⟩).imp fun e part h ↦ ?_
    obtain ⟨hnamed, v, v', hscan⟩ := h
    refine ⟨⟨e.2.analyzer, v, v', Registry.resolve_singleton hnamed, hscan⟩, ?_⟩
    rw [← Check.kind_of_named hnamed]
    exact kind_eq_of_run_scan hscan
  · intro d hd
    obtain ⟨part, hpart, hd⟩ := List.mem_flatten.mp hd
    obtain ⟨e, he, v, v', hscan⟩ := exists_of_mem_right hparts hpart
    have hnamed : e ∈ Check.named := hchosen e he
    have hkind : d.kind = e.2.kind := kind_eq_of_run_scan hscan d hd
    rw [Check.kind_of_named hnamed] at hkind
    refine ⟨fun hautoscaler b ↦ ?_, fun hother ↦ ?_⟩
    · exact Registry.resolve_singleton_of_notMem (hautoscaler ▸ by decide) b
    · have hname : e.1 ≠ "HorizontalPodAutoScaler" := by
        intro hname
        rw [if_pos hname] at hkind
        exact hother hkind
      rw [if_neg hname] at hkind
      rw [hkind]
      refine ⟨e.2.analyzer, Registry.resolve_singleton hnamed, fun answers hsteady ↦ ?_⟩
      have hbuiltin : e.2 ∈ Check.builtin := Check.mem_builtin_of_named hnamed
      have houtcome : (e.2.scan selection).outcome answers = .ok part :=
        (Check.composed_scan hbuiltin selection).faithful hsteady v v' part hscan
      exact Check.makes hbuiltin houtcome hd

end Run

/-! ### A pod and an autoscaler -/

namespace StrayAutoscaler

/-- An autoscaler of something that cannot be scaled. -/
def stray : Value :=
  .map [
    ("metadata", .map [("name", .str "a"), ("namespace", .str "n")]),
    ("spec", .map [("scale_target_ref", .map [("kind", .str "Job"), ("name", .str "j")])])]

/-- A pod that cannot be scheduled. -/
def stuck : Value :=
  .map [
    ("metadata", .map [("name", .str "p"), ("namespace", .str "n")]),
    ("status", .map [("phase", .str "Pending"), ("conditions", .list [.map [
      ("type", .str "PodScheduled"), ("reason", .str "Unschedulable"),
      ("message", .str "no node")]])])]

/-- The answers of a cluster with these two. -/
def answers : Answers
  | .list kind _ _ =>
    .ok (if kind = "Pod" then [stuck] else if kind = "HorizontalPodAutoscaler" then [stray] else [])
  | .get _ _ _ => .ok none
  | .events _ _ _ => .ok []
  | .log _ _ _ _ => .ok none

def cluster : Source Unit where
  answer q _ m s := (answers q, m, s)

def start : World Unit where
  moment := ⟨.zero, false⟩
  cluster := ()

def request : List String := ["HorizontalPodAutoScaler", "Pod"]

/-- The diagnoses of a run over both kinds. -/
def diagnoses : List Diagnosis := [
  { kind := "HorizontalPodAutoscaler"
    name := "n/a"
    failures :=
      [⟨"HorizontalPodAutoscaler uses Job as ScaleTargetRef which is not an option.", []⟩] },
  { kind := "Pod", name := "n/p", failures := [⟨"no node", []⟩] }]

theorem resolve_request :
    Registry.builtin.resolve request false =
      .ok [Check.autoscaler.analyzer, Check.pod.analyzer] := by
  rw [Registry.resolve, Registry.merged_builtin]
  rfl

set_option maxRecDepth 2000 in
theorem run_request :
    ((examineAll {} [Check.autoscaler.analyzer, Check.pod.analyzer]).run cluster none start).1 =
      .ok diagnoses :=
  rfl

theorem resolve_kind_request :
    ∃ analyzers w', Registry.builtin.resolve request false = .ok analyzers ∧
      (examineAll {} analyzers).run cluster none start = (.ok diagnoses, w') ∧
      (∀ b, Registry.builtin.resolve ["HorizontalPodAutoscaler"] b =
        .error (.unknownAnalyzer "HorizontalPodAutoscaler")) ∧
      ∃ a, (∀ b, Registry.builtin.resolve ["Pod"] b = .ok [a]) ∧
        ∃ ds, ((a.examine {}).run cluster none start).1 = .ok ds ∧ diagnoses[1] ∈ ds := by
  have hrun : (examineAll {} [Check.autoscaler.analyzer, Check.pod.analyzer]).run cluster none
      start = (.ok diagnoses, _) := Prod.ext run_request rfl
  have hsteady : cluster.Steady answers := fun _ _ _ _ ↦ rfl
  obtain ⟨-, hall⟩ := resolve_kind resolve_request hrun
  obtain ⟨hautoscaler, -⟩ := hall diagnoses[0] (List.getElem_mem _)
  obtain ⟨-, hpod⟩ := hall diagnoses[1] (List.getElem_mem _)
  obtain ⟨a, ha, hmakes⟩ := hpod (by decide)
  refine ⟨_, _, resolve_request, hrun, hautoscaler rfl, a, ha, ?_⟩
  exact (hmakes answers hsteady Unit cluster hsteady none start).2 rfl (fun _ _ _ _ h ↦ h) rfl

/-- The kind of a diagnosis is not the name that its analyzer was asked for by, and no analyzer can
be asked for by this kind. -/
theorem kind_is_no_name :
    ∃ a d, (∀ b, Registry.builtin.resolve ["HorizontalPodAutoScaler"] b = .ok [a]) ∧
      ((examineAll {} [a]).run cluster none start).1 = .ok [d] ∧
        d.kind ≠ "HorizontalPodAutoScaler" ∧
          ∀ b, Registry.builtin.resolve [d.kind] b = .error (.unknownAnalyzer d.kind) := by
  have hnamed : ("HorizontalPodAutoScaler", Check.autoscaler) ∈ Check.named := by
    simp [Check.named, Check.core, Check.additional]
  exact ⟨_, diagnoses[0], Registry.resolve_singleton hnamed, rfl, by decide,
    Registry.resolve_singleton_of_notMem (by decide)⟩

end StrayAutoscaler

end ClusterDiagnosis
