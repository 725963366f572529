import ClusterDiagnosis.Proofs.Analyzer.Composition
import ClusterDiagnosis.Proofs.Detect.Secrets
import ClusterDiagnosis.Proofs.Pipeline.Course

/-!
# Secrets of a run

What holds of every failure that the checks of a run detect holds of every failure of its diagnoses
(`meets_examineAll_failures`). So their secrets stand in the texts of their failures, each under the
mask of its value, and no value has two masks, neither within a diagnosis nor across all of a run
(`secrets_coherent`).
-/

set_option autoImplicit false
set_option relaxedAutoImplicit false

namespace ClusterDiagnosis

open Scan

variable {P : Failure → Prop}

/-! ### From what is detected to the diagnoses -/

/-- Entering a finding keeps a property that all failures have. -/
theorem Finding.forall_failures_put {f : Finding} {found : List Finding}
    (hf : ∀ x ∈ f.failures, P x) (hfound : ∀ g ∈ found, ∀ x ∈ g.failures, P x) :
    ∀ g ∈ f.put found, ∀ x ∈ g.failures, P x := by
  induction found with
  | nil => exact List.forall_mem_singleton.mpr hf
  | cons g found ih =>
    obtain ⟨hg, hrest⟩ := List.forall_mem_cons.mp hfound
    unfold put
    split
    · exact List.forall_mem_cons.mpr ⟨hf, hrest⟩
    · exact List.forall_mem_cons.mpr ⟨hg, ih hrest⟩

namespace Check

variable {c : Check}

/-- A check that detects no failures but of a property. -/
def Detects (c : Check) (P : Failure → Prop) : Prop :=
  ∀ object, (c.detect object).Meets .free fun failures ↦ ∀ f ∈ failures, P f

/-- A look keeps a property of all failures that the check detects. -/
theorem Detects.look (h : c.Detects P) {found : List Finding}
    (hfound : ∀ g ∈ found, ∀ f ∈ g.failures, P f) (object : Value) :
    (c.look found object).Meets .free fun found ↦ ∀ g ∈ found, ∀ f ∈ g.failures, P f := by
  refine .after fun _ ↦ .bind (h object) fun failures hfailures ↦ ?_
  split
  · exact .pure hfound
  · exact .after fun key ↦ .after fun _ ↦ .pure (Finding.forall_failures_put hfailures hfound)

/-- The same of all objects of a list, by induction on the list. -/
theorem Detects.lookAll (h : c.Detects P) {found : List Finding}
    (hfound : ∀ g ∈ found, ∀ f ∈ g.failures, P f) (objects : List Value) :
    (c.lookAll found objects).Meets .free fun found ↦ ∀ g ∈ found, ∀ f ∈ g.failures, P f := by
  induction objects generalizing found with
  | nil => exact .pure hfound
  | cons object objects ih => exact .bind (h.look hfound object) fun found hfound ↦ ih hfound

/-- A diagnosis has the failures of its finding. -/
theorem meets_diagnose_failures (c : Check) (f : Finding) :
    (c.diagnose f).Meets .free fun d ↦ d.failures = f.failures := by
  rw [diagnose_eq]
  exact .after fun name ↦ .after fun owner ↦ .pure rfl

theorem meets_diagnoseAll_failures (c : Check) {found : List Finding}
    (hfound : ∀ g ∈ found, ∀ f ∈ g.failures, P f) :
    (c.diagnoseAll found).Meets .free fun ds ↦ ∀ d ∈ ds, ∀ f ∈ d.failures, P f := by
  induction found with
  | nil => exact .pure (List.forall_mem_nil _)
  | cons g found ih =>
    obtain ⟨hg, hrest⟩ := List.forall_mem_cons.mp hfound
    refine .bind (meets_diagnose_failures c g) fun d hd ↦ .bind (ih hrest) fun ds hds ↦ .pure ?_
    exact List.forall_mem_cons.mpr ⟨hd ▸ hg, hds⟩

/-- The failures in the results of a scan have the property of those that the check detects. -/
theorem Detects.scan (h : c.Detects P) (selection : Selection) :
    (c.scan selection).Meets .free fun ds ↦ ∀ d ∈ ds, ∀ f ∈ d.failures, P f :=
  .after fun _ ↦ .after fun objects ↦ .bind (h.lookAll (List.forall_mem_nil _) objects)
    fun _ hfound ↦ meets_diagnoseAll_failures c hfound

end Check

/-- So have those in the results of a run of several checks. -/
theorem meets_examineAll_failures {checks : List Check} (h : ∀ c ∈ checks, c.Detects P)
    (selection : Selection) : (examineAll selection (checks.map Check.analyzer)).Meets .free
      fun ds ↦ ∀ d ∈ ds, ∀ f ∈ d.failures, P f := by
  induction checks with
  | nil => exact .pure (List.forall_mem_nil _)
  | cons c checks ih =>
    obtain ⟨hc, hrest⟩ := List.forall_mem_cons.mp h
    rw [examineAll_cons]
    refine .after fun _ ↦ .bind (hc.scan selection) fun found hfound ↦
      .bind (ih hrest) fun others hothers ↦ .pure ?_
    exact List.forall_mem_append.mpr ⟨hfound, hothers⟩

/-! ### Secrets -/

/-- Diagnoses whose failures are coherent. -/
structure Coherent (ds : List Diagnosis) : Prop where
  failures : ∀ d ∈ ds, ∀ f ∈ d.failures, f.Coherent
  masks : ∀ d ∈ ds, ∀ d' ∈ ds, ∀ f ∈ d.failures, ∀ f' ∈ d'.failures, ∀ s ∈ f.secrets,
    ∀ s' ∈ f'.secrets, s.plain = s'.plain → s.mask = s'.mask

/-- The mask of a coherent secret is that of its value, so there is no other one for it. -/
theorem Coherent.of_failures {ds : List Diagnosis} (h : ∀ d ∈ ds, ∀ f ∈ d.failures, f.Coherent) :
    Coherent ds where
  failures := h
  masks d hd d' hd' f hf f' hf' s hs s' hs' hplain := by
    rw [(h d hd f hf s hs).mask_eq, (h d' hd' f' hf' s' hs').mask_eq, hplain]

variable {σ τ : Type} {source : Source σ} {deadline : Option Deadline} {checks : List Check}

/-- In the results of a run of built-in checks every secret stands in its failure. -/
theorem coherent_of_run_examineAll (hchecks : ∀ c ∈ checks, c ∈ Check.builtin)
    {selection : Selection} {w w' : World σ} {ds : List Diagnosis}
    (h : (examineAll selection (checks.map Check.analyzer)).run source deadline w = (.ok ds, w')) :
    Coherent ds := by
  have hrun := (meets_examineAll_failures (fun c hc ↦ Check.meets_detect_coherent (hchecks c hc))
    selection).run (Contract.free_heldBy source deadline) w
  rw [h] at hrun
  exact .of_failures hrun.1

/-- On any object, and whatever the cluster answers, each secret of a failure that a built-in check
detects says something, stands in the text of the failure, and has the mask of its value. The
diagnoses of a scan, and those that a whole run gives, have such failures, and among all their
secrets no value has two masks. -/
theorem secrets_coherent (hchecks : ∀ c ∈ checks, c ∈ Check.builtin) (source : Source σ)
    (deadline : Option Deadline) :
    (∀ c ∈ checks, ∀ object failures w w',
      (c.detect object).run source deadline w = (.ok failures, w') →
        ∀ f ∈ failures, ∀ s ∈ f.secrets,
          s.plain ≠ "" ∧ s.plain.toList <:+: f.text.toList ∧ s.mask = maskOf s.plain) ∧
    (∀ selection ds w w',
      (examineAll selection (checks.map Check.analyzer)).run source deadline w = (.ok ds, w') →
        Coherent ds) ∧
    ∀ (plan : Plan) (service : Option (CompletionService τ)) ds s s',
      analyze plan source service deadline (checks.map Check.analyzer) s = (.ok ds, s') →
        Coherent ds := by
  refine ⟨fun c hc object failures w w' h f hf s hs ↦ ?_,
    fun selection ds w w' h ↦ coherent_of_run_examineAll hchecks h, fun plan service ds s s' h ↦ ?_⟩
  · have hrun := (Check.meets_detect_coherent (hchecks c hc) object).run
      (Contract.free_heldBy source deadline) w
    rw [h] at hrun
    have hsecret := hrun.1 f hf s hs
    exact ⟨hsecret.nonempty, hsecret.occurs, hsecret.mask_eq⟩
  · obtain ⟨found, w, calls, hscan, hall⟩ := exists_enrichedAll_of_analyze h
    have hfound := coherent_of_run_examineAll hchecks hscan
    refine .of_failures fun d' hd' ↦ ?_
    obtain ⟨d, hd, calls, henriched⟩ := hall.exists_enriched d' hd'
    rw [henriched.eq_with]
    exact hfound.failures d hd

namespace Backup

/-- A suspended cron job and a node without memory, under one name. -/
def cluster : Source Unit where
  answer
    | .list "CronJob" _ _, _, m, s =>
      (.ok [.map [
        ("metadata", .map [("name", .str "backup")]),
        ("spec", .map [("suspend", .bool true)])]], m, s)
    | .list _ _ _, _, m, s =>
      (.ok [.map [
        ("metadata", .map [("name", .str "backup")]),
        ("status", .map [("conditions", .list [
          .map [("type", .str "MemoryPressure"), ("status", .str "True")]])])]], m, s)
    | .get _ _ _, _, m, s => (.ok none, m, s)
    | .events _ _ _, _, m, s => (.ok [], m, s)
    | .log _ _ _ _, _, m, s => (.ok none, m, s)

def start : World Unit where
  moment := ⟨.zero, false⟩
  cluster := ()

def diagnoses : List Diagnosis := [
  { kind := "CronJob"
    name := "backup"
    failures := [⟨"CronJob backup is suspended", [.of "backup"]⟩] },
  { kind := "Node"
    name := "backup"
    failures := [⟨"backup has condition of type MemoryPressure, reason None: None",
      [.of "backup"]⟩] }]

theorem secrets_coherent_backup :
    (∀ c ∈ [Check.cronJob, Check.node], c ∈ Check.builtin) ∧
      ((examineAll {} ([Check.cronJob, Check.node].map Check.analyzer)).run cluster none start).1 =
        .ok diagnoses ∧
      Coherent diagnoses := by
  have hchecks : ∀ c ∈ [Check.cronJob, Check.node], c ∈ Check.builtin := by
    simp [Check.builtin, Check.core, Check.additional]
  have hrun : (examineAll {} ([Check.cronJob, Check.node].map Check.analyzer)).run cluster none
      start = (.ok diagnoses, _) := Prod.ext rfl rfl
  exact ⟨hchecks, congrArg Prod.fst hrun,
    (secrets_coherent (τ := Unit) hchecks cluster none).2.1 {} diagnoses start _ hrun⟩

end Backup

end ClusterDiagnosis
