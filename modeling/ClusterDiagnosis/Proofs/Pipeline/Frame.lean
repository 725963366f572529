import ClusterDiagnosis.Proofs.Analyzer.Blocks
import ClusterDiagnosis.Proofs.Pipeline.Course
import ClusterDiagnosis.Proofs.Scan.Contract

/-!
# What a run leaves alone

A scan makes fresh diagnoses: they have neither an explanation nor a manifest
(`fresh_of_run_examineAll`). The enrichment adds these two, to the diagnoses for which they are
wanted, and changes nothing else; and if no explanations are wanted, then it does nothing at all, so
that neither the service nor what is said about manifests and masks makes a difference to a run.
-/

set_option autoImplicit false
set_option relaxedAutoImplicit false

namespace ClusterDiagnosis

variable {σ τ : Type} {source : Source σ} {deadline : Option Deadline} {checks : List Check}

/-! ### Fresh diagnoses -/

/-- A diagnosis to which nothing was added. -/
def Diagnosis.Fresh (d : Diagnosis) : Prop :=
  d.explanation = .str "" ∧ d.manifest = ""

namespace Check

theorem meets_diagnose_fresh (c : Check) (f : Finding) :
    (c.diagnose f).Meets .free Diagnosis.Fresh := by
  rw [diagnose_eq]
  exact .bind (.free _) fun name _ ↦ .bind (.free _) fun owner _ ↦ .pure ⟨rfl, rfl⟩

end Check

/-- Diagnoses come out of a scan without explanations and manifests. -/
theorem meets_examineAll_fresh (selection : Selection) (checks : List Check) :
    (examineAll selection (checks.map Check.analyzer)).Meets .free fun ds ↦ ∀ d ∈ ds, d.Fresh := by
  induction checks with
  | nil => exact .pure (List.forall_mem_nil _)
  | cons c checks ih =>
    rw [examineAll_cons]
    refine .bind (.free _) fun _ _ ↦ ?_
    refine .bind (Check.meets_scan_free c.meets_diagnose_fresh selection) fun found hfound ↦
      .bind ih fun others hothers ↦ .pure ?_
    exact List.forall_mem_append.mpr ⟨hfound, hothers⟩

theorem fresh_of_run_examineAll {selection : Selection} {w w' : World σ} {found : List Diagnosis}
    (h : (examineAll selection (checks.map Check.analyzer)).run source deadline w =
      (.ok found, w')) : ∀ d ∈ found, d.Fresh := by
  have hrun := (meets_examineAll_fresh selection checks).run
    (Contract.free_heldBy source deadline) w
  rw [h] at hrun
  exact hrun.1

/-! ### Enriched diagnoses -/

namespace Enrichment

variable {plan : Plan} {d d' : Diagnosis} {calls : List CompletionCall}

/-- A fresh diagnosis gets an explanation only if one is wanted, and a manifest only if one is
wanted for its kind. -/
theorem Enriched.wanted (h : Enriched plan deadline d calls d') (hd : d.Fresh) :
    (d'.explanation ≠ .str "" → plan.explain = true) ∧
      (d'.manifest ≠ "" → plan.explain = true ∧ plan.fix = true ∧ d'.kind ∈ fixableKinds) := by
  have hkind : d'.kind = d.kind := by rw [h.eq_with]
  constructor
  · intro hexplanation
    by_contra hplan
    exact hexplanation ((h.explanation_eq (Bool.eq_false_iff.mpr hplan)).trans hd.1)
  · intro hmanifest
    rw [hkind, ← wantsManifest_eq_true_iff]
    by_contra hwants
    exact hmanifest ((h.manifest_eq (Bool.eq_false_iff.mpr hwants)).trans hd.2)

end Enrichment

/-! ### What is given out -/

namespace Output

/-- Of what a run is asked to do, only the form of the report and the place for files matter to what
is given out. -/
theorem give_congr {plan plan' : Plan} (hjson : plan'.asJson = plan.asJson)
    (hdir : plan'.outputDir = plan.outputDir) (ds : List Diagnosis) (o : Output) :
    give plan' ds o = give plan ds o := by
  have hwrite : writeManifests plan' ds = writeManifests plan ds := by
    induction ds with
    | nil => rfl
    | cons d ds ih =>
      funext o
      simp only [writeManifests, hjson, hdir, ih]
  simp only [give, report, hjson, hwrite]

end Output

/-! ### Whole runs -/

section Runs

variable {plan : Plan} {analyzers : List Analyzer}

theorem served_of_unexplained (h : plan.explain = false)
    (service : Option (CompletionService τ)) : plan.explain = true → service ≠ none :=
  fun hexplain ↦ absurd hexplain (by simp [h])

/-- Without explanations the service has no part in a run. -/
theorem analyze_of_unexplained (h : plan.explain = false)
    (service : Option (CompletionService τ)) (s : Session σ τ) :
    analyze plan source service deadline analyzers s =
      match (examineAll plan.selection analyzers).run source deadline s.world with
      | (.error f, w) => (.error f, { s with world := w })
      | (.ok found, w) => ((Output.give plan found s.output).1.map fun _ ↦ found,
          ⟨w, s.completion, (Output.give plan found s.output).2⟩) := by
  have hserved := served_of_unexplained h service
  rcases hscan : (examineAll plan.selection analyzers).run source deadline s.world
    with ⟨f | found, w⟩
  · exact analyze_of_scan_error hserved hscan
  · exact analyze_of_enrich_ok hserved hscan
      (Enrichment.enrichAll_of_unexplained h service deadline found w.moment s.completion)

/-- Without explain a run makes no calls. -/
theorem callsMade_of_unexplained (h : plan.explain = false)
    (service : Option (CompletionService τ)) (s : Session σ τ) :
    callsMade plan source service deadline analyzers s = [] := by
  rw [callsMade, analyze_of_unexplained h]
  rcases (examineAll plan.selection analyzers).run source deadline (s.logging []).world
    with ⟨f | found, w⟩ <;> rfl

/-- Without explanations, runs that are asked for the same scan and the same form of report come to
the same and leave the same, whatever services they have. -/
theorem analyze_congr_of_unexplained {τ' : Type} (plan plan' : Plan) (s : Session σ τ)
    (s' : Session σ τ') (service : Option (CompletionService τ))
    (service' : Option (CompletionService τ')) (h : plan.explain = false)
    (h' : plan'.explain = false) (hselection : plan'.selection = plan.selection)
    (hjson : plan'.asJson = plan.asJson) (hdir : plan'.outputDir = plan.outputDir)
    (hworld : s'.world = s.world) (houtput : s'.output = s.output) :
    let run := analyze plan source service deadline analyzers s
    let run' := analyze plan' source service' deadline analyzers s'
    run'.1 = run.1 ∧ run'.2.output = run.2.output ∧ run'.2.world = run.2.world := by
  intro run run'
  simp only [run, run', analyze_of_unexplained h, analyze_of_unexplained h', hselection, hworld,
    houtput, Output.give_congr hjson hdir]
  rcases (examineAll plan.selection analyzers).run source deadline s.world with ⟨f | found, w⟩
  · exact ⟨rfl, rfl, rfl⟩
  · exact ⟨rfl, rfl, rfl⟩

end Runs

/-- What a run gives are the diagnoses of its scan, each at its place, and none with more than an
explanation and a manifest added to it: an explanation only if explanations are wanted, a manifest
only if manifests are wanted as well, for kinds that have them. If no explanations are wanted, then
runs that differ in nothing but the service, the wish for manifests and the masking come to the
same, leave the same, and make no calls. -/
theorem analyze_frame (plan : Plan) (source : Source σ) (service : Option (CompletionService τ))
    (deadline : Option Deadline) (checks : List Check) (s : Session σ τ) :
    (∀ ds s', analyze plan source service deadline (checks.map Check.analyzer) s = (.ok ds, s') →
      (∃ found w, (examineAll plan.selection (checks.map Check.analyzer)).run source deadline
          s.world = (.ok found, w) ∧
        List.Forall₂ (fun d d' ↦
          d' = { d with explanation := d'.explanation, manifest := d'.manifest }) found ds) ∧
      ∀ d ∈ ds, (d.explanation ≠ .str "" → plan.explain = true) ∧
        (d.manifest ≠ "" →
          plan.explain = true ∧ plan.fix = true ∧ d.kind ∈ Enrichment.fixableKinds)) ∧
    (plan.explain = false →
      ∀ (τ' : Type) (service' : Option (CompletionService τ')) (t' : τ') (fix anonymize : Bool),
        let run := analyze plan source service deadline (checks.map Check.analyzer) s
        let plan' := { plan with fix, anonymize }
        let s' : Session σ τ' := ⟨s.world, t', s.output⟩
        let run' := analyze plan' source service' deadline (checks.map Check.analyzer) s'
        run'.1 = run.1 ∧ run'.2.output = run.2.output ∧ run'.2.world = run.2.world ∧
          callsMade plan source service deadline (checks.map Check.analyzer) s = [] ∧
          callsMade plan' source service' deadline (checks.map Check.analyzer) s' = []) := by
  constructor
  · intro ds s' hrun
    obtain ⟨found, w, calls, hscan, hall⟩ := exists_enrichedAll_of_analyze hrun
    have hfresh := fresh_of_run_examineAll hscan
    refine ⟨⟨found, w, hscan, hall.forall₂ fun d _ d' calls h ↦ h.eq_with⟩, fun d' hd' ↦ ?_⟩
    obtain ⟨d, hd, calls, h⟩ := hall.exists_enriched d' hd'
    exact h.wanted (hfresh d hd)
  · intro hplan τ' service' t' fix anonymize run plan' s'
    have hplan' : plan'.explain = false := hplan
    obtain ⟨hresult, houtput, hworld⟩ := analyze_congr_of_unexplained plan plan' s s' service
      service' hplan hplan' rfl rfl rfl rfl rfl
    exact ⟨hresult, houtput, hworld, callsMade_of_unexplained hplan service s,
      callsMade_of_unexplained hplan' service' s'⟩

namespace TwoPods

/-- A service with one explanation and one manifest for everything. -/
def advisor : CompletionService Unit where
  explain _ m s := (.ok (.str "Add a node."), m, s)
  correct _ _ m s := (.ok "apiVersion: v1", m, s)

/-- A run that asks for everything. -/
def thorough : Plan where
  explain := true
  fix := true
  anonymize := true

def enriched : Diagnosis :=
  { diagnosis with explanation := .str "Add a node.", manifest := "apiVersion: v1" }

def session : Session Unit Unit where
  world := start
  completion := ()

theorem analyze_thorough :
    (analyze thorough cluster (some advisor) none
      ([Check.pod].map Check.analyzer) session).1.toOption = some [enriched] := by
  decide +kernel

theorem analyze_frame_twoPods :
    (∃ s', analyze thorough cluster (some advisor) none ([Check.pod].map Check.analyzer) session =
        (.ok [enriched], s') ∧
      (∃ found w, (examineAll {} ([Check.pod].map Check.analyzer)).run cluster none start =
          (.ok found, w) ∧
        List.Forall₂ (fun d d' ↦
          d' = { d with explanation := d'.explanation, manifest := d'.manifest })
            found [enriched]) ∧
      enriched.explanation ≠ .str "" ∧ enriched.manifest ≠ "" ∧
      enriched.kind ∈ Enrichment.fixableKinds) ∧
    ({} : Plan).explain = false ∧
      (analyze { fix := true, anonymize := true } cluster (some advisor) none
          ([Check.pod].map Check.analyzer) session).1 =
        (analyze {} cluster (none : Option (CompletionService Unit)) none
          ([Check.pod].map Check.analyzer) session).1 := by
  have hrun : ∃ s', analyze thorough cluster (some advisor) none
      ([Check.pod].map Check.analyzer) session = (.ok [enriched], s') := by
    have h := analyze_thorough
    rcases hresult : analyze thorough cluster (some advisor) none
      ([Check.pod].map Check.analyzer) session with ⟨f | ds, s'⟩
    · rw [hresult] at h
      cases h
    · rw [hresult] at h
      exact ⟨s', by rw [Option.some.inj h]⟩
  obtain ⟨s', hrun⟩ := hrun
  obtain ⟨hscan, hwanted⟩ := (analyze_frame thorough cluster (some advisor) none [Check.pod]
    session).1 [enriched] s' hrun
  have hmanifest : enriched.manifest ≠ "" := by decide
  have hkind := ((hwanted enriched List.mem_cons_self).2 hmanifest).2.2
  have hbrief := (analyze_frame {} cluster (none : Option (CompletionService Unit)) none
    [Check.pod] session).2 rfl Unit (some advisor) () true true
  exact ⟨⟨s', hrun, hscan, by decide, hmanifest, hkind⟩, rfl, hbrief.1⟩

end TwoPods

end ClusterDiagnosis
