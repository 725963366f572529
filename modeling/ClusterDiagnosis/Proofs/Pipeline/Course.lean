import ClusterDiagnosis.Proofs.Enrichment.Course
import ClusterDiagnosis.Proofs.Scan.Running

/-!
# The course of a run

A run scans, enriches and gives out, in this order, and each of the three can end it. `ScanStops`
says how a scan ends at one of its analyzers: those in front of it are done, and those behind it
have no part in the run. `Course` puts this together with the course of the enrichment, and
`course_analyze` says that it covers every run.

The calls of the completion service that a run makes are those that the same service keeps
(`callsMade`); keeping them changes nothing else (`analyze_recorded`).
-/

set_option autoImplicit false
set_option relaxedAutoImplicit false

namespace ClusterDiagnosis

variable {σ τ : Type}

/-! ### Scanning -/

section Scanning

variable {selection : Selection} {source : Source σ} {deadline : Option Deadline}
  {analyzers : List Analyzer} {w w' : World σ} {f : Fault}

/-- A scan that ends with a fault at one of the analyzers, by the check in front of it or by the
analyzer itself. What it leaves is what this analyzer left; those behind it are not run. -/
inductive ScanStops (selection : Selection) (source : Source σ) (deadline : Option Deadline)
    (w : World σ) : List Analyzer → Fault → World σ → Prop where
  | intro {former : List Analyzer} {a : Analyzer} (later : List Analyzer) {found : List Diagnosis}
      {w₁ w' : World σ} {f : Fault}
      (former_done : (examineAll selection former).run source deadline w = (.ok found, w₁))
      (stopped : (Scan.check >>= fun _ ↦ a.examine selection).run source deadline w₁ =
        (.error f, w')) :
      ScanStops selection source deadline w (former ++ a :: later) f w'

/-- A scan by several analyzers is the scan by the first, followed by that of the others. -/
theorem examineAll_cons_eq_bind (selection : Selection) (a : Analyzer)
    (analyzers : List Analyzer) :
    examineAll selection (a :: analyzers) =
      (Scan.check >>= fun _ ↦ a.examine selection) >>= fun found ↦
        examineAll selection analyzers >>= fun others ↦ pure (found ++ others) :=
  rfl

/-- Analyzers that all succeed give their results one after the other. -/
theorem run_examineAll_cons_ok {a : Analyzer} {found others : List Diagnosis} {w₁ w₂ : World σ}
    (h : (Scan.check >>= fun _ ↦ a.examine selection).run source deadline w = (.ok found, w₁))
    (hrest : (examineAll selection analyzers).run source deadline w₁ = (.ok others, w₂)) :
    (examineAll selection (a :: analyzers)).run source deadline w =
      (.ok (found ++ others), w₂) := by
  rw [examineAll_cons_eq_bind, Scan.run_bind_eq_ok_iff]
  exact ⟨found, w₁, h, Scan.run_bind_eq_ok_iff.mpr ⟨others, w₂, hrest, rfl⟩⟩

/-- A scan that fails stops at the analyzer whose examination fails. -/
theorem scanStops_of_run_examineAll
    (h : (examineAll selection analyzers).run source deadline w = (.error f, w')) :
    ScanStops selection source deadline w analyzers f w' := by
  induction analyzers generalizing w with
  | nil => cases h
  | cons a analyzers ih =>
    rw [examineAll_cons_eq_bind, Scan.run_bind_eq_error_iff] at h
    rcases h with hstopped | ⟨found, w₁, hdone, hrest⟩
    · have hformer : (examineAll selection []).run source deadline w = (.ok [], w) := rfl
      exact .intro analyzers hformer hstopped
    · rw [Scan.run_bind_eq_error_iff] at hrest
      rcases hrest with hrest | ⟨others, w₂, -, hpure⟩
      · obtain ⟨later, hformer, hstopped⟩ := ih hrest
        rw [← List.cons_append]
        exact .intro later (run_examineAll_cons_ok hdone hformer) hstopped
      · cases hpure

end Scanning

/-! ### The calls that are made -/

/-- A session whose service keeps its calls, behind those already kept. -/
def Session.logging (s : Session σ τ) (log : List CompletionCall) :
    Session σ (τ × List CompletionCall) :=
  ⟨s.world, (s.completion, log), s.output⟩

section Course

variable (plan : Plan) (source : Source σ) (service : Option (CompletionService τ))
  (deadline : Option Deadline) (analyzers : List Analyzer) (s : Session σ τ)

/-- The calls of the completion service that a run makes, in order. -/
def callsMade : List CompletionCall :=
  (analyze plan source (service.map .recorded) deadline analyzers (s.logging [])).2.completion.2

/-- The course of a run: the calls that are made, the result and what is left. -/
inductive Course : List CompletionCall → Except Fault (List Diagnosis) × Session σ τ → Prop where
  /-- Explanations are wanted and there is no service. -/
  | unserved (h : plan.explain = true) (hservice : service = none) :
      Course [] (.error .noService, s)
  /-- The scan ends with a fault. -/
  | unscanned {f : Fault} {w : World σ}
      (h : ScanStops plan.selection source deadline s.world analyzers f w) :
      Course [] (.error f, { s with world := w })
  /-- The enrichment ends with a fault. -/
  | unenriched {found : List Diagnosis} {w : World σ} {calls : List CompletionCall} {f : Fault}
      {ds : List Diagnosis} {m : Moment} {t : τ}
      (hscan : (examineAll plan.selection analyzers).run source deadline s.world = (.ok found, w))
      (henrich : Enrichment.enrichAll plan service deadline found w.moment s.completion =
        (.error f, ds, m, t))
      (h : Enrichment.StopsIn plan deadline found calls f ds m) :
      Course calls (.error f, ⟨{ w with moment := m }, t, s.output⟩)
  /-- Everything is found, enriched and given out. -/
  | given {found : List Diagnosis} {w : World σ} {calls : List CompletionCall}
      {ds : List Diagnosis} {m : Moment} {t : τ}
      (hscan : (examineAll plan.selection analyzers).run source deadline s.world = (.ok found, w))
      (henrich : Enrichment.enrichAll plan service deadline found w.moment s.completion =
        (.ok (), ds, m, t))
      (h : Enrichment.EnrichedAll plan deadline found calls ds) :
      Course calls ((Output.give plan ds s.output).1.map fun _ ↦ ds,
        ⟨{ w with moment := m }, t, (Output.give plan ds s.output).2⟩)

end Course

variable {plan : Plan} {source : Source σ} {service : Option (CompletionService τ)}
  {deadline : Option Deadline} {analyzers : List Analyzer} {s : Session σ τ}

/-! ### The stages of a run -/

section Stages

variable {found ds : List Diagnosis} {w : World σ} {f : Fault} {m : Moment} {t : τ}

/-- Explanations without a service are refused before anything is scanned. -/
theorem analyze_of_unserved (h : plan.explain = true) :
    analyze plan source none deadline analyzers s = (.error .noService, s) := by
  simp only [analyze, h, Option.isNone_none, Bool.and_true, if_true]

theorem unserved_eq_false (h : plan.explain = true → service ≠ none) :
    (plan.explain && service.isNone) = false := by
  rw [Bool.and_eq_false_imp]
  exact fun hexplain ↦ Option.isNone_eq_false_iff.mpr (Option.isSome_iff_ne_none.mpr (h hexplain))

/-- A scan that fails ends the run, and no service is asked. -/
theorem analyze_of_scan_error (h : plan.explain = true → service ≠ none)
    (hscan : (examineAll plan.selection analyzers).run source deadline s.world = (.error f, w)) :
    analyze plan source service deadline analyzers s = (.error f, { s with world := w }) := by
  simp only [analyze, unserved_eq_false h, hscan, Bool.false_eq_true, if_false]

/-- An enrichment that fails ends the run after the scan. -/
theorem analyze_of_enrich_error (h : plan.explain = true → service ≠ none)
    (hscan : (examineAll plan.selection analyzers).run source deadline s.world = (.ok found, w))
    (henrich : Enrichment.enrichAll plan service deadline found w.moment s.completion =
      (.error f, ds, m, t)) :
    analyze plan source service deadline analyzers s =
      (.error f, ⟨{ w with moment := m }, t, s.output⟩) := by
  simp only [analyze, unserved_eq_false h, hscan, henrich, Bool.false_eq_true, if_false]

/-- Otherwise the run gives the enriched diagnoses. -/
theorem analyze_of_enrich_ok (h : plan.explain = true → service ≠ none)
    (hscan : (examineAll plan.selection analyzers).run source deadline s.world = (.ok found, w))
    (henrich : Enrichment.enrichAll plan service deadline found w.moment s.completion =
      (.ok (), ds, m, t)) :
    analyze plan source service deadline analyzers s =
      ((Output.give plan ds s.output).1.map fun _ ↦ ds,
        ⟨{ w with moment := m }, t, (Output.give plan ds s.output).2⟩) := by
  simp only [analyze, unserved_eq_false h, hscan, henrich, Bool.false_eq_true, if_false]
  rcases Output.give plan ds s.output with ⟨f | u, o⟩ <;> rfl

end Stages

/-- Every run takes one of the courses, with the calls that a recording service notes. -/
theorem exists_course (plan : Plan) (source : Source σ) (service : Option (CompletionService τ))
    (deadline : Option Deadline) (analyzers : List Analyzer) (s : Session σ τ)
    (log : List CompletionCall) :
    ∃ calls, Course plan source service deadline analyzers s calls
        (analyze plan source service deadline analyzers s) ∧
      analyze plan source (service.map .recorded) deadline analyzers (s.logging log) =
        ((analyze plan source service deadline analyzers s).1,
          (analyze plan source service deadline analyzers s).2.logging (log ++ calls)) := by
  by_cases hserved : plan.explain = true → service ≠ none
  · have hserved' : plan.explain = true → service.map CompletionService.recorded ≠ none :=
      fun h ↦ mt Option.map_eq_none_iff.mp (hserved h)
    rcases hscan : (examineAll plan.selection analyzers).run source deadline s.world
      with ⟨f | found, w⟩
    · refine ⟨[], ?_, ?_⟩
      · rw [analyze_of_scan_error hserved hscan]
        exact .unscanned (scanStops_of_run_examineAll hscan)
      · rw [analyze_of_scan_error hserved hscan, analyze_of_scan_error hserved' hscan,
          List.append_nil]
        rfl
    · obtain ⟨calls, r, ds, m, t, henrich, hlogged, ⟨rfl, h⟩ | ⟨f, rfl, h⟩⟩ :=
        Enrichment.exists_calls_enrichAll_option plan service deadline found w.moment s.completion
          log hserved
      · refine ⟨calls, ?_, ?_⟩
        · rw [analyze_of_enrich_ok hserved hscan henrich]
          exact .given hscan henrich h
        · rw [analyze_of_enrich_ok hserved hscan henrich,
            analyze_of_enrich_ok hserved' hscan hlogged]
          rfl
      · refine ⟨calls, ?_, ?_⟩
        · rw [analyze_of_enrich_error hserved hscan henrich]
          exact .unenriched hscan henrich h
        · rw [analyze_of_enrich_error hserved hscan henrich,
            analyze_of_enrich_error hserved' hscan hlogged]
          rfl
  · obtain ⟨hexplain, hservice⟩ := Classical.not_imp.mp hserved
    obtain rfl := not_not.mp hservice
    refine ⟨[], ?_, ?_⟩
    · rw [analyze_of_unserved hexplain]
      exact .unserved hexplain rfl
    · rw [Option.map_none, analyze_of_unserved hexplain, analyze_of_unserved hexplain,
        List.append_nil]

/-- A service that keeps its calls makes no other difference to a run. -/
theorem analyze_recorded (plan : Plan) (source : Source σ)
    (service : Option (CompletionService τ)) (deadline : Option Deadline)
    (analyzers : List Analyzer) (s : Session σ τ) :
    analyze plan source (service.map .recorded) deadline analyzers (s.logging []) =
      ((analyze plan source service deadline analyzers s).1,
        (analyze plan source service deadline analyzers s).2.logging
          (callsMade plan source service deadline analyzers s)) := by
  obtain ⟨calls, -, h⟩ := exists_course plan source service deadline analyzers s []
  rw [callsMade, h]
  rfl

/-- Every run takes its course with the calls that it makes. -/
theorem course_analyze (plan : Plan) (source : Source σ)
    (service : Option (CompletionService τ)) (deadline : Option Deadline)
    (analyzers : List Analyzer) (s : Session σ τ) :
    Course plan source service deadline analyzers s
      (callsMade plan source service deadline analyzers s)
      (analyze plan source service deadline analyzers s) := by
  obtain ⟨calls, hcourse, h⟩ := exists_course plan source service deadline analyzers s []
  rw [callsMade, h]
  exact hcourse

/-- A run that returns has found its diagnoses by a scan, and enriched them all. -/
theorem exists_enrichedAll_of_analyze {ds : List Diagnosis} {s' : Session σ τ}
    (h : analyze plan source service deadline analyzers s = (.ok ds, s')) :
    ∃ found w calls,
      (examineAll plan.selection analyzers).run source deadline s.world = (.ok found, w) ∧
      Enrichment.EnrichedAll plan deadline found calls ds := by
  have hcourse := course_analyze plan source service deadline analyzers s
  generalize callsMade plan source service deadline analyzers s = calls,
    hresult : analyze plan source service deadline analyzers s = result at hcourse
  rw [h] at hresult
  cases hcourse with
  | unserved => cases hresult
  | unscanned => cases hresult
  | unenriched => cases hresult
  | given hscan henrich hall =>
    have hds := congrArg Prod.fst hresult
    rcases hgive : (Output.give plan _ s.output).1 with f | u
    · rw [hgive] at hds
      cases hds
    · rw [hgive] at hds
      cases hds
      exact ⟨_, _, _, hscan, hall⟩

/-- What a run asks for is asked for a diagnosis that was found. -/
theorem exists_found_of_mem_callsMade {call : CompletionCall}
    (h : call ∈ callsMade plan source service deadline analyzers s) :
    ∃ found w, (examineAll plan.selection analyzers).run source deadline s.world = (.ok found, w) ∧
      ∃ d ∈ found, call.request ∈ Enrichment.requests plan d := by
  have hcourse := course_analyze plan source service deadline analyzers s
  generalize callsMade plan source service deadline analyzers s = calls at h hcourse
  generalize analyze plan source service deadline analyzers s = result at hcourse
  have hrequest := List.mem_map_of_mem (f := CompletionCall.request) h
  cases hcourse with
  | unserved => cases h
  | unscanned => cases h
  | unenriched hscan _ hstops =>
    have hmem := hstops.map_request_isPrefix.subset hrequest
    exact ⟨_, _, hscan, List.mem_flatMap.mp hmem⟩
  | given hscan _ hall =>
    rw [hall.map_request] at hrequest
    exact ⟨_, _, hscan, List.mem_flatMap.mp hrequest⟩

/-! ### Faults before the report -/

open Enrichment in
/-- How a run goes, by what ends it. Without a service where one is needed, nothing is done at all.
If a check or an analyzer ends the scan, its fault is the result, the world is as it left it, and no
call is made. If a check or a call ends the enrichment, its fault is the result, and the calls made
are a start of the requests, diagnosis by diagnosis, that ends there; what is enriched by then is as
`StopsIn` says. In all three cases nothing is printed or written. Otherwise every request is made
and answered before anything is given out. -/
theorem analyze_stops_at_first_fault (plan : Plan) (source : Source σ)
    (service : Option (CompletionService τ)) (deadline : Option Deadline)
    (analyzers : List Analyzer) (s : Session σ τ) :
    let calls := callsMade plan source service deadline analyzers s
    let result := analyze plan source service deadline analyzers s
    (plan.explain = true ∧ service = none ∧ calls = [] ∧ result = (.error .noService, s)) ∨
    (∃ f w, ScanStops plan.selection source deadline s.world analyzers f w ∧ calls = [] ∧
      result = (.error f, { s with world := w })) ∨
    (∃ found w f ds m t,
      (examineAll plan.selection analyzers).run source deadline s.world = (.ok found, w) ∧
      enrichAll plan service deadline found w.moment s.completion = (.error f, ds, m, t) ∧
      StopsIn plan deadline found calls f ds m ∧
      (∃ former former' d explanation later calls', found = former ++ d :: later ∧
        EnrichedAll plan deadline former calls' former' ∧
        ds = former' ++ { d with explanation } :: later) ∧
      calls.map CompletionCall.request <+: found.flatMap (requests plan) ∧
      CompletionCall.EndWith deadline calls f m ∧
      result = (.error f, ⟨{ w with moment := m }, t, s.output⟩)) ∨
    ∃ found w ds m t,
      (examineAll plan.selection analyzers).run source deadline s.world = (.ok found, w) ∧
      enrichAll plan service deadline found w.moment s.completion = (.ok (), ds, m, t) ∧
      EnrichedAll plan deadline found calls ds ∧
      calls.map CompletionCall.request = found.flatMap (requests plan) ∧
      result = ((Output.give plan ds s.output).1.map fun _ ↦ ds,
        ⟨{ w with moment := m }, t, (Output.give plan ds s.output).2⟩) := by
  intro calls result
  have hcourse : Course plan source service deadline analyzers s calls result := course_analyze ..
  generalize calls = calls, result = result at hcourse ⊢
  cases hcourse with
  | unserved h hservice => exact .inl ⟨h, hservice, rfl, rfl⟩
  | unscanned h => exact .inr (.inl ⟨_, _, h, rfl, rfl⟩)
  | unenriched hscan henrich h =>
    exact .inr (.inr (.inl ⟨_, _, _, _, _, _, hscan, henrich, h, h.exists_append,
      h.map_request_isPrefix, h.endWith, rfl⟩))
  | given hscan henrich h =>
    exact .inr (.inr (.inr ⟨_, _, _, _, _, hscan, henrich, h, h.map_request, rfl⟩))

/-! ### A list that cannot be had -/

namespace BrokenList

/-- A cluster that does not list its services. -/
def cluster : Source Unit where
  answer
    | .list kind _ _, _, m, s =>
      (if kind = "Service" then .error (.access "Failed to list Service: broken pipe")
        else .ok [], m, s)
    | .get _ _ _, _, m, s => (.ok none, m, s)
    | .events _ _ _, _, m, s => (.ok [], m, s)
    | .log _ _ _ _, _, m, s => (.ok none, m, s)

/-- An analyzer that finds something as soon as the objects of a kind are listed. -/
def listing (kind : String) : Analyzer where
  kind
  examine _ := do
    let _ ← Scan.ask (.list kind .null .null)
    return [{ kind, name := "a" }]

def advisor : CompletionService Unit where
  explain _ m s := (.ok (.str "Wait."), m, s)
  correct _ _ m s := (.ok "apiVersion: v1", m, s)

def session : Session Unit Unit where
  world := { moment := ⟨.zero, false⟩, cluster := () }
  completion := ()

/-- The second analyzer ends the run. What the first one found is not explained, and the third one
asks nothing. -/
theorem analyze_stops_at_service :
    let plan : Plan := { explain := true }
    let analyzers := [listing "Pod", listing "Service", listing "Ingress"]
    callsMade plan cluster (some advisor) none analyzers session = [] ∧
    ∃ f w, ScanStops plan.selection cluster none session.world analyzers f w ∧
      analyze plan cluster (some advisor) none analyzers session =
        (.error f, { session with world := w }) ∧
      f = .access "Failed to list Service: broken pipe" ∧
      w.asked.map Asked.query = [.list "Pod" .null .null, .list "Service" .null .null] := by
  intro plan analyzers
  have hscan : ∃ w, (examineAll plan.selection analyzers).run cluster none session.world =
      (.error (.access "Failed to list Service: broken pipe"), w) ∧
      w.asked.map Asked.query = [.list "Pod" .null .null, .list "Service" .null .null] :=
    ⟨_, rfl, rfl⟩
  obtain ⟨w, hscan, hasked⟩ := hscan
  rcases analyze_stops_at_first_fault plan cluster (some advisor) none analyzers session with
    ⟨-, hnone, -⟩ | ⟨f, w', hstops, hcalls, hresult⟩ | ⟨found, w', f, ds, m, t, hfound, -⟩ |
      ⟨found, w', ds, m, t, hfound, -⟩
  · cases hnone
  · refine ⟨hcalls, f, w', hstops, hresult, ?_⟩
    have hfault := (analyze_of_scan_error (by simp) hscan).symm.trans hresult
    cases hfault
    exact ⟨rfl, hasked⟩
  · cases hscan.symm.trans hfound
  · cases hscan.symm.trans hfound

end BrokenList

end ClusterDiagnosis
