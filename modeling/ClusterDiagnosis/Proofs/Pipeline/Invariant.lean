import ClusterDiagnosis.Proofs.Pipeline.Course

/-!
# What the calls of a service keep

A run changes the state of its completion service by calls only, and asks for explanations only
while it is not over. So a property of the state that such calls keep is kept by the enrichment of a
diagnosis, of all of them, and by a whole run (`CompletionService.Keeps.analyze`). For a service
that keeps its calls the property may speak of the calls as well: `callsMade_of_keeps`.
-/

set_option autoImplicit false
set_option relaxedAutoImplicit false

namespace ClusterDiagnosis

variable {σ τ : Type}

/-- A property of the state of a service that is kept by the calls that a run may make. -/
structure CompletionService.Keeps (service : CompletionService τ) (deadline : Option Deadline)
    (I : τ → Prop) : Prop where
  explain : ∀ prompt m t, runOver? deadline m = none → I t → I (service.explain prompt m t).2.2
  correct : ∀ prompt m t, I t → I (service.correct deadline prompt m t).2.2

namespace CompletionService.Keeps

open Enrichment

variable {service : CompletionService τ} {deadline : Option Deadline} {I : τ → Prop}
  (h : service.Keeps deadline I) (plan : Plan) {t : τ}

include h

/-- Asking for an explanation keeps what the service's calls keep. -/
theorem addExplanation (d : Diagnosis) (m : Moment) (ht : I t) :
    I (Enrichment.addExplanation plan (some service) deadline d m t).2.2 := by
  cases hexplain : plan.explain with
  | false => simpa only [Enrichment.addExplanation, hexplain, Bool.false_eq_true, if_false] using ht
  | true =>
    cases hover : runOver? deadline m with
    | some f =>
      rw [addExplanation_of_over hexplain hover]
      exact ht
    | none =>
      have hkept := h.explain (explanationPrompt plan.anonymize d) m t hover ht
      rcases hcall : service.explain (explanationPrompt plan.anonymize d) m t
        with ⟨f | reply, m₁, t₁⟩
      · rw [addExplanation_of_error hexplain hover hcall]
        rwa [hcall] at hkept
      · rw [addExplanation_of_ok hexplain hover hcall]
        rwa [hcall] at hkept

/-- So does asking for a manifest. -/
theorem addManifest (d : Diagnosis) (m : Moment) (ht : I t) :
    I (Enrichment.addManifest plan (some service) deadline d m t).2.2 := by
  cases hfix : wantsManifest plan d with
  | false =>
    rw [addManifest_of_unwanted hfix]
    exact ht
  | true =>
    rw [addManifest_of_wanted hfix rfl]
    exact h.correct _ m t ht

/-- So does the enrichment of one diagnosis, which makes these two calls at most. -/
theorem enrich (d : Diagnosis) (m : Moment) (ht : I t) :
    I (Enrichment.enrich plan (some service) deadline d m t).2.2.2 := by
  have hexplained := h.addExplanation plan d m ht
  rcases hstep : Enrichment.addExplanation plan (some service) deadline d m t
    with ⟨f | d', m₁, t₁⟩
  · rw [hstep] at hexplained
    rw [enrich_of_addExplanation_error hstep]
    exact hexplained
  · rw [hstep] at hexplained
    cases husable : hasUsableExplanation plan d' with
    | false =>
      rw [enrich_of_unusable hstep husable]
      exact hexplained
    | true =>
      have hcorrected := h.addManifest plan d' m₁ hexplained
      rcases hnext : Enrichment.addManifest plan (some service) deadline d' m₁ t₁
        with ⟨f | d'', m₂, t₂⟩
      · rw [hnext] at hcorrected
        rw [enrich_of_addManifest_error hstep husable hnext]
        exact hcorrected
      · rw [hnext] at hcorrected
        rw [enrich_of_addManifest_ok hstep husable hnext]
        exact hcorrected

/-- So does the enrichment of all, by induction on the diagnoses. -/
theorem enrichAll (ds : List Diagnosis) (m : Moment) (ht : I t) :
    I (Enrichment.enrichAll plan (some service) deadline ds m t).2.2.2 := by
  induction ds generalizing m t with
  | nil => exact ht
  | cons d ds ih =>
    have hfirst := h.enrich plan d m ht
    rw [Enrichment.enrichAll]
    rcases hstep : Enrichment.enrich plan (some service) deadline d m t with ⟨f | _, d', m₁, t₁⟩
    · rw [hstep] at hfirst
      exact hfirst
    · rw [hstep] at hfirst
      exact ih m₁ hfirst

/-- A whole run keeps of the service's state what each of its calls keeps. -/
theorem analyze (source : Source σ) (analyzers : List Analyzer) (s : Session σ τ)
    (hs : I s.completion) :
    I (ClusterDiagnosis.analyze plan source (some service) deadline analyzers s).2.completion := by
  have hserved : plan.explain = true → some service ≠ none := fun _ ↦ Option.some_ne_none service
  rcases hscan : (examineAll plan.selection analyzers).run source deadline s.world
    with ⟨f | found, w⟩
  · rw [analyze_of_scan_error hserved hscan]
    exact hs
  · have hkept := h.enrichAll plan found w.moment hs
    rcases henrich : Enrichment.enrichAll plan (some service) deadline found w.moment s.completion
      with ⟨f | _, ds, m, t'⟩
    · rw [henrich] at hkept
      rw [analyze_of_enrich_error hserved hscan henrich]
      exact hkept
    · rw [henrich] at hkept
      rw [analyze_of_enrich_ok hserved hscan henrich]
      exact hkept

end CompletionService.Keeps

/-- What the calls of a service that keeps them say about them and about its state holds at the end
of a run. -/
theorem callsMade_of_keeps {service : CompletionService τ} {deadline : Option Deadline}
    {I : τ × List CompletionCall → Prop} (h : service.recorded.Keeps deadline I) (plan : Plan)
    (source : Source σ) (analyzers : List Analyzer) (s : Session σ τ) (hs : I (s.completion, [])) :
    I ((analyze plan source (some service) deadline analyzers s).2.completion,
      callsMade plan source (some service) deadline analyzers s) := by
  have hkept := h.analyze plan source analyzers (s.logging []) hs
  have hrun := analyze_recorded plan source (some service) deadline analyzers s
  rw [Option.map_some] at hrun
  rw [hrun] at hkept
  exact hkept

end ClusterDiagnosis
