import ClusterDiagnosis.Proofs.Enrichment.Calls

/-!
# The course of an enrichment

Diagnoses are enriched one after the other. `takesCourse` says what the enrichment of one of them
comes to, and `exists_calls_enrichAll` what that of all comes to: either every diagnosis gets all it
should (`EnrichedAll`), or there is one at which the enrichment ends, with those in front of it
enriched and those behind it untouched (`StopsIn`). The calls made are the same as with a service
that keeps them, so that they are a start of the requests for the diagnoses, in order.
-/

set_option autoImplicit false
set_option relaxedAutoImplicit false

namespace ClusterDiagnosis.Enrichment

variable {τ : Type} {plan : Plan} {deadline : Option Deadline} {d d' : Diagnosis}
  {ds ds' found : List Diagnosis} {calls : List CompletionCall} {f : Fault} {m : Moment}

/-- Diagnoses that all get what they should, and the calls that are made for them. -/
inductive EnrichedAll (plan : Plan) (deadline : Option Deadline) :
    List Diagnosis → List CompletionCall → List Diagnosis → Prop where
  | nil : EnrichedAll plan deadline [] [] []
  | cons {d d' : Diagnosis} {ds ds' : List Diagnosis} {calls calls' : List CompletionCall}
      (first : Enriched plan deadline d calls d') (rest : EnrichedAll plan deadline ds calls' ds') :
      EnrichedAll plan deadline (d :: ds) (calls ++ calls') (d' :: ds')

/-- Diagnoses at one of which the enrichment ends. Those in front of it have all they should, and
those behind it are as they were. -/
inductive StopsIn (plan : Plan) (deadline : Option Deadline) :
    List Diagnosis → List CompletionCall → Fault → List Diagnosis → Moment → Prop where
  | intro {former former' : List Diagnosis} {d d' : Diagnosis} (later : List Diagnosis)
      {calls calls' : List CompletionCall} {f : Fault} {m : Moment}
      (enriched : EnrichedAll plan deadline former calls former')
      (stopped : Stopped plan deadline d calls' f d' m) :
      StopsIn plan deadline (former ++ d :: later) (calls ++ calls') f (former' ++ d' :: later) m

/-! ### What enriched diagnoses have in common -/

namespace EnrichedAll

/-- The calls for several diagnoses are the requests of one after those of the other. -/
theorem map_request (h : EnrichedAll plan deadline found calls ds) :
    calls.map CompletionCall.request = found.flatMap (requests plan) := by
  induction h with
  | nil => rfl
  | cons first _ ih => rw [List.map_append, first.map_request, ih, List.flatMap_cons]

/-- Every call for diagnoses that are all enriched is answered. -/
theorem answered (h : EnrichedAll plan deadline found calls ds) : ∀ c ∈ calls, c.Answered := by
  induction h with
  | nil => exact List.forall_mem_nil _
  | cons first _ ih => exact List.forall_mem_append.mpr ⟨first.answered, ih⟩

/-- Nothing is asked for unless explanations are wanted. -/
theorem unchanged (h : plan.explain = false) (ds : List Diagnosis) :
    EnrichedAll plan deadline ds [] ds := by
  induction ds with
  | nil => exact .nil
  | cons d ds ih => exact .cons (.unchanged h) ih

/-- What holds of every diagnosis and what comes of it holds of all of them, in order. -/
theorem forall₂ {R : Diagnosis → Diagnosis → Prop} (h : EnrichedAll plan deadline found calls ds)
    (hR : ∀ d ∈ found, ∀ d' calls, Enriched plan deadline d calls d' → R d d') :
    List.Forall₂ R found ds := by
  induction h with
  | nil => exact .nil
  | cons first _ ih =>
    exact .cons (hR _ List.mem_cons_self _ _ first)
      (ih fun d hd ↦ hR d (List.mem_cons_of_mem _ hd))

/-- Each diagnosis comes of one that was found. -/
theorem exists_enriched (h : EnrichedAll plan deadline found calls ds) :
    ∀ d' ∈ ds, ∃ d ∈ found, ∃ calls, Enriched plan deadline d calls d' := by
  induction h with
  | nil => exact List.forall_mem_nil _
  | cons first _ ih =>
    refine List.forall_mem_cons.mpr ⟨⟨_, List.mem_cons_self, _, first⟩, fun d' hd' ↦ ?_⟩
    obtain ⟨d, hd, hcalls⟩ := ih d' hd'
    exact ⟨d, List.mem_cons_of_mem _ hd, hcalls⟩

end EnrichedAll

namespace StopsIn

/-- Where the enrichment of several stops, what was called are the first of all the requests. -/
theorem map_request_isPrefix (h : StopsIn plan deadline found calls f ds m) :
    calls.map CompletionCall.request <+: found.flatMap (requests plan) := by
  obtain ⟨later, enriched, stopped⟩ := h
  rw [List.map_append, enriched.map_request, List.flatMap_append, List.flatMap_cons]
  refine (List.prefix_append_right_inj _).mpr ?_
  exact stopped.map_request_isPrefix.trans (List.prefix_append _ _)

/-- Where the enrichment of several stops, all the calls together end with the fault. -/
theorem endWith (h : StopsIn plan deadline found calls f ds m) :
    CompletionCall.EndWith deadline calls f m := by
  obtain ⟨later, enriched, stopped⟩ := h
  exact stopped.endWith.append enriched.answered

/-- The diagnoses in front have all they should, the one where it ends has at most its explanation,
and those behind it are as they were. -/
theorem exists_append (h : StopsIn plan deadline found calls f ds m) :
    ∃ former former' d explanation later calls', found = former ++ d :: later ∧
      EnrichedAll plan deadline former calls' former' ∧
      ds = former' ++ { d with explanation } :: later := by
  obtain ⟨later, enriched, stopped⟩ := h
  exact ⟨_, _, _, _, later, _, rfl, enriched, by rw [← stopped.eq_with]⟩

/-- Diagnoses that are enriched may stand in front. -/
theorem cons {calls' : List CompletionCall} (first : Enriched plan deadline d calls d')
    (h : StopsIn plan deadline ds calls' f ds' m) :
    StopsIn plan deadline (d :: ds) (calls ++ calls') f (d' :: ds') m := by
  obtain ⟨later, enriched, stopped⟩ := h
  rw [← List.append_assoc]
  exact .intro later (.cons first enriched) stopped

end StopsIn

/-! ### One diagnosis -/

/-- Without explain a diagnosis is left as it is, and no time passes. -/
theorem enrich_of_unexplained (h : plan.explain = false)
    (service : Option (CompletionService τ)) (d : Diagnosis) (m : Moment) (t : τ) :
    enrich plan service deadline d m t = (.ok (), d, m, t) := by
  simp [enrich, addExplanation, hasUsableExplanation, addManifest, h]

section Steps

variable {service : CompletionService τ} {m₁ : Moment} {t t₁ : τ}

/-- A run that is over asks for no explanation. -/
theorem addExplanation_of_over (h : plan.explain = true) (hover : runOver? deadline m = some f)
    (service : Option (CompletionService τ)) (t : τ) :
    addExplanation plan service deadline d m t = (.error f, m, t) := by
  simp only [addExplanation, h, hover, if_true]

/-- A fault of the service is passed on. -/
theorem addExplanation_of_error (h : plan.explain = true) (hover : runOver? deadline m = none)
    (hcall : service.explain (explanationPrompt plan.anonymize d) m t = (.error f, m₁, t₁)) :
    addExplanation plan (some service) deadline d m t = (.error f, m₁, t₁) := by
  simp only [addExplanation, h, hover, explanation, hcall, if_true]

/-- A reply becomes the explanation, with the masked values restored. -/
theorem addExplanation_of_ok {reply : Value} (h : plan.explain = true)
    (hover : runOver? deadline m = none)
    (hcall : service.explain (explanationPrompt plan.anonymize d) m t = (.ok reply, m₁, t₁)) :
    addExplanation plan (some service) deadline d m t =
      ((restoredExplanation plan.anonymize d reply).map ({ d with explanation := · }), m₁, t₁) := by
  simp only [addExplanation, h, hover, explanation, hcall, if_true]
  cases restoredExplanation plan.anonymize d reply <;> rfl

/-- A diagnosis for which no manifest is wanted is left as it is. -/
theorem addManifest_of_unwanted (h : wantsManifest plan d = false)
    (service : Option (CompletionService τ)) (m : Moment) (t : τ) :
    addManifest plan service deadline d m t = (.ok d, m, t) := by
  rw [wantsManifest] at h
  simp only [addManifest, h, Bool.false_eq_true, if_false]

/-- A reply becomes the manifest, with the masked values restored and cut to its opening. -/
theorem addManifest_of_wanted {reply : Except Fault String} (h : wantsManifest plan d = true)
    (hcall : service.correct deadline (manifestPrompt plan.anonymize d) m t = (reply, m₁, t₁)) :
    addManifest plan (some service) deadline d m t =
      (reply.map fun reply ↦ { d with
        manifest := Manifest.fromOpening (restored plan.anonymize d (Text.trim reply)) },
        m₁, t₁) := by
  rw [wantsManifest] at h
  simp only [addManifest, h, correction, hcall, if_true]
  cases reply <;> rfl

/-- An explanation that fails ends the enrichment of the diagnosis, which stays as it was. -/
theorem enrich_of_addExplanation_error {service : Option (CompletionService τ)}
    (h : addExplanation plan service deadline d m t = (.error f, m₁, t₁)) :
    enrich plan service deadline d m t = (.error f, d, m₁, t₁) := by
  simp only [enrich, h]

/-- An explanation that is not usable ends the enrichment, but it is kept. -/
theorem enrich_of_unusable {service : Option (CompletionService τ)}
    (h : addExplanation plan service deadline d m t = (.ok d', m₁, t₁))
    (husable : hasUsableExplanation plan d' = false) :
    enrich plan service deadline d m t = (.error (.mismatch .wrongType), d', m₁, t₁) := by
  simp only [enrich, h, husable, Bool.false_eq_true, if_false]

/-- A manifest that fails ends the enrichment, but the explanation is kept. -/
theorem enrich_of_addManifest_error {service : Option (CompletionService τ)} {m₂ : Moment} {t₂ : τ}
    (h : addExplanation plan service deadline d m t = (.ok d', m₁, t₁))
    (husable : hasUsableExplanation plan d' = true)
    (hmanifest : addManifest plan service deadline d' m₁ t₁ = (.error f, m₂, t₂)) :
    enrich plan service deadline d m t = (.error f, d', m₂, t₂) := by
  simp only [enrich, h, husable, hmanifest, if_true]

/-- Otherwise the diagnosis has its explanation and its manifest. -/
theorem enrich_of_addManifest_ok {service : Option (CompletionService τ)} {d'' : Diagnosis}
    {m₂ : Moment} {t₂ : τ} (h : addExplanation plan service deadline d m t = (.ok d', m₁, t₁))
    (husable : hasUsableExplanation plan d' = true)
    (hmanifest : addManifest plan service deadline d' m₁ t₁ = (.ok d'', m₂, t₂)) :
    enrich plan service deadline d m t = (.ok (), d'', m₂, t₂) := by
  simp only [enrich, h, husable, hmanifest, if_true]

end Steps

/-- What the enrichment of a diagnosis comes to, with a service and with the same service that keeps
its calls. -/
def TakesCourse (plan : Plan) (service : CompletionService τ) (deadline : Option Deadline)
    (d : Diagnosis) (m : Moment) (t : τ) (log : List CompletionCall) : Prop :=
  ∃ calls r d' m' t', enrich plan (some service) deadline d m t = (r, d', m', t') ∧
    enrich plan (some service.recorded) deadline d m (t, log) = (r, d', m', t', log ++ calls) ∧
    (r = .ok () ∧ Enriched plan deadline d calls d' ∨
      ∃ f, r = .error f ∧ Stopped plan deadline d calls f d' m')

section Courses

variable {service : CompletionService τ} {m₁ : Moment} {t t₁ : τ} {log : List CompletionCall}

/-- The course without explain: nothing is done. -/
theorem takesCourse_of_unexplained (h : plan.explain = false) :
    TakesCourse plan service deadline d m t log := by
  refine ⟨[], .ok (), d, m, t, enrich_of_unexplained h _ d m t, ?_, .inl ⟨rfl, .unchanged h⟩⟩
  rw [enrich_of_unexplained h, List.append_nil]

/-- The course of a run that is over: it stops before the first call. -/
theorem takesCourse_of_over (h : plan.explain = true) (hover : runOver? deadline m = some f) :
    TakesCourse plan service deadline d m t log := by
  refine ⟨[], .error f, d, m, t, ?_, ?_, .inr ⟨f, rfl, .ended h hover⟩⟩
  · exact enrich_of_addExplanation_error (addExplanation_of_over h hover _ _)
  · rw [List.append_nil]
    exact enrich_of_addExplanation_error (addExplanation_of_over h hover _ _)

/-- With an explanation that can be gone on with, it is the manifest that matters. It is asked for
as if the diagnosis had no explanation. -/
theorem takesCourse_of_explained {reply explanation : Value}
    (h : Explained plan deadline d m reply explanation)
    (hcall : service.explain (explanationPrompt plan.anonymize d) m t = (.ok reply, m₁, t₁)) :
    TakesCourse plan service deadline d m t log := by
  have hlogged := CompletionService.recorded_explain log hcall
  have hstep := addExplanation_of_ok h.wanted h.inTime hcall
  have hstep' := addExplanation_of_ok h.wanted h.inTime hlogged
  rw [h.restored] at hstep hstep'
  have husable : hasUsableExplanation plan { d with explanation } = true := by
    simp only [hasUsableExplanation, h.usable, Bool.or_true]
  cases hfix : wantsManifest plan d with
  | false =>
    have hfix' : wantsManifest plan { d with explanation } = false := hfix
    exact ⟨_, _, _, m₁, t₁,
      enrich_of_addManifest_ok hstep husable (addManifest_of_unwanted hfix' _ _ _),
      enrich_of_addManifest_ok hstep' husable (addManifest_of_unwanted hfix' _ _ _),
      .inl ⟨rfl, .explained h hfix⟩⟩
  | true =>
    have hfix' : wantsManifest plan { d with explanation } = true := hfix
    rcases hcorrect : service.correct deadline (manifestPrompt plan.anonymize d) m₁ t₁
      with ⟨f | manifest, m₂, t₂⟩
    all_goals
      have hmanifest := addManifest_of_wanted hfix' hcorrect
      have hmanifest' := addManifest_of_wanted hfix' (CompletionService.recorded_correct
        (log ++ [.explain (explanationPrompt plan.anonymize d) m (.ok reply)]) hcorrect)
      rw [List.append_assoc] at hmanifest'
    · exact ⟨_, _, _, m₂, t₂, enrich_of_addManifest_error hstep husable hmanifest,
        enrich_of_addManifest_error hstep' husable hmanifest',
        .inr ⟨f, rfl, .uncorrected h hfix⟩⟩
    · exact ⟨_, _, _, m₂, t₂, enrich_of_addManifest_ok hstep husable hmanifest,
        enrich_of_addManifest_ok hstep' husable hmanifest', .inl ⟨rfl, .corrected h hfix⟩⟩

/-- The course after the reply to the first call, split by what the reply is good for. -/
theorem takesCourse_of_reply {reply : Except Fault Value} (h : plan.explain = true)
    (hover : runOver? deadline m = none)
    (hcall : service.explain (explanationPrompt plan.anonymize d) m t = (reply, m₁, t₁)) :
    TakesCourse plan service deadline d m t log := by
  have hlogged := CompletionService.recorded_explain log hcall
  cases reply with
  | error f =>
    exact ⟨_, .error f, d, m₁, t₁,
      enrich_of_addExplanation_error (addExplanation_of_error h hover hcall),
      enrich_of_addExplanation_error (addExplanation_of_error h hover hlogged),
      .inr ⟨f, rfl, .unexplained h hover⟩⟩
  | ok reply =>
    have hstep := addExplanation_of_ok h hover hcall
    have hstep' := addExplanation_of_ok h hover hlogged
    cases hreply : restoredExplanation plan.anonymize d reply with
    | error f =>
      rw [hreply] at hstep hstep'
      exact ⟨_, .error f, d, m₁, t₁, enrich_of_addExplanation_error hstep,
        enrich_of_addExplanation_error hstep', .inr ⟨f, rfl, .refused h hover hreply⟩⟩
    | ok explanation =>
      cases hlength : explanation.hasLength with
      | true => exact takesCourse_of_explained ⟨h, hover, hreply, hlength⟩ hcall
      | false =>
        rw [hreply] at hstep hstep'
        have husable : hasUsableExplanation plan { d with explanation } = false := by
          simp only [hasUsableExplanation, h, hlength, Bool.not_true, Bool.or_false]
        exact ⟨_, _, _, m₁, t₁, enrich_of_unusable hstep husable,
          enrich_of_unusable hstep' husable, .inr ⟨_, rfl, .unusable h hover hreply hlength⟩⟩

end Courses

/-- Every enrichment of a diagnosis takes one of the courses described. -/
theorem takesCourse (plan : Plan) (service : CompletionService τ) (deadline : Option Deadline)
    (d : Diagnosis) (m : Moment) (t : τ) (log : List CompletionCall) :
    TakesCourse plan service deadline d m t log := by
  cases hexplain : plan.explain with
  | false => exact takesCourse_of_unexplained hexplain
  | true =>
    cases hover : runOver? deadline m with
    | some f => exact takesCourse_of_over hexplain hover
    | none => exact takesCourse_of_reply hexplain hover rfl

/-! ### All diagnoses -/

/-- Without explain all diagnoses are left as they are. -/
theorem enrichAll_of_unexplained (h : plan.explain = false)
    (service : Option (CompletionService τ)) (deadline : Option Deadline) (ds : List Diagnosis)
    (m : Moment) (t : τ) : enrichAll plan service deadline ds m t = (.ok (), ds, m, t) := by
  induction ds with
  | nil => rfl
  | cons d ds ih => simp only [enrichAll, enrich_of_unexplained h, ih]

/-- What the enrichment of diagnoses comes to, with a service and with the same service that keeps
its calls. -/
theorem exists_calls_enrichAll (plan : Plan) (service : CompletionService τ)
    (deadline : Option Deadline) (found : List Diagnosis) (m : Moment) (t : τ)
    (log : List CompletionCall) :
    ∃ calls r ds m' t', enrichAll plan (some service) deadline found m t = (r, ds, m', t') ∧
      enrichAll plan (some service.recorded) deadline found m (t, log) =
        (r, ds, m', t', log ++ calls) ∧
      (r = .ok () ∧ EnrichedAll plan deadline found calls ds ∨
        ∃ f, r = .error f ∧ StopsIn plan deadline found calls f ds m') := by
  induction found generalizing m t log with
  | nil => exact ⟨[], .ok (), [], m, t, rfl, by rw [List.append_nil]; rfl, .inl ⟨rfl, .nil⟩⟩
  | cons d found ih =>
    obtain ⟨calls, r, d', m₁, t₁, hplain, hlogged, ⟨rfl, hd⟩ | ⟨f, rfl, hd⟩⟩ :=
      takesCourse plan service deadline d m t log
    · obtain ⟨calls', r, ds, m₂, t₂, hplain', hlogged', hds⟩ := ih m₁ t₁ (log ++ calls)
      refine ⟨calls ++ calls', r, d' :: ds, m₂, t₂, ?_, ?_, ?_⟩
      · simp only [enrichAll, hplain, hplain']
      · simp only [enrichAll, hlogged, hlogged', List.append_assoc]
      · exact hds.imp (fun h ↦ ⟨h.1, .cons hd h.2⟩) fun ⟨f, hf, h⟩ ↦ ⟨f, hf, h.cons hd⟩
    · have hstops := StopsIn.intro found .nil hd
      refine ⟨calls, .error f, d' :: found, m₁, t₁, ?_, ?_, .inr ⟨f, rfl, hstops⟩⟩
      · simp only [enrichAll, hplain]
      · simp only [enrichAll, hlogged]

/-- The same with a service that may be missing if no explanations are wanted. -/
theorem exists_calls_enrichAll_option (plan : Plan) (service : Option (CompletionService τ))
    (deadline : Option Deadline) (found : List Diagnosis) (m : Moment) (t : τ)
    (log : List CompletionCall) (h : plan.explain = true → service ≠ none) :
    ∃ calls r ds m' t', enrichAll plan service deadline found m t = (r, ds, m', t') ∧
      enrichAll plan (service.map .recorded) deadline found m (t, log) =
        (r, ds, m', t', log ++ calls) ∧
      (r = .ok () ∧ EnrichedAll plan deadline found calls ds ∨
        ∃ f, r = .error f ∧ StopsIn plan deadline found calls f ds m') := by
  cases service with
  | some service => exact exists_calls_enrichAll plan service deadline found m t log
  | none =>
    have hplan : plan.explain = false := Bool.eq_false_iff.mpr fun hexplain ↦ h hexplain rfl
    refine ⟨[], .ok (), found, m, t, enrichAll_of_unexplained hplan _ _ _ _ _, ?_, ?_⟩
    · rw [enrichAll_of_unexplained hplan, List.append_nil]
    · exact .inl ⟨rfl, .unchanged hplan found⟩

end ClusterDiagnosis.Enrichment
