import ClusterDiagnosis.Pipeline
import Mathlib.Tactic.Common

/-!
# The calls that an enrichment makes

A service can be made to keep its calls (`CompletionService.recorded`). With such a service one sees
which calls an enrichment makes, and in which order. `Enriched` says what happens to a diagnosis
that gets all it should, and `Stopped` how the enrichment of a diagnosis ends before that. In both
cases the calls are those that `requests` foresees for the diagnosis, as far as it comes.
-/

set_option autoImplicit false
set_option relaxedAutoImplicit false

namespace ClusterDiagnosis

/-- What a completion service is asked for. -/
inductive CompletionRequest where
  | explain (prompt : String)
  | correct (prompt : String)
  deriving DecidableEq, Repr

/-- A call of a completion service: the prompt, the moment at which it starts, and what comes
back. -/
inductive CompletionCall where
  | explain (prompt : String) (start : Moment) (reply : Except Fault Value)
  | correct (prompt : String) (start : Moment) (reply : Except Fault String)

/-- What a call asks for. -/
def CompletionCall.request : CompletionCall → CompletionRequest
  | explain prompt _ _ => .explain prompt
  | correct prompt _ _ => .correct prompt

/-- A call that raises nothing. -/
def CompletionCall.Answered : CompletionCall → Prop
  | explain _ _ reply => ∃ v, reply = .ok v
  | correct _ _ reply => ∃ s, reply = .ok s

/-- A call that raises a fault. -/
def CompletionCall.Raises (f : Fault) : CompletionCall → Prop
  | explain _ _ reply => reply = .error f
  | correct _ _ reply => reply = .error f

/-- A call for an explanation that is answered by something else than a text. -/
def CompletionCall.GivesNoText : CompletionCall → Prop
  | explain _ _ reply => ∃ v, reply = .ok v ∧ ∀ s, v ≠ .str s
  | correct _ _ _ => False

/-- What makes an enrichment end with a fault. Either all calls are answered and then the check
finds the run over, or all but the last are answered, and the last one raises the fault or is
answered by what cannot be an explanation. -/
def CompletionCall.EndWith (deadline : Option Deadline) (calls : List CompletionCall) (f : Fault)
    (m : Moment) : Prop :=
  (∀ c ∈ calls, c.Answered) ∧ runOver? deadline m = some f ∨
    ∃ former last, calls = former ++ [last] ∧ (∀ c ∈ former, c.Answered) ∧
      (last.Raises f ∨ last.GivesNoText)

/-- Answered calls may stand before those that end with a fault. -/
theorem CompletionCall.EndWith.append {deadline : Option Deadline}
    {former calls : List CompletionCall} {f : Fault} {m : Moment}
    (h : EndWith deadline calls f m) (hformer : ∀ c ∈ former, c.Answered) :
    EndWith deadline (former ++ calls) f m := by
  rcases h with ⟨hcalls, hover⟩ | ⟨calls, last, rfl, hcalls, hlast⟩
  · exact .inl ⟨List.forall_mem_append.mpr ⟨hformer, hcalls⟩, hover⟩
  · exact .inr ⟨former ++ calls, last, by rw [List.append_assoc],
      List.forall_mem_append.mpr ⟨hformer, hcalls⟩, hlast⟩

/-- A service that keeps its calls, and otherwise does what the given one does. -/
def CompletionService.recorded {τ : Type} (service : CompletionService τ) :
    CompletionService (τ × List CompletionCall) where
  explain prompt m s :=
    let (reply, m', t) := service.explain prompt m s.1
    (reply, m', t, s.2 ++ [.explain prompt m reply])
  correct deadline prompt m s :=
    let (reply, m', t) := service.correct deadline prompt m s.1
    (reply, m', t, s.2 ++ [.correct prompt m reply])

section Recorded

variable {τ : Type} {service : CompletionService τ} {deadline : Option Deadline} {prompt : String}
  {m m' : Moment} {t t' : τ} (log : List CompletionCall)

/-- The service that keeps a record answers a question alike and puts it on record. -/
theorem CompletionService.recorded_explain {reply : Except Fault Value}
    (h : service.explain prompt m t = (reply, m', t')) :
    service.recorded.explain prompt m (t, log) =
      (reply, m', t', log ++ [.explain prompt m reply]) := by
  simp only [recorded, h]

/-- So it does with a request for a correction. -/
theorem CompletionService.recorded_correct {reply : Except Fault String}
    (h : service.correct deadline prompt m t = (reply, m', t')) :
    service.recorded.correct deadline prompt m (t, log) =
      (reply, m', t', log ++ [.correct prompt m reply]) := by
  simp only [recorded, h]

end Recorded

namespace Enrichment

/-- Whether a corrected manifest is asked for. -/
def wantsManifest (plan : Plan) (d : Diagnosis) : Bool :=
  plan.fix && plan.explain && fixableKinds.contains d.kind

/-- What is asked for a diagnosis: its explanation, and then its manifest if the kind has one and
manifests are wanted. -/
def requests (plan : Plan) (d : Diagnosis) : List CompletionRequest :=
  (if plan.explain then [.explain (explanationPrompt plan.anonymize d)] else []) ++
    if wantsManifest plan d then [.correct (manifestPrompt plan.anonymize d)] else []

section Relations

variable (plan : Plan) (deadline : Option Deadline) (d : Diagnosis)

/-- An explanation is asked for while the run is not over, and `explanation` comes of the reply. -/
structure Explained (start : Moment) (reply explanation : Value) : Prop where
  wanted : plan.explain = true
  inTime : runOver? deadline start = none
  restored : restoredExplanation plan.anonymize d reply = .ok explanation
  usable : explanation.hasLength = true

/-- The enrichment of a diagnosis that gets all it should: the calls that are made, all of them
answered, and the diagnosis that comes of them. -/
inductive Enriched : List CompletionCall → Diagnosis → Prop where
  /-- Nothing is asked for unless explanations are wanted. -/
  | unchanged (h : plan.explain = false) : Enriched [] d
  | explained {start : Moment} {reply explanation : Value}
      (h : Explained plan deadline d start reply explanation)
      (hfix : wantsManifest plan d = false) :
      Enriched [.explain (explanationPrompt plan.anonymize d) start (.ok reply)]
        { d with explanation }
  | corrected {start start' : Moment} {reply explanation : Value} {manifest : String}
      (h : Explained plan deadline d start reply explanation) (hfix : wantsManifest plan d = true) :
      Enriched [.explain (explanationPrompt plan.anonymize d) start (.ok reply),
          .correct (manifestPrompt plan.anonymize d) start' (.ok manifest)]
        { d with
          explanation
          manifest := Manifest.fromOpening (restored plan.anonymize d (Text.trim manifest)) }

/-- The enrichment of a diagnosis that ends early: the calls that are made, the fault, what the
diagnosis has by then, and when it ends. -/
inductive Stopped : List CompletionCall → Fault → Diagnosis → Moment → Prop where
  /-- The run is over before the explanation is asked for. -/
  | ended {f : Fault} {m : Moment} (h : plan.explain = true)
      (hover : runOver? deadline m = some f) :
      Stopped [] f d m
  /-- The call for the explanation raises the fault. -/
  | unexplained {start m : Moment} {f : Fault} (h : plan.explain = true)
      (hstart : runOver? deadline start = none) :
      Stopped [.explain (explanationPrompt plan.anonymize d) start (.error f)] f d m
  /-- The masks of a reply that is no text cannot be undone. -/
  | refused {start m : Moment} {reply : Value} {f : Fault} (h : plan.explain = true)
      (hstart : runOver? deadline start = none)
      (hreply : restoredExplanation plan.anonymize d reply = .error f) :
      Stopped [.explain (explanationPrompt plan.anonymize d) start (.ok reply)] f d m
  /-- A reply that is no text has no length. -/
  | unusable {start m : Moment} {reply explanation : Value} (h : plan.explain = true)
      (hstart : runOver? deadline start = none)
      (hreply : restoredExplanation plan.anonymize d reply = .ok explanation)
      (hlength : explanation.hasLength = false) :
      Stopped [.explain (explanationPrompt plan.anonymize d) start (.ok reply)]
        (.mismatch .wrongType) { d with explanation } m
  /-- The call for the manifest raises the fault. -/
  | uncorrected {start start' m : Moment} {reply explanation : Value} {f : Fault}
      (h : Explained plan deadline d start reply explanation) (hfix : wantsManifest plan d = true) :
      Stopped [.explain (explanationPrompt plan.anonymize d) start (.ok reply),
          .correct (manifestPrompt plan.anonymize d) start' (.error f)]
        f { d with explanation } m

end Relations

variable {plan : Plan} {deadline : Option Deadline} {d d' : Diagnosis}
  {calls : List CompletionCall} {f : Fault} {m : Moment}

/-- A manifest is asked for if the plan says explain and fix, and the kind can be fixed. -/
theorem wantsManifest_eq_true_iff : wantsManifest plan d = true ↔
    plan.explain = true ∧ plan.fix = true ∧ d.kind ∈ fixableKinds := by
  simp [wantsManifest, and_assoc, and_left_comm]

/-- Nothing is requested for a diagnosis that is not to be explained. -/
theorem requests_of_unexplained (h : plan.explain = false) : requests plan d = [] := by
  simp [requests, wantsManifest, h]

/-- The one correction that may be requested is that of the diagnosis's own manifest. -/
theorem eq_of_correct_mem_requests {prompt : String} (h : .correct prompt ∈ requests plan d) :
    prompt = manifestPrompt plan.anonymize d := by
  rw [requests, List.mem_append] at h
  rcases h with h | h
  · split at h <;> simp at h
  · split at h
    · simpa using h
    · cases h

/-! ### Diagnoses that get all they should -/

namespace Enriched

/-- What is called for an enriched diagnosis are all of its requests, in their order. -/
theorem map_request (h : Enriched plan deadline d calls d') :
    calls.map CompletionCall.request = requests plan d := by
  cases h with
  | unchanged h => rw [requests_of_unexplained h, List.map_nil]
  | explained h hfix => simp [requests, h.wanted, hfix, CompletionCall.request]
  | corrected h hfix => simp [requests, h.wanted, hfix, CompletionCall.request]

/-- Every call for an enriched diagnosis is answered. -/
theorem answered (h : Enriched plan deadline d calls d') : ∀ c ∈ calls, c.Answered := by
  cases h with
  | unchanged => exact List.forall_mem_nil _
  | explained => simp [CompletionCall.Answered]
  | corrected => simp [CompletionCall.Answered]

/-- Nothing but the explanation and the manifest of a diagnosis changes. -/
theorem eq_with (h : Enriched plan deadline d calls d') :
    d' = { d with explanation := d'.explanation, manifest := d'.manifest } := by
  cases h <;> rfl

/-- Without explain a diagnosis keeps its explanation. -/
theorem explanation_eq (h : Enriched plan deadline d calls d') (hplan : plan.explain = false) :
    d'.explanation = d.explanation := by
  cases h with
  | unchanged => rfl
  | explained h => exact absurd h.wanted (by simp [hplan])
  | corrected h => exact absurd h.wanted (by simp [hplan])

/-- A diagnosis for which no manifest is wanted keeps the one it has. -/
theorem manifest_eq (h : Enriched plan deadline d calls d') (hfix : wantsManifest plan d = false) :
    d'.manifest = d.manifest := by
  cases h with
  | unchanged => rfl
  | explained => rfl
  | corrected _ hfix' => exact absurd hfix' (by simp [hfix])

end Enriched

/-! ### Diagnoses where the enrichment ends -/

namespace Stopped

/-- Where enrichment stops, what was called are the first of the requests. -/
theorem map_request_isPrefix (h : Stopped plan deadline d calls f d' m) :
    calls.map CompletionCall.request <+: requests plan d := by
  cases h with
  | ended => exact List.nil_prefix
  | unexplained h => simp [requests, h, CompletionCall.request]
  | refused h => simp [requests, h, CompletionCall.request]
  | unusable h => simp [requests, h, CompletionCall.request]
  | uncorrected h hfix => simp [requests, h.wanted, hfix, CompletionCall.request]

/-- Where enrichment stops, its calls end with the fault. -/
theorem endWith (h : Stopped plan deadline d calls f d' m) :
    CompletionCall.EndWith deadline calls f m := by
  cases h with
  | ended _ hover => exact .inl ⟨List.forall_mem_nil _, hover⟩
  | unexplained => exact .inr ⟨[], _, rfl, List.forall_mem_nil _, .inl rfl⟩
  | refused _ _ hreply =>
    refine .inr ⟨[], _, rfl, List.forall_mem_nil _, .inr ⟨_, rfl, fun s hs ↦ ?_⟩⟩
    subst hs
    cases hreply
  | unusable _ _ hreply hlength =>
    refine .inr ⟨[], _, rfl, List.forall_mem_nil _, .inr ⟨_, rfl, fun s hs ↦ ?_⟩⟩
    subst hs
    cases hreply
    cases hlength
  | uncorrected => exact .inr ⟨[_], _, rfl, by simp [CompletionCall.Answered], .inl rfl⟩

/-- The diagnosis has at most its explanation. -/
theorem eq_with (h : Stopped plan deadline d calls f d' m) :
    d' = { d with explanation := d'.explanation } := by
  cases h <;> rfl

end Stopped

end Enrichment

end ClusterDiagnosis
