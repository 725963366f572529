import ClusterDiagnosis.Proofs.Scan.Running

/-!
# Answers that come to the same

Events are evidence that a scan can do without: events that cannot be had are as good as none,
unless the reason is that the run is over; and a log that cannot be had is as good as an empty one.
`Query.Alike` says which answers are alike for this reason. Two sources are alike (`Source.Alike`)
if they give alike answers and take the same time over them.
-/

set_option autoImplicit false
set_option relaxedAutoImplicit false

namespace ClusterDiagnosis

/-- Answers to an access that come to the same for a scan. -/
inductive Query.Alike : (q : Query) → Except Fault q.Answer → Except Fault q.Answer → Prop where
  | same (q : Query) (r : Except Fault q.Answer) : Alike q r r
  /-- Events that cannot be had, and no events. -/
  | noEvents (scope name : Value) (most : Nat) {f : Fault} (h : f.endsRun = false) :
      Alike (.events scope name most) (.error f) (.ok [])
  /-- A log that cannot be had, and an empty one. -/
  | noLog (pod scope container : Value) (lastLines : Nat) :
      Alike (.log pod scope container lastLines) (.ok none) (.ok (some ""))

/-- An access whose answers are alike only if they are the same. -/
def Query.Firm (q : Query) : Prop :=
  ∀ r r', q.Alike r r' → r = r'

theorem Query.firm_list (kind : String) (scope selector : Value) :
    (Query.list kind scope selector).Firm := by
  intro r r' h
  cases h
  rfl

theorem Query.firm_get (kind : String) (scope name : Value) :
    (Query.get kind scope name).Firm := by
  intro r r' h
  cases h
  rfl

/-- Two sources that give alike answers, and are the same in what an access does to the time, to the
run and to their state. -/
def Source.Alike {σ : Type} (source source' : Source σ) : Prop :=
  ∀ q limit m s, q.Alike (source.answer q limit m s).1 (source'.answer q limit m s).1 ∧
    (source.answer q limit m s).2 = (source'.answer q limit m s).2

variable {σ α : Type} {source source' : Source σ} {deadline : Option Deadline}

/-- An access gets on alike at alike sources, if what follows it does so after alike answers. -/
theorem Source.Alike.run_consult (h : source.Alike source') {q : Query} (limit : Value)
    {next : Except Fault q.Answer → Scan α} (hnext : ∀ r r', q.Alike r r' → next r = next r')
    (hrun : ∀ r (w : World σ),
      (next r).run source deadline w = (next r).run source' deadline w) (w : World σ) :
    (Scan.consult q limit next).run source deadline w =
      (Scan.consult q limit next).run source' deadline w := by
  obtain ⟨halike, hleft⟩ := h q limit w.moment w.cluster
  rw [Scan.run_consult, Scan.run_consult, hrun, hnext _ _ halike, hleft]

end ClusterDiagnosis
