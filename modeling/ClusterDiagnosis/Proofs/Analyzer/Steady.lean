import ClusterDiagnosis.Proofs.Analyzer.Composition
import ClusterDiagnosis.Proofs.Scan.Owner

/-!
# Scans of a cluster that does not change

A cluster that does not change gives each access the same answer whenever and however often it is
made (`Source.Steady`). Against fixed answers a scan has an outcome that no clock has a part in
(`Scan.outcome`). A scan is settled (`Scan.Settled`) if a run of it gives that outcome, whatever the
deadline and however time passes, unless it ends because the run is over. Plain scans are, searches
for owners are, and sequences of settled scans are. A settled scan is faithful (`Scan.Faithful`): a
run of it that succeeds gives the outcome. Without a deadline, and if nothing cancels the run, every
scan gives its outcome (`Scan.run_eq_outcome`).
-/

set_option autoImplicit false
set_option relaxedAutoImplicit false

namespace ClusterDiagnosis

/-- An answer to every access. -/
abbrev Answers := (q : Query) → Except Fault q.Answer

/-- A source that answers each access in one way only, whatever the time and its state. -/
def Source.Steady {σ : Type} (source : Source σ) (answers : Answers) : Prop :=
  ∀ q limit m s, (source.answer q limit m s).1 = answers q

/-- A source that never cancels the run it answers. -/
def Source.Patient {σ : Type} (source : Source σ) : Prop :=
  ∀ q limit m s, m.cancelled = false → (source.answer q limit m s).2.1.cancelled = false

variable {σ α β : Type} {source : Source σ} {deadline : Option Deadline} {answers : Answers}

namespace Scan

/-- What a scan gives if accesses have fixed answers, and the run has no deadline and is not
cancelled. -/
def outcome {α : Type} (answers : Answers) : Scan α → Except Fault α
  | done r => r
  | checkpoint next => next.outcome answers
  | allowance next => (next none).outcome answers
  | consult q _ next => (next (answers q)).outcome answers
  | note _ next => next.outcome answers

/-- The outcome of two steps is that of the second on the outcome of the first. -/
theorem outcome_bind (p : Scan α) (f : α → Scan β) :
    (p >>= f).outcome answers = p.outcome answers >>= fun a ↦ (f a).outcome answers := by
  change (p.bind f).outcome answers = _
  induction p with
  | done r => cases r <;> rfl
  | checkpoint next ih => exact ih
  | allowance next ih => exact ih none
  | consult q limit next ih => exact ih (answers q)
  | note entry next ih => exact ih

@[simp] theorem outcome_liftM (r : Except Fault α) :
    (liftM r : Scan α).outcome answers = r :=
  rfl

@[simp] theorem outcome_check : check.outcome answers = .ok () :=
  rfl

@[simp] theorem outcome_time : time.outcome answers = .ok .null :=
  rfl

@[simp] theorem outcome_record (entry : GaugeEntry) :
    (record entry).outcome answers = .ok () :=
  rfl

end Scan

namespace Owner

open Scan

/-- The outcome of a walk up the owners does not depend on the time limit of its accesses. -/
theorem outcome_walk (scope limit limit' : Value) (steps : Nat) (here : ObjectRef) :
    (walk scope limit steps here).outcome answers =
      (walk scope limit' steps here).outcome answers := by
  induction steps generalizing here with
  | zero => rfl
  | succ steps ih =>
    unfold walk
    split
    · simp only [outcome]
      rcases answers (.get here.kind scope (.str here.name)) with f | _ | owner
      · cases f <;> rfl
      · rfl
      · dsimp only
        split
        · rw [outcome_bind, outcome_bind]
          congr 1
          funext ref
          cases ref with
          | none => rfl
          | some ref =>
            simp only [outcome_bind]
            congr 1
            funext next
            exact ih next
        · rfl
    · rfl

/-- Which owner is found does not depend on the time that the reads are given. -/
theorem outcome_find (object limit limit' : Value) (steps : Nat) :
    (find object limit steps).outcome answers = (find object limit' steps).outcome answers := by
  unfold find
  simp only [outcome_bind, outcome_liftM]
  congr 1
  funext metadata
  congr 1
  funext scope
  congr 1
  funext ref
  cases ref with
  | none => rfl
  | some ref =>
    simp only [outcome_bind, outcome_liftM]
    congr 1
    funext first
    rw [outcome_walk scope limit limit']

end Owner

namespace Scan

/-- A scan whose runs against fixed answers give its outcome, unless they end because the run is
over. -/
def Settled (source : Source σ) (deadline : Option Deadline) (answers : Answers)
    (p : Scan α) : Prop :=
  ∀ w : World σ, (p.run source deadline w).1 = p.outcome answers ∨
    ∃ f, (p.run source deadline w).1 = .error f ∧ f.endsRun = true

namespace Settled

theorem bind {p : Scan α} {f : α → Scan β} (hp : Settled source deadline answers p)
    (hf : ∀ a, Settled source deadline answers (f a)) :
    Settled source deadline answers (p >>= f) := by
  intro w
  have hfirst := hp w
  rw [run_bind, outcome_bind]
  rcases hrun : p.run source deadline w with ⟨e | a, w₁⟩
  · rw [hrun] at hfirst
    rcases hfirst with houtcome | ⟨e', herror, hends⟩
    · rw [← houtcome]
      exact .inl rfl
    · obtain rfl := Except.error.inj herror
      exact .inr ⟨e, rfl, hends⟩
  · rw [hrun] at hfirst
    rcases hfirst with houtcome | ⟨e, herror, -⟩
    · rw [← houtcome]
      exact hf a w₁
    · cases herror

theorem record (entry : GaugeEntry) : Settled source deadline answers (Scan.record entry) :=
  fun _ ↦ .inl rfl

/-- On a steady source every plain scan is settled. -/
theorem plain (hsteady : source.Steady answers) {p : Scan α} (hp : Plain p) :
    Settled source deadline answers p := by
  intro w
  induction hp generalizing w with
  | done r => exact .inl rfl
  | checkpoint _ ih =>
    rw [Scan.run]
    cases hover : runOver? deadline w.moment with
    | some f => exact .inr ⟨f, rfl, endsRun_of_runOver? hover⟩
    | none => exact ih w
  | ask q _ _ ih =>
    rw [Scan.run, ClusterDiagnosis.allowance]
    cases hover : runOver? deadline w.moment with
    | some f => exact .inr ⟨f, rfl, endsRun_of_runOver? hover⟩
    | none =>
      dsimp only
      rw [run_consult, hsteady]
      exact ih (answers q) _

/-- The time limit that a scan hands on to its reads has no part in what a run of it gives. -/
theorem hops (hsteady : source.Steady answers) {scope limit : Value} {steps : Nat} {p : Scan α}
    (hp : Owner.Hops scope limit steps p) (w : World σ) :
    (p.run source deadline w).1 = p.outcome answers := by
  induction hp generalizing w with
  | done steps r => rfl
  | read kind name _ ih =>
    rw [run_consult, hsteady]
    exact ih _ _

/-- On a steady source the search for an owner is settled as well. -/
theorem search (hsteady : source.Steady answers) (object : Value) :
    Settled source deadline answers (Owner.search object) := by
  intro w
  rw [Owner.search, run_bind, run_time]
  cases hover : runOver? deadline w.moment with
  | some f => exact .inr ⟨f, rfl, endsRun_of_runOver? hover⟩
  | none =>
    dsimp only
    obtain ⟨scope, hhops⟩ :=
      Owner.hops_find object (.seconds (timeLeft deadline w.moment)) Owner.maxSteps
    rw [hops hsteady hhops, outcome_bind, outcome_time]
    exact .inl (Owner.outcome_find object _ .null Owner.maxSteps)

/-- What a run of built-in analyzers against fixed answers gives is settled by these. -/
theorem composed (hsteady : source.Steady answers) {p : Scan α} (hp : Composed p) :
    Settled source deadline answers p := by
  induction hp with
  | plain h => exact plain hsteady h
  | record entry => exact record entry
  | search object => exact search hsteady object
  | bind _ _ ihp ihf => exact bind ihp ihf

end Settled

/-- A scan whose runs against fixed answers, if they succeed, give its outcome. -/
def Faithful (source : Source σ) (deadline : Option Deadline) (answers : Answers)
    (p : Scan α) : Prop :=
  ∀ (w w' : World σ) (a : α), p.run source deadline w = (.ok a, w') → p.outcome answers = .ok a

/-- A run that is over does not succeed. -/
theorem Settled.faithful {p : Scan α} (hp : Settled source deadline answers p) :
    Faithful source deadline answers p := by
  intro w w' a hrun
  have hsettled := hp w
  rw [hrun] at hsettled
  rcases hsettled with houtcome | ⟨f, herror, -⟩
  · exact houtcome.symm
  · cases herror

/-- Without a deadline, and if nothing cancels the run, a scan of fixed answers gives its
outcome. -/
theorem run_eq_outcome (hsteady : source.Steady answers) (hpatient : source.Patient) (p : Scan α)
    {w : World σ} (hw : w.moment.cancelled = false) :
    (p.run source none w).1 = p.outcome answers := by
  have hover (w : World σ) (hw : w.moment.cancelled = false) : runOver? none w.moment = none := by
    simp [runOver?, hw]
  induction p generalizing w with
  | done r => rfl
  | checkpoint next ih =>
    rw [Scan.run, hover w hw]
    exact ih hw
  | allowance next ih =>
    rw [Scan.run, ClusterDiagnosis.allowance, hover w hw]
    exact ih none hw
  | consult q limit next ih =>
    rw [run_consult, hsteady]
    exact ih _ (hpatient q limit w.moment w.cluster hw)
  | note entry next ih => exact ih hw

end Scan

/-- A run of built-in analyzers that succeeds against fixed answers gives what these answers
determine. -/
theorem Composed.faithful (hsteady : source.Steady answers) {p : Scan α} (hp : Composed p) :
    p.Faithful source deadline answers :=
  (Scan.Settled.composed hsteady hp).faithful

end ClusterDiagnosis
