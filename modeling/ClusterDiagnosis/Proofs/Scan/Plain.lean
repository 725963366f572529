import ClusterDiagnosis.Detect.Snapshot
import ClusterDiagnosis.Proofs.Scan.Alike
import ClusterDiagnosis.Scan.Event

/-!
# Plain scans

A scan is plain (`Plain`) if it does nothing but check, ask and compute: each access is made right
after the time left was read and with that time as its limit, what happens after the access does not
depend on the time and is the same after alike answers, and the gauge is left alone. Sequences of
plain scans are plain, so that every detection of failures is (in `Proofs.Detect.Plain`). Running a
plain scan makes timely accesses only (`Plain.exists_asked`), leaves the gauge as it was
(`Plain.run_gauge`), and does not tell alike sources apart (`Plain.run_alike`).
-/

set_option autoImplicit false
set_option relaxedAutoImplicit false

namespace ClusterDiagnosis

/-- An access made in time: the run is not over when it starts, and the time limit it is given is
the time left at that moment. -/
def Asked.Timely (deadline : Option Deadline) (a : Asked) : Prop :=
  runOver? deadline a.start = none ∧ a.limit = .seconds (timeLeft deadline a.start)

instance (deadline : Option Deadline) (a : Asked) : Decidable (a.Timely deadline) :=
  inferInstanceAs (Decidable (_ ∧ _))

namespace Scan

variable {σ α β : Type} {source : Source σ} {deadline : Option Deadline}

/-- A scan that only checks, asks and computes. -/
inductive Plain {α : Type} : Scan α → Prop where
  | done (r : Except Fault α) : Plain (done r)
  | checkpoint {next : Scan α} (h : Plain next) : Plain (checkpoint next)
  | ask (q : Query) {next : Except Fault q.Answer → Scan α} (h : ∀ r, Plain (next r))
      (halike : ∀ r r', q.Alike r r' → next r = next r') :
      Plain (allowance fun t ↦ consult q (.seconds t) next)

namespace Plain

/-! ### Which scans are plain -/

/-- One plain scan after the other is plain. -/
theorem bind {p : Scan α} {f : α → Scan β} (hp : Plain p) (hf : ∀ a, Plain (f a)) :
    Plain (p >>= f) := by
  change Plain (p.bind f)
  induction hp with
  | done r =>
    cases r with
    | error e => exact done _
    | ok a => exact hf a
  | checkpoint _ ih => exact checkpoint ih
  | ask q _ halike ih => exact ask q ih fun r r' h ↦ congrArg (·.bind f) (halike r r' h)

theorem pure (a : α) : Plain (Pure.pure a : Scan α) :=
  done _

theorem lifted (r : Except Fault α) : Plain (liftM r : Scan α) :=
  done _

theorem lift (r : Except Fault α) : Plain (Scan.lift r) :=
  done _

theorem check : Plain Scan.check :=
  checkpoint (done _)

theorem asking {q : Query} (hq : q.Firm) : Plain (Scan.ask q) :=
  ask q done fun r r' h ↦ congrArg Scan.done (hq r r' h)

theorem latestEvent (scope name : Value) : Plain (Scan.latestEvent scope name) := by
  refine ask (.events scope name 1) (fun r ↦ ?_) fun r r' h ↦ ?_
  · unfold firstOf
    split
    · exact pure _
    · exact pure _
    · split
      · exact done _
      · exact pure _
  · cases h with
    | same => rfl
    | noEvents _ _ _ hf => simp only [firstOf, hf, Bool.false_eq_true, if_false, List.head?_nil]

/-- A log may be asked for if none at all is treated as an empty one. -/
theorem askLog (pod scope container : Value) (lastLines : Nat) {f : Option String → Scan α}
    (hf : ∀ log, Plain (f log)) (hnone : f none = f (some "")) :
    Plain (Scan.ask (.log pod scope container lastLines) >>= f) := by
  refine ask (.log pod scope container lastLines) (fun r ↦ ?_) fun r r' h ↦ ?_
  · cases r with
    | error e => exact done _
    | ok log => exact hf log
  · cases h with
    | same => rfl
    | noLog => exact hnone

theorem isMissing (kind : String) (scope name : Value) :
    Plain (Detect.isMissing kind scope name) :=
  bind (asking (Query.firm_get kind scope name)) fun _ ↦ pure _

/-- Collecting failures by plain scans is plain. -/
theorem collect {step : α → Scan (Option Failure)} (hstep : ∀ x, Plain (step x)) (xs : List α) :
    Plain (Detect.collect step xs) := by
  induction xs with
  | nil => exact pure _
  | cons x xs ih => exact bind (hstep x) fun _ ↦ bind ih fun _ ↦ pure _

/-! ### What plain scans do -/

/-- All accesses of a plain scan are timely. -/
theorem exists_asked {p : Scan α} (hp : Plain p) (source : Source σ) (deadline : Option Deadline)
    (w : World σ) :
    ∃ new : List Asked, (p.run source deadline w).2.asked = w.asked ++ new ∧
      ∀ a ∈ new, a.Timely deadline := by
  induction hp generalizing w with
  | done r => exact ⟨[], by simp⟩
  | checkpoint _ ih =>
    simp only [Scan.run]
    split
    · exact ⟨[], by simp⟩
    · exact ih w
  | ask q _ _ ih =>
    simp only [Scan.run, ClusterDiagnosis.allowance]
    cases hover : runOver? deadline w.moment with
    | some f => exact ⟨[], by simp⟩
    | none =>
      obtain ⟨new, hasked, hnew⟩ := ih _ _
      refine ⟨_ :: new, by rw [hasked, List.append_assoc, List.singleton_append], ?_⟩
      intro a ha
      rcases List.mem_cons.mp ha with rfl | ha
      · exact ⟨hover, rfl⟩
      · exact hnew a ha

/-- A plain scan leaves the gauge as it was. -/
theorem run_gauge {p : Scan α} (hp : Plain p) (w : World σ) :
    (p.run source deadline w).2.gauge = w.gauge := by
  induction hp generalizing w with
  | done r => rfl
  | checkpoint _ ih =>
    simp only [Scan.run]
    split
    · rfl
    · exact ih w
  | ask q _ _ ih =>
    simp only [Scan.run]
    split
    · rfl
    · exact ih _ _

/-- A plain scan does not tell alike sources apart. -/
theorem run_alike {p : Scan α} (hp : Plain p) {source' : Source σ} (h : source.Alike source')
    (w : World σ) : p.run source deadline w = p.run source' deadline w := by
  induction hp generalizing w with
  | done r => rfl
  | checkpoint _ ih =>
    simp only [Scan.run]
    split
    · rfl
    · exact ih w
  | ask q _ halike ih =>
    rw [Scan.run, Scan.run]
    split
    · rfl
    · exact h.run_consult _ halike ih w

end Plain

end Scan

end ClusterDiagnosis
