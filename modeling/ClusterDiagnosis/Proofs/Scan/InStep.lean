import ClusterDiagnosis.Detect.Snapshot
import ClusterDiagnosis.Proofs.Scan.Running
import ClusterDiagnosis.Proofs.Value.Reordered
import ClusterDiagnosis.Scan.Event

/-!
# Scans that go in step

Two scans go in step (`Scan.InStep`) if they do the same at each node and, whenever they are told
answers that a given relation admits, go on in step, up to results that agree. The rules below
follow the way scans are put together, so that a proof that two scans go in step has the form of the
scan. `InStep.run` says what this means for runs against two sources that answer as the relation
demands: the same accesses are made at the same times with the same limits, the gauge is changed
alike, and the results agree.
-/

set_option autoImplicit false
set_option relaxedAutoImplicit false

namespace ClusterDiagnosis

/-- Which two answers to an access two scans may be told. -/
abbrev AnswerPairs := (q : Query) → Except Fault q.Answer → Except Fault q.Answer → Prop

variable {σ τ α β : Type} {T : AnswerPairs} {R : σ → τ → Prop}

/-- Two sources in related states answer alike: at the same time, with answers of a pair, and going
on in related states. -/
structure Source.Paired (T : AnswerPairs) (R : σ → τ → Prop) (source : Source σ)
    (source' : Source τ) : Prop where
  told : ∀ q limit m s t, R s t → T q (source.answer q limit m s).1 (source'.answer q limit m t).1
  moment : ∀ q limit m s t, R s t →
    (source.answer q limit m s).2.1 = (source'.answer q limit m t).2.1
  state : ∀ q limit m s t, R s t →
    R (source.answer q limit m s).2.2 (source'.answer q limit m t).2.2

/-- Two worlds with clusters in related states and nothing else that tells them apart. -/
structure World.Paired (R : σ → τ → Prop) (w : World σ) (w' : World τ) : Prop where
  moment : w.moment = w'.moment
  cluster : R w.cluster w'.cluster
  asked : w.asked = w'.asked
  gauge : w.gauge = w'.gauge

namespace Scan

/-- Two scans that do the same as long as they are told what the pairs admit, with results that
agree. -/
inductive InStep (T : AnswerPairs) {α : Type} (P : α → α → Prop) : Scan α → Scan α → Prop where
  | done {r r' : Except Fault α} (h : Agree P r r') : InStep T P (done r) (done r')
  | checkpoint {next next' : Scan α} (h : InStep T P next next') :
      InStep T P (checkpoint next) (checkpoint next')
  | allowance {next next' : Option Double → Scan α} (h : ∀ t, InStep T P (next t) (next' t)) :
      InStep T P (allowance next) (allowance next')
  | consult (q : Query) (limit : Value) {next next' : Except Fault q.Answer → Scan α}
      (h : ∀ r r', T q r r' → InStep T P (next r) (next' r')) :
      InStep T P (consult q limit next) (consult q limit next')
  | note (entry : GaugeEntry) {next next' : Scan α} (h : InStep T P next next') :
      InStep T P (note entry next) (note entry next')

namespace InStep

variable {P : α → α → Prop} {Q : β → β → Prop}

/-! ### How scans in step are put together -/

/-- Two steps go in step if the second ones do so after matching results. -/
theorem bind {p p' : Scan α} {f f' : α → Scan β} (hp : InStep T P p p')
    (hf : ∀ a a', P a a' → InStep T Q (f a) (f' a')) : InStep T Q (p >>= f) (p' >>= f') := by
  change InStep T Q (p.bind f) (p'.bind f')
  induction hp with
  | done h =>
    cases h with
    | ok h => exact hf _ _ h
    | error e => exact done (.error e)
  | checkpoint _ ih => exact checkpoint ih
  | allowance _ ih => exact allowance ih
  | consult q limit _ ih => exact consult q limit ih
  | note entry _ ih => exact note entry ih

/-- Sequences whose first parts give the same. -/
theorem andThen {p p' : Scan α} {f f' : α → Scan β} (hp : InStep T (· = ·) p p')
    (hf : ∀ a, InStep T Q (f a) (f' a)) : InStep T Q (p >>= f) (p' >>= f') :=
  bind hp fun a _ h ↦ h ▸ hf a

theorem pure {a a' : α} (h : P a a') : InStep T P (Pure.pure a) (Pure.pure a') :=
  done (.ok h)

theorem lift {r r' : Except Fault α} (h : Agree P r r') :
    InStep T P (Scan.lift r) (Scan.lift r') :=
  done h

theorem lifted {r r' : Except Fault α} (h : Agree P r r') :
    InStep T P (liftM r : Scan α) (liftM r' : Scan α) :=
  done h

/-- Scans that begin with a computation. -/
theorem lifting {r r' : Except Fault α} {f f' : α → Scan β} (h : Agree P r r')
    (hf : ∀ a a', P a a' → InStep T Q (f a) (f' a')) :
    InStep T Q (liftM r >>= f) (liftM r' >>= f') :=
  bind (lifted h) hf

/-- Scans that begin with the same computation. -/
theorem same {r r' : Except Fault α} {f f' : α → Scan β} (h : r = r')
    (hf : ∀ a, InStep T Q (f a) (f' a)) : InStep T Q (liftM r >>= f) (liftM r' >>= f') :=
  andThen (lifted (.of_eq h)) hf

theorem check : InStep T (· = ·) Scan.check Scan.check :=
  checkpoint (pure rfl)

theorem time : InStep T (· = ·) Scan.time Scan.time :=
  allowance fun _ ↦ pure rfl

theorem record (entry : GaugeEntry) : InStep T (· = ·) (Scan.record entry) (Scan.record entry) :=
  note entry (pure rfl)

/-- A question goes in step with itself where its answers match. -/
theorem asking {q : Query} {P : q.Answer → q.Answer → Prop}
    (h : ∀ r r', T q r r' → Agree P r r') : InStep T P (Scan.ask q) (Scan.ask q) :=
  allowance fun t ↦ consult q (.seconds t) fun r r' hr ↦ done (h r r' hr)

/-- Steps that go in step item by item do so over lists of items. -/
theorem collect {R : α → α → Prop} {step step' : α → Scan (Option Failure)} {xs ys : List α}
    (h : List.Forall₂ R xs ys)
    (hstep : ∀ x y, R x y → InStep T (· = ·) (step x) (step' y)) :
    InStep T (· = ·) (Detect.collect step xs) (Detect.collect step' ys) := by
  induction h with
  | nil => exact pure rfl
  | cons hxy _ ih =>
    exact andThen (hstep _ _ hxy) fun found ↦ andThen ih fun others ↦ pure rfl

/-! ### What runs of them do -/

/-- Runs of scans in step, against sources that answer alike: their results agree, and the worlds
they leave are told apart by nothing but their clusters. -/
theorem run {p p' : Scan α} (hp : InStep T P p p') {source : Source σ} {source' : Source τ}
    (hsource : source.Paired T R source') (deadline : Option Deadline) {w : World σ} {w' : World τ}
    (hw : w.Paired R w') :
    Agree P (p.run source deadline w).1 (p'.run source' deadline w').1 ∧
      (p.run source deadline w).2.Paired R (p'.run source' deadline w').2 := by
  induction hp generalizing w w' with
  | done h => exact ⟨h, hw⟩
  | checkpoint _ ih =>
    rw [Scan.run, Scan.run, ← hw.moment]
    cases runOver? deadline w.moment with
    | some f => exact ⟨.error f, hw⟩
    | none => exact ih hw
  | allowance _ ih =>
    rw [Scan.run, Scan.run, ← hw.moment]
    cases ClusterDiagnosis.allowance deadline w.moment with
    | error f => exact ⟨.error f, hw⟩
    | ok t => exact ih t hw
  | consult q limit _ ih =>
    obtain ⟨hmoment, hcluster, hasked, hgauge⟩ := hw
    rw [run_consult, run_consult, ← hmoment, ← hasked]
    refine ih _ _ (hsource.told q limit w.moment _ _ hcluster) ⟨?_, ?_, rfl, hgauge⟩
    · exact hsource.moment q limit w.moment _ _ hcluster
    · exact hsource.state q limit w.moment _ _ hcluster
  | note entry _ ih =>
    refine ih ⟨hw.moment, hw.cluster, hw.asked, ?_⟩
    rw [hw.gauge]

end InStep

end Scan

end ClusterDiagnosis
