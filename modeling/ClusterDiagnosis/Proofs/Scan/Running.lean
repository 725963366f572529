import ClusterDiagnosis.Scan.Basic
import Mathlib.Tactic.Common

/-!
# Running scans one after the other

A scan that is followed by another one runs like the first, and then, unless that ended in a fault,
like the second in the world that the first left (`run_bind`). `run_bind_eq_ok_iff` and
`run_bind_eq_error_iff` take a finished run apart again. The small lemmas beside them run the scans
of a single step, so that later modules never open `Scan.run`.

The accesses made so far and the gauge are only written to: what a run gives, and the time and the
cluster it leaves, are the same whatever they hold (`run_congr`).
-/

set_option autoImplicit false
set_option relaxedAutoImplicit false

namespace ClusterDiagnosis

/-- A computation that succeeds hands its result on. -/
theorem ok_bind {α β : Type} (a : α) (f : α → Except Fault β) : Except.ok a >>= f = f a :=
  rfl

/-- A sequence of computations succeeds exactly if both do. -/
theorem bind_eq_ok_iff {α β : Type} {r : Except Fault α} {f : α → Except Fault β} {b : β} :
    r >>= f = .ok b ↔ ∃ a, r = .ok a ∧ f a = .ok b := by
  cases r with
  | error e => simp [bind, Except.bind]
  | ok a => simp [bind, Except.bind]

/-- What a step gives for each of several items, it gives for one of them. -/
theorem exists_of_mem_mapM {α β : Type} {f : α → Except Fault β} {xs : List α} {ys : List β}
    (h : xs.mapM f = .ok ys) : ∀ y ∈ ys, ∃ x ∈ xs, f x = .ok y := by
  induction xs generalizing ys with
  | nil =>
    cases h
    exact List.forall_mem_nil _
  | cons x xs ih =>
    rw [List.mapM_cons, bind_eq_ok_iff] at h
    obtain ⟨y, hy, h⟩ := h
    obtain ⟨ys, hys, h⟩ := bind_eq_ok_iff.mp h
    cases h
    refine List.forall_mem_cons.mpr ⟨⟨x, List.mem_cons_self, hy⟩, fun y hy ↦ ?_⟩
    obtain ⟨x, hx, hfx⟩ := ih hys y hy
    exact ⟨x, List.mem_cons_of_mem _ hx, hfx⟩

/-- A step that succeeds for each of several items succeeds for all of them. -/
theorem mapM_eq_ok_map {α β : Type} {f : α → Except Fault β} {g : α → β} {xs : List α}
    (h : ∀ x ∈ xs, f x = .ok (g x)) : xs.mapM f = .ok (xs.map g) := by
  induction xs with
  | nil => rfl
  | cons x xs ih =>
    obtain ⟨hx, hxs⟩ := List.forall_mem_cons.mp h
    rw [List.mapM_cons, hx, ih hxs]
    rfl

/-- A run ends in a fault of its own when it is over. -/
theorem endsRun_of_runOver? {deadline : Option Deadline} {m : Moment} {f : Fault}
    (h : runOver? deadline m = some f) : f.endsRun = true := by
  unfold runOver? at h
  split at h
  · cases h
    rfl
  · split at h
    · cases h
    · split at h
      · cases h
        rfl
      · cases h

namespace Scan

variable {σ α β : Type} {source : Source σ} {deadline : Option Deadline}

/-! ### Sequencing -/

/-- Two steps run one after the other, unless the first one fails. -/
theorem run_bind (p : Scan α) (f : α → Scan β) (w : World σ) :
    (p >>= f).run source deadline w =
      match p.run source deadline w with
      | (.ok a, w₁) => (f a).run source deadline w₁
      | (.error e, w₁) => (.error e, w₁) := by
  change (p.bind f).run source deadline w = _
  induction p generalizing w with
  | done r => cases r <;> rfl
  | checkpoint next ih =>
    simp only [Scan.bind, Scan.run]
    split
    · rfl
    · exact ih w
  | allowance next ih =>
    simp only [Scan.bind, Scan.run]
    split
    · rfl
    · exact ih _ w
  | consult q limit next ih =>
    simp only [Scan.bind, Scan.run]
    exact ih _ _
  | note entry next ih =>
    simp only [Scan.bind, Scan.run]
    exact ih _

/-- A sequence succeeds exactly if both parts do, one after the other. -/
theorem run_bind_eq_ok_iff {p : Scan α} {f : α → Scan β} {w w' : World σ} {b : β} :
    (p >>= f).run source deadline w = (.ok b, w') ↔
      ∃ a w₁, p.run source deadline w = (.ok a, w₁) ∧
        (f a).run source deadline w₁ = (.ok b, w') := by
  rw [run_bind]
  rcases hp : p.run source deadline w with ⟨e | a, w₁⟩
  · simp
  · constructor
    · intro h
      exact ⟨a, w₁, rfl, h⟩
    · rintro ⟨a', w₁', h, hf⟩
      cases h
      exact hf

/-- A sequence fails exactly if its first part does, or if the second does after it. -/
theorem run_bind_eq_error_iff {p : Scan α} {f : α → Scan β} {w w' : World σ} {e : Fault} :
    (p >>= f).run source deadline w = (.error e, w') ↔
      p.run source deadline w = (.error e, w') ∨
        ∃ a w₁, p.run source deadline w = (.ok a, w₁) ∧
          (f a).run source deadline w₁ = (.error e, w') := by
  rw [run_bind]
  rcases hp : p.run source deadline w with ⟨e' | a, w₁⟩
  · simp
  · constructor
    · intro h
      exact Or.inr ⟨a, w₁, rfl, h⟩
    · rintro (h | ⟨a', w₁', h, hf⟩)
      · cases h
      · cases h
        exact hf

/-- A computation that succeeds hands its result on to the scan behind it. -/
theorem liftM_ok_bind (a : α) (f : α → Scan β) :
    (liftM (Except.ok a : Except Fault α) : Scan α) >>= f = f a :=
  rfl

/-! ### Single steps -/

@[simp] theorem run_done (r : Except Fault α) (w : World σ) :
    (done r).run source deadline w = (r, w) :=
  rfl

@[simp] theorem run_pure (a : α) (w : World σ) :
    (pure a : Scan α).run source deadline w = (.ok a, w) :=
  rfl

/-- The check lets a run go on that is not over. -/
theorem run_check (w : World σ) :
    check.run source deadline w = match runOver? deadline w.moment with
      | some f => (.error f, w)
      | none => (.ok (), w) :=
  rfl

/-- The time left is read while the run is not over; a run that is over stops instead. -/
theorem run_time (w : World σ) :
    time.run source deadline w = match runOver? deadline w.moment with
      | some f => (.error f, w)
      | none => (.ok (.seconds (timeLeft deadline w.moment)), w) := by
  simp only [time, Scan.run, ClusterDiagnosis.allowance]
  cases runOver? deadline w.moment <;> rfl

/-- An access is made with the time left, unless the run is over. -/
theorem run_ask (q : Query) (w : World σ) :
    (ask q).run source deadline w = match runOver? deadline w.moment with
      | some f => (.error f, w)
      | none => (askWithin q (.seconds (timeLeft deadline w.moment))).run source deadline w := by
  rw [ask, run_bind, run_time]
  cases runOver? deadline w.moment <;> rfl

@[simp] theorem run_record (entry : GaugeEntry) (w : World σ) :
    (record entry).run source deadline w =
      (.ok (), { w with gauge := w.gauge.map (·.apply entry) }) :=
  rfl

/-- A question is put to the source, and the access is put on record with its times. -/
theorem run_consult (q : Query) (limit : Value) (next : Except Fault q.Answer → Scan α)
    (w : World σ) :
    (consult q limit next).run source deadline w =
      (next (source.answer q limit w.moment w.cluster).1).run source deadline
        { w with
          moment := (source.answer q limit w.moment w.cluster).2.1
          cluster := (source.answer q limit w.moment w.cluster).2.2
          asked := w.asked ++ [⟨q, limit, w.moment⟩] } :=
  rfl

/-- A sequence leaves the gauge that its first part leaves, if the second has no part in it. -/
theorem gauge_run_bind_left {p : Scan α} {f : α → Scan β}
    (hf : ∀ a, ∀ w : World σ, ((f a).run source deadline w).2.gauge = w.gauge) (w : World σ) :
    ((p >>= f).run source deadline w).2.gauge = (p.run source deadline w).2.gauge := by
  rw [run_bind]
  rcases p.run source deadline w with ⟨e | a, w₁⟩
  · rfl
  · exact hf a w₁

/-- A sequence leaves the gauge as it was if its parts do. -/
theorem gauge_run_bind {p : Scan α} {f : α → Scan β}
    (hp : ∀ w : World σ, (p.run source deadline w).2.gauge = w.gauge)
    (hf : ∀ a, ∀ w : World σ, ((f a).run source deadline w).2.gauge = w.gauge) (w : World σ) :
    ((p >>= f).run source deadline w).2.gauge = w.gauge :=
  (gauge_run_bind_left hf w).trans (hp w)

/-! ### What is only written to -/

/-- Two worlds that differ in nothing but the accesses made so far and the gauge. -/
def SameState (v w : World σ) : Prop :=
  v.moment = w.moment ∧ v.cluster = w.cluster

theorem SameState.refl (w : World σ) : SameState w w :=
  ⟨rfl, rfl⟩

theorem SameState.symm {v w : World σ} (h : SameState v w) : SameState w v :=
  ⟨h.1.symm, h.2.symm⟩

theorem SameState.trans {u v w : World σ} (h : SameState u v) (h' : SameState v w) :
    SameState u w :=
  ⟨h.1.trans h'.1, h.2.trans h'.2⟩

theorem SameState.withGauge (w : World σ) (g : Option Gauge) :
    SameState { w with gauge := g } w :=
  ⟨rfl, rfl⟩

/-- What a run gives depends on the time and the cluster alone, and so do those it leaves. -/
theorem run_congr (p : Scan α) {v w : World σ} (h : SameState v w) :
    (p.run source deadline v).1 = (p.run source deadline w).1 ∧
      SameState (p.run source deadline v).2 (p.run source deadline w).2 := by
  induction p generalizing v w with
  | done r => exact ⟨rfl, h⟩
  | checkpoint next ih =>
    simp only [Scan.run, h.1]
    split
    · exact ⟨rfl, h⟩
    · exact ih h
  | allowance next ih =>
    simp only [Scan.run, h.1]
    split
    · exact ⟨rfl, h⟩
    · exact ih _ h
  | consult q limit next ih =>
    simp only [Scan.run, h.1, h.2]
    exact ih _ ⟨rfl, rfl⟩
  | note entry next ih =>
    simp only [Scan.run]
    exact ih h

end Scan

end ClusterDiagnosis
