import ClusterDiagnosis.Proofs.Scan.Running

/-!
# Contracts of scans

A contract says what a scan may ask for, what it may be told, and the faults it may end in. A scan
meets a contract with a property of its result (`Scan.Meets`) if, as long as it is told what it may
be told, it asks for nothing else, and gives a result with the property or ends in one of the
faults. The rules below follow the way scans are put together, so that a proof that a scan meets a
contract has the form of the scan. `Meets.run` says what this means for a run.
-/

set_option autoImplicit false
set_option relaxedAutoImplicit false

namespace ClusterDiagnosis

/-- A computation that succeeds, with a result of the given property. -/
def Yields {α : Type} (P : α → Prop) (r : Except Fault α) : Prop :=
  ∃ a, r = .ok a ∧ P a

namespace Yields

variable {α β : Type} {P P' : α → Prop} {Q : β → Prop} {r : Except Fault α}

theorem ok {a : α} (h : P a) : Yields P (.ok a) :=
  ⟨a, rfl, h⟩

theorem mono (hr : Yields P r) (h : ∀ a, P a → P' a) : Yields P' r := by
  obtain ⟨a, rfl, ha⟩ := hr
  exact ok (h a ha)

/-- A second step succeeds if it does so after whatever the first one gives. -/
theorem bind {f : α → Except Fault β} (hr : Yields P r) (hf : ∀ a, P a → Yields Q (f a)) :
    Yields Q (r >>= f) := by
  obtain ⟨a, rfl, ha⟩ := hr
  exact hf a ha

theorem ok_bind {a : α} {f : α → Except Fault β} (h : Yields Q (f a)) :
    Yields Q (Except.ok a >>= f) :=
  h

theorem map {f : α → β} (hr : Yields P r) (hf : ∀ a, P a → Q (f a)) : Yields Q (r.map f) := by
  obtain ⟨a, rfl, ha⟩ := hr
  exact ok (hf a ha)

/-- Steps that succeed for each item succeed for all items. -/
theorem mapM {f : α → Except Fault β} {xs : List α} (hf : ∀ x ∈ xs, Yields Q (f x)) :
    Yields (fun ys ↦ ∀ y ∈ ys, Q y) (xs.mapM f) := by
  induction xs with
  | nil => exact ok (List.forall_mem_nil _)
  | cons x xs ih =>
    rw [List.mapM_cons]
    refine (hf x List.mem_cons_self).bind fun y hy ↦ ?_
    refine (ih fun x hx ↦ hf x (List.mem_cons_of_mem _ hx)).bind fun ys hys ↦ ?_
    exact ok (List.forall_mem_cons.mpr ⟨hy, hys⟩)

end Yields

/-- A computation whose result has the given property if it succeeds. -/
def Gives {α : Type} (P : α → Prop) (r : Except Fault α) : Prop :=
  ∀ a, r = .ok a → P a

namespace Gives

variable {α β : Type} {P : α → Prop} {Q : β → Prop} {r : Except Fault α}

theorem ok {a : α} (h : P a) : Gives P (.ok a) := by
  rintro b ⟨⟩
  exact h

theorem bind {f : α → Except Fault β} (hr : Gives P r) (hf : ∀ a, P a → Gives Q (f a)) :
    Gives Q (r >>= f) := by
  intro b h
  obtain ⟨a, ha, hb⟩ := bind_eq_ok_iff.mp h
  exact hf a (hr a ha) b hb

/-- The result depends on the last computation only. -/
theorem after {f : α → Except Fault β} (hf : ∀ a, Gives Q (f a)) : Gives Q (r >>= f) :=
  bind (P := fun _ ↦ True) (fun _ _ ↦ trivial) fun a _ ↦ hf a

theorem mapM {f : α → Except Fault β} {xs : List α} (hf : ∀ x ∈ xs, Gives Q (f x)) :
    Gives (fun ys ↦ ∀ y ∈ ys, Q y) (xs.mapM f) := by
  intro ys h y hy
  obtain ⟨x, hx, hfx⟩ := exists_of_mem_mapM h y hy
  exact hf x hx y hfx

end Gives

/-- What a scan may ask for, what it may be told, and the faults it may end in. -/
structure Contract where
  asks : Query → Prop
  told : (q : Query) → Except Fault q.Answer → Prop
  ends : Fault → Prop

namespace Contract

/-- A result of the given property, or one of the faults that a contract allows. -/
def Admits {α : Type} (C : Contract) (P : α → Prop) : Except Fault α → Prop
  | .ok a => P a
  | .error f => C.ends f

/-- A contract that excludes nothing. -/
def free : Contract where
  asks _ := True
  told _ _ := True
  ends _ := True

variable {σ : Type}

/-- A source and a deadline that keep to their side of a contract. -/
structure HeldBy (C : Contract) (source : Source σ) (deadline : Option Deadline) : Prop where
  told : ∀ q limit m s, C.asks q → C.told q (source.answer q limit m s).1
  ended : ∀ m f, runOver? deadline m = some f → C.ends f

/-- The contract that demands nothing is held by every source. -/
theorem free_heldBy (source : Source σ) (deadline : Option Deadline) :
    free.HeldBy source deadline :=
  ⟨fun _ _ _ _ _ ↦ trivial, fun _ _ _ ↦ trivial⟩

end Contract

namespace Scan

variable {σ α β : Type} {C : Contract} {P : α → Prop} {Q : β → Prop}

/-- Whether a scan keeps to a contract, with results of a property. -/
def Meets (C : Contract) (P : α → Prop) : Scan α → Prop
  | done r => C.Admits P r
  | checkpoint next => next.Meets C P
  | allowance next => ∀ t, (next t).Meets C P
  | consult q _ next => C.asks q ∧ ∀ r, C.told q r → (next r).Meets C P
  | note _ next => next.Meets C P

namespace Meets

/-! ### How scans that keep to a contract are put together -/

/-- Two steps keep a contract if the second does so after what the first one gives. -/
theorem bind {p : Scan α} {f : α → Scan β} (hp : p.Meets C P) (hf : ∀ a, P a → (f a).Meets C Q) :
    (p >>= f).Meets C Q := by
  change (p.bind f).Meets C Q
  induction p with
  | done r =>
    cases r with
    | error e => exact hp
    | ok a => exact hf a hp
  | checkpoint next ih => exact ih hp
  | allowance next ih => exact fun t ↦ ih t (hp t)
  | consult q limit next ih => exact ⟨hp.1, fun r hr ↦ ih r (hp.2 r hr)⟩
  | note entry next ih => exact ih hp

theorem pure {a : α} (h : P a) : (Pure.pure a : Scan α).Meets C P :=
  h

theorem lifted {r : Except Fault α} (h : Yields P r) : (liftM r : Scan α).Meets C P := by
  obtain ⟨a, rfl, ha⟩ := h
  exact ha

theorem lift {r : Except Fault α} (h : Yields P r) : (Scan.lift r).Meets C P :=
  lifted h

/-- A scan that begins with a computation. -/
theorem lifting {r : Except Fault α} {f : α → Scan β} (h : Yields P r)
    (hf : ∀ a, P a → (f a).Meets C Q) : (liftM r >>= f).Meets C Q :=
  bind (lifted h) hf

theorem check : Scan.check.Meets C fun _ ↦ True :=
  trivial

theorem time : Scan.time.Meets C fun limit ↦ ∃ t, limit = .seconds t :=
  fun t ↦ ⟨t, rfl⟩

theorem record (entry : GaugeEntry) : (Scan.record entry).Meets C fun _ ↦ True :=
  trivial

/-- A question keeps a contract that tells its answers and its faults. -/
theorem asking {q : Query} {P : q.Answer → Prop} (hq : C.asks q)
    (h : ∀ a, C.told q (.ok a) → P a) (hends : ∀ f, C.told q (.error f) → C.ends f) :
    (Scan.ask q).Meets C P := by
  refine fun t ↦ ⟨hq, fun r hr ↦ ?_⟩
  cases r with
  | error f => exact hends f hr
  | ok a => exact h a hr

/-- Every scan keeps to the contract that excludes nothing. -/
theorem free (p : Scan α) : p.Meets .free fun _ ↦ True := by
  induction p with
  | done r => cases r <;> trivial
  | checkpoint next ih => exact ih
  | allowance next ih => exact ih
  | consult q limit next ih => exact ⟨trivial, fun r _ ↦ ih r⟩
  | note entry next ih => exact ih

/-- A computation inside a scan. -/
theorem given {r : Except Fault α} (h : Gives P r) : (liftM r : Scan α).Meets .free P := by
  cases r with
  | error f => exact trivial
  | ok a => exact h a rfl

/-- The result depends on the last scan only. -/
theorem after {p : Scan α} {f : α → Scan β} (hf : ∀ a, (f a).Meets .free Q) :
    (p >>= f).Meets .free Q :=
  bind (free p) fun a _ ↦ hf a

/-! ### What a run of them does -/

/-- A run of a scan that keeps to a contract, with a source and a deadline that do: its result has
the property or is one of the faults, and it makes no accesses but those it may make. -/
theorem run {p : Scan α} (hp : p.Meets C P) {source : Source σ} {deadline : Option Deadline}
    (hC : C.HeldBy source deadline) (w : World σ) :
    C.Admits P (p.run source deadline w).1 ∧
      ∃ new, (p.run source deadline w).2.asked = w.asked ++ new ∧ ∀ x ∈ new, C.asks x.query := by
  induction p generalizing w with
  | done r => exact ⟨hp, [], by simp⟩
  | checkpoint next ih =>
    simp only [Scan.run]
    split
    · next f hover => exact ⟨hC.ended _ f hover, [], by simp⟩
    · exact ih hp w
  | allowance next ih =>
    simp only [Scan.run, ClusterDiagnosis.allowance]
    cases hover : runOver? deadline w.moment with
    | some f => exact ⟨hC.ended _ f hover, [], by simp⟩
    | none => exact ih _ (hp _) w
  | consult q limit next ih =>
    obtain ⟨hq, hnext⟩ := hp
    obtain ⟨hresult, new, hasked, hnew⟩ := ih _ (hnext _ (hC.told q limit w.moment w.cluster hq))
      { w with
        moment := (source.answer q limit w.moment w.cluster).2.1
        cluster := (source.answer q limit w.moment w.cluster).2.2
        asked := w.asked ++ [⟨q, limit, w.moment⟩] }
    rw [run_consult]
    refine ⟨hresult, _ :: new, by rw [hasked, List.append_assoc, List.singleton_append], ?_⟩
    exact List.forall_mem_cons.mpr ⟨hq, hnew⟩
  | note entry next ih => exact ih hp _

end Meets

end Scan

end ClusterDiagnosis
