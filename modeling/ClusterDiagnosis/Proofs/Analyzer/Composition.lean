import ClusterDiagnosis.Pipeline
import ClusterDiagnosis.Proofs.Detect.Plain
import ClusterDiagnosis.Proofs.Scan.Contract

/-!
# What a run of built-in analyzers is composed of

A scan is composed (`Composed`) if it is put together, one after the other, from plain scans,
changes of the gauge, and searches for an owner that are given the time left when they begin. Every
run of built-in analyzers is (`composed_examineAll`), so that a property of scans that sequences
keep need only be shown of these three parts.
-/

set_option autoImplicit false
set_option relaxedAutoImplicit false

namespace ClusterDiagnosis

open Scan

/-- The scan that searches for the topmost owner of an object within the time left. -/
def Owner.search (object : Value) : Scan (Option ObjectRef) := do
  Owner.find object (← Scan.time) Owner.maxSteps

/-- A scan put together from the parts of built-in analyzers. -/
inductive Composed : {α : Type} → Scan α → Prop where
  | plain {α : Type} {p : Scan α} (h : Plain p) : Composed p
  | record (entry : GaugeEntry) : Composed (Scan.record entry)
  | search (object : Value) : Composed (Owner.search object)
  | bind {α β : Type} {p : Scan α} {f : α → Scan β} (hp : Composed p)
      (hf : ∀ a, Composed (f a)) : Composed (p >>= f)

namespace Composed

theorem lifted {α : Type} (r : Except Fault α) : Composed (liftM r : Scan α) :=
  plain (.lifted r)

theorem pure {α : Type} (a : α) : Composed (Pure.pure a : Scan α) :=
  plain (.pure a)

end Composed

namespace Check

variable {c : Check}

/-- Counting failures on the gauge asks the cluster nothing. -/
theorem composed_recordFailures (c : Check) (object : Value) (count : Nat) :
    Composed (c.recordFailures object count) :=
  .bind (.lifted _) fun _ ↦ .bind (.lifted _) fun _ ↦ .bind (.lifted _) fun _ ↦ .record _

/-- Looking at one object is composed of askings and of pure steps, whichever check does it. -/
theorem composed_look (hc : c ∈ builtin) (found : List Finding) (object : Value) :
    Composed (c.look found object) := by
  refine .bind (.plain .check) fun _ ↦ .bind (.plain (plain_detect hc object)) fun failures ↦ ?_
  split
  · exact .pure _
  · exact .bind (.lifted _) fun _ ↦ .bind (composed_recordFailures c _ _) fun _ ↦ .pure _

theorem composed_lookAll (hc : c ∈ builtin) (found : List Finding) (objects : List Value) :
    Composed (c.lookAll found objects) := by
  induction objects generalizing found with
  | nil => exact .pure _
  | cons object objects ih => exact .bind (composed_look hc found object) fun found ↦ ih found

/-- The search for the owner of an object, where a check looks for owners at all. -/
def ownerOf (c : Check) (object : Value) : Scan (Option ObjectRef) :=
  if c.owned then Owner.search object else pure none

/-- The walk from an object to its outermost owner is composed as well. -/
theorem composed_ownerOf (c : Check) (object : Value) : Composed (c.ownerOf object) := by
  unfold ownerOf
  split
  · exact .search object
  · exact .pure _

/-- A diagnosis is made of a finding and of the owner that is found for its object. -/
theorem diagnose_eq (c : Check) (f : Finding) :
    c.diagnose f = (do
      let name ← f.key.toText
      let owner ← c.ownerOf f.object
      return { kind := c.kind, name, owner, failures := f.failures }) := by
  unfold diagnose ownerOf
  cases c.owned <;> rfl

theorem composed_diagnose (c : Check) (f : Finding) : Composed (c.diagnose f) := by
  rw [diagnose_eq]
  exact .bind (.lifted _) fun name ↦ .bind (composed_ownerOf c f.object) fun owner ↦ .pure _

theorem composed_diagnoseAll (c : Check) (fs : List Finding) : Composed (c.diagnoseAll fs) := by
  induction fs with
  | nil => exact .pure _
  | cons f fs ih => exact .bind (composed_diagnose c f) fun _ ↦ .bind ih fun _ ↦ .pure _

/-- A whole scan of one check is composed: its result depends on the cluster's answers alone. -/
theorem composed_scan (hc : c ∈ builtin) (selection : Selection) :
    Composed (c.scan selection) :=
  .bind (.record _) fun _ ↦ .bind (.plain (.asking (Query.firm_list _ _ _))) fun objects ↦
    .bind (composed_lookAll hc [] objects) fun found ↦ composed_diagnoseAll c found

/-! ### What holds of every diagnosis -/

variable {P : Diagnosis → Prop}

/-- What every single diagnosis satisfies, all diagnoses of a list of findings satisfy. -/
theorem meets_diagnoseAll_free (h : ∀ f, (c.diagnose f).Meets .free P) (fs : List Finding) :
    (c.diagnoseAll fs).Meets .free fun ds ↦ ∀ d ∈ ds, P d := by
  induction fs with
  | nil => exact .pure (List.forall_mem_nil _)
  | cons f fs ih =>
    refine .bind (h f) fun d hd ↦ .bind ih fun ds hds ↦ .pure ?_
    exact List.forall_mem_cons.mpr ⟨hd, hds⟩

/-- What is true of the diagnosis of any finding is true of all diagnoses of a scan, whatever the
cluster answers. -/
theorem meets_scan_free (h : ∀ f, (c.diagnose f).Meets .free P) (selection : Selection) :
    (c.scan selection).Meets .free fun ds ↦ ∀ d ∈ ds, P d :=
  .bind (.free _) fun _ _ ↦ .bind (.free _) fun _ _ ↦ .bind (.free _) fun found _ ↦
    meets_diagnoseAll_free h found

end Check

/-- A run of several checks tests the deadline, scans for the first and goes on with the others. -/
theorem examineAll_cons (selection : Selection) (c : Check) (checks : List Check) :
    examineAll selection ((c :: checks).map Check.analyzer) =
      Scan.check >>= fun _ ↦ c.scan selection >>= fun found ↦
        examineAll selection (checks.map Check.analyzer) >>= fun others ↦
          pure (found ++ others) :=
  rfl

/-- A run of built-in checks is composed, in whatever order the checks stand. -/
theorem composed_examineAll {checks : List Check} (hchecks : ∀ c ∈ checks, c ∈ Check.builtin)
    (selection : Selection) : Composed (examineAll selection (checks.map Check.analyzer)) := by
  induction checks with
  | nil => exact .pure _
  | cons c checks ih =>
    have hc := hchecks c List.mem_cons_self
    have hrest := ih fun d hd ↦ hchecks d (List.mem_cons_of_mem c hd)
    exact .bind (.plain .check) fun _ ↦ .bind (Check.composed_scan hc selection) fun found ↦
      .bind hrest fun others ↦ .pure _

end ClusterDiagnosis
