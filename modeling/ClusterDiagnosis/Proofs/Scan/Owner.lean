import ClusterDiagnosis.Proofs.Scan.Running
import ClusterDiagnosis.Scan.Owner

/-!
# What a search for owners does

The search for the topmost owner of an object reads one object after the other, a bounded number of
them, all of one namespace and all within one and the same time limit: it hops (`Hops`, and
`hops_find` for the search). So the limit is that of the moment at which the search began, also for
reads that start later; and the gauge is left alone.
-/

set_option autoImplicit false
set_option relaxedAutoImplicit false

namespace ClusterDiagnosis.Owner

open Scan

variable {σ α β : Type} {source : Source σ} {deadline : Option Deadline}

/-- A scan that reads at most the given number of objects of a namespace, one after the other and
all within the same time limit, and does nothing else. -/
inductive Hops {α : Type} (scope limit : Value) : Nat → Scan α → Prop where
  | done (steps : Nat) (r : Except Fault α) : Hops scope limit steps (done r)
  | read {steps : Nat} (kind : String) (name : Value)
      {next : Except Fault (Query.get kind scope name).Answer → Scan α}
      (h : ∀ r, Hops scope limit steps (next r)) :
      Hops scope limit (steps + 1) (consult (.get kind scope name) limit next)

namespace Hops

variable {scope limit : Value} {steps : Nat}

/-- A computation may stand before a scan that hops. -/
theorem lifted {r : Except Fault α} {f : α → Scan β} (hf : ∀ a, Hops scope limit steps (f a)) :
    Hops scope limit steps (liftM r >>= f) := by
  cases r with
  | error e => exact done _ _
  | ok a => exact hf a

/-- A computation may stand behind a scan that hops. -/
theorem andThen {p : Scan α} {f : α → β} (hp : Hops scope limit steps p) :
    Hops scope limit steps (p >>= fun a ↦ pure (f a)) := by
  change Hops scope limit steps (p.bind fun a ↦ pure (f a))
  induction hp with
  | done steps r => cases r <;> exact done _ _
  | read kind name _ ih => exact read kind name ih

/-- The accesses of a scan that hops: at most `steps` reads within the one limit, the first of them
at the moment the scan starts. -/
theorem exists_asked {p : Scan α} (hp : Hops scope limit steps p) (source : Source σ)
    (deadline : Option Deadline) (w : World σ) :
    ∃ new : List Asked, (p.run source deadline w).2.asked = w.asked ++ new ∧
      new.length ≤ steps ∧ (∀ a ∈ new.head?, a.start = w.moment) ∧
        ∀ a ∈ new, a.limit = limit ∧ ∃ kind name, a.query = .get kind scope name := by
  induction hp generalizing w with
  | done steps r => exact ⟨[], by simp⟩
  | read kind name _ ih =>
    rw [run_consult]
    obtain ⟨new, hasked, hlength, -, hnew⟩ := ih _ _
    refine ⟨⟨.get kind scope name, limit, w.moment⟩ :: new, ?_, ?_, by simp, ?_⟩
    · rw [hasked, List.append_assoc, List.singleton_append]
    · exact Nat.succ_le_succ hlength
    · intro a ha
      rcases List.mem_cons.mp ha with rfl | ha
      · exact ⟨rfl, kind, name, rfl⟩
      · exact hnew a ha

/-- A walk up the owners leaves the gauge alone. -/
theorem run_gauge {p : Scan α} (hp : Hops scope limit steps p) (w : World σ) :
    (p.run source deadline w).2.gauge = w.gauge := by
  induction hp generalizing w with
  | done steps r => rfl
  | read kind name _ ih => exact ih _ _

end Hops

/-- The walk up the owners makes at most as many hops as it has steps. -/
theorem hops_walk (scope limit : Value) (steps : Nat) (here : ObjectRef) :
    Hops scope limit steps (walk scope limit steps here) := by
  induction steps generalizing here with
  | zero => exact .done _ _
  | succ steps ih =>
    unfold walk
    split
    · refine .read here.kind (.str here.name) fun r ↦ ?_
      split
      · exact .done _ _
      · exact .done _ _
      · exact .done _ _
      · split
        · refine .lifted fun ref ↦ ?_
          split
          · exact .done _ _
          · exact .lifted fun next ↦ ih next
        · exact .done _ _
    · exact .done _ _

/-- The search for the topmost owner of an object hops through a single namespace. -/
theorem hops_find (object limit : Value) (steps : Nat) :
    ∃ scope, Hops scope limit steps (find object limit steps) := by
  unfold find
  rcases object.section? "metadata" with e | metadata
  · exact ⟨.null, .done steps (.error e)⟩
  rcases hscope : metadata.label "namespace" with e | scope
  · refine ⟨.null, ?_⟩
    change Hops .null limit steps (liftM (metadata.label "namespace") >>= _)
    rw [hscope]
    exact .done steps (.error e)
  · refine ⟨scope, ?_⟩
    change Hops scope limit steps (liftM (metadata.label "namespace") >>= _)
    rw [hscope]
    refine .lifted (r := reference metadata) fun ref ↦ ?_
    split
    · exact .done _ _
    · exact .lifted fun first ↦ .andThen (hops_walk scope limit steps first)

end ClusterDiagnosis.Owner
