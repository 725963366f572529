import ClusterDiagnosis.Proofs.Analyzer.Composition
import ClusterDiagnosis.Proofs.Scan.Owner

/-!
# When accesses start, and the time they are given

An access is timely (`Asked.Timely`) if the run is not over when it starts and its time limit is
exactly the time left then. Almost all accesses of a run of built-in analyzers are timely: all of
the listings and all of those that detections make. The exception are the reads of a search for the
topmost owner of an object. They share one limit, that of the moment at which the search began, and
no check stands between them, so only the first is sure to be timely. `examineAll_asked` says so for
every run, and that all accesses of the run are timely exactly if no later read of a search finds
the run over or less time left than the search began with. `OwnerOfOwner.examineAll_not_timely` is
a run where the second read starts when the run is over.
-/

set_option autoImplicit false
set_option relaxedAutoImplicit false

namespace ClusterDiagnosis

open Scan

variable {σ α β : Type} {source : Source σ} {deadline : Option Deadline}

/-- Two time limits are equal as values only if they are equal. -/
theorem Value.seconds_inj {s t : Option Double} (h : Value.seconds s = .seconds t) : s = t := by
  cases s <;> cases t <;> simp_all [Value.seconds]

/-! ### Bursts of accesses -/

/-- The accesses of one search for an owner that begins, with the time left as its limit, while the
run is not over. -/
def OwnerSearch (source : Source σ) (deadline : Option Deadline) (accesses : List Asked) : Prop :=
  ∃ (object : Value) (v : World σ), runOver? deadline v.moment = none ∧
    ((Owner.find object (.seconds (timeLeft deadline v.moment)) Owner.maxSteps).run source deadline
      v).2.asked = v.asked ++ accesses

/-- Accesses that share a time limit: a timely one, and then, if it began a search for an owner, the
further reads of that search. -/
structure Burst (source : Source σ) (deadline : Option Deadline) (first : Asked)
    (rest : List Asked) : Prop where
  timely : first.Timely deadline
  limit_eq : ∀ a ∈ rest, a.limit = first.limit
  search : rest ≠ [] → OwnerSearch source deadline (first :: rest)

/-- A later access of a burst is timely exactly if the run is not over when it starts and the time
left is what it was when the burst began. -/
theorem Burst.timely_iff {first : Asked} {rest : List Asked}
    (h : Burst source deadline first rest) {a : Asked} (ha : a ∈ rest) :
    a.Timely deadline ↔ runOver? deadline a.start = none ∧
      timeLeft deadline a.start = timeLeft deadline first.start := by
  have hlimit : a.limit = .seconds (timeLeft deadline first.start) :=
    (h.limit_eq a ha).trans h.timely.2
  constructor
  · rintro ⟨hover, ha⟩
    exact ⟨hover, Value.seconds_inj (ha.symm.trans hlimit)⟩
  · rintro ⟨hover, hleft⟩
    exact ⟨hover, by rw [hlimit, hleft]⟩

/-- A search for an owner is a burst, unless it reads nothing. -/
theorem OwnerSearch.burst {first : Asked} {rest : List Asked}
    (h : OwnerSearch source deadline (first :: rest)) : Burst source deadline first rest := by
  obtain ⟨object, v, hover, hrun⟩ := id h
  obtain ⟨scope, hhops⟩ := Owner.hops_find object (.seconds (timeLeft deadline v.moment))
    Owner.maxSteps
  obtain ⟨new, hasked, -, hhead, hnew⟩ := hhops.exists_asked source deadline v
  obtain rfl : new = first :: rest := List.append_cancel_left (hasked.symm.trans hrun)
  have hstart : first.start = v.moment := hhead first rfl
  have hfirst : first.limit = .seconds (timeLeft deadline v.moment) :=
    (hnew first List.mem_cons_self).1
  refine ⟨⟨by rw [hstart, hover], by rw [hfirst, hstart]⟩, fun a ha ↦ ?_, fun _ ↦ h⟩
  rw [hfirst]
  exact (hnew a (List.mem_cons_of_mem _ ha)).1

/-! ### Scans that make their accesses in bursts -/

/-- The accesses of bursts, one burst after the other. -/
def inBursts (bursts : List (Asked × List Asked)) : List Asked :=
  bursts.flatMap fun b ↦ b.1 :: b.2

/-- A scan that makes its accesses in bursts, whatever world it is run in. -/
def MakesBursts (source : Source σ) (deadline : Option Deadline) (p : Scan α) : Prop :=
  ∀ w : World σ, ∃ bursts : List (Asked × List Asked),
    (p.run source deadline w).2.asked = w.asked ++ inBursts bursts ∧
      ∀ b ∈ bursts, Burst source deadline b.1 b.2

namespace MakesBursts

theorem bind {p : Scan α} {f : α → Scan β} (hp : MakesBursts source deadline p)
    (hf : ∀ a, MakesBursts source deadline (f a)) : MakesBursts source deadline (p >>= f) := by
  intro w
  obtain ⟨bursts, hasked, hbursts⟩ := hp w
  rw [run_bind]
  rcases hrun : p.run source deadline w with ⟨e | a, w₁⟩
  · rw [hrun] at hasked
    exact ⟨bursts, hasked, hbursts⟩
  · rw [hrun] at hasked
    obtain ⟨bursts₁, hasked₁, hbursts₁⟩ := hf a w₁
    refine ⟨bursts ++ bursts₁, ?_, ?_⟩
    · rw [hasked₁, hasked, inBursts, inBursts, inBursts, List.flatMap_append, List.append_assoc]
    · intro b hb
      rcases List.mem_append.mp hb with hb | hb
      · exact hbursts b hb
      · exact hbursts₁ b hb

/-- The accesses of a plain scan are bursts of one access each. -/
theorem plain {p : Scan α} (hp : Plain p) : MakesBursts source deadline p := by
  intro w
  obtain ⟨new, hasked, hnew⟩ := hp.exists_asked source deadline w
  refine ⟨new.map fun a ↦ (a, []), ?_, ?_⟩
  · simpa [inBursts, List.flatMap_map] using hasked
  · intro b hb
    obtain ⟨a, ha, rfl⟩ := List.mem_map.mp hb
    exact ⟨hnew a ha, by simp, by simp⟩

theorem record (entry : GaugeEntry) : MakesBursts source deadline (Scan.record entry) :=
  fun _ ↦ ⟨[], by simp [inBursts]⟩

/-- A search for an owner that is given the time left when it begins is a single burst. -/
theorem search (object : Value) : MakesBursts source deadline (Owner.search object) := by
  intro w
  rw [Owner.search, run_bind, run_time]
  cases hover : runOver? deadline w.moment with
  | some f => exact ⟨[], by simp [inBursts]⟩
  | none =>
    obtain ⟨scope, hhops⟩ := Owner.hops_find object (.seconds (timeLeft deadline w.moment))
      Owner.maxSteps
    obtain ⟨new, hasked, -⟩ := hhops.exists_asked source deadline w
    cases new with
    | nil => exact ⟨[], by simpa [inBursts] using hasked⟩
    | cons first rest =>
      have hsearch : OwnerSearch source deadline (first :: rest) := ⟨object, w, hover, hasked⟩
      refine ⟨[(first, rest)], by simpa [inBursts] using hasked, ?_⟩
      intro b hb
      rw [List.mem_singleton.mp hb]
      exact hsearch.burst

/-- A scan composed of askings, of searches for owners and of pure steps makes bursts. -/
theorem composed {p : Scan α} (hp : Composed p) : MakesBursts source deadline p := by
  induction hp with
  | plain h => exact plain h
  | record entry => exact record entry
  | search object => exact search object
  | bind _ _ ihp ihf => exact bind ihp ihf

end MakesBursts

/-- The accesses of a run of built-in analyzers, whatever the cluster answers and however the clock
moves and the run is cancelled meanwhile. Each is the first of a burst, and then it starts while the
run is not over and is given exactly the time left; or it is a later read of a search for an owner,
and is given the limit of the first. All of them are timely exactly if each later read of a search
starts while the run is not over, with as much time left as when the search began. -/
theorem examineAll_asked {checks : List Check} (hchecks : ∀ c ∈ checks, c ∈ Check.builtin)
    (selection : Selection) (source : Source σ) (deadline : Option Deadline) (w : World σ) :
    ∃ bursts : List (Asked × List Asked),
      ((examineAll selection (checks.map Check.analyzer)).run source deadline w).2.asked =
          w.asked ++ inBursts bursts ∧
        (∀ b ∈ bursts, Burst source deadline b.1 b.2) ∧
        ((∀ a ∈ inBursts bursts, a.Timely deadline) ↔
          ∀ b ∈ bursts, ∀ a ∈ b.2, runOver? deadline a.start = none ∧
            timeLeft deadline a.start = timeLeft deadline b.1.start) := by
  have hmakes : MakesBursts source deadline (examineAll selection (checks.map Check.analyzer)) :=
    .composed (composed_examineAll hchecks selection)
  obtain ⟨bursts, hasked, hbursts⟩ := hmakes w
  refine ⟨bursts, hasked, hbursts, ?_⟩
  constructor
  · intro htimely b hb a ha
    refine ((hbursts b hb).timely_iff ha).mp (htimely a ?_)
    exact List.mem_flatMap.mpr ⟨b, hb, List.mem_cons_of_mem _ ha⟩
  · intro hlater a ha
    obtain ⟨b, hb, ha⟩ := List.mem_flatMap.mp ha
    rcases List.mem_cons.mp ha with rfl | ha
    · exact (hbursts b hb).timely
    · exact ((hbursts b hb).timely_iff ha).mpr (hlater b hb a ha)

/-! ### A search that goes on with a limit that is no longer true -/

namespace OwnerOfOwner

/-- A pod that cannot be scheduled, of a replica set. -/
def pod : Value :=
  .map [
    ("metadata", .map [("name", .str "p"), ("namespace", .str "n"),
      ("owner_references", .list [.map [("kind", .str "ReplicaSet"), ("name", .str "r")]])]),
    ("status", .map [("phase", .str "Pending"), ("conditions", .list [.map [
      ("type", .str "PodScheduled"), ("reason", .str "Unschedulable"),
      ("message", .str "no node")]])])]

/-- A replica set of a deployment. -/
def replicaSet : Value :=
  .map [("metadata", .map [("name", .str "r"), ("namespace", .str "n"),
    ("owner_references", .list [.map [("kind", .str "Deployment"), ("name", .str "d")]])])]

/-- A cluster of these two objects that takes two seconds to read an object. -/
def cluster : Source Unit where
  answer
    | .list _ _ _, _, m, s => (.ok [pod], m, s)
    | .get kind _ _, _, m, s =>
      (.ok (if kind = "ReplicaSet" then some replicaSet else none),
        { m with now := m.now.add (.ofNat 2) }, s)
    | .events _ _ _, _, m, s => (.ok [], m, s)
    | .log _ _ _ _, _, m, s => (.ok none, m, s)

/-- A deadline five seconds after the start. -/
def inFiveSeconds : Option Deadline :=
  some ⟨.ofNat 5, "5"⟩

def start : World Unit where
  moment := ⟨.zero, false⟩
  cluster := ()

/-- The deployment is read with the five seconds that were left before the replica set was read,
although three are left. -/
theorem examineAll_not_timely :
    ¬ ∀ a ∈ ((examineAll {} ([Check.pod].map Check.analyzer)).run cluster inFiveSeconds
        start).2.asked,
      a.Timely inFiveSeconds := by
  decide +kernel

theorem examineAll_asked_pod :
    (∀ c ∈ [Check.pod], c ∈ Check.builtin) ∧ ∃ bursts : List (Asked × List Asked),
      ((examineAll {} ([Check.pod].map Check.analyzer)).run cluster inFiveSeconds start).2.asked =
          start.asked ++ inBursts bursts ∧
        (∀ b ∈ bursts, Burst cluster inFiveSeconds b.1 b.2) ∧
        ((∀ a ∈ inBursts bursts, a.Timely inFiveSeconds) ↔
          ∀ b ∈ bursts, ∀ a ∈ b.2, runOver? inFiveSeconds a.start = none ∧
            timeLeft inFiveSeconds a.start = timeLeft inFiveSeconds b.1.start) := by
  have hpod : ∀ c ∈ [Check.pod], c ∈ Check.builtin := by simp [Check.builtin, Check.core]
  exact ⟨hpod, examineAll_asked hpod {} cluster inFiveSeconds start⟩

end OwnerOfOwner

end ClusterDiagnosis
