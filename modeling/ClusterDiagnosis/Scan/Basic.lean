import ClusterDiagnosis.Gauge
import ClusterDiagnosis.Run

/-!
Scans. A scan is a tree: at each node it does one thing to the world around it, and goes on as the
outcome says. What a scan does is thus separate from the cluster, the clock and the gauge it is run
with, and `Scan.run` is the only place where they meet.
-/

set_option autoImplicit false
set_option relaxedAutoImplicit false

namespace ClusterDiagnosis

/-- A scan with a result of the given type. -/
inductive Scan (α : Type) : Type where
  /-- The end, with a result or with a fault. -/
  | done (outcome : Except Fault α)
  /-- Goes on only if the run is not over. -/
  | checkpoint (next : Scan α)
  /-- Goes on, if the run is not over, with the time left. -/
  | allowance (next : Option Double → Scan α)
  /-- Asks the cluster, within a time limit. -/
  | consult (q : Query) (limit : Value) (next : Except Fault q.Answer → Scan α)
  /-- Changes the gauge. -/
  | note (entry : GaugeEntry) (next : Scan α)

/-- An access as it was made: what was asked, the time limit given, and when it started. -/
structure Asked where
  query : Query
  limit : Value
  start : Moment
  deriving Repr

/-- What a scan is run with: the time, the state of the cluster, the accesses made so far, and the
gauge if there is one. -/
structure World (σ : Type) where
  moment : Moment
  cluster : σ
  asked : List Asked := []
  gauge : Option Gauge := none

namespace Scan

/-- A scan followed by another that depends on its result. -/
def bind {α β : Type} (p : Scan α) (f : α → Scan β) : Scan β :=
  match p with
  | done (.error e) => done (.error e)
  | done (.ok a) => f a
  | checkpoint next => checkpoint (next.bind f)
  | allowance next => allowance fun t ↦ (next t).bind f
  | consult q limit next => consult q limit fun r ↦ (next r).bind f
  | note entry next => note entry (next.bind f)

instance : Monad Scan where
  pure a := .done (.ok a)
  bind := bind

/-- The end with a fault. -/
def fail {α : Type} (f : Fault) : Scan α :=
  done (.error f)

/-- A result computed without the world. -/
def lift {α : Type} (r : Except Fault α) : Scan α :=
  done r

instance : MonadLift (Except Fault) Scan where
  monadLift := lift

/-- Ends the scan if the run is over. -/
def check : Scan Unit :=
  checkpoint (done (.ok ()))

/-- The time left, if the run has a deadline; ends the scan if the run is over. -/
def time : Scan Value :=
  allowance fun t ↦ done (.ok (.seconds t))

/-- Asks within a time limit; a failing access ends the scan. -/
def askWithin (q : Query) (limit : Value) : Scan q.Answer :=
  consult q limit done

/-- Asks with the time left as limit; a failing access ends the scan. -/
def ask (q : Query) : Scan q.Answer := do
  askWithin q (← time)

/-- Changes the gauge. -/
def record (entry : GaugeEntry) : Scan Unit :=
  note entry (done (.ok ()))

/-- Runs a scan against a cluster, up to a deadline. -/
def run {σ α : Type} (source : Source σ) (deadline : Option Deadline) (p : Scan α)
    (w : World σ) : Except Fault α × World σ :=
  match p with
  | done r => (r, w)
  | checkpoint next =>
    match runOver? deadline w.moment with
    | some f => (.error f, w)
    | none => next.run source deadline w
  | allowance next =>
    match ClusterDiagnosis.allowance deadline w.moment with
    | .error f => (.error f, w)
    | .ok t => (next t).run source deadline w
  | consult q limit next =>
    let (r, moment, cluster) := source.answer q limit w.moment w.cluster
    (next r).run source deadline
      { w with moment, cluster, asked := w.asked ++ [⟨q, limit, w.moment⟩] }
  | note entry next => next.run source deadline { w with gauge := w.gauge.map (·.apply entry) }

end Scan

end ClusterDiagnosis
