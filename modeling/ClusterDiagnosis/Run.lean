import ClusterDiagnosis.Cluster.Query

/-!
The limits of a run: it may be cancelled, and it may have a deadline.
-/

set_option autoImplicit false
set_option relaxedAutoImplicit false

namespace ClusterDiagnosis

/-- The end of the time given to a run, and the time limit as it was stated. -/
structure Deadline where
  finish : Double
  stated : String
  deriving DecidableEq, Repr

namespace Deadline

/-- The deadline of a run that starts now; a run without a time limit has none. -/
def start (now : Double) (limit : Value) : Except Fault (Option Deadline) :=
  match limit with
  | .null => .ok none
  | v => v.toDouble.map fun d ↦ some ⟨now.add d, v.text⟩

/-- The time left, never below zero. -/
def left (d : Deadline) (now : Double) : Double :=
  Double.maxOf .zero (d.finish.sub now)

end Deadline

/-- The time left to a run, if it has a deadline. -/
def timeLeft (deadline : Option Deadline) (m : Moment) : Option Double :=
  deadline.map fun d ↦ d.left m.now

/-- Why a run is over, if it is. -/
def runOver? (deadline : Option Deadline) (m : Moment) : Option Fault :=
  if m.cancelled then some (.cancelled "analysis run cancelled")
  else match deadline with
    | none => none
    | some d =>
      if (d.left m.now).le .zero then some (.timedOut ("analysis run exceeded " ++ d.stated ++ "s"))
      else none

/-- The time limit for a single access that starts now, unless the run is over. -/
def allowance (deadline : Option Deadline) (m : Moment) : Except Fault (Option Double) :=
  match runOver? deadline m with
  | some f => .error f
  | none => .ok (timeLeft deadline m)

/-- A time limit in seconds as it is handed on. -/
def Value.seconds : Option Double → Value
  | none => null
  | some d => float d

end ClusterDiagnosis
