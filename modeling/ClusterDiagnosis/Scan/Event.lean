import ClusterDiagnosis.Scan.Basic

/-!
The latest event about an object, as evidence for what its status leaves open.
-/

set_option autoImplicit false
set_option relaxedAutoImplicit false

namespace ClusterDiagnosis.Scan

/-- The first of the events found; an absent one is none. -/
def firstOf : Except Fault (List Value) → Scan (Option Value)
  | .ok (.null :: _) => pure none
  | .ok events => pure events.head?
  | .error f => if f.endsRun then fail f else pure none

/-- The latest event about an object, if there is one. Events that cannot be had are as good as
none, but the end of the run is not passed over. -/
def latestEvent (scope name : Value) : Scan (Option Value) := do
  let limit ← time
  consult (.events scope name 1) limit firstOf

end ClusterDiagnosis.Scan
