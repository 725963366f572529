import ClusterDiagnosis.Value.Shape

/-!
The gauge of failures: for every object with failures a series with their number. A scan drops the
series of its kind before it starts, so that objects that recovered disappear.
-/

set_option autoImplicit false
set_option relaxedAutoImplicit false

namespace ClusterDiagnosis

/-- The labels of a series. -/
structure Series where
  kind : String
  object : String
  scope : String
  deriving DecidableEq, Repr

/-- The exported series with their values, and those of them that a reset will drop. -/
structure Gauge where
  samples : List (Series × Double) := []
  tracked : List Series := []
  deriving Repr

/-- A change of the gauge. -/
inductive GaugeEntry where
  | reset (kind : String)
  | set (kind : String) (object scope count : Value)
  deriving Repr

namespace Gauge

def value? (g : Gauge) (s : Series) : Option Double :=
  (g.samples.find? fun e ↦ e.1 == s).map Prod.snd

/-- The samples with the value of a series replaced, or put at the end. -/
def put (s : Series) (d : Double) : List (Series × Double) → List (Series × Double)
  | [] => [(s, d)]
  | (t, e) :: r => if t = s then (t, d) :: r else (t, e) :: put s d r

/-- Drops every tracked series of a kind. -/
def reset (g : Gauge) (kind : String) : Gauge :=
  let dropped := g.tracked.filter fun s ↦ s.kind == kind
  ⟨g.samples.filter fun e ↦ !dropped.contains e.1, g.tracked.filter fun s ↦ s.kind != kind⟩

/-- Sets a series to a count. A count that is no number changes no value, but a new series comes
into being with the value zero, and stays untracked. -/
def set (g : Gauge) (kind : String) (object scope count : Value) : Gauge :=
  let s : Series := ⟨kind, object.text, scope.text⟩
  match count.toDouble with
  | .error _ => if (g.value? s).isSome then g else { g with samples := put s .zero g.samples }
  | .ok d =>
    let samples := put s d g.samples
    if object.isKey && scope.isKey && !g.tracked.contains s then ⟨samples, g.tracked ++ [s]⟩
    else { g with samples }

/-- Makes a change. -/
def apply (g : Gauge) : GaugeEntry → Gauge
  | .reset kind => g.reset kind
  | .set kind object scope count => g.set kind object scope count

end Gauge

end ClusterDiagnosis
