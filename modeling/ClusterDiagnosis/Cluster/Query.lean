import ClusterDiagnosis.Value.Shape

/-!
What a scan may ask of a cluster, what it is told, and the sources that tell it.
-/

set_option autoImplicit false
set_option relaxedAutoImplicit false

namespace ClusterDiagnosis

/-- One access to the cluster. -/
inductive Query where
  /-- The objects of a kind, of a namespace if one is given, with labels as the selector says. -/
  | list (kind : String) (scope selector : Value)
  /-- One object. -/
  | get (kind : String) (scope name : Value)
  /-- The newest events about an object. -/
  | events (scope name : Value) (most : Nat)
  /-- The last lines of the log of a container. -/
  | log (pod scope container : Value) (lastLines : Nat)
  deriving Repr

/-- What an access gives. -/
def Query.Answer : Query → Type
  | list _ _ _ => List Value
  | get _ _ _ => Option Value
  | events _ _ _ => List Value
  | log _ _ _ _ => Option String

/-- The time and the state of the run at some point of it. -/
structure Moment where
  now : Double
  cancelled : Bool
  deriving DecidableEq, Repr

/-- Something that answers accesses. An access gets the time limit it has to keep, may change the
state of the source, takes time, and may see the run cancelled. -/
structure Source (σ : Type) where
  answer : (q : Query) → (limit : Value) → Moment → σ → Except Fault q.Answer × Moment × σ

end ClusterDiagnosis
