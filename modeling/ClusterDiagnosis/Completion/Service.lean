import ClusterDiagnosis.Run

/-!
Completion services: something that answers a prompt, with a text as a rule.
-/

set_option autoImplicit false
set_option relaxedAutoImplicit false

namespace ClusterDiagnosis

/-- A completion service. It takes time, changes its state, and may fail. Corrections are asked for
within the deadline of the run. -/
structure CompletionService (τ : Type) where
  explain : (prompt : String) → Moment → τ → Except Fault Value × Moment × τ
  correct : Option Deadline → (prompt : String) → Moment → τ → Except Fault String × Moment × τ

end ClusterDiagnosis
