import ClusterDiagnosis.Diagnosis.Basic

/-!
Diagnoses for reading.
-/

set_option autoImplicit false
set_option relaxedAutoImplicit false

namespace ClusterDiagnosis.Report

/-- What is printed when there is nothing to report. -/
def nothingFound : String := "No problems detected"

/-- The line that names an object, with its owner in brackets. -/
def headline (index : Int) (d : Diagnosis) : String :=
  toString index ++ ": " ++ d.kind ++ " " ++ d.name ++
    match d.owner with
    | none => ""
    | some o => "(" ++ o.text ++ ")"

/-- The lines of an explanation, behind an empty one. One that does not count has none, and any
other that is no text is refused. -/
def explanationLines : Value → Except Fault (List String)
  | .str s => .ok (if s.isEmpty then [] else ["", s])
  | v => if v.counts then .error (.mismatch .wrongType) else .ok []

/-- A diagnosis: its headline, its failures and its explanation. -/
def render (index : Int) (d : Diagnosis) : Except Fault String :=
  (explanationLines d.explanation).map fun lines ↦
    "\n".intercalate (headline index d :: d.failures.map ("- Error: " ++ ·.text) ++ lines)

end ClusterDiagnosis.Report
