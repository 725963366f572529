import ClusterDiagnosis.Diagnosis.Record
import ClusterDiagnosis.Json.Writer

/-!
Diagnoses for other programs.
-/

set_option autoImplicit false
set_option relaxedAutoImplicit false

namespace ClusterDiagnosis.Report

/-- The number of failures of all diagnoses. -/
def problemCount (ds : List Diagnosis) : Nat :=
  (ds.flatMap Diagnosis.failures).length

/-- A report as a record: whether there is anything to report, how many failures, and the
diagnoses. -/
def record (ds : List Diagnosis) : Value :=
  .map [
    ("status", .str (if ds.isEmpty then "OK" else "ProblemDetected")),
    ("problems", .int (problemCount ds)),
    ("results", .list (ds.map Diagnosis.toRecord))]

/-- A report as indented JSON. -/
def json (ds : List Diagnosis) : String :=
  Json.page (record ds)

end ClusterDiagnosis.Report
