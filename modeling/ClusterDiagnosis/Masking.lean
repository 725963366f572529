import ClusterDiagnosis.Diagnosis.Basic
import ClusterDiagnosis.Text.Substitution

/-!
Masking of the secrets of failures before a text leaves the program, and unmasking of a text that
comes back.
-/

set_option autoImplicit false
set_option relaxedAutoImplicit false

namespace ClusterDiagnosis.Masking

/-- The secrets of some failures that have a value at all. -/
def secrets (fs : List Failure) : List Secret :=
  (fs.flatMap Failure.secrets).filter fun s ↦ !s.plain.isEmpty

/-- What masking replaces: values by masks. -/
def maskTable (fs : List Failure) : Text.Table :=
  (secrets fs).map fun s ↦ (s.plain.toList, s.mask.toList)

/-- What unmasking replaces: masks by values. -/
def plainTable (fs : List Failure) : Text.Table :=
  (secrets fs).map fun s ↦ (s.mask.toList, s.plain.toList)

/-- The text with the keys of a table replaced; an empty text stays empty. -/
def replaced (t : Text.Table) (s : String) : String :=
  if s.isEmpty || t.isEmpty then s else String.ofList (Text.substitute t s.toList)

/-- The text with every secret of the failures masked. -/
def maskText (s : String) (fs : List Failure) : String :=
  replaced (maskTable fs) s

/-- The text with every mask of the failures replaced by its value. -/
def unmaskText (s : String) (fs : List Failure) : String :=
  replaced (plainTable fs) s

/-- The text of a failure with its own secrets masked. -/
def maskFailure (f : Failure) : String :=
  maskText f.text [f]

end ClusterDiagnosis.Masking
