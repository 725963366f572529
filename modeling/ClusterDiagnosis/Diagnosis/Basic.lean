import ClusterDiagnosis.Digest.Sha256
import ClusterDiagnosis.Value.Shape

/-!
What is found about an object of the cluster: its failures, the values in them that are not for
other eyes, who owns it, and what a completion service added.
-/

set_option autoImplicit false
set_option relaxedAutoImplicit false

namespace ClusterDiagnosis

/-- A value inside a failure text that must not leave the program as it is, and its mask. -/
structure Secret where
  plain : String
  mask : String
  deriving DecidableEq, Repr, Inhabited

/-- One thing that is wrong with an object. -/
structure Failure where
  text : String
  secrets : List Secret := []
  deriving DecidableEq, Repr, Inhabited

/-- An object named by another one as its owner. -/
structure ObjectRef where
  kind : String
  name : String
  scope : Option String := none
  deriving DecidableEq, Repr, Inhabited

/-- All that is found about one object. The name is the key of the object in its cluster. An
explanation is what a completion service gave, in general a text. -/
structure Diagnosis where
  kind : String
  name : String
  owner : Option ObjectRef := none
  failures : List Failure := []
  explanation : Value := .str ""
  manifest : String := ""
  deriving DecidableEq, Repr, Inhabited

/-- An owner as it appears in a report. -/
def ObjectRef.text (r : ObjectRef) : String :=
  r.kind ++ "/" ++ r.name

/-- The failure texts, one below the other. -/
def Diagnosis.errorText (d : Diagnosis) : String :=
  "\n".intercalate (d.failures.map Failure.text)

/-- The mask of a value: the start of its digest, as long as the value but at least eight and at
most thirty-two characters. The same value has the same mask everywhere. -/
def maskOf (value : String) : String :=
  String.ofList ((Sha256.hexDigest value.toUTF8.toList).take (max 8 (min value.length 32)))

/-- A value together with its mask. -/
def Secret.of (value : String) : Secret :=
  ⟨value, maskOf value⟩

/-- The values that count, as secrets, in order. Only texts can be masked. -/
def secretsOf (values : List Value) : Except Fault (List Secret) :=
  (values.filter Value.counts).mapM fun
    | .str s => .ok (.of s)
    | _ => .error (.mismatch .noField)

/-- A failure with a dynamic text, which has to be a text. -/
def Failure.ofValue (v : Value) : Except Fault Failure :=
  v.toText.map fun s ↦ ⟨s, []⟩

end ClusterDiagnosis
