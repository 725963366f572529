import ClusterDiagnosis.Diagnosis.Basic

/-!
Diagnoses as dynamic records and back. Reading is strict: a field of the wrong type, a missing
field without default and a field that does not belong there are refused.
-/

set_option autoImplicit false
set_option relaxedAutoImplicit false

namespace ClusterDiagnosis

namespace Record

def refused {α : Type} : Except Fault α :=
  .error (.mismatch .refused)

/-- The entries of a map whose keys are all among the given ones. -/
def entries (allowed : List String) : Value → Except Fault (List (String × Value))
  | .map es => if es.all fun e ↦ allowed.contains e.1 then .ok es else refused
  | _ => refused

/-- A text that has to be there. -/
def required (es : List (String × Value)) (key : String) : Except Fault String :=
  match entryAt? key es with
  | some v => v.toText
  | none => refused

/-- A text, empty when it is not there. -/
def optional (es : List (String × Value)) (key : String) : Except Fault String :=
  match entryAt? key es with
  | some v => v.toText
  | none => .ok ""

/-- The items of a list, none when it is not there. -/
def listed {α : Type} (es : List (String × Value)) (key : String)
    (item : Value → Except Fault α) : Except Fault (List α) :=
  match entryAt? key es with
  | some (.list vs) => vs.mapM item
  | some _ => refused
  | none => .ok []

end Record

open Record

def Secret.ofRecord (v : Value) : Except Fault Secret := do
  let es ← entries ["unmasked", "masked"] v
  let plain ← required es "unmasked"
  let mask ← required es "masked"
  return ⟨plain, mask⟩

def Secret.toRecord (s : Secret) : Value :=
  .map [("unmasked", .str s.plain), ("masked", .str s.mask)]

def Failure.ofRecord (v : Value) : Except Fault Failure := do
  let es ← entries ["text", "sensitive"] v
  let text ← required es "text"
  let secrets ← listed es "sensitive" Secret.ofRecord
  return ⟨text, secrets⟩

def Failure.toRecord (f : Failure) : Value :=
  .map [("text", .str f.text), ("sensitive", .list (f.secrets.map Secret.toRecord))]

def ObjectRef.ofRecord (v : Value) : Except Fault ObjectRef := do
  let es ← entries ["kind", "name", "namespace"] v
  let kind ← required es "kind"
  let name ← required es "name"
  let scope ← match entryAt? "namespace" es with
    | none => .ok none
    | some .null => .ok none
    | some v => v.toText.map some
  return ⟨kind, name, scope⟩

def ObjectRef.toRecord (r : ObjectRef) : Value :=
  .map [("kind", .str r.kind), ("name", .str r.name), ("namespace", .ofText r.scope)]

def Diagnosis.ofRecord (v : Value) : Except Fault Diagnosis := do
  let es ← entries ["kind", "name", "parent_object", "errors", "explanation", "fixed_yaml"] v
  let kind ← required es "kind"
  let name ← required es "name"
  let owner ← match entryAt? "parent_object" es with
    | none => .ok none
    | some .null => .ok none
    | some v => (ObjectRef.ofRecord v).map some
  let failures ← listed es "errors" Failure.ofRecord
  let explanation ← optional es "explanation"
  let manifest ← optional es "fixed_yaml"
  return ⟨kind, name, owner, failures, .str explanation, manifest⟩

def Diagnosis.toRecord (d : Diagnosis) : Value :=
  .map [("kind", .str d.kind), ("name", .str d.name),
    ("parent_object", (d.owner.map ObjectRef.toRecord).getD .null),
    ("errors", .list (d.failures.map Failure.toRecord)),
    ("explanation", d.explanation), ("fixed_yaml", .str d.manifest)]

end ClusterDiagnosis
