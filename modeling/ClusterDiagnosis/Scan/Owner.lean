import ClusterDiagnosis.Cluster.Kind
import ClusterDiagnosis.Diagnosis.Basic
import ClusterDiagnosis.Scan.Basic

/-!
The topmost owner of an object. An object names its owners; the one that controls it, or else the
first, is followed from object to object.
-/

set_option autoImplicit false
set_option relaxedAutoImplicit false

namespace ClusterDiagnosis

namespace Owner

/-- The first of the references whose controller flag counts. -/
def controlling : List Value → Except Fault (Option Value)
  | [] => .ok none
  | ref :: refs => do
    if (← ref.field "controller").counts then return some ref
    controlling refs

/-- The reference that an object's metadata names as its controller, or else its first. -/
def reference (metadata : Value) : Except Fault (Option Value) := do
  let refs ← metadata.each "owner_references"
  return (← controlling refs).or refs.head?

/-- A reference as an object of the given namespace. -/
def ofReference (scope ref : Value) : Except Fault ObjectRef := do
  let kind ← ref.label "kind"
  let name ← ref.label "name"
  let kind ← kind.toText
  let name ← name.toText
  if scope.counts then return ⟨kind, name, some (← scope.toText)⟩
  return ⟨kind, name, none⟩

/-- The reference that an owner names in turn. -/
def above (owner : Value) : Except Fault (Option Value) := do
  reference (← owner.section? "metadata")

/-- Follows owners upward from `here`, with at most `steps` accesses. The walk stops at a kind that
cannot be read, at an owner that cannot be had, and at one without owners. -/
def walk (scope limit : Value) : Nat → ObjectRef → Scan ObjectRef
  | 0, here => pure here
  | steps + 1, here =>
    if Resource.isKind here.kind then
      .consult (.get here.kind scope (.str here.name)) limit fun
        | .error (.access _) => pure here
        | .error f => .fail f
        | .ok none => pure here
        | .ok (some owner) =>
          if owner.counts then do
            match ← above owner with
            | none => pure here
            | some ref => walk scope limit steps (← ofReference scope ref)
          else pure here
    else pure here

/-- The number of owners read at most. -/
def maxSteps : Nat := 5

/-- The topmost owner of an object, if it has an owner at all. -/
def find (object limit : Value) (steps : Nat) : Scan (Option ObjectRef) := do
  let metadata ← object.section? "metadata"
  let scope ← metadata.label "namespace"
  match ← reference metadata with
  | none => return none
  | some ref =>
    let first ← ofReference scope ref
    return some (← walk scope limit steps first)

end Owner

end ClusterDiagnosis
