import ClusterDiagnosis.Diagnosis.Basic
import ClusterDiagnosis.Text.Search

/-!
The prompt that asks for a corrected manifest.
-/

set_option autoImplicit false
set_option relaxedAutoImplicit false

namespace ClusterDiagnosis.Manifest

/-- A part of a manifest that a failure may point at: its name, the piece of text that points at
it, and what to pay attention to. -/
structure Component where
  name : String
  needle : String
  guidance : String

/-- The components in the order in which they are mentioned. -/
def components : List Component := [
  ⟨"image", "image", "Image references and pull policies"⟩,
  ⟨"configmap", "ConfigMap", "ConfigMap references and mounting"⟩,
  ⟨"healthcheck", "probe", "Health check probe configuration"⟩,
  ⟨"resources", "OOMKilled", "Resource limits and requests"⟩]

/-- Whether a failure points at a component. -/
def Component.isFlagged (c : Component) (fs : List Failure) : Bool :=
  fs.any fun f ↦ Text.occurs c.needle f.text

/-- The components that some failure points at. -/
def flagged (fs : List Failure) : List Component :=
  components.filter (·.isFlagged fs)

/-- The part of a name behind its last slash. -/
def shortName (name : String) : String :=
  String.ofList (Text.afterLast '/' name.toList)

/-- What to pay attention to, if there is anything. -/
def guidance (fs : List Failure) : String :=
  match flagged fs with
  | [] => ""
  | cs => "\n\nPay special attention to:" ++ String.join (cs.map fun c ↦ "\n- " ++ c.guidance)

/-- The prompt for the pod of the given name with the given issues. Which components it mentions is
told by the failures themselves. -/
def prompt (name : String) (issues : List String) (fs : List Failure) : String :=
  "Given a Kubernetes Pod with issues:\n" ++
  "Pod Name: " ++ name ++ "\n" ++
  "Issues Found:\n" ++
  "\n".intercalate (issues.map ("- " ++ ·)) ++ "\n" ++
  "\n" ++
  "Please provide a corrected Pod YAML that:\n" ++
  "1. ONLY contains the YAML manifest\n" ++
  "2. Starts with 'apiVersion: v1'\n" ++
  "3. Uses kind: Pod\n" ++
  "4. Keeps the pod name: " ++ shortName name ++ "\n" ++
  "5. Fixes all identified issues" ++
  guidance fs

end ClusterDiagnosis.Manifest
