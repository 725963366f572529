import ClusterDiagnosis.Text.Blank
import ClusterDiagnosis.Text.Search

/-!
Cleaning up the manifests that completion services write.
-/

set_option autoImplicit false
set_option relaxedAutoImplicit false

namespace ClusterDiagnosis.Manifest

/-- How a manifest starts. -/
def opening : String := "apiVersion:"

/-- The text from the start of the manifest on, trimmed; all of it if no manifest starts in it. -/
def fromOpening (text : String) : String :=
  let cs := Text.trimChars text.toList
  String.ofList ((Text.from? opening.toList cs).getD cs)

/-- Remarks that do not belong into a manifest. -/
def remarks : List String := ["    # Fixed image name"]

/-- The text, trimmed and then without remarks. -/
def withoutRemarks (text : String) : String :=
  let cs := Text.trimChars text.toList
  String.ofList (remarks.foldl (fun cs r ↦ Text.remove r.toList cs) cs)

end ClusterDiagnosis.Manifest
