import ClusterDiagnosis.Diagnosis.Basic
import ClusterDiagnosis.Files.Tree
import ClusterDiagnosis.Manifest.Cleanup

/-!
Corrected manifests as files. A file that cannot be written is passed over, so that one failure
does not keep others from being written.
-/

set_option autoImplicit false
set_option relaxedAutoImplicit false

namespace ClusterDiagnosis.Report

/-- The name of the file; the key of an object may bring in a directory. -/
def fileName (d : Diagnosis) : String :=
  "fixed-" ++ d.kind ++ "-" ++ d.name ++ ".yaml"

/-- The path of the file under a directory. -/
def filePath (dir : String) (d : Diagnosis) : Path :=
  (Path.of dir).append (.of (fileName d))

/-- What is written into the file. -/
def fileText (d : Diagnosis) : String :=
  Manifest.withoutRemarks d.manifest ++ "\n"

/-- Writes a text to a path, making directories as needed. -/
def writeText (p : Path) (text : String) (t : FileTree) : Except FileError Unit × FileTree :=
  match t.makeDirectories p.root p.parent.names with
  | (.error e, t) => (.error e, t)
  | (.ok (), t) => t.writeFile p text.toUTF8.toList

/-- Writes the manifest of a diagnosis, if it has one, and gives the path that was written. -/
def writeManifest (dir : String) (d : Diagnosis) (t : FileTree) :
    Except Fault (Option Path) × FileTree :=
  if d.manifest.isEmpty then (.ok none, t)
  else
    let p := filePath dir d
    if p.parent.hasNul then (.error (.mismatch .unreadable), t)
    else if p.hasNul then
      match t.makeDirectories p.root p.parent.names with
      | (.error _, t) => (.ok none, t)
      | (.ok (), t) => (.error (.mismatch .unreadable), t)
    else
      match writeText p (fileText d) t with
      | (.ok (), t) => (.ok (some p), t)
      | (.error _, t) => (.ok none, t)

end ClusterDiagnosis.Report
