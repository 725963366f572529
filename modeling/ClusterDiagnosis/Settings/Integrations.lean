import ClusterDiagnosis.Files.Tree
import ClusterDiagnosis.Yaml.Datum

/-!
The settings of integrations: the section of that name in a file. Where there is no file there are
no settings.
-/

set_option autoImplicit false
set_option relaxedAutoImplicit false

namespace ClusterDiagnosis

/-- Why the settings of integrations cannot be had. The file is named as it was given. -/
inductive SettingsTrouble where
  /-- The path leads to a directory. -/
  | directory (file : String)
  /-- The rights to read the file are missing. -/
  | denied (file : String)
  | flawed (file : String) (f : Yaml.Flaw)
  /-- The file holds something that is not a map. -/
  | notAMap (file : String)
  /-- The section is not a map. -/
  | sectionNotAMap (file : String)
  | mismatch (m : Mismatch)
  deriving DecidableEq, Repr

namespace SettingsTrouble

/-- The start of the text for a file that cannot be read. -/
def unreadable (file : String) : String :=
  "failed to read integration config " ++ file

/-- The text for a file that cannot be opened. The file is named once more, as a path. -/
def unopened (file reason : String) : String :=
  unreadable file ++ ": " ++ reason ++ ": " ++ Literal.quoted (Path.of file).text

/-- The fault that a run ends in. -/
def fault : SettingsTrouble → Fault
  | directory file => .integration (unopened file "[Errno 21] Is a directory")
  | denied file => .integration (unopened file "[Errno 13] Permission denied")
  | flawed file f => .integration (unreadable file ++ ": " ++ f.message)
  | notAMap file => .integration ("integration config " ++ file ++ " must be a mapping")
  | sectionNotAMap file => .integration ("'integrations' in " ++ file ++ " must be a mapping")
  | mismatch m => .mismatch m

end SettingsTrouble

namespace IntegrationSettings

/-- The section of integrations of what a file holds; nothing that counts is as good as none. -/
def ofValue (file : String) (v : Value) :
    Except SettingsTrouble (List (String × Value)) :=
  match v.orElse (.map []) with
  | .map entries =>
    match ((entryAt? "integrations" entries).getD .null).orElse (.map []) with
    | .map settings => .ok settings
    | _ => .error (.sectionNotAMap file)
  | _ => .error (.notAMap file)

/-- The settings in the bytes of a file. -/
def ofBytes (file : String) (bytes : List UInt8) :
    Except SettingsTrouble (List (String × Value)) :=
  match Yaml.read bytes with
  | .error (.flaw f) => .error (.flawed file f)
  | .error (.ended f) => .error (.flawed file f)
  | .error (.mismatch m) => .error (.mismatch m)
  | .ok v => ofValue file v

/-- The settings in the file of a path, if a path is given and leads to something. -/
def load (file : Option String) (t : FileTree) :
    Except SettingsTrouble (List (String × Value)) :=
  match file.filter (!·.isEmpty) with
  | none => .ok []
  | some file =>
    let p := Path.of file
    if p.hasNul then .ok []
    else match t.find p with
      | .error .nameTooLong => .error (.mismatch .fileName)
      | .error .denied => .error (.mismatch .fileRights)
      | .error _ => .ok []
      | .ok _ =>
        match t.readFile p with
        | .ok bytes => ofBytes file bytes
        | .error .denied => .error (.denied file)
        | .error _ => .error (.directory file)

end IntegrationSettings

end ClusterDiagnosis
