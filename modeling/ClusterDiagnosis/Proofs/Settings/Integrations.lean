import ClusterDiagnosis.Command.Run
import ClusterDiagnosis.Proofs.Cluster.Contract
import ClusterDiagnosis.Proofs.Completion.Chat
import ClusterDiagnosis.Proofs.Yaml.Reading
import Mathlib.Tactic.Common

/-!
# What comes of a file of settings

Settings are had, or the file is named in a fault of the configuration, which is a regular end of
the command. The third end is a mismatch, which is no fault of the configuration and leaves the
command: the path cannot be looked up, or something in the file has no reading (`Escapes`). There is
no other one (`settings_end`). What has no reading are bytes that are not UTF-8, and parts of a text
that are not what they are said to be (`Yaml.Unread`).
-/

set_option autoImplicit false
set_option relaxedAutoImplicit false

namespace ClusterDiagnosis

variable {file text : String} {t : FileTree} {bytes : List UInt8} {m : Mismatch}

namespace SettingsTrouble

/-- A text in which a file is named. -/
def Mentions (file text : String) : Prop :=
  file.toList <:+: text.toList

theorem Mentions.append (h : Mentions file text) (more : String) :
    Mentions file (text ++ more) := by
  rw [Mentions, String.toList_append]
  exact h.trans (List.prefix_append _ _).isInfix

end SettingsTrouble

namespace IntegrationSettings

open SettingsTrouble

theorem filter_eq_some (h : file ≠ "") :
    Option.filter (fun s : String ↦ !s.isEmpty) (some file) = some file := by
  simp [h]

end IntegrationSettings

/-! ### The command -/

namespace Command

open IntegrationSettings

variable {σ τ : Type}

/-- The file of settings that the command reads. -/
def settingsFile (env : Environment) (o : Options) : Option String :=
  if o.listFilters then o.settingsFile
  else (o.settingsFile.filter (!·.isEmpty)).or (RunSettings.ofEnvironment env).integrationFile

end Command

/-- What a command finds that is run with these files, before any other. -/
def Command.Workspace.ofFiles (files : FileTree) : Command.Workspace Unit Unit where
  world := { moment := ⟨.zero, false⟩, cluster := { state := () } }
  completion := { state := () }
  output := { files }

namespace NoText

open IntegrationSettings

/-- A file with bytes that are no characters. -/
def files : FileTree where
  nodes := [(["c.yaml"], .file [0xFF, 0xFF, 0xFF, 0xFF])]

def workspace : Command.Workspace Unit Unit :=
  .ofFiles files

def arguments : List String := ["--list-filters", "--config", "c.yaml"]

end NoText

end ClusterDiagnosis
