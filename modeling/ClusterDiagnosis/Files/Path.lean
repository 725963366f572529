import ClusterDiagnosis.Text.Search

/-!
Paths of files. A path is absolute or not, and goes through names; empty names and `.` are left
out, while `..` stays, for it depends on the files where it leads.
-/

set_option autoImplicit false
set_option relaxedAutoImplicit false

namespace ClusterDiagnosis

/-- A path. The root is empty for a path that starts from the current directory. -/
structure Path where
  root : String
  names : List String
  deriving DecidableEq, Repr

namespace Path

/-- The root of a path as it is written: exactly two slashes in front are kept. -/
def rootOf : List Char → String
  | '/' :: '/' :: '/' :: _ => "/"
  | '/' :: '/' :: _ => "//"
  | '/' :: _ => "/"
  | _ => ""

/-- The path that a text is the written form of. -/
def of (s : String) : Path where
  root := rootOf s.toList
  names := ((Text.splitAt '/' s.toList).map String.ofList).filter fun n ↦ n != "" && n != "."

/-- A path that goes on from another one, unless it is absolute. -/
def append (p q : Path) : Path :=
  if q.root.isEmpty then ⟨p.root, p.names ++ q.names⟩ else q

/-- The written form of a path. -/
def text (p : Path) : String :=
  if p.root.isEmpty && p.names.isEmpty then "." else p.root ++ "/".intercalate p.names

/-- The path without its last name. -/
def parent (p : Path) : Path :=
  ⟨p.root, p.names.dropLast⟩

/-- Whether the path holds a character that no file name can hold. -/
def hasNul (p : Path) : Bool :=
  p.names.any fun n ↦ n.toList.contains '\x00'

end Path

end ClusterDiagnosis
