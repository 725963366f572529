import ClusterDiagnosis.Files.Path

/-!
A tree of files and directories, and what reading, writing and making directories does to it.
-/

set_option autoImplicit false
set_option relaxedAutoImplicit false

namespace ClusterDiagnosis

/-- What stands at a place of the tree. -/
inductive FileNode where
  | file (bytes : List UInt8)
  | directory
  deriving DecidableEq, Repr

/-- The places of a tree with what stands there, each given by the names that lead to it from the
root, and the current directory. The root itself is a directory. There are no symbolic links, but a
file may have several names. -/
structure FileTree where
  nodes : List (List String × FileNode) := []
  current : List String := []
  /-- Whether the rights to make or to write what is at a place are missing. -/
  forbidden : List String → Bool := fun _ ↦ false
  /-- Whether the rights to read what is at a place, or to go on from there, are missing. -/
  closed : List String → Bool := fun _ ↦ false
  /-- The other places at which the file at a place stands. -/
  otherNames : List String → List (List String) := fun _ ↦ []
  /-- After how many bytes writing to the file at a place breaks off, as on a full disk, if it
  does. -/
  breaksOff : List String → Option Nat := fun _ ↦ none

/-- Why a place cannot be used. -/
inductive FileError where
  | missing
  | notADirectory
  | isADirectory
  | exists
  | denied
  | nameTooLong
  | brokenOff
  deriving DecidableEq, Repr

namespace FileTree

/-- What stands at a place. -/
def node? (t : FileTree) (place : List String) : Option FileNode :=
  if place.isEmpty then some .directory
  else (t.nodes.find? fun e ↦ e.1 == place).map Prod.snd

/-- The most bytes that a name may have. -/
def maxNameBytes : Nat := 255

/-- The place that names lead to from a place: every name but the last has to be that of a
directory, from which one may go on. -/
def follow (t : FileTree) (here : List String) : List String → Except FileError (List String)
  | [] => .ok here
  | name :: names =>
    match t.node? here with
    | none => .error .missing
    | some (.file _) => .error .notADirectory
    | some .directory =>
      if t.closed here then .error .denied
      else if maxNameBytes < name.utf8ByteSize then .error .nameTooLong
      else if name = ".." then t.follow here.dropLast names
      else t.follow (here ++ [name]) names

/-- The most bytes that a path may have. -/
def maxPathBytes : Nat := 4095

/-- The place that a path leads to. -/
def locate (t : FileTree) (p : Path) : Except FileError (List String) :=
  if maxPathBytes < p.text.utf8ByteSize then .error .nameTooLong
  else t.follow (if p.root.isEmpty then t.current else []) p.names

/-- What a path leads to. -/
def find (t : FileTree) (p : Path) : Except FileError FileNode := do
  match t.node? (← t.locate p) with
  | none => .error .missing
  | some n => .ok n

/-- The tree with something put at a place. -/
def put (t : FileTree) (place : List String) (n : FileNode) : FileTree :=
  { t with nodes := t.nodes.filter (fun e ↦ e.1 != place) ++ [(place, n)] }

/-- Makes a directory, in a directory that exists. -/
def makeDirectory (t : FileTree) (p : Path) : Except FileError FileTree := do
  let place ← t.locate p
  match t.node? place with
  | some _ => .error .exists
  | none => if t.forbidden place then .error .denied else .ok (t.put place .directory)

/-- Whether a path leads to a directory. -/
def isDirectory (t : FileTree) (p : Path) : Bool :=
  match t.find p with
  | .ok .directory => true
  | _ => false

/-- Makes a directory unless it exists, and before it those that it lies in. What was made stays
even if the end cannot be reached. -/
def makeDirectories (t : FileTree) (root : String) (names : List String) :
    Except FileError Unit × FileTree :=
  let p : Path := ⟨root, names⟩
  match t.makeDirectory p with
  | .ok t => (.ok (), t)
  | .error .missing =>
    if h : names = [] then (.error .missing, t)
    else
      have : names.dropLast.length < names.length := by
        have := List.length_pos_iff.2 h
        rw [List.length_dropLast]
        omega
      match t.makeDirectories root names.dropLast with
      | (.error e, t) => (.error e, t)
      | (.ok (), t) =>
        match t.makeDirectory p with
        | .ok t => (.ok (), t)
        | .error e => (if t.isDirectory p then .ok () else .error e, t)
  | .error e => (if t.isDirectory p then .ok () else .error e, t)
termination_by names.length

/-- Reads a file. -/
def readFile (t : FileTree) (p : Path) : Except FileError (List UInt8) := do
  let place ← t.locate p
  match t.node? place with
  | none => .error .missing
  | some n =>
    if t.closed place then .error .denied
    else match n with
      | .directory => .error .isADirectory
      | .file bytes => .ok bytes

/-- Whether a file is at a place. -/
def isFile (t : FileTree) (place : List String) : Bool :=
  match t.node? place with
  | some (.file _) => true
  | _ => false

/-- The places at which a file shows that is written at a place. One that is there already shows at
its other names as well. -/
def placesOf (t : FileTree) (place : List String) : List (List String) :=
  place :: if t.isFile place then (t.otherNames place).filter t.isFile else []

/-- The tree with bytes as what the file at a place holds. -/
def store (t : FileTree) (place : List String) (bytes : List UInt8) : FileTree :=
  (t.placesOf place).foldl (fun t q ↦ t.put q (.file bytes)) t

/-- Opens a file to write it anew, in a directory that exists, and gives its place. -/
def openFile (t : FileTree) (p : Path) : Except FileError (List String) := do
  let place ← t.locate p
  match t.node? place with
  | some .directory => .error .isADirectory
  | _ => if t.forbidden place then .error .denied else .ok place

/-- What gets into the file at a place of the bytes that are written there. -/
def taken (t : FileTree) (place : List String) (bytes : List UInt8) : List UInt8 :=
  match t.breaksOff place with
  | none => bytes
  | some n => bytes.take n

/-- Writes a file, in a directory that exists. What was in a file is lost once it is opened, even if
writing breaks off then. -/
def writeFile (t : FileTree) (p : Path) (bytes : List UInt8) : Except FileError Unit × FileTree :=
  match t.openFile p with
  | .error e => (.error e, t)
  | .ok place =>
    (if (t.breaksOff place).isSome then .error .brokenOff else .ok (),
      t.store place (t.taken place bytes))

end FileTree

end ClusterDiagnosis
