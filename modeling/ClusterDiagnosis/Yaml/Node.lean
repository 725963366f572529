import ClusterDiagnosis.Yaml.Stream
import ClusterDiagnosis.Yaml.Tag

/-!
The nodes that a stream of tokens describes. Nodes have numbers, and a collection holds the numbers
of its parts: an alias is the number of the node it names, so that a node may be a part of several
others, and even of itself.
-/

set_option autoImplicit false
set_option relaxedAutoImplicit false

namespace ClusterDiagnosis.Yaml

/-- A node with its tag. -/
inductive Node where
  | scalar (tag text : String)
  | sequence (tag : String) (items : List Nat)
  | mapping (tag : String) (entries : List (Nat × Nat))
  deriving DecidableEq, Inhabited, Repr

namespace Node

/-- The node of a place that holds nothing. -/
def empty : Node :=
  .scalar (Tag.ofName "null") ""

def tag : Node → String
  | scalar t _ => t
  | sequence t _ => t
  | mapping t _ => t

/-- The node with another tag. -/
def withTag (t : String) : Node → Node
  | scalar _ s => scalar t s
  | sequence _ items => sequence t items
  | mapping _ es => mapping t es

/-- The name of a shape of nodes in a message. -/
def shape : Node → String
  | scalar _ _ => "scalar"
  | sequence _ _ => "sequence"
  | mapping _ _ => "mapping"

end Node

/-- Nodes by their numbers. -/
abbrev Nodes := Array Node

namespace Nodes

/-- The node of a number. -/
def node (ns : Nodes) (i : Nat) : Node :=
  ns.getD i .empty

/-- Whether the tag of a node is the standard one of a name. -/
def isTagged (ns : Nodes) (name : String) (i : Nat) : Bool :=
  (ns.node i).tag == Tag.ofName name

end Nodes

/-- A document: its nodes, and the number of the one that holds the others. -/
structure Document where
  nodes : Nodes
  root : Nat
  deriving Repr

/-- What is left of a stream, the nodes so far, the numbers of those with an anchor, and the handles
of tags with the addresses they stand for. -/
structure Reading where
  stream : Stream
  nodes : Nodes := #[]
  anchors : List (String × Nat) := []
  handles : List (String × String) := []

/-- A reader of a part of a stream. -/
abbrev NodeReader := StateT Reading (Except Trouble)

namespace NodeReader

/-- Ends with a flaw of the text. -/
def fail {α : Type} (f : Flaw) : NodeReader α :=
  throw (.flaw f)

/-- The next token; a stream that ends in trouble ends here. -/
def peek : NodeReader Token := do
  let s ← get
  match s.stream.tokens with
  | t :: _ => return t
  | [] => throw (s.stream.trouble.getD (.flaw .token))

/-- Goes on behind the next token. -/
def skip : NodeReader Unit :=
  modify fun s ↦ { s with stream := { s.stream with tokens := s.stream.tokens.drop 1 } }

/-- The node that an alias names. -/
def aliased (name : String) : NodeReader Nat := do
  match entryAt? name (← get).anchors with
  | none => fail (.unknownAlias name)
  | some i => return i

/-- Adds a node. -/
def add (n : Node) : NodeReader Nat := do
  let i := (← get).nodes.size
  modify fun s ↦ { s with nodes := s.nodes.push n }
  return i

/-- Adds a node that is still to be read, with its anchor if it has one. -/
def openNode (anchor : Option String) : NodeReader Nat := do
  match anchor with
  | none => add .empty
  | some name =>
    if (entryAt? name (← get).anchors).isSome then fail (.secondAnchor name)
    let i ← add .empty
    modify fun s ↦ { s with anchors := putEntry name i s.anchors }
    return i

/-- Puts a node in its place. -/
def closeNode (i : Nat) (n : Node) : NodeReader Nat := do
  modify fun s ↦ { s with nodes := s.nodes.setIfInBounds i n }
  return i

/-- The address of a tag. -/
def address (handle : Option String) (ending : String) : NodeReader String := do
  match handle with
  | none => return ending
  | some h => match entryAt? h (← get).handles with
    | none => fail .handle
    | some a => return a ++ ending

/-- The anchor and the tag of a node, in either order. -/
def properties : NodeReader (Option String × Option String) := do
  match ← peek with
  | .anchor a =>
    skip
    match ← peek with
    | .tag h e => skip; return (some a, some (← address h e))
    | _ => return (some a, none)
  | .tag h e =>
    skip
    match ← peek with
    | .anchor a => skip; return (some a, some (← address h e))
    | _ => return (none, some (← address h e))
  | _ => return (none, none)

/-- The tag of a scalar. -/
def scalarTag (tag : Option String) (plain : Bool) (text : String) : String :=
  match tag with
  | some t => if t = Tag.unspecific then Tag.ofPlain text else t
  | none => if plain then Tag.ofPlain text else Tag.ofName "str"

/-- The tag of a sequence or a mapping. -/
def collectionTag (tag : Option String) (usual : String) : String :=
  match tag with
  | some t => if t = Tag.unspecific then Tag.ofName usual else t
  | none => Tag.ofName usual

/-- A node, or the empty node if the next token stops it. -/
def orEmpty (stops : Token → Bool) (node : NodeReader Nat) : NodeReader Nat := do
  if stops (← peek) then add .empty else node

/-- The value of an entry: behind a colon, else empty. -/
def valueOr (stops : Token → Bool) (node : NodeReader Nat) : NodeReader Nat := do
  match ← peek with
  | .value => skip; orEmpty stops node
  | _ => add .empty

/-- What stops an entry of a block. -/
def stopsBlock : Token → Bool
  | .key => true
  | .value => true
  | .blockEnd => true
  | _ => false

/-- What stops a value between brackets. -/
def stopsFlow (closing : Token) (t : Token) : Bool :=
  t == .flowEntry || t == closing

/-- What stops a key between brackets. -/
def stopsFlowKey (closing : Token) (t : Token) : Bool :=
  t == .value || stopsFlow closing t

/-- Goes over the comma between two parts; the first part has none in front. -/
def comma (first : Bool) (f : Flaw) : NodeReader Unit := do
  if first then return
  if (← peek) == .flowEntry then skip else fail f

/-- The node of a place that holds no more than an anchor or a tag. -/
def bare (anchor tag : Option String) (f : Flaw) : NodeReader Nat := do
  if anchor.isNone && tag.isNone then fail f
  closeNode (← openNode anchor) (.scalar (scalarTag tag true "") "")

/-- The deepest that nodes may be nested. -/
def maxDepth : Nat := 485

mutual

/-- A node. Blocks are read only where they can stand, and a sequence may go without indentation
where it is the part of a mapping. Further nodes may be nested `depth` deep from here, and the
recursion is limited by `steps`. -/
def node (steps depth : Nat) (block indentless : Bool) : NodeReader Nat :=
  match steps, depth with
  | 0, _ => fail .token
  | _, 0 => throw (.mismatch .tooDeep)
  | steps + 1, depth + 1 => do
    match ← peek with
    | .aliasOf name => skip; aliased name
    | _ =>
      let (anchor, tag) ← properties
      let flaw := if block then Flaw.blockNode else Flaw.flowNode
      match ← peek with
      | .blockEntry =>
        if !indentless then bare anchor tag flaw
        else
          let i ← openNode anchor
          let items ← looseItems steps depth []
          closeNode i (.sequence (collectionTag tag "seq") items)
      | .scalar plain text =>
        skip
        closeNode (← openNode anchor) (.scalar (scalarTag tag plain text) text)
      | .flowSequenceStart =>
        let i ← openNode anchor
        skip
        let items ← flowItems steps depth true []
        closeNode i (.sequence (collectionTag tag "seq") items)
      | .flowMappingStart =>
        let i ← openNode anchor
        skip
        let entries ← flowEntries steps depth true []
        closeNode i (.mapping (collectionTag tag "map") entries)
      | .blockSequenceStart =>
        if !block then bare anchor tag flaw
        else
          let i ← openNode anchor
          skip
          let items ← blockItems steps depth []
          closeNode i (.sequence (collectionTag tag "seq") items)
      | .blockMappingStart =>
        if !block then bare anchor tag flaw
        else
          let i ← openNode anchor
          skip
          let entries ← blockEntries steps depth []
          closeNode i (.mapping (collectionTag tag "map") entries)
      | _ => bare anchor tag flaw

/-- The items of a block sequence, behind those before. -/
def blockItems (steps depth : Nat) (before : List Nat) : NodeReader (List Nat) :=
  match steps with
  | 0 => fail .token
  | steps + 1 => do
    match ← peek with
    | .blockEntry =>
      skip
      let item ← orEmpty (fun t ↦ t == .blockEntry || t == .blockEnd) (node steps depth true false)
      blockItems steps depth (item :: before)
    | .blockEnd => skip; return before.reverse
    | _ => fail .blockSequence

/-- The items of a sequence without indentation of its own, behind those before. -/
def looseItems (steps depth : Nat) (before : List Nat) : NodeReader (List Nat) :=
  match steps with
  | 0 => fail .token
  | steps + 1 => do
    match ← peek with
    | .blockEntry =>
      skip
      let item ← orEmpty (fun t ↦ t == .blockEntry || stopsBlock t) (node steps depth true false)
      looseItems steps depth (item :: before)
    | _ => return before.reverse

/-- The entries of a block mapping, behind those before. -/
def blockEntries (steps depth : Nat) (before : List (Nat × Nat)) : NodeReader (List (Nat × Nat)) :=
  match steps with
  | 0 => fail .token
  | steps + 1 => do
    match ← peek with
    | .key =>
      skip
      let k ← orEmpty stopsBlock (node steps depth true true)
      let v ← valueOr stopsBlock (node steps depth true true)
      blockEntries steps depth ((k, v) :: before)
    | .blockEnd => skip; return before.reverse
    | _ => fail .blockMapping

/-- The items of a sequence in brackets, behind those before. An entry of a mapping is an item that
has that entry alone. -/
def flowItems (steps depth : Nat) (first : Bool) (before : List Nat) : NodeReader (List Nat) :=
  match steps with
  | 0 => fail .token
  | steps + 1 => do
    if (← peek) == .flowSequenceEnd then
      skip
      return before.reverse
    comma first .flowSequence
    match ← peek with
    | .key =>
      let i ← openNode none
      skip
      let k ← orEmpty (stopsFlowKey .flowSequenceEnd) (node steps (depth - 1) false false)
      let v ← valueOr (stopsFlow .flowSequenceEnd) (node steps (depth - 1) false false)
      let item ← closeNode i (.mapping (Tag.ofName "map") [(k, v)])
      flowItems steps depth false (item :: before)
    | .flowSequenceEnd => skip; return before.reverse
    | _ =>
      let item ← node steps depth false false
      flowItems steps depth false (item :: before)

/-- The entries of a mapping in brackets, behind those before. -/
def flowEntries (steps depth : Nat) (first : Bool) (before : List (Nat × Nat)) :
    NodeReader (List (Nat × Nat)) :=
  match steps with
  | 0 => fail .token
  | steps + 1 => do
    if (← peek) == .flowMappingEnd then
      skip
      return before.reverse
    comma first .flowMapping
    match ← peek with
    | .key =>
      skip
      let k ← orEmpty (stopsFlowKey .flowMappingEnd) (node steps depth false false)
      let v ← valueOr (stopsFlow .flowMappingEnd) (node steps depth false false)
      flowEntries steps depth false ((k, v) :: before)
    | .flowMappingEnd => skip; return before.reverse
    | _ =>
      let k ← node steps depth false false
      flowEntries steps depth false ((k, ← add .empty) :: before)

end

/-- The handles that every document has. -/
def usualHandles : List (String × String) := [("!", "!"), ("!!", Tag.standard)]

/-- Takes in the directives in front of a document. -/
def directives : Nat → Bool → List (String × String) → NodeReader (List (String × String))
  | 0, _, handles => return handles
  | steps + 1, versioned, handles => do
    match ← peek with
    | .directive (.version major) =>
      skip
      if versioned then fail .secondVersion
      if major ≠ 1 then fail .version
      directives steps true handles
    | .directive (.handle h a) =>
      skip
      if (entryAt? h handles).isSome then fail (.secondHandle h)
      directives steps versioned (putEntry h a handles)
    | .directive .other => skip; directives steps versioned handles
    | _ => return handles

/-- Goes over the marks of document ends. -/
def skipEnds : Nat → NodeReader Unit
  | 0 => return
  | steps + 1 => do
    if (← peek) == .documentEnd then
      skip
      skipEnds steps

/-- Goes over the head of a document with a mark at its start, if there is a further document. -/
def head (steps : Nat) : NodeReader Bool := do
  skipEnds steps
  if (← peek) == .streamEnd then return false
  let handles ← directives steps false []
  match ← peek with
  | .documentStart =>
    skip
    modify fun s ↦ { s with
      handles := handles ++ usualHandles.filter fun e ↦ (entryAt? e.1 handles).isNone }
    return true
  | t => fail (.documentStart t.name)

/-- What stops a document that has a mark at its start. -/
def stopsDocument : Token → Bool
  | .directive _ => true
  | .documentStart => true
  | .documentEnd => true
  | .streamEnd => true
  | _ => false

/-- The root of the first document, if there is one. -/
def firstDocument (steps : Nat) : NodeReader (Option Nat) := do
  let root := node steps maxDepth true false
  match ← peek with
  | .directive _ | .documentStart | .streamEnd =>
    if ← head steps then some <$> orEmpty stopsDocument root else return none
  | _ =>
    modify fun s ↦ { s with handles := usualHandles }
    some <$> root

/-- The only document, if there is one. -/
def document (steps : Nat) : NodeReader (Option Document) := do
  match ← firstDocument steps with
  | none => return none
  | some root =>
    if ← head steps then fail .secondDocument else return some ⟨(← get).nodes, root⟩

end NodeReader

/-- The document that a stream describes, if it describes one. No part of it goes deeper than the
stream is long. -/
def Document.ofStream (s : Stream) : Except Trouble (Option Document) :=
  (NodeReader.document (4 * s.tokens.length + 4)).run' { stream := s }

end ClusterDiagnosis.Yaml
