import ClusterDiagnosis.Value.Shape
import ClusterDiagnosis.Yaml.Meaning
import ClusterDiagnosis.Yaml.Merge
import ClusterDiagnosis.Yaml.Source

/-!
The value of a YAML text: each node is read as its tag says. A scalar is read where it is met; a
collection is only noted, and its parts are read when the collections noted before it are done. Of
several faults the one that is met first counts: characters, tokens and nodes in the order of the
text, then values in this order.
-/

set_option autoImplicit false
set_option relaxedAutoImplicit false

namespace ClusterDiagnosis.Yaml

/-- The kinds of collections that tags ask for. -/
inductive Collection where
  | sequence
  | mapping
  | keys
  | pairs (f : Flaw)
  deriving DecidableEq, Repr

/-- What a tag asks of a node. -/
inductive Demand where
  | scalar (read : String → Except Trouble Value)
  | timestamp
  | collection (c : Collection)

namespace Demand

/-- What a tag asks for, if it is known. -/
def ofTag? (tag : String) : Option Demand :=
  match Text.after? Tag.standard.toList tag.toList with
  | none => none
  | some name =>
    match String.ofList name with
    | "seq" => some (.collection .sequence)
    | "map" => some (.collection .mapping)
    | "set" => some (.collection .keys)
    | "omap" => some (.collection (.pairs .orderedMap))
    | "pairs" => some (.collection (.pairs .pairs))
    | "timestamp" => some .timestamp
    | name => (entryAt? name Scalar.readers).map .scalar

/-- The demand of a tag that has to be known. -/
def ofTag (tag : String) : Except Trouble Demand :=
  match ofTag? tag with
  | some d => .ok d
  | none => .error (.flaw (.unknownTag tag))

end Demand

/-- What a node was read as: a value that may be a key, or a collection with the numbers of its
parts. -/
inductive Datum where
  | atom (v : Value)
  | sequence (items : List Nat)
  | mapping (entries : List (Value × Nat))
  | keys (ks : List Value)
  | pairs (ps : List (Nat × Nat))
  deriving Inhabited, Repr

/-- What is known while a document is read: its nodes, what they were read as so far, and the
collections in the order in which they were met. -/
structure Building where
  nodes : Nodes
  data : Array (Option Datum)
  met : Array (Nat × Collection) := #[]

/-- A step of reading a document. -/
abbrev Builder := StateT Building (Except Trouble)

namespace Builder

def fail {α : Type} (t : Trouble) : Builder α :=
  throw t

/-- Notes what a node was read as. -/
def note (i : Nat) (d : Datum) : Builder Unit :=
  modify fun b ↦ { b with data := b.data.setIfInBounds i (some d) }

/-- The text of a node that has to be a scalar. A mapping stands for the scalar under the key that
is tagged as its value. -/
def scalarText (ns : Nodes) : Nat → Nat → Except Trouble String
  | 0, _ => .error (.mismatch .tooDeep)
  | steps + 1, i =>
    match ns.node i with
    | .scalar _ s => .ok s
    | .sequence _ _ => .error (.flaw (.shape "scalar" "sequence"))
    | .mapping _ es =>
      match es.find? fun e ↦ ns.isTagged "value" e.1 with
      | some (_, v) => scalarText ns steps v
      | none => .error (.flaw (.shape "scalar" "mapping"))

/-- The value of a timestamp, which has to have a text of its own. -/
def timestamp (n : Node) : Except Trouble Value :=
  match n with
  | .scalar _ s => Scalar.timestamp s
  | _ => .error (.mismatch .wrongType)

/-- Reads a node, unless that was done: a scalar at once, a collection later. -/
def read (i : Nat) : Builder Unit := do
  let b ← get
  if (b.data.getD i none).isSome then return
  let n := b.nodes.node i
  match ← Demand.ofTag n.tag with
  | .scalar reading =>
    let text ← scalarText b.nodes (b.nodes.size + 1) i
    note i (.atom (← reading text))
  | .timestamp =>
    let _ ← scalarText b.nodes (b.nodes.size + 1) i
    note i (.atom (← timestamp n))
  | .collection c =>
    note i (.sequence [])
    modify fun b ↦ { b with met := b.met.push (i, c) }

/-- The key that a node was read as. A collection cannot be one. -/
def keyOf (i : Nat) : Builder Value := do
  match (← get).data.getD i none with
  | some (.atom v) => return v
  | _ => fail (.flaw .mapping)

/-- Reads the entries of a mapping, when it has taken in what it asks for. -/
def entries (i : Nat) : Builder (List (Value × Nat)) := do
  match (← get).nodes.node i with
  | .mapping _ _ =>
    let ns ← (← get).nodes.merged i
    modify fun b ↦ { b with nodes := ns }
    (ns.entries i).mapM fun (k, v) ↦ do
      read k
      let key ← keyOf k
      read v
      return (key, v)
  | n => fail (.flaw (.shape "mapping" n.shape))

/-- Reads a pair, which is a mapping with one entry. -/
def pair (f : Flaw) (i : Nat) : Builder (Nat × Nat) := do
  match (← get).nodes.node i with
  | .mapping _ [(k, v)] =>
    read k
    read v
    return (k, v)
  | _ => fail (.flaw f)

/-- Reads the parts of a collection. -/
def readParts (i : Nat) (c : Collection) : Builder Unit := do
  let n := (← get).nodes.node i
  match c, n with
  | .sequence, .sequence _ items =>
    items.forM read
    note i (.sequence items)
  | .sequence, n => fail (.flaw (.shape "sequence" n.shape))
  | .mapping, _ => note i (.mapping (← entries i))
  | .keys, _ => note i (.keys ((← entries i).map Prod.fst))
  | .pairs f, .sequence _ items => note i (.pairs (← items.mapM (pair f)))
  | .pairs f, _ => fail (.flaw f)

/-- Reads the parts of the collections met, from the given one on. No more of them are met than
there are nodes. -/
def readAll : Nat → Nat → Builder Unit
  | 0, _ => return
  | steps + 1, done => do
    match (← get).met[done]? with
    | none => return
    | some (i, c) =>
      readParts i c
      readAll steps (done + 1)

/-- Reads a document from its root on. -/
def document (d : Document) : Builder Unit := do
  read d.root
  readAll (d.nodes.size + 1) 0

end Builder

namespace Datum

/-- A table with a value under a key; keys that are equal are one. -/
def putKey {α : Type} (key : Value) (a : α) : List (Value × α) → List (Value × α)
  | [] => [(key, a)]
  | (k, b) :: r => if k.sameKey key then (k, a) :: r else (k, b) :: putKey key a r

/-- Entries in order, where the last with a key counts. -/
def distinct {α : Type} (es : List (Value × α)) : List (Value × α) :=
  es.foldl (fun t e ↦ putKey e.1 e.2 t) []

/-- A key as a text. -/
def keyText : Value → String
  | .null => "null"
  | .bool b => if b then "true" else "false"
  | k => k.text

/-- Entries as a map. -/
def table (es : List (Value × Value)) : Value :=
  .map ((distinct es).foldl (fun t e ↦ putEntry (keyText e.1) e.2 t) [])

/-- Keys, each once. -/
def keySet (ks : List Value) : Value :=
  .list ((distinct (ks.map fun k ↦ (k, ()))).map Prod.fst)

/-- The values of nodes as far as they are known. -/
abbrev Values := Array (Option Value)

/-- The value of a node, put together from those of its parts. Inside of itself a node stands for
nothing. -/
def value (data : Array (Option Datum)) : Nat → Nat → StateM Values Value
  | 0, _ => return .null
  | steps + 1, i => do
    match (← get).getD i none with
    | some v => return v
    | none =>
      modify fun known ↦ known.setIfInBounds i (some .null)
      let part := value data steps
      let v ← match (data.getD i none).getD default with
        | .atom v => pure v
        | .sequence items => Value.list <$> items.mapM part
        | .mapping es => table <$> es.mapM fun (k, v) ↦ return (k, ← part v)
        | .keys ks => pure (keySet ks)
        | .pairs ps => Value.list <$> ps.mapM fun (k, v) ↦ return .list [← part k, ← part v]
      modify fun known ↦ known.setIfInBounds i (some v)
      return v

end Datum

/-- The value of a document. -/
def Document.value (d : Document) : Except Trouble Value := do
  let built ← (Builder.document d).run
    { nodes := d.nodes, data := Array.replicate d.nodes.size none }
  let known := Array.replicate d.nodes.size none
  return ((Datum.value built.2.data (d.nodes.size + 1) d.root).run known).1

/-- The value of the text of a file. A text without a document stands for nothing. -/
def read (bytes : List UInt8) : Except Trouble Value := do
  let source := Source.ofBytes bytes
  match ← Document.ofStream (.ofText source.chars source.behind) with
  | none => return .null
  | some d => d.value

end ClusterDiagnosis.Yaml
