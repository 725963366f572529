import ClusterDiagnosis.Fault

/-!
What can be wrong with a YAML text, and the line that says so.
-/

set_option autoImplicit false
set_option relaxedAutoImplicit false

namespace ClusterDiagnosis.Yaml

/-- What is wrong with a text. -/
inductive Flaw where
  /-- A character that may not occur in a text at all. -/
  | character (c : Char)
  /-- No token starts here. -/
  | token
  /-- A key without the colon behind it. -/
  | simpleKey
  | directive
  /-- A directive with a malformed address in it. -/
  | directiveAddress
  | anchor
  | aliasName
  | tag
  /-- A tag with a malformed address in it. -/
  | tagAddress
  | blockScalar
  | doubleQuoted
  | quoted
  /-- An entry of a sequence where none can stand. -/
  | entryPlace
  | keyPlace
  | valuePlace
  /-- A document that does not start as it should, but with the token of the given name. -/
  | documentStart (found : String)
  | secondVersion
  | version
  | secondHandle (handle : String)
  | handle
  | blockNode
  | flowNode
  | blockSequence
  | blockMapping
  | flowSequence
  | flowMapping
  | unknownAlias (name : String)
  | secondAnchor (name : String)
  | secondDocument
  /-- A node of one shape where the tag asks for another. -/
  | shape (wanted found : String)
  | mapping
  | orderedMap
  | pairs
  | base64
  | unknownTag (tag : String)
  deriving DecidableEq, Repr

/-- The line that says what is wrong. -/
def Flaw.message : Flaw → String
  | character c => "unacceptable character #x" ++ String.ofList (Literal.hex 4 c.toNat) ++
      ": special characters are not allowed"
  | token => "while scanning for the next token"
  | simpleKey => "while scanning a simple key"
  | directive => "while scanning a directive"
  | directiveAddress => "while parsing a directive"
  | anchor => "while scanning an anchor"
  | aliasName => "while scanning an alias"
  | tag => "while scanning a tag"
  | tagAddress => "while parsing a tag"
  | blockScalar => "while scanning a block scalar"
  | doubleQuoted => "while scanning a double-quoted scalar"
  | quoted => "while scanning a quoted scalar"
  | entryPlace => "sequence entries are not allowed here"
  | keyPlace => "mapping keys are not allowed here"
  | valuePlace => "mapping values are not allowed here"
  | documentStart found => "expected '<document start>', but found '" ++ found ++ "'"
  | secondVersion => "found duplicate YAML directive"
  | version => "found incompatible YAML document (version 1.* is required)"
  | secondHandle h => "duplicate tag handle " ++ Literal.quoted h
  | handle => "while parsing a node"
  | blockNode => "while parsing a block node"
  | flowNode => "while parsing a flow node"
  | blockSequence => "while parsing a block collection"
  | blockMapping => "while parsing a block mapping"
  | flowSequence => "while parsing a flow sequence"
  | flowMapping => "while parsing a flow mapping"
  | unknownAlias name => "found undefined alias " ++ Literal.quoted name
  | secondAnchor name => "found duplicate anchor " ++ Literal.quoted name ++ "; first occurrence"
  | secondDocument => "expected a single document in the stream"
  | shape wanted found => "expected a " ++ wanted ++ " node, but found " ++ found
  | mapping => "while constructing a mapping"
  | orderedMap => "while constructing an ordered map"
  | pairs => "while constructing pairs"
  | base64 => "failed to decode base64 data"
  | unknownTag t => "could not determine a constructor for the tag " ++ Literal.quoted t

/-- Why a text cannot be read: a flaw of the text, or a scalar that is not what its tag says. -/
inductive Trouble where
  | flaw (f : Flaw)
  /-- The text ends where that is a flaw; if more can be read it may be none. -/
  | ended (f : Flaw)
  | mismatch (m : Mismatch)
  deriving DecidableEq, Repr

namespace Trouble

/-- A flaw that shows at a character, or at the end of the text where there is none. -/
def atChar (c : Option Char) (f : Flaw) : Trouble :=
  if c.isNone then ended f else flaw f

/-- The trouble when behind the end of what was read there is the other trouble or nothing. -/
def before (behind : Option Trouble) : Trouble → Trouble
  | ended f => behind.getD (flaw f)
  | t => t

end Trouble

end ClusterDiagnosis.Yaml
