import ClusterDiagnosis.Yaml.Property
import ClusterDiagnosis.Yaml.Scalar

/-!
The stream of tokens of a text. A text that is flawed has a stream all the same, which ends in the
flaw: what comes before it may be read, and may have flaws of its own that come first. The same goes
for a text that can be read only up to some point.

A key may be known as one only by the colon behind it. As long as that is open, the tokens from the
key on do not belong to the stream.
-/

set_option autoImplicit false
set_option relaxedAutoImplicit false

namespace ClusterDiagnosis.Yaml

/-- The tokens of a text, and what is behind the last: nothing, or trouble. -/
structure Stream where
  tokens : List Token
  trouble : Option Trouble := none
  deriving Repr

/-- A place where a key may have started: the number of its first token, whether a key has to be
there, and where it is. -/
structure PossibleKey where
  number : Nat
  required : Bool
  line : Nat
  column : Nat
  offset : Nat
  deriving Repr

/-- What is known at some point of a text. The tokens so far are given with the last one first, and
so are the columns of the open blocks. There is a possible key or none for the block level and for
each bracket around this point, the innermost first. -/
structure Lexer where
  cursor : Cursor
  tokens : List Token := []
  indents : List Nat := []
  keys : List (Option PossibleKey) := [none]
  /-- Whether a key may start here. -/
  mayBeKey : Bool := true
  /-- What is met where the text that could be read ends. -/
  behind : Option Trouble := none
  deriving Repr

/-- What one step gives: a state to go on from, or the last one. -/
inductive LexerStep where
  | more (l : Lexer)
  | last (l : Lexer)

namespace Lexer

/-- Whether this point is inside of brackets. -/
def inFlow (l : Lexer) : Bool :=
  1 < l.keys.length

def emit (l : Lexer) (t : Token) : Lexer :=
  { l with tokens := t :: l.tokens }

/-- Puts tokens in front of the token of a number. -/
def insertAt (l : Lexer) (number : Nat) (ts : List Token) : Lexer :=
  let later := l.tokens.length - number
  { l with tokens := l.tokens.take later ++ ts.reverse ++ l.tokens.drop later }

/-- The longest distance of a key from its colon. -/
def maxKeyLength : Nat := 1024

/-- Whether a possible key can no longer be one: keys do not go over lines. -/
def isStale (l : Lexer) (k : PossibleKey) : Bool :=
  k.line != l.cursor.line || maxKeyLength < l.cursor.offset - k.offset

/-- Gives up the possible keys that can no longer be keys. -/
def dropStale (l : Lexer) : Except Trouble Lexer :=
  if l.keys.any fun k ↦ k.any fun k ↦ k.required && l.isStale k then .error (.flaw .simpleKey)
  else .ok { l with keys := l.keys.map fun k ↦ k.filter fun k ↦ !l.isStale k }

/-- The possible key of this level. -/
def key? (l : Lexer) : Option PossibleKey :=
  l.keys.head?.join

def setKey (l : Lexer) (k : Option PossibleKey) : Lexer :=
  { l with keys := k :: l.keys.drop 1 }

/-- Gives up the possible key of this level. -/
def dropKey (l : Lexer) : Except Trouble Lexer :=
  if l.key?.any PossibleKey.required then .error (.flaw .simpleKey) else .ok (l.setKey none)

/-- Notes that a key may start here. -/
def noteKey (l : Lexer) : Except Trouble Lexer :=
  if l.mayBeKey then
    l.dropKey.map fun l ↦ l.setKey (some {
      number := l.tokens.length
      required := !l.inFlow && l.indents.head? == some l.cursor.column
      line := l.cursor.line
      column := l.cursor.column
      offset := l.cursor.offset })
  else .ok l

/-- Closes the blocks that are indented more than the given column; all of them where there is
none. Brackets close no blocks. -/
def closeBlocks (l : Lexer) (column : Option Nat) : Lexer :=
  if l.inFlow then l
  else
    let closed := l.indents.takeWhile fun i ↦ column.all (· < i)
    { l with
      tokens := List.replicate closed.length .blockEnd ++ l.tokens
      indents := l.indents.drop closed.length }

/-- Whether a block at a column is a new one. -/
def isDeeper (l : Lexer) (column : Nat) : Bool :=
  l.indents.head?.all (· < column)

/-- Opens a block at this column unless it is open. -/
def openBlock (l : Lexer) (t : Token) : Lexer :=
  if l.isDeeper l.cursor.column then
    { l.emit t with indents := l.cursor.column :: l.indents }
  else l

/-- The length of blanks and remarks in front. -/
def blankLength : Bool → List Char → Nat
  | _, [] => 0
  | remark, c :: r =>
    if isBreak c then 1 + blankLength false r
    else if remark || c == ' ' then 1 + blankLength remark r
    else if c == '#' then 1 + blankLength true r
    else 0

/-- Goes on to the next token. On a new line a key may start. -/
def skipBlank (l : Lexer) : Lexer :=
  let c := l.cursor
  let c := if c.offset == 0 && c.head? == some '\uFEFF' then c.next else c
  let behind := c.advance (blankLength false c.rest)
  { l with
    cursor := behind
    mayBeKey := l.mayBeKey || (behind.line != l.cursor.line && !l.inFlow) }

/-- Takes one character as a token. -/
def single (l : Lexer) (t : Token) : Lexer :=
  { l.emit t with cursor := l.cursor.next }

/-- A directive or the mark of a document, which closes all blocks. -/
def closing (l : Lexer) (read : TokenReader) : Except Trouble LexerStep := do
  let l ← (l.closeBlocks none).dropKey
  let (t, c) ← read l.cursor
  return .more { l.emit t with cursor := c, mayBeKey := false }

/-- The mark of a document. -/
def marker : TokenReader := fun c ↦
  .ok (if c.head? == some '-' then .documentStart else .documentEnd, c.advance 3)

/-- The end of the text. -/
def finish (l : Lexer) : Except Trouble LexerStep := do
  let l ← (l.closeBlocks none).dropKey
  return .last { l.emit .streamEnd with keys := [none] }

/-- An opening bracket. -/
def openBracket (l : Lexer) (t : Token) : Except Trouble LexerStep := do
  let l ← l.noteKey
  return .more { l.single t with keys := none :: l.keys, mayBeKey := true }

/-- A closing bracket. One that closes nothing is no part of any document, so that the stream need
not go on behind it. -/
def closeBracket (l : Lexer) (t : Token) : Except Trouble LexerStep := do
  let l ← l.dropKey
  if l.inFlow then
    return .more { l.single t with keys := l.keys.drop 1, mayBeKey := false }
  return .last (l.single t)

/-- A comma between brackets. -/
def flowEntry (l : Lexer) : Except Trouble LexerStep := do
  let l ← l.dropKey
  return .more { l.single .flowEntry with mayBeKey := true }

/-- An indicator that opens a block where it stands. -/
def indicator (l : Lexer) (misplaced : Flaw) (opening t : Token) (mayBeKey : Bool) :
    Except Trouble LexerStep := do
  if !l.inFlow && !l.mayBeKey then throw (.flaw misplaced)
  let l := if l.inFlow then l else l.openBlock opening
  let l ← l.dropKey
  return .more { l.single t with mayBeKey }

/-- A colon: behind a possible key, which it makes one, or alone. -/
def valueMark (l : Lexer) : Except Trouble LexerStep :=
  match l.key? with
  | none => l.indicator .valuePlace .blockMappingStart .value (!l.inFlow)
  | some k =>
    let l := l.setKey none
    let l :=
      if !l.inFlow && l.isDeeper k.column then
        { l.insertAt k.number [.blockMappingStart, .key] with indents := k.column :: l.indents }
      else l.insertAt k.number [.key]
    .ok (.more { l.single .value with mayBeKey := false })

/-- A token that may be the start of a key. -/
def keyed (l : Lexer) (read : TokenReader) : Except Trouble LexerStep := do
  let l ← l.noteKey
  let (t, c) ← read l.cursor
  return .more { l.emit t with cursor := c, mayBeKey := false }

/-- A scalar in quotes. -/
def quoted (double : Bool) : TokenReader := fun c ↦
  (Quoted.scalar double c).map fun (s, c) ↦ (.scalar false s, c)

/-- A scalar in a block of its own. -/
def block (l : Lexer) (folding : Bool) : Except Trouble LexerStep := do
  let l ← l.dropKey
  let (s, c) ← Block.scalar folding l.indents.head? l.cursor
  return .more { l.emit (.scalar false s) with cursor := c, mayBeKey := true }

/-- A plain scalar. If it ends on a new line a key may follow. -/
def plain (l : Lexer) : Except Trouble LexerStep := do
  let l ← l.noteKey
  let (s, c, onNewLine) :=
    Plain.scalar l.inFlow ((l.indents.head?.map (· + 1)).getD 0) l.cursor
  return .more { l.emit (.scalar true s) with cursor := c, mayBeKey := onNewLine }

/-- The characters that start no plain scalar. -/
def isIndicator (c : Char) : Bool :=
  "-?:,[]\x7b\x7d#&*!|>'\"%@`".toList.contains c

/-- Whether a plain scalar starts with `c`, where `next` follows. -/
def startsPlain (flow : Bool) (c : Char) (next : Option Char) : Bool :=
  !(endsWord (some c) || isIndicator c) ||
    (!endsWord next && (c == '-' || (!flow && (c == '?' || c == ':'))))

/-- The token that starts with `c`, where `next` follows. -/
def dispatch (l : Lexer) (c : Char) (next : Option Char) : Except Trouble LexerStep :=
  let atStart := l.cursor.column == 0
  let stands := l.inFlow || endsWord next
  if atStart && c == '%' then l.closing Directive.read
  else if atStart && isMarker l.cursor.rest then l.closing marker
  else if c == '[' then l.openBracket .flowSequenceStart
  else if c == '\x7b' then l.openBracket .flowMappingStart
  else if c == ']' then l.closeBracket .flowSequenceEnd
  else if c == '\x7d' then l.closeBracket .flowMappingEnd
  else if c == ',' then l.flowEntry
  else if c == '-' && endsWord next then
    l.indicator .entryPlace .blockSequenceStart .blockEntry true
  else if c == '?' && stands then l.indicator .keyPlace .blockMappingStart .key (!l.inFlow)
  else if c == ':' && stands then l.valueMark
  else if c == '*' then l.keyed (Anchor.read .aliasName .aliasOf)
  else if c == '&' then l.keyed (Anchor.read .anchor .anchor)
  else if c == '!' then l.keyed Tag.read
  else if c == '|' && !l.inFlow then l.block false
  else if c == '>' && !l.inFlow then l.block true
  else if c == '\'' then l.keyed (quoted false)
  else if c == '"' then l.keyed (quoted true)
  else if startsPlain l.inFlow c next then l.plain
  else .error (.flaw .token)

/-- A step that took the text up to its end meets what is behind. -/
def settle (l : Lexer) : LexerStep → Except Trouble LexerStep
  | .more next => if next.cursor.rest.isEmpty then meet (.more next) else .ok (.more next)
  | .last final => if final.cursor.rest.isEmpty then meet (.last final) else .ok (.last final)
where
  /-- What is behind, if there is something. -/
  meet (s : LexerStep) : Except Trouble LexerStep :=
    match l.behind with
    | none => .ok s
    | some t => .error t

/-- One step: on to the next token, and over it. No token is known for sure before the character
behind it. -/
def step (l : Lexer) : Except Trouble LexerStep := do
  let l ← l.skipBlank.dropStale
  let l := l.closeBlocks (some l.cursor.column)
  match l.cursor.rest, l.behind with
  | [], none => l.finish
  | [], some t => throw t
  | [_], some t => throw t
  | c :: r, _ => l.settle (← l.dispatch c r.head?)

/-- The tokens in front of every possible key. -/
def settled (l : Lexer) : List Token :=
  let numbers := l.keys.filterMap fun k ↦ k.map PossibleKey.number
  l.tokens.reverse.take (numbers.foldl min l.tokens.length)

/-- The stream from here on, for at most the given number of steps. -/
def run : Nat → Lexer → Stream
  | 0, l => ⟨l.tokens.reverse, none⟩
  | steps + 1, l =>
    match l.dropStale with
    | .error e => ⟨l.settled, some (e.before l.behind)⟩
    | .ok l =>
      match l.step with
      | .error e => ⟨l.settled, some (e.before l.behind)⟩
      | .ok (.last l) => ⟨l.tokens.reverse, none⟩
      | .ok (.more l) => run steps l

end Lexer

/-- The stream of a text that can be read up to the trouble behind it, if there is any. Every step
but the last takes a character at least. -/
def Stream.ofText (cs : List Char) (behind : Option Trouble) : Stream :=
  Lexer.run (cs.length + 2) { cursor := { rest := cs }, behind }

end ClusterDiagnosis.Yaml
