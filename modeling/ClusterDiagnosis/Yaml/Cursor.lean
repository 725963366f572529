/-!
A place in a YAML text: what follows it, and where it is. Lines and columns matter, for blocks are
told by their indentation.
-/

set_option autoImplicit false
set_option relaxedAutoImplicit false

namespace ClusterDiagnosis.Yaml

/-- A place in a text. -/
structure Cursor where
  rest : List Char
  line : Nat := 0
  column : Nat := 0
  offset : Nat := 0
  deriving Repr

/-- The characters that end a line. -/
def isBreak (c : Char) : Bool :=
  c == '\n' || c == '\x85' || c == '\u2028' || c == '\u2029'

/-- A line end as it counts inside a scalar. -/
def lineEnd (c : Char) : Char :=
  if c == '\x85' then '\n' else c

/-- Blanks inside a line. -/
def isBlank (c : Char) : Bool :=
  c == ' ' || c == '\t'

/-- Whether a line ends at this character; where there is none the text ends. -/
def endsLine : Option Char → Bool
  | none => true
  | some c => isBreak c

/-- Whether a field ends at this character. -/
def endsField (c : Option Char) : Bool :=
  endsLine c || c == some ' '

/-- Whether a word ends at this character. -/
def endsWord (c : Option Char) : Bool :=
  endsField c || c == some '\t'

/-- Whether a line that starts like this marks the start or the end of a document. -/
def isMarker : List Char → Bool
  | '-' :: '-' :: '-' :: r => endsWord r.head?
  | '.' :: '.' :: '.' :: r => endsWord r.head?
  | _ => false

namespace Cursor

def head? (c : Cursor) : Option Char :=
  c.rest.head?

/-- The place one character on. A byte order mark takes no column. -/
def next (c : Cursor) : Cursor :=
  match c.rest with
  | [] => c
  | ch :: r =>
    if isBreak ch then ⟨r, c.line + 1, 0, c.offset + 1⟩
    else ⟨r, c.line, if ch == '\uFEFF' then c.column else c.column + 1, c.offset + 1⟩

/-- The place some characters on. -/
def advance (c : Cursor) : Nat → Cursor
  | 0 => c
  | n + 1 => c.next.advance n

/-- The characters from here on that are of a class, and the place behind them. -/
def takeWhile (c : Cursor) (p : Char → Bool) : List Char × Cursor :=
  let taken := c.rest.takeWhile p
  (taken, c.advance taken.length)

/-- The place of the given rest of the text. -/
def seek (c : Cursor) (rest : List Char) : Cursor :=
  c.advance (c.rest.length - rest.length)

/-- The place at the end of the line. -/
def toLineEnd (c : Cursor) : Cursor :=
  (c.takeWhile fun ch ↦ !isBreak ch).2

/-- The place behind spaces. -/
def skipSpaces (c : Cursor) : Cursor :=
  (c.takeWhile (· == ' ')).2

end Cursor

end ClusterDiagnosis.Yaml
