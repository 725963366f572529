import ClusterDiagnosis.Text.Digits
import ClusterDiagnosis.Yaml.Cursor
import ClusterDiagnosis.Yaml.Flaw

/-!
The texts of scalars: quoted, plain, and in blocks. In all of them a single line end inside the
text may be folded into a space, and further ones stay.
-/

set_option autoImplicit false
set_option relaxedAutoImplicit false

namespace ClusterDiagnosis.Yaml

namespace Quoted

/-- The character that an escape with one letter stands for. -/
def escape? : Char → Option Nat
  | '0' => some 0
  | 'a' => some 7
  | 'b' => some 8
  | 't' => some 9
  | '\t' => some 9
  | 'n' => some 10
  | 'v' => some 11
  | 'f' => some 12
  | 'r' => some 13
  | 'e' => some 27
  | ' ' => some 32
  | '"' => some 34
  | '/' => some 47
  | '\\' => some 92
  | 'N' => some 0x85
  | '_' => some 0xA0
  | 'L' => some 0x2028
  | 'P' => some 0x2029
  | _ => none

/-- The number of hexadecimal digits behind a letter. -/
def escapeDigits? : Char → Option Nat
  | 'x' => some 2
  | 'u' => some 4
  | 'U' => some 8
  | _ => none

/-- The greatest number of a character. -/
def maxCode : Nat := 0x10FFFF

/-- The greatest number that counts as one at all. -/
def maxWord : Nat := 0x7FFFFFFF

/-- The number of a character, as an escape gives it. -/
def code (n : Nat) : Except Trouble Nat :=
  if maxWord < n then .error (.mismatch .outOfRange)
  else if maxCode < n then .error (.mismatch .unreadable)
  else .ok n

/-- Where in a quoted scalar a character stands. -/
inductive Place where
  /-- Inside a line, behind so many blanks. -/
  | line (blanks : Nat)
  /-- At the start of a line, behind a line end that stands as a space so far, or not. -/
  | start (folded : Bool)
  /-- Behind a backslash. -/
  | escape
  /-- In the digits of an escape: how many are left, and their value so far. -/
  | digits (left value : Nat)

/-- Reads a quoted scalar behind its opening quote: the numbers of its characters, the last one
first, and what follows the closing quote. -/
def read (double : Bool) : Place → List Nat → List Char → Except Trouble (List Nat × List Char)
  | .escape, _, [] => .error (.ended .doubleQuoted)
  | .digits _ _, _, [] => .error (.ended .doubleQuoted)
  | .line _, _, [] => .error (.ended .quoted)
  | .start _, _, [] => .error (.ended .quoted)
  | .escape, before, c :: r =>
    if isBreak c then
      if isMarker r then .error (.atChar r[3]? .quoted) else read double (.start false) before r
    else match escape? c, escapeDigits? c with
      | some n, _ => read double (.line 0) (n :: before) r
      | none, some k => read double (.digits k 0) before r
      | none, none => .error (.flaw .doubleQuoted)
  | .digits left value, before, c :: r =>
    match Text.hexDigit? c with
    | none => .error (.flaw .doubleQuoted)
    | some d =>
      if 1 < left then read double (.digits (left - 1) (16 * value + d)) before r
      else do read double (.line 0) ((← code (16 * value + d)) :: before) r
  | .line blanks, before, c :: r =>
    if isBreak c then
      if isMarker r then .error (.atChar r[3]? .quoted)
      else
        let folded := lineEnd c == '\n'
        read double (.start folded)
          ((if folded then ' ' else c).toNat :: before.drop blanks) r
    else if isBlank c then read double (.line (blanks + 1)) (c.toNat :: before) r
    else text double before c r
  | .start folded, before, c :: r =>
    if isBreak c then
      if isMarker r then .error (.atChar r[3]? .quoted)
      else
        read double (.start false)
          ((lineEnd c).toNat :: if folded then before.drop 1 else before) r
    else if isBlank c then read double (.start folded) before r
    else text double before c r
where
  /-- Reads on from a character that is neither a blank nor a line end. -/
  text (double : Bool) (before : List Nat) (c : Char) (r : List Char) :
      Except Trouble (List Nat × List Char) :=
    if double then
      if c == '"' then .ok (before, r)
      else if c == '\\' then read double .escape before r
      else read double (.line 0) (c.toNat :: before) r
    else if c == '\'' then
      match r with
      | '\'' :: r => read double (.line 0) (c.toNat :: before) r
      | r => .ok (before, r)
    else read double (.line 0) (c.toNat :: before) r

/-- Whether a number is one half of a character that is written as two. -/
def isHigh (n : Nat) : Bool := 0xD800 ≤ n && n ≤ 0xDBFF

/-- Whether a number is the other half of a character that is written as two. -/
def isLow (n : Nat) : Bool := 0xDC00 ≤ n && n ≤ 0xDFFF

/-- The character of a number; half a character is shown by the replacement character. -/
def character (n : Nat) : Char :=
  if isHigh n || isLow n then '\uFFFD' else Char.ofNat n

/-- The characters of numbers, where two halves make up one character. -/
def characters : List Nat → List Char
  | [] => []
  | [n] => [character n]
  | m :: n :: r =>
    if isHigh m && isLow n then
      Char.ofNat (0x10000 + (m - 0xD800) * 0x400 + (n - 0xDC00)) :: characters r
    else character m :: characters (n :: r)

/-- The text of a quoted scalar that starts here, and the place behind it. -/
def scalar (double : Bool) (c : Cursor) : Except Trouble (String × Cursor) := do
  let (codes, rest) ← read double (.line 0) [] (c.rest.drop 1)
  return (String.ofList (characters codes.reverse), c.seek rest)

end Quoted

namespace Plain

/-- The characters that end a plain scalar inside of brackets. -/
def isFlowEnd (c : Char) : Bool :=
  c == ',' || c == '?' || c == '[' || c == ']' || c == '\x7b' || c == '\x7d'

/-- The characters before which a colon ends a plain scalar inside of brackets. -/
def isFlowIndicator (c : Char) : Bool :=
  c == ',' || c == '[' || c == ']' || c == '\x7b' || c == '\x7d'

/-- Whether a run of plain characters ends at `c`, where `next` follows. -/
def isEnd (flow : Bool) (c : Char) (next : Option Char) : Bool :=
  endsWord (some c) || (c == ':' && (endsWord next || (flow && next.any isFlowIndicator))) ||
    (flow && isFlowEnd c)

/-- The plain characters in front. -/
def word (flow : Bool) : List Char → List Char
  | [] => []
  | c :: r => if isEnd flow c r.head? then [] else c :: word flow r

/-- Line ends inside a plain scalar: a single one stands as a space. -/
def folded : List Char → List Char
  | [] => []
  | ['\n'] => [' ']
  | '\n' :: r => r
  | r => r

/-- What stands between two words of a plain scalar, if a further word may follow, and the place
behind it. -/
def gap (c : Cursor) : Option (List Char) × Cursor :=
  let (spaces, behind) := c.takeWhile (· == ' ')
  if (behind.head?.any isBreak) then
    let (region, behind) := behind.takeWhile fun ch ↦ ch == ' ' || isBreak ch
    if behind.column == 0 && isMarker behind.rest then (none, behind)
    else (some (folded ((region.filter isBreak).map lineEnd)), behind)
  else (if spaces.isEmpty then none else some spaces, behind)

/-- Reads the words of a plain scalar, at most `steps` of them. Lines after the first have to be
indented up to the given column. Gives the text, the line on which it ends, and the place where the
next token can start. -/
def words (flow : Bool) (indent : Nat) : Nat → List Char → Cursor → List Char × Nat × Cursor
  | 0, before, c => (before, c.line, c)
  | steps + 1, before, c =>
    let w := word flow c.rest
    let before := before ++ w
    let behind := c.advance w.length
    let (g, next) := gap behind
    if next.head? == some '#' || (!flow && next.column < indent) ||
        (word flow next.rest).isEmpty then (before, behind.line, next)
    else match g with
      | none => (before, behind.line, next)
      | some g => words flow indent steps (before ++ g) next

/-- The text of a plain scalar that starts here, the place behind it, and whether that is on a new
line. -/
def scalar (flow : Bool) (indent : Nat) (c : Cursor) : String × Cursor × Bool :=
  let (text, line, c) := words flow indent (c.rest.length + 1) [] c
  (String.ofList text, c, c.line != line)

end Plain

namespace Block

/-- What becomes of the line ends at the end of a block. -/
inductive Chomping where
  | strip
  | clip
  | keep
  deriving DecidableEq, Repr

/-- The chomping that an indicator asks for. -/
def chomping? : Char → Option Chomping
  | '+' => some .keep
  | '-' => some .strip
  | _ => none

/-- A digit for the indentation; zero is refused. -/
def indentation? (cs : List Char) : Except Trouble (Option Nat × List Char) :=
  match cs with
  | [] => .ok (none, [])
  | c :: r => match Text.asciiDigit? c with
    | none => .ok (none, c :: r)
    | some 0 => .error (.flaw .blockScalar)
    | some d => .ok (some d, r)

/-- The indicators behind the opening of a block, in either order. -/
def header (cs : List Char) : Except Trouble (Chomping × Option Nat × List Char) := do
  match cs.head?.bind chomping? with
  | some k =>
    let (indent, r) ← indentation? (cs.drop 1)
    return (k, indent, r)
  | none =>
    let (indent, r) ← indentation? cs
    match indent.bind fun _ ↦ r.head?.bind chomping? with
    | some k => return (k, indent, r.drop 1)
    | none => return (.clip, indent, r)

/-- The blank lines from here on: their line ends, and the place where a line starts that is not
blank, behind at most `indent` spaces. -/
def blankLines (indent : Nat) : Nat → Cursor → List Char × Cursor
  | 0, c => ([], c)
  | steps + 1, c =>
    let spaces := (c.rest.takeWhile (· == ' ')).length
    let c := c.advance (min spaces (indent - c.column))
    match c.rest with
    | ch :: _ =>
      if isBreak ch then
        let (others, c) := blankLines indent steps c.next
        (lineEnd ch :: others, c)
      else ([], c)
    | [] => ([], c)

/-- The widest indentation of blank lines and of the first line that is not blank. -/
def widest (column : Nat) (region : List Char) : Nat :=
  (region.foldl (fun (column, most) ch ↦
    if isBreak ch then (0, most) else (column + 1, max most (column + 1))) (column, 0)).2

/-- Reads the lines of a block whose text starts at a column: `before` is the text so far, and
`blank` are the line ends of the blank lines in front. Gives the text, the end of its last line, and
the line ends of the blank lines behind it. -/
def lines (folding : Bool) (indent : Nat) :
    Nat → List Char → List Char → Cursor → List Char × List Char × List Char × Cursor
  | 0, before, blank, c => (before, [], blank, c)
  | steps + 1, before, blank, c =>
    if c.column != indent || c.rest.isEmpty then (before, [], blank, c)
    else
      let leading := c.head?.any isBlank
      let (line, c) := c.takeWhile fun ch ↦ !isBreak ch
      let before := before ++ blank ++ line
      let ending := (c.head?.map lineEnd).toList
      let (blank, c) := blankLines indent (c.rest.length + 1) c.next
      if c.column != indent || c.rest.isEmpty then (before, ending, blank, c)
      else if folding && ending == ['\n'] && !leading && !c.head?.any isBlank then
        lines folding indent steps (before ++ if blank.isEmpty then [' '] else []) blank c
      else lines folding indent steps (before ++ ending) blank c

/-- The text of a block scalar that starts here, inside a block of the given column, and the place
behind it. -/
def scalar (folding : Bool) (outer : Option Nat) (c : Cursor) :
    Except Trouble (String × Cursor) := do
  let (chomping, increment, rest) ← header (c.rest.drop 1)
  if !endsField rest.head? then throw (.flaw .blockScalar)
  let c := (c.seek rest).skipSpaces
  let c := if c.head? == some '#' then c.toLineEnd else c
  if !endsLine c.head? then throw (.flaw .blockScalar)
  let c := c.next
  let least := (outer.map (· + 1)).getD 1
  let (indent, blank, c) := match increment with
    | some k =>
      let indent := least + k - 1
      let (blank, c) := blankLines indent (c.rest.length + 1) c
      (indent, blank, c)
    | none =>
      let (region, behind) := c.takeWhile fun ch ↦ ch == ' ' || isBreak ch
      (max least (widest c.column region), (region.filter isBreak).map lineEnd, behind)
  let (text, ending, blank, c) := lines folding indent (c.rest.length + 1) [] blank c
  return (String.ofList (match chomping with
    | .strip => text
    | .clip => text ++ ending
    | .keep => text ++ ending ++ blank), c)

end Block

end ClusterDiagnosis.Yaml
