import ClusterDiagnosis.Text.Digits
import ClusterDiagnosis.Yaml.Cursor
import ClusterDiagnosis.Yaml.Flaw
import ClusterDiagnosis.Yaml.Token

/-!
Tokens that say something about others: anchors and aliases, tags, and directives.
-/

set_option autoImplicit false
set_option relaxedAutoImplicit false

namespace ClusterDiagnosis.Yaml

/-- A reader of one token. -/
abbrev TokenReader := Cursor → Except Trouble (Token × Cursor)

/-- The characters of names. -/
def isNameChar (c : Char) : Bool :=
  c.isAlphanum || c == '-' || c == '_'

/-- The characters of addresses. -/
def isAddressChar (c : Char) : Bool :=
  c.isAlphanum || "-;/?:@&=+$,_.!~*'()[]%".toList.contains c

namespace Anchor

/-- The characters, besides blanks and line ends, that may follow a name. -/
def isFollower (c : Char) : Bool :=
  "?:,]\x7d%@`".toList.contains c

/-- An anchor or an alias, behind its indicator. -/
def read (flaw : Flaw) (token : String → Token) : TokenReader := fun c ↦
  let (name, c) := c.next.takeWhile isNameChar
  if name.isEmpty || !(endsWord c.head? || c.head?.any isFollower) then
    .error (.atChar c.head? flaw)
  else .ok (token (String.ofList name), c)

end Anchor

namespace Address

/-- The bytes of an address that were written by their hexadecimal digits, as text; `next` is the
character behind them. -/
def decoded (flaw : Flaw) (next : Option Char) (bytes : List UInt8) :
    Except Trouble (List Char) :=
  match String.fromUTF8? ⟨bytes.toArray⟩ with
  | some s => .ok s.toList
  | none => .error (.atChar next flaw)

/-- The characters of an address and what follows. Pending are the bytes written just before. -/
def read (flaw : Flaw) : List UInt8 → List Char → Except Trouble (List Char × List Char)
  | pending, '%' :: r =>
    match r with
    | a :: b :: r =>
      match Text.hexDigit? a, Text.hexDigit? b with
      | some x, some y => read flaw (pending ++ [UInt8.ofNat (16 * x + y)]) r
      | _, _ => .error (.flaw flaw)
    | [a] => .error (if (Text.hexDigit? a).isSome then .ended flaw else .flaw flaw)
    | [] => .error (.ended flaw)
  | pending, c :: r => do
    let front ← decoded flaw (some c) pending
    if isAddressChar c then
      let (others, rest) ← read flaw [] r
      return (front ++ c :: others, rest)
    else return (front, c :: r)
  | pending, [] => (decoded flaw none pending).map (·, [])

/-- An address, which has to have a character at least. -/
def scalar (flaw empty : Flaw) (c : Cursor) : Except Trouble (String × Cursor) := do
  let (text, rest) ← read flaw [] c.rest
  if text.isEmpty && rest.length == c.rest.length then throw (.atChar c.head? empty)
  return (String.ofList text, c.seek rest)

end Address

namespace Tag

/-- The handle of a tag: `!`, or a name between two of them. -/
def handle (flaw : Flaw) (c : Cursor) : Except Trouble (String × Cursor) :=
  if c.head? != some '!' then .error (.atChar c.head? flaw)
  else if c.next.head? == some ' ' then .ok ("!", c.next)
  else
    let (name, c) := c.next.takeWhile isNameChar
    if c.head? == some '!' then .ok (String.ofList ('!' :: name ++ ['!']), c.next)
    else .error (.atChar c.head? flaw)

/-- A tag that ends here. -/
def finish (t : Token) (c : Cursor) : Except Trouble (Token × Cursor) :=
  if endsField c.head? then .ok (t, c) else .error (.atChar c.head? .tag)

/-- A tag: an address as a whole, the mark alone, or an address behind a handle. -/
def read : TokenReader := fun c ↦ do
  let behind := c.next
  if behind.head? == some '<' then
    let (text, c) ← Address.scalar .tag .tagAddress behind.next
    if c.head? != some '>' then throw (.atChar c.head? .tagAddress)
    finish (.tag none text) c.next
  else if endsWord behind.head? then finish (.tag none "!") behind
  else
    let field := behind.rest.takeWhile fun ch ↦ !endsField (some ch)
    if field.contains '!' then
      let (h, c) ← handle .tag c
      let (text, c) ← Address.scalar .tag .tagAddress c
      finish (.tag (some h) text) c
    else
      let (text, c) ← Address.scalar .tag .tagAddress behind
      finish (.tag (some "!") text) c

end Tag

namespace Directive

/-- The digits of a version. -/
def number (c : Cursor) : Except Trouble (Nat × Cursor) :=
  let (ds, c) := c.takeWhile Char.isDigit
  if ds.isEmpty then .error (.atChar c.head? .directive)
  else .ok (ds.foldl (fun n d ↦ 10 * n + (d.toNat - '0'.toNat)) 0, c)

/-- The version that a document is written in. -/
def readVersion (c : Cursor) : Except Trouble (Directive × Cursor) := do
  let (major, c) ← number c.skipSpaces
  if c.head? != some '.' then throw (.atChar c.head? .directive)
  let (_, c) ← number c.next
  if endsField c.head? then return (.version major, c) else throw (.flaw .directive)

/-- A handle and the address it stands for. -/
def readHandle (c : Cursor) : Except Trouble (Directive × Cursor) := do
  let (name, c) ← Tag.handle .directive c.skipSpaces
  if c.head? != some ' ' then throw (.atChar c.head? .directive)
  let (address, c) ← Address.scalar .directive .directiveAddress c.skipSpaces
  if endsField c.head? then return (.handle name address, c) else throw (.flaw .directive)

/-- The directive of a name, up to its last field. -/
def readFields (name : String) (c : Cursor) : Except Trouble (Directive × Cursor) :=
  if name = "YAML" then readVersion c
  else if name = "TAG" then readHandle c
  else .ok (.other, c.toLineEnd)

/-- A directive, behind its indicator and up to the end of its line. -/
def read : TokenReader := fun c ↦ do
  let (name, c) := c.next.takeWhile isNameChar
  if name.isEmpty || !endsField c.head? then throw (.atChar c.head? .directive)
  let (d, c) ← readFields (String.ofList name) c
  let c := c.skipSpaces
  let c := if c.head? == some '#' then c.toLineEnd else c
  if endsLine c.head? then return (.directive d, c.next) else throw (.flaw .directive)

end Directive

end ClusterDiagnosis.Yaml
