import ClusterDiagnosis.Value.Written

/-!
Values as JSON text in ASCII, on one line or with two blanks of indentation a level.
-/

set_option autoImplicit false
set_option relaxedAutoImplicit false

namespace ClusterDiagnosis.Json

/-- The escape of a UTF-16 unit. -/
def unitEscape (n : Nat) : List Char :=
  '\\' :: 'u' :: Literal.hex 4 n

/-- A character inside a JSON string. A character beyond the first plane is written as two
units. -/
def escaped (c : Char) : List Char :=
  match c with
  | '"' => ['\\', '"']
  | '\\' => ['\\', '\\']
  | '\n' => ['\\', 'n']
  | '\r' => ['\\', 'r']
  | '\t' => ['\\', 't']
  | '\x0c' => ['\\', 'f']
  | '\x08' => ['\\', 'b']
  | c =>
    let n := c.toNat
    if 0x20 ≤ n && n ≤ 0x7E then [c]
    else if n < 0x10000 then unitEscape n
    else unitEscape (0xD800 + (n - 0x10000) / 0x400) ++ unitEscape (0xDC00 + (n - 0x10000) % 0x400)

/-- A text as a JSON string. -/
def string (s : String) : List Char :=
  '"' :: (s.toList.flatMap escaped ++ ['"'])

/-- A number; those that JSON has no notation for are written as strings. -/
def number : Double → List Char
  | .nan => string "nan"
  | .infinity negative => string (if negative then "-inf" else "inf")
  | d => d.text.toList

/-- Parts with a separator between them. -/
def joined (sep : List Char) : List (List Char) → List Char
  | [] => []
  | [p] => p
  | p :: q :: r => p ++ sep ++ joined sep (q :: r)

/-- How the parts of a list or map are set apart: what stands behind the opening bracket and
between the parts at a given depth, and behind the colon. -/
structure Layout where
  gap : Nat → List Char
  afterColon : List Char

/-- Everything on one line. -/
def compact : Layout := ⟨fun _ ↦ [], []⟩

/-- A line for each part, two blanks deeper a level. -/
def indented : Layout := ⟨fun depth ↦ '\n' :: List.replicate (2 * depth) ' ', [' ']⟩

/-- Parts between brackets, at the given depth. -/
def bracketed (lay : Layout) (depth : Nat) (opening closing : Char) (parts : List (List Char)) :
    List Char :=
  if parts.isEmpty then [opening, closing]
  else opening :: (lay.gap (depth + 1) ++ joined (',' :: lay.gap (depth + 1)) parts ++
    lay.gap depth ++ [closing])

mutual

/-- A value as JSON text, at the given depth. -/
def chars (lay : Layout) (depth : Nat) : Value → List Char
  | .null => "null".toList
  | .bool b => (if b then "true" else "false").toList
  | .int n => (toString n).toList
  | .float d => number d
  | .str s => string s
  | .list items => bracketed lay depth '[' ']' (itemChars lay (depth + 1) items)
  | .map entries => bracketed lay depth '\x7b' '\x7d' (entryChars lay (depth + 1) entries)

def itemChars (lay : Layout) (depth : Nat) : List Value → List (List Char)
  | [] => []
  | v :: r => chars lay depth v :: itemChars lay depth r

def entryChars (lay : Layout) (depth : Nat) : List (String × Value) → List (List Char)
  | [] => []
  | (k, v) :: r =>
    (string k ++ ':' :: (lay.afterColon ++ chars lay depth v)) :: entryChars lay depth r

end

/-- A value as one line of JSON. -/
def line (v : Value) : String :=
  String.ofList (chars compact 0 v)

/-- A value as indented JSON. -/
def page (v : Value) : String :=
  String.ofList (chars indented 0 v)

end ClusterDiagnosis.Json
