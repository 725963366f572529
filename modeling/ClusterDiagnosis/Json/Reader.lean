import ClusterDiagnosis.Number.Decimal
import ClusterDiagnosis.Text.Search
import ClusterDiagnosis.Value.Basic

/-!
Values from JSON text. A number without point and exponent is a whole number of any size, infinity
and the value that is no number are read by their names, and of several entries with the same key
the last counts.
-/

set_option autoImplicit false
set_option relaxedAutoImplicit false

namespace ClusterDiagnosis.Json

/-- The blanks that may stand between the parts of a JSON text. -/
def isSpace (c : Char) : Bool :=
  c == ' ' || c == '\n' || c == '\r' || c == '\t'

def skipSpace (cs : List Char) : List Char :=
  cs.dropWhile isSpace

/-- The UTF-16 unit that four hexadecimal digits give. -/
def unit? (a b c d : Char) : Option Nat := do
  let digits ← [a, b, c, d].mapM Text.hexDigit?
  return digits.foldl (fun n digit ↦ n * 16 + digit) 0

/-- The character of an escape with one letter. -/
def shortEscape? : Char → Option Char
  | '"' => some '"'
  | '\\' => some '\\'
  | '/' => some '/'
  | 'b' => some '\x08'
  | 'f' => some '\x0c'
  | 'n' => some '\n'
  | 'r' => some '\r'
  | 't' => some '\t'
  | _ => none

/-- The rest of a string behind its opening quote: its characters, and what follows the closing
quote. Two units of a surrogate pair make one character; a single surrogate is refused. -/
def stringRest : List Char → Option (List Char × List Char)
  | [] => none
  | '"' :: r => some ([], r)
  | '\\' :: 'u' :: a :: b :: c :: d :: r =>
    match unit? a b c d with
    | none => none
    | some n =>
      if n < 0xD800 || 0xE000 ≤ n then
        (stringRest r).map fun (s, rest) ↦ (Char.ofNat n :: s, rest)
      else match r with
        | '\\' :: 'u' :: e :: f :: g :: h :: r =>
          match unit? e f g h with
          | none => none
          | some m =>
            if n < 0xDC00 && 0xDC00 ≤ m && m < 0xE000 then
              (stringRest r).map fun (s, rest) ↦
                (Char.ofNat (0x10000 + (n - 0xD800) * 0x400 + (m - 0xDC00)) :: s, rest)
            else none
        | _ => none
  | '\\' :: c :: r =>
    match shortEscape? c with
    | none => none
    | some c => (stringRest r).map fun (s, rest) ↦ (c :: s, rest)
  | c :: r =>
    if c.toNat < 0x20 || c = '\\' then none
    else (stringRest r).map fun (s, rest) ↦ (c :: s, rest)

/-- The characters that a number is made of. -/
def isNumberChar (c : Char) : Bool :=
  ('0' ≤ c && c ≤ '9') || c == '-' || c == '+' || c == '.' || c == 'e' || c == 'E'

/-- A whole number without superfluous zeros in front. -/
def wholeNumber? (cs : List Char) : Option Int :=
  let (negative, r) := match cs with
    | '-' :: r => (true, r)
    | r => (false, r)
  match Decimal.leadingDigits r with
  | ([0], []) => some 0
  | (d :: ds, []) =>
    let n : Int := Decimal.valueOf (d :: ds)
    if d = 0 then none else some (if negative then -n else n)
  | _ => none

/-- A number: whole, or with fraction or exponent. -/
def number? (cs : List Char) : Option Value :=
  if cs.any fun c ↦ c == '.' || c == 'e' || c == 'E' then
    let (negative, r) := match cs with
      | '-' :: r => (true, r)
      | r => (false, r)
    (Decimal.unsigned? negative r).map .float
  else (wholeNumber? cs).map .int

/-- Whether the infinity at the start of the text is negative, and what follows it. -/
def infinity? (cs : List Char) : Option (Bool × List Char) :=
  let (negative, r) := match cs with
    | '-' :: r => (true, r)
    | r => (false, r)
  (Text.after? "Infinity".toList r).map (negative, ·)

mutual

/-- A value at the start of the text, and what follows it. The first argument bounds the number of
steps. -/
def value : Nat → List Char → Option (Value × List Char)
  | 0, _ => none
  | steps + 1, cs =>
    match cs with
    | 'n' :: 'u' :: 'l' :: 'l' :: r => some (.null, r)
    | 't' :: 'r' :: 'u' :: 'e' :: r => some (.bool true, r)
    | 'f' :: 'a' :: 'l' :: 's' :: 'e' :: r => some (.bool false, r)
    | 'N' :: 'a' :: 'N' :: r => some (.float .nan, r)
    | '"' :: r => (stringRest r).map fun (s, rest) ↦ (.str (String.ofList s), rest)
    | '[' :: r =>
      match skipSpace r with
      | ']' :: rest => some (.list [], rest)
      | r => (items steps r).map fun (vs, rest) ↦ (.list vs, rest)
    | '\x7b' :: r =>
      match skipSpace r with
      | '\x7d' :: rest => some (.map [], rest)
      | r => (members steps r []).map fun (es, rest) ↦ (.map es, rest)
    | cs =>
      match infinity? cs with
      | some (negative, r) => some (.float (.infinity negative), r)
      | none => (number? (cs.takeWhile isNumberChar)).map (·, cs.dropWhile isNumberChar)

/-- The items of a list from the next one on, and what follows the closing bracket. -/
def items : Nat → List Char → Option (List Value × List Char)
  | 0, _ => none
  | steps + 1, cs => do
    let (v, r) ← value steps cs
    match skipSpace r with
    | ']' :: rest => some ([v], rest)
    | ',' :: r =>
      let (vs, rest) ← items steps (skipSpace r)
      some (v :: vs, rest)
    | _ => none

/-- The entries of a map from the next one on, added to those read before, and what follows the
closing bracket. -/
def members : Nat → List Char → List (String × Value) →
    Option (List (String × Value) × List Char)
  | 0, _, _ => none
  | steps + 1, cs, before =>
    match cs with
    | '"' :: r => do
      let (k, r) ← stringRest r
      match skipSpace r with
      | ':' :: r =>
        let (v, r) ← value steps (skipSpace r)
        let entries := putEntry (String.ofList k) v before
        match skipSpace r with
        | '\x7d' :: rest => some (entries, rest)
        | ',' :: r => members steps (skipSpace r) entries
        | _ => none
      | _ => none
    | _ => none

end

/-- The value that a text holds, when it is one JSON document. -/
def parse? (s : String) : Option Value := do
  let cs := s.toList
  let (v, rest) ← value (cs.length + 1) (skipSpace cs)
  if (skipSpace rest).isEmpty then some v else none

end ClusterDiagnosis.Json
