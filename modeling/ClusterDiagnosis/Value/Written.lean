import ClusterDiagnosis.Number.Shortest
import ClusterDiagnosis.Text.Printable
import ClusterDiagnosis.Value.Basic

/-!
How a value appears inside a message: a text as it is, and anything else in the notation of a
literal, where texts are quoted.
-/

set_option autoImplicit false
set_option relaxedAutoImplicit false

namespace ClusterDiagnosis

namespace Literal

/-- A number in hexadecimal digits, at least `width` of them. -/
def hex (width n : Nat) : List Char :=
  let ds := Nat.toDigits 16 n
  List.replicate (width - ds.length) '0' ++ ds

/-- A character inside quotes of the given kind. -/
def character (quote c : Char) : List Char :=
  if c = quote || c = '\\' then ['\\', c]
  else match c with
    | '\n' => ['\\', 'n']
    | '\r' => ['\\', 'r']
    | '\t' => ['\\', 't']
    | c =>
      if Text.isPrintable c then [c]
      else if c.toNat < 0x100 then '\\' :: 'x' :: hex 2 c.toNat
      else if c.toNat < 0x10000 then '\\' :: 'u' :: hex 4 c.toNat
      else '\\' :: 'U' :: hex 8 c.toNat

/-- A text in single quotes, or in double quotes when it holds single ones and no double ones. -/
def quoted (s : String) : String :=
  let cs := s.toList
  let quote := if cs.contains '\'' && !cs.contains '"' then '"' else '\''
  String.ofList (quote :: cs.flatMap (character quote) ++ [quote])

end Literal

namespace Value

mutual

/-- A value in the notation of a literal. -/
def literal : Value → String
  | null => "None"
  | bool b => if b then "True" else "False"
  | int n => toString n
  | float d => d.text
  | str s => Literal.quoted s
  | list items => "[" ++ ", ".intercalate (literals items) ++ "]"
  | map entries => "\x7b" ++ ", ".intercalate (literalEntries entries) ++ "\x7d"

def literals : List Value → List String
  | [] => []
  | v :: r => v.literal :: literals r

def literalEntries : List (String × Value) → List String
  | [] => []
  | (k, v) :: r => (Literal.quoted k ++ ": " ++ v.literal) :: literalEntries r

end

/-- A value inside a message. -/
def text : Value → String
  | str s => s
  | v => v.literal

end Value

end ClusterDiagnosis
