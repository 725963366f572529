import ClusterDiagnosis.Number.Radix
import ClusterDiagnosis.Text.Search
import ClusterDiagnosis.Value.Basic
import ClusterDiagnosis.Yaml.Flaw
import ClusterDiagnosis.Yaml.Timestamp

/-!
What the text of a scalar stands for, when its tag says what kind of value it is.
-/

set_option autoImplicit false
set_option relaxedAutoImplicit false

namespace ClusterDiagnosis.Yaml

namespace Scalar

def refused {α : Type} (m : Mismatch) : Except Trouble α :=
  .error (.mismatch m)

/-- A value, or a text that has no reading. -/
def readable {α : Type} : Option α → Except Trouble α
  | some a => .ok a
  | none => refused .unreadable

/-- A switch by its words, in letters of either case. -/
def switch (s : String) : Except Trouble Value :=
  let word := s.map Char.toLower
  if ["yes", "true", "on"].contains word then .ok (.bool true)
  else if ["no", "false", "off"].contains word then .ok (.bool false)
  else refused .missingKey

/-- The sign of a number without its gaps, and the rest of it; there has to be something. -/
def signed (s : String) : Except Trouble (Bool × List Char) :=
  match s.toList.filter (· != '_') with
  | [] => refused .noElement
  | '-' :: r => .ok (true, r)
  | '+' :: r => .ok (false, r)
  | r => .ok (false, r)

/-- The value of a number in base sixty. -/
def sexagesimal (digits : List Int) : Int :=
  digits.foldl (fun n d ↦ 60 * n + d) 0

/-- The digits of a number in base sixty. -/
def sixtieths (cs : List Char) : List String :=
  (Text.splitAt ':' cs).map String.ofList

/-- A whole number without sign, in the base that its first characters tell. -/
def magnitude (cs : List Char) : Except Trouble Int :=
  match cs with
  | ['0'] => .ok 0
  | '0' :: 'b' :: r => readable (Radix.toInt? 2 r)
  | '0' :: 'x' :: r => readable (Radix.toInt? 16 r)
  | [] => refused .noElement
  | '0' :: r => readable (Radix.toInt? 8 ('0' :: r))
  | cs =>
    if cs.contains ':' then
      (readable ((sixtieths cs).mapM Decimal.toInt?)).map sexagesimal
    else readable (Decimal.toInt? (String.ofList cs))

/-- A whole number. -/
def int (s : String) : Except Trouble Value := do
  let (negative, r) ← signed s
  let n ← magnitude r
  return .int (if negative then -n else n)

/-- The value of a number in base sixty with a fraction: digits from the last on, with their
weights, each of which has to be in range. -/
def weighted : Nat → List Double → Double → Except Trouble Double
  | _, [], sum => .ok sum
  | weight, d :: ds, sum =>
    match Double.ofInt? weight with
    | none => refused .outOfRange
    | some w => weighted (60 * weight) ds (sum.add (d.mul w))

/-- A number without sign. -/
def unsigned (cs : List Char) : Except Trouble Double :=
  let s := String.ofList cs
  if s = ".inf" then .ok (.infinity false)
  else if s = ".nan" then .ok .nan
  else if cs.contains ':' then do
    let digits ← readable ((sixtieths cs).mapM Decimal.toDouble?)
    weighted 1 digits.reverse .zero
  else readable (Decimal.toDouble? s)

/-- A floating point number. -/
def float (s : String) : Except Trouble Value := do
  let (negative, r) ← signed (s.map Char.toLower)
  let d ← unsigned r
  return .float (if negative then d.neg else d)

/-- A timestamp, given in its written form. -/
def timestamp (s : String) : Except Trouble Value :=
  match Timestamp.parse? s.toList with
  | none => refused .noField
  | some t => (readable t.text?).map .str

/-- The value of a letter of base 64: six bits. -/
def sextet? (c : Char) : Option Nat :=
  if 'A' ≤ c ∧ c ≤ 'Z' then some (c.toNat - 65)
  else if 'a' ≤ c ∧ c ≤ 'z' then some (c.toNat - 71)
  else if '0' ≤ c ∧ c ≤ '9' then some (c.toNat + 4)
  else if c = '+' then some 62
  else if c = '/' then some 63
  else none

/-- The bytes of letters of base 64, four letters for three bytes, with the letters of an unfinished
group and the padding in front. Padding that completes a group ends the text, and other characters
are passed over. -/
def bytes : List Nat → Nat → List Char → Except Trouble (List Nat)
  | [], _, [] => .ok []
  | _, _, [] => .error (.flaw .base64)
  | group, padding, c :: r =>
    if c = '=' then
      if 2 ≤ group.length && 4 ≤ group.length + padding + 1 then
        match group with
        | [a, b, d] => .ok [a * 4 + b / 16, b % 16 * 16 + d / 4]
        | a :: b :: _ => .ok [a * 4 + b / 16]
        | _ => .ok []
      else bytes group (if 2 ≤ group.length then padding + 1 else padding) r
    else match sextet? c, group with
      | none, group => bytes group padding r
      | some e, [a, b, d] =>
        (bytes [] 0 r).map ([a * 4 + b / 16, b % 16 * 16 + d / 4, d % 4 * 64 + e] ++ ·)
      | some e, group => bytes (group ++ [e]) 0 r

/-- Bytes, each shown as the character of its number. -/
def binary (s : String) : Except Trouble Value :=
  if s.toList.any fun c ↦ 0x80 ≤ c.toNat then .error (.flaw .base64)
  else (bytes [] 0 s.toList).map fun ns ↦ .str (String.ofList (ns.map Char.ofNat))

/-- The readers of scalars by the names of their tags. -/
def readers : List (String × (String → Except Trouble Value)) := [
  ("null", fun _ ↦ .ok .null),
  ("bool", switch),
  ("int", int),
  ("float", float),
  ("binary", binary),
  ("timestamp", timestamp),
  ("str", fun s ↦ .ok (.str s))]

end Scalar

end ClusterDiagnosis.Yaml
