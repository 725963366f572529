import ClusterDiagnosis.Number.Decimal

/-!
Whole numbers in other bases than ten, with or without the letter that tells the base.
-/

set_option autoImplicit false
set_option relaxedAutoImplicit false

namespace ClusterDiagnosis.Radix

/-- The value of a digit or letter in any base. -/
def digit? (c : Char) : Option Nat :=
  match Text.digit? c with
  | some d => some d
  | none =>
    if 'a' ≤ c ∧ c ≤ 'z' then some (c.toNat - 'a'.toNat + 10)
    else if 'A' ≤ c ∧ c ≤ 'Z' then some (c.toNat - 'A'.toNat + 10)
    else none

/-- The letter behind a zero that tells the base. -/
def letter? (base : Nat) : Option Char :=
  if base = 2 then some 'b' else if base = 8 then some 'o' else if base = 16 then some 'x' else none

/-- The text without a zero and the letter of its base. -/
def withoutLetter (base : Nat) : List Char → List Char
  | '0' :: c :: r => if letter? base = some c.toLower then r else '0' :: c :: r
  | cs => cs

/-- The value of digits in a base. -/
def value? (base : Nat) (cs : List Char) : Option Nat :=
  cs.foldlM (fun n c ↦ do
    let d ← digit? c
    if d < base then some (base * n + d) else none) 0

/-- A whole number: padding, sign, letter of the base, digits. -/
def toInt? (base : Nat) (cs : List Char) : Option Int := do
  let (negative, r) := Decimal.sign (Text.trimWhere Decimal.isPadding cs)
  let r := withoutLetter base r
  if r.isEmpty then none
  let n ← value? base r
  return if negative then -n else n

end ClusterDiagnosis.Radix
