import ClusterDiagnosis.Number.Double
import ClusterDiagnosis.Text.Blank
import ClusterDiagnosis.Text.Digits

/-!
Numbers written in decimal: whole numbers of any size, and floating point numbers with fraction
and exponent. A single underscore may stand between two digits, and digits of every script count.
-/

set_option autoImplicit false
set_option relaxedAutoImplicit false

namespace ClusterDiagnosis

namespace Decimal

open Text

/-- The blanks that may surround a number: all but the information separators. -/
def isPadding (c : Char) : Bool :=
  isBlank c && !(28 ≤ c.toNat && c.toNat ≤ 31)

/-- A digit of any script as one of `0` to `9`; any other character as it is. -/
def plainDigit (c : Char) : Char :=
  match digit? c with
  | some d => Char.ofNat ('0'.toNat + d)
  | none => c

/-- Drops each underscore that stands between two digits; none when one stands elsewhere. The
first argument says whether a digit was read just before. -/
def withoutUnderscores? : Bool → List Char → Option (List Char)
  | _, [] => some []
  | afterDigit, '_' :: r =>
    match r with
    | [] => none
    | c :: _ => if afterDigit && (asciiDigit? c).isSome then withoutUnderscores? false r else none
  | _, c :: r => (withoutUnderscores? (asciiDigit? c).isSome r).map (c :: ·)

/-- The characters of a written number with padding and underscores dropped. -/
def normal? (s : String) : Option (List Char) :=
  withoutUnderscores? false ((trimWhere isPadding s.toList).map plainDigit)

/-- The sign in front, and the rest. -/
def sign : List Char → Bool × List Char
  | '-' :: r => (true, r)
  | '+' :: r => (false, r)
  | r => (false, r)

/-- The value of a row of digits. -/
def valueOf (ds : List Nat) : Nat :=
  ds.foldl (fun n d ↦ 10 * n + d) 0

/-- The digits in front, and the rest. -/
def leadingDigits : List Char → List Nat × List Char
  | [] => ([], [])
  | c :: r =>
    match asciiDigit? c with
    | none => ([], c :: r)
    | some d => let (ds, rest) := leadingDigits r; (d :: ds, rest)

/-- More digits than this are refused in a whole number. -/
def maxDigits : Nat := 4300

/-- A whole number: padding, sign, digits. -/
def toInt? (s : String) : Option Int := do
  let (negative, r) := sign (← normal? s)
  match leadingDigits r with
  | ([], _) => none
  | (ds, []) =>
    if maxDigits < ds.length then none
    else some (if negative then -(valueOf ds : Int) else valueOf ds)
  | _ => none

/-- The number `± digits · 10 ^ exponent`, where the range of the result is decided first, so that
no power of a huge exponent is computed. -/
def double (negative : Bool) (digits : List Nat) (exponent : Int) : Double :=
  let digits := digits.dropWhile (· = 0)
  let order : Int := digits.length + exponent
  if digits.isEmpty then .finite negative 0 Double.minExponent
  else if 310 < order then .infinity negative
  else if order < -330 then .finite negative 0 Double.minExponent
  else
    Double.ofFraction negative (valueOf digits * Double.power 10 exponent)
      (Double.power 10 (-exponent))

/-- Whether the text is the given word, in letters of either case. -/
def isWord (word : String) (cs : List Char) : Bool :=
  cs.map Char.toLower == word.toList

/-- The exponent part of a number, zero when there is none. -/
def exponent? : List Char → Option Int
  | [] => some 0
  | c :: r =>
    if c = 'e' || c = 'E' then
      let (negative, r) := sign r
      match leadingDigits r with
      | (d :: ds, []) =>
        let n : Int := valueOf (d :: ds)
        some (if negative then -n else n)
      | _ => none
    else none

/-- Digits with a point, and an exponent. -/
def unsigned? (negative : Bool) (cs : List Char) : Option Double :=
  let (whole, r) := leadingDigits cs
  let (fraction, r) := match r with
    | '.' :: r => leadingDigits r
    | r => ([], r)
  if whole.isEmpty && fraction.isEmpty then none
  else (exponent? r).map fun e ↦ double negative (whole ++ fraction) (e - fraction.length)

/-- A floating point number: padding, sign, then digits with optional point and exponent, or one
of the words for infinity and for not a number. -/
def toDouble? (s : String) : Option Double := do
  let (negative, r) := sign (← normal? s)
  if isWord "inf" r || isWord "infinity" r then some (.infinity negative)
  else if isWord "nan" r then some .nan
  else unsigned? negative r

end Decimal

end ClusterDiagnosis
