import ClusterDiagnosis.Number.Decimal

/-!
The shortest decimal that reads back as a given floating point number, and its layout.
-/

set_option autoImplicit false
set_option relaxedAutoImplicit false

namespace ClusterDiagnosis

namespace Shortest

/-- The greatest `k` with `10 ^ k ≤ num / den`, searched downward from an upper bound. -/
def decimalOrder (num den : Nat) : Nat → Int → Int
  | 0, k => k
  | steps + 1, k =>
    if den * Double.power 10 k ≤ num * Double.power 10 (-k) then k
    else decimalOrder num den steps (k - 1)

/-- Whether `n · 10 ^ e` is read as the number `± num / den` was read from. -/
def readsBack (d : Double) (n : Nat) (e : Int) : Bool :=
  Double.ofFraction false (n * Double.power 10 e) (Double.power 10 (-e)) == d

/-- Of the two multiples of `10 ^ e` around `num / den` the nearer that reads back as `d`. -/
def onGrid? (d : Double) (num den : Nat) (e : Int) : Option Nat :=
  let num := num * Double.power 10 (-e)
  let den := den * Double.power 10 e
  let low := num / den
  let lowHits := readsBack d low e
  let highHits := readsBack d (low + 1) e
  if lowHits && highHits then
    let r := num % den
    some (if 2 * r < den || (2 * r == den && low % 2 == 0) then low else low + 1)
  else if lowHits then some low
  else if highHits then some (low + 1)
  else none

/-- The first grid with a hit, with `count` digits and more. -/
def search (d : Double) (num den : Nat) (order : Int) : Nat → Nat → Nat × Int
  | 0, _ => (num / den, 0)
  | steps + 1, count =>
    let e := order - (count : Int) + 1
    match onGrid? d num den e with
    | some n => (n, e)
    | none => search d num den order steps (count + 1)

/-- The digits and the exponent of the shortest decimal `digits · 10 ^ exponent` for a positive
number: no decimal with fewer digits reads back, and none with as many is nearer. -/
def digits (mantissa : Nat) (exponent : Int) : List Char × Int :=
  let num := mantissa * Double.power 2 exponent
  let den := Double.power 2 (-exponent)
  let d := Double.finite false mantissa exponent
  let order := decimalOrder num den 700 309
  let (n, e) := search d num den order 17 1
  let ds := Text.decimal n
  let kept := (ds.reverse.dropWhile (· = '0')).reverse
  (kept, e + (ds.length - kept.length : Nat))

/-- How many digits stand before the point in positional notation, at most. -/
def maxPositional : Int := 16

/-- The least decimal order that is still written positionally. -/
def minPositional : Int := -4

/-- Digits `d₁d₂…` with the point behind the `point`-th: positional for moderate sizes, with at
least one digit after the point, else `d₁.d₂…e±xx` with an exponent of two digits or more. -/
def layout (ds : List Char) (point : Int) : List Char :=
  if minPositional < point && point ≤ maxPositional then
    if point ≤ 0 then '0' :: '.' :: (List.replicate (-point).toNat '0' ++ ds)
    else
      let n := point.toNat
      let whole := ds.take n ++ List.replicate (n - ds.length) '0'
      let fraction := ds.drop n
      whole ++ '.' :: (if fraction.isEmpty then ['0'] else fraction)
  else
    let e := point - 1
    let fraction := ds.drop 1
    let power := Text.decimal e.natAbs
    ds.take 1 ++ (if fraction.isEmpty then [] else '.' :: fraction) ++ 'e' ::
      (if e < 0 then '-' else '+') :: ((if power.length < 2 then ['0'] else []) ++ power)

end Shortest

/-- A floating point number as text that reads back as the same number. -/
def Double.text : Double → String
  | .nan => "nan"
  | .infinity negative => if negative then "-inf" else "inf"
  | .finite negative m e =>
    let body :=
      if m = 0 then ['0', '.', '0']
      else
        let (ds, power) := Shortest.digits m e
        Shortest.layout ds (power + ds.length)
    String.ofList (if negative then '-' :: body else body)

end ClusterDiagnosis
