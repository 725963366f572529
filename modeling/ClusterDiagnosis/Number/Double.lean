/-!
Binary floating point numbers of 64 bits, in exact integer arithmetic. A finite number is
`± mantissa · 2 ^ exponent`; every operation computes the exact result and rounds it once, to the
nearest number, and of two equally near ones to the one with the even mantissa.
-/

set_option autoImplicit false
set_option relaxedAutoImplicit false

namespace ClusterDiagnosis

/-- A binary floating point number of 64 bits. -/
inductive Double where
  | nan
  | infinity (negative : Bool)
  | finite (negative : Bool) (mantissa : Nat) (exponent : Int)
  deriving DecidableEq, Repr, Inhabited

namespace Double

/-- The exponent of the numbers nearest to zero. -/
def minExponent : Int := -1074

/-- The exponent of the largest numbers. -/
def maxExponent : Int := 971

/-- The number of bits of a mantissa. -/
def precision : Nat := 53

def zero : Double := .finite false 0 minExponent

/-- A power with a whole exponent, cut off at one where the exponent is negative: a fraction is
scaled by the power in one of its terms and by the opposite power in the other. -/
def power (base : Nat) (e : Int) : Nat :=
  Nat.pow base e.toNat

/-- The greatest `k` with `2 ^ k ≤ num / den`. -/
def binaryOrder (num den : Nat) : Int :=
  let k : Int := (Nat.log2 num : Int) - Nat.log2 den
  if den * power 2 k ≤ num * power 2 (-k) then k else k - 1

/-- The quotient rounded to the nearest whole number, a half to the even one. -/
def roundedQuotient (num den : Nat) : Nat :=
  let q := num / den
  let r := num % den
  if den < 2 * r || (den == 2 * r && q % 2 == 1) then q + 1 else q

/-- The number nearest to `± num / den`. -/
def ofFraction (negative : Bool) (num den : Nat) : Double :=
  if num = 0 then .finite negative 0 minExponent
  else
    let e := max minExponent (binaryOrder num den - (precision - 1))
    let q := roundedQuotient (num * power 2 (-e)) (den * power 2 e)
    let (m, e) := if q = power 2 precision then (power 2 (precision - 1), e + 1) else (q, e)
    if maxExponent < e then .infinity negative else .finite negative m e

/-- The number nearest to a whole number; none when the whole number is out of range. -/
def ofInt? (n : Int) : Option Double :=
  match ofFraction (n < 0) n.natAbs 1 with
  | .infinity _ => none
  | d => some d

/-- The number nearest to a natural number that is surely in range. -/
def ofNat (n : Nat) : Double :=
  ofFraction false n 1

/-- `mantissa · 2 ^ exponent` with its sign, as a multiple of `2 ^ least`. -/
def scaled (negative : Bool) (mantissa : Nat) (exponent least : Int) : Int :=
  let m : Nat := mantissa * power 2 (exponent - least)
  if negative then -m else m

/-- The exact value `n · 2 ^ e`, rounded; a sum that vanishes is the positive zero unless
`negativeZero`. -/
def ofScaled (n : Int) (e : Int) (negativeZero : Bool) : Double :=
  if n = 0 then .finite negativeZero 0 minExponent
  else ofFraction (n < 0) (n.natAbs * power 2 e) (power 2 (-e))

def neg : Double → Double
  | .nan => .nan
  | .infinity s => .infinity !s
  | .finite s m e => .finite (!s) m e

def add : Double → Double → Double
  | .nan, _ => .nan
  | _, .nan => .nan
  | .infinity s, .infinity t => if s = t then .infinity s else .nan
  | .infinity s, _ => .infinity s
  | _, .infinity t => .infinity t
  | .finite s m e, .finite t n f =>
    let least := min e f
    ofScaled (scaled s m e least + scaled t n f least) least (s && t)

def sub (a b : Double) : Double :=
  add a b.neg

def mul : Double → Double → Double
  | .nan, _ => .nan
  | _, .nan => .nan
  | .infinity s, .infinity t => .infinity (s != t)
  | .infinity s, .finite t m _ => if m = 0 then .nan else .infinity (s != t)
  | .finite s m _, .infinity t => if m = 0 then .nan else .infinity (s != t)
  | .finite s m e, .finite t n f =>
    ofFraction (s != t) (m * n * power 2 (e + f)) (power 2 (-(e + f)))

/-- The order of numbers; nothing is below or above a `nan`, and both zeros are equal. -/
def lt : Double → Double → Bool
  | .nan, _ => false
  | _, .nan => false
  | .infinity s, .infinity t => s && !t
  | .infinity s, .finite _ _ _ => s
  | .finite _ _ _, .infinity t => !t
  | .finite s m e, .finite t n f =>
    let least := min e f
    scaled s m e least < scaled t n f least

/-- Equality of values: a `nan` differs from itself, and both zeros are equal. -/
def eqv : Double → Double → Bool
  | .nan, _ => false
  | _, .nan => false
  | a, b => !lt a b && !lt b a

/-- Whether a number is exactly a whole number. -/
def isInt (d : Double) (n : Int) : Bool :=
  match d with
  | .finite s m e => scaled s m e (min e 0) == scaled (n < 0) n.natAbs 0 (min e 0)
  | _ => false

def le (a b : Double) : Bool :=
  lt a b || eqv a b

/-- The second number if it is above the first, else the first. -/
def maxOf (a b : Double) : Double :=
  if lt a b then b else a

/-- The second number if it is below the first, else the first. -/
def minOf (a b : Double) : Double :=
  if lt b a then b else a

/-- Whether the number is one of the two zeros. -/
def isZero : Double → Bool
  | .finite _ m _ => m == 0
  | _ => false

/-- Why a number has no whole part. -/
inductive NotWhole where
  | notANumber
  | infinite
  deriving DecidableEq, Repr

/-- The number with its fraction cut off. -/
def truncated : Double → Except NotWhole Int
  | .nan => .error .notANumber
  | .infinity _ => .error .infinite
  | .finite s m e =>
    let n : Nat := m * power 2 e / power 2 (-e)
    .ok (if s then -n else n)

end Double

end ClusterDiagnosis
