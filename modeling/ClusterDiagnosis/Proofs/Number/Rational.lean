import ClusterDiagnosis.Proofs.Number.Order
import Mathlib.Algebra.Order.Field.Power
import Mathlib.Data.Rat.Cast.Order
import Mathlib.Order.WithBot
import Mathlib.Tactic.NormNum
import Mathlib.Tactic.Positivity

/-!
# Floating point numbers as rational numbers

A number that is not a `nan` is read as a rational number or as one of the two infinities
(`extended?`). The comparison of floating point numbers is that of what they are read as (`lt_iff`),
and so are the lesser and the greater of two numbers. Whole numbers below two to the power of 53 are
read as themselves (`rational?_ofNat`). So a number that is moved between two limits is a rational
number between them, whatever it was (`exists_rational?_between`).
-/

set_option autoImplicit false
set_option relaxedAutoImplicit false

namespace ClusterDiagnosis.Double

/-- The value `± mantissa · 2 ^ exponent`. -/
def rational (negative : Bool) (mantissa : Nat) (exponent : Int) : ℚ :=
  (if negative then -(mantissa : ℚ) else mantissa) * 2 ^ exponent

/-- The rational number that a number is read as, if it is finite. -/
def rational? : Double → Option ℚ
  | .finite s m e => some (rational s m e)
  | _ => none

/-- What a number is read as: a rational number or an infinity, or nothing for a `nan`. -/
def extended? : Double → Option (WithBot (WithTop ℚ))
  | .nan => none
  | .infinity true => some ⊥
  | .infinity false => some ⊤
  | .finite s m e => some (rational s m e : WithTop ℚ)

theorem power_eq {e : Int} (h : 0 ≤ e) : (power 2 e : ℚ) = 2 ^ e := by
  obtain ⟨n, rfl⟩ := Int.eq_ofNat_of_zero_le h
  rw [zpow_natCast]
  exact Nat.cast_pow 2 n

/-- A multiple of a power of two that is low enough is the value itself, scaled. -/
theorem scaled_eq (s : Bool) (m : Nat) {e least : Int} (h : least ≤ e) :
    (scaled s m e least : ℚ) = rational s m e * 2 ^ (-least) := by
  have hpower : (power 2 (e - least) : ℚ) = 2 ^ e * 2 ^ (-least) := by
    rw [power_eq (Int.sub_nonneg_of_le h), ← zpow_add₀ (by norm_num), sub_eq_add_neg]
  rw [scaled, rational, mul_assoc, ← hpower]
  split <;> push_cast
  · rw [neg_mul]
  · rfl

/-- Finite numbers are compared as the rational numbers that they are. -/
theorem lt_finite_iff (s t : Bool) (m n : Nat) (e f : Int) :
    lt (.finite s m e) (.finite t n f) = true ↔ rational s m e < rational t n f := by
  have hpos : (0 : ℚ) < 2 ^ (-min e f) := by positivity
  rw [lt_finite (Int.min_le_left e f) (Int.min_le_right e f), ← @Int.cast_lt ℚ,
    scaled_eq s m (Int.min_le_left e f), scaled_eq t n (Int.min_le_right e f),
    mul_lt_mul_iff_of_pos_right hpos]

variable {a b : Double} {x y : WithBot (WithTop ℚ)}

/-- The order of numbers is that of what they are read as. -/
theorem lt_iff (ha : a.extended? = some x) (hb : b.extended? = some y) :
    lt a b = true ↔ x < y := by
  cases a with
  | nan => cases ha
  | infinity s =>
    cases b with
    | nan => cases hb
    | infinity t => cases s <;> cases t <;> cases ha <;> cases hb <;> simp [lt]
    | finite t n f => cases s <;> cases ha <;> cases hb <;> simp [lt]
  | finite s m e =>
    cases b with
    | nan => cases hb
    | infinity t =>
      cases ha
      cases t with
      | true =>
        cases hb
        simp [lt]
      | false =>
        cases hb
        exact iff_of_true rfl (WithBot.coe_lt_coe.mpr (WithTop.coe_lt_top _))
    | finite t n f =>
      cases ha
      cases hb
      rw [lt_finite_iff, WithBot.coe_lt_coe, WithTop.coe_lt_coe]

/-- The lesser of two numbers is read as the lesser of what they are read as. -/
theorem extended?_minOf (ha : a.extended? = some x) (hb : b.extended? = some y) :
    (minOf a b).extended? = some (min x y) := by
  rw [minOf]
  split
  · next h => rw [hb, min_eq_right_of_lt ((lt_iff hb ha).mp h)]
  · next h => rw [ha, min_eq_left (not_lt.mp fun h' ↦ h ((lt_iff hb ha).mpr h'))]

/-- The greater of two numbers is read as the greater of what they are read as. -/
theorem extended?_maxOf (ha : a.extended? = some x) (hb : b.extended? = some y) :
    (maxOf a b).extended? = some (max x y) := by
  rw [maxOf]
  split
  · next h => rw [hb, max_eq_right_of_lt ((lt_iff ha hb).mp h)]
  · next h => rw [ha, max_eq_left (not_lt.mp fun h' ↦ h ((lt_iff ha hb).mpr h'))]

/-! ### Rational numbers -/

variable {d : Double} {q : ℚ}

/-- A number whose extended value is rational has it as its rational value. -/
theorem extended?_eq_some_iff :
    d.extended? = some (q : WithTop ℚ) ↔ d.rational? = some q := by
  cases d with
  | nan => exact iff_of_false nofun nofun
  | infinity s => cases s <;> simp [extended?, rational?]
  | finite s m e => simp [extended?, rational?]

theorem power_neg (k : Nat) : power 2 (-k) = 1 := by
  rw [power, Int.toNat_neg_natCast, Nat.pow_eq, Nat.pow_zero]

theorem binaryOrder_one {n : Nat} (h : n ≠ 0) : binaryOrder n 1 = n.log2 := by
  have hone : ((Nat.log2 1 : Nat) : Int) = 0 := by decide
  have hpower : power 2 (n.log2 : Int) = 2 ^ n.log2 := rfl
  have hself : 1 * power 2 (n.log2 : Int) ≤ n * power 2 (-(n.log2 : Int)) := by
    rw [power_neg, Nat.one_mul, Nat.mul_one, hpower]
    exact Nat.log2_self_le h
  rw [binaryOrder, hone, Int.sub_zero]
  exact if_pos hself

theorem roundedQuotient_one (n : Nat) : roundedQuotient n 1 = n := by
  simp [roundedQuotient, Nat.mod_one]

/-- Below two to the power of 53 a whole number is read as itself: the mantissa takes all 53 bits,
so it is the number shifted by those that it does not need. -/
theorem rational?_ofNat {n : Nat} (h : n < 2 ^ 53) : (ofNat n).rational? = some (n : ℚ) := by
  rcases Nat.eq_zero_or_pos n with rfl | hpos
  · simp [ofNat, ofFraction, rational?, rational]
  obtain ⟨k, hk⟩ : ∃ k, n.log2 + k = 52 :=
    ⟨52 - n.log2, by have := (Nat.log2_lt hpos.ne').mpr h; omega⟩
  have hexponent : max minExponent (binaryOrder n 1 - (precision - 1)) = -(k : Int) := by
    rw [binaryOrder_one hpos.ne']
    simp only [minExponent, precision]
    omega
  have hshifted : power 2 (-(-(k : Int))) = 2 ^ k := by
    rw [Int.neg_neg]
    rfl
  have hmantissa : n * 2 ^ k ≠ power 2 precision := by
    have hlt : n * 2 ^ k < 2 ^ (n.log2 + 1 + k) := by
      rw [Nat.pow_add]
      exact Nat.mul_lt_mul_of_pos_right Nat.lt_log2_self (Nat.two_pow_pos k)
    have hbits : power 2 precision = 2 ^ (n.log2 + 1 + k) := by
      rw [Nat.add_right_comm, hk]
      rfl
    exact hbits ▸ hlt.ne
  have hnumber : ofNat n = .finite false (n * 2 ^ k) (-k) := by
    rw [ofNat, ofFraction, if_neg hpos.ne']
    simp only [hexponent, hshifted, power_neg, Nat.mul_one, roundedQuotient_one, if_neg hmantissa]
    exact if_neg (by simp only [maxExponent]; omega)
  rw [hnumber, rational?, rational, zpow_neg, zpow_natCast]
  push_cast
  rw [mul_inv_cancel_right₀ (by positivity)]

/-! ### Numbers between limits -/

/-- A number moved to the nearest one between two limits. -/
def between (low high d : Double) : Double :=
  maxOf low (minOf d high)

/-- What lies between two rational numbers is one. -/
theorem exists_rational {least most : ℚ} {x : WithBot (WithTop ℚ)}
    (hleast : ((least : WithTop ℚ) : WithBot (WithTop ℚ)) ≤ x) (hmost : x ≤ (most : WithTop ℚ)) :
    ∃ q : ℚ, x = (q : WithTop ℚ) ∧ least ≤ q ∧ q ≤ most := by
  cases x with
  | bot => exact absurd hleast (WithBot.not_coe_le_bot _)
  | coe x =>
    rw [WithBot.coe_le_coe] at hleast hmost
    cases x with
    | top => exact absurd hmost (WithTop.not_top_le_coe _)
    | coe q => exact ⟨q, rfl, WithTop.coe_le_coe.mp hleast, WithTop.coe_le_coe.mp hmost⟩

section Between

variable {low high : Double} {least most : ℚ}

/-- A `nan` is not above the lower limit. -/
theorem between_nan (low high : Double) : between low high .nan = low := by
  have hmin : minOf .nan high = .nan := by
    rw [minOf]
    cases high <;> rfl
  rw [between, hmin, maxOf]
  cases low <;> rfl

/-- Bounding a number bounds its value. -/
theorem extended?_between (hlow : low.rational? = some least) (hhigh : high.rational? = some most)
    (hd : d.extended? = some x) :
    (between low high d).extended? =
      some (max ((least : WithTop ℚ) : WithBot (WithTop ℚ)) (min x (most : WithTop ℚ))) :=
  extended?_maxOf (extended?_eq_some_iff.mpr hlow)
    (extended?_minOf hd (extended?_eq_some_iff.mpr hhigh))

/-- Whatever a number is, moved between limits it is a rational number between them. -/
theorem exists_rational?_between (hlow : low.rational? = some least)
    (hhigh : high.rational? = some most) (hlimits : least ≤ most) (d : Double) :
    ∃ q, (between low high d).rational? = some q ∧ least ≤ q ∧ q ≤ most := by
  rcases hd : d.extended? with - | x
  · have hnan : d = .nan := by
      cases d with
      | nan => rfl
      | infinity s => cases s <;> cases hd
      | finite s m e => cases hd
    rw [hnan, between_nan]
    exact ⟨least, hlow, le_rfl, hlimits⟩
  · have hbetween := extended?_between hlow hhigh hd
    obtain ⟨q, hq, hleast, hmost⟩ := exists_rational (le_max_left _ (min x (most : WithTop ℚ)))
      (max_le (WithBot.coe_le_coe.mpr (WithTop.coe_le_coe.mpr hlimits)) (min_le_right x _))
    rw [hq] at hbetween
    exact ⟨q, extended?_eq_some_iff.mp hbetween, hleast, hmost⟩

/-- A number between the limits keeps its value, and it stays as it is unless it is the lower
limit, which has a second form where it is zero. -/
theorem rational?_between (hlow : low.rational? = some least) (hhigh : high.rational? = some most)
    (hd : d.rational? = some q) (hleast : least ≤ q) (hmost : q ≤ most) :
    (between low high d).rational? = some q ∧ (least < q → between low high d = d) := by
  have hq := extended?_eq_some_iff.mpr hd
  have hbelow : lt high d = true ↔ most < q := by
    rw [lt_iff (extended?_eq_some_iff.mpr hhigh) hq, WithBot.coe_lt_coe, WithTop.coe_lt_coe]
  have habove : lt low d = true ↔ least < q := by
    rw [lt_iff (extended?_eq_some_iff.mpr hlow) hq, WithBot.coe_lt_coe, WithTop.coe_lt_coe]
  have hmin : minOf d high = d := if_neg (hbelow.not.mpr (not_lt.mpr hmost))
  rw [between, hmin, maxOf]
  by_cases h : least < q
  · rw [if_pos (habove.mpr h)]
    exact ⟨hd, fun _ ↦ rfl⟩
  · obtain rfl : least = q := hleast.antisymm (not_lt.mp h)
    rw [if_neg (habove.not.mpr h)]
    exact ⟨hlow, fun h' ↦ absurd h' h⟩

end Between

end ClusterDiagnosis.Double
