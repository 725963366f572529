import ClusterDiagnosis.Number.Double
import Mathlib.Tactic.Common

/-!
# What rounding gives

The number nearest to a fraction is never a `nan`, and it is finite as long as the fraction is not
too great (`exists_ofFraction_eq_finite`), as whole numbers below two to the power of 1023 are. So
sums with a finite number are numbers (`add_finite_ne_nan`).
-/

set_option autoImplicit false
set_option relaxedAutoImplicit false

namespace ClusterDiagnosis.Double

/-- The order of a fraction is at most the difference of the logarithms. -/
theorem binaryOrder_le (num den : Nat) : binaryOrder num den ≤ (num.log2 : Int) - den.log2 := by
  simp only [binaryOrder]
  split <;> omega

/-- A fraction below two to the power of 1023 is in range. -/
theorem exists_ofFraction_eq_finite (negative : Bool) {num den : Nat}
    (h : binaryOrder num den ≤ 1022) :
    ∃ m e, ofFraction negative num den = .finite negative m e := by
  have hexponent : max minExponent (binaryOrder num den - (precision - 1)) ≤ 970 := by
    simp only [minExponent, precision]
    omega
  unfold ofFraction
  split
  · exact ⟨_, _, rfl⟩
  · generalize max minExponent (binaryOrder num den - (precision - 1)) = e at hexponent
    have hmax : maxExponent = 971 := rfl
    by_cases hq : roundedQuotient (num * power 2 (-e)) (den * power 2 e) = power 2 precision
    · simp only [if_pos hq]
      exact ⟨_, _, if_neg (by omega)⟩
    · simp only [if_neg hq]
      exact ⟨_, _, if_neg (by omega)⟩

/-- A whole number below two to the power of 1023 is in range. -/
theorem ofInt?_natCast {n : Nat} (h : n.log2 < 1023) : ofInt? n = some (ofNat n) := by
  have horder : binaryOrder n 1 ≤ 1022 := by
    have hone : Nat.log2 1 = 0 := by decide
    have hle := binaryOrder_le n 1
    omega
  obtain ⟨m, e, hfinite⟩ := exists_ofFraction_eq_finite false horder
  rw [ofInt?, ofNat, Int.natAbs_natCast, decide_eq_false (by omega), hfinite]

/-- A fraction that is rounded is a number, if an infinite one. -/
theorem ofFraction_ne_nan (negative : Bool) (num den : Nat) :
    ofFraction negative num den ≠ .nan := by
  unfold ofFraction
  split
  · exact Double.noConfusion
  · dsimp only
    split
    all_goals
      split
      · exact Double.noConfusion
      · exact Double.noConfusion

/-- Adding a finite number to a number gives a number. -/
theorem add_finite_ne_nan {a : Double} (ha : a ≠ .nan) (s : Bool) (m : Nat) (e : Int) :
    add a (.finite s m e) ≠ .nan := by
  cases a with
  | nan => exact absurd rfl ha
  | infinity t => exact Double.noConfusion
  | finite t n f =>
    simp only [add, ofScaled]
    split
    · exact Double.noConfusion
    · exact ofFraction_ne_nan _ _ _

end ClusterDiagnosis.Double
