import ClusterDiagnosis.Proofs.Number.Range
import ClusterDiagnosis.Proofs.Number.Rational
import Mathlib.Algebra.Order.Round
import Mathlib.Tactic.FieldSimp
import Mathlib.Tactic.Linarith
import Mathlib.Tactic.Ring

/-!
# Rounding to the nearest number

The number that a fraction is rounded to is nearest to it (`isNearest_ofFraction`): no number with a
mantissa of 53 bits is nearer, and where another one is as near, the mantissa is even. The numbers
with the exponent of the result, and those above it, are multiples of one power of two, and among
these the quotient is rounded to the nearest (`abs_roundedQuotient_sub_le`). Those with a lower
exponent lie below the power of two that the fraction reaches (`lt_of_exponent_lt`), which is such a
multiple itself.
-/

set_option autoImplicit false
set_option relaxedAutoImplicit false

namespace ClusterDiagnosis.Double

variable {num den m n : Nat} {s t : Bool} {e f : Int} {x : ℚ}

/-- The other sign gives the opposite value. -/
theorem rational_not (s : Bool) (m : Nat) (e : Int) : rational (!s) m e = -rational s m e := by
  cases s <;> simp [rational]

/-- Cut off at one, a power of two is still the quotient of two opposite powers. -/
theorem power_eq_mul (e : Int) : (power 2 e : ℚ) = 2 ^ e * power 2 (-e) := by
  rcases Int.le_total 0 e with h | h
  · obtain ⟨k, rfl⟩ := Int.eq_ofNat_of_zero_le h
    rw [power_neg, Nat.cast_one, mul_one, power_eq h]
  · obtain ⟨k, hk⟩ := Int.eq_ofNat_of_zero_le (Int.neg_nonneg.mpr h)
    obtain rfl : e = -(k : Int) := by omega
    rw [power_neg, power_eq (by omega), Nat.cast_one, ← zpow_add₀ (by norm_num)]
    simp

/-! ### The quotient -/

/-- A quotient is rounded by half at most, and by half only to an even number. -/
theorem abs_roundedQuotient_sub_le (num : Nat) (hden : 0 < den) :
    |(roundedQuotient num den : ℚ) - num / den| ≤ 1 / 2 ∧
      (|(roundedQuotient num den : ℚ) - num / den| = 1 / 2 → roundedQuotient num den % 2 = 0) := by
  have hpos : (0 : ℚ) < den := Nat.cast_pos.mpr hden
  have hsplit : (num : ℚ) / den = (num / den : Nat) + (num % den : Nat) / (den : ℚ) := by
    rw [div_eq_iff hpos.ne', add_mul, div_mul_cancel₀ _ hpos.ne', mul_comm]
    exact_mod_cast (Nat.div_add_mod num den).symm
  have hrest : ((num % den : Nat) : ℚ) / den < 1 :=
    (div_lt_one hpos).mpr (Nat.cast_lt.mpr (Nat.mod_lt _ hden))
  have hnonneg : (0 : ℚ) ≤ ((num % den : Nat) : ℚ) / den := by positivity
  have hhalf : ((num % den : Nat) : ℚ) / den = 1 / 2 ↔ den = 2 * (num % den) := by
    rw [div_eq_div_iff hpos.ne' two_ne_zero, one_mul, mul_comm, eq_comm]
    exact_mod_cast Iff.rfl
  have habove : 1 / 2 < ((num % den : Nat) : ℚ) / den ↔ den < 2 * (num % den) := by
    rw [div_lt_div_iff₀ two_pos hpos, one_mul, mul_comm]
    exact_mod_cast Iff.rfl
  rw [hsplit, roundedQuotient]
  generalize ((num % den : Nat) : ℚ) / den = rest at hrest hnonneg hhalf habove
  split
  · next hup =>
    have hdistance : ((num / den + 1 : Nat) : ℚ) - ((num / den : Nat) + rest) = 1 - rest := by
      push_cast
      ring
    have hge : 1 / 2 ≤ rest := by
      rcases Bool.or_eq_true_iff.mp hup with h | h
      · exact (habove.mpr (of_decide_eq_true h)).le
      · rw [Bool.and_eq_true, beq_iff_eq] at h
        exact (hhalf.mpr h.1).ge
    rw [hdistance, abs_of_nonneg (by linarith)]
    refine ⟨by linarith, fun h ↦ ?_⟩
    have hden := hhalf.mp (by linarith)
    simp [← hden] at hup
    omega
  · next hdown =>
    have hdistance : ((num / den : Nat) : ℚ) - ((num / den : Nat) + rest) = -rest := by ring
    have hle : rest ≤ 1 / 2 := by
      rw [← not_lt, habove]
      simp at hdown
      omega
    rw [hdistance, abs_neg, abs_of_nonneg hnonneg]
    refine ⟨hle, fun h ↦ ?_⟩
    have hden := hhalf.mp h
    simp [← hden] at hdown
    omega

/-- What is at most half off is nearest among the whole numbers, and what is less off alone. -/
theorem abs_sub_le_of_half {q j : ℤ} (h : |(q : ℚ) - x| ≤ 1 / 2) :
    |(q : ℚ) - x| ≤ |(j : ℚ) - x| ∧
      (|(j : ℚ) - x| = |(q : ℚ) - x| → j = q ∨ |(q : ℚ) - x| = 1 / 2) := by
  by_cases hj : j = q
  · rw [hj]
    exact ⟨le_rfl, fun _ ↦ .inl rfl⟩
  · have hone : (1 : ℚ) ≤ |(j : ℚ) - q| := by
      exact_mod_cast Int.one_le_abs (sub_ne_zero.mpr hj)
    have htriangle := abs_sub_le (j : ℚ) x q
    rw [abs_sub_comm x] at htriangle
    exact ⟨by linarith, fun heq ↦ .inr (by linarith)⟩

/-! ### The exponent -/

/-- A whole number reaches the power of two of its logarithm. -/
theorem two_zpow_log2_le (h : n ≠ 0) : (2 : ℚ) ^ (n.log2 : ℤ) ≤ n := by
  rw [zpow_natCast]
  exact_mod_cast Nat.log2_self_le h

/-- A number is below the power of two that follows its logarithm. -/
theorem lt_two_zpow_log2 (n : Nat) : (n : ℚ) < 2 ^ ((n.log2 : ℤ) + 1) := by
  exact_mod_cast @Nat.lt_log2_self n

/-- The power of two of a fraction is the one that it reaches. -/
theorem two_zpow_binaryOrder (hnum : num ≠ 0) (hden : 0 < den) :
    (2 : ℚ) ^ binaryOrder num den ≤ num / den ∧
      (num : ℚ) / den < 2 ^ (binaryOrder num den + 1) := by
  have hpos : (0 : ℚ) < den := Nat.cast_pos.mpr hden
  have hreaches (k : Int) : den * power 2 k ≤ num * power 2 (-k) ↔ (2 : ℚ) ^ k ≤ num / den := by
    have hcut : (0 : ℚ) < power 2 (-k) := Nat.cast_pos.mpr (power_pos _)
    rw [le_div_iff₀ hpos, ← mul_le_mul_iff_of_pos_right hcut, ← @Nat.cast_le ℚ]
    push_cast
    rw [power_eq_mul k]
    ring_nf
  have hupper : (num : ℚ) / den < 2 ^ ((num.log2 : ℤ) - den.log2 + 1) := by
    rw [div_lt_iff₀ hpos]
    calc (num : ℚ) < 2 ^ ((num.log2 : ℤ) + 1) := lt_two_zpow_log2 num
      _ = 2 ^ ((num.log2 : ℤ) - den.log2 + 1) * 2 ^ (den.log2 : ℤ) := by
          rw [← zpow_add₀ two_ne_zero]
          ring_nf
      _ ≤ 2 ^ ((num.log2 : ℤ) - den.log2 + 1) * den := by
          gcongr
          exact two_zpow_log2_le hden.ne'
  have hlower : (2 : ℚ) ^ ((num.log2 : ℤ) - den.log2 - 1) ≤ num / den := by
    rw [le_div_iff₀ hpos]
    calc (2 : ℚ) ^ ((num.log2 : ℤ) - den.log2 - 1) * den
        ≤ 2 ^ ((num.log2 : ℤ) - den.log2 - 1) * 2 ^ ((den.log2 : ℤ) + 1) := by
          gcongr
          exact (lt_two_zpow_log2 den).le
      _ = 2 ^ (num.log2 : ℤ) := by
          rw [← zpow_add₀ two_ne_zero]
          ring_nf
      _ ≤ num := two_zpow_log2_le hnum
  rw [binaryOrder]
  split
  · next h => exact ⟨(hreaches _).mp h, hupper⟩
  · next h =>
    rw [hreaches, not_le] at h
    exact ⟨hlower, by rwa [sub_add_cancel]⟩

/-- The exponent of the number that a fraction is rounded to, before the rounding may raise it. -/
def roundingExponent (num den : Nat) : Int :=
  max minExponent (binaryOrder num den - (precision - 1))

/-- The whole number of such powers of two that a fraction is rounded to. -/
def roundingQuotient (num den : Nat) : Nat :=
  roundedQuotient (num * power 2 (-roundingExponent num den))
    (den * power 2 (roundingExponent num den))

/-- Scaled in both of its terms, a fraction is multiplied by the opposite power of two. -/
theorem quotient_eq (num den : Nat) (e : Int) :
    ((num * power 2 (-e) : Nat) : ℚ) / (den * power 2 e : Nat) = num / den * 2 ^ (-e) := by
  have hcut : (power 2 (-e) : ℚ) ≠ 0 := by exact_mod_cast (power_pos (-e)).ne'
  push_cast
  rw [power_eq_mul e, zpow_neg]
  field_simp

/-- What a fraction is rounded to is off by half of its power of two at most. -/
theorem abs_roundingQuotient_sub_le (num : Nat) (hden : 0 < den) :
    let scaled := (num : ℚ) / den * 2 ^ (-roundingExponent num den)
    |(roundingQuotient num den : ℚ) - scaled| ≤ 1 / 2 ∧
      (|(roundingQuotient num den : ℚ) - scaled| = 1 / 2 → roundingQuotient num den % 2 = 0) := by
  have h := abs_roundedQuotient_sub_le (num * power 2 (-roundingExponent num den))
    (Nat.mul_pos hden (power_pos (roundingExponent num den)))
  rwa [quotient_eq] at h

/-- Rounded, a mantissa has at most one bit more than there are. -/
theorem roundingQuotient_le (hnum : num ≠ 0) (hden : 0 < den) :
    roundingQuotient num den ≤ 2 ^ 53 := by
  have hhalf := (abs_le.mp (abs_roundingQuotient_sub_le num hden).1).2
  have hexponent : binaryOrder num den + 1 + -roundingExponent num den ≤ 53 := by
    simp only [roundingExponent, precision]
    omega
  have hscaled : (num : ℚ) / den * 2 ^ (-roundingExponent num den) < 2 ^ (53 : ℤ) := by
    calc (num : ℚ) / den * 2 ^ (-roundingExponent num den)
        < 2 ^ (binaryOrder num den + 1) * 2 ^ (-roundingExponent num den) := by
          gcongr
          exact (two_zpow_binaryOrder hnum hden).2
      _ = 2 ^ (binaryOrder num den + 1 + -roundingExponent num den) :=
          (zpow_add₀ two_ne_zero _ _).symm
      _ ≤ 2 ^ (53 : ℤ) := zpow_le_zpow_right₀ one_le_two hexponent
  have hlt : (roundingQuotient num den : ℚ) < (2 ^ 53 + 1 : Nat) := by
    rw [zpow_ofNat] at hscaled
    push_cast
    linarith
  exact Nat.lt_succ_iff.mp (Nat.cast_lt.mp hlt)

/-- A number with a lower exponent lies below the power of two that the fraction reaches. -/
theorem lt_of_exponent_lt (hn : n < 2 ^ 53) (hf : minExponent ≤ f)
    (h : f < roundingExponent num den) (t : Bool) :
    rational t n f < 2 ^ binaryOrder num den ∧
      binaryOrder num den = 52 + roundingExponent num den := by
  have horder : binaryOrder num den = 52 + roundingExponent num den := by
    simp only [roundingExponent, precision] at h ⊢
    omega
  refine ⟨?_, horder⟩
  have hle : rational t n f ≤ n * 2 ^ f := by
    rw [rational]
    gcongr
    split
    · linarith [Nat.cast_nonneg (α := ℚ) n]
    · exact le_rfl
  calc rational t n f ≤ n * 2 ^ f := hle
    _ < 2 ^ (53 : ℤ) * 2 ^ f := by
        gcongr
        exact_mod_cast hn
    _ = 2 ^ (53 + f) := (zpow_add₀ two_ne_zero _ _).symm
    _ ≤ 2 ^ binaryOrder num den := zpow_le_zpow_right₀ one_le_two (by omega)

/-! ### The nearest number -/

/-- A number with a mantissa of 53 bits than which no other one is nearer to a rational number.
Where another one is as near, the mantissa is even. -/
structure IsNearest (s : Bool) (m : Nat) (e : Int) (x : ℚ) : Prop where
  mantissa : m < 2 ^ 53
  exponent : minExponent ≤ e
  nearest : ∀ t n f, n < 2 ^ 53 → minExponent ≤ f →
    |rational s m e - x| ≤ |rational t n f - x|
  even : ∀ t n f, n < 2 ^ 53 → minExponent ≤ f → |rational t n f - x| = |rational s m e - x| →
    rational t n f = rational s m e ∨ m % 2 = 0

/-- What is nearest to a number is, with the other sign, nearest to the opposite number. -/
theorem IsNearest.not (h : IsNearest s m e x) : IsNearest (!s) m e (-x) := by
  have hflip (t : Bool) (n : Nat) (f : Int) :
      |rational t n f - -x| = |rational (!t) n f - x| := by
    rw [rational_not, ← abs_neg]
    ring_nf
  refine ⟨h.mantissa, h.exponent, fun t n f hn hf ↦ ?_, fun t n f hn hf heq ↦ ?_⟩
  · rw [hflip, hflip, Bool.not_not]
    exact h.nearest _ n f hn hf
  · rw [hflip, hflip, Bool.not_not] at heq
    refine (h.even _ n f hn hf heq).imp_left fun hsame ↦ ?_
    rw [rational_not, ← hsame, rational_not, neg_neg]

/-- Among the multiples of the power of two of the result the nearest is chosen. -/
theorem abs_roundingQuotient_mul_sub_le (num : Nat) (hden : 0 < den) (j : ℤ) :
    let power := (2 : ℚ) ^ roundingExponent num den
    |roundingQuotient num den * power - num / den| ≤ |j * power - num / den| ∧
      (|j * power - num / den| = |roundingQuotient num den * power - num / den| →
        j = roundingQuotient num den ∨ roundingQuotient num den % 2 = 0) := by
  intro power
  have hpower : 0 < power := by positivity
  obtain ⟨hhalf, heven⟩ := abs_roundingQuotient_sub_le num hden
  rw [zpow_neg] at hhalf heven
  have hdistance (y : ℚ) : |y * power - num / den| = |y - num / den * power⁻¹| * power := by
    rw [← abs_of_pos hpower, ← abs_mul, abs_of_pos hpower, sub_mul,
      inv_mul_cancel_right₀ hpower.ne']
  obtain ⟨hle, heq⟩ := abs_sub_le_of_half (q := (roundingQuotient num den : ℤ)) (j := j)
    (by exact_mod_cast hhalf)
  rw [Int.cast_natCast] at hle heq
  rw [hdistance, hdistance, mul_le_mul_iff_of_pos_right hpower, mul_left_inj' hpower.ne']
  exact ⟨hle, fun h ↦ (heq h).imp_right heven⟩

/-- Of all numbers with a mantissa of 53 bits the result is nearest to the fraction. One with a
lower exponent is farther off than the power of two that the fraction reaches. -/
theorem nearest_roundingQuotient (hnum : num ≠ 0) (hden : 0 < den) (hn : n < 2 ^ 53)
    (hf : minExponent ≤ f) (t : Bool) :
    let result := (roundingQuotient num den : ℚ) * 2 ^ roundingExponent num den
    |result - num / den| ≤ |rational t n f - num / den| ∧
      (|rational t n f - num / den| = |result - num / den| →
        rational t n f = result ∨ roundingQuotient num den % 2 = 0) := by
  intro result
  rcases le_or_gt (roundingExponent num den) f with h | h
  · have hmultiple : rational t n f =
        scaled t n f (roundingExponent num den) * 2 ^ roundingExponent num den := by
      rw [scaled_eq t n h, zpow_neg, inv_mul_cancel_right₀ (by positivity)]
    obtain ⟨hle, heq⟩ := abs_roundingQuotient_mul_sub_le num hden
      (scaled t n f (roundingExponent num den))
    rw [hmultiple]
    refine ⟨hle, fun h ↦ (heq h).imp_left fun hsame ↦ ?_⟩
    rw [hsame, Int.cast_natCast]
  · obtain ⟨hlt, horder⟩ := lt_of_exponent_lt hn hf h t
    have hreached := (two_zpow_binaryOrder hnum hden).1
    have hpower : ((2 ^ 52 : ℤ) : ℚ) * 2 ^ roundingExponent num den = 2 ^ binaryOrder num den := by
      rw [horder, zpow_add₀ two_ne_zero]
      norm_num
    have hle : |result - num / den| ≤ |(2 : ℚ) ^ binaryOrder num den - num / den| := by
      rw [← hpower]
      exact (abs_roundingQuotient_mul_sub_le num hden (2 ^ 52)).1
    have hfarther : |result - num / den| < |rational t n f - num / den| := by
      rw [abs_of_nonpos (sub_nonpos.mpr hreached)] at hle
      rw [abs_of_neg (sub_neg.mpr (hlt.trans_le hreached))]
      linarith
    exact ⟨hfarther.le, fun heq ↦ absurd heq hfarther.ne'⟩

/-- Half of the mantissa, with the next exponent, is the same value. -/
theorem two_pow_mul_two_zpow (e : Int) :
    ((2 ^ 52 : Nat) : ℚ) * 2 ^ (e + 1) = (2 ^ 53 : Nat) * 2 ^ e := by
  rw [zpow_add_one₀ two_ne_zero]
  push_cast
  ring

/-- The number that a fraction is rounded to: a mantissa with one bit too many is halved. -/
theorem ofFraction_eq_finite (hnum : num ≠ 0) (h : ofFraction s num den = .finite t m e) : t = s ∧
    (roundingQuotient num den = 2 ^ 53 ∧ m = 2 ^ 52 ∧ e = roundingExponent num den + 1 ∨
      roundingQuotient num den ≠ 2 ^ 53 ∧ m = roundingQuotient num den ∧
        e = roundingExponent num den) := by
  have hbits : power 2 precision = 2 ^ 53 := by decide
  have hhalf : power 2 (precision - 1) = 2 ^ 52 := by decide
  have hexponent : max minExponent (binaryOrder num den - (precision - 1)) =
    roundingExponent num den := rfl
  have hquotient : roundedQuotient (num * power 2 (-roundingExponent num den))
    (den * power 2 (roundingExponent num den)) = roundingQuotient num den := rfl
  rw [ofFraction, if_neg hnum] at h
  simp only [hexponent, hquotient, hbits, hhalf] at h
  by_cases hq : roundingQuotient num den = 2 ^ 53
  · simp only [if_pos hq] at h
    split at h
    · cases h
    · cases h
      exact ⟨rfl, .inl ⟨hq, rfl, rfl⟩⟩
  · simp only [if_neg hq] at h
    split at h
    · cases h
    · cases h
      exact ⟨rfl, .inr ⟨hq, rfl, rfl⟩⟩

/-- Zero is the nearest number to zero, with either sign. -/
theorem isNearest_zero (s : Bool) : IsNearest s 0 minExponent 0 := by
  have hzero : rational s 0 minExponent = 0 := by simp [rational]
  refine ⟨by decide, le_rfl, fun t n f _ _ ↦ ?_, fun t n f _ _ _ ↦ .inr rfl⟩
  rw [hzero, sub_zero, abs_zero]
  exact abs_nonneg _

/-- The number that a fraction is rounded to is nearest to it, unless it is infinite. -/
theorem isNearest_ofFraction (hden : 0 < den) (h : ofFraction s num den = .finite t m e) :
    IsNearest t m e (if s then -(num / den) else num / den) := by
  rcases eq_or_ne num 0 with rfl | hnum
  · obtain ⟨rfl, rfl, rfl⟩ : s = t ∧ 0 = m ∧ minExponent = e := by simpa [ofFraction] using h
    simpa using isNearest_zero s
  obtain ⟨rfl, hresult⟩ := ofFraction_eq_finite hnum h
  have hpositive : IsNearest false m e (num / den) := by
    have hvalue : rational false m e =
        roundingQuotient num den * 2 ^ roundingExponent num den := by
      rcases hresult with ⟨hq, rfl, rfl⟩ | ⟨-, rfl, rfl⟩
      · rw [hq, rational, if_neg (by decide), two_pow_mul_two_zpow]
      · rw [rational, if_neg (by decide)]
    have heven (hquotient : roundingQuotient num den % 2 = 0) : m % 2 = 0 := by
      rcases hresult with ⟨-, rfl, -⟩ | ⟨-, rfl, -⟩
      · decide
      · exact hquotient
    refine ⟨?_, ?_, fun t n f hn hf ↦ ?_, fun t n f hn hf heq ↦ ?_⟩
    · rcases hresult with ⟨-, rfl, -⟩ | ⟨hq, rfl, -⟩
      · decide
      · exact lt_of_le_of_ne (roundingQuotient_le hnum hden) hq
    · rcases hresult with ⟨-, -, rfl⟩ | ⟨-, -, rfl⟩ <;> simp only [roundingExponent] <;> omega
    · rw [hvalue]
      exact (nearest_roundingQuotient hnum hden hn hf t).1
    · rw [hvalue] at heq ⊢
      exact ((nearest_roundingQuotient hnum hden hn hf t).2 heq).imp_right heven
  cases t with
  | false => exact hpositive
  | true => exact hpositive.not

end ClusterDiagnosis.Double
