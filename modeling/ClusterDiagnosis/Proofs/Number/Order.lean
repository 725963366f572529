import ClusterDiagnosis.Number.Double
import Mathlib.Tactic.Common

/-!
# The order of floating point numbers

Finite numbers are compared as multiples of a power of two, and every power that is low enough gives
the same answer (`lt_finite`). So the order is that of whole numbers: nothing is below a number and
above it at once (`lt_asymm`), and of two numbers with one below the other, every further number is
above the one or below the other (`lt_or_lt_of_lt`). All else follows from these two. A `nan` has no
place in the order; it is neither above nor below anything.
-/

set_option autoImplicit false
set_option relaxedAutoImplicit false

namespace ClusterDiagnosis.Double

/-! ### Multiples of powers of two -/

/-- Powers of two with exponents that are not negative multiply by adding these. -/
theorem power_add {i j : Int} (hi : 0 ≤ i) (hj : 0 ≤ j) :
    power 2 (i + j) = power 2 i * power 2 j := by
  rw [power, Int.toNat_add hi hj]
  exact Nat.pow_add 2 i.toNat j.toNat

theorem power_pos (e : Int) : 0 < power 2 e :=
  Nat.pow_pos (by decide)

/-- A lower power of two is contained in a number more often. -/
theorem scaled_lower (s : Bool) (m : Nat) {e least lower : Int} (he : least ≤ e)
    (h : lower ≤ least) :
    scaled s m e lower = scaled s m e least * power 2 (least - lower) := by
  have hsplit : e - lower = (e - least) + (least - lower) := by omega
  simp only [scaled, hsplit, power_add (Int.sub_nonneg_of_le he) (Int.sub_nonneg_of_le h),
    Int.natCast_mul]
  split
  · rw [← Int.mul_assoc, Int.neg_mul]
  · rw [← Int.mul_assoc]

/-- Finite numbers are in the order of their multiples of any power of two that is low enough. -/
theorem lt_finite {s t : Bool} {m n : Nat} {e f least : Int} (he : least ≤ e) (hf : least ≤ f) :
    lt (.finite s m e) (.finite t n f) = true ↔ scaled s m e least < scaled t n f least := by
  have hlower : least ≤ min e f := Int.le_min.mpr ⟨he, hf⟩
  have hpos : (0 : Int) < power 2 (min e f - least) := Int.natCast_pos.mpr (power_pos _)
  rw [scaled_lower s m (Int.min_le_left e f) hlower, scaled_lower t n (Int.min_le_right e f) hlower,
    Int.mul_lt_mul_right hpos]
  exact decide_eq_true_iff

/-! ### The order -/

variable {a b c : Double}

theorem lt_asymm (h : lt a b = true) : lt b a = false := by
  rw [Bool.eq_false_iff]
  intro h'
  cases a with
  | nan => cases h
  | infinity s =>
    cases b with
    | nan => cases h
    | infinity t => revert h h'; cases s <;> cases t <;> simp [lt]
    | finite t n f => revert h h'; cases s <;> simp [lt]
  | finite s m e =>
    cases b with
    | nan => cases h
    | infinity t => revert h h'; cases t <;> simp [lt]
    | finite t n f =>
      have hbelow := (lt_finite (Int.min_le_left e f) (Int.min_le_right e f)).mp h
      have habove := (lt_finite (Int.min_le_right e f) (Int.min_le_left e f)).mp h'
      omega

/-- Every number is above the lower or below the upper of two numbers. Finite ones are compared as
whole numbers, at a power of two that is low enough for all three. -/
theorem lt_or_lt_of_lt (hb : b ≠ .nan) (h : lt a c = true) : lt a b = true ∨ lt b c = true := by
  cases a with
  | nan => cases h
  | infinity s =>
    cases c with
    | nan => cases h
    | infinity t =>
      cases b with
      | nan => exact absurd rfl hb
      | infinity u => revert h; cases s <;> cases t <;> cases u <;> simp [lt]
      | finite u k g => revert h; cases s <;> cases t <;> simp [lt]
    | finite t n f =>
      cases b with
      | nan => exact absurd rfl hb
      | infinity u => revert h; cases s <;> cases u <;> simp [lt]
      | finite u k g => revert h; cases s <;> simp [lt]
  | finite s m e =>
    cases c with
    | nan => cases h
    | infinity t =>
      cases b with
      | nan => exact absurd rfl hb
      | infinity u => revert h; cases t <;> cases u <;> simp [lt]
      | finite u k g => revert h; cases t <;> simp [lt]
    | finite t n f =>
      cases b with
      | nan => exact absurd rfl hb
      | infinity u => cases u <;> simp [lt]
      | finite u k g =>
        have he : min e (min f g) ≤ e := by omega
        have hf : min e (min f g) ≤ f := by omega
        have hg : min e (min f g) ≤ g := by omega
        rw [lt_finite he hf] at h
        rw [lt_finite he hg, lt_finite hg hf]
        omega

theorem lt_irrefl (a : Double) : lt a a = false := by
  rw [Bool.eq_false_iff]
  intro h
  rw [lt_asymm h] at h
  cases h

/-- Numbers are equal if neither is below the other. -/
theorem eqv_eq (ha : a ≠ .nan) (hb : b ≠ .nan) : eqv a b = (!lt a b && !lt b a) := by
  cases a with
  | nan => exact absurd rfl ha
  | infinity s => cases b with
    | nan => exact absurd rfl hb
    | infinity t => rfl
    | finite t n f => rfl
  | finite s m e => cases b with
    | nan => exact absurd rfl hb
    | infinity t => rfl
    | finite t n f => rfl

/-- A number is at most another one unless it is above it. -/
theorem le_iff_not_lt (ha : a ≠ .nan) (hb : b ≠ .nan) : le a b = true ↔ lt b a = false := by
  rw [le, eqv_eq ha hb]
  cases hab : lt a b with
  | true => simp [lt_asymm hab]
  | false => simp

theorem le_refl (ha : a ≠ .nan) : le a a = true :=
  (le_iff_not_lt ha ha).mpr (lt_irrefl a)

theorem le_of_lt (h : lt a b = true) : le a b = true := by
  rw [le, h, Bool.true_or]

theorem ne_nan_of_lt_left (h : lt a b = true) : a ≠ .nan := by
  rintro rfl
  cases h

theorem ne_nan_of_lt_right (h : lt a b = true) : b ≠ .nan := by
  rintro rfl
  cases a <;> cases h

/-- The order of numbers is transitive; a value that is no number breaks it. -/
theorem le_trans (ha : a ≠ .nan) (hb : b ≠ .nan) (hc : c ≠ .nan) (hab : le a b = true)
    (hbc : le b c = true) : le a c = true := by
  rw [le_iff_not_lt ha hb] at hab
  rw [le_iff_not_lt hb hc] at hbc
  rw [le_iff_not_lt ha hc, Bool.eq_false_iff]
  intro hca
  rcases lt_or_lt_of_lt hb hca with h | h
  · rw [h] at hbc
    cases hbc
  · rw [h] at hab
    cases hab

/-! ### The lesser and the greater of two numbers -/

theorem maxOf_ne_nan (ha : a ≠ .nan) : maxOf a b ≠ .nan := by
  rw [maxOf]
  split
  · next h => exact ne_nan_of_lt_right h
  · exact ha

theorem minOf_ne_nan (ha : a ≠ .nan) : minOf a b ≠ .nan := by
  rw [minOf]
  split
  · next h => exact ne_nan_of_lt_left h
  · exact ha

theorem le_maxOf_left (ha : a ≠ .nan) : le a (maxOf a b) = true := by
  rw [maxOf]
  split
  · next h => exact le_of_lt h
  · exact le_refl ha

theorem le_maxOf_right (ha : a ≠ .nan) (hb : b ≠ .nan) : le b (maxOf a b) = true := by
  rw [maxOf]
  split
  · exact le_refl hb
  · next h => exact (le_iff_not_lt hb ha).mpr (Bool.eq_false_iff.mpr h)

theorem minOf_le_left (ha : a ≠ .nan) : le (minOf a b) a = true := by
  rw [minOf]
  split
  · next h => exact le_of_lt h
  · exact le_refl ha

theorem minOf_le_right (ha : a ≠ .nan) (hb : b ≠ .nan) : le (minOf a b) b = true := by
  rw [minOf]
  split
  · exact le_refl hb
  · next h => exact (le_iff_not_lt ha hb).mpr (Bool.eq_false_iff.mpr h)

/-- The greater of two numbers is at most what both are at most. -/
theorem maxOf_le (ha : le a c = true) (hb : le b c = true) : le (maxOf a b) c = true := by
  rw [maxOf]
  split
  · exact hb
  · exact ha

end ClusterDiagnosis.Double
