import ClusterDiagnosis.Number.Decimal
import Mathlib.Data.Nat.Digits.Defs

/-!
# Rows of digits

A row of digits stands for a number below the power of ten of its length (`valueOf_lt`). A number
that is written in decimal is read back digit by digit (`leadingDigits_append`, `valueOf_toDigits`),
and zeros in front of it do not change it.
-/

set_option autoImplicit false
set_option relaxedAutoImplicit false

namespace ClusterDiagnosis.Decimal

/-! ### Digits among characters -/

theorem between_of_isDigit {c : Char} (h : c.isDigit = true) : '0' ≤ c ∧ c ≤ '9' := by
  simpa [Char.isDigit, Char.le_def] using h

theorem toNat_of_isDigit {c : Char} (h : c.isDigit = true) : 48 ≤ c.toNat ∧ c.toNat ≤ 57 := by
  simpa [Char.isDigit, Char.le_def, UInt32.le_iff_toNat_le] using h

theorem asciiDigit?_of_isDigit {c : Char} (h : c.isDigit = true) :
    Text.asciiDigit? c = some (c.toNat - '0'.toNat) := by
  rw [Text.asciiDigit?, if_pos (between_of_isDigit h)]

theorem isDigit_toDigits (n : Nat) : ∀ c ∈ Nat.toDigits 10 n, c.isDigit = true :=
  fun _ hc ↦ Nat.isDigit_of_mem_toDigits (by decide) (by decide) hc

/-! ### What is read -/

/-- What is read as leading digits are digits. -/
theorem lt_of_mem_leadingDigits {cs : List Char} : ∀ d ∈ (leadingDigits cs).1, d < 10 := by
  induction cs with
  | nil => exact List.forall_mem_nil _
  | cons c cs ih =>
    rw [leadingDigits]
    cases hdigit : Text.asciiDigit? c with
    | none => exact List.forall_mem_nil _
    | some d =>
      refine List.forall_mem_cons.mpr ⟨?_, ih⟩
      unfold Text.asciiDigit? at hdigit
      split at hdigit
      · next hc =>
        obtain rfl := Option.some.inj hdigit
        have hle : c.toNat ≤ '9'.toNat := hc.2
        change c.toNat - 48 < 10
        change c.toNat ≤ 57 at hle
        omega
      · cases hdigit

/-- Digits are read to the last one, and then on in what follows. -/
theorem leadingDigits_append {cs : List Char} (h : ∀ c ∈ cs, c.isDigit = true)
    (rest : List Char) :
    leadingDigits (cs ++ rest) =
      (cs.map (·.toNat - '0'.toNat) ++ (leadingDigits rest).1, (leadingDigits rest).2) := by
  induction cs with
  | nil => rfl
  | cons c cs ih =>
    obtain ⟨hc, hcs⟩ := List.forall_mem_cons.mp h
    rw [List.cons_append, leadingDigits, asciiDigit?_of_isDigit hc, ih hcs]
    rfl

/-- A text of digits is read to its end. -/
theorem leadingDigits_of_isDigit {cs : List Char} (h : ∀ c ∈ cs, c.isDigit = true) :
    leadingDigits cs = (cs.map (·.toNat - '0'.toNat), []) := by
  simpa [leadingDigits] using leadingDigits_append h []

/-! ### What is meant -/

/-- A row of digits stands for less than the power of ten of its length. -/
theorem valueOf_lt {ds : List Nat} (h : ∀ d ∈ ds, d < 10) : valueOf ds < 10 ^ ds.length := by
  have hvalue : valueOf ds = Nat.ofDigits 10 ds.reverse := by
    rw [Nat.ofDigits_eq_foldr, List.foldr_reverse, valueOf]
    exact congrArg (List.foldl · 0 ds) (funext fun n ↦ funext fun d ↦ Nat.add_comm _ _)
  rw [hvalue, ← List.length_reverse]
  exact Nat.ofDigits_lt_base_pow_length (by decide) fun d hd ↦ h d (List.mem_reverse.mp hd)

/-- The decimal digits of a number have that number as their value. -/
theorem valueOf_toDigits (n : Nat) :
    valueOf ((Nat.toDigits 10 n).map (·.toNat - '0'.toNat)) = n := by
  rw [valueOf, List.foldl_map, ← Nat.ofDigitChars_eq_foldl]
  exact Nat.ofDigitChars_ten_toDigits

/-- Zeros in front of a number do not change it. -/
theorem valueOf_replicate_append (k : Nat) (ds : List Nat) :
    valueOf (List.replicate k 0 ++ ds) = valueOf ds := by
  induction k with
  | zero => rfl
  | succ k ih => exact ih

end ClusterDiagnosis.Decimal
