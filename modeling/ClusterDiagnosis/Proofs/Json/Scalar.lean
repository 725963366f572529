import ClusterDiagnosis.Json.Reader
import ClusterDiagnosis.Json.Writer
import ClusterDiagnosis.Proofs.Number.Digits
import Mathlib.Tactic.Common

/-!
# Strings and whole numbers in JSON text

What is written for a text is read as that text again, whatever characters it has
(`stringRest_flatMap_escaped`): a character is written as itself, as a short escape, as the escape
of its number, or as two escapes for the units of a surrogate pair, and one lemma for each of these
ways says that the reader takes it back. What is written for a whole number is read as that number
(`number?_toString`). Both are written in ASCII.
-/

set_option autoImplicit false
set_option relaxedAutoImplicit false

namespace ClusterDiagnosis.Json

open Decimal (toNat_of_isDigit isDigit_toDigits leadingDigits_of_isDigit valueOf_toDigits)

/-- Whether all characters are ASCII characters. -/
def IsAscii (cs : List Char) : Prop :=
  ∀ c ∈ cs, c.toNat < 0x80

theorem isAscii_append {as bs : List Char} : IsAscii (as ++ bs) ↔ IsAscii as ∧ IsAscii bs :=
  List.forall_mem_append

theorem isAscii_cons {c : Char} {cs : List Char} :
    IsAscii (c :: cs) ↔ c.toNat < 0x80 ∧ IsAscii cs :=
  List.forall_mem_cons

/-! ### Hexadecimal digits -/

/-- A hexadecimal digit is read as what it was written for. -/
theorem hexDigit?_digitChar {k : Nat} (h : k < 16) : Text.hexDigit? k.digitChar = some k := by
  revert k
  decide

theorem toNat_digitChar_lt {k : Nat} (h : k < 16) : k.digitChar.toNat < 0x80 := by
  revert k
  decide

/-- The digits of a number of four digits at most, with zeros in front: a digit is written as soon
as the number reaches its power of sixteen. -/
theorem hex_four {n : Nat} (h : n < 0x10000) :
    Literal.hex 4 n = [(n / 4096).digitChar, (n / 256 % 16).digitChar, (n / 16 % 16).digitChar,
      (n % 16).digitChar] := by
  have hnext {m : Nat} (hm : 16 ≤ m) :
      Nat.toDigits 16 m = Nat.toDigits 16 (m / 16) ++ [(m % 16).digitChar] :=
    Nat.toDigits_of_base_le (by decide) hm
  have hlast {m : Nat} (hm : m < 16) : Nat.toDigits 16 m = [m.digitChar] :=
    Nat.toDigits_of_lt_base hm
  have hzero {m : Nat} (hm : m = 0) : m.digitChar = '0' := by rw [hm]; rfl
  have h256 : n / 16 / 16 = n / 256 := Nat.div_div_eq_div_mul n 16 16
  have h4096 : n / 256 / 16 = n / 4096 := Nat.div_div_eq_div_mul n 256 16
  unfold Literal.hex
  by_cases h1 : n < 16
  · rw [hlast h1, hzero (by omega : n / 4096 = 0), hzero (by omega : n / 256 % 16 = 0),
      hzero (by omega : n / 16 % 16 = 0), Nat.mod_eq_of_lt h1]
    rfl
  rw [hnext (by omega)]
  by_cases h2 : n / 16 < 16
  · rw [hlast h2, hzero (by omega : n / 4096 = 0), hzero (by omega : n / 256 % 16 = 0),
      Nat.mod_eq_of_lt h2]
    rfl
  rw [hnext (by omega), h256]
  by_cases h3 : n / 256 < 16
  · rw [hlast h3, hzero (by omega : n / 4096 = 0), Nat.mod_eq_of_lt h3]
    rfl
  rw [hnext (by omega), h4096, hlast (by omega)]
  rfl

/-- Four hexadecimal digits are read as the number they spell. -/
theorem unit?_digitChars {a b c d : Nat} (ha : a < 16) (hb : b < 16) (hc : c < 16)
    (hd : d < 16) : unit? a.digitChar b.digitChar c.digitChar d.digitChar =
      some (((a * 16 + b) * 16 + c) * 16 + d) := by
  simp [unit?, hexDigit?_digitChar, ha, hb, hc, hd]

/-- The escape of a unit: four characters that stand for it, all of them ASCII. -/
theorem exists_unitEscape {n : Nat} (h : n < 0x10000) :
    ∃ a b c d, unitEscape n = ['\\', 'u', a, b, c, d] ∧ unit? a b c d = some n ∧
      IsAscii [a, b, c, d] := by
  refine ⟨_, _, _, _, by rw [unitEscape, hex_four h], ?_, ?_⟩
  · rw [unit?_digitChars (by omega) (by omega) (by omega) (by omega)]
    congr 1
    omega
  · simp only [isAscii_cons]
    exact ⟨toNat_digitChar_lt (by omega), toNat_digitChar_lt (by omega),
      toNat_digitChar_lt (by omega), toNat_digitChar_lt (by omega), List.forall_mem_nil _⟩

/-! ### Characters of a string -/

/-- A character put in front of what is read of a string. -/
def withFirst (c : Char) (read : Option (List Char × List Char)) :
    Option (List Char × List Char) :=
  read.map fun p ↦ (c :: p.1, p.2)

/-- A character that is not escaped is read as itself. -/
theorem stringRest_plain {c : Char} {r : List Char} (hquote : c ≠ '"') (hslash : c ≠ '\\')
    (h : 0x20 ≤ c.toNat) : stringRest (c :: r) = withFirst c (stringRest r) := by
  rw [stringRest]
  · simp only [hslash, decide_false, Bool.or_false, Nat.not_lt.mpr h, Bool.false_eq_true,
      if_false]
    rfl
  · exact hquote
  · exact fun _ _ _ _ _ hc ↦ absurd hc hslash
  · exact fun _ _ hc ↦ absurd hc hslash

/-- A short escape is read as the character it stands for. -/
theorem stringRest_short {c d : Char} {r : List Char} (hc : c ≠ 'u')
    (h : shortEscape? c = some d) :
    stringRest ('\\' :: c :: r) = withFirst d (stringRest r) := by
  rw [stringRest]
  · rw [h]
    rfl
  · exact fun _ _ _ _ _ hu ↦ absurd hu hc

/-- A unit that is no half of a surrogate pair is a character of its own. -/
theorem stringRest_unit {n : Nat} {r : List Char} (h : n < 0xD800 ∨ 0xE000 ≤ n)
    (hn : n < 0x10000) :
    stringRest (unitEscape n ++ r) = withFirst (Char.ofNat n) (stringRest r) := by
  obtain ⟨a, b, c, d, hesc, hunit, -⟩ := exists_unitEscape hn
  rw [hesc]
  simp only [List.cons_append, List.nil_append]
  rw [stringRest, hunit]
  have hsingle : (decide (n < 0xD800) || decide (0xE000 ≤ n)) = true := by simpa using h
  simp only [hsingle, if_true]
  rfl

/-- Two units of a surrogate pair are one character. -/
theorem stringRest_pair {n m : Nat} {r : List Char} (hn : 0xD800 ≤ n ∧ n < 0xDC00)
    (hm : 0xDC00 ≤ m ∧ m < 0xE000) :
    stringRest (unitEscape n ++ (unitEscape m ++ r)) =
      withFirst (Char.ofNat (0x10000 + (n - 0xD800) * 0x400 + (m - 0xDC00))) (stringRest r) := by
  obtain ⟨a, b, c, d, hesc, hunit, -⟩ := exists_unitEscape (n := n) (by omega)
  obtain ⟨e, f, g, h, hesc', hunit', -⟩ := exists_unitEscape (n := m) (by omega)
  rw [hesc, hesc']
  simp only [List.cons_append, List.nil_append]
  rw [stringRest, hunit]
  have hsingle : (decide (n < 0xD800) || decide (0xE000 ≤ n)) = false := by
    simp only [Bool.or_eq_false_iff, decide_eq_false_iff_not]
    omega
  have hpair : (decide (n < 0xDC00) && decide (0xDC00 ≤ m) && decide (m < 0xE000)) = true := by
    simp only [Bool.and_eq_true, decide_eq_true_eq]
    omega
  simp only [hsingle, hunit', hpair, Bool.false_eq_true, if_false, if_true]
  rfl

/-- A character of the first plane is no half of a surrogate pair. -/
theorem not_surrogate_toNat {c : Char} (h : c.toNat < 0x10000) :
    c.toNat < 0xD800 ∨ 0xE000 ≤ c.toNat := by
  have hvalid : c.toNat.isValidChar := c.valid
  unfold Nat.isValidChar at hvalid
  omega

/-- The units of a character beyond the first plane, put together again. -/
theorem ofNat_surrogates {c : Char} (h : 0x10000 ≤ c.toNat) :
    let n := 0xD800 + (c.toNat - 0x10000) / 0x400
    let m := 0xDC00 + (c.toNat - 0x10000) % 0x400
    (0xD800 ≤ n ∧ n < 0xDC00) ∧ (0xDC00 ≤ m ∧ m < 0xE000) ∧
      Char.ofNat (0x10000 + (n - 0xD800) * 0x400 + (m - 0xDC00)) = c := by
  intro n m
  have hvalid : c.toNat.isValidChar := c.valid
  unfold Nat.isValidChar at hvalid
  have htogether : 0x10000 + (n - 0xD800) * 0x400 + (m - 0xDC00) = c.toNat := by omega
  exact ⟨by omega, by omega, by rw [htogether, Char.ofNat_toNat]⟩

/-- What is written for a character is read as that character: seven have a short escape, and the
others stand as they are or as units. -/
theorem stringRest_escaped (c : Char) (r : List Char) :
    stringRest (escaped c ++ r) = withFirst c (stringRest r) := by
  unfold escaped
  split
  iterate 7 exact stringRest_short (by decide) rfl
  next hquote hslash _ _ _ _ _ =>
    dsimp only
    split
    · next hplain =>
      simp only [Bool.and_eq_true, decide_eq_true_eq] at hplain
      exact stringRest_plain hquote hslash hplain.1
    · split
      · next hfirst =>
        rw [stringRest_unit (not_surrogate_toNat hfirst) hfirst, Char.ofNat_toNat]
      · next hfirst =>
        obtain ⟨hn, hm, hc⟩ := ofNat_surrogates (Nat.not_lt.mp hfirst)
        rw [List.append_assoc, stringRest_pair hn hm, hc]

/-- What is written for a text is read as that text, whatever follows. -/
theorem stringRest_flatMap_escaped (cs rest : List Char) :
    stringRest (cs.flatMap escaped ++ '"' :: rest) = some (cs, rest) := by
  induction cs with
  | nil => rw [List.flatMap_nil, List.nil_append, stringRest]
  | cons c cs ih =>
    rw [List.flatMap_cons, List.append_assoc, stringRest_escaped, ih]
    rfl

/-- An escaped unit is ASCII. -/
theorem isAscii_unitEscape {n : Nat} (h : n < 0x10000) : IsAscii (unitEscape n) := by
  obtain ⟨a, b, c, d, hesc, -, hascii⟩ := exists_unitEscape h
  rw [hesc]
  exact isAscii_cons.mpr ⟨by decide, isAscii_cons.mpr ⟨by decide, hascii⟩⟩

/-- Every character is escaped to ASCII. -/
theorem isAscii_escaped (c : Char) : IsAscii (escaped c) := by
  unfold escaped
  split
  iterate 7 exact by simp [IsAscii]
  dsimp only
  split
  · next hplain =>
    simp only [Bool.and_eq_true, decide_eq_true_eq] at hplain
    exact isAscii_cons.mpr ⟨Nat.lt_of_le_of_lt hplain.2 (by decide), List.forall_mem_nil _⟩
  · split
    · next hfirst => exact isAscii_unitEscape hfirst
    · next hfirst =>
      obtain ⟨hn, hm, -⟩ := ofNat_surrogates (Nat.not_lt.mp hfirst)
      exact isAscii_append.mpr
        ⟨isAscii_unitEscape (by omega), isAscii_unitEscape (by omega)⟩

/-- Every text is written in ASCII. -/
theorem isAscii_string (s : String) : IsAscii (string s) := by
  have hinner : IsAscii (s.toList.flatMap escaped) := by
    intro c hc
    obtain ⟨d, -, hc⟩ := List.mem_flatMap.mp hc
    exact isAscii_escaped d c hc
  exact isAscii_cons.mpr ⟨by decide, isAscii_append.mpr ⟨hinner, by simp [IsAscii]⟩⟩

/-! ### Whole numbers -/

/-- Only zero is written with a zero in front. -/
theorem head?_toDigits {n : Nat} (h : 0 < n) : ∀ c ∈ (Nat.toDigits 10 n).head?, c ≠ '0' := by
  induction n using Nat.strongRecOn with
  | ind n ih =>
    intro c hc
    by_cases hn : n < 10
    · rw [Nat.toDigits_of_lt_base hn] at hc
      obtain rfl := Option.some.inj hc
      rw [ne_eq, Nat.digitChar_eq_zero]
      omega
    · have hhead := List.head?_eq_some_head (Nat.toDigits_ne_nil (b := 10) (n := n / 10))
      rw [Nat.toDigits_of_base_le (by decide) (Nat.not_lt.mp hn), List.head?_append, hhead,
        Option.some_or, ← hhead] at hc
      exact ih (n / 10) (by omega) (by omega) c hc

/-- A number above zero is read digit by digit, and its first digit is not zero. -/
theorem exists_leadingDigits {n : Nat} (h : 0 < n) :
    ∃ d ds, Decimal.leadingDigits (Nat.toDigits 10 n) = (d :: ds, []) ∧ d ≠ 0 ∧
      Decimal.valueOf (d :: ds) = n := by
  have hread := leadingDigits_of_isDigit (isDigit_toDigits n)
  have hvalue := valueOf_toDigits n
  obtain ⟨c, cs, hcs⟩ := List.exists_cons_of_ne_nil (Nat.toDigits_ne_nil (b := 10) (n := n))
  have hzero : c ≠ '0' := head?_toDigits h c (by rw [hcs]; rfl)
  have hdigit : c.isDigit = true := isDigit_toDigits n c (by rw [hcs]; exact List.mem_cons_self)
  rw [hcs, List.map_cons] at hread hvalue
  rw [hcs]
  refine ⟨_, _, hread, ?_, hvalue⟩
  intro hdifference
  apply hzero
  have hbounds := toNat_of_isDigit hdigit
  have hcode : c.toNat = '0'.toNat := by
    have h0 : '0'.toNat = 48 := rfl
    omega
  exact Char.toNat_inj.mp hcode

/-- A natural number is read back from its decimal digits, before which there is no sign to take
off. -/
theorem wholeNumber?_toDigits (n : Nat) : wholeNumber? (Nat.toDigits 10 n) = some (n : Int) := by
  rcases Nat.eq_zero_or_pos n with rfl | hn
  · rfl
  · obtain ⟨d, ds, hread, hd, hvalue⟩ := exists_leadingDigits hn
    rw [wholeNumber?, hread]
    · split
      · next heq =>
        cases heq
        exact absurd rfl hd
      · next heq =>
        cases heq
        rw [if_neg hd, hvalue]
        rfl
      · next _ hother => exact absurd rfl (hother d ds)
    · intro r hr
      have hminus := isDigit_toDigits n '-' (by rw [hr]; exact List.mem_cons_self)
      exact absurd hminus (by decide)

/-- A negative number is read back from its digits behind a minus sign. -/
theorem wholeNumber?_minus {n : Nat} (hn : 0 < n) :
    wholeNumber? ('-' :: Nat.toDigits 10 n) = some (-(n : Int)) := by
  obtain ⟨d, ds, hread, hd, hvalue⟩ := exists_leadingDigits hn
  rw [wholeNumber?, hread]
  split
  · next heq =>
    cases heq
    exact absurd rfl hd
  · next heq =>
    cases heq
    rw [if_neg hd, hvalue]
    rfl
  · next _ hother => exact absurd rfl (hother d ds)

/-- A whole number is written as its digits, behind a sign if it is below zero. -/
theorem toList_toString (n : Int) :
    (toString n).toList =
      if 0 ≤ n then Nat.toDigits 10 n.toNat else '-' :: Nat.toDigits 10 (-n).toNat := by
  rw [Int.toString_eq_repr, Int.repr_eq_if]
  split
  · rw [Nat.repr_eq_ofList_toDigits, String.toList_ofList]
  · simp only [Nat.repr_eq_ofList_toDigits, String.toList_append, String.toList_ofList]
    rfl

/-- A whole number is read back from its text. -/
theorem wholeNumber?_toString (n : Int) : wholeNumber? (toString n).toList = some n := by
  rw [toList_toString]
  split
  · next h => rw [wholeNumber?_toDigits, Int.toNat_of_nonneg h]
  · next h => rw [wholeNumber?_minus (by omega), Int.toNat_of_nonneg (by omega), Int.neg_neg]

/-- The characters of a whole number. -/
def isWholeChar (c : Char) : Bool :=
  c.isDigit || c == '-'

/-- A whole number is written with digits and a minus sign. -/
theorem isWholeChar_toString (n : Int) : ∀ c ∈ (toString n).toList, isWholeChar c = true := by
  have hdigits (m : Nat) : ∀ c ∈ Nat.toDigits 10 m, isWholeChar c = true := by
    intro c hc
    rw [isWholeChar, isDigit_toDigits m c hc, Bool.true_or]
  rw [toList_toString]
  split
  · exact hdigits _
  · exact List.forall_mem_cons.mpr ⟨rfl, hdigits _⟩

/-- The codes of digits and of the minus sign. -/
theorem toNat_of_isWholeChar {c : Char} (h : isWholeChar c = true) :
    c.toNat = 45 ∨ 48 ≤ c.toNat ∧ c.toNat ≤ 57 := by
  rw [isWholeChar, Bool.or_eq_true, beq_iff_eq] at h
  rcases h with hdigit | rfl
  · exact .inr (toNat_of_isDigit hdigit)
  · exact .inl rfl

/-- A whole number is read back as such, and not as a fraction. -/
theorem number?_toString (n : Int) : number? (toString n).toList = some (.int n) := by
  have hwhole : ((toString n).toList.any fun c ↦ c == '.' || c == 'e' || c == 'E') = false := by
    rw [List.any_eq_false]
    intro c hc
    have hcode := toNat_of_isWholeChar (isWholeChar_toString n c hc)
    simp only [Bool.or_eq_true, beq_iff_eq]
    rintro ((rfl | rfl) | rfl)
    all_goals
      revert hcode
      decide
  unfold number?
  rw [hwhole, wholeNumber?_toString]
  rfl

end ClusterDiagnosis.Json
