import ClusterDiagnosis.Yaml.Source
import Mathlib.Tactic.Common

/-!
# UTF-8 in pieces

Bytes that are UTF-8 may be cut anywhere: what stands in front of the cut is UTF-8 and then at most
a part of one character (`exists_cut`), which is what the reading of a chunk counts on
(`decode?_ne_none`). What is behind the characters of the chunk is UTF-8 again
(`IsUtf8.of_append`).
-/

set_option autoImplicit false
set_option relaxedAutoImplicit false

namespace ClusterDiagnosis.Yaml

variable {bytes front back part : List UInt8} {cs : List Char}

/-- The bytes of characters. -/
def encoded (cs : List Char) : List UInt8 :=
  cs.flatMap String.utf8EncodeChar

/-- Bytes that are those of characters. -/
def IsUtf8 (bytes : List UInt8) : Prop :=
  ∃ cs, bytes = encoded cs

theorem mk_toArray (bytes : List UInt8) : ByteArray.mk bytes.toArray = bytes.toByteArray :=
  ByteArray.ext List.data_toByteArray.symm

theorem isValidUTF8_iff : (ByteArray.mk bytes.toArray).IsValidUTF8 ↔ IsUtf8 bytes := by
  rw [mk_toArray]
  constructor
  · rintro ⟨ds, hds⟩
    exact ⟨ds, List.toByteArray_inj.mp hds⟩
  · rintro ⟨ds, rfl⟩
    exact ⟨ds, rfl⟩

/-- Bytes are decoded unless they are no text in the encoding. -/
theorem fromUTF8?_eq_none_iff : String.fromUTF8? ⟨bytes.toArray⟩ = none ↔ ¬IsUtf8 bytes := by
  rw [← isValidUTF8_iff, String.fromUTF8?]
  split <;> simp_all

namespace IsUtf8

theorem nil : IsUtf8 [] :=
  ⟨[], rfl⟩

theorem append (hfront : IsUtf8 front) (hback : IsUtf8 back) : IsUtf8 (front ++ back) := by
  obtain ⟨cs, rfl⟩ := hfront
  obtain ⟨ds, rfl⟩ := hback
  exact ⟨cs ++ ds, List.flatMap_append.symm⟩

theorem of_append_char {c : Char} (h : IsUtf8 (String.utf8EncodeChar c ++ back)) :
    IsUtf8 back := by
  rw [← isValidUTF8_iff, mk_toArray, List.toByteArray_append, ← List.utf8Encode_singleton,
    ByteArray.isValidUTF8_utf8Encode_singleton_append_iff, ← mk_toArray, isValidUTF8_iff] at h
  exact h

/-- What stands behind characters is UTF-8 if all of it is. -/
theorem of_append (h : IsUtf8 (front ++ back)) (hfront : IsUtf8 front) : IsUtf8 back := by
  obtain ⟨cs, rfl⟩ := hfront
  induction cs with
  | nil => exact h
  | cons c cs ih =>
    rw [encoded, List.flatMap_cons, List.append_assoc] at h
    exact ih h.of_append_char

end IsUtf8

/-! ### Parts of characters -/

theorem isFollower_ofNat {b : Nat} (hb : 0x80 ≤ b ∧ b ≤ 0xBF) :
    Utf8.isFollower (UInt8.ofNat b) = true := by
  simp only [Utf8.isFollower, UInt8.le_iff_toNat_le, UInt8.toNat_ofNat', Bool.and_eq_true,
    decide_eq_true_eq]
  simp
  omega

theorem isStart_ofNat {a b : Nat} (ha : a < 256) (hb : 0x80 ≤ b ∧ b ≤ 0xBF)
    (hfirst : (a = 0xE0 → 0xA0 ≤ b) ∧ (a = 0xED → b < 0xA0) ∧ (a = 0xF0 → 0x90 ≤ b) ∧
      (a = 0xF4 → b < 0x90)) :
    Utf8.isStart (UInt8.ofNat a) (UInt8.ofNat b) = true := by
  rw [Utf8.isStart, isFollower_ofNat hb]
  simp [UInt8.le_iff_toNat_le, UInt8.lt_iff_toNat_lt, ← UInt8.toNat_inj]
  omega

theorem isOpen_one {a : Nat} (ha : 0xC2 ≤ a ∧ a ≤ 0xF4) : Utf8.isOpen [UInt8.ofNat a] = true := by
  simp [Utf8.isOpen, UInt8.le_iff_toNat_le]
  omega

theorem isOpen_two {a b : Nat} (ha : 0xE0 ≤ a ∧ a ≤ 0xF4)
    (hstart : Utf8.isStart (UInt8.ofNat a) (UInt8.ofNat b) = true) :
    Utf8.isOpen [UInt8.ofNat a, UInt8.ofNat b] = true := by
  simp [Utf8.isOpen, hstart, UInt8.le_iff_toNat_le]
  omega

theorem isOpen_three {a b c : Nat} (ha : 0xF0 ≤ a ∧ a ≤ 0xF4)
    (hstart : Utf8.isStart (UInt8.ofNat a) (UInt8.ofNat b) = true) (hc : 0x80 ≤ c ∧ c ≤ 0xBF) :
    Utf8.isOpen [UInt8.ofNat a, UInt8.ofNat b, UInt8.ofNat c] = true := by
  simp [Utf8.isOpen, hstart, isFollower_ofNat hc, UInt8.le_iff_toNat_le]
  omega

/-- The first bytes of a character, but not all, are a part of one: the cases are the numbers of
bytes that a character takes. -/
theorem isOpen_take {c : Char} {n : Nat} (hn : 0 < n)
    (hlength : n < (String.utf8EncodeChar c).length) :
    Utf8.isOpen ((String.utf8EncodeChar c).take n) = true := by
  have hvalid : c.val.toNat < 0xD800 ∨ 0xDFFF < c.val.toNat ∧ c.val.toNat < 0x110000 := c.valid
  unfold String.utf8EncodeChar at hlength ⊢
  generalize c.val.toNat = v at hvalid hlength ⊢
  dsimp only at hlength ⊢
  split at hlength
  · simp only [List.length_cons, List.length_nil] at hlength
    omega
  · next hone =>
    split at hlength
    · next htwo =>
      rw [if_neg hone, if_pos htwo]
      obtain rfl : n = 1 := by
        simp only [List.length_cons, List.length_nil] at hlength
        omega
      exact isOpen_one (by omega)
    · next htwo =>
      split at hlength
      · next hthree =>
        rw [if_neg hone, if_neg htwo, if_pos hthree]
        obtain rfl | rfl : n = 1 ∨ n = 2 := by
          simp only [List.length_cons, List.length_nil] at hlength
          omega
        · exact isOpen_one (by omega)
        · exact isOpen_two (by omega) (isStart_ofNat (by omega) (by omega) (by omega))
      · next hthree =>
        rw [if_neg hone, if_neg htwo, if_neg hthree]
        obtain rfl | rfl | rfl : n = 1 ∨ n = 2 ∨ n = 3 := by
          simp only [List.length_cons, List.length_nil] at hlength
          omega
        · exact isOpen_one (by omega)
        · exact isOpen_two (by omega) (isStart_ofNat (by omega) (by omega) (by omega))
        · exact isOpen_three (by omega) (isStart_ofNat (by omega) (by omega) (by omega)) (by omega)

/-! ### Cuts -/

/-- In front of a cut there are characters and then at most a part of one. By induction on the
characters: the cut is behind the first one or in it. -/
theorem IsUtf8.exists_cut (h : IsUtf8 (front ++ back)) : ∃ whole part,
    front = whole ++ part ∧ IsUtf8 whole ∧ (part = [] ∨ Utf8.isOpen part = true) := by
  obtain ⟨cs, hcs⟩ := h
  induction cs generalizing front with
  | nil =>
    obtain ⟨rfl, -⟩ := List.append_eq_nil_iff.mp hcs
    exact ⟨[], [], rfl, .nil, .inl rfl⟩
  | cons c cs ih =>
    rw [encoded, List.flatMap_cons] at hcs
    rcases List.append_eq_append_iff.mp hcs with ⟨others, hchar, -⟩ | ⟨others, rfl, hothers⟩
    · by_cases hfront : front = []
      · exact ⟨[], [], hfront, .nil, .inl rfl⟩
      by_cases hbehind : others = []
      · rw [hbehind, List.append_nil] at hchar
        exact ⟨front, [], (List.append_nil front).symm, ⟨[c], by simp [encoded, hchar]⟩, .inl rfl⟩
      · refine ⟨[], front, rfl, .nil, .inr ?_⟩
        have htake : front = (String.utf8EncodeChar c).take front.length := by
          rw [hchar, List.take_left]
        rw [htake]
        refine isOpen_take (List.length_pos_iff.mpr hfront) ?_
        rw [hchar, List.length_append]
        have := List.length_pos_iff.mpr hbehind
        omega
    · obtain ⟨whole, part, rfl, hwhole, hpart⟩ := ih hothers.symm
      refine ⟨String.utf8EncodeChar c ++ whole, part, (List.append_assoc _ _ _).symm, ?_, hpart⟩
      exact .append ⟨[c], (List.flatMap_singleton _ _).symm⟩ hwhole

namespace Utf8

/-- An unfinished character has three bytes at most. -/
theorem isOpen_length_le (h : isOpen part = true) : part.length ≤ 3 := by
  unfold isOpen at h
  split at h <;> simp_all

/-- A text and an unfinished character behind it are told apart. -/
theorem splitAt?_append (hfront : IsUtf8 front) (hpart : part = [] ∨ isOpen part = true) :
    ∃ cs, splitAt? (front ++ part) part.length = some (cs, part) := by
  obtain ⟨s, hs⟩ : ∃ s, String.fromUTF8? ⟨front.toArray⟩ = some s :=
    Option.ne_none_iff_exists'.mp (fromUTF8?_eq_none_iff.not_left.mpr hfront)
  refine ⟨s.toList, ?_⟩
  rw [splitAt?, List.length_append, Nat.add_sub_cancel]
  rw [List.drop_left, List.take_left, hs, if_pos (by simpa using hpart)]
  rfl

/-- Bytes that are UTF-8 have no part of a character at their end. -/
theorem decode?_of_isUtf8 (h : IsUtf8 bytes) : ∃ cs, decode? bytes = some (cs, []) := by
  obtain ⟨cs, hcs⟩ : ∃ cs, splitAt? (bytes ++ []) 0 = some (cs, []) :=
    splitAt?_append h (.inl rfl)
  rw [List.append_nil] at hcs
  exact ⟨cs, by rw [decode?, List.findSome?_cons, hcs]⟩

/-- What stands in front of a cut can be read. -/
theorem decode?_ne_none (h : IsUtf8 (front ++ back)) : decode? front ≠ none := by
  obtain ⟨whole, part, rfl, hwhole, hpart⟩ := h.exists_cut
  obtain ⟨cs, hcs⟩ := splitAt?_append hwhole hpart
  intro hnone
  have hlength : part.length ∈ [0, 1, 2, 3] := by
    simp only [List.mem_cons, List.not_mem_nil, or_false]
    rcases hpart with rfl | hopen
    · exact .inl rfl
    · have := isOpen_length_le hopen
      omega
  rw [List.findSome?_eq_none_iff.mp hnone _ hlength] at hcs
  cases hcs

/-- The characters that are read stand in front of the part that is not. -/
theorem exists_of_decode? (h : decode? bytes = some (cs, part)) :
    ∃ whole, bytes = whole ++ part ∧ IsUtf8 whole := by
  obtain ⟨lacking, -, hsplit⟩ := List.exists_of_findSome?_eq_some h
  unfold splitAt? at hsplit
  dsimp only at hsplit
  split at hsplit
  · obtain ⟨s, hs, hpair⟩ := Option.map_eq_some_iff.mp hsplit
    cases hpair
    refine ⟨bytes.take (bytes.length - lacking), (List.take_append_drop _ _).symm, ?_⟩
    by_contra hnot
    rw [fromUTF8?_eq_none_iff.mpr hnot] at hs
    cases hs
  · cases hsplit

end Utf8

end ClusterDiagnosis.Yaml
