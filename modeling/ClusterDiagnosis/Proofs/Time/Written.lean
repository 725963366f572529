import ClusterDiagnosis.Proofs.Number.Digits
import ClusterDiagnosis.Proofs.Time.Timestamp
import ClusterDiagnosis.Time.Iso
import Mathlib.Data.List.Basic

/-!
# The written form of a point in time is read back

Each field of the written form has its full width, so the reader takes it apart at the places where
the writer put it together (`Fits`), with or without a fraction of a second and with an offset of
either sign. A point in time that a clock can show, on a clock without offset or with one of whole
minutes, is therefore read back as it was (`parse?_text`).
-/

set_option autoImplicit false
set_option relaxedAutoImplicit false

namespace ClusterDiagnosis

/-- A point in time that a clock can show: the calendar has its day, and the clock its time. -/
structure DateTime.IsReal (t : DateTime) : Prop where
  date : t.date.isReal = true
  hour : 0 ≤ t.hour ∧ t.hour < 24
  minute : 0 ≤ t.minute ∧ t.minute < 60
  second : 0 ≤ t.second ∧ t.second < 60
  micro : Iso.IsFraction t.micro

namespace Iso

/-- An offset of whole minutes, less than a day. -/
def IsMinutes (offset : Int) : Prop :=
  60000000 ∣ offset ∧ offset.natAbs < 86400000000

instance (offset : Int) : Decidable (IsMinutes offset) :=
  inferInstanceAs (Decidable (_ ∧ _))

/-! ### Fields of full width -/

theorem isDigit_padded (width n : Nat) : ∀ c ∈ padded width n, c.isDigit = true := by
  intro c hc
  rcases List.mem_append.mp hc with hc | hc
  · rw [List.eq_of_mem_replicate hc]
    rfl
  · exact Decimal.isDigit_toDigits n c hc

/-- A padded number has its value. -/
theorem valueOf_padded (width n : Nat) :
    Decimal.valueOf ((padded width n).map (·.toNat - '0'.toNat)) = n := by
  have hzero : '0'.toNat - '0'.toNat = 0 := rfl
  simp only [padded, List.map_append, List.map_replicate, hzero]
  rw [Decimal.valueOf_replicate_append]
  exact Decimal.valueOf_toDigits n

/-- A number that has its place in a field of the width. -/
structure Fits (width : Nat) (n : Int) : Prop where
  pos : 0 < width
  nonneg : 0 ≤ n
  lt : n.toNat < 10 ^ width

theorem fits_two {n : Int} (h : 0 ≤ n ∧ n < 100) : Fits 2 n :=
  ⟨by decide, h.1, by omega⟩

namespace Fits

variable {width : Nat} {n : Int} {rest : List Char}

/-- A number that fits is padded to its width. -/
theorem length_padded (h : Fits width n) : (padded width n.toNat).length = width := by
  have hle : (Text.decimal n.toNat).length ≤ width :=
    Nat.toDigits_length 10 n.toNat width h.pos h.lt
  simp only [padded, List.length_append, List.length_replicate]
  omega

theorem take_padded (h : Fits width n) :
    (padded width n.toNat ++ rest).take width = padded width n.toNat :=
  List.take_left' h.length_padded

theorem drop_padded (h : Fits width n) : (padded width n.toNat ++ rest).drop width = rest :=
  List.drop_left' h.length_padded

theorem not_length_lt (h : Fits width n) : ¬(padded width n.toNat ++ rest).length < width := by
  rw [List.length_append, h.length_padded]
  omega

/-- A field is read as the number that is written into it. -/
theorem field?_padded (h : Fits width n) : field? width (padded width n.toNat) = some n := by
  rw [field?, Decimal.leadingDigits_of_isDigit (isDigit_padded width n.toNat)]
  dsimp only
  rw [if_pos (by rw [List.length_map, h.length_padded]), valueOf_padded,
    Int.toNat_of_nonneg h.nonneg]

end Fits

/-! ### Days -/

/-- A day is read off its written form, whatever follows. -/
theorem date?_dayText {d : Day} (h : d.isReal = true) (rest : List Char) :
    date? (dayText d ++ rest) = some (d, rest) := by
  have hmonthLength : Day.monthLength d.year d.month ≤ 31 := by
    unfold Day.monthLength
    split_ifs <;> decide
  have hreal := h
  simp only [Day.isReal, Day.isYear, Bool.and_eq_true, decide_eq_true_eq] at hreal
  have hyear : Fits 4 d.year := ⟨by decide, by omega, by omega⟩
  have hmonth : Fits 2 d.month := fits_two (by omega)
  have hday : Fits 2 d.day := fits_two (by omega)
  have hread : commonDate? (dayText d ++ rest) = some (d, rest) := by
    unfold commonDate? dayText
    simp only [List.append_assoc, List.cons_append, hyear.take_padded, hyear.drop_padded,
      hyear.field?_padded, hmonth.take_padded, hmonth.drop_padded, hmonth.field?_padded,
      hday.take_padded, hday.drop_padded, hday.field?_padded, if_neg hyear.not_length_lt,
      if_neg hmonth.not_length_lt, if_neg hday.not_length_lt]
    rfl
  rw [date?, hread]
  exact if_pos h

/-! ### Offsets -/

theorem offset?_signed {hours minutes : Int} (hhours : 0 ≤ hours ∧ hours ≤ 23)
    (hminutes : 0 ≤ minutes ∧ minutes ≤ 59) (negative : Bool) :
    offset? ((if negative then '-' else '+') ::
        (padded 2 hours.toNat ++ ':' :: padded 2 minutes.toNat)) =
      some ((if negative then -1 else 1) * span hours minutes 0) := by
  have hfits : Fits 2 hours := fits_two (by omega)
  have hfits' : Fits 2 minutes := fits_two (by omega)
  have hlength (c : Char) :
      (c :: (padded 2 hours.toNat ++ ':' :: padded 2 minutes.toNat)).length = 6 := by
    rw [List.length_cons, List.length_append, List.length_cons, hfits.length_padded,
      hfits'.length_padded]
  have hlong (c d : Char) : c :: (padded 2 hours.toNat ++ ':' :: padded 2 minutes.toNat) ≠ [d] :=
    fun h ↦ absurd ((hlength c).symm.trans (congrArg List.length h)) (by simp)
  have hbounds : ¬(59 < minutes ∨ 23 < hours) := by omega
  unfold offset?
  rw [if_neg (fun h ↦ h.elim (hlong _ _) (hlong _ _)),
    if_neg (fun h ↦ h (.inr (.inr (hlength _))))]
  simp only [List.drop_succ_cons, List.drop_zero, hfits.take_padded, hfits.drop_padded,
    hfits.field?_padded, hfits'.field?_padded]
  cases negative with
  | false => exact if_neg hbounds
  | true => exact if_neg hbounds

/-- An offset of whole minutes is read back. -/
theorem offset?_offsetText {o : Int} (h : IsMinutes o) : offset? (offsetText o) = some o := by
  obtain ⟨hdvd, hlt⟩ := h
  obtain ⟨hours, hhours⟩ : ∃ n : Int, n = (o.natAbs / 1000000 / 3600 : Nat) := ⟨_, rfl⟩
  obtain ⟨minutes, hminutes⟩ : ∃ n : Int, n = (o.natAbs / 1000000 / 60 % 60 : Nat) := ⟨_, rfl⟩
  have hwhole : o.natAbs / 1000000 % 60 = 0 ∧ o.natAbs % 1000000 = 0 := by omega
  have htext : offsetText o = (if decide (o < 0) then '-' else '+') ::
      (padded 2 hours.toNat ++ ':' :: padded 2 minutes.toNat) := by
    simp only [offsetText, if_pos hwhole, hhours, hminutes, Int.toNat_natCast, List.append_nil,
      decide_eq_true_eq]
  rw [htext, offset?_signed (by omega) (by omega), span]
  simp only [decide_eq_true_eq]
  congr 1
  split_ifs <;> omega

/-- The written form of an offset, if there is one. -/
def zoneText (offset : Option Int) : List Char :=
  (offset.map offsetText).getD []

/-- A written offset begins with its sign. -/
theorem zoneText_cases (offset : Option Int) :
    offset = none ∧ zoneText offset = [] ∨
      ∃ c cs, zoneText offset = c :: cs ∧ (c = '-' ∨ c = '+') := by
  cases offset with
  | none => exact .inl ⟨rfl, rfl⟩
  | some o =>
    refine .inr ⟨_, _, rfl, ?_⟩
    split_ifs
    · exact .inl rfl
    · exact .inr rfl

/-! ### Times of day -/

variable {hour minute second micro : Int} {offset : Option Int}

/-- A zone is read back, also where there is none. -/
theorem finish?_zoneText (h : ∀ o ∈ offset, IsMinutes o) :
    finish? ⟨hour, minute, second, micro, none⟩ (zoneText offset) =
      some ⟨hour, minute, second, micro, offset⟩ := by
  cases offset with
  | none => rfl
  | some o =>
    have hread : offset? (zoneText (some o)) = some o := offset?_offsetText (h o rfl)
    obtain ⟨hnone, -⟩ | ⟨c, cs, hcs, hsign⟩ := zoneText_cases (some o)
    · cases hnone
    · rw [hcs] at hread ⊢
      have hstarts : startsOffset c = true := by
        rcases hsign with rfl | rfl <;> rfl
      rw [finish?, if_pos hstarts, hread]
      rfl

/-- A fraction and a zone are read back; a fraction of zero is not written, so the offset comes at
once. -/
theorem fraction?_fractionText (hmicro : IsFraction micro) (h : ∀ o ∈ offset, IsMinutes o) :
    fraction? ⟨hour, minute, second, 0, none⟩ (fractionText micro.toNat ++ zoneText offset) =
      some ⟨hour, minute, second, micro, offset⟩ := by
  obtain ⟨hnonneg, hlt⟩ := hmicro
  by_cases hzero : micro.toNat = 0
  · obtain rfl : micro = 0 := by omega
    rw [fractionText, if_pos hzero, List.nil_append, ← finish?_zoneText h]
    obtain ⟨-, hnil⟩ | ⟨c, cs, hcs, hsign⟩ := zoneText_cases offset
    · rw [hnil]
      rfl
    · rw [hcs, fraction?, if_neg]
      rcases hsign with rfl | rfl <;> decide
  · have hfits : Fits 6 micro := ⟨by decide, hnonneg, by omega⟩
    have hzone : Decimal.leadingDigits (zoneText offset) = ([], zoneText offset) := by
      obtain ⟨-, hnil⟩ | ⟨c, cs, hcs, hsign⟩ := zoneText_cases offset
      · rw [hnil]
        rfl
      · rw [hcs]
        rcases hsign with rfl | rfl <;> rfl
    have hdigits : Decimal.leadingDigits (padded 6 micro.toNat ++ zoneText offset) =
        ((padded 6 micro.toNat).map (·.toNat - '0'.toNat), zoneText offset) := by
      rw [Decimal.leadingDigits_append (isDigit_padded 6 micro.toNat), hzone, List.append_nil]
    have hlength : ((padded 6 micro.toNat).map (·.toNat - '0'.toNat)).length = 6 := by
      rw [List.length_map, hfits.length_padded]
    have hmicros : micros ((padded 6 micro.toNat).map (·.toNat - '0'.toNat)) = micro := by
      simp only [micros, List.take_of_length_le hlength.le, hlength, Nat.sub_self,
        List.replicate_zero, List.append_nil, valueOf_padded]
      exact Int.toNat_of_nonneg hnonneg
    rw [fractionText, if_neg hzero, List.cons_append, fraction?, if_pos (.inl rfl), hdigits]
    split
    · next hnil =>
      rw [(Prod.mk.inj hnil).1] at hlength
      cases hlength
    · next heq =>
      cases heq
      rw [hmicros, finish?_zoneText h]

/-- A time of day is read off its written form. -/
theorem time?_clockText {t : DateTime} (ht : t.IsReal) (h : ∀ o ∈ t.offset, IsMinutes o) :
    time? (clockText t) = some ⟨t.hour, t.minute, t.second, t.micro, t.offset⟩ := by
  have hhour : Fits 2 t.hour := fits_two (by have := ht.hour; omega)
  have hminute : Fits 2 t.minute := fits_two (by have := ht.minute; omega)
  have hsecond : Fits 2 t.second := fits_two (by have := ht.second; omega)
  have hseconds : second? ⟨t.hour, t.minute, 0, 0, none⟩ true
      (':' :: (padded 2 t.second.toNat ++ (fractionText t.micro.toNat ++ zoneText t.offset))) =
        some ⟨t.hour, t.minute, t.second, t.micro, t.offset⟩ := by
    rw [second?, if_neg (by decide), if_neg (by decide)]
    simp only [if_true, hsecond.take_padded, hsecond.drop_padded, hsecond.field?_padded,
      Option.bind_some]
    exact fraction?_fractionText ht.micro h
  have hminutes : minute? ⟨t.hour, 0, 0, 0, none⟩ (':' :: (padded 2 t.minute.toNat ++
      ':' :: (padded 2 t.second.toNat ++ (fractionText t.micro.toNat ++ zoneText t.offset)))) =
        some ⟨t.hour, t.minute, t.second, t.micro, t.offset⟩ := by
    rw [minute?, if_neg (by decide)]
    simp only [beq_self_eq_true, if_true, hminute.take_padded, hminute.drop_padded,
      hminute.field?_padded, Option.bind_some]
    exact hseconds
  obtain ⟨c, d, hcd⟩ := List.length_eq_two.mp hhour.length_padded
  have hdigit : c.isDigit = true :=
    isDigit_padded 2 t.hour.toNat c (by rw [hcd]; exact List.mem_cons_self)
  have hstarts : ¬startsOffset c = true := by
    intro hstarts
    simp only [startsOffset, Bool.or_eq_true, beq_iff_eq] at hstarts
    rcases hstarts with ((rfl | rfl) | rfl) | rfl <;> cases hdigit
  rw [clockText, hcd]
  change time? (c :: d :: _) = _
  rw [time?, if_neg hstarts, ← hcd, hhour.field?_padded]
  exact hminutes

/-! ### Points in time -/

/-- A date that is real is put together again. -/
theorem assemble?_of_isReal {t : DateTime} (ht : t.IsReal) :
    assemble? t.date ⟨t.hour, t.minute, t.second, t.micro, t.offset⟩ = some t := by
  obtain ⟨hdate, hhour, hminute, hsecond, -⟩ := ht
  have hyear : t.date.year ≤ 9999 := by
    simp only [Day.isReal, Day.isYear, Bool.and_eq_true, decide_eq_true_eq] at hdate
    omega
  have hmidnight : (t.hour == 24) = false := by
    rw [beq_eq_false_iff_ne]
    omega
  unfold assemble?
  simp only [hmidnight, Bool.false_and, Bool.false_eq_true, if_false]
  exact if_pos ⟨hhour.1, hhour.2, hminute.1, hminute.2, hsecond.1, hsecond.2, hyear⟩

theorem isAscii_text (t : DateTime) : (text t).toList.all (fun c ↦ c.toNat < 128) = true := by
  have hpadded (width n : Nat) : (padded width n).all (fun c ↦ c.toNat < 128) = true := by
    refine List.all_eq_true.mpr fun c hc ↦ decide_eq_true ?_
    have hcode := Decimal.toNat_of_isDigit (isDigit_padded width n c hc)
    omega
  have hfraction (n : Nat) : (fractionText n).all (fun c ↦ c.toNat < 128) = true := by
    unfold fractionText
    split_ifs
    · rfl
    · exact hpadded 6 n
  have hoffset (o : Int) : (offsetText o).all (fun c ↦ c.toNat < 128) = true := by
    simp only [offsetText, List.all_append, List.all_cons, hpadded]
    split_ifs <;> simp [hpadded, hfraction]
  have hzone : (zoneText t.offset).all (fun c ↦ c.toNat < 128) = true := by
    unfold zoneText
    cases t.offset with
    | none => rfl
    | some o => exact hoffset o
  have hclock : (clockText t).all (fun c ↦ c.toNat < 128) = true := by
    change (_ ++ ':' :: (_ ++ ':' :: (_ ++ (_ ++ zoneText t.offset)))).all _ = true
    simp only [List.all_append, List.all_cons, hpadded, hfraction, hzone]
    decide
  simp only [text, dayText, String.toList_ofList, List.all_append, List.all_cons, hpadded, hclock]
  decide

/-- What is written for a point in time is read back as that point in time. -/
theorem parse?_text {t : DateTime} (ht : t.IsReal) (h : ∀ o ∈ t.offset, IsMinutes o) :
    parse? (text t) = some t := by
  have hdate : date? (text t).toList = some (t.date, 'T' :: clockText t) := by
    rw [text, String.toList_ofList, date?_dayText ht.date]
  unfold parse?
  simp only [isAscii_text t, if_true, hdate, time?_clockText ht h, Option.bind_some]
  exact assemble?_of_isReal ht

end Iso

end ClusterDiagnosis
