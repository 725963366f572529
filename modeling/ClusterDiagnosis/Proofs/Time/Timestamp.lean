import ClusterDiagnosis.Proofs.Number.Digits
import ClusterDiagnosis.Proofs.Number.Range
import ClusterDiagnosis.Time.Iso

/-!
# Written points in time have a place in the order

Sums and fractions of finite numbers are numbers, so the timestamp of a point in time could only
fail to be one where its seconds and the fraction of a second are opposite infinities. The fraction
of a written point in time is below a second, as its written form has six digits at most
(`Iso.isFraction_of_parse?`), and so its timestamp is never a `nan` (`Iso.timestamp_ne_nan`).
-/

set_option autoImplicit false
set_option relaxedAutoImplicit false

namespace ClusterDiagnosis

/-! ### The fraction of a second -/

namespace Iso

/-- The microseconds are a fraction of a second. -/
def IsFraction (micro : Int) : Prop :=
  0 ≤ micro ∧ micro < 1000000

theorem isFraction_zero : IsFraction 0 := by
  unfold IsFraction
  decide

/-- Digits behind the point are microseconds below a second. -/
theorem isFraction_micros {ds : List Nat} (h : ∀ d ∈ ds, d < 10) : IsFraction (micros ds) := by
  have hlength : (ds.take 6 ++ List.replicate (6 - (ds.take 6).length) 0).length = 6 := by
    rw [List.length_append, List.length_replicate, List.length_take]
    omega
  have hdigits : ∀ d ∈ ds.take 6 ++ List.replicate (6 - (ds.take 6).length) 0, d < 10 := by
    intro d hd
    rcases List.mem_append.mp hd with hd | hd
    · exact h d (List.mem_of_mem_take hd)
    · rw [List.eq_of_mem_replicate hd]
      decide
  have hlt := Decimal.valueOf_lt hdigits
  rw [hlength] at hlt
  exact ⟨Int.natCast_nonneg _, Int.ofNat_lt.mpr hlt⟩

variable {clock found : Clock} {cs : List Char}

theorem micro_of_finish? (h : finish? clock cs = some found) : found.micro = clock.micro := by
  unfold finish? at h
  split at h
  · cases h
    rfl
  · split at h
    · obtain ⟨o, -, rfl⟩ := Option.map_eq_some_iff.mp h
      rfl
    · cases h

theorem isFraction_of_fraction? (hclock : IsFraction clock.micro)
    (h : fraction? clock cs = some found) : IsFraction found.micro := by
  unfold fraction? at h
  split at h
  · cases h
    exact hclock
  · next c r =>
    split at h
    · have hdigits : ∀ d ∈ (Decimal.leadingDigits r).1, d < 10 := Decimal.lt_of_mem_leadingDigits
      split at h
      · cases h
      · next ds rest _ hds =>
        rw [hds] at hdigits
        rw [micro_of_finish? h]
        exact isFraction_micros hdigits
    · rw [micro_of_finish? h]
      exact hclock

theorem isFraction_of_second? (hclock : IsFraction clock.micro) {spaced : Bool}
    (h : second? clock spaced cs = some found) : IsFraction found.micro := by
  unfold second? at h
  split at h
  · cases h
    exact hclock
  · split at h
    · rw [micro_of_finish? h]
      exact hclock
    · split at h
      · cases h
      · obtain ⟨s, -, h⟩ := Option.bind_eq_some_iff.mp h
        have hsecond : IsFraction ({ clock with second := s } : Clock).micro := hclock
        exact isFraction_of_fraction? hsecond h

theorem isFraction_of_minute? (hclock : IsFraction clock.micro)
    (h : minute? clock cs = some found) : IsFraction found.micro := by
  unfold minute? at h
  split at h
  · cases h
    exact hclock
  · split at h
    · rw [micro_of_finish? h]
      exact hclock
    · obtain ⟨m, -, h⟩ := Option.bind_eq_some_iff.mp h
      have hminute : IsFraction ({ clock with minute := m } : Clock).micro := hclock
      exact isFraction_of_second? hminute h

/-- Every time that is read has microseconds below a second. -/
theorem isFraction_of_time? (h : time? cs = some found) : IsFraction found.micro := by
  unfold time? at h
  split at h
  · split at h
    · rw [micro_of_finish? h]
      exact isFraction_zero
    · obtain ⟨hour, -, h⟩ := Option.bind_eq_some_iff.mp h
      have hhour : IsFraction ({ hour } : Clock).micro := isFraction_zero
      exact isFraction_of_minute? hhour h
  · cases h

theorem micro_of_assemble? {day : Day} {t : DateTime} (h : assemble? day clock = some t) :
    t.micro = clock.micro := by
  unfold assemble? at h
  dsimp only at h
  split at h
  · cases h
  · obtain ⟨-, h⟩ := Option.ite_none_right_eq_some.mp h
    cases h
    rfl

/-- The fraction of a second in a written point in time is one. -/
theorem isFraction_of_parse? {s : String} {t : DateTime} (h : parse? s = some t) :
    IsFraction t.micro := by
  unfold parse? at h
  dsimp only at h
  split at h
  · split at h
    · cases h
    · rw [micro_of_assemble? h]
      exact isFraction_zero
    · obtain ⟨clock, hclock, h⟩ := Option.bind_eq_some_iff.mp h
      rw [micro_of_assemble? h]
      exact isFraction_of_time? hclock
  · cases h

/-! ### Timestamps -/

end Iso

/-- A number of millionths is in range, up to one of so many digits as no point in time has. -/
theorem DateTime.exists_ofMicros_eq_finite {n : Int} (h : n.natAbs.log2 < 1042) :
    ∃ m e, ofMicros n = .finite (decide (n < 0)) m e := by
  refine Double.exists_ofFraction_eq_finite _ ?_
  have hle := Double.binaryOrder_le n.natAbs 1000000
  have hden : Nat.log2 1000000 = 19 := by decide
  omega

/-- The timestamp of a written point in time is a number. -/
theorem Iso.timestamp_ne_nan {s : String} {t : DateTime} {d : Double} (h : parse? s = some t)
    (hd : t.timestamp? = some d) : d ≠ .nan := by
  obtain ⟨hnonneg, hlt⟩ := isFraction_of_parse? h
  unfold DateTime.timestamp? at hd
  split at hd
  · cases hd
    exact Double.ofFraction_ne_nan _ _ _
  · split at hd
    · cases hd
    · have hlog : t.micro.natAbs.log2 < 1042 := by
        by_cases hzero : t.micro.natAbs = 0
        · rw [hzero]
          decide
        · exact Nat.lt_of_lt_of_le ((Nat.log2_lt hzero).mpr (by omega : _ < 2 ^ 20)) (by decide)
      obtain ⟨m, e, hfinite⟩ := DateTime.exists_ofMicros_eq_finite hlog
      cases hd
      rw [hfinite]
      exact Double.add_finite_ne_nan (Double.ofFraction_ne_nan _ _ _) _ _ _

end ClusterDiagnosis
