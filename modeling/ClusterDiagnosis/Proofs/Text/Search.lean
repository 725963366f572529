import ClusterDiagnosis.Text.Search
import Mathlib.Data.List.Infix

/-!
# Searching for a piece

The search for a piece gives the longest end of the text that starts with it (`from?_eq_some_iff`),
and finds nothing exactly if the piece does not occur (`contains_iff`). Where a piece is taken out,
a front in which it cannot start stays (`remove_append`).
-/

set_option autoImplicit false
set_option relaxedAutoImplicit false

namespace ClusterDiagnosis.Text

variable {piece cs rest r s : List Char}

theorem after?_eq_some_iff : after? piece cs = some rest ↔ cs = piece ++ rest := by
  refine ⟨eq_append_of_after?, ?_⟩
  rintro rfl
  induction piece with
  | nil => rfl
  | cons p ps ih => simp [after?, ih]

theorem after?_eq_none_iff : after? piece cs = none ↔ ¬piece <+: cs := by
  rw [Option.eq_none_iff_forall_ne_some]
  constructor
  · rintro h ⟨rest, rfl⟩
    exact h rest (after?_eq_some_iff.mpr rfl)
  · intro h rest hrest
    exact h ⟨rest, (after?_eq_some_iff.mp hrest).symm⟩

theorem startsWith_iff : startsWith piece cs = true ↔ piece <+: cs := by
  rw [startsWith, Option.isSome_iff_ne_none, ne_eq, after?_eq_none_iff, not_not]

/-- The longest end of a text that starts with a piece. -/
structure LongestEnd (piece cs r : List Char) : Prop where
  isEnd : r <:+ cs
  starts : piece <+: r
  longest : ∀ s, s <:+ cs → piece <+: s → s.length ≤ r.length

namespace LongestEnd

theorem unique (h : LongestEnd piece cs r) (h' : LongestEnd piece cs s) : r = s := by
  have hend : r <:+ s :=
    List.suffix_of_suffix_length_le h.isEnd h'.isEnd (h'.longest r h.isEnd h.starts)
  exact hend.eq_of_length_le (h.longest s h'.isEnd h'.starts)

/-- Where the piece starts the text, the longest end is all of it. -/
theorem whole (h : piece <+: cs) : LongestEnd piece cs cs :=
  ⟨List.suffix_refl cs, h, fun _ hs _ ↦ hs.length_le⟩

/-- A character in front at which the piece does not start makes no difference. -/
theorem cons {c : Char} (h : LongestEnd piece cs r) (hc : ¬piece <+: c :: cs) :
    LongestEnd piece (c :: cs) r := by
  refine ⟨h.isEnd.trans (List.suffix_cons c cs), h.starts, fun s hs hstarts ↦ ?_⟩
  rcases List.suffix_cons_iff.mp hs with rfl | hs
  · exact absurd hstarts hc
  · exact h.longest s hs hstarts

end LongestEnd

theorem longestEnd_of_from? (h : from? piece cs = some r) : LongestEnd piece cs r := by
  induction cs with
  | nil =>
    simp only [from?] at h
    split at h
    · next hpiece =>
      obtain rfl := Option.some.inj h
      exact .whole (by rw [List.isEmpty_iff.mp hpiece])
    · cases h
  | cons c cs ih =>
    rw [from?] at h
    split at h
    · next hstarts =>
      obtain rfl := Option.some.inj h
      exact .whole (startsWith_iff.mp hstarts)
    · next hstarts => exact (ih h).cons (mt startsWith_iff.mpr hstarts)

theorem from?_eq_none_iff : from? piece cs = none ↔ ¬piece <:+: cs := by
  induction cs with
  | nil => simp [from?]
  | cons c cs ih =>
    rw [from?, List.infix_cons_iff, not_or, ← ih, ← startsWith_iff]
    split
    · next hstarts => simp [hstarts]
    · next hstarts => simp [hstarts]

/-- The search finds the longest end that starts with the piece. -/
theorem from?_eq_some_iff : from? piece cs = some r ↔ LongestEnd piece cs r := by
  refine ⟨longestEnd_of_from?, fun h ↦ ?_⟩
  cases hfrom : from? piece cs with
  | some s => rw [h.unique (longestEnd_of_from? hfrom)]
  | none =>
    exact absurd (h.starts.isInfix.trans h.isEnd.isInfix) (from?_eq_none_iff.mp hfrom)

/-- A piece is found exactly if it stands somewhere in the text. -/
theorem contains_iff : contains piece cs = true ↔ piece <:+: cs := by
  rw [contains, Option.isSome_iff_ne_none, ne_eq, from?_eq_none_iff, not_not]

theorem contains_of_isInfix {ds : List Char} (h : contains piece cs = true) (hcs : cs <:+: ds) :
    contains piece ds = true :=
  contains_iff.mpr ((contains_iff.mp h).trans hcs)

/-- A front without the first character of a piece stays when the piece is taken out. -/
theorem remove_append {front : List Char} (hne : piece ≠ []) (h : ∀ c ∈ piece.head?, c ∉ front)
    (cs : List Char) : remove piece (front ++ cs) = front ++ remove piece cs := by
  obtain ⟨p, ps, rfl⟩ := List.exists_cons_of_ne_nil hne
  induction front with
  | nil => rfl
  | cons c front ih =>
    have hp : p ∉ c :: front := h p rfl
    rw [List.mem_cons, not_or] at hp
    have hnone : after? (p :: ps) (c :: (front ++ cs)) = none := by
      rw [after?_eq_none_iff, List.cons_prefix_cons]
      exact fun hstarts ↦ hp.1 hstarts.1
    rw [List.cons_append, remove, hnone, List.cons_append]
    exact congrArg (c :: ·) (ih (by simpa using hp.2))

end ClusterDiagnosis.Text
