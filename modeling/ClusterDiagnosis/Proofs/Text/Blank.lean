import ClusterDiagnosis.Text.Blank
import Mathlib.Data.List.DropRight
import Mathlib.Data.List.Infix

/-!
# Trimming

A text is what trimming leaves of it with characters of the trimmed class in front and behind
(`exists_trimWhere`). What has no such characters at its ends survives wherever it stands
(`trimWhere_append`), so it occurs in the trimmed text exactly if it occurs in the text
(`IsTrimmed.isInfix_trimWhere_iff`).
-/

set_option autoImplicit false
set_option relaxedAutoImplicit false

namespace ClusterDiagnosis.Text

variable {p : Char → Bool} {cs : List Char}

/-- A text that has no characters of a class at its ends. -/
structure IsTrimmed (p : Char → Bool) (cs : List Char) : Prop where
  first : ∀ c ∈ cs.head?, p c = false
  last : ∀ c ∈ cs.getLast?, p c = false

theorem IsTrimmed.of_forall (h : ∀ c ∈ cs, p c = false) : IsTrimmed p cs :=
  ⟨fun c hc ↦ h c (List.mem_of_mem_head? hc), fun c hc ↦ h c (List.mem_of_mem_getLast? hc)⟩

/-- Trimming drops from the front and then from the back. -/
theorem trimWhere_eq (p : Char → Bool) (cs : List Char) :
    trimWhere p cs = (cs.dropWhile p).rdropWhile p :=
  rfl

/-! ### One end -/

theorem head?_dropWhile (p : Char → Bool) (cs : List Char) :
    ∀ c ∈ (cs.dropWhile p).head?, p c = false := by
  intro c hc
  have hhead := List.head?_dropWhile_not p cs
  rw [Option.mem_def.mp hc] at hhead
  exact hhead

theorem dropWhile_append_of_head? (front : List Char) (hne : cs ≠ [])
    (h : ∀ c ∈ cs.head?, p c = false) : (front ++ cs).dropWhile p = front.dropWhile p ++ cs := by
  obtain ⟨c, cs, rfl⟩ := List.exists_cons_of_ne_nil hne
  have hcs : (c :: cs).dropWhile p = c :: cs := by simp [h c rfl]
  rw [List.dropWhile_append, hcs]
  split
  · next hfront => rw [List.isEmpty_iff.mp hfront, List.nil_append]
  · rfl

theorem rdropWhile_append_of_getLast? (back : List Char) (hne : cs ≠ [])
    (h : ∀ c ∈ cs.getLast?, p c = false) : (cs ++ back).rdropWhile p = cs ++ back.rdropWhile p := by
  have hhead : ∀ c ∈ cs.reverse.head?, p c = false := by rwa [List.head?_reverse]
  rw [List.rdropWhile, List.reverse_append,
    dropWhile_append_of_head? back.reverse (List.reverse_ne_nil_iff.mpr hne) hhead,
    List.reverse_append, List.reverse_reverse, List.rdropWhile]

/-! ### Both ends -/

/-- What stands around a trimmed text is trimmed off, as far as it goes. -/
theorem trimWhere_append (front back : List Char) (hne : cs ≠ []) (h : IsTrimmed p cs) :
    trimWhere p (front ++ cs ++ back) = front.dropWhile p ++ cs ++ back.rdropWhile p := by
  have hfirst : ∀ c ∈ (cs ++ back).head?, p c = false := by
    rw [List.head?_append_of_ne_nil _ hne]
    exact h.first
  have hlast : ∀ c ∈ (front.dropWhile p ++ cs).getLast?, p c = false := by
    rw [List.getLast?_append_of_ne_nil _ hne]
    exact h.last
  rw [trimWhere_eq, List.append_assoc, dropWhile_append_of_head? front (by simp [hne]) hfirst,
    ← List.append_assoc, rdropWhile_append_of_getLast? back (by simp [hne]) hlast]

/-- Nothing but characters of the class is lost, in front and behind. -/
theorem exists_trimWhere (p : Char → Bool) (cs : List Char) :
    ∃ front back, cs = front ++ trimWhere p cs ++ back ∧ (∀ c ∈ front, p c = true) ∧
      ∀ c ∈ back, p c = true := by
  refine ⟨cs.takeWhile p, (cs.dropWhile p).rtakeWhile p, ?_, fun c ↦ List.mem_takeWhile_imp,
    fun c ↦ List.mem_rtakeWhile_imp⟩
  rw [trimWhere_eq, List.append_assoc, List.rdropWhile_append_rtakeWhile,
    List.takeWhile_append_dropWhile]

/-- Characters of the class in front and behind make no difference. -/
theorem trimWhere_append_of_forall {front back : List Char} (hfront : ∀ c ∈ front, p c = true)
    (hback : ∀ c ∈ back, p c = true) (cs : List Char) :
    trimWhere p (front ++ cs ++ back) = trimWhere p cs := by
  have hend (ds : List Char) : (ds ++ back).rdropWhile p = ds.rdropWhile p := by
    have hback' : ∀ c ∈ back.reverse, p c = true := fun c hc ↦ hback c (List.mem_reverse.mp hc)
    rw [List.rdropWhile, List.reverse_append, List.dropWhile_append_of_pos hback', List.rdropWhile]
  rw [trimWhere_eq, trimWhere_eq, List.append_assoc, List.dropWhile_append_of_pos hfront,
    List.dropWhile_append]
  split
  · next hcs =>
    rw [List.isEmpty_iff.mp hcs, List.dropWhile_eq_nil_iff.mpr hback]
  · exact hend _

/-- What is trimmed has nothing more to trim: what is dropped at the end leaves the first character,
unless everything is dropped. -/
theorem isTrimmed_trimWhere (p : Char → Bool) (cs : List Char) : IsTrimmed p (trimWhere p cs) := by
  rw [trimWhere_eq]
  constructor
  · obtain ⟨back, hback⟩ := List.rdropWhile_prefix p (cs.dropWhile p)
    intro c hc
    refine head?_dropWhile p cs c ?_
    rw [← hback, List.head?_append, Option.mem_def.mp hc, Option.some_or]
    rfl
  · rw [List.rdropWhile, List.getLast?_reverse]
    exact head?_dropWhile p _

namespace IsTrimmed

theorem trimWhere_eq_self (h : IsTrimmed p cs) : trimWhere p cs = cs := by
  by_cases hne : cs = []
  · rw [hne]
    rfl
  · simpa using trimWhere_append [] [] hne h

/-- What has no characters of the class at its ends is as good in the trimmed text. -/
theorem isInfix_trimWhere_iff {ds : List Char} (h : IsTrimmed p cs) :
    cs <:+: trimWhere p ds ↔ cs <:+: ds := by
  constructor
  · intro hcs
    obtain ⟨front, back, hds, -, -⟩ := exists_trimWhere p ds
    exact hcs.trans ⟨front, back, hds.symm⟩
  · rintro ⟨front, back, rfl⟩
    by_cases hne : cs = []
    · rw [hne]
      exact List.nil_infix
    · rw [trimWhere_append front back hne h]
      exact ⟨_, _, rfl⟩

end IsTrimmed

/-- What is left of a text is found in what is left of a text around it. -/
theorem isInfix_trimWhere {ds : List Char} (h : cs <:+: ds) :
    trimWhere p cs <:+: trimWhere p ds := by
  obtain ⟨front, back, hcs, -, -⟩ := exists_trimWhere p cs
  have hin : trimWhere p cs <:+: cs := ⟨front, back, hcs.symm⟩
  exact (isTrimmed_trimWhere p cs).isInfix_trimWhere_iff.mpr (hin.trans h)

/-! ### Blanks -/

theorem toList_trim (s : String) : (trim s).toList = trimChars s.toList :=
  String.toList_ofList

/-- A text with blanks in front and behind is trimmed to what the text is trimmed to. -/
theorem trim_padded {s padded : String} {front back : List Char}
    (hfront : ∀ c ∈ front, isBlank c = true) (hback : ∀ c ∈ back, isBlank c = true)
    (h : padded.toList = front ++ s.toList ++ back) : trim padded = trim s := by
  rw [← String.toList_inj, toList_trim, toList_trim, h]
  exact trimWhere_append_of_forall hfront hback s.toList

end ClusterDiagnosis.Text
