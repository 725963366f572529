import ClusterDiagnosis.Manifest.Cleanup
import ClusterDiagnosis.Proofs.Text.Blank
import ClusterDiagnosis.Proofs.Text.Search

/-!
# Cleaning up manifests

What is kept of a text is the longest end of the trimmed text that starts as a manifest starts
(`longestEnd_fromOpening`), and all of the trimmed text if no manifest starts in it. Cleaning up
twice is cleaning up once (`fromOpening_fromOpening`). The start of a manifest has no blanks, so
trimming takes nothing of it away, and remarks, which start with a blank, are found behind it only
(`starts_withoutRemarks`).
-/

set_option autoImplicit false
set_option relaxedAutoImplicit false

namespace ClusterDiagnosis

namespace Manifest

open Text

variable {s : String}

/-- A text in which a manifest starts. -/
def Opens (s : String) : Prop :=
  opening.toList <:+: s.toList

/-- A text that starts as a manifest starts. -/
def StartsWell (s : String) : Prop :=
  opening.toList <+: s.toList

/-- The opening of a manifest has no white space in it. -/
theorem notBlank_of_mem_opening : ∀ c ∈ opening.toList, isBlank c = false := by
  have hall : (opening.toList.all fun c ↦ !isBlank c) = true := by decide
  simpa using hall

/-- Whether a text opens a manifest somewhere does not depend on white space around it. -/
theorem opens_trim_iff : Opens (trim s) ↔ Opens s := by
  rw [Opens, toList_trim]
  exact (IsTrimmed.of_forall notBlank_of_mem_opening).isInfix_trimWhere_iff

/-! ### From the start of the manifest on -/

/-- The manifest is the longest end of the reply that starts with the opening. -/
theorem longestEnd_fromOpening (h : Opens s) :
    LongestEnd opening.toList (trim s).toList (fromOpening s).toList := by
  cases hfrom : from? opening.toList (trim s).toList with
  | none => exact absurd (opens_trim_iff.mpr h) (from?_eq_none_iff.mp hfrom)
  | some r =>
    have hlongest := from?_eq_some_iff.mp hfrom
    rw [toList_trim] at hfrom
    rwa [fromOpening, hfrom, Option.getD_some, String.toList_ofList]

/-- A reply without an opening is only trimmed. -/
theorem fromOpening_of_not_opens (h : ¬Opens s) : fromOpening s = trim s := by
  have hfrom : from? opening.toList (trimChars s.toList) = none := by
    rw [from?_eq_none_iff, ← toList_trim]
    exact fun hopens ↦ h (opens_trim_iff.mp hopens)
  rw [fromOpening, hfrom, Option.getD_none, trim]

/-- A reply with an opening gives a manifest that starts with it. -/
theorem startsWell_fromOpening (h : Opens s) : StartsWell (fromOpening s) :=
  (longestEnd_fromOpening h).starts

/-- A trimmed text that starts well is left as it is. -/
theorem fromOpening_of_startsWell (h : StartsWell s) (hs : trim s = s) : fromOpening s = s := by
  have hlongest := longestEnd_fromOpening h.isInfix
  rw [hs] at hlongest
  exact String.toList_inj.mp (hlongest.unique (.whole h))

theorem isTrimmed_trim (s : String) : IsTrimmed isBlank (trim s).toList := by
  rw [toList_trim]
  exact isTrimmed_trimWhere isBlank s.toList

/-- Trimming leaves a trimmed text as it is. -/
theorem trim_eq_self (h : IsTrimmed isBlank s.toList) : trim s = s := by
  rw [trim, trimChars, h.trimWhere_eq_self, String.ofList_toList]

/-- The manifest has no white space around it. -/
theorem isTrimmed_fromOpening (s : String) : IsTrimmed isBlank (fromOpening s).toList := by
  by_cases h : Opens s
  · have hlongest := longestEnd_fromOpening h
    have hne : (fromOpening s).toList ≠ [] := by
      intro hnil
      have hstarts := hlongest.starts
      rw [hnil] at hstarts
      exact absurd (List.prefix_nil.mp hstarts) (by decide)
    obtain ⟨rest, hrest⟩ := hlongest.starts
    obtain ⟨front, hfront⟩ := hlongest.isEnd
    constructor
    · intro c hc
      rw [← hrest, List.head?_append_of_ne_nil _ (by decide)] at hc
      exact notBlank_of_mem_opening c (List.mem_of_mem_head? hc)
    · have hlast := (isTrimmed_trim s).last
      rwa [← hfront, List.getLast?_append_of_ne_nil _ hne] at hlast
  · rw [fromOpening_of_not_opens h]
    exact isTrimmed_trim s

/-- Cutting a manifest again changes nothing. -/
theorem fromOpening_fromOpening (s : String) : fromOpening (fromOpening s) = fromOpening s := by
  have htrim := trim_eq_self (isTrimmed_fromOpening s)
  by_cases h : Opens s
  · exact fromOpening_of_startsWell (startsWell_fromOpening h) htrim
  · have hnot : ¬Opens (fromOpening s) := by
      rw [fromOpening_of_not_opens h]
      exact fun hopens ↦ h (opens_trim_iff.mp hopens)
    rw [fromOpening_of_not_opens hnot, htrim]

/-! ### Without remarks -/

/-- Remarks start with a character that the start of a manifest does not have. -/
theorem remarks_behind_opening : ∀ r ∈ remarks, r.toList ≠ [] ∧
    ∀ c ∈ r.toList.head?, c ∉ opening.toList := by
  have hhead : "    # Fixed image name".toList.head? = some ' ' := by decide
  rw [remarks, List.forall_mem_singleton, hhead]
  refine ⟨by decide, fun c hc ↦ ?_⟩
  cases hc
  decide

/-- Removing texts that begin otherwise leaves the opening at the start. -/
theorem starts_foldl_remove {rs : List String} {cs : List Char}
    (hrs : ∀ r ∈ rs, r.toList ≠ [] ∧ ∀ c ∈ r.toList.head?, c ∉ opening.toList)
    (h : opening.toList <+: cs) :
    opening.toList <+: rs.foldl (fun cs r ↦ remove r.toList cs) cs := by
  induction rs generalizing cs with
  | nil => exact h
  | cons r rs ih =>
    obtain ⟨⟨hne, hhead⟩, hrs⟩ := List.forall_mem_cons.mp hrs
    obtain ⟨rest, rfl⟩ := h
    rw [List.foldl_cons, remove_append hne hhead]
    exact ih hrs ⟨_, rfl⟩

/-- Without the remarks a manifest still starts with its opening. -/
theorem startsWell_withoutRemarks (h : StartsWell s) (hs : trim s = s) :
    StartsWell (withoutRemarks s) := by
  rw [StartsWell, withoutRemarks, String.toList_ofList, ← toList_trim, hs]
  exact starts_foldl_remove remarks_behind_opening h

/-- A manifest that starts in a text is what starts the cleaned text. -/
theorem startsWell_cleaned (h : Opens s) : StartsWell (withoutRemarks (fromOpening s)) :=
  startsWell_withoutRemarks (startsWell_fromOpening h) (trim_eq_self (isTrimmed_fromOpening s))

end Manifest

end ClusterDiagnosis
