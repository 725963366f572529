import ClusterDiagnosis.Detect.Log
import ClusterDiagnosis.Proofs.Text.Lines
import ClusterDiagnosis.Proofs.Value.Entries

/-!
# Error lines of a log

A line looks like an error if one of the words occurs in it, whatever the case of its letters is
(`looksLikeError_iff`). No such letter ends a line, so an occurrence lies in one line, and that line
is among those that are found. These are all the lines of the log with such a word, in order and
each at its place, whichever boundaries the log has (`errorLines_places`).
-/

set_option autoImplicit false
set_option relaxedAutoImplicit false

namespace ClusterDiagnosis

namespace Text

variable {word piece cs : List Char}

/-- A piece that is the given word, in letters of either case. -/
def Spells (word piece : List Char) : Prop :=
  List.Forall₂ (fun small c ↦ isLetter small c = true) word piece

/-- A line starts with a word when it starts with one of the word's spellings. -/
theorem startsWithWord_iff : startsWithWord word cs = true ↔
    ∃ piece, Spells word piece ∧ piece <+: cs := by
  induction word generalizing cs with
  | nil => exact iff_of_true (by simp [startsWithWord]) ⟨[], .nil, List.nil_prefix⟩
  | cons small word ih =>
    cases cs with
    | nil =>
      refine iff_of_false (by simp [startsWithWord]) ?_
      rintro ⟨piece, hpiece, hprefix⟩
      rw [List.prefix_nil.mp hprefix] at hpiece
      cases hpiece
    | cons c cs =>
      rw [startsWithWord, Bool.and_eq_true, ih]
      constructor
      · rintro ⟨hc, piece, hpiece, hprefix⟩
        exact ⟨c :: piece, .cons hc hpiece, List.cons_prefix_cons.mpr ⟨rfl, hprefix⟩⟩
      · rintro ⟨piece, hpiece, hprefix⟩
        cases hpiece with
        | cons hc hpiece =>
          obtain ⟨rfl, hrest⟩ := List.cons_prefix_cons.mp hprefix
          exact ⟨hc, _, hpiece, hrest⟩

/-- A line contains a word when a spelling of the word stands in it. -/
theorem containsWord_iff : containsWord word cs = true ↔
    ∃ piece, Spells word piece ∧ piece <:+: cs := by
  induction cs with
  | nil =>
    rw [containsWord, List.isEmpty_iff]
    constructor
    · rintro rfl
      exact ⟨[], .nil, List.nil_infix⟩
    · rintro ⟨piece, hpiece, hinfix⟩
      rw [List.infix_nil.mp hinfix] at hpiece
      cases hpiece
      rfl
  | cons c cs ih =>
    rw [containsWord, Bool.or_eq_true, startsWithWord_iff, ih, ← exists_or]
    refine exists_congr fun piece ↦ ?_
    rw [← and_or_left, List.infix_cons_iff]

/-- A letter in either case ends no line. -/
theorem not_isLineBoundary_of_isLetter {small c : Char} (hsmall : isLineBoundary small = false)
    (h : isLetter small c = true) : isLineBoundary c = false := by
  simp only [isLetter, Bool.or_eq_true, Bool.and_eq_true, beq_iff_eq, decide_eq_true_eq] at h
  rcases h with (rfl | ⟨⟨hfirst, hlast⟩, -⟩) | ⟨-, rfl | rfl⟩
  · exact hsmall
  · have hfirst : 65 ≤ c.toNat := hfirst
    have hlast : c.toNat ≤ 90 := hlast
    simp [isLineBoundary]
    omega
  · decide
  · decide

end Text

namespace Detect

open Text

variable {piece line : List Char}

/-- A piece that is one of the error words, in letters of either case. -/
def IsErrorWord (piece : List Char) : Prop :=
  ∃ word ∈ errorWords, Spells word.toList piece

/-- A line looks like an error when one of the error words stands in it. -/
theorem looksLikeError_iff :
    looksLikeError line = true ↔ ∃ piece, IsErrorWord piece ∧ piece <:+: line := by
  simp only [looksLikeError, List.any_eq_true, containsWord_iff, IsErrorWord]
  constructor
  · rintro ⟨word, hword, piece, hpiece, hinfix⟩
    exact ⟨piece, ⟨word, hword, hpiece⟩, hinfix⟩
  · rintro ⟨piece, ⟨word, hword, hpiece⟩, hinfix⟩
    exact ⟨word, hword, piece, hpiece, hinfix⟩

namespace IsErrorWord

/-- No error word is empty. -/
theorem ne_nil (h : IsErrorWord piece) : piece ≠ [] := by
  obtain ⟨word, hword, hpiece⟩ := h
  have hwords : ∀ word ∈ errorWords, word.toList ≠ [] := by decide
  rintro rfl
  exact hwords word hword (List.forall₂_nil_right_iff.mp hpiece)

/-- No error word goes over the end of a line. -/
theorem unbroken (h : IsErrorWord piece) : Unbroken piece := by
  obtain ⟨word, hword, hpiece⟩ := h
  have hwords : ∀ word ∈ errorWords, Unbroken word.toList := by decide
  intro c hc
  obtain ⟨small, hsmall, hletter⟩ := exists_of_mem_right hpiece hc
  exact not_isLineBoundary_of_isLetter (hwords word hword small hsmall) hletter

end IsErrorWord

/-- An empty line does not look like an error. -/
theorem looksLikeError_nil : looksLikeError [] = false := by
  decide

/-- A line feed between two logs neither joins nor splits lines that look like errors. For every
log, the lines found are exactly those that stand in it between boundaries and in which an error
word occurs, in order and each at its place. Every occurrence of an error word in the log lies
within exactly one of them. -/
theorem errorLines_places :
    (∀ a b : String, errorLines (a ++ "\n" ++ b) = errorLines a ++ errorLines b) ∧
    ∀ log : String, ∃ found : List PlacedLine,
      errorLines log = found.map (fun l ↦ String.ofList l.chars) ∧
      found.Pairwise (fun l l' ↦ l.finish < l'.start) ∧
      (∀ l, l ∈ found ↔ l.StandsIn log.toList ∧ ∃ piece, IsErrorWord piece ∧ piece <:+: l.chars) ∧
      ∀ before piece after, log.toList = before ++ (piece ++ after) → IsErrorWord piece →
        ∃! l, l ∈ found ∧ l.start ≤ before.length ∧ before.length + piece.length ≤ l.finish := by
  refine ⟨fun a b ↦ ?_, fun log ↦ ?_⟩
  · rw [errorLines, errorLines, errorLines, String.toList_append, String.toList_append,
      List.append_assoc, ← List.map_append, ← filter_lines_append looksLikeError_nil]
    rfl
  obtain ⟨placed, hlines, hordered, hstands, hall⟩ := exists_placed log.toList
  have hmem (l : PlacedLine) : l ∈ placed.filter (looksLikeError ·.chars) ↔
      l.StandsIn log.toList ∧ ∃ piece, IsErrorWord piece ∧ piece <:+: l.chars := by
    rw [List.mem_filter, looksLikeError_iff]
    refine and_congr_left ?_
    rintro ⟨piece, hpiece, hinfix⟩
    refine ⟨hstands l, fun hl ↦ hall l hl fun hnil ↦ hpiece.ne_nil ?_⟩
    rwa [hnil, List.infix_nil] at hinfix
  refine ⟨placed.filter (looksLikeError ·.chars), ?_, hordered.filter _, hmem, ?_⟩
  · rw [errorLines, ← hlines, List.filter_map, List.map_map]
    rfl
  intro before piece after hlog hpiece
  obtain ⟨l, hl, hstart, hfinish, hinfix⟩ := exists_covering hlog hpiece.unbroken
  refine ⟨l, ⟨(hmem l).mpr ⟨hl, piece, hpiece, hinfix⟩, hstart, hfinish⟩, ?_⟩
  rintro l' ⟨hl', hstart', hfinish'⟩
  refine eq_of_overlap (hordered.filter _) hl' ((hmem l).mpr ⟨hl, piece, hpiece, hinfix⟩)
    hstart' ?_ hstart ?_ <;> omega

/-! ### A log with mixed boundaries -/

namespace MixedLog

def log : String :=
  "ok\r\nno fAİl\x0bok\u2028Error: again\r"

/-- Case folding goes beyond the capital letters: a dotted capital may stand for the letter. -/
theorem isErrorWord_fail : IsErrorWord "fAİl".toList := by
  refine ⟨"fail", by decide, ?_⟩
  unfold Spells
  decide

/-- The failure in the log lies in its second line and in no other one, and a further log behind the
carriage return at its end leaves both as they are. -/
theorem errorLines_places_log :
    errorLines (log ++ "\n" ++ log) = errorLines log ++ errorLines log ∧
    IsErrorWord "fAİl".toList ∧
    ∃ found : List PlacedLine, errorLines log = found.map (fun l ↦ String.ofList l.chars) ∧
      (⟨4, "no fAİl".toList⟩ : PlacedLine) ∈ found ∧
      ∃! l, l ∈ found ∧ l.start ≤ 7 ∧ 11 ≤ l.finish := by
  obtain ⟨happend, hplaces⟩ := errorLines_places
  obtain ⟨found, hlines, -, hmem, hcover⟩ := hplaces log
  have hstands : (⟨4, "no fAİl".toList⟩ : PlacedLine).StandsIn log.toList := by
    refine ⟨by decide, "ok\r\n".toList, "\x0bok\u2028Error: again\r".toList, by decide, by decide,
      ?_, ?_⟩
    · exact (Option.all_eq_true _ _).mp (by decide)
    · exact (Option.all_eq_true _ _).mp (by decide)
  refine ⟨happend log log, isErrorWord_fail, found, hlines, ?_, ?_⟩
  · exact (hmem _).mpr ⟨hstands, _, isErrorWord_fail, "no ".toList, [], by decide⟩
  · exact hcover "ok\r\nno ".toList _ "\x0bok\u2028Error: again\r".toList (by decide)
      isErrorWord_fail

end MixedLog

end Detect

end ClusterDiagnosis
