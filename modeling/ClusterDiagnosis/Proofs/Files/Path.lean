import ClusterDiagnosis.Files.Path
import ClusterDiagnosis.Proofs.Text.Parts

/-!
# Paths and their texts

A text without slashes is a path of one name, and two such texts with a slash between them are a
path of two (`Path.names_of_isName`, `Path.names_of_two`). A path that goes on has the longer text
(`Path.utf8ByteSize_text_le`).
-/

set_option autoImplicit false
set_option relaxedAutoImplicit false

namespace ClusterDiagnosis

namespace Path

variable {s t root : String} {names others : List String}

/-- A text that may be a name in a path. -/
structure IsName (s : String) : Prop where
  noSlash : '/' ∉ s.toList
  ne_empty : s ≠ ""
  ne_dot : s ≠ "."

/-- A text of two or more characters is a name if it has no slash. -/
theorem IsName.of_length (hslash : '/' ∉ s.toList) (hlength : 2 ≤ s.toList.length) : IsName s := by
  have hne (u : String) (hu : u.toList.length < 2) : s ≠ u := by
    rintro rfl
    omega
  exact ⟨hslash, hne "" (by decide), hne "." (by decide)⟩

/-- The path of a name has that name only. -/
theorem names_of_isName (h : IsName s) : (of s).names = [s] := by
  rw [of, Text.splitAt_of_notMem h.noSlash]
  simp [h.ne_empty, h.ne_dot]

/-- The path of two names with a slash between them has these two. -/
theorem names_of_two (hs : IsName s) (ht : IsName t) : (of (s ++ "/" ++ t)).names = [s, t] := by
  have hchars : (s ++ "/" ++ t).toList = s.toList ++ '/' :: t.toList := by simp
  rw [of, hchars, Text.splitAt_append_cons hs.noSlash, Text.splitAt_of_notMem ht.noSlash]
  simp [hs.ne_empty, hs.ne_dot, ht.ne_empty, ht.ne_dot]

/-- A path that is not empty is written with its root and with slashes between its names. -/
theorem text_of_ne_nil (h : names ≠ []) :
    (Path.mk root names).text = root ++ "/".intercalate names := by
  simp [text, h]

/-- A path is not longer than one that goes on from it. The empty path is written as a dot, so what
goes on from it takes one byte at least. -/
theorem utf8ByteSize_text_le (root : String) (names : List String)
    (h : "/".intercalate others ≠ "") :
    (Path.mk root names).text.utf8ByteSize ≤
      (Path.mk root (names ++ others)).text.utf8ByteSize := by
  have hsize : 0 < ("/".intercalate others).utf8ByteSize :=
    Nat.pos_of_ne_zero fun hzero ↦ h (String.utf8ByteSize_eq_zero_iff.mp hzero)
  have hne : others ≠ [] := by
    rintro rfl
    exact h rfl
  rw [text_of_ne_nil (List.append_ne_nil_of_right_ne_nil names hne), String.utf8ByteSize_append]
  by_cases hnames : names = []
  · rw [hnames, List.nil_append]
    by_cases hroot : root = ""
    · have hdot : (Path.mk "" []).text.utf8ByteSize = 1 := rfl
      rw [hroot, hdot]
      omega
    · have htext : (Path.mk root []).text = root := by
        simp [text, hroot]
      rw [htext]
      omega
  · rw [text_of_ne_nil hnames, String.intercalate_append_of_ne_nil hnames hne,
      String.utf8ByteSize_append, String.utf8ByteSize_append, String.utf8ByteSize_append]
    omega

end Path

end ClusterDiagnosis
