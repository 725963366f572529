import ClusterDiagnosis.Text.Search
import Mathlib.Tactic.Common

/-!
# Texts in parts

A text that was put together from parts with a separator between them is cut at the separator into
these parts, as long as none of them holds it (`splitAt_intercalate`). A text with a separator in it
is cut at the first one into what stands in front of it and behind it (`cutFirst?_append_cons`).
-/

set_option autoImplicit false
set_option relaxedAutoImplicit false

namespace ClusterDiagnosis.Text

variable {sep : Char} {cs : List Char} {parts : List (List Char)}

theorem splitAt_of_notMem (h : sep ∉ cs) : splitAt sep cs = [cs] := by
  induction cs with
  | nil => rfl
  | cons c cs ih =>
    rw [List.mem_cons, not_or] at h
    rw [splitAt, if_neg (Ne.symm h.1), ih h.2]

/-- The first part goes up to the first separator. -/
theorem splitAt_append_cons (h : sep ∉ cs) (rest : List Char) :
    splitAt sep (cs ++ sep :: rest) = cs :: splitAt sep rest := by
  induction cs with
  | nil => simp [splitAt]
  | cons c cs ih =>
    rw [List.mem_cons, not_or] at h
    rw [List.cons_append, splitAt, if_neg (Ne.symm h.1), ih h.2]

theorem splitAt_ne_nil (sep : Char) (cs : List Char) : splitAt sep cs ≠ [] := by
  induction cs with
  | nil => exact List.cons_ne_nil _ _
  | cons c cs ih =>
    obtain ⟨part, parts, hparts⟩ := List.exists_cons_of_ne_nil ih
    rw [splitAt, hparts]
    split <;> exact List.cons_ne_nil _ _

/-- A text is cut in front of a separator as if it stood alone. -/
theorem splitAt_append (cs rest : List Char) :
    splitAt sep (cs ++ sep :: rest) = splitAt sep cs ++ splitAt sep rest := by
  induction cs with
  | nil => simp [splitAt]
  | cons c cs ih =>
    obtain ⟨part, parts, hparts⟩ := List.exists_cons_of_ne_nil (splitAt_ne_nil sep cs)
    rw [List.cons_append, splitAt, splitAt, ih, hparts]
    split <;> rfl

/-- Parts with a separator in front of each are cut from each other and from what stands in front of
them. -/
theorem splitAt_append_flatMap {α : Type} {part : α → List Char} {xs : List α} (hcs : sep ∉ cs)
    (h : ∀ x ∈ xs, sep ∉ part x) :
    splitAt sep (cs ++ xs.flatMap fun x ↦ sep :: part x) = cs :: xs.map part := by
  induction xs generalizing cs with
  | nil => simpa using splitAt_of_notMem hcs
  | cons x xs ih =>
    obtain ⟨hx, hxs⟩ := List.forall_mem_cons.mp h
    rw [List.flatMap_cons, List.cons_append, splitAt_append_cons hcs, ih hx hxs, List.map_cons]

/-- Cutting undoes the putting together of parts, but for a text of no parts, which is cut into one
that is empty. -/
theorem splitAt_intercalate (hne : parts ≠ []) (h : ∀ part ∈ parts, sep ∉ part) :
    splitAt sep ([sep].intercalate parts) = parts := by
  induction parts with
  | nil => exact absurd rfl hne
  | cons part parts ih =>
    obtain ⟨hpart, hparts⟩ := List.forall_mem_cons.mp h
    cases parts with
    | nil => rw [List.intercalate_singleton, splitAt_of_notMem hpart]
    | cons next parts =>
      rw [List.intercalate_cons_cons, List.append_assoc, List.singleton_append,
        splitAt_append_cons hpart, ih (List.cons_ne_nil _ _) hparts]

theorem cutFirst?_append_cons (h : sep ∉ cs) (rest : List Char) :
    cutFirst? sep (cs ++ sep :: rest) = some (cs, rest) := by
  induction cs with
  | nil => simp [cutFirst?]
  | cons c cs ih =>
    rw [List.mem_cons, not_or] at h
    rw [List.cons_append, cutFirst?, if_neg (Ne.symm h.1), ih h.2]
    rfl

end ClusterDiagnosis.Text
