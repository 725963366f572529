/-!
Searching a text for a fixed piece: where it first occurs, whether it occurs, and the text with
every occurrence taken out.
-/

set_option autoImplicit false
set_option relaxedAutoImplicit false

namespace ClusterDiagnosis.Text

/-- What follows `piece` when the text starts with it. -/
def after? : List Char → List Char → Option (List Char)
  | [], cs => some cs
  | _ :: _, [] => none
  | p :: ps, c :: cs => if p = c then after? ps cs else none

theorem eq_append_of_after? {piece cs rest : List Char} (h : after? piece cs = some rest) :
    cs = piece ++ rest := by
  induction piece generalizing cs with
  | nil => simpa [after?] using h
  | cons p ps ih =>
    cases cs with
    | nil => simp [after?] at h
    | cons c cs =>
      simp only [after?] at h
      split at h
      · next hpc => rw [ih h, hpc, List.cons_append]
      · simp at h

/-- Whether the text starts with the piece. -/
def startsWith (piece cs : List Char) : Bool :=
  (after? piece cs).isSome

/-- The longest end of the text that starts with the piece. -/
def from? (piece : List Char) : List Char → Option (List Char)
  | [] => if piece.isEmpty then some [] else none
  | c :: cs => if startsWith piece (c :: cs) then some (c :: cs) else from? piece cs

/-- Whether the piece occurs in the text. -/
def contains (piece cs : List Char) : Bool :=
  (from? piece cs).isSome

/-- Whether the string `piece` occurs in the string `s`. -/
def occurs (piece s : String) : Bool :=
  contains piece.toList s.toList

/-- The text without the occurrences of a non-empty piece that a search from the left meets. -/
def remove (piece : List Char) (cs : List Char) : List Char :=
  match cs with
  | [] => []
  | c :: r =>
    match after? piece (c :: r) with
    | none => c :: remove piece r
    | some rest =>
      if rest.length < (c :: r).length then remove piece rest else c :: remove piece r
termination_by cs.length
decreasing_by
  · exact Nat.lt_succ_self _
  · assumption
  · exact Nat.lt_succ_self _

/-- Cuts at every occurrence of a character; there is always at least one part. -/
def splitAt (sep : Char) : List Char → List (List Char)
  | [] => [[]]
  | c :: r =>
    if c = sep then [] :: splitAt sep r
    else match splitAt sep r with
      | [] => [[c]]
      | p :: ps => (c :: p) :: ps

/-- The texts before and after the first occurrence of a character. -/
def cutFirst? (sep : Char) : List Char → Option (List Char × List Char)
  | [] => none
  | c :: r =>
    if c = sep then some ([], r) else (cutFirst? sep r).map fun (a, b) ↦ (c :: a, b)

/-- What follows the last occurrence of a character; the whole text when there is none. -/
def afterLast (sep : Char) (cs : List Char) : List Char :=
  (cs.reverse.takeWhile (· ≠ sep)).reverse

end ClusterDiagnosis.Text
