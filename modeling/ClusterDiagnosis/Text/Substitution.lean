import ClusterDiagnosis.Text.Search

/-!
Substitution of many keys at once. The text is read once from the left; where keys start, the
longest of them is replaced and reading goes on behind it, so a replacement is never read again.
An empty key stands at every place where no other key starts, the end of the text included.
-/

set_option autoImplicit false
set_option relaxedAutoImplicit false

namespace ClusterDiagnosis.Text

/-- Pairs of a key and its replacement. Of pairs with the same key the last counts. -/
abbrev Table := List (List Char × List Char)

namespace Table

/-- The replacement of the longest key that starts the text, and the text behind that key. Empty
keys are passed over. -/
def longest? (t : Table) (cs : List Char) : Option (List Char × List Char) :=
  t.foldl (fun best (key, value) ↦
    if key.isEmpty then best
    else match after? key cs with
      | none => best
      | some rest =>
        match best with
        | none => some (value, rest)
        | some (v, shortest) =>
          if rest.length ≤ shortest.length then some (value, rest) else some (v, shortest)) none

/-- What the empty key is replaced by. -/
def gap (t : Table) : List Char :=
  t.foldl (fun found (key, value) ↦ if key.isEmpty then value else found) []

end Table

/-- The text with the keys of the table replaced. -/
def substitute (t : Table) (cs : List Char) : List Char :=
  match cs with
  | [] => t.gap
  | c :: r =>
    match t.longest? (c :: r) with
    | none => t.gap ++ c :: substitute t r
    | some (value, rest) =>
      if rest.length < (c :: r).length then value ++ substitute t rest
      else t.gap ++ c :: substitute t r
termination_by cs.length
decreasing_by
  · exact Nat.lt_succ_self _
  · assumption
  · exact Nat.lt_succ_self _

end ClusterDiagnosis.Text
