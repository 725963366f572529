import ClusterDiagnosis.Proofs.Text.Blank
import ClusterDiagnosis.Proofs.Text.Cut

/-!
# Substitution and blanks around a text

Keys that have no characters of a class at their ends neither start nor end in such characters, so
that the cut of a text stays the same when some are put in front of the text or behind it, and
substitution leaves them where they are (`substitute_padded`).
-/

set_option autoImplicit false
set_option relaxedAutoImplicit false

namespace ClusterDiagnosis.Text

variable {p : Char → Bool} {keys : List (List Char)} {k cs front back : List Char}
  {ps : List Piece}

/-- A trimmed key that starts a text with characters of the class behind it ends in the text. -/
theorem IsTrimmed.starts_of_append (hk : IsTrimmed p k) (hback : ∀ c ∈ back, p c = true)
    (h : k <+: cs ++ back) : k <+: cs := by
  by_cases hlength : k.length ≤ cs.length
  · exact List.prefix_of_prefix_length_le h (List.prefix_append cs back) hlength
  · obtain ⟨rest, rfl⟩ := List.prefix_of_prefix_length_le (List.prefix_append cs back) h (by omega)
    have hrest : rest <+: back := (List.prefix_append_right_inj cs).mp h
    have hne : rest ≠ [] := by
      rintro rfl
      simp at hlength
    have hlast := hk.last (rest.getLast hne)
      (by rw [List.getLast?_append_of_ne_nil _ hne, List.getLast?_eq_some_getLast hne]; rfl)
    rw [hback _ (hrest.subset (List.getLast_mem hne))] at hlast
    cases hlast

/-- No trimmed key starts with a character of the class. -/
theorem noKey_cons (hkeys : ∀ k ∈ keys, IsTrimmed p k) {c : Char} (hc : p c = true)
    (cs : List Char) : NoKey keys (c :: cs) := by
  intro k hk hne hstarts
  obtain ⟨d, ds, rfl⟩ := List.exists_cons_of_ne_nil hne
  obtain rfl := (List.cons_prefix_cons.mp hstarts).1
  have hfirst := (hkeys _ hk).first d rfl
  rw [hc] at hfirst
  cases hfirst

/-- White space in front of a text stays outside of the keys that have none around them. -/
theorem cut_append_left (hkeys : ∀ k ∈ keys, IsTrimmed p k) (hfront : ∀ c ∈ front, p c = true)
    (h : Cut keys cs ps) : Cut keys (front ++ cs) (front.map .kept ++ ps) := by
  induction front with
  | nil => exact h
  | cons c front ih =>
    obtain ⟨hc, hfront⟩ := List.forall_mem_cons.mp hfront
    exact .kept (noKey_cons hkeys hc _) (ih hfront)

/-- So does white space behind it. -/
theorem cut_append_right (hkeys : ∀ k ∈ keys, IsTrimmed p k) (hback : ∀ c ∈ back, p c = true)
    (h : Cut keys cs ps) : Cut keys (cs ++ back) (ps ++ back.map .kept) := by
  induction h with
  | done =>
    have hrest := cut_append_left hkeys hback .done
    rwa [List.append_nil, List.append_nil] at hrest
  | kept hno _ ih =>
    refine .kept (fun k hk hne hstarts ↦ hno k hk hne ?_) ih
    exact (hkeys k hk).starts_of_append hback hstarts
  | key hlongest _ ih =>
    rw [List.append_assoc]
    refine .key ⟨hlongest.mem, hlongest.ne_nil, List.prefix_append _ _, fun k hk hstarts ↦ ?_⟩ ih
    rw [← List.append_assoc] at hstarts
    exact hlongest.longest k hk ((hkeys k hk).starts_of_append hback hstarts)

/-- What stands around a text is left where it is, if the keys are trimmed of such characters. -/
theorem substitute_padded {t : Table} (hnil : [] ∉ t.keys) (hkeys : ∀ k ∈ t.keys, IsTrimmed p k)
    (hfront : ∀ c ∈ front, p c = true) (hback : ∀ c ∈ back, p c = true) (cs : List Char) :
    substitute t (front ++ cs ++ back) = front ++ substitute t cs ++ back := by
  obtain ⟨ps, hps⟩ := exists_cut t.keys cs
  have hkept (ds : List Char) : (ds.map Piece.kept).flatMap t.written = ds := by
    simp [List.flatMap_map, Table.written]
  have hcut := cut_append_right hkeys hback (cut_append_left hkeys hfront hps)
  rw [substitute_eq_of_cut hnil hcut, substitute_eq_of_cut hnil hps, List.flatMap_append,
    List.flatMap_append, hkept, hkept]

end ClusterDiagnosis.Text
