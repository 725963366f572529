import ClusterDiagnosis.Proofs.Text.Division
import ClusterDiagnosis.Proofs.Unmasking

/-!
# Masking and unmasking substitute

Masking replaces the values of secrets by their masks, and unmasking the masks by the values. Both
do so in one pass (`Substitutes`): the text has exactly one division by the keys in which each key
is the longest that starts at its place and no key starts in a gap, and the result has the same gaps
with the replacements of the keys between them (`masking_substitutes`). A replacement may contain
keys; it is not read again. If equal keys have equal replacements, the result depends on the set of
the secrets alone.
-/

set_option autoImplicit false
set_option relaxedAutoImplicit false

namespace ClusterDiagnosis

namespace Text.Table

/-- Where equal keys have equal replacements, the same pairs in another order, or some of them
repeated, give each key the same replacement. -/
theorem last?_congr {t u : Table} (hsame : ∀ p, p ∈ t ↔ p ∈ u)
    (hunique : ∀ k v v', (k, v) ∈ t → (k, v') ∈ t → v = v') (k : List Char) :
    t.last? k = u.last? k := by
  cases ht : t.last? k with
  | some v =>
    obtain ⟨v', hv', hmem⟩ := exists_last?_of_mem_keys (mem_keys_of_last? ht)
    obtain rfl : v = v' := Option.some.inj (ht.symm.trans hv')
    exact (last?_eq_some ((hsame _).mp hmem) fun w hw ↦
      hunique k w v ((hsame _).mpr hw) hmem).symm
  | none =>
    cases hu : u.last? k with
    | none => rfl
    | some v =>
      obtain ⟨v', -, hmem⟩ := exists_last?_of_mem_keys (mem_keys_of_last? hu)
      obtain ⟨w, hw, -⟩ := exists_last?_of_mem_keys (List.mem_map_of_mem ((hsame _).mpr hmem))
      rw [ht] at hw
      cases hw

end Text.Table

namespace Masking

open Text

variable {t u : Table} {s : String} {fs gs : List Failure}

/-- A text becomes another one by replacing keys from the left, always the longest: it has exactly
one division by the keys, and the other text has its gaps, with the replacements of its keys between
them. Of pairs with the same key the last counts. -/
def Substitutes (t : Table) (s result : String) : Prop :=
  ∃ d, Divides t.keys s.toList d ∧ (∀ e, Divides t.keys s.toList e → e = d) ∧
    result = String.ofList (d.filled fun k ↦ (t.last? k).getD [])

/-- What the program makes of a text is a substitution in one pass. -/
theorem substitutes_replaced (ht : [] ∉ t.keys) (s : String) :
    Substitutes t s (replaced t s) := by
  obtain ⟨d, hd, hunique⟩ := existsUnique_divides t.keys s.toList
  exact ⟨d, hd, hunique, by rw [replaced_eq_substitute ht, substitute_eq_filled ht hd]⟩

/-- What a text becomes depends on the keys and on what replaces each of them. -/
theorem Substitutes.congr {r r' : String} (h : Substitutes t s r) (h' : Substitutes u s r')
    (hkeys : ∀ k, k ∈ t.keys ↔ k ∈ u.keys) (hlast : ∀ k, t.last? k = u.last? k) : r = r' := by
  obtain ⟨d, hd, -, rfl⟩ := h
  obtain ⟨e, -, hunique, rfl⟩ := h'
  obtain rfl := hunique d (hd.congr hkeys)
  simp only [hlast]

/-- A table made of the secrets of failures replaces keys alike for all failures that declare the
same secrets, if equal keys have equal replacements. -/
theorem replaced_congr {pair : Secret → List Char × List Char}
    (hnil : [] ∉ Table.keys ((secrets fs).map pair))
    (hsame : ∀ a, a ∈ secrets fs ↔ a ∈ secrets gs)
    (hunique : ∀ a ∈ secrets fs, ∀ b ∈ secrets fs, (pair a).1 = (pair b).1 →
      (pair a).2 = (pair b).2) (s : String) :
    replaced ((secrets fs).map pair) s = replaced ((secrets gs).map pair) s := by
  have hpairs (p : List Char × List Char) :
      p ∈ (secrets fs).map pair ↔ p ∈ (secrets gs).map pair := by
    simp only [List.mem_map, hsame]
  have hkeys (k : List Char) :
      k ∈ Table.keys ((secrets fs).map pair) ↔ k ∈ Table.keys ((secrets gs).map pair) := by
    simp only [Table.keys, List.mem_map, hsame]
  have hlast : ∀ k, Table.last? ((secrets fs).map pair) k =
      Table.last? ((secrets gs).map pair) k := by
    refine Table.last?_congr hpairs fun k v v' hv hv' ↦ ?_
    obtain ⟨a, ha, hpair⟩ := List.mem_map.mp hv
    obtain ⟨b, hb, hpair'⟩ := List.mem_map.mp hv'
    have h := hunique a ha b hb
    rw [hpair, hpair'] at h
    exact h rfl
  exact (substitutes_replaced hnil s).congr
    (substitutes_replaced (fun h ↦ hnil ((hkeys []).mpr h)) s) hkeys hlast

/-- Masking replaces the longest values from the left and reads no mask again; so does unmasking
with masks, if none of them is empty. If equal values have equal masks, then all failures that
declare the same secrets, in any order and however often, mask a text alike; and if equal masks
stand for equal values, they unmask it alike. -/
theorem masking_substitutes (s : String) (fs : List Failure) :
    Substitutes (maskTable fs) s (maskText s fs) ∧
    ((∀ a ∈ secrets fs, a.mask ≠ "") → Substitutes (plainTable fs) s (unmaskText s fs)) ∧
    ∀ gs, (∀ a, a ∈ secrets fs ↔ a ∈ secrets gs) →
      ((∀ a ∈ secrets fs, ∀ b ∈ secrets fs, a.plain = b.plain → a.mask = b.mask) →
        maskText s fs = maskText s gs) ∧
      ((∀ a ∈ secrets fs, a.mask ≠ "") → MasksDiffer fs → unmaskText s fs = unmaskText s gs) := by
  refine ⟨substitutes_replaced (nil_notMem_keys_maskTable fs) s,
    fun hmask ↦ substitutes_replaced (nil_notMem_keys_plainTable hmask) s, fun gs hsame ↦ ⟨?_, ?_⟩⟩
  · intro hequal
    refine replaced_congr (nil_notMem_keys_maskTable fs) hsame (fun a ha b hb h ↦ ?_) s
    exact congrArg String.toList (hequal a ha b hb (String.toList_inj.mp h))
  · intro hmask hdiffer
    refine replaced_congr (nil_notMem_keys_plainTable hmask) hsame (fun a ha b hb h ↦ ?_) s
    exact congrArg String.toList (hdiffer a ha b hb (String.toList_inj.mp h))

/-! ### Values that contain each other -/

namespace NestedNames

/-- A failure with a value that starts another one, which a third one overlaps. -/
def declared : Failure where
  text := "web.api web"
  secrets := [⟨"web", "api-w"⟩, ⟨"web.api", "m"⟩, ⟨"api web", "n"⟩]

/-- The same values in two failures, one of them twice. -/
def scattered : List Failure :=
  [{ text := "x", secrets := [⟨"api web", "n"⟩, ⟨"web", "api-w"⟩] },
    { text := "y", secrets := [⟨"web.api", "m"⟩, ⟨"web", "api-w"⟩] }]

/-- The overlapping value is not found, since the longest value in front of it is. -/
example : maskText declared.text [declared] = "m api-w" := by
  decide +kernel

theorem masking_substitutes_declared :
    (∀ a ∈ secrets [declared], a.mask ≠ "") ∧
      (∀ a, a ∈ secrets [declared] ↔ a ∈ secrets scattered) ∧
      (∀ a ∈ secrets [declared], ∀ b ∈ secrets [declared], a.plain = b.plain → a.mask = b.mask) ∧
      MasksDiffer [declared] ∧
      Substitutes (plainTable [declared]) "m api-w" (unmaskText "m api-w" [declared]) ∧
      maskText "m api-w" [declared] = maskText "m api-w" scattered ∧
      unmaskText "m api-w" [declared] = unmaskText "m api-w" scattered := by
  have hmask : ∀ a ∈ secrets [declared], a.mask ≠ "" := by decide
  have hsame : ∀ a, a ∈ secrets [declared] ↔ a ∈ secrets scattered := by
    have hsub : secrets [declared] ⊆ secrets scattered := by decide
    have hsuper : secrets scattered ⊆ secrets [declared] := by decide
    exact fun a ↦ ⟨fun ha ↦ hsub ha, fun ha ↦ hsuper ha⟩
  have hequal : ∀ a ∈ secrets [declared], ∀ b ∈ secrets [declared],
      a.plain = b.plain → a.mask = b.mask := by decide
  have hdiffer : MasksDiffer [declared] := by
    unfold MasksDiffer
    decide
  obtain ⟨-, hunmask, hset⟩ := masking_substitutes "m api-w" [declared]
  exact ⟨hmask, hsame, hequal, hdiffer, hunmask hmask, (hset scattered hsame).1 hequal,
    (hset scattered hsame).2 hmask hdiffer⟩

end NestedNames

end Masking

end ClusterDiagnosis
