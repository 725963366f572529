import ClusterDiagnosis.Proofs.Masking
import ClusterDiagnosis.Proofs.Text.Recut

/-!
# Masking and back

A text that was masked with the secrets of some failures is unmasked with those of more failures, as
a rule with all failures of the diagnosis. That gives the text back (`unmaskText_maskText`) if
different values have different masks and no mask shows up in the masked text by accident: wherever
one occurs, masking wrote it there.
-/

set_option autoImplicit false
set_option relaxedAutoImplicit false

namespace ClusterDiagnosis.Masking

open Text

variable {fs gs : List Failure} {s : String} {ps : List Piece}

/-- Masking the text writes the mask `m` for a value, right behind `front`. -/
def Writes (fs : List Failure) (s : String) (front m : List Char) : Prop :=
  ∃ ps k qs, Cut (maskTable fs).keys s.toList (ps ++ .key k :: qs) ∧
    ps.flatMap (maskTable fs).written = front ∧ (maskTable fs).written (.key k) = m

/-- Different values of the failures have different masks. -/
def MasksDiffer (fs : List Failure) : Prop :=
  ∀ a ∈ secrets fs, ∀ b ∈ secrets fs, a.mask = b.mask → a.plain = b.plain

/-- No mask is empty, so no key of the table is. -/
theorem nil_notMem_keys_plainTable (hmask : ∀ a ∈ secrets gs, a.mask ≠ "") :
    [] ∉ (plainTable gs).keys := by
  simp only [plainTable, Table.keys, List.map_map, List.mem_map, Function.comp_apply, not_exists,
    not_and, String.toList_eq_nil_iff]
  exact hmask

/-- What masking writes for a value of its cut is the mask of a secret with this value. -/
theorem exists_secret_of_key {k : List Char} (h : Cut (maskTable fs).keys s.toList ps)
    (hk : .key k ∈ ps) : ∃ a ∈ secrets fs, a.plain.toList = k ∧
      (maskTable fs).written (.key k) = a.mask.toList := by
  obtain ⟨value, hvalue, hmem⟩ := Table.exists_last?_of_mem_keys (h.key_mem hk)
  obtain ⟨a, ha, hpair⟩ := List.mem_map.mp hmem
  obtain ⟨rfl, rfl⟩ := Prod.mk.inj hpair
  exact ⟨a, ha, rfl, by rw [Table.written, hvalue, Option.getD_some]⟩

/-- The mask of a secret is replaced by its value, where different values have different masks. -/
theorem last?_plainTable (hdiffer : MasksDiffer gs) {a : Secret} (ha : a ∈ secrets gs) :
    (plainTable gs).last? a.mask.toList = some a.plain.toList := by
  refine Table.last?_eq_some (List.mem_map_of_mem ha) fun v hv ↦ ?_
  obtain ⟨b, hb, hpair⟩ := List.mem_map.mp hv
  obtain ⟨hmask, rfl⟩ := Prod.mk.inj hpair
  rw [hdiffer b hb a ha (String.toList_inj.mp hmask)]

/-- A mask that occurs in the masked text only where masking wrote it was written there for a piece
of the cut. -/
theorem occursWritten_of_writes {m : List Char} (h : Cut (maskTable fs).keys s.toList ps)
    (honly : ∀ front back, (maskText s fs).toList = front ++ m ++ back → Writes fs s front m) :
    OccursWritten (maskTable fs) ps m := by
  intro front back hfront
  rw [← String.toList_ofList (l := ps.flatMap _), ← maskText_eq_of_cut h] at hfront
  obtain ⟨qs, k, rs, hcut, hqs, hk⟩ := honly front back hfront
  exact ⟨qs, k, rs, h.unique hcut, hqs, hk⟩

/-- Masking with the secrets of some failures is undone by unmasking with those of failures that
declare them all and maybe more, if masks are not empty, different values have different masks, and
every occurrence of a mask in the masked text is where masking wrote that very mask. How many masks
a value has does not matter. -/
theorem unmaskText_maskText (hsub : secrets fs ⊆ secrets gs)
    (hmask : ∀ a ∈ secrets gs, a.mask ≠ "") (hdiffer : MasksDiffer gs)
    (honly : ∀ a ∈ secrets gs, ∀ front back,
      (maskText s fs).toList = front ++ a.mask.toList ++ back → Writes fs s front a.mask.toList) :
    unmaskText (maskText s fs) gs = s := by
  have hplain := nil_notMem_keys_plainTable hmask
  have hvalues := nil_notMem_keys_maskTable fs
  obtain ⟨ps, hcut⟩ := exists_cut (maskTable fs).keys s.toList
  have hback (k : List Char) (hk : .key k ∈ ps) :
      (plainTable gs).last? ((maskTable fs).written (.key k)) = some k := by
    obtain ⟨a, ha, rfl, hwritten⟩ := exists_secret_of_key hcut hk
    rw [hwritten, last?_plainTable hdiffer (hsub ha)]
  have hoccurs (m : List Char) (hm : m ∈ (plainTable gs).keys) :
      OccursWritten (maskTable fs) ps m := by
    obtain ⟨_, hpair, rfl⟩ := List.mem_map.mp hm
    obtain ⟨a, ha, rfl⟩ := List.mem_map.mp hpair
    exact occursWritten_of_writes hcut (honly a ha)
  rw [unmaskText, maskText, replaced_eq_substitute hvalues, replaced_eq_substitute hplain,
    String.toList_ofList, substitute_substitute hvalues hplain hcut hback hoccurs,
    String.ofList_toList]

/-! ### A value that starts another one, and one inside a mask -/

namespace LabelOfService

/-- A failure two of whose values start with the same characters, while the third occurs in the
mask of another one. -/
def labelled : Failure where
  text := "web-api:5"
  secrets := [⟨"web", "a15"⟩, ⟨"web-api", "b5c"⟩, ⟨"5", "d"⟩]

/-- A failure of the same object that declares a value of its own. -/
def named : Failure where
  text := "x"
  secrets := [⟨"x", "e7"⟩]

/-- The cut of the text by the values of its failure. -/
def pieces : List Piece :=
  [.key ['w', 'e', 'b', '-', 'a', 'p', 'i'], .kept ':', .key ['5']]

theorem cut_pieces : Cut (maskTable [labelled]).keys labelled.text.toList pieces := by
  have hcut : Cut [['w', 'e', 'b'], ['w', 'e', 'b', '-', 'a', 'p', 'i'], ['5']]
      (['w', 'e', 'b', '-', 'a', 'p', 'i'] ++ ':' :: (['5'] ++ [])) pieces := by
    refine .key ⟨?_, ?_, ?_, ?_⟩ (.kept ?_ (.key ⟨?_, ?_, ?_, ?_⟩ .done))
    all_goals decide
  exact hcut

/-- The masked text. -/
def masked : List Char := ['b', '5', 'c', ':', 'd']

theorem toList_maskText : (maskText labelled.text [labelled]).toList = masked := by
  decide +kernel

theorem writes_masks : Writes [labelled] labelled.text [] ['b', '5', 'c'] ∧
    Writes [labelled] labelled.text ['b', '5', 'c', ':'] ['d'] :=
  ⟨⟨[], _, _, cut_pieces, rfl, rfl⟩, ⟨[_, _], _, [], cut_pieces, rfl, rfl⟩⟩

/-- The places of the masked text where masks start. -/
theorem places_of_masks : ∀ a ∈ secrets [named, labelled], ∀ i ∈ List.range 6,
    a.mask.toList <+: masked.drop i →
      (masked.take i = [] ∧ a.mask.toList = ['b', '5', 'c']) ∨
        (masked.take i = ['b', '5', 'c', ':'] ∧ a.mask.toList = ['d']) := by
  decide +kernel

theorem unmaskText_labelled :
    secrets [labelled] ⊆ secrets [named, labelled] ∧
      (∀ a ∈ secrets [named, labelled], a.mask ≠ "") ∧ MasksDiffer [named, labelled] ∧
      (∀ a ∈ secrets [named, labelled], ∀ front back,
        (maskText labelled.text [labelled]).toList = front ++ a.mask.toList ++ back →
          Writes [labelled] labelled.text front a.mask.toList) ∧
      unmaskText (maskText labelled.text [labelled]) [named, labelled] = labelled.text := by
  have hsub : secrets [labelled] ⊆ secrets [named, labelled] := secrets_subset (by simp)
  have hmask : ∀ a ∈ secrets [named, labelled], a.mask ≠ "" := by decide
  have hdiffer : MasksDiffer [named, labelled] := by
    unfold MasksDiffer
    decide
  have honly : ∀ a ∈ secrets [named, labelled], ∀ front back,
      (maskText labelled.text [labelled]).toList = front ++ a.mask.toList ++ back →
        Writes [labelled] labelled.text front a.mask.toList := by
    intro a ha front back h
    rw [toList_maskText, List.append_assoc] at h
    have hplace : front.length ∈ List.range 6 := by
      have hlength : masked.length = 5 := rfl
      rw [h, List.length_append] at hlength
      rw [List.mem_range]
      omega
    have htake : masked.take front.length = front := by rw [h, List.take_left]
    have hdrop : a.mask.toList <+: masked.drop front.length := by
      rw [h, List.drop_left]
      exact List.prefix_append _ _
    rcases places_of_masks a ha _ hplace hdrop with ⟨hfront, hm⟩ | ⟨hfront, hm⟩
    · rw [← htake, hfront, hm]
      exact writes_masks.1
    · rw [← htake, hfront, hm]
      exact writes_masks.2
  exact ⟨hsub, hmask, hdiffer, honly, unmaskText_maskText hsub hmask hdiffer honly⟩

end LabelOfService

end ClusterDiagnosis.Masking
