import ClusterDiagnosis.Pipeline
import ClusterDiagnosis.Proofs.Text.Cut

/-!
# What masking replaces

A failure text leaves the program with the values masked that its own failure declares, while the
name of the object, and a reply that comes back, are masked and unmasked with the values of all
failures. Whether the difference shows depends on the cut of the text by all values: it shows, for
some masks, exactly if the cut meets a value that the failure itself does not declare.
-/

set_option autoImplicit false
set_option relaxedAutoImplicit false

namespace ClusterDiagnosis

/-! ### Other masks for the same values -/

/-- The failure with masks of its values chosen by `mask`. -/
def Failure.remask (mask : String → String) (f : Failure) : Failure :=
  { f with secrets := f.secrets.map fun s ↦ ⟨s.plain, mask s.plain⟩ }

/-- The diagnosis with masks of its values chosen by `mask`. -/
def Diagnosis.remask (mask : String → String) (d : Diagnosis) : Diagnosis :=
  { d with failures := d.failures.map (Failure.remask mask) }

namespace Masking

open Text

/-- The values that masking replaces. -/
def values (fs : List Failure) : List String :=
  (secrets fs).map Secret.plain

/-- Masking a text with the secrets of some failures meets a value: the value is a key of its
cut. -/
def Meets (fs : List Failure) (s p : String) : Prop :=
  ∃ ps, Cut (maskTable fs).keys s.toList ps ∧ .key p.toList ∈ ps

variable {fs : List Failure} {mask : String → String} {s : String} {ps : List Piece}

/-- The table of masks has the values as its keys. -/
theorem keys_maskTable (fs : List Failure) :
    (maskTable fs).keys = (values fs).map String.toList := by
  simp [maskTable, values, Table.keys, Function.comp_def]

/-- No key is empty. -/
theorem nil_notMem_keys_maskTable (fs : List Failure) : [] ∉ (maskTable fs).keys := by
  simp [maskTable, Table.keys, secrets, String.toList_eq_nil_iff]

/-- Other masks leave the values of the secrets as they are. -/
theorem secrets_remask (mask : String → String) (fs : List Failure) :
    secrets (fs.map (Failure.remask mask)) =
      (secrets fs).map fun s ↦ ⟨s.plain, mask s.plain⟩ := by
  simp only [secrets, List.flatMap_map, Failure.remask, ← List.map_flatMap, List.filter_map]
  rfl

/-- The values do not depend on the masks. -/
@[simp] theorem values_remask (mask : String → String) (fs : List Failure) :
    values (fs.map (Failure.remask mask)) = values fs := by
  simp [values, secrets_remask, Function.comp_def]

/-- With a mask made of each value, the table pairs every value with its mask. -/
theorem maskTable_remask (mask : String → String) (fs : List Failure) :
    maskTable (fs.map (Failure.remask mask)) =
      (values fs).map fun p ↦ (p.toList, (mask p).toList) := by
  simp [maskTable, values, secrets_remask, Function.comp_def]

/-- The secrets of one failure are among those of all. -/
theorem secrets_subset {f : Failure} (hf : f ∈ fs) : secrets [f] ⊆ secrets fs := by
  intro a ha
  simp only [secrets, List.flatMap_singleton, List.mem_filter] at ha
  exact List.mem_filter.mpr ⟨List.mem_flatMap.mpr ⟨f, hf, ha.1⟩, ha.2⟩

/-- The values of one failure are among those of all. -/
theorem values_subset {f : Failure} (hf : f ∈ fs) : values [f] ⊆ values fs :=
  List.map_subset _ (secrets_subset hf)

/-- A value's entry is its mask, since equal values have equal masks. -/
theorem last?_remask {p : String} (hp : p ∈ values fs) :
    (maskTable (fs.map (Failure.remask mask))).last? p.toList = some (mask p).toList := by
  rw [maskTable_remask]
  refine Table.last?_eq_some (List.mem_map_of_mem hp) fun v hv ↦ ?_
  obtain ⟨q, -, hq⟩ := List.mem_map.mp hv
  obtain ⟨hqp, rfl⟩ := Prod.mk.inj hq
  rw [String.toList_inj.mp hqp]

/-! ### Masking along the cut -/

/-- Replacing the keys of a table, none of them empty, is substitution. -/
theorem replaced_eq_substitute {t : Table} (ht : [] ∉ t.keys) (s : String) :
    replaced t s = String.ofList (substitute t s.toList) := by
  rw [replaced]
  split_ifs with hempty
  · rcases Bool.or_eq_true_iff.mp hempty with hs | ht'
    · rw [String.isEmpty_iff.mp hs, String.toList_empty, substitute, Table.gap_eq_nil ht,
        String.ofList_nil]
    · rw [List.isEmpty_iff.mp ht', substitute_nil, String.ofList_toList]
  · rfl

/-- Masking writes out a cut of the text with each key replaced. -/
theorem maskText_eq_of_cut (h : Cut (maskTable fs).keys s.toList ps) :
    maskText s fs = String.ofList (ps.flatMap (maskTable fs).written) := by
  rw [maskText, replaced_eq_substitute (nil_notMem_keys_maskTable fs),
    substitute_eq_of_cut (nil_notMem_keys_maskTable fs) h]

/-- A key that is a value is written as its mask. -/
theorem written_remask {p : String} (hp : p ∈ values fs) :
    (maskTable (fs.map (Failure.remask mask))).written (.key p.toList) = (mask p).toList := by
  rw [Table.written, last?_remask hp, Option.getD_some]

/-- Which keys the table has does not depend on the masks. -/
theorem keys_maskTable_remask (mask : String → String) (fs : List Failure) :
    (maskTable (fs.map (Failure.remask mask))).keys = (maskTable fs).keys := by
  rw [keys_maskTable, keys_maskTable, values_remask]

/-- A key of the cut is a value, as a string. -/
theorem exists_value_of_key {k : List Char} (h : Cut (maskTable fs).keys s.toList ps)
    (hk : .key k ∈ ps) : ∃ p ∈ values fs, p.toList = k := by
  have hmem := h.key_mem hk
  rw [keys_maskTable] at hmem
  exact List.mem_map.mp hmem

/-- If the cut by the values of all failures meets values of `f` only, then masking with `f` alone
is masking with all failures. -/
theorem maskText_singleton_eq {f : Failure} (hf : f ∈ fs)
    (h : ∀ p, Meets fs f.text p → p ∈ values [f]) (mask : String → String) :
    maskText f.text [f.remask mask] = maskText f.text (fs.map (Failure.remask mask)) := by
  obtain ⟨ps, hall⟩ := exists_cut (maskTable fs).keys f.text.toList
  have hown : Cut (maskTable [f]).keys f.text.toList ps := by
    refine hall.of_subset ?_ fun k hk ↦ ?_
    · simpa only [keys_maskTable] using List.map_subset _ (values_subset hf)
    · obtain ⟨p, -, rfl⟩ := exists_value_of_key hall hk
      rw [keys_maskTable]
      exact List.mem_map_of_mem (h p ⟨ps, hall, hk⟩)
  have hwritten : ∀ piece ∈ ps, (maskTable ([f].map (Failure.remask mask))).written piece =
      (maskTable (fs.map (Failure.remask mask))).written piece := by
    intro piece hpiece
    cases piece with
    | kept c => rfl
    | key k =>
      obtain ⟨p, hp, rfl⟩ := exists_value_of_key hall hpiece
      rw [written_remask hp, written_remask (h p ⟨ps, hall, hpiece⟩)]
  rw [← keys_maskTable_remask mask] at hall hown
  calc maskText f.text [f.remask mask]
      = String.ofList (ps.flatMap (maskTable ([f].map (Failure.remask mask))).written) :=
        maskText_eq_of_cut hown
    _ = String.ofList (ps.flatMap (maskTable (fs.map (Failure.remask mask))).written) := by
        rw [List.flatMap_congr hwritten]
    _ = maskText f.text (fs.map (Failure.remask mask)) := (maskText_eq_of_cut hall).symm

/-- A mask of a value that the cut meets is written into the text. -/
theorem length_le_length_maskText {p : String} (h : Meets fs s p) (mask : String → String) :
    (mask p).length ≤ (maskText s (fs.map (Failure.remask mask))).length := by
  obtain ⟨ps, hcut, hkey⟩ := h
  obtain ⟨q, hq, hqp⟩ := exists_value_of_key hcut hkey
  obtain rfl := String.toList_injective hqp
  rw [← keys_maskTable_remask mask] at hcut
  have hsub := List.sublist_flatten_of_mem
    (List.mem_map_of_mem (f := (maskTable (fs.map (Failure.remask mask))).written) hkey)
  rw [written_remask hq] at hsub
  rw [maskText_eq_of_cut hcut, String.length_ofList, List.flatMap_def, ← String.length_toList]
  exact hsub.length_le

/-- With empty masks a masked text is no longer than the text. -/
theorem length_maskText_le (hmask : ∀ p ∈ values fs, mask p = "") :
    (maskText s (fs.map (Failure.remask mask))).length ≤ s.length := by
  obtain ⟨ps, hcut⟩ := exists_cut (maskTable fs).keys s.toList
  have hkeys (k : List Char) (hk : .key k ∈ ps) :
      ((maskTable (fs.map (Failure.remask mask))).written (.key k)).length ≤ k.length := by
    obtain ⟨p, hp, rfl⟩ := exists_value_of_key hcut hk
    rw [written_remask hp, hmask p hp]
    exact Nat.zero_le _
  have hle := length_flatMap_written_le hcut hkeys
  rw [← keys_maskTable_remask mask] at hcut
  rwa [maskText_eq_of_cut hcut, String.length_ofList, ← String.length_toList]

/-- If masking with `f` alone is masking with all failures whatever the masks are, then the cut by
the values of all failures meets values of `f` only. The masks that tell are empty for the values of
`f` and longer than the whole text for the others. -/
theorem mem_values_of_meets {f : Failure} {p : String}
    (h : ∀ mask : String → String,
      maskText f.text [f.remask mask] = maskText f.text (fs.map (Failure.remask mask)))
    (hp : Meets fs f.text p) : p ∈ values [f] := by
  by_contra hforeign
  let mask (q : String) : String := if q ∈ values [f] then "" else f.text ++ "*"
  have hown : (maskText f.text ([f].map (Failure.remask mask))).length ≤ f.text.length :=
    length_maskText_le fun q hq ↦ if_pos hq
  have hall := length_le_length_maskText hp mask
  rw [← h mask, show mask p = f.text ++ "*" from if_neg hforeign, String.length_append] at hall
  rw [List.map_singleton] at hown
  have hone : "*".length = 1 := rfl
  omega

/-- The text of a failure is masked as if with the values of all failures, whatever the masks are,
exactly if its cut by all values meets only values that the failure itself declares. -/
theorem maskText_singleton_eq_iff {f : Failure} (hf : f ∈ fs) :
    (∀ mask : String → String,
      maskText f.text [f.remask mask] = maskText f.text (fs.map (Failure.remask mask))) ↔
        ∀ p, Meets fs f.text p → p ∈ values [f] :=
  ⟨fun h _ hp ↦ mem_values_of_meets h hp, maskText_singleton_eq hf⟩

end Masking

open Masking

/-- What leaves the program of a diagnosis: the name with the values of all failures masked, and
each failure text with its own. That the texts, too, have the values of all failures masked is
true, whatever the masks are, exactly if no text meets a value that only other failures declare. -/
theorem Enrichment.failureTexts_eq (d : Diagnosis) :
    failureTexts true d = d.failures.map (fun f ↦ maskText f.text [f]) ∧
      displayName true d = maskText d.name d.failures ∧
      ((∀ mask : String → String,
          failureTexts true (d.remask mask) =
            (d.remask mask).failures.map fun f ↦ maskText f.text (d.remask mask).failures) ↔
        ∀ f ∈ d.failures, ∀ p, Meets d.failures f.text p → p ∈ values [f]) := by
  refine ⟨rfl, rfl, ?_⟩
  have htexts (mask : String → String) :
      failureTexts true (d.remask mask) =
          (d.remask mask).failures.map (fun f ↦ maskText f.text (d.remask mask).failures) ↔
        ∀ f ∈ d.failures,
          maskText f.text [f.remask mask] =
            maskText f.text (d.failures.map (Failure.remask mask)) := by
    simp only [failureTexts, Diagnosis.remask, List.map_map]
    exact List.map_inj_left
  simp only [htexts]
  constructor
  · intro h f hf
    exact (maskText_singleton_eq_iff hf).mp fun mask ↦ h mask f hf
  · intro h mask f hf
    exact (maskText_singleton_eq_iff hf).mpr (h f hf) mask

namespace MissingServiceAndClass

/-- A set whose service and storage class are missing. Only the first failure declares the
namespace, and it starts the name of the class. -/
def diagnosis : Diagnosis where
  kind := "StatefulSet"
  name := "prod/db"
  failures := [
    { text := "StatefulSet uses the service prod/db which does not exist."
      secrets := [⟨"prod", "aaaa1111"⟩, ⟨"db", "bbbb2222"⟩] },
    { text := "StatefulSet uses the storage class prod-ssd which does not exist." }]

/-- The namespace leaves the program inside the second text, although it is masked in the first one
and in the name. -/
theorem failureTexts_leak :
    Enrichment.displayName true diagnosis = "aaaa1111/bbbb2222" ∧
      Enrichment.failureTexts true diagnosis =
        ["StatefulSet uses the service aaaa1111/bbbb2222 which does not exist.",
          "StatefulSet uses the storage class prod-ssd which does not exist."] ∧
      (diagnosis.failures.map fun f ↦ maskText f.text diagnosis.failures) =
        ["StatefulSet uses the service aaaa1111/bbbb2222 which does not exist.",
          "StatefulSet uses the storage class aaaa1111-ssd which does not exist."] := by
  decide +kernel

end MissingServiceAndClass

end ClusterDiagnosis
