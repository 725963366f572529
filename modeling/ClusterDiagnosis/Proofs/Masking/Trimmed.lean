import ClusterDiagnosis.Pipeline
import ClusterDiagnosis.Proofs.Detect.Secrets
import ClusterDiagnosis.Proofs.Text.Padding
import ClusterDiagnosis.Proofs.Unmasking

/-!
# Masks and trimming

The mask of a value consists of hexadecimal digits (`notBlank_of_mem_maskOf`), of at least one. A
reply is trimmed before its masks are undone. With such masks this is as good as trimming it
afterwards (`trim_restored_trim`), for blanks around the reply belong to no mask.
-/

set_option autoImplicit false
set_option relaxedAutoImplicit false

namespace ClusterDiagnosis

open Text

/-! ### Hexadecimal digits -/

/-- A number is written with digits of its base. -/
theorem exists_digitChar_of_mem_toDigits {b : Nat} (hb : 1 < b) {n : Nat} {c : Char}
    (hc : c ∈ Nat.toDigits b n) : ∃ k, k < b ∧ k.digitChar = c := by
  induction n using Nat.strong_induction_on with
  | h n ih =>
    rw [Nat.toDigits_eq_if hb] at hc
    split at hc
    · next hn => exact ⟨n, hn, (List.mem_singleton.mp hc).symm⟩
    · next hn =>
      rcases List.mem_append.mp hc with hfront | hlast
      · exact ih (n / b) (Nat.div_lt_self (by omega) hb) hfront
      · exact ⟨n % b, Nat.mod_lt n (by omega), (List.mem_singleton.mp hlast).symm⟩

/-- A hexadecimal digit is no white space. -/
theorem notBlank_digitChar : ∀ k, k < 16 → isBlank k.digitChar = false := by
  decide

/-- A word of a digest has no white space in it. -/
theorem Sha256.notBlank_of_mem_hexWord {w : UInt32} : ∀ c ∈ hexWord w, isBlank c = false := by
  intro c hc
  rcases List.mem_append.mp hc with hfill | hdigit
  · rw [List.eq_of_mem_replicate hfill]
    decide
  · obtain ⟨k, hk, rfl⟩ := exists_digitChar_of_mem_toDigits (by decide) hdigit
    exact notBlank_digitChar k hk

/-- A digest is not empty. -/
theorem Sha256.hexDigest_ne_nil (bytes : List UInt8) : hexDigest bytes ≠ [] := by
  intro h
  have hfirst := List.flatMap_eq_nil_iff.mp h _ List.mem_cons_self
  exact Nat.toDigits_ne_nil (List.append_eq_nil_iff.mp hfirst).2

/-! ### Masks -/

/-- A mask has no white space in it. -/
theorem notBlank_of_mem_maskOf {value : String} :
    ∀ c ∈ (maskOf value).toList, isBlank c = false := by
  intro c hc
  rw [maskOf, String.toList_ofList] at hc
  obtain ⟨w, -, hw⟩ := List.mem_flatMap.mp (List.mem_of_mem_take hc)
  exact Sha256.notBlank_of_mem_hexWord c hw

/-- A mask is not empty. -/
theorem maskOf_ne_empty (value : String) : maskOf value ≠ "" := by
  rw [maskOf, ne_eq, String.ofList_eq_empty_iff, List.take_eq_nil_iff, not_or]
  exact ⟨by omega, Sha256.hexDigest_ne_nil _⟩

namespace Masking

variable {fs : List Failure}

/-- In coherent failures every mask is that of its value. -/
theorem mask_eq_of_mem_secrets (h : ∀ f ∈ fs, f.Coherent) :
    ∀ s ∈ secrets fs, s.mask = maskOf s.plain := by
  intro s hs
  obtain ⟨f, hf, hsecret⟩ := List.mem_flatMap.mp (List.mem_filter.mp hs).1
  exact (h f hf s hsecret).mask_eq

/-- Unmasking leaves the blanks around a text where they are. -/
theorem toList_unmaskText_padded (h : ∀ f ∈ fs, f.Coherent) {s padded : String}
    {front back : List Char} (hfront : ∀ c ∈ front, isBlank c = true)
    (hback : ∀ c ∈ back, isBlank c = true) (hs : padded.toList = front ++ s.toList ++ back) :
    (unmaskText padded fs).toList = front ++ (unmaskText s fs).toList ++ back := by
  have hmask := mask_eq_of_mem_secrets h
  have hnil : [] ∉ (plainTable fs).keys := by
    refine nil_notMem_keys_plainTable fun a ha ↦ ?_
    rw [hmask a ha]
    exact maskOf_ne_empty _
  have hkeys : ∀ k ∈ (plainTable fs).keys, IsTrimmed isBlank k := by
    intro k hk
    obtain ⟨a, ha, rfl⟩ : ∃ a ∈ secrets fs, a.mask.toList = k := by
      simpa [plainTable, Table.keys] using hk
    rw [hmask a ha]
    exact .of_forall notBlank_of_mem_maskOf
  rw [unmaskText, unmaskText, replaced_eq_substitute hnil, replaced_eq_substitute hnil,
    String.toList_ofList, String.toList_ofList, hs, substitute_padded hnil hkeys hfront hback]

end Masking

open Masking

/-- It makes no difference whether a reply is trimmed before its masks are undone or after. -/
theorem Enrichment.trim_restored_trim (anonymize : Bool) {d : Diagnosis}
    (h : ∀ f ∈ d.failures, f.Coherent) (reply : String) :
    trim (restored anonymize d (trim reply)) = trim (restored anonymize d reply) := by
  obtain ⟨front, back, hreply, hfront, hback⟩ := exists_trimWhere isBlank reply.toList
  have hpadded : (restored anonymize d reply).toList =
      front ++ (restored anonymize d (trim reply)).toList ++ back := by
    have htrim : reply.toList = front ++ (trim reply).toList ++ back := by
      rwa [toList_trim]
    cases anonymize with
    | false => exact htrim
    | true => exact toList_unmaskText_padded h hfront hback htrim
  exact (trim_padded hfront hback hpadded).symm

end ClusterDiagnosis
