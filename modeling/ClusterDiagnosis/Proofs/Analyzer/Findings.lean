import ClusterDiagnosis.Analyzer.Basic
import Mathlib.Tactic.Common

/-!
# Keys and findings

Findings are kept by the key of their object. A text is the same key as no other value
(`sameKey_str_iff`), so a finding under a text that no earlier finding has goes behind all of them
(`Finding.put_eq_append_of_key`). Keys never disappear: whatever holds of the key of some finding
holds of the key of some finding later on (`Finding.exists_mem_put`).
-/

set_option autoImplicit false
set_option relaxedAutoImplicit false

namespace ClusterDiagnosis

namespace Value

/-- A text is the same key as that text only. -/
theorem sameKey_str_iff {v : Value} {s : String} : v.sameKey (.str s) = true ↔ v = .str s := by
  cases v <;> simp [sameKey, whole?]

/-- A text is the same key as that text only. -/
theorem str_sameKey_iff {v : Value} {s : String} : (str s).sameKey v = true ↔ v = .str s := by
  cases v with
  | str t =>
    simp only [sameKey, beq_iff_eq, str.injEq]
    exact eq_comm
  | _ => simp [sameKey, whole?]

/-- Only a text reads as a text, and as itself. -/
theorem toText_eq_ok_iff {v : Value} {s : String} : v.toText = .ok s ↔ v = .str s := by
  cases v <;> simp [toText]

end Value

/-- Objects of which no two have the same key. -/
def KeysDistinct (objects : List Value) : Prop :=
  objects.Pairwise fun o p ↦ ∀ key, o.objectKey = .ok key → p.objectKey ≠ .ok key

namespace Finding

/-- A finding under a key that is new goes to the end of the findings. -/
theorem put_eq_append {f : Finding} {found : List Finding}
    (h : ∀ g ∈ found, g.key.sameKey f.key = false) : put f found = found ++ [f] := by
  induction found with
  | nil => rfl
  | cons g found ih =>
    have hg := h g List.mem_cons_self
    simp only [put, hg, Bool.false_eq_true, ↓reduceIte, List.cons_append]
    rw [ih fun g hg ↦ h g (List.mem_cons_of_mem _ hg)]

/-- The finding of an object whose key is a text, and is not the key of an earlier finding, goes
behind all of them. -/
theorem put_eq_append_of_key {object : Value} {s : String} {failures : List Failure}
    {found : List Finding} (hkey : object.objectKey = .ok (.str s))
    (h : ∀ g ∈ found, object.objectKey ≠ .ok g.key) :
    put ⟨.str s, object, failures⟩ found = found ++ [⟨.str s, object, failures⟩] := by
  refine put_eq_append fun g hg ↦ ?_
  rw [Bool.eq_false_iff]
  intro hsame
  exact h g hg (Value.sameKey_str_iff.mp hsame ▸ hkey)

/-- A further finding takes no key away. -/
theorem exists_mem_put {P : Value → Prop} (f : Finding) {found : List Finding}
    (h : ∃ g ∈ found, P g.key) : ∃ g ∈ put f found, P g.key := by
  induction found with
  | nil => simp at h
  | cons g found ih =>
    obtain ⟨g', hg', hP⟩ := h
    unfold put
    rcases List.mem_cons.mp hg' with rfl | hmem
    · split
      · exact ⟨_, List.mem_cons_self, hP⟩
      · exact ⟨g', List.mem_cons_self, hP⟩
    · split
      · exact ⟨g', List.mem_cons_of_mem _ hmem, hP⟩
      · obtain ⟨g'', hput, hP''⟩ := ih ⟨g', hmem, hP⟩
        exact ⟨g'', List.mem_cons_of_mem _ hput, hP''⟩

/-- A further finding is found under its own key or under the same key in another form. -/
theorem exists_mem_put_self (f : Finding) (found : List Finding) :
    ∃ g ∈ put f found, g.key = f.key ∨ g.key.sameKey f.key = true := by
  induction found with
  | nil => exact ⟨f, List.mem_singleton.mpr rfl, Or.inl rfl⟩
  | cons g found ih =>
    unfold put
    split
    · next hkey => exact ⟨_, List.mem_cons_self, Or.inr hkey⟩
    · obtain ⟨g', hput, hkey⟩ := ih
      exact ⟨g', List.mem_cons_of_mem _ hput, hkey⟩

/-- If the key of a further finding is no text, then neither are all keys. -/
theorem isText_of_put {f : Finding} {found : List Finding}
    (h : ∀ g ∈ put f found, ∃ s, g.key = .str s) : ∃ s, f.key = .str s := by
  obtain ⟨g, hg, hkey⟩ := exists_mem_put_self f found
  obtain ⟨s, hs⟩ := h g hg
  rcases hkey with hkey | hkey
  · exact ⟨s, hkey ▸ hs⟩
  · rw [hs] at hkey
    exact ⟨s, Value.str_sameKey_iff.mp hkey⟩

end Finding

end ClusterDiagnosis
