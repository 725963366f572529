import ClusterDiagnosis.Value.Basic
import Mathlib.Data.List.Forall2
import Mathlib.Data.List.Induction
import Mathlib.Data.List.Nodup

/-!
# Entries of tables

What stands under a key of a table (`entryAt?`) is an entry of the table, and where no key occurs
twice each entry is what stands under its key (`entryAt?_eq_some_iff`). A table under construction
has its keys in the order in which they first come up (`keys_putEntry`, `eraseDups_concat`).
-/

set_option autoImplicit false
set_option relaxedAutoImplicit false

namespace ClusterDiagnosis

variable {α β : Type} {key : String} {a : α} {es : List (String × α)}

theorem mem_of_entryAt? (h : entryAt? key es = some a) : (key, a) ∈ es := by
  induction es with
  | nil => cases h
  | cons e es ih =>
    rw [entryAt?] at h
    split at h
    · next hkey =>
      obtain rfl := hkey
      obtain rfl := Option.some.inj h
      exact List.mem_cons_self
    · exact List.mem_cons_of_mem e (ih h)

theorem entryAt?_eq_none_iff : entryAt? key es = none ↔ key ∉ es.map Prod.fst := by
  induction es with
  | nil => exact iff_of_true rfl List.not_mem_nil
  | cons e es ih =>
    rw [entryAt?, List.map_cons, List.mem_cons]
    split
    · next hkey => exact iff_of_false (Option.some_ne_none _) fun h ↦ h (.inl hkey.symm)
    · next hkey => rw [ih, or_iff_right (Ne.symm hkey)]

/-- Where no key occurs twice, an entry is what stands under its key. -/
theorem entryAt?_eq_some_iff (hnodup : (es.map Prod.fst).Nodup) :
    entryAt? key es = some a ↔ (key, a) ∈ es := by
  refine ⟨mem_of_entryAt?, fun h ↦ ?_⟩
  induction es with
  | nil => cases h
  | cons e es ih =>
    rw [List.map_cons, List.nodup_cons] at hnodup
    rw [entryAt?]
    rcases List.mem_cons.mp h with rfl | h
    · exact if_pos rfl
    · have hne : e.1 ≠ key := by
        intro hkey
        rw [hkey] at hnodup
        exact hnodup.1 (List.mem_map.mpr ⟨(key, a), h, rfl⟩)
      rw [if_neg hne]
      exact ih hnodup.2 h

/-- Changing the values of a table changes what is found in it. -/
theorem entryAt?_map (f : α → β) (key : String) (es : List (String × α)) :
    entryAt? key (es.map fun e ↦ (e.1, f e.2)) = (entryAt? key es).map f := by
  induction es with
  | nil => rfl
  | cons e es ih =>
    rw [List.map_cons, entryAt?, entryAt?]
    split
    · rfl
    · exact ih

theorem entryAt?_append (key : String) (es others : List (String × α)) :
    entryAt? key (es ++ others) = (entryAt? key es).or (entryAt? key others) := by
  induction es with
  | nil => rfl
  | cons e es ih =>
    rw [List.cons_append, entryAt?, entryAt?]
    split
    · rfl
    · exact ih

/-- Where no key occurs twice, the order of the entries does not matter for what stands under a
key. -/
theorem entryAt?_reverse (hnodup : (es.map Prod.fst).Nodup) (key : String) :
    entryAt? key es.reverse = entryAt? key es := by
  have hreverse : (es.reverse.map Prod.fst).Nodup := by
    rwa [List.map_reverse, List.nodup_reverse]
  ext a
  rw [entryAt?_eq_some_iff hreverse, entryAt?_eq_some_iff hnodup, List.mem_reverse]

/-! ### Tables under construction -/

/-- A new key goes behind all others. -/
theorem putEntry_of_notMem (h : key ∉ es.map Prod.fst) :
    putEntry key a es = es ++ [(key, a)] := by
  induction es with
  | nil => rfl
  | cons e es ih =>
    obtain ⟨k, v⟩ := e
    rw [List.map_cons, List.mem_cons, not_or] at h
    rw [putEntry, if_neg (Ne.symm h.1), ih h.2, List.cons_append]

/-- A key that is there already keeps its place. -/
theorem keys_putEntry_of_mem (h : key ∈ es.map Prod.fst) :
    (putEntry key a es).map Prod.fst = es.map Prod.fst := by
  induction es with
  | nil => cases h
  | cons e es ih =>
    obtain ⟨k, v⟩ := e
    rw [putEntry]
    split
    · rfl
    · next hkey =>
      rw [List.map_cons, List.mem_cons] at h
      rw [List.map_cons, List.map_cons, ih (h.resolve_left (Ne.symm hkey))]

/-- A new key is put at the end, and a known one keeps its place. -/
theorem keys_putEntry (key : String) (a : α) (es : List (String × α)) :
    (putEntry key a es).map Prod.fst =
      if key ∈ es.map Prod.fst then es.map Prod.fst else es.map Prod.fst ++ [key] := by
  split
  · next h => exact keys_putEntry_of_mem h
  · next h =>
    rw [putEntry_of_notMem h, List.map_append]
    rfl

theorem eraseDups_concat (names : List String) (name : String) :
    (names ++ [name]).eraseDups =
      if name ∈ names then names.eraseDups else names.eraseDups ++ [name] := by
  rw [List.eraseDups_append, List.removeAll]
  split
  · next h => rw [List.filter_cons_of_neg (by simpa using h), List.filter_nil, List.eraseDups_nil,
      List.append_nil]
  · next h => rw [List.filter_cons_of_pos (by simpa using h), List.filter_nil, List.eraseDups_cons,
      List.filter_nil, List.eraseDups_nil]

theorem nodup_eraseDups (names : List String) : names.eraseDups.Nodup := by
  induction names using List.reverseRecOn with
  | nil => exact .nil
  | append_singleton names name ih =>
    rw [eraseDups_concat]
    split
    · exact ih
    · next h =>
      rw [List.nodup_append_comm, List.singleton_append, List.nodup_cons, List.mem_eraseDups]
      exact ⟨h, ih⟩

/-! ### Related tables -/

/-- What stands on the right of a relation of lists is related to something on the left. -/
theorem exists_of_mem_right {α β : Type} {R : α → β → Prop} {xs : List α} {ys : List β}
    (h : List.Forall₂ R xs ys) {y : β} (hy : y ∈ ys) : ∃ x ∈ xs, R x y := by
  induction h with
  | nil => cases hy
  | @cons x z _ _ hxz _ ih =>
    rcases List.mem_cons.mp hy with rfl | hy
    · exact ⟨x, List.mem_cons_self, hxz⟩
    · obtain ⟨x', hx', hR⟩ := ih hy
      exact ⟨x', List.mem_cons_of_mem x hx', hR⟩

/-- Entries of two tables that are related in their order are related under each key, where no key
occurs twice. -/
theorem rel_of_forall₂ {R : α → β → Prop} {bs : List (String × β)} {b : β}
    (h : List.Forall₂ (fun e e' ↦ e.1 = e'.1 ∧ R e.2 e'.2) es bs)
    (hnodup : (es.map Prod.fst).Nodup) (ha : (key, a) ∈ es) (hb : (key, b) ∈ bs) : R a b := by
  obtain ⟨⟨key', a'⟩, ha', hkey, hR⟩ := exists_of_mem_right h hb
  obtain rfl : key' = key := hkey
  have hentry : entryAt? key' es = some a := (entryAt?_eq_some_iff hnodup).mpr ha
  rw [(entryAt?_eq_some_iff hnodup).mpr ha'] at hentry
  exact Option.some.inj hentry ▸ hR

end ClusterDiagnosis
