import ClusterDiagnosis.Proofs.Value.Entries
import ClusterDiagnosis.Value.Shape

/-!
# Values up to the order of entries

Two values are the same up to the order of the entries of maps, at any depth (`Value.Reordered`), if
they are alike in everything that the position of a key has no part in. Such values count alike,
have related values under each key, and the keys of such maps are the same in sorted order. Two
computations agree (`Agree`) if they give related results or end in the same fault; sequences of
computations that agree do so.
-/

set_option autoImplicit false
set_option relaxedAutoImplicit false

namespace ClusterDiagnosis

/-! ### Computations that agree -/

/-- Two computations that give related results or end in the same fault. -/
inductive Agree {α β : Type} (P : α → β → Prop) : Except Fault α → Except Fault β → Prop where
  | ok {a : α} {b : β} (h : P a b) : Agree P (.ok a) (.ok b)
  | error (f : Fault) : Agree P (.error f) (.error f)

namespace Agree

variable {α β γ δ : Type} {P P' : α → β → Prop} {Q : γ → δ → Prop}

theorem mono {r : Except Fault α} {r' : Except Fault β} (h : Agree P r r')
    (hP : ∀ a b, P a b → P' a b) : Agree P' r r' := by
  cases h with
  | ok h => exact ok (hP _ _ h)
  | error f => exact error f

theorem of_eq {r r' : Except Fault α} (h : r = r') : Agree (· = ·) r r' := by
  subst h
  cases r with
  | error f => exact error f
  | ok a => exact ok rfl

theorem eq {r r' : Except Fault α} (h : Agree (· = ·) r r') : r = r' := by
  cases h with
  | ok h => rw [h]
  | error f => rfl

/-- Steps that agree after agreeing steps agree. -/
theorem bind {r : Except Fault α} {r' : Except Fault β} {f : α → Except Fault γ}
    {f' : β → Except Fault δ} (h : Agree P r r') (hf : ∀ a b, P a b → Agree Q (f a) (f' b)) :
    Agree Q (r >>= f) (r' >>= f') := by
  cases h with
  | ok h => exact hf _ _ h
  | error f => exact error f

/-- Sequences that begin with the same computation. -/
theorem same {r r' : Except Fault α} {f : α → Except Fault γ} {f' : α → Except Fault δ}
    (h : r = r') (hf : ∀ a, Agree Q (f a) (f' a)) : Agree Q (r >>= f) (r' >>= f') :=
  (of_eq h).bind fun a _ hab ↦ hab ▸ hf a

theorem map {r : Except Fault α} {r' : Except Fault β} {f : α → γ} {f' : β → δ}
    (h : Agree P r r') (hf : ∀ a b, P a b → Q (f a) (f' b)) : Agree Q (r.map f) (r'.map f') := by
  cases h with
  | ok h => exact ok (hf _ _ h)
  | error f => exact error f

/-- Steps that are the same item by item give the same for lists of items. -/
theorem mapM_eq {f : α → Except Fault γ} {f' : β → Except Fault γ} {xs : List α} {ys : List β}
    (h : List.Forall₂ P xs ys) (hf : ∀ a b, P a b → f a = f' b) : xs.mapM f = ys.mapM f' := by
  induction h with
  | nil => rfl
  | cons hab _ ih => rw [List.mapM_cons, List.mapM_cons, hf _ _ hab, ih]

end Agree

namespace Value

/-! ### Reordered values -/

/-- Two values that are the same but for the order of the entries of maps: maps have the same keys,
none of them twice, with reordered values, and lists have reordered items in the same order. -/
inductive Reordered : Value → Value → Prop where
  | atom {v : Value} (h : v.isKey = true) : Reordered v v
  | list {items items' : List Value} (h : List.Forall₂ Reordered items items') :
      Reordered (list items) (list items')
  | map {es es' : List (String × Value)} (hnodup : (es.map Prod.fst).Nodup)
      (hkeys : (es.map Prod.fst).Perm (es'.map Prod.fst))
      (hvalues : ∀ key v v', (key, v) ∈ es → (key, v') ∈ es' → Reordered v v') :
      Reordered (map es) (map es')

namespace Reordered

variable {v v' : Value} {es es' : List (String × Value)}

/-- A value that can be a key has no entries to be reordered. -/
theorem eq_of_isKey (h : v.Reordered v') (hv : v.isKey = true) : v = v' := by
  cases h with
  | atom _ => rfl
  | list _ => cases hv
  | map _ _ _ => cases hv

theorem counts_eq (h : v.Reordered v') : v.counts = v'.counts := by
  cases h with
  | atom _ => rfl
  | list h =>
    cases h with
    | nil => rfl
    | cons _ _ => rfl
  | map _ hkeys _ =>
    have hempty := hkeys.isEmpty_eq
    rw [List.isEmpty_map, List.isEmpty_map] at hempty
    rw [counts, counts, hempty]

/-- Maps of which one comes from the other by putting its entries in another order, and then
reordered values in the place of its values. -/
theorem of_perm {es₁ : List (String × Value)} (hnodup : (es.map Prod.fst).Nodup)
    (hperm : es.Perm es₁)
    (hvalues : List.Forall₂ (fun e e' ↦ e.1 = e'.1 ∧ e.2.Reordered e'.2) es₁ es') :
    (Value.map es).Reordered (.map es') := by
  have hkeys : (es.map Prod.fst).Perm (es₁.map Prod.fst) := hperm.map Prod.fst
  have hsame : es₁.map Prod.fst = es'.map Prod.fst := by
    rw [← List.forall₂_eq_eq_eq, List.forall₂_map_left_iff, List.forall₂_map_right_iff]
    exact hvalues.imp fun _ _ he ↦ he.1
  have hnodup₁ : (es₁.map Prod.fst).Nodup := hkeys.nodup_iff.mp hnodup
  exact map hnodup (hsame ▸ hkeys) fun key v v' hv hv' ↦
    rel_of_forall₂ hvalues hnodup₁ (hperm.mem_iff.mp hv) hv'

/-- Under each key of reordered maps stand reordered values, or nothing in both. -/
theorem entryAt?_cases (h : (Value.map es).Reordered (.map es')) (key : String) :
    (entryAt? key es = none ∧ entryAt? key es' = none) ∨
      ∃ v v', entryAt? key es = some v ∧ entryAt? key es' = some v' ∧ v.Reordered v' := by
  cases h with
  | atom h => cases h
  | map hnodup hkeys hvalues =>
    rcases hentry : entryAt? key es with _ | v
    · rw [entryAt?_eq_none_iff] at hentry
      exact .inl ⟨rfl, entryAt?_eq_none_iff.mpr fun hkey ↦ hentry (hkeys.mem_iff.mpr hkey)⟩
    · have hmem : (key, v) ∈ es := mem_of_entryAt? hentry
      obtain ⟨⟨key', v'⟩, hmem', hkey⟩ :=
        List.mem_map.mp (hkeys.mem_iff.mp (List.mem_map_of_mem hmem))
      obtain rfl : key' = key := hkey
      have hentry' : entryAt? key' es' = some v' :=
        (entryAt?_eq_some_iff (hkeys.nodup_iff.mp hnodup)).mpr hmem'
      exact .inr ⟨v, v', rfl, hentry', hvalues key' v v' hmem hmem'⟩

end Reordered

/-- Sorted keys do not depend on the order of the entries. -/
theorem sortedKeys_eq_of_reordered {es es' : List (String × Value)}
    (h : (map es).Reordered (map es')) : (map es).sortedKeys = (map es').sortedKeys := by
  cases h with
  | atom h => cases h
  | map _ hkeys _ =>
    have hsorted (keys : List String) : keys.mergeSort.Pairwise fun a b ↦ a ≤ b := by
      refine (List.pairwise_mergeSort ?_ ?_ keys).imp fun h ↦ by simpa using h
      · intro a b c hab hbc
        simp only [decide_eq_true_eq] at hab hbc ⊢
        exact String.le_trans hab hbc
      · intro a b
        simpa using String.le_total a b
    have hperm : (es.map Prod.fst).mergeSort.Perm (es'.map Prod.fst).mergeSort :=
      (List.mergeSort_perm _ _).trans (hkeys.trans (List.mergeSort_perm _ _).symm)
    rw [sortedKeys, sortedKeys, hperm.eq_of_pairwise
      (fun _ _ _ _ hab hba ↦ String.le_antisymm hab hba) (hsorted _) (hsorted _)]

end Value

end ClusterDiagnosis
