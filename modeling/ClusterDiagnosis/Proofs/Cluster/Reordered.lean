import ClusterDiagnosis.Proofs.Cluster.Contract
import ClusterDiagnosis.Proofs.Scan.InStep

/-!
# Reading reordered values of declared shapes

Two snapshots that are the same up to the order of the entries of maps are read alike if they have
the shape declared for them: a field that is declared to be a text, a number or a switch is the same
in both, and a section, a list or labels are again the same up to that order. Whether the labels of
an object are iterated over or written as a selector, they come in the order of their keys.
-/

set_option autoImplicit false
set_option relaxedAutoImplicit false

namespace ClusterDiagnosis

namespace Shape

variable {fields fields' : List (String × Shape)} {s item : Shape} {v v' other : Value}
  {key : String}

/-- A value of a shape, and the same with the entries of its maps in another order. -/
def Pair (s : Shape) (v v' : Value) : Prop :=
  s.fits v = true ∧ v.Reordered v'

/-- The same for values that may be absent. -/
def OptionalPair (s : Shape) (v v' : Value) : Prop :=
  s.Optional v ∧ v.Reordered v'

/-- A shape of values that are no lists and no maps. -/
def IsAtomic : Shape → Prop
  | text | whole | flag => True
  | labels | list _ | record _ => False

/-- A value that is a text, a number, a switch or absent can be a key. -/
theorem isKey_of_optional (hs : s.IsAtomic) (h : s.Optional v) : v.isKey = true := by
  rcases h with rfl | h
  · rfl
  · cases s with
    | text =>
      obtain ⟨t, rfl⟩ := fits_text_iff.mp h
      rfl
    | whole =>
      obtain ⟨n, rfl⟩ := fits_whole_iff.mp h
      rfl
    | flag => cases v <;> first | rfl | cases h
    | labels => cases hs
    | list _ => cases hs
    | record _ => cases hs

/-- Values that are no lists and no maps are equal when they are the same up to order. -/
theorem OptionalPair.eq (hs : s.IsAtomic) (h : s.OptionalPair v v') : v = v' :=
  h.2.eq_of_isKey (isKey_of_optional hs h.1)

/-- Whether a value counts does not depend on the order of entries. -/
theorem OptionalPair.counts_eq (h : s.OptionalPair v v') : v.counts = v'.counts :=
  h.2.counts_eq

/-- Values that count are there. -/
theorem OptionalPair.of_counts (h : s.OptionalPair v v') (hv : v.counts = true) : s.Pair v v' :=
  ⟨h.1.of_counts hv, h.2⟩

theorem Pair.counts_eq (h : s.Pair v v') : v.counts = v'.counts :=
  h.2.counts_eq

/-- Lists are paired when their items are, one by one. -/
theorem pair_list_iff : (list item).Pair v v' ↔
    ∃ items items', v = .list items ∧ v' = .list items' ∧ List.Forall₂ item.Pair items items' := by
  constructor
  · rintro ⟨hfits, hreordered⟩
    obtain ⟨items, rfl, hitems⟩ := fits_list_iff.mp hfits
    cases hreordered with
    | atom h => cases h
    | list h => exact ⟨_, _, rfl, rfl, (List.forall₂_and_left _ _).mpr ⟨hitems, h⟩⟩
  · rintro ⟨items, items', rfl, rfl, h⟩
    obtain ⟨hitems, hreordered⟩ := (List.forall₂_and_left _ _).mp h
    exact ⟨fits_list_iff.mpr ⟨items, rfl, hitems⟩, .list hreordered⟩

/-- Paired records are maps with the declared fields. -/
theorem Pair.exists_entries (h : (record fields).Pair v v') :
    ∃ es es', v = .map es ∧ v' = .map es' ∧ fitsFields fields es = true := by
  obtain ⟨hfits, hreordered⟩ := h
  obtain ⟨es, rfl, hes⟩ := fits_record_iff.mp hfits
  cases hreordered with
  | atom h => cases h
  | map _ _ _ => exact ⟨_, _, rfl, rfl, hes⟩

theorem pair_record_empty (fields : List (String × Shape)) :
    (record fields).Pair (.map []) (.map []) :=
  ⟨fits_record_empty fields, .map .nil (.refl _) fun _ _ _ h ↦ absurd h List.not_mem_nil⟩

theorem pair_labels_empty : labels.Pair (.map []) (.map []) :=
  ⟨fits_labels_empty, .map .nil (.refl _) fun _ _ _ h ↦ absurd h List.not_mem_nil⟩

theorem pair_list_empty (item : Shape) : (list item).Pair (.list []) (.list []) :=
  pair_list_iff.mpr ⟨[], [], rfl, rfl, .nil⟩

/-! ### Reading fields -/

/-- A declared field is the same in both records, up to the order of entries in it. -/
theorem agree_field (h : (record fields).Pair v v') (hkey : entryAt? key fields = some s) :
    Agree s.OptionalPair (v.field key) (v'.field key) := by
  obtain ⟨es, es', rfl, rfl, hes⟩ := h.exists_entries
  refine .ok ⟨optional_entryAt? hes hkey, ?_⟩
  rcases h.2.entryAt?_cases key with ⟨hnone, hnone'⟩ | ⟨u, u', hsome, hsome', hu⟩
  · rw [hnone, hnone']
    exact .atom rfl
  · rw [hsome, hsome']
    exact hu

/-- A field with a value of its shape in place of an absent one. -/
theorem agree_fieldOr (h : (record fields).Pair v v') (hkey : entryAt? key fields = some s)
    (hother : s.Pair other other) : Agree s.Pair (v.fieldOr key other) (v'.fieldOr key other) := by
  refine (agree_field h hkey).map fun u u' hu ↦ ?_
  unfold Value.orElse
  rw [← hu.counts_eq]
  split
  · next hcounts => exact hu.of_counts hcounts
  · exact hother

/-- A declared section is again a pair of records. -/
theorem agree_section (h : (record fields).Pair v v')
    (hkey : entryAt? key fields = some (record fields')) :
    Agree (record fields').Pair (v.section? key) (v'.section? key) :=
  agree_fieldOr h hkey (pair_record_empty fields')

/-- A section that holds labels. -/
theorem agree_labels (h : (record fields).Pair v v') (hkey : entryAt? key fields = some labels) :
    Agree labels.Pair (v.section? key) (v'.section? key) :=
  agree_fieldOr h hkey pair_labels_empty

/-- A declared list has paired items. -/
theorem agree_each (h : (record fields).Pair v v') (hkey : entryAt? key fields = some (list item)) :
    Agree (List.Forall₂ item.Pair) (v.each key) (v'.each key) := by
  refine (agree_fieldOr h hkey (pair_list_empty item)).bind fun u u' hu ↦ ?_
  obtain ⟨items, items', rfl, rfl, hitems⟩ := pair_list_iff.mp hu
  exact .ok hitems

/-- A field that is no list and no map is the same in both. -/
theorem same_field (h : (record fields).Pair v v') (hkey : entryAt? key fields = some s)
    (hs : s.IsAtomic) : v.field key = v'.field key :=
  ((agree_field h hkey).mono fun _ _ hu ↦ hu.eq hs).eq

/-- A field that is no list and no map is read the same, with its default where it is absent. -/
theorem same_fieldOr (h : (record fields).Pair v v') (hkey : entryAt? key fields = some s)
    (hs : s.IsAtomic) : v.fieldOr key other = v'.fieldOr key other := by
  rw [Value.fieldOr, Value.fieldOr, same_field h hkey hs]

/-- A text field is read the same. -/
theorem same_label (h : (record fields).Pair v v') (hkey : entryAt? key fields = some text) :
    v.label key = v'.label key :=
  same_fieldOr h hkey trivial

end Shape

/-! ### Labels -/

namespace Shape

variable {v v' : Value}

/-- Paired labels have the same entry for each key. -/
theorem Pair.exists_labels (h : labels.Pair v v') :
    ∃ es es', v = .map es ∧ v' = .map es' ∧ (Value.map es).Reordered (.map es') ∧
      ∀ key, entryAt? key es = entryAt? key es' := by
  obtain ⟨hfits, hreordered⟩ := h
  obtain ⟨es, rfl, hes⟩ := fits_labels_iff.mp hfits
  obtain ⟨es', rfl⟩ : ∃ es', v' = .map es' := by
    cases hreordered with
    | atom h => cases h
    | map _ _ _ => exact ⟨_, rfl⟩
  refine ⟨es, es', rfl, rfl, hreordered, fun key ↦ ?_⟩
  rcases hreordered.entryAt?_cases key with ⟨hnone, hnone'⟩ | ⟨u, u', hsome, hsome', hu⟩
  · rw [hnone, hnone']
  · have htext : isOptionalText u = true := hes (key, u) (mem_of_entryAt? hsome)
    have hkey : u.isKey = true := by
      cases u <;> first | rfl | cases htext
    rw [hsome, hsome', hu.eq_of_isKey hkey]

/-- A label is the same in both. -/
theorem Pair.same_item (h : labels.Pair v v') (key : Value) : v.item key = v'.item key := by
  obtain ⟨es, es', rfl, rfl, -, hentries⟩ := h.exists_labels
  cases key <;> first | rfl | simp only [Value.item, hentries]

/-- A label is read the same from both. -/
theorem Pair.same_entry (h : labels.Pair v v') (key : String) : v.field key = v'.field key := by
  obtain ⟨es, es', rfl, rfl, -, hentries⟩ := h.exists_labels
  rw [Value.field, Value.field, hentries]

/-- The keys of labels come in the same order from both. -/
theorem Pair.same_sortedKeys (h : labels.Pair v v') : v.sortedKeys = v'.sortedKeys := by
  obtain ⟨es, es', rfl, rfl, hreordered, -⟩ := h.exists_labels
  exact Value.sortedKeys_eq_of_reordered hreordered

end Shape

/-! ### Clusters -/

/-- Two answers that are the same up to the order of the entries of maps, and of declared shapes. -/
def Query.Reordered : AnswerPairs
  | .list kind _ _ => fun r r' ↦ Agree (List.Forall₂ (Shape.object kind).Pair) r r'
  | .get kind _ _ => fun r r' ↦ Agree (Option.Rel (Shape.object kind).Pair) r r'
  | .events _ _ _ => fun r r' ↦ Agree (List.Forall₂ Shape.event.Pair) r r'
  | .log _ _ _ _ => fun r r' ↦ r = r'

end ClusterDiagnosis
