import ClusterDiagnosis.Proofs.Scan.Contract

/-!
# Shapes of values

A shape is what the interface of a cluster declares a value to be. A value fits a record if each of
the fields is missing, absent, or fits the shape declared for it (`Shape.fits`), so that every
reader of a field has an answer for values that fit: the rest of the module says which. What stands
under other keys does not matter.
-/

set_option autoImplicit false
set_option relaxedAutoImplicit false

namespace ClusterDiagnosis

/-- The declared shape of a value. -/
inductive Shape where
  | text
  | whole
  | flag
  /-- Texts by name, some of which may be absent. -/
  | labels
  | list (item : Shape)
  | record (fields : List (String × Shape))

namespace Shape

/-- Whether a value is a text or absent. -/
def isOptionalText : Value → Bool
  | .null => true
  | .str _ => true
  | _ => false

mutual

/-- Whether a value has a shape. -/
def fits : Shape → Value → Bool
  | text, .str _ => true
  | whole, .int _ => true
  | flag, .bool _ => true
  | labels, .map entries => entries.all fun e ↦ isOptionalText e.2
  | list item, .list items => items.all item.fits
  | record fields, .map entries => fitsFields fields entries
  | _, _ => false

/-- Whether each of the fields is missing, absent, or has its shape. -/
def fitsFields : List (String × Shape) → List (String × Value) → Bool
  | [], _ => true
  | (key, s) :: fields, entries =>
    (match (entryAt? key entries).getD .null with
      | .null => true
      | v => s.fits v) && fitsFields fields entries

end

variable {fields fields' : List (String × Shape)} {s item : Shape} {v other : Value} {key : String}

/-! ### What values of a shape are -/

/-- The values of the shape of texts are the texts. -/
theorem fits_text_iff : text.fits v = true ↔ ∃ t, v = .str t := by
  cases v with
  | str t => exact iff_of_true rfl ⟨t, rfl⟩
  | _ => exact iff_of_false Bool.false_ne_true (by rintro ⟨t, ⟨⟩⟩)

/-- The values of the shape of whole numbers are the whole numbers. -/
theorem fits_whole_iff : whole.fits v = true ↔ ∃ n, v = .int n := by
  cases v with
  | int n => exact iff_of_true rfl ⟨n, rfl⟩
  | _ => exact iff_of_false Bool.false_ne_true (by rintro ⟨n, ⟨⟩⟩)

/-- Labels are maps whose values are texts or absent. -/
theorem fits_labels_iff : labels.fits v = true ↔
    ∃ entries, v = .map entries ∧ ∀ e ∈ entries, isOptionalText e.2 = true := by
  cases v with
  | map entries =>
    constructor
    · exact fun h ↦ ⟨entries, rfl, List.all_eq_true.mp h⟩
    · rintro ⟨_, ⟨⟩, h⟩
      exact List.all_eq_true.mpr h
  | _ => exact iff_of_false Bool.false_ne_true (by rintro ⟨entries, ⟨⟩, -⟩)

/-- The values of a list's shape are the lists of its items' shape. -/
theorem fits_list_iff : (list item).fits v = true ↔
    ∃ items, v = .list items ∧ ∀ u ∈ items, item.fits u = true := by
  cases v with
  | list items =>
    constructor
    · exact fun h ↦ ⟨items, rfl, List.all_eq_true.mp h⟩
    · rintro ⟨_, ⟨⟩, h⟩
      exact List.all_eq_true.mpr h
  | _ => exact iff_of_false Bool.false_ne_true (by rintro ⟨items, ⟨⟩, -⟩)

/-- The values of a record's shape are the maps whose fields fit. -/
theorem fits_record_iff : (record fields).fits v = true ↔
    ∃ entries, v = .map entries ∧ fitsFields fields entries = true := by
  cases v with
  | map entries =>
    constructor
    · exact fun h ↦ ⟨entries, rfl, h⟩
    · rintro ⟨_, ⟨⟩, h⟩
      exact h
  | _ => exact iff_of_false Bool.false_ne_true (by rintro ⟨entries, ⟨⟩, -⟩)

/-- A record may lack all of its fields. -/
theorem fits_record_empty (fields : List (String × Shape)) :
    (record fields).fits (.map []) = true := by
  change fitsFields fields [] = true
  induction fields with
  | nil => rfl
  | cons field fields ih => exact ih

theorem fits_labels_empty : labels.fits (.map []) = true :=
  rfl

/-! ### Reading fields -/

/-- A value that is absent or has a shape. -/
def Optional (s : Shape) (v : Value) : Prop :=
  v = .null ∨ s.fits v = true

/-- A value that counts is there. -/
theorem Optional.of_counts (h : s.Optional v) (hv : v.counts = true) : s.fits v = true := by
  rcases h with rfl | h
  · cases hv
  · exact h

/-- A text that may be absent is absent or a text. -/
theorem Optional.text_cases {v : Value} (h : text.Optional v) : v = .null ∨ ∃ t, v = .str t :=
  h.imp_right fits_text_iff.mp

/-- What a fitting map has under a declared key fits, or there is nothing. -/
theorem optional_entryAt? {entries : List (String × Value)} (h : fitsFields fields entries = true)
    (hkey : entryAt? key fields = some s) : s.Optional ((entryAt? key entries).getD .null) := by
  induction fields with
  | nil => cases hkey
  | cons field fields ih =>
    obtain ⟨key', s'⟩ := field
    rw [fitsFields, Bool.and_eq_true] at h
    rw [entryAt?] at hkey
    split at hkey
    · next heq =>
      obtain rfl := Option.some.inj hkey
      subst heq
      have hfirst := h.1
      split at hfirst
      · next hnull => exact .inl hnull
      · exact .inr hfirst
    · exact ih h.2 hkey

/-- Reading a declared field does not fail and gives a value of its shape or none. -/
theorem yields_field (h : (record fields).fits v = true) (hkey : entryAt? key fields = some s) :
    Yields s.Optional (v.field key) := by
  obtain ⟨entries, rfl, hentries⟩ := fits_record_iff.mp h
  exact .ok (optional_entryAt? hentries hkey)

/-- A field with a value of its shape in place of an absent one. -/
theorem yields_fieldOr (h : (record fields).fits v = true) (hkey : entryAt? key fields = some s)
    (hother : s.fits other = true) : Yields (fun u ↦ s.fits u = true) (v.fieldOr key other) := by
  refine (yields_field h hkey).map fun u hu ↦ ?_
  unfold Value.orElse
  split
  · next hcounts => exact hu.of_counts hcounts
  · exact hother

/-- Reading a declared section gives a record of its shape, the empty one if it is absent. -/
theorem yields_section (h : (record fields).fits v = true)
    (hkey : entryAt? key fields = some (record fields')) :
    Yields (fun u ↦ (record fields').fits u = true) (v.section? key) :=
  yields_fieldOr h hkey (fits_record_empty fields')

/-- A section that holds labels. -/
theorem yields_labels (h : (record fields).fits v = true)
    (hkey : entryAt? key fields = some labels) :
    Yields (fun u ↦ labels.fits u = true) (v.section? key) :=
  yields_fieldOr h hkey fits_labels_empty

/-- Reading a declared text gives a text, the empty one if it is absent. -/
theorem yields_label (h : (record fields).fits v = true)
    (hkey : entryAt? key fields = some text) :
    Yields (fun u ↦ text.fits u = true) (v.label key) :=
  yields_fieldOr h hkey rfl

/-- Reading a declared list gives items of its shape, none if it is absent. -/
theorem yields_each (h : (record fields).fits v = true)
    (hkey : entryAt? key fields = some (list item)) :
    Yields (fun us ↦ ∀ u ∈ us, item.fits u = true) (v.each key) := by
  refine (yields_fieldOr h hkey rfl).bind fun u hu ↦ ?_
  obtain ⟨items, rfl, hitems⟩ := fits_list_iff.mp hu
  exact .ok hitems

end Shape

end ClusterDiagnosis
