import ClusterDiagnosis.Proofs.Cluster.Shape

/-!
# What values of declared shapes say

A field of declared shape is missing, absent, or of its shape, and the readers of the program have a
substitute for the first two. So on a value that fits a record each of them succeeds, with a plain
text, a section or a list of items (`Value.textAt`, `partAt`, `itemsAt`), which no longer tell a
missing field from an empty one.
-/

set_option autoImplicit false
set_option relaxedAutoImplicit false

namespace ClusterDiagnosis

namespace Value

/-- The text under a key, empty if there is none. -/
def textAt (v : Value) (key : String) : String :=
  match v.at? key with
  | some (str s) => s
  | _ => ""

/-- The map under a key, empty if there is none. -/
def partAt (v : Value) (key : String) : Value :=
  match v.at? key with
  | some (map entries) => map entries
  | _ => map []

/-- The list under a key, empty if there is none. -/
def itemsAt (v : Value) (key : String) : List Value :=
  match v.at? key with
  | some (list items) => items
  | _ => []

/-- Whether there is something under a key that counts. -/
def countsAt (v : Value) (key : String) : Bool :=
  (v.at? key).any counts

/-- A value that is a text, or absent in place of an empty one. -/
def Says (v : Value) (s : String) : Prop :=
  v = str s ∨ v = null ∧ s = ""

variable {v : Value} {s t : String}

theorem counts_str_iff : (str s).counts = true ↔ s ≠ "" := by
  simp [counts]

/-- A text is looked up among texts as a text. -/
theorem isAmong_texts (s : String) (keys : List String) :
    (str s).isAmong (keys.map str) = .ok (decide (s ∈ keys)) := by
  have hany : (keys.map str).any (str s).sameKey = decide (s ∈ keys) := by
    rw [List.any_map, Bool.eq_iff_iff, List.any_eq_true, decide_eq_true_iff]
    simp [Function.comp_apply, sameKey]
  rw [isAmong, hany]
  rfl

/-- A value that says a text counts unless the text is empty. -/
theorem Says.counts_eq (h : v.Says s) : v.counts = !s.isEmpty := by
  rcases h with rfl | ⟨rfl, rfl⟩ <;> rfl

theorem Says.orElse_eq (h : v.Says s) : v.orElse (str "") = str s := by
  rcases h with rfl | ⟨rfl, rfl⟩
  · rw [orElse]
    split
    · rfl
    · next hs =>
      rw [counts, Bool.not_eq_true, Bool.not_eq_false', String.isEmpty_iff] at hs
      rw [hs]
  · rfl

theorem Says.isText_eq (h : v.Says s) (ht : t ≠ "") : v.isText t = decide (s = t) := by
  rcases h with rfl | ⟨rfl, rfl⟩
  · rw [isText, beq_eq_decide]
  · exact (decide_eq_false (Ne.symm ht)).symm

end Value

namespace Shape

variable {fields fields' : List (String × Shape)} {item : Shape} {v : Value} {key : String}

/-- A field of a record, in terms of what stands under its key. -/
theorem field_eq (h : (record fields).fits v = true) :
    v.field key = .ok ((v.at? key).getD .null) := by
  obtain ⟨entries, rfl, -⟩ := fits_record_iff.mp h
  rfl

theorem optional_at? {s : Shape} (h : (record fields).fits v = true)
    (hkey : entryAt? key fields = some s) : s.Optional ((v.at? key).getD .null) := by
  obtain ⟨entries, rfl, hentries⟩ := fits_record_iff.mp h
  exact optional_entryAt? hentries hkey

/-- A declared text field says the text that is read for it. -/
theorem says_at? (h : (record fields).fits v = true) (hkey : entryAt? key fields = some text) :
    ((v.at? key).getD .null).Says (v.textAt key) := by
  have hoptional := optional_at? h hkey
  unfold Value.textAt
  cases hat : v.at? key with
  | none => exact .inr ⟨rfl, rfl⟩
  | some u =>
    rw [hat, Option.getD_some] at hoptional
    rcases hoptional.text_cases with rfl | ⟨t, rfl⟩
    · exact .inr ⟨rfl, rfl⟩
    · exact .inl rfl

/-- A declared text is read without fault. -/
theorem label_eq (h : (record fields).fits v = true) (hkey : entryAt? key fields = some text) :
    v.label key = .ok (.str (v.textAt key)) := by
  rw [Value.label, Value.fieldOr, field_eq h, Except.map, (says_at? h hkey).orElse_eq]

theorem counts_at? (v : Value) (key : String) :
    ((v.at? key).getD .null).counts = v.countsAt key := by
  unfold Value.countsAt
  cases v.at? key <;> rfl

/-- What is there under the key of a section, if it is a map, is the section. -/
theorem section_eq_partAt {s : Shape} (hs : ∀ u, s.fits u = true → ∃ entries, u = .map entries)
    (h : (record fields).fits v = true) (hkey : entryAt? key fields = some s) :
    v.section? key = .ok (v.partAt key) := by
  have hoptional := optional_at? h hkey
  rw [Value.section?, Value.fieldOr, field_eq h, Except.map]
  unfold Value.partAt
  cases hat : v.at? key with
  | none => rfl
  | some u =>
    rw [hat, Option.getD_some] at hoptional
    rcases hoptional with rfl | hfits
    · rfl
    · obtain ⟨entries, rfl⟩ := hs u hfits
      cases entries <;> rfl

/-- A section of a record is its map under the key. -/
theorem section_eq (h : (record fields).fits v = true)
    (hkey : entryAt? key fields = some (record fields')) :
    v.section? key = .ok (v.partAt key) :=
  section_eq_partAt (fun _ hu ↦ (fits_record_iff.mp hu).imp fun _ ↦ And.left) h hkey

/-- And so are labels. -/
theorem labels_eq (h : (record fields).fits v = true) (hkey : entryAt? key fields = some labels) :
    v.section? key = .ok (v.partAt key) :=
  section_eq_partAt (fun _ hu ↦ (fits_labels_iff.mp hu).imp fun _ ↦ And.left) h hkey

/-- A field of a section is read without fault, also where the section is absent. -/
theorem field_partAt (v : Value) (key key' : String) :
    (v.partAt key).field key' = .ok (((v.partAt key).at? key').getD .null) := by
  unfold Value.partAt
  split <;> rfl

/-- A declared section fits its shape. -/
theorem fits_partAt (h : (record fields).fits v = true)
    (hkey : entryAt? key fields = some (record fields')) :
    (record fields').fits (v.partAt key) = true := by
  obtain ⟨u, hu, hfits⟩ := yields_section h hkey
  rw [section_eq h hkey] at hu
  exact Except.ok.inj hu ▸ hfits

/-- What stands under the key of a section is the section, if that has entries. -/
theorem at?_eq_partAt (h : (record fields).fits v = true)
    (hkey : entryAt? key fields = some (record fields')) (hpart : v.partAt key ≠ .map []) :
    (v.at? key).getD .null = v.partAt key := by
  have hoptional := optional_at? h hkey
  unfold Value.partAt at hpart ⊢
  cases hat : v.at? key with
  | none => simp [hat] at hpart
  | some u =>
    rw [hat, Option.getD_some] at hoptional
    rcases hoptional with rfl | hfits
    · simp [hat] at hpart
    · obtain ⟨entries, rfl, -⟩ := fits_record_iff.mp hfits
      rfl

/-- What stands under the key of a section counts if the section has entries. -/
theorem counts_at?_iff (h : (record fields).fits v = true)
    (hkey : entryAt? key fields = some (record fields')) :
    ((v.at? key).getD .null).counts = true ↔ v.partAt key ≠ .map [] := by
  have hoptional := optional_at? h hkey
  unfold Value.partAt
  cases hat : v.at? key with
  | none => simp [Value.counts]
  | some u =>
    rw [hat, Option.getD_some] at hoptional
    rcases hoptional with rfl | hfits
    · simp [Value.counts]
    · obtain ⟨entries, rfl, -⟩ := fits_record_iff.mp hfits
      simp [Value.counts]

/-- A declared list is read without fault. -/
theorem each_eq (h : (record fields).fits v = true)
    (hkey : entryAt? key fields = some (list item)) : v.each key = .ok (v.itemsAt key) := by
  have hoptional := optional_at? h hkey
  rw [Value.each, Value.fieldOr, field_eq h, Except.map]
  unfold Value.itemsAt
  cases hat : v.at? key with
  | none => rfl
  | some u =>
    rw [hat, Option.getD_some] at hoptional
    rcases hoptional with rfl | hfits
    · rfl
    · obtain ⟨items, rfl, -⟩ := fits_list_iff.mp hfits
      cases items <;> rfl

/-- The items of a declared list fit their shape. -/
theorem fits_itemsAt (h : (record fields).fits v = true)
    (hkey : entryAt? key fields = some (list item)) :
    ∀ u ∈ v.itemsAt key, item.fits u = true := by
  obtain ⟨us, hus, hfits⟩ := yields_each h hkey
  rw [each_eq h hkey] at hus
  exact Except.ok.inj hus ▸ hfits

end Shape

end ClusterDiagnosis
