import ClusterDiagnosis.Detect.Snapshot
import ClusterDiagnosis.Proofs.Scan.Running

/-!
# The labels of an object and its key

The name and the namespace of an object label its series, and its key is put together from them. A
value that counts is never written as the empty text (`Value.text_ne_empty`), so the texts of the
two labels tell whether there is a namespace, and thereby what a key that is a text looks like
(`Value.objectKey_eq_of_labels`).
-/

set_option autoImplicit false
set_option relaxedAutoImplicit false

namespace ClusterDiagnosis

/-! ### Values that count are seen -/

theorem Shortest.layout_ne_nil (ds : List Char) (point : Int) : layout ds point ≠ [] := by
  unfold layout
  split
  · split <;> simp
  · simp

/-- Every number is written with one character at least. -/
theorem Double.text_ne_empty (d : Double) : d.text ≠ "" := by
  cases d with
  | nan => decide
  | infinity negative => cases negative <;> decide
  | finite negative m e =>
    intro h
    rw [text, String.ofList_eq_empty_iff] at h
    generalize Shortest.digits m e = p at h
    obtain ⟨ds, power⟩ := p
    split at h
    · cases h
    · split at h
      · cases h
      · exact Shortest.layout_ne_nil _ _ h

namespace Value

/-- A value that counts is written as some text. -/
theorem text_ne_empty {v : Value} (h : v.counts = true) : v.text ≠ "" := by
  cases v with
  | null => simp [counts] at h
  | bool b => cases b <;> simp [text, literal]
  | int n =>
    cases n with
    | ofNat n => exact Nat.repr_ne_empty
    | negSucc n => simp [text, literal, toString, Int.repr]
  | float d => exact d.text_ne_empty
  | str s => simpa [text, counts] using h
  | list items => simp [text, literal]
  | map entries => simp [text, literal]

/-! ### Labels -/

/-- The entry of an object's metadata that labels its series, empty where nothing counts. -/
def labelOf (object : Value) (key : String) : Value :=
  match object.metadata >>= fun md ↦ md.label key with
  | .ok v => v
  | .error _ => .str ""

/-- A label counts exactly if its text is not empty. -/
theorem counts_eq_of_label {md v : Value} {key : String} (h : md.label key = .ok v) :
    v.counts = (v.text != "") := by
  have horElse : v.counts = true ∨ v = .str "" := by
    unfold label fieldOr at h
    cases hfield : md.field key with
    | error f =>
      rw [hfield] at h
      cases h
    | ok u =>
      rw [hfield] at h
      obtain rfl : u.orElse (.str "") = v := Except.ok.inj h
      unfold orElse
      split
      · next hcounts => exact Or.inl hcounts
      · exact Or.inr rfl
  rcases horElse with hcounts | rfl
  · rw [hcounts, eq_comm, bne_iff_ne]
    exact text_ne_empty hcounts
  · rfl

/-- An object has a key exactly if its metadata has both labels, and these make the key. -/
theorem objectKey_eq_ok_iff {object key : Value} :
    object.objectKey = .ok key ↔ ∃ md, object.metadata = .ok md ∧
      md.label "name" = .ok (object.labelOf "name") ∧
      md.label "namespace" = .ok (object.labelOf "namespace") ∧
      key = if (object.labelOf "namespace").counts then
          .str ((object.labelOf "namespace").text ++ "/" ++ (object.labelOf "name").text)
        else object.labelOf "name" := by
  have hlabel {md v : Value} {name : String} (hmd : object.metadata = .ok md)
      (hv : md.label name = .ok v) : object.labelOf name = v := by
    rw [labelOf, hmd]
    simp only [bind, Except.bind, hv]
  unfold objectKey
  simp only [bind_eq_ok_iff]
  constructor
  · rintro ⟨md, hmd, name, hname, scope, hscope, hkey⟩
    rw [hlabel hmd hname, hlabel hmd hscope]
    exact ⟨md, hmd, hname, hscope, (Except.ok.inj hkey).symm⟩
  · rintro ⟨md, hmd, hname, hscope, rfl⟩
    exact ⟨md, hmd, _, hname, _, hscope, rfl⟩

/-- The texts of the labels determine a key that is a text. -/
theorem objectKey_eq_of_labels {o p : Value} {s t : String} (ho : o.objectKey = .ok (.str s))
    (hp : p.objectKey = .ok (.str t))
    (hname : (o.labelOf "name").text = (p.labelOf "name").text)
    (hscope : (o.labelOf "namespace").text = (p.labelOf "namespace").text) : s = t := by
  obtain ⟨_, -, -, hlabel, hs⟩ := objectKey_eq_ok_iff.mp ho
  obtain ⟨_, -, -, hlabel', ht⟩ := objectKey_eq_ok_iff.mp hp
  have hcounts : (o.labelOf "namespace").counts = (p.labelOf "namespace").counts := by
    rw [counts_eq_of_label hlabel, counts_eq_of_label hlabel', hscope]
  rw [hcounts] at hs
  split at hs
  · next hcounts =>
    rw [if_pos hcounts] at ht
    rw [str.inj hs, str.inj ht, hname, hscope]
  · next hcounts =>
    rw [if_neg hcounts] at ht
    rw [← hs, ← ht] at hname
    exact hname

end Value

end ClusterDiagnosis
