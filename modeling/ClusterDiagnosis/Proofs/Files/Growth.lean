import ClusterDiagnosis.Proofs.Files.Tree
import Mathlib.Data.List.Induction

/-!
# Growing trees

A tree grows when directories are made where nothing was, and files are written (`Grows`). Making
directories makes them at the ends of parts of the path only (`grows_makeDirectories`), and what a
file holds changes at the names of the file only (`grows_store`). Anywhere else files are what
they were (`Grows.file_iff`).
-/

set_option autoImplicit false
set_option relaxedAutoImplicit false

namespace ClusterDiagnosis

/-- A path that another one starts with. -/
structure Path.IsPartOf (p q : Path) : Prop where
  root : p.root = q.root
  names : p.names <+: q.names

namespace FileTree

variable {t t' t'' : FileTree} {p : Path} {place : List String} {bytes : List UInt8}
  {parts parts' : Path → Prop} {written written' : List String → Prop}

/-- A tree that came of another one. Directories stay, and a place that is not among those written
is as it was, or nothing was there and now a directory is, to which one of the parts leads. -/
structure Grows (parts : Path → Prop) (written : List String → Prop) (t t' : FileTree) : Prop where
  keeps : t.Keeps t'
  elsewhere : ∀ place, ¬written place → t'.node? place = t.node? place ∨
    t.node? place = none ∧ t'.node? place = some .directory ∧
      ∃ p, parts p ∧ t'.locate p = .ok place

namespace Grows

theorem refl (t : FileTree) : Grows parts written t t :=
  ⟨.refl t, fun _ _ ↦ .inl rfl⟩

/-- Growth within some parts is growth within more of them. -/
theorem mono (h : Grows parts written t t') (hparts : ∀ p, parts p → parts' p)
    (hwritten : ∀ place, written place → written' place) : Grows parts' written' t t' := by
  refine ⟨h.keeps, fun place hplace ↦ ?_⟩
  rcases h.elsewhere place (mt (hwritten place) hplace) with hsame | ⟨hnone, hmade, p, hp, hlocate⟩
  · exact .inl hsame
  · exact .inr ⟨hnone, hmade, p, hparts p hp, hlocate⟩

/-- Growing twice within the same parts is growing once. -/
theorem trans (h : Grows parts written t t') (h' : Grows parts written t' t'') :
    Grows parts written t t'' := by
  refine ⟨h.keeps.trans h'.keeps, fun place hplace ↦ ?_⟩
  rcases h.elsewhere place hplace with hsame | ⟨hnone, hmade, p, hp, hlocate⟩
  · rw [← hsame]
    exact h'.elsewhere place hplace
  · exact .inr ⟨hnone, h'.keeps.directory place hmade, p, hp, h'.keeps.locate hlocate⟩

/-- Outside of the places written no file comes or goes. -/
theorem file_iff (h : Grows parts written t t') (hplace : ¬written place) :
    t'.node? place = some (.file bytes) ↔ t.node? place = some (.file bytes) := by
  rcases h.elsewhere place hplace with hsame | ⟨hnone, hmade, -⟩
  · rw [hsame]
  · simp [hnone, hmade]

end Grows

/-- Putting a directory where nothing is makes the tree grow. -/
theorem grows_put_directory (hp : parts p) (hlocate : t.locate p = .ok place)
    (hnone : t.node? place = none) : Grows parts written t (t.put place .directory) := by
  have hplace : t.node? place ≠ some .directory := by simp [hnone]
  have hkeeps : t.Keeps (t.put place .directory) := keeps_put hplace
  refine ⟨hkeeps, fun q _ ↦ ?_⟩
  by_cases hq : q = place
  · rw [hq]
    exact .inr ⟨hnone, node?_put_self t _ (ne_nil_of_node? hplace), p, hp, hkeeps.locate hlocate⟩
  · exact .inl (node?_put_of_ne t _ hq)

/-! ### Making directories -/

/-- Making a directory makes the tree grow by that directory at most. -/
theorem grows_makeDirectory (hp : parts p) (h : t.makeDirectory p = .ok t') :
    Grows parts written t t' := by
  unfold makeDirectory at h
  cases hlocate : t.locate p with
  | error e =>
    rw [hlocate] at h
    cases h
  | ok place =>
    rw [hlocate] at h
    dsimp only [bind, Except.bind] at h
    split at h
    · cases h
    · next hnone =>
      split at h
      · cases h
      · cases h
        exact grows_put_directory hp hlocate hnone

/-- Directories are made at the ends of parts of the path. -/
theorem grows_makeDirectories {root : String} {names : List String}
    (hparts : ∀ q : Path, q.IsPartOf ⟨root, names⟩ → parts q) (t : FileTree) :
    Grows parts written t (t.makeDirectories root names).2 := by
  induction names using List.reverseRecOn generalizing t with
  | nil =>
    rw [makeDirectories]
    dsimp only
    split
    · next t' hmake => exact grows_makeDirectory (hparts _ ⟨rfl, List.prefix_refl _⟩) hmake
    · exact .refl t
    · exact .refl t
  | append_singleton names name ih =>
    have hself := hparts ⟨root, names ++ [name]⟩ ⟨rfl, List.prefix_refl _⟩
    have hbefore (t : FileTree) : Grows parts written t (t.makeDirectories root names).2 :=
      ih (fun q hq ↦ hparts q ⟨hq.root, hq.names.trans (List.prefix_append _ _)⟩) t
    rw [makeDirectories]
    dsimp only
    split
    · next t' hmake => exact grows_makeDirectory hself hmake
    · rw [dif_neg (by simp), List.dropLast_concat]
      have hmade := hbefore t
      split
      · next e t₁ hfirst =>
        rw [hfirst] at hmade
        exact hmade
      · next t₁ hfirst =>
        rw [hfirst] at hmade
        split
        · next t₂ hmake => exact hmade.trans (grows_makeDirectory hself hmake)
        · exact hmade
    · exact .refl t

/-! ### Writing files -/

/-- A place whose file may become another one when the file at a place is written: that place, or
another name of the file. -/
def Touches (t : FileTree) (place q : List String) : Prop :=
  q = place ∨ q ∈ t.otherNames place

/-- Which places a write touches depends only on what is kept. -/
theorem Keeps.touches (h : t.Keeps t') : t'.Touches = t.Touches := by
  funext place q
  rw [Touches, Touches, h.otherNames]

/-- Storing bytes at a place makes the tree grow by the places that the file has. -/
theorem grows_store (hplace : t.node? place ≠ some .directory) :
    Grows parts (t.Touches place) t (t.store place bytes) := by
  refine ⟨keeps_store hplace, fun q hq ↦ .inl (node?_store_of_notMem fun hmem ↦ hq ?_)⟩
  exact (eq_or_mem_of_mem_placesOf hmem).imp_right And.left

end FileTree

end ClusterDiagnosis
