import ClusterDiagnosis.Files.Tree
import Mathlib.Tactic.Common

/-!
# Writing to a tree

Putting something at a place shows there and nowhere else (`node?_put_self`, `node?_put_of_ne`), and
what a file holds shows at all of its names (`node?_store_of_mem`, `node?_store_of_notMem`). Paths
lead where they led as long as the directories stay (`Keeps.locate`), and a file takes none away
(`keeps_store`). So a file that was written is found under the path that it was written to
(`find_writeFile`).
-/

set_option autoImplicit false
set_option relaxedAutoImplicit false

namespace ClusterDiagnosis.FileTree

variable {t t' : FileTree} {p : Path} {place q here names : List String} {n : FileNode}
  {bytes : List UInt8}

/-- What is put at a place is found there; the root stays a directory. -/
theorem node?_put_self (t : FileTree) (n : FileNode) (h : place ≠ []) :
    (t.put place n).node? place = some n := by
  have hfilter : (t.nodes.filter fun e ↦ e.1 != place).find? (fun e ↦ e.1 == place) = none := by
    rw [List.find?_eq_none]
    intro e he
    simpa using (List.mem_filter.mp he).2
  rw [node?, if_neg (by simpa using h), put, List.find?_append, hfilter, Option.none_or,
    List.find?_cons_of_pos (by simp)]
  rfl

/-- Every other place is as it was. -/
theorem node?_put_of_ne (t : FileTree) (n : FileNode) (h : q ≠ place) :
    (t.put place n).node? q = t.node? q := by
  have hlast : [(place, n)].find? (fun e ↦ e.1 == q) = none := by
    simpa using h.symm
  have hfilter : (t.nodes.filter fun e ↦ e.1 != place).find? (fun e ↦ e.1 == q) =
      t.nodes.find? fun e ↦ e.1 == q := by
    rw [List.find?_filter]
    congr 1
    funext e
    by_cases he : e.1 = q
    · simp [he, h]
    · simp [he]
  rw [node?, node?, put, List.find?_append, hlast, Option.or_none, hfilter]

/-! ### Where paths lead -/

/-- The place that a name leads to from a place. -/
def next (here : List String) (name : String) : List String :=
  if name = ".." then here.dropLast else here ++ [name]

/-- A name leads on from a directory from which one may go on, if the name is not too long. -/
theorem follow_cons_eq_ok_iff {name : String} : t.follow here (name :: names) = .ok q ↔
    t.node? here = some .directory ∧ t.closed here = false ∧ name.utf8ByteSize ≤ maxNameBytes ∧
      t.follow (next here name) names = .ok q := by
  rw [follow]
  cases hnode : t.node? here with
  | none => simp
  | some n =>
    cases n with
    | file bytes => simp
    | directory =>
      have hnext : (if name = ".." then t.follow here.dropLast names
          else t.follow (here ++ [name]) names) = t.follow (next here name) names := by
        rw [next, apply_ite (fun place ↦ t.follow place names)]
      dsimp only
      rw [hnext]
      split
      · next hclosed => simp [hclosed]
      · next hopen =>
        split
        · next hlong => simp [Nat.not_le.mpr hlong]
        · next hshort => simp [hopen, Nat.not_lt.mp hshort]

/-- What names in front lead to is where the names behind them start. -/
theorem follow_append_eq_ok_iff {others : List String} : t.follow here (names ++ others) = .ok q ↔
    ∃ middle, t.follow here names = .ok middle ∧ t.follow middle others = .ok q := by
  induction names generalizing here with
  | nil =>
    constructor
    · exact fun h ↦ ⟨here, rfl, h⟩
    · rintro ⟨middle, hmiddle, h⟩
      cases hmiddle
      exact h
  | cons name names ih =>
    rw [List.cons_append, follow_cons_eq_ok_iff, ih]
    simp only [follow_cons_eq_ok_iff]
    constructor
    · rintro ⟨hnode, hclosed, hname, middle, hmiddle, h⟩
      exact ⟨middle, ⟨hnode, hclosed, hname, hmiddle⟩, h⟩
    · rintro ⟨middle, ⟨hnode, hclosed, hname, hmiddle⟩, h⟩
      exact ⟨hnode, hclosed, hname, middle, hmiddle, h⟩

/-- Names that do not lead up are added to the place. -/
theorem eq_append_of_follow (hup : ".." ∉ names) (h : t.follow here names = .ok q) :
    q = here ++ names := by
  induction names generalizing here with
  | nil =>
    cases h
    exact (List.append_nil _).symm
  | cons name names ih =>
    rw [List.mem_cons, not_or] at hup
    obtain ⟨-, -, -, h⟩ := follow_cons_eq_ok_iff.mp h
    rw [ih hup.2 h, next, if_neg (Ne.symm hup.1), List.append_assoc]
    rfl

/-- A path leads to a place if its text is not too long and its names can be followed. -/
theorem locate_eq_ok_iff : t.locate p = .ok q ↔
    p.text.utf8ByteSize ≤ maxPathBytes ∧
      t.follow (if p.root.isEmpty then t.current else []) p.names = .ok q := by
  rw [locate]
  split
  · next hlong => simp [Nat.not_le.mpr hlong]
  · next hshort => simp [Nat.not_lt.mp hshort]

/-- A path finds what there is at the place to which it leads. -/
theorem find_eq_ok_iff : t.find p = .ok n ↔ ∃ place, t.locate p = .ok place ∧
    t.node? place = some n := by
  rw [find]
  cases t.locate p with
  | error e => simp [bind, Except.bind]
  | ok place => cases hnode : t.node? place <;> simp [bind, Except.bind, hnode]

/-! ### Directories that stay -/

/-- A tree with the directories of another one, the same rights to go on from there, and the same
names and faults of its files. -/
structure Keeps (t t' : FileTree) : Prop where
  current : t'.current = t.current
  closed : t'.closed = t.closed
  otherNames : t'.otherNames = t.otherNames
  breaksOff : t'.breaksOff = t.breaksOff
  directory : ∀ place, t.node? place = some .directory → t'.node? place = some .directory

namespace Keeps

theorem refl (t : FileTree) : t.Keeps t :=
  ⟨rfl, rfl, rfl, rfl, fun _ ↦ id⟩

theorem trans {t'' : FileTree} (h : t.Keeps t') (h' : t'.Keeps t'') : t.Keeps t'' :=
  ⟨h'.current.trans h.current, h'.closed.trans h.closed, h'.otherNames.trans h.otherNames,
    h'.breaksOff.trans h.breaksOff,
    fun place hplace ↦ h'.directory place (h.directory place hplace)⟩

/-- On the way to a place one goes through directories only. -/
theorem follow (h : t.Keeps t') (hq : t.follow here names = .ok q) :
    t'.follow here names = .ok q := by
  induction names generalizing here with
  | nil => exact hq
  | cons name names ih =>
    obtain ⟨hnode, hclosed, hname, hq⟩ := follow_cons_eq_ok_iff.mp hq
    rw [← h.closed] at hclosed
    exact follow_cons_eq_ok_iff.mpr ⟨h.directory here hnode, hclosed, hname, ih hq⟩

/-- Paths lead to the same places in a tree that is kept. -/
theorem locate (h : t.Keeps t') (hq : t.locate p = .ok q) : t'.locate p = .ok q := by
  obtain ⟨hlength, hq⟩ := locate_eq_ok_iff.mp hq
  rw [locate_eq_ok_iff, h.current]
  exact ⟨hlength, h.follow hq⟩

/-- What is taken as a new file's place does not change in a tree that is kept. -/
theorem taken (h : t.Keeps t') : t'.taken = t.taken := by
  funext place bytes
  rw [FileTree.taken, FileTree.taken, h.breaksOff]

end Keeps

/-- Putting something where there is no directory keeps the tree. -/
theorem keeps_put (hplace : t.node? place ≠ some .directory) : t.Keeps (t.put place n) := by
  refine ⟨rfl, rfl, rfl, rfl, fun q hq ↦ ?_⟩
  have hne : q ≠ place := by
    rintro rfl
    exact hplace hq
  rwa [node?_put_of_ne t n hne]

/-! ### What files hold -/

/-- The root is a directory whatever the tree is. -/
theorem ne_nil_of_node? (h : t.node? place ≠ some .directory) : place ≠ [] := by
  rintro rfl
  exact h rfl

/-- A place is one of its file's places. -/
theorem mem_placesOf_self (t : FileTree) (place : List String) : place ∈ t.placesOf place :=
  List.mem_cons_self

/-- A file that is written shows at its place, and at other names of it where a file is. -/
theorem eq_or_mem_of_mem_placesOf (h : q ∈ t.placesOf place) :
    q = place ∨ q ∈ t.otherNames place ∧ t.isFile q = true := by
  rcases List.mem_cons.mp h with rfl | hq
  · exact .inl rfl
  · split at hq
    · exact .inr (List.mem_filter.mp hq)
    · cases hq

/-- A place with a file has no directory. -/
theorem node?_ne_directory_of_isFile (h : t.isFile place = true) :
    t.node? place ≠ some .directory := by
  intro hnode
  simp [isFile, hnode] at h

/-- A file shows at no place of a directory. -/
theorem node?_ne_directory_of_mem_placesOf (hplace : t.node? place ≠ some .directory)
    (h : q ∈ t.placesOf place) : t.node? q ≠ some .directory := by
  rcases eq_or_mem_of_mem_placesOf h with rfl | ⟨-, hfile⟩
  · exact hplace
  · exact node?_ne_directory_of_isFile hfile

/-- Putting a file at several places leaves the others as they were. -/
theorem node?_foldl_put_of_notMem {places : List (List String)} (h : q ∉ places) :
    (places.foldl (fun t r ↦ t.put r n) t).node? q = t.node? q := by
  induction places generalizing t with
  | nil => rfl
  | cons r places ih =>
    rw [List.mem_cons, not_or] at h
    rw [List.foldl_cons, ih h.2, node?_put_of_ne t n h.1]

/-- Putting a file at several places puts it at each of them. -/
theorem node?_foldl_put_of_mem {places : List (List String)} (hq : q ≠ []) (h : q ∈ places) :
    (places.foldl (fun t r ↦ t.put r n) t).node? q = some n := by
  induction places generalizing t with
  | nil => cases h
  | cons r places ih =>
    rw [List.foldl_cons]
    by_cases hmem : q ∈ places
    · exact ih hmem
    · obtain rfl : q = r := (List.mem_cons.mp h).resolve_right hmem
      rw [node?_foldl_put_of_notMem hmem, node?_put_self t n hq]

/-- Stored bytes are found at all places of the file. -/
theorem node?_store_of_mem (hplace : t.node? place ≠ some .directory)
    (h : q ∈ t.placesOf place) : (t.store place bytes).node? q = some (.file bytes) :=
  node?_foldl_put_of_mem (ne_nil_of_node? (node?_ne_directory_of_mem_placesOf hplace h)) h

/-- They change nothing at the places of other files. -/
theorem node?_store_of_notMem (h : q ∉ t.placesOf place) :
    (t.store place bytes).node? q = t.node? q :=
  node?_foldl_put_of_notMem h

/-- What a file holds has no part in where paths lead. -/
theorem keeps_store (hplace : t.node? place ≠ some .directory) :
    t.Keeps (t.store place bytes) := by
  have hput (places : List (List String)) (t₁ : FileTree)
      (h : ∀ q ∈ places, t₁.node? q ≠ some .directory) :
      t₁.Keeps (places.foldl (fun t q ↦ t.put q (.file bytes)) t₁) := by
    induction places generalizing t₁ with
    | nil => exact .refl t₁
    | cons r places ih =>
      obtain ⟨hr, hrest⟩ := List.forall_mem_cons.mp h
      refine (keeps_put hr).trans (ih _ fun q hq ↦ ?_)
      by_cases hqr : q = r
      · rw [hqr, node?_put_self t₁ _ (ne_nil_of_node? hr)]
        simp
      · rw [node?_put_of_ne t₁ _ hqr]
        exact hrest q hq
  exact hput _ t fun q ↦ node?_ne_directory_of_mem_placesOf hplace

/-! ### Writing -/

/-- A file is opened where the path leads, which is no place of a directory. -/
theorem openFile_eq_ok_iff : t.openFile p = .ok place ↔
    t.locate p = .ok place ∧ t.node? place ≠ some .directory ∧ t.forbidden place = false := by
  unfold openFile
  cases t.locate p with
  | error e => simp [bind, Except.bind]
  | ok q =>
    dsimp only [bind, Except.bind]
    split
    · next hnode =>
      constructor
      · intro h
        cases h
      · rintro ⟨hq, hne, -⟩
        cases hq
        exact absurd hnode hne
    · next hnode =>
      split
      · next hforbidden =>
        constructor
        · intro h
          cases h
        · rintro ⟨hq, -, hfree⟩
          cases hq
          simp [hforbidden] at hfree
      · next hfree =>
        constructor
        · intro h
          cases h
          exact ⟨rfl, hnode, by simpa using hfree⟩
        · exact fun h ↦ h.1

/-- The path of a file that was opened leads to its place after the writing too. -/
theorem locate_store (h : t.openFile p = .ok place) :
    (t.store place bytes).locate p = .ok place := by
  obtain ⟨hlocate, hplace, -⟩ := openFile_eq_ok_iff.mp h
  exact (keeps_store hplace).locate hlocate

/-- A file that was opened holds what it took of the bytes. -/
theorem find_store (h : t.openFile p = .ok place) :
    (t.store place bytes).find p = .ok (.file bytes) :=
  find_eq_ok_iff.mpr ⟨place, locate_store h,
    node?_store_of_mem (openFile_eq_ok_iff.mp h).2.1 (mem_placesOf_self t place)⟩

/-- What was written to the end is found under the path that it was written to. -/
theorem find_writeFile (h : (t.writeFile p bytes).1 = .ok ()) :
    (t.writeFile p bytes).2.find p = .ok (.file bytes) := by
  unfold writeFile at h ⊢
  cases hopen : t.openFile p with
  | error e =>
    rw [hopen] at h
    cases h
  | ok place =>
    rw [hopen] at h
    dsimp only at h ⊢
    cases hbreak : t.breaksOff place with
    | some k => simp [hbreak] at h
    | none =>
      rw [taken, hbreak]
      exact find_store hopen

end ClusterDiagnosis.FileTree
