import ClusterDiagnosis.Proofs.Files.Growth
import ClusterDiagnosis.Proofs.Report.Artifact

/-!
# The turns of manifests

Writing the manifest of a diagnosis makes the tree grow: directories on the way, and the file that
is opened, if one is (`writeManifest_turn`). So does writing many of them (`grows_attempted`). The
paths lead to the places of their files until the end (`locate_of_opened`), and one is given back
for each file that was written to the end (`given_iff`).
-/

set_option autoImplicit false
set_option relaxedAutoImplicit false

namespace ClusterDiagnosis

namespace Report

open FileTree

variable {dir : String} {d : Diagnosis} {ds : List Diagnosis} {t : FileTree} {p : Path}
  {place : List String}

/-! ### One manifest -/

/-- The place of the file that is opened for the manifest of a diagnosis, if one is. -/
def openedFor? (dir : String) (d : Diagnosis) (t : FileTree) : Option (List String) :=
  if d.manifest.isEmpty || (filePath dir d).hasNul then none
  else
    match t.makeDirectories (filePath dir d).root (filePath dir d).parent.names with
    | (.error _, _) => none
    | (.ok (), t) => (t.openFile (filePath dir d)).toOption

/-- Without an opened file a manifest leaves nothing but directories, and no path is given back. -/
structure LeftOut (dir : String) (d : Diagnosis) (t : FileTree) : Prop where
  opened : openedFor? dir d t = none
  result : ∀ p, (writeManifest dir d t).1 ≠ .ok (some p)
  grows : Grows (·.IsPartOf (filePath dir d).parent) (fun _ ↦ False) t (writeManifest dir d t).2

/-- A manifest whose file was opened at a place. It holds what it took of the text, and the path is
given back if that is all of it. -/
structure PutAt (dir : String) (d : Diagnosis) (t : FileTree) (place : List String) : Prop where
  opened : openedFor? dir d t = some place
  result : (writeManifest dir d t).1 =
    .ok (if (t.breaksOff place).isSome then none else some (filePath dir d))
  locate : (writeManifest dir d t).2.locate (filePath dir d) = .ok place
  node : (writeManifest dir d t).2.node? place =
    some (.file (t.taken place (fileText d).toUTF8.toList))
  grows : Grows (·.IsPartOf (filePath dir d).parent) (t.Touches place) t (writeManifest dir d t).2

/-- Making the directories above an artifact touches nothing else. -/
theorem grows_makeParents (dir : String) (d : Diagnosis) (t : FileTree) :
    Grows (·.IsPartOf (filePath dir d).parent) (fun _ ↦ False) t
      (t.makeDirectories (filePath dir d).root (filePath dir d).parent.names).2 :=
  grows_makeDirectories (fun _ ↦ id) t

/-- A turn that opens no file leaves its diagnosis out, with directories at most. -/
theorem leftOut_of_write {r : Except Fault (Option Path)} {t' : FileTree}
    (hopened : openedFor? dir d t = none) (hwrite : writeManifest dir d t = (r, t'))
    (hresult : ∀ p, r ≠ .ok (some p))
    (hgrows : Grows (·.IsPartOf (filePath dir d).parent) (fun _ ↦ False) t t') :
    LeftOut dir d t := by
  refine ⟨hopened, ?_, ?_⟩ <;> rw [hwrite]
  · exact hresult
  · exact hgrows

/-- Once the directories are made, the file is opened and written, or it cannot be opened. -/
theorem turn_of_made {made : FileTree} (hempty : d.manifest.isEmpty = false)
    (hnul : (filePath dir d).hasNul = false)
    (hmake : t.makeDirectories (filePath dir d).root (filePath dir d).parent.names =
      (.ok (), made)) : LeftOut dir d t ∨ ∃ place, PutAt dir d t place := by
  have hparent : (filePath dir d).parent.hasNul = false := Path.hasNul_parent hnul
  have hgrows : Grows (·.IsPartOf (filePath dir d).parent) (fun _ ↦ False) t made := by
    simpa only [hmake] using grows_makeParents dir d t
  have hopened : openedFor? dir d t = (made.openFile (filePath dir d)).toOption := by
    simp [openedFor?, hempty, hnul, hmake]
  cases hopen : made.openFile (filePath dir d) with
  | error e =>
    have hwrite : writeManifest dir d t = (.ok none, made) := by
      simp [writeManifest, hempty, hnul, hparent, writeText, hmake, writeFile, hopen]
    exact .inl (leftOut_of_write (by rw [hopened, hopen]; rfl) hwrite (by simp) hgrows)
  | ok place =>
    have hplace := (openFile_eq_ok_iff.mp hopen).2.1
    have hkeeps : t.Keeps made := hgrows.keeps
    let bytes := t.taken place (fileText d).toUTF8.toList
    have hwrite : writeManifest dir d t =
        (.ok (if (t.breaksOff place).isSome then none else some (filePath dir d)),
          made.store place bytes) := by
      simp only [writeManifest, hempty, hnul, hparent, writeText, hmake, writeFile, hopen,
        hkeeps.breaksOff, hkeeps.taken, Bool.false_eq_true, if_false]
      cases t.breaksOff place <;> rfl
    refine .inr ⟨place, by rw [hopened, hopen]; rfl, ?_, ?_, ?_, ?_⟩ <;> rw [hwrite]
    · exact locate_store hopen
    · exact node?_store_of_mem hplace (mem_placesOf_self made place)
    · refine (hgrows.mono (fun _ ↦ id) fun _ ↦ False.elim).trans ?_
      rw [← hkeeps.touches]
      exact grows_store hplace

/-- A path with a NUL stops the writing before a file is opened. -/
theorem leftOut_of_nul (hempty : d.manifest.isEmpty = false)
    (hnul : (filePath dir d).hasNul = true) : LeftOut dir d t := by
  have hopened : openedFor? dir d t = none := by simp [openedFor?, hnul]
  cases hparent : (filePath dir d).parent.hasNul with
  | true =>
    have hwrite : writeManifest dir d t = (.error (.mismatch .unreadable), t) := by
      simp [writeManifest, hempty, hparent]
    exact leftOut_of_write hopened hwrite (by simp) (.refl t)
  | false =>
    have hgrows := grows_makeParents dir d t
    rcases hmake : t.makeDirectories (filePath dir d).root (filePath dir d).parent.names with
      ⟨e | u, made⟩ <;> rw [hmake] at hgrows
    · have hwrite : writeManifest dir d t = (.ok none, made) := by
        simp [writeManifest, hempty, hparent, hnul, hmake]
      exact leftOut_of_write hopened hwrite (by simp) hgrows
    · have hwrite : writeManifest dir d t = (.error (.mismatch .unreadable), made) := by
        simp [writeManifest, hempty, hparent, hnul, hmake]
      exact leftOut_of_write hopened hwrite (by simp) hgrows

/-- The turn of a manifest: no file is opened for it, or one is at some place. -/
theorem writeManifest_turn (dir : String) (d : Diagnosis) (t : FileTree) :
    LeftOut dir d t ∨ ∃ place, PutAt dir d t place := by
  cases hempty : d.manifest.isEmpty with
  | true =>
    have hwrite : writeManifest dir d t = (.ok none, t) := by simp [writeManifest, hempty]
    exact .inl (leftOut_of_write (by simp [openedFor?, hempty]) hwrite (by simp) (.refl t))
  | false =>
    cases hnul : (filePath dir d).hasNul with
    | true => exact .inl (leftOut_of_nul hempty hnul)
    | false =>
      rcases hmake : t.makeDirectories (filePath dir d).root (filePath dir d).parent.names with
        ⟨e | u, made⟩
      · have hparent : (filePath dir d).parent.hasNul = false := Path.hasNul_parent hnul
        have hwrite : writeManifest dir d t = (.ok none, made) := by
          simp [writeManifest, hempty, hnul, hparent, writeText, hmake]
        have hgrows := grows_makeParents dir d t
        rw [hmake] at hgrows
        exact .inl (leftOut_of_write (by simp [openedFor?, hmake]) hwrite (by simp) hgrows)
      · exact turn_of_made hempty hnul hmake

/-! ### One after the other -/

/-- The turn of a manifest: whose it is, what comes of it, and the place of the file that is opened
for it, if one is. -/
structure Turn where
  diagnosis : Diagnosis
  result : Except Fault (Option Path)
  opened : Option (List String)

/-- The turn of the manifest of a diagnosis that finds these files. -/
def turnOf (dir : String) (d : Diagnosis) (t : FileTree) : Turn :=
  ⟨d, (writeManifest dir d t).1, openedFor? dir d t⟩

/-- The turns of manifests that are attempted one after the other. -/
def turns (dir : String) : List Diagnosis → FileTree → List Turn
  | [], _ => []
  | d :: ds, t => turnOf dir d t :: turns dir ds (writeManifest dir d t).2

/-- The places of the files that are opened, in order. -/
def openedPlaces (dir : String) (ds : List Diagnosis) (t : FileTree) : List (List String) :=
  (turns dir ds t).filterMap Turn.opened

variable {x : Turn}

/-- Each diagnosis has its turn. -/
theorem map_diagnosis_turns (dir : String) (ds : List Diagnosis) (t : FileTree) :
    (turns dir ds t).map Turn.diagnosis = ds := by
  induction ds generalizing t with
  | nil => rfl
  | cons d ds ih => rw [turns, List.map_cons, ih, turnOf]

/-- The turns of further diagnoses start with the files as the first ones leave them. -/
theorem turns_append (before after : List Diagnosis) (t : FileTree) :
    turns dir (before ++ after) t =
      turns dir before t ++ turns dir after (attempted dir before t) := by
  induction before generalizing t with
  | nil => rfl
  | cons d before ih =>
    rw [List.cons_append, turns, ih, turns, List.cons_append]
    rfl

/-- The places opened are that of the first diagnosis, if any, and those of the others. -/
theorem openedPlaces_cons (dir : String) (d : Diagnosis) (ds : List Diagnosis) (t : FileTree) :
    openedPlaces dir (d :: ds) t =
      (openedFor? dir d t).toList ++ openedPlaces dir ds (writeManifest dir d t).2 := by
  have hhead : (turnOf dir d t).opened = openedFor? dir d t := rfl
  rw [openedPlaces, turns, List.filterMap_cons, hhead]
  cases openedFor? dir d t <;> rfl

/-- The places opened by further diagnoses come behind those of the first ones. -/
theorem openedPlaces_append (before after : List Diagnosis) (t : FileTree) :
    openedPlaces dir (before ++ after) t =
      openedPlaces dir before t ++ openedPlaces dir after (attempted dir before t) := by
  rw [openedPlaces, turns_append, List.filterMap_append]
  rfl

/-- Directories are made on the way to the files, and no file changes but those that are opened,
with all of their names. -/
theorem grows_attempted (dir : String) (ds : List Diagnosis) (t : FileTree) :
    Grows (fun q ↦ ∃ d ∈ ds, q.IsPartOf (filePath dir d).parent)
      (fun q ↦ ∃ place ∈ openedPlaces dir ds t, t.Touches place q) t (attempted dir ds t) := by
  induction ds generalizing t with
  | nil => exact .refl t
  | cons d ds ih =>
    have hrest := ih (writeManifest dir d t).2
    have hfirst : Grows (·.IsPartOf (filePath dir d).parent)
        (fun q ↦ ∃ place, openedFor? dir d t = some place ∧ t.Touches place q) t
        (writeManifest dir d t).2 := by
      rcases writeManifest_turn dir d t with hout | ⟨place, hput⟩
      · exact hout.grows.mono (fun _ ↦ id) fun _ ↦ False.elim
      · exact hput.grows.mono (fun _ ↦ id) fun q hq ↦ ⟨place, hput.opened, hq⟩
    rw [hfirst.keeps.touches] at hrest
    refine .trans (hfirst.mono ?_ ?_) (hrest.mono ?_ ?_)
    · exact fun q hq ↦ ⟨d, List.mem_cons_self, hq⟩
    · rintro q ⟨place, hplace, hq⟩
      exact ⟨place, by simp [openedPlaces_cons, hplace], hq⟩
    · rintro q ⟨d', hd', hq⟩
      exact ⟨d', List.mem_cons_of_mem _ hd', hq⟩
    · rintro q ⟨place, hplace, hq⟩
      exact ⟨place, by simp [openedPlaces_cons, hplace], hq⟩

/-- Attempting all artifacts keeps what the tree had. -/
theorem keeps_attempted (dir : String) (ds : List Diagnosis) (t : FileTree) :
    t.Keeps (attempted dir ds t) :=
  (grows_attempted dir ds t).keeps

/-- Each turn finds the files that those before it left. -/
theorem exists_of_mem_turns (h : x ∈ turns dir ds t) : ∃ before after,
    ds = before ++ x.diagnosis :: after ∧ x = turnOf dir x.diagnosis (attempted dir before t) := by
  induction ds generalizing t with
  | nil => cases h
  | cons d ds ih =>
    rcases List.mem_cons.mp h with rfl | hx
    · exact ⟨[], ds, rfl, rfl⟩
    · obtain ⟨before, after, hds, hturn⟩ := ih hx
      exact ⟨d :: before, after, by rw [hds, List.cons_append], hturn⟩

/-- One diagnosis among others has its turn in between. -/
theorem attempted_append (before : List Diagnosis) (d : Diagnosis) (after : List Diagnosis)
    (t : FileTree) : attempted dir (before ++ d :: after) t =
      attempted dir after (writeManifest dir d (attempted dir before t)).2 := by
  rw [attempted, List.foldl_append]
  rfl

theorem diagnosis_mem (h : x ∈ turns dir ds t) : x.diagnosis ∈ ds := by
  obtain ⟨before, after, hds, -⟩ := exists_of_mem_turns h
  rw [hds]
  exact List.mem_append_right _ List.mem_cons_self

/-- Without an opened file no path is given back. -/
theorem result_of_not_opened (h : x ∈ turns dir ds t) (hopened : x.opened = none) :
    ∀ p, x.result ≠ .ok (some p) := by
  obtain ⟨before, after, -, hturn⟩ := exists_of_mem_turns h
  rw [hturn] at hopened ⊢
  rcases writeManifest_turn dir x.diagnosis (attempted dir before t) with hout | ⟨place, hput⟩
  · exact hout.result
  · cases hput.opened.symm.trans hopened

/-- A file that was opened: what came of it, and what the turns behind it find. -/
theorem putAt_of_mem_turns (h : x ∈ turns dir ds t) (hopened : x.opened = some place) :
    ∃ before after, ds = before ++ x.diagnosis :: after ∧
      x = turnOf dir x.diagnosis (attempted dir before t) ∧
      PutAt dir x.diagnosis (attempted dir before t) place := by
  obtain ⟨before, after, hds, hturn⟩ := exists_of_mem_turns h
  refine ⟨before, after, hds, hturn, ?_⟩
  rw [hturn] at hopened
  rcases writeManifest_turn dir x.diagnosis (attempted dir before t) with hout | ⟨q, hput⟩
  · cases hout.opened.symm.trans hopened
  · cases hput.opened.symm.trans hopened
    exact hput

/-- A path is given back for a file that was written to the end. -/
theorem result_of_opened (h : x ∈ turns dir ds t) (hopened : x.opened = some place) :
    x.result = .ok (if (t.breaksOff place).isSome then none
      else some (filePath dir x.diagnosis)) := by
  obtain ⟨before, after, -, hturn, hput⟩ := putAt_of_mem_turns h hopened
  rw [hturn, ← (keeps_attempted dir before t).breaksOff]
  exact hput.result

/-- In the end the path of a file that was opened leads to its place. -/
theorem locate_of_opened (h : x ∈ turns dir ds t) (hopened : x.opened = some place) :
    (attempted dir ds t).locate (filePath dir x.diagnosis) = .ok place := by
  obtain ⟨before, after, hds, -, hput⟩ := putAt_of_mem_turns h hopened
  rw [hds, attempted_append]
  exact (keeps_attempted dir after _).locate hput.locate

/-- A place that is opened is that of some diagnosis's path. -/
theorem exists_mem_of_opened (h : place ∈ openedPlaces dir ds t) :
    ∃ d ∈ ds, (attempted dir ds t).locate (filePath dir d) = .ok place := by
  obtain ⟨x, hx, hopened⟩ := List.mem_filterMap.mp h
  exact ⟨x.diagnosis, diagnosis_mem hx, locate_of_opened hx hopened⟩

/-- A path is given back if it is that of a file that was opened and written to the end. -/
theorem given_iff (h : x ∈ turns dir ds t) : x.result = .ok (some p) ↔
    p = filePath dir x.diagnosis ∧ ∃ place, x.opened = some place ∧ t.breaksOff place = none := by
  cases hopened : x.opened with
  | none => simp [result_of_not_opened h hopened p]
  | some place =>
    rw [result_of_opened h hopened]
    cases hbreak : t.breaksOff place <;> simp [hbreak, eq_comm]

end Report

end ClusterDiagnosis
