import ClusterDiagnosis.Proofs.Files.Path
import ClusterDiagnosis.Proofs.Files.Tree
import ClusterDiagnosis.Proofs.Report.Artifact
import ClusterDiagnosis.Proofs.Value.Label

/-!
# Where manifests are written

The file of a pod is `fixed-Pod-name.yaml`, or `name.yaml` in the directory `fixed-Pod-scope`
(`names_podFile`). These names lead down from the output directory (`exists_of_locate_filePath`),
and the names for different keys lead to different places in every tree (`leadApart_filePath`).
-/

set_option autoImplicit false
set_option relaxedAutoImplicit false

namespace ClusterDiagnosis

/-- The two texts that the key of an object is put together from. -/
structure KeyParts where
  scope : String
  name : String
  deriving DecidableEq

namespace KeyParts

variable {k l : KeyParts}

/-- The key of an object with a namespace or without one. -/
def key (k : KeyParts) : String :=
  if k.scope = "" then k.name else k.scope ++ "/" ++ k.name

/-- The texts of the two labels of an object. -/
def ofObject (object : Value) : KeyParts :=
  ⟨(object.labelOf "namespace").text, (object.labelOf "name").text⟩

/-- The parts of an object's key make up the key. -/
theorem key_ofObject {object : Value} {s : String} (h : object.objectKey = .ok (.str s)) :
    (ofObject object).key = s := by
  obtain ⟨md, -, -, hscope, hs⟩ := Value.objectKey_eq_ok_iff.mp h
  rw [Value.counts_eq_of_label hscope] at hs
  by_cases hempty : (object.labelOf "namespace").text = ""
  · rw [if_neg (by simpa using hempty)] at hs
    rw [key, ofObject, if_pos hempty, ← hs]
    rfl
  · rw [if_pos (by simpa using hempty)] at hs
    rw [key, ofObject, if_neg hempty, Value.str.inj hs]

/-- Key parts of which each is a name or empty. -/
structure Plain (k : KeyParts) : Prop where
  scope_noSlash : '/' ∉ k.scope.toList
  name_noSlash : '/' ∉ k.name.toList
  scope_noNul : '\x00' ∉ k.scope.toList
  name_noNul : '\x00' ∉ k.name.toList

/-- The names that lead to the file of a pod from the output directory on. -/
def podFile (k : KeyParts) : List String :=
  if k.scope = "" then ["fixed-Pod-" ++ k.name ++ ".yaml"]
  else ["fixed-Pod-" ++ k.scope, k.name ++ ".yaml"]

theorem podFile_ne_nil (k : KeyParts) : k.podFile ≠ [] := by
  unfold podFile
  split <;> simp

theorem intercalate_podFile_ne_empty (k : KeyParts) : "/".intercalate k.podFile ≠ "" := by
  unfold podFile
  split
  · simp
  · simp [String.intercalate_cons_cons]

/-- None of the names leads up. -/
theorem dots_notMem_podFile (k : KeyParts) : ".." ∉ k.podFile := by
  have hfront (s : String) : ".." ≠ "fixed-Pod-" ++ s := by
    intro h
    have hchars := congrArg String.toList h
    simp at hchars
  have hback (s : String) : ".." ≠ s ++ ".yaml" := by
    intro h
    have hlast := congrArg (·.toList.getLast?) h
    simp [String.toList_append] at hlast
  unfold podFile
  split
  · rw [List.mem_singleton, String.append_assoc]
    exact hfront _
  · simp [hfront, hback]

/-- The names tell the key parts. -/
theorem eq_of_podFile (h : k.podFile = l.podFile) : k = l := by
  obtain ⟨scope, name⟩ := k
  obtain ⟨scope', name'⟩ := l
  unfold podFile at h
  split at h
  · next hscope =>
    split at h
    · next hscope' => simp_all
    · simp at h
  · split at h
    · simp at h
    · simp_all

end KeyParts

namespace Report

variable {dir : String} {d d' : Diagnosis} {k l : KeyParts} {t : FileTree} {place : List String}

/-- A diagnosis of a pod whose key is put together from names. -/
structure IsPod (k : KeyParts) (d : Diagnosis) : Prop where
  kind : d.kind = "Pod"
  name : d.name = k.key
  plain : k.Plain

/-- The name of a pod's artifact is read as a path with the namespace as a directory. -/
theorem names_fileName (h : IsPod k d) : (Path.of (fileName d)).names = k.podFile := by
  have hstart : "fixed-" ++ "Pod" ++ "-" = "fixed-Pod-" := rfl
  have hscope := h.plain.scope_noSlash
  have hname := h.plain.name_noSlash
  rw [fileName, h.kind, h.name, hstart, KeyParts.key, KeyParts.podFile]
  split
  · exact Path.names_of_isName (.of_length (by simp [hname]) (by simp))
  · have hpieces : "fixed-Pod-" ++ (k.scope ++ "/" ++ k.name) ++ ".yaml" =
        "fixed-Pod-" ++ k.scope ++ "/" ++ (k.name ++ ".yaml") := by
      simp only [String.append_assoc]
    rw [hpieces]
    exact Path.names_of_two (.of_length (by simp [hscope]) (by simp))
      (.of_length (by simp [hname]) (by simp))

/-- The artifact's path is the directory's, with the names of the pod's file behind. -/
theorem filePath_eq (dir : String) (h : IsPod k d) :
    filePath dir d = ⟨(Path.of dir).root, (Path.of dir).names ++ k.podFile⟩ := by
  rw [filePath, Path.append, root_fileName, if_pos (by decide), names_fileName h]

/-- The file lies under the output directory. -/
theorem exists_of_locate_filePath (h : IsPod k d)
    (hlocate : t.locate (filePath dir d) = .ok place) :
    ∃ here, t.locate (Path.of dir) = .ok here ∧ t.node? here = some .directory ∧
      place = here ++ k.podFile := by
  rw [filePath_eq dir h, FileTree.locate_eq_ok_iff] at hlocate
  obtain ⟨hlength, hfollow⟩ := hlocate
  obtain ⟨here, hdir, hfile⟩ := FileTree.follow_append_eq_ok_iff.mp hfollow
  have hshorter := Path.utf8ByteSize_text_le (Path.of dir).root (Path.of dir).names
    k.intercalate_podFile_ne_empty
  refine ⟨here, FileTree.locate_eq_ok_iff.mpr ⟨Nat.le_trans hshorter hlength, hdir⟩, ?_,
    FileTree.eq_append_of_follow k.dots_notMem_podFile hfile⟩
  obtain ⟨name, names, hnames⟩ := List.exists_cons_of_ne_nil k.podFile_ne_nil
  rw [hnames] at hfile
  exact (FileTree.follow_cons_eq_ok_iff.mp hfile).1

/-- Two paths that lead to no common place, whatever the tree is. -/
def LeadApart (p q : Path) : Prop :=
  ∀ (t : FileTree) (place : List String), t.locate p = .ok place → t.locate q ≠ .ok place

theorem LeadApart.symm {p q : Path} (h : LeadApart p q) : LeadApart q p :=
  fun t place hq hp ↦ h t place hp hq

/-- Artifacts of different keys lead apart in every directory. -/
theorem leadApart_filePath (h : IsPod k d) (h' : IsPod l d') (hne : k ≠ l) :
    LeadApart (filePath dir d) (filePath dir d') := by
  intro t place hlocate hlocate'
  obtain ⟨here, hdir, -, hplace⟩ := exists_of_locate_filePath h hlocate
  obtain ⟨here', hdir', -, hplace'⟩ := exists_of_locate_filePath h' hlocate'
  obtain rfl : here = here' := Except.ok.inj (hdir.symm.trans hdir')
  exact hne (KeyParts.eq_of_podFile (List.append_cancel_left (hplace.symm.trans hplace')))

/-! ### NULs -/

/-- A pod's artifact has no NUL in its path unless the directory has. -/
theorem IsPod.noNul (h : IsPod k d) (hdir : '\x00' ∉ dir.toList) : NoNul dir d := by
  refine ⟨hdir, ?_, ?_⟩
  · rw [h.kind]
    decide
  · have hscope := h.plain.scope_noNul
    have hname := h.plain.name_noNul
    rw [h.name, KeyParts.key]
    split
    · exact hname
    · simp [hscope, hname]

/-- A NUL in the output directory is one in the directory of the file. -/
theorem hasNul_parent_filePath (h : IsPod k d) (hdir : '\x00' ∈ dir.toList) :
    (filePath dir d).parent.hasNul = true := by
  obtain ⟨n, hn, hnul⟩ := List.any_eq_true.mp ((Path.hasNul_of dir).mpr hdir)
  refine List.any_eq_true.mpr ⟨n, ?_, hnul⟩
  rw [filePath_eq dir h, Path.parent, List.dropLast_append_of_ne_nil k.podFile_ne_nil]
  exact List.mem_append_left _ hn

end Report

end ClusterDiagnosis
