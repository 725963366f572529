import ClusterDiagnosis.Pipeline
import ClusterDiagnosis.Proofs.Files.Tree

/-!
# Writing manifests

A manifest is written, or passed over because there is none or because the files do not let it be
written: a file stands where a directory has to be, a directory where the file has to be, the rights
are missing, a name is too long, the writing breaks off. There is one more end. A path with a NUL in
it is a mistake to the functions that make directories and open files, not a failure of theirs, and
this mistake leaves the run (`writeManifest_error_iff`).
-/

set_option autoImplicit false
set_option relaxedAutoImplicit false

namespace ClusterDiagnosis

/-! ### NULs in paths -/

/-- The parts of a text hold all of its characters but those it is cut at. -/
theorem Text.mem_flatten_splitAt {sep c : Char} (hc : c ≠ sep) {cs : List Char} :
    c ∈ (Text.splitAt sep cs).flatten ↔ c ∈ cs := by
  induction cs with
  | nil => rfl
  | cons a cs ih =>
    rw [List.mem_cons, ← ih, Text.splitAt]
    split
    · next ha =>
      rw [ha, List.flatten_cons, List.nil_append, or_iff_right hc]
    · cases Text.splitAt sep cs with
      | nil => exact List.mem_cons
      | cons part parts => exact List.mem_cons

namespace Path

/-- The names of a path hold all of its text but slashes. A name with a NUL is none of those that
are left out. -/
theorem hasNul_of (s : String) : (of s).hasNul = true ↔ '\x00' ∈ s.toList := by
  have hne : '\x00' ≠ '/' := by decide
  rw [hasNul, List.any_eq_true, ← Text.mem_flatten_splitAt hne, List.mem_flatten]
  constructor
  · rintro ⟨n, hn, hnul⟩
    obtain ⟨part, hpart, rfl⟩ := List.mem_map.mp (List.mem_filter.mp hn).1
    exact ⟨part, hpart, by simpa using hnul⟩
  · rintro ⟨part, hpart, hnul⟩
    have hname (t : String) (ht : '\x00' ∉ t.toList) : String.ofList part ≠ t := by
      rintro rfl
      exact ht (by simpa using hnul)
    have hkept : (String.ofList part != "" && String.ofList part != ".") = true := by
      simp [hname "" (by decide), hname "." (by decide)]
    have hmem : String.ofList part ∈ (of s).names :=
      List.mem_filter.mpr ⟨List.mem_map_of_mem hpart, hkept⟩
    exact ⟨String.ofList part, hmem, by simpa using hnul⟩

/-- A path in a directory has a NUL if one of the two has. -/
theorem hasNul_append {p q : Path} (hq : q.root = "") :
    (p.append q).hasNul = true ↔ p.hasNul = true ∨ q.hasNul = true := by
  rw [append, hq, if_pos (by decide), hasNul, List.any_append, Bool.or_eq_true]
  rfl

/-- A path whose directory has a NUL has it as well. -/
theorem hasNul_of_parent {p : Path} (h : p.parent.hasNul = true) : p.hasNul = true := by
  obtain ⟨n, hn, hnul⟩ := List.any_eq_true.mp h
  exact List.any_eq_true.mpr ⟨n, (List.dropLast_sublist _).subset hn, hnul⟩

/-- So a path without a NUL is in a directory without one. -/
theorem hasNul_parent {p : Path} (h : p.hasNul = false) : p.parent.hasNul = false := by
  rw [← Bool.not_eq_true] at h ⊢
  exact mt hasNul_of_parent h

end Path

namespace Report

theorem root_fileName (d : Diagnosis) : (Path.of (fileName d)).root = "" := by
  have hfirst : ∃ cs, (fileName d).toList = 'f' :: cs := by
    simp [fileName, String.toList_append]
  obtain ⟨cs, hcs⟩ := hfirst
  rw [Path.of, hcs]
  rfl

/-- The path of a manifest has a NUL if the directory, the kind or the key of the object has one. -/
theorem hasNul_filePath (dir : String) (d : Diagnosis) : (filePath dir d).hasNul = true ↔
    '\x00' ∈ dir.toList ∨ '\x00' ∈ d.kind.toList ∨ '\x00' ∈ d.name.toList := by
  rw [filePath, Path.hasNul_append (root_fileName d), Path.hasNul_of, Path.hasNul_of, fileName]
  simp [String.toList_append]

/-! ### One manifest -/

variable {dir : String} {d : Diagnosis} {t : FileTree}

/-- A text that was written is found in the file. -/
theorem find_writeText {p : Path} {text : String} (h : (writeText p text t).1 = .ok ()) :
    (writeText p text t).2.find p = .ok (.file text.toUTF8.toList) := by
  rcases hmake : t.makeDirectories p.root p.parent.names with ⟨e | u, made⟩
  · simp [writeText, hmake] at h
  · simp only [writeText, hmake] at h ⊢
    exact FileTree.find_writeFile h

/-- A manifest whose path is a mistake: it has a NUL. If only the last name has one, then the
mistake shows once the directories are made. -/
def Mistaken (dir : String) (d : Diagnosis) (t : FileTree) : Prop :=
  d.manifest ≠ "" ∧ (filePath dir d).hasNul = true ∧
    ((filePath dir d).parent.hasNul = true ∨
      (t.makeDirectories (filePath dir d).root (filePath dir d).parent.names).1 = .ok ())

/-- A manifest that is passed over: there is none, or the files do not let it be written. -/
def PassedOver (dir : String) (d : Diagnosis) (t : FileTree) : Prop :=
  (writeManifest dir d t).1 = .ok none ∧
    (d.manifest = "" ∨ ∃ e, (writeText (filePath dir d) (fileText d) t).1 = .error e)

/-- A manifest that is written to the path that is given back, where it is then found. -/
def Written (dir : String) (d : Diagnosis) (t : FileTree) : Prop :=
  (writeManifest dir d t).1 = .ok (some (filePath dir d)) ∧
    (writeManifest dir d t).2.find (filePath dir d) = .ok (.file (fileText d).toUTF8.toList)

/-- What comes of a manifest: it is passed over, written, or a mistake. -/
theorem writeManifest_cases (dir : String) (d : Diagnosis) (t : FileTree) :
    ¬ Mistaken dir d t ∧ (PassedOver dir d t ∨ Written dir d t) ∨
    Mistaken dir d t ∧ (writeManifest dir d t).1 = .error (.mismatch .unreadable) := by
  unfold PassedOver Written writeManifest Mistaken
  by_cases hempty : d.manifest = ""
  · rw [if_pos (by simpa using hempty)]
    exact .inl ⟨fun h ↦ h.1 hempty, .inl ⟨rfl, .inl hempty⟩⟩
  · rw [if_neg (by simpa using hempty)]
    dsimp only
    split
    · next hparent => exact .inr ⟨⟨hempty, Path.hasNul_of_parent hparent, .inl hparent⟩, rfl⟩
    · next hparent =>
      split
      · next hnul =>
        rcases hmake : t.makeDirectories (filePath dir d).root (filePath dir d).parent.names
          with ⟨e | u, made⟩
        · have hwrite : (writeText (filePath dir d) (fileText d) t).1 = .error e := by
            rw [writeText, hmake]
          exact .inl ⟨by simp [hparent], .inl ⟨rfl, .inr ⟨e, hwrite⟩⟩⟩
        · exact .inr ⟨⟨hempty, hnul, .inr rfl⟩, rfl⟩
      · next hnul =>
        refine .inl ⟨fun h ↦ hnul h.2.1, ?_⟩
        rcases hwrite : writeText (filePath dir d) (fileText d) t with ⟨e | u, written⟩
        · exact .inl ⟨rfl, .inr ⟨e, rfl⟩⟩
        · have hfind := find_writeText (congrArg Prod.fst hwrite)
          rw [hwrite] at hfind
          exact .inr ⟨rfl, hfind⟩

/-- A path that is given back is that of the manifest, and what is found there is its text. -/
theorem find_of_writeManifest {p : Path}
    (h : (writeManifest dir d t).1 = .ok (some p)) :
    p = filePath dir d ∧
      (writeManifest dir d t).2.find p = .ok (.file (fileText d).toUTF8.toList) := by
  rcases writeManifest_cases dir d t with
    ⟨-, ⟨hresult, -⟩ | ⟨hresult, hfind⟩⟩ | ⟨-, hresult⟩
  · rw [hresult] at h
    cases h
  · rw [hresult] at h
    cases h
    exact ⟨rfl, hfind⟩
  · rw [hresult] at h
    cases h

/-- Nothing but a mistake leaves the writing of a manifest. -/
theorem writeManifest_error_iff {f : Fault} :
    (writeManifest dir d t).1 = .error f ↔ f = .mismatch .unreadable ∧ Mistaken dir d t := by
  rcases writeManifest_cases dir d t with
    ⟨hnot, ⟨hresult, -⟩ | ⟨hresult, -⟩⟩ | ⟨hmistaken, hresult⟩
  · simp [hresult, hnot]
  · simp [hresult, hnot]
  · simp [hresult, hmistaken, eq_comm]

/-- A diagnosis whose manifest has a path without a NUL. -/
def NoNul (dir : String) (d : Diagnosis) : Prop :=
  '\x00' ∉ dir.toList ∧ '\x00' ∉ d.kind.toList ∧ '\x00' ∉ d.name.toList

/-- Without a NUL in the path the write is not mistaken. -/
theorem NoNul.not_mistaken (h : NoNul dir d) (t : FileTree) : ¬ Mistaken dir d t := by
  rintro ⟨-, hnul, -⟩
  rcases (hasNul_filePath dir d).mp hnul with hdir | hkind | hname
  · exact h.1 hdir
  · exact h.2.1 hkind
  · exact h.2.2 hname

/-! ### All manifests of a run -/

/-- The files once the manifests of diagnoses were attempted, whatever came of each. -/
def attempted (dir : String) (ds : List Diagnosis) (t : FileTree) : FileTree :=
  ds.foldl (fun t d ↦ (writeManifest dir d t).2) t

/-- The files after one more diagnosis are those that its write leaves. -/
theorem attempted_concat (dir : String) (ds : List Diagnosis) (d : Diagnosis) (t : FileTree) :
    attempted dir (ds ++ [d]) t = (writeManifest dir d (attempted dir ds t)).2 := by
  rw [attempted, List.foldl_append]
  rfl

end Report

namespace Output

open Report

variable {plan : Plan} {d : Diagnosis} {ds before after : List Diagnosis} {o o' : Output}

/-- Printing touches no files. -/
theorem files_printAll (start : Nat) (ds : List Diagnosis) (o : Output) :
    (printAll start ds o).2.files = o.files := by
  induction ds generalizing start o with
  | nil => rfl
  | cons d ds ih =>
    rw [printAll]
    split
    · exact ih _ _
    · rfl

/-- The report is printed, so the files are left alone. -/
theorem files_report (plan : Plan) (ds : List Diagnosis) (o : Output) :
    (report plan ds o).2.files = o.files := by
  unfold report
  split
  · rfl
  · split
    · rfl
    · exact files_printAll 0 ds o

/-- After the report the manifests are written, to the files as they were. -/
theorem give_of_report (h : report plan ds o = (.ok (), o')) :
    give plan ds o = writeManifests plan ds o' ∧ o'.files = o.files := by
  have hfiles := files_report plan ds o
  rw [h] at hfiles
  exact ⟨by rw [give, h], hfiles⟩

/-- A manifest that is no mistake, written or not, lets those behind it have their turn. -/
theorem writeManifests_cons (h : ¬ Mistaken plan.outputDir d o.files) (ds : List Diagnosis) :
    ∃ o₁, o₁.files = (writeManifest plan.outputDir d o.files).2 ∧
      writeManifests plan (d :: ds) o = writeManifests plan ds o₁ := by
  have hok (f : Fault) : (writeManifest plan.outputDir d o.files).1 ≠ .error f :=
    fun hf ↦ h (writeManifest_error_iff.mp hf).2
  rcases hwrite : writeManifest plan.outputDir d o.files with ⟨f | _ | p, files⟩
  · exact absurd (congrArg Prod.fst hwrite) (hok f)
  · exact ⟨{ o with files }, rfl, by rw [writeManifests, hwrite]⟩
  · refine ⟨_, ?_, by rw [writeManifests, hwrite]⟩
    split <;> rfl

/-- A mistaken write ends the loop, and the artifacts after it are not attempted. -/
theorem writeManifests_of_mistaken (h : Mistaken plan.outputDir d o.files) (ds : List Diagnosis) :
    writeManifests plan (d :: ds) o =
      (.error (.mismatch .unreadable),
        { o with files := (writeManifest plan.outputDir d o.files).2 }) := by
  have hresult := writeManifest_error_iff.mpr ⟨rfl, h⟩
  rcases hwrite : writeManifest plan.outputDir d o.files with ⟨r, files⟩
  obtain rfl : r = .error (.mismatch .unreadable) := by rwa [hwrite] at hresult
  rw [writeManifests, hwrite]

/-- Manifests that are no mistakes are all attempted, and then those behind them. -/
theorem writeManifests_append (h : ∀ d ∈ before, NoNul plan.outputDir d)
    (ds : List Diagnosis) (o : Output) :
    ∃ o₁, o₁.files = attempted plan.outputDir before o.files ∧
      writeManifests plan (before ++ ds) o = writeManifests plan ds o₁ := by
  induction before generalizing o with
  | nil => exact ⟨o, rfl, rfl⟩
  | cons d before ih =>
    obtain ⟨hd, hrest⟩ := List.forall_mem_cons.mp h
    obtain ⟨o₁, hfiles₁, hrun₁⟩ := writeManifests_cons (hd.not_mistaken o.files) (before ++ ds)
    obtain ⟨o₂, hfiles₂, hrun₂⟩ := ih hrest o₁
    refine ⟨o₂, ?_, hrun₁.trans hrun₂⟩
    rw [hfiles₂, hfiles₁]
    rfl

end Output

namespace Report

/-- A manifest is passed over or written to the path that is given back, whatever the files are, and
the manifests behind it have their turn. The exception is a path with a NUL, and no other: the
mistake that it is leaves the writing of the manifest, and of all manifests behind it. -/
theorem manifests_attempted (plan : Plan) (ds : List Diagnosis) (o o' : Output)
    (hreport : Output.report plan ds o = (.ok (), o')) :
    (∀ d t,
      (NoNul plan.outputDir d → PassedOver plan.outputDir d t ∨ Written plan.outputDir d t) ∧
      ∀ f, (writeManifest plan.outputDir d t).1 = .error f ↔
        f = .mismatch .unreadable ∧ Mistaken plan.outputDir d t) ∧
    ((∀ d ∈ ds, NoNul plan.outputDir d) →
      (Output.give plan ds o).1 = .ok () ∧
        (Output.give plan ds o).2.files = attempted plan.outputDir ds o.files) ∧
    ∀ before d after, ds = before ++ d :: after →
      (∀ x ∈ before, NoNul plan.outputDir x) →
      Mistaken plan.outputDir d (attempted plan.outputDir before o.files) →
        (Output.give plan ds o).1 = .error (.mismatch .unreadable) ∧
          (Output.give plan ds o).2.files = attempted plan.outputDir (before ++ [d]) o.files := by
  obtain ⟨hgive, hfiles⟩ := Output.give_of_report hreport
  rw [hgive, ← hfiles]
  refine ⟨fun d t ↦ ⟨fun h ↦ ?_, fun f ↦ writeManifest_error_iff⟩, fun h ↦ ?_, ?_⟩
  · rcases writeManifest_cases plan.outputDir d t with ⟨-, hresult⟩ | ⟨hmistaken, -⟩
    · exact hresult
    · exact absurd hmistaken (h.not_mistaken t)
  · obtain ⟨o₁, hfiles₁, hrun⟩ := Output.writeManifests_append h [] o'
    rw [List.append_nil] at hrun
    rw [hrun, ← hfiles₁]
    exact ⟨rfl, rfl⟩
  · rintro before d after rfl h hmistaken
    obtain ⟨o₁, hfiles₁, hrun⟩ := Output.writeManifests_append h (d :: after) o'
    rw [← hfiles₁] at hmistaken
    rw [hrun, Output.writeManifests_of_mistaken hmistaken, attempted_concat, ← hfiles₁]
    exact ⟨rfl, rfl⟩

/-! ### A few pods -/

namespace FewPods

def pod (name : String) : Diagnosis :=
  { kind := "Pod", name, manifest := "y" }

/-- A file stands where a directory has to be for one pod, and for another one the rights to make it
are missing. -/
def files : FileTree where
  nodes := [(["fixed-Pod-a"], .file [])]
  forbidden place := place == ["fixed-Pod-b"]

/-- The third manifest is written although the first two are not. -/
theorem manifests_attempted_pods :
    (∀ d ∈ [pod "a/p", pod "b/p", pod "c/p"], NoNul "." d) ∧
      (Output.give {} [pod "a/p", pod "b/p", pod "c/p"] { files }).1 = .ok () ∧
      (Output.give {} [pod "a/p", pod "b/p", pod "c/p"] { files }).2.files.nodes =
        [(["fixed-Pod-a"], .file []), (["fixed-Pod-c"], .directory),
          (["fixed-Pod-c", "p.yaml"], .file "y\n".toUTF8.toList)] := by
  have hnul : ∀ d ∈ [pod "a/p", pod "b/p", pod "c/p"], NoNul "." d := by
    unfold NoNul
    decide
  obtain ⟨-, hall, -⟩ := manifests_attempted {} [pod "a/p", pod "b/p", pod "c/p"] { files } _ rfl
  obtain ⟨hresult, hfiles⟩ := hall hnul
  refine ⟨hnul, hresult, ?_⟩
  rw [hfiles]
  decide +kernel

theorem mistaken_nul : Mistaken "." (pod "a\x00b") {} := by
  refine ⟨by decide, by decide, .inr ?_⟩
  rw [FileTree.makeDirectories]
  rfl

/-- A pod whose manifest has a path with a NUL keeps the one behind it from being written. -/
theorem manifests_not_attempted :
    (writeManifest "." (pod "a\x00b") {}).1 = .error (.mismatch .unreadable) ∧
      (Output.give {} [pod "a\x00b", pod "c/p"] {}).1 = .error (.mismatch .unreadable) ∧
      (Output.give {} [pod "a\x00b", pod "c/p"] {}).2.files.nodes = [] := by
  have hresult := writeManifest_error_iff.mpr ⟨rfl, mistaken_nul⟩
  have hgive : Output.give {} [pod "a\x00b", pod "c/p"] {} = _ :=
    (Output.give_of_report rfl).1.trans
      (Output.writeManifests_of_mistaken mistaken_nul [pod "c/p"])
  refine ⟨hresult, congrArg Prod.fst hgive, ?_⟩
  decide +kernel

end FewPods

end Report

end ClusterDiagnosis
