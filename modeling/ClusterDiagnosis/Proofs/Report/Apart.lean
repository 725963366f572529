import ClusterDiagnosis.Proofs.Report.Places
import ClusterDiagnosis.Proofs.Report.Turns
import Mathlib.Data.List.Pairwise

/-!
# Manifests do not touch each other

The paths for pods with different keys lead to different places. So each file that was opened for
one of them holds in the end what was written into it, all of the text or the front of it, and where
no file was opened none has changed (`manifests_apart`).

A file is emptied when it is opened. If the writing breaks off then, as on a full disk, no path is
given back and what was there before is lost. A file with several names changes under all of them.
(`OldManifest.harmed_files`)
-/

set_option autoImplicit false
set_option relaxedAutoImplicit false

namespace ClusterDiagnosis

namespace Report

open FileTree

variable {dir : String} {d : Diagnosis} {ds : List Diagnosis} {t : FileTree} {p : Path}
  {place : List String} {x : Turn}

/-! ### Paths that lead apart -/

/-- Artifacts whose paths lead apart are opened at places of their own. -/
theorem nodup_openedPlaces (h : (ds.map (filePath dir)).Pairwise LeadApart) :
    (openedPlaces dir ds t).Nodup := by
  induction ds generalizing t with
  | nil => exact List.nodup_nil
  | cons d ds ih =>
    obtain ⟨hd, hds⟩ := List.pairwise_cons.mp h
    rw [openedPlaces_cons]
    rcases writeManifest_turn dir d t with hout | ⟨place, hput⟩
    · rw [hout.opened]
      exact ih hds
    · rw [hput.opened]
      refine List.nodup_cons.mpr ⟨fun hplace ↦ ?_, ih hds⟩
      obtain ⟨d', hd', hlocate⟩ := exists_mem_of_opened hplace
      exact hd _ (List.mem_map_of_mem hd') _ _
        ((keeps_attempted dir ds _).locate hput.locate) hlocate

/-- A place whose file is none of those at other places of a list. -/
def Alone (t : FileTree) (places : List (List String)) (place : List String) : Prop :=
  ∀ other ∈ places, other ≠ place → place ∉ t.otherNames other

/-- A file that was opened holds in the end what it took of its text, if it is not opened under
another name as well. -/
theorem node?_of_opened (hapart : (ds.map (filePath dir)).Pairwise LeadApart)
    (h : x ∈ turns dir ds t) (hopened : x.opened = some place)
    (halone : Alone t (openedPlaces dir ds t) place) : (attempted dir ds t).node? place =
      some (.file (t.taken place (fileText x.diagnosis).toUTF8.toList)) := by
  obtain ⟨before, after, hds, -, hput⟩ := putAt_of_mem_turns h hopened
  have hdistinct : (openedPlaces dir ds t).Nodup := nodup_openedPlaces hapart
  have hbefore := keeps_attempted dir before t
  have hkeeps := hbefore.trans hput.grows.keeps
  rw [hds, openedPlaces_append, openedPlaces_cons, hput.opened] at hdistinct halone
  rw [hds, attempted_append, ← hbefore.taken]
  refine ((grows_attempted dir after _).file_iff ?_).mpr hput.node
  rintro ⟨other, hother, htouches⟩
  have hne : other ≠ place := by
    rintro rfl
    exact (List.nodup_cons.mp (List.nodup_append.mp hdistinct).2.1).1 hother
  have hmem := List.mem_append_right (openedPlaces dir before t) (List.mem_cons_of_mem place hother)
  rw [hkeeps.touches] at htouches
  rcases htouches with heq | hname
  · exact hne heq.symm
  · exact halone other hmem hne hname

/-- A manifest whose file is not opened has a path that leads to none of those that are. -/
theorem locate_of_not_opened (hapart : (ds.map (filePath dir)).Pairwise LeadApart)
    (h : x ∈ turns dir ds t) (hopened : x.opened = none) (hplace : place ∈ openedPlaces dir ds t) :
    (attempted dir ds t).locate (filePath dir x.diagnosis) ≠ .ok place := by
  obtain ⟨y, hy, hopened'⟩ := List.mem_filterMap.mp hplace
  have hne : x ≠ y := by
    rintro rfl
    cases hopened.symm.trans hopened'
  let R (x y : Turn) : Prop := LeadApart (filePath dir x.diagnosis) (filePath dir y.diagnosis)
  have hsymm : Std.Symm R := ⟨fun _ _ h ↦ h.symm⟩
  have hturns : (turns dir ds t).Pairwise R := by
    rwa [← map_diagnosis_turns dir ds t, List.map_map, List.pairwise_map] at hapart
  intro hlocate
  exact hturns.forall h hy hne _ _ hlocate (locate_of_opened hy hopened')

/-! ### Pods -/

variable {ks : List KeyParts}

/-- Every diagnosis of pods is that of one of the keys. -/
theorem exists_isPod (h : List.Forall₂ IsPod ks ds) : ∀ d ∈ ds, ∃ k ∈ ks, IsPod k d := by
  induction h with
  | nil => exact List.forall_mem_nil _
  | cons hd _ ih =>
    refine List.forall_mem_cons.mpr ⟨⟨_, List.mem_cons_self, hd⟩, fun d' hd' ↦ ?_⟩
    obtain ⟨k, hk, hpod⟩ := ih d' hd'
    exact ⟨k, List.mem_cons_of_mem _ hk, hpod⟩

/-- What holds of the paths for different keys holds of all pairs of paths. -/
theorem pairwise_filePath {R : Path → Path → Prop}
    (hR : ∀ {k l d d'}, IsPod k d → IsPod l d' → k ≠ l → R (filePath dir d) (filePath dir d'))
    (h : List.Forall₂ IsPod ks ds) (hdistinct : ks.Nodup) :
    (ds.map (filePath dir)).Pairwise R := by
  induction h with
  | nil => exact .nil
  | cons hd hds ih =>
    obtain ⟨hk, hks⟩ := List.nodup_cons.mp hdistinct
    refine List.pairwise_cons.mpr ⟨List.forall_mem_map.mpr fun d' hd' ↦ ?_, ih hks⟩
    obtain ⟨l, hl, hpod⟩ := exists_isPod hds d' hd'
    exact hR hd hpod (ne_of_mem_of_not_mem hl hk).symm

/-- With a NUL in the output directory no manifest is written. -/
theorem writeManifest_of_nul {k : KeyParts} (h : IsPod k d) (hdir : '\x00' ∈ dir.toList)
    (t : FileTree) : (∃ f, writeManifest dir d t = (.error f, t)) ∨
      writeManifest dir d t = (.ok none, t) := by
  unfold writeManifest
  split
  · exact .inr rfl
  · rw [if_pos (hasNul_parent_filePath h hdir)]
    exact .inl ⟨_, rfl⟩

/-- In a directory with a NUL in its name no artifact changes anything. -/
theorem attempted_of_nul (h : List.Forall₂ IsPod ks ds) (hdir : '\x00' ∈ dir.toList)
    (t : FileTree) : attempted dir ds t = t := by
  induction h with
  | nil => rfl
  | @cons k d ks ds hd _ ih =>
    have hsame : (writeManifest dir d t).2 = t := by
      rcases writeManifest_of_nul hd hdir t with ⟨f, hwrite⟩ | hwrite <;> rw [hwrite]
    calc attempted dir (d :: ds) t
        = attempted dir ds (writeManifest dir d t).2 := rfl
      _ = t := by rw [hsame, ih]

/-- The files that the writing of manifests leaves, whether it runs through or not. -/
theorem files_writeManifests {plan : Plan} (h : List.Forall₂ IsPod ks ds) (o : Output) :
    (Output.writeManifests plan ds o).2.files = attempted plan.outputDir ds o.files := by
  by_cases hdir : '\x00' ∈ plan.outputDir.toList
  · rw [attempted_of_nul h hdir]
    induction h generalizing o with
    | nil => rfl
    | @cons k d ks ds hd _ ih =>
      rw [Output.writeManifests]
      rcases writeManifest_of_nul hd hdir o.files with ⟨f, hwrite⟩ | hwrite
      · rw [hwrite]
      · rw [hwrite]
        exact ih _
  · have hnul : ∀ d ∈ ds, NoNul plan.outputDir d := by
      intro d hd
      obtain ⟨k, -, hpod⟩ := exists_isPod h d hd
      exact hpod.noNul hdir
    obtain ⟨o₁, hfiles, hrun⟩ := Output.writeManifests_append hnul [] o
    rw [List.append_nil] at hrun
    rw [hrun, ← hfiles]
    rfl

/-! ### All manifests -/

/-- Manifests of a directory that were attempted one after the other, from the files `t` on. -/
structure WrittenApart (dir : String) (ds : List Diagnosis) (t : FileTree) : Prop where
  /-- No place is opened twice. -/
  distinct : (openedPlaces dir ds t).Nodup
  /-- The places that are opened lie below the output directory, where the paths of their manifests
  lead. -/
  inside : ∀ x ∈ turns dir ds t, ∀ place, x.opened = some place →
    (attempted dir ds t).locate (filePath dir x.diagnosis) = .ok place ∧
      ∃ here names, place = here ++ names ∧ names ≠ [] ∧ ".." ∉ names ∧
        (attempted dir ds t).locate (Path.of dir) = .ok here ∧
        (attempted dir ds t).node? here = some .directory
  /-- A path is given back if it is that of a file that was opened and written to the end. -/
  given : ∀ x ∈ turns dir ds t, ∀ p, x.result = .ok (some p) ↔
    p = filePath dir x.diagnosis ∧ ∃ place, x.opened = some place ∧ t.breaksOff place = none
  /-- A manifest with a path is found there: what it says without remarks, and a line break. -/
  found : ∀ x ∈ turns dir ds t, ∀ place, x.opened = some place → t.breaksOff place = none →
    Alone t (openedPlaces dir ds t) place →
      (attempted dir ds t).find (filePath dir x.diagnosis) =
        .ok (.file (Manifest.withoutRemarks x.diagnosis.manifest ++ "\n").toUTF8.toList)
  /-- Of a manifest whose writing broke off no more than the front is found. -/
  cut : ∀ x ∈ turns dir ds t, ∀ place n, x.opened = some place → t.breaksOff place = some n →
    x.result = .ok none ∧ (Alone t (openedPlaces dir ds t) place →
      (attempted dir ds t).find (filePath dir x.diagnosis) = .ok (.file
        ((Manifest.withoutRemarks x.diagnosis.manifest ++ "\n").toUTF8.toList.take n)))
  /-- The path of a manifest whose file is not opened leads to none that is. -/
  notOpened : ∀ x ∈ turns dir ds t, x.opened = none → ∀ place ∈ openedPlaces dir ds t,
    (attempted dir ds t).locate (filePath dir x.diagnosis) ≠ .ok place
  /-- At a place that was not opened, under another name neither, everything is as it was, unless
  nothing was there and a directory was made, on the way to a file. -/
  elsewhere : ∀ place ∉ openedPlaces dir ds t, Alone t (openedPlaces dir ds t) place →
    (attempted dir ds t).node? place = t.node? place ∨
      t.node? place = none ∧ (attempted dir ds t).node? place = some .directory ∧
        ∃ d ∈ ds, ∃ p : Path, p.IsPartOf (filePath dir d).parent ∧
          (attempted dir ds t).locate p = .ok place

/-- The artifacts of distinct pods are written apart. -/
theorem writtenApart (h : List.Forall₂ IsPod ks ds) (hdistinct : ks.Nodup) (dir : String)
    (t : FileTree) : WrittenApart dir ds t := by
  have hapart : (ds.map (filePath dir)).Pairwise LeadApart :=
    pairwise_filePath leadApart_filePath h hdistinct
  have hfind {x place} (hx : x ∈ turns dir ds t) (hopened : x.opened = some place)
      (halone : Alone t (openedPlaces dir ds t) place) :
      (attempted dir ds t).find (filePath dir x.diagnosis) =
        .ok (.file (t.taken place (fileText x.diagnosis).toUTF8.toList)) :=
    find_eq_ok_iff.mpr ⟨place, locate_of_opened hx hopened,
      node?_of_opened hapart hx hopened halone⟩
  constructor
  case distinct => exact nodup_openedPlaces hapart
  case inside =>
    intro x hx place hopened
    have hlocate := locate_of_opened hx hopened
    obtain ⟨k, -, hpod⟩ := exists_isPod h x.diagnosis (diagnosis_mem hx)
    obtain ⟨here, hhere, hdirectory, hplace⟩ := exists_of_locate_filePath hpod hlocate
    exact ⟨hlocate, here, k.podFile, hplace, k.podFile_ne_nil, k.dots_notMem_podFile, hhere,
      hdirectory⟩
  case given => exact fun x hx p ↦ given_iff hx
  case found =>
    intro x hx place hopened hbreak halone
    rw [hfind hx hopened halone, taken, hbreak, fileText]
  case cut =>
    intro x hx place n hopened hbreak
    refine ⟨by rw [result_of_opened hx hopened, hbreak]; rfl, fun halone ↦ ?_⟩
    rw [hfind hx hopened halone, taken, hbreak, fileText]
  case notOpened => exact fun x hx hopened place ↦ locate_of_not_opened hapart hx hopened
  case elsewhere =>
    intro place hplace halone
    have huntouched : ¬∃ other ∈ openedPlaces dir ds t, t.Touches other place := by
      rintro ⟨other, hother, rfl | hname⟩
      · exact hplace hother
      · exact halone other hother (ne_of_mem_of_not_mem hother hplace) hname
    rcases (grows_attempted dir ds t).elsewhere place huntouched with
      hsame | ⟨hnone, hmade, p, ⟨d, hd, hpart⟩, hlocate⟩
    · exact .inl hsame
    · exact .inr ⟨hnone, hmade, d, hd, p, hpart, hlocate⟩

/-- For pods with different keys, which are put together from names without slashes, every output
directory and all files there are in the beginning, no manifest overwrites another one or leaves the
output directory. In the end each manifest with a path is found under it as it was written, the
front of it where the writing broke off, and where no file was opened, be it that there was no
manifest or that the files did not let it be written, no file has come, gone or changed. What is
written shows at all names of a file. -/
theorem manifests_apart (plan : Plan) (o : Output) {objects : List Value} {ds : List Diagnosis}
    (hkeys : List.Forall₂
      (fun object d ↦ d.kind = "Pod" ∧ object.objectKey = .ok (.str d.name)) objects ds)
    (hplain : ∀ object ∈ objects, (KeyParts.ofObject object).Plain)
    (hdistinct : (objects.map KeyParts.ofObject).Nodup) :
    (Output.writeManifests plan ds o).2.files = attempted plan.outputDir ds o.files ∧
      WrittenApart plan.outputDir ds o.files := by
  have hpods : List.Forall₂ IsPod (objects.map KeyParts.ofObject) ds := by
    induction hkeys with
    | nil => exact .nil
    | cons hd _ ih =>
      obtain ⟨hobject, hplain⟩ := List.forall_mem_cons.mp hplain
      exact .cons ⟨hd.1, (KeyParts.key_ofObject hd.2).symm, hobject⟩
        (ih hplain (List.nodup_cons.mp hdistinct).2)
  exact ⟨files_writeManifests hpods o, writtenApart hpods hdistinct _ _⟩

/-! ### A manifest that is there already -/

namespace OldManifest

def object : Value :=
  .map [("metadata", .map [("name", .str "p"), ("namespace", .str "n")])]

def pod : Diagnosis :=
  { kind := "Pod", name := "n/p", manifest := "y" }

def path : Path := ⟨"", ["out", "fixed-Pod-n", "p.yaml"]⟩

def copy : Path := ⟨"", ["copy.yaml"]⟩

/-- The output directory with a manifest of the pod from before, which has another name too. -/
def files : FileTree where
  nodes := [(["out"], .directory), (["out", "fixed-Pod-n"], .directory),
    (path.names, .file "x\n".toUTF8.toList), (copy.names, .file "x\n".toUTF8.toList)]
  otherNames place :=
    if place = path.names then [copy.names]
    else if place = copy.names then [path.names]
    else []

/-- A file that changes although its path is not given back. -/
structure Harmed (t : FileTree) (p : Path) (before after : String) : Prop where
  notGiven : ∀ x ∈ turns "out" [pod] t, x.result ≠ .ok (some p)
  before : t.find p = .ok (.file before.toUTF8.toList)
  after : (Output.writeManifests { outputDir := "out" } [pod] { files := t }).2.files.find p =
    .ok (.file after.toUTF8.toList)

/-- On a full disk the old manifest is emptied, and no path is given back. On one with room its
other name shows the new manifest, and this is no path that is given back. -/
theorem harmed_files :
    object.objectKey = .ok (.str pod.name) ∧ (KeyParts.ofObject object).Plain ∧
      Harmed { files with breaksOff := fun _ ↦ some 0 } path "x\n" "" ∧
      Harmed files copy "x\n" "y\n" := by
  refine ⟨rfl, ⟨by decide, by decide, by decide, by decide⟩, ⟨?_, rfl, ?_⟩, ⟨?_, rfl, ?_⟩⟩
  · intro x hx hresult
    obtain ⟨-, place, -, hbreak⟩ := (given_iff hx).mp hresult
    cases hbreak
  · decide +kernel
  · intro x hx hresult
    have hpod : x.diagnosis = pod := List.mem_singleton.mp (diagnosis_mem hx)
    have hpath := ((given_iff hx).mp hresult).1
    rw [hpod] at hpath
    exact absurd hpath (by decide)
  · decide +kernel

end OldManifest

/-! ### Pods in each other's way -/

namespace PodsInTheWay

def object (scope name : String) : Value :=
  .map [("metadata", .map [("name", .str name), ("namespace", .str scope)])]

def objects : List Value :=
  [object "" "a", object "a.yaml" "b", object "n" "p", object "n" "q", object "n" "r"]

def pod (name manifest : String) : Diagnosis :=
  { kind := "Pod", name, manifest }

/-- The directory for the second pod would have to stand where the file of the first one is, the
fourth pod has no manifest, and the writing for the last one breaks off. -/
def pods : List Diagnosis :=
  [pod "a" " x ", pod "a.yaml/b" "y", pod "n/p" "z    # Fixed image name", pod "n/q" "",
    pod "n/r" "abc"]

def files : FileTree where
  breaksOff place := if place = ["out", "fixed-Pod-n", "r.yaml"] then some 2 else none

def plan : Plan := { outputDir := "out" }

theorem manifests_apart_pods :
    (Output.writeManifests plan pods { files }).2.files.nodes =
        [(["out"], .directory), (["out", "fixed-Pod-a.yaml"], .file "x\n".toUTF8.toList),
          (["out", "fixed-Pod-n"], .directory),
          (["out", "fixed-Pod-n", "p.yaml"], .file "z\n".toUTF8.toList),
          (["out", "fixed-Pod-n", "r.yaml"], .file "ab".toUTF8.toList)] ∧
      openedPlaces "out" pods files = [["out", "fixed-Pod-a.yaml"],
        ["out", "fixed-Pod-n", "p.yaml"], ["out", "fixed-Pod-n", "r.yaml"]] ∧
      WrittenApart "out" pods files := by
  have hkeys : List.Forall₂
      (fun object d ↦ d.kind = "Pod" ∧ object.objectKey = .ok (.str d.name)) objects pods :=
    .cons ⟨rfl, rfl⟩ (.cons ⟨rfl, rfl⟩ (.cons ⟨rfl, rfl⟩ (.cons ⟨rfl, rfl⟩
      (.cons ⟨rfl, rfl⟩ .nil))))
  have hplain : ∀ object ∈ objects, (KeyParts.ofObject object).Plain := by
    intro object hobject
    have hslash : ∀ object ∈ objects, '/' ∉ (KeyParts.ofObject object).scope.toList ∧
        '/' ∉ (KeyParts.ofObject object).name.toList := by
      decide
    have hnul : ∀ object ∈ objects, '\x00' ∉ (KeyParts.ofObject object).scope.toList ∧
        '\x00' ∉ (KeyParts.ofObject object).name.toList := by
      decide
    exact ⟨(hslash object hobject).1, (hslash object hobject).2, (hnul object hobject).1,
      (hnul object hobject).2⟩
  obtain ⟨hfiles, hwritten⟩ := manifests_apart plan { files } hkeys hplain (by decide)
  refine ⟨?_, by decide +kernel, hwritten⟩
  rw [hfiles]
  decide +kernel

end PodsInTheWay

end Report

end ClusterDiagnosis
