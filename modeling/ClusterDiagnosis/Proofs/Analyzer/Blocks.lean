import ClusterDiagnosis.Proofs.Analyzer.Findings
import ClusterDiagnosis.Proofs.Analyzer.Steady

/-!
# The diagnoses of a run, block by block

Against a cluster that does not change, each check has a block of diagnoses (`Check.block`): one for
each listed object with failures, in the order of the listing. The block is a matter of the answers
and the selection alone. `examineAll_eq_blocks` shows that a run that succeeds gives the blocks of
its checks one after the other, although a check collects its findings in a table of keys and looks
for owners only after all objects were looked at.
-/

set_option autoImplicit false
set_option relaxedAutoImplicit false

namespace ClusterDiagnosis

open Scan

section Steady

variable {σ : Type} {source : Source σ} {deadline : Option Deadline} {answers : Answers}

namespace Check

variable {c : Check}

/-! ### Reports and blocks -/

/-- The objects that fixed answers list for a check. -/
def objects (c : Check) (answers : Answers) (selection : Selection) : Except Fault (List Value) :=
  answers (.list c.listed (.str (if c.everywhere then "" else selection.scope))
    (.str selection.selector))

/-- What fixed answers make of an object: nothing if no failures are detected, and else a diagnosis
with the kind of the check, the key of the object as its name, the detected failures in their order,
and the topmost owner of the object, still without explanation and manifest. -/
inductive Reports (answers : Answers) (c : Check) (object : Value) : Option Diagnosis → Prop where
  | healthy (hdetect : (c.detect object).outcome answers = .ok []) : Reports answers c object none
  | failing {failures : List Failure} {name : String} {owner : Option ObjectRef}
      (hdetect : (c.detect object).outcome answers = .ok failures) (hfailures : failures ≠ [])
      (hname : object.objectKey = .ok (.str name))
      (howner : (c.ownerOf object).outcome answers = .ok owner) :
      Reports answers c object (some {
        kind := c.kind
        name
        owner
        failures
        explanation := .str ""
        manifest := "" })

/-- The diagnosis of an object; none also if something that it needs cannot be had. -/
def report (c : Check) (answers : Answers) (object : Value) : Option Diagnosis :=
  match (c.detect object).outcome answers, object.objectKey,
      (c.ownerOf object).outcome answers with
  | .ok (f :: fs), .ok (.str name), .ok owner =>
    some { kind := c.kind, name, owner, failures := f :: fs }
  | _, _, _ => none

theorem Reports.report_eq {object : Value} {d : Option Diagnosis}
    (h : Reports answers c object d) : report c answers object = d := by
  cases h with
  | healthy hdetect => simp [report, hdetect]
  | @failing failures name owner hdetect hfailures hname howner =>
    obtain ⟨f, fs, rfl⟩ := List.exists_cons_of_ne_nil hfailures
    simp [report, hdetect, hname, howner]

/-- The diagnoses that a check makes of the objects that fixed answers list. -/
def block (c : Check) (answers : Answers) (selection : Selection) : List Diagnosis :=
  match c.objects answers selection with
  | .ok objects => objects.filterMap (report c answers)
  | .error _ => []

/-! ### What is found -/

/-- The findings that fixed answers make of objects, in order. -/
inductive Finds (answers : Answers) (c : Check) : List Value → List Finding → Prop where
  | nil : Finds answers c [] []
  | healthy {object : Value} {objects : List Value} {findings : List Finding}
      (hdetect : (c.detect object).outcome answers = .ok [])
      (rest : Finds answers c objects findings) : Finds answers c (object :: objects) findings
  | failing {object key : Value} {objects : List Value} {failures : List Failure}
      {findings : List Finding} (hdetect : (c.detect object).outcome answers = .ok failures)
      (hfailures : failures ≠ []) (hkey : object.objectKey = .ok key)
      (rest : Finds answers c objects findings) :
      Finds answers c (object :: objects) (⟨key, object, failures⟩ :: findings)

/-- An object can be entered in a scan's findings under its key when that key is one a table
accepts. -/
theorem keyOf_eq_ok_iff {object key : Value} :
    keyOf object = .ok key ↔ object.objectKey = .ok key ∧ key.isKey = true := by
  unfold keyOf
  rw [bind_eq_ok_iff]
  constructor
  · rintro ⟨k, hk, h⟩
    split at h
    · next hkey =>
      obtain rfl := Except.ok.inj h
      exact ⟨hk, hkey⟩
    · cases h
  · rintro ⟨hk, hkey⟩
    exact ⟨key, hk, by simp [hkey, pure, Except.pure]⟩

/-- Looking at an object adds nothing to the findings, or the finding of its failures. -/
theorem outcome_look {found found' : List Finding} {object : Value}
    (h : (c.look found object).outcome answers = .ok found') :
    ((c.detect object).outcome answers = .ok [] ∧ found' = found) ∨
      ∃ failures key, (c.detect object).outcome answers = .ok failures ∧ failures ≠ [] ∧
        object.objectKey = .ok key ∧ found' = Finding.put ⟨key, object, failures⟩ found := by
  unfold look at h
  rw [outcome_bind, outcome_check, outcome_bind] at h
  obtain ⟨-, -, h⟩ := bind_eq_ok_iff.mp h
  obtain ⟨failures, hdetect, h⟩ := bind_eq_ok_iff.mp h
  split at h
  · next hempty =>
    rw [List.isEmpty_iff] at hempty
    subst hempty
    exact Or.inl ⟨hdetect, (Except.ok.inj h).symm⟩
  · next hempty =>
    rw [outcome_bind, outcome_liftM] at h
    obtain ⟨key, hkey, h⟩ := bind_eq_ok_iff.mp h
    rw [outcome_bind] at h
    obtain ⟨-, -, h⟩ := bind_eq_ok_iff.mp h
    exact Or.inr ⟨failures, key, hdetect, fun hnil ↦ hempty (List.isEmpty_iff.mpr hnil),
      (keyOf_eq_ok_iff.mp hkey).1, (Except.ok.inj h).symm⟩

/-- Looking at further objects takes no key away. -/
theorem exists_mem_of_lookAll {P : Value → Prop} {found found' : List Finding}
    {objects : List Value} (h : (c.lookAll found objects).outcome answers = .ok found')
    (hP : ∃ g ∈ found, P g.key) : ∃ g ∈ found', P g.key := by
  induction objects generalizing found with
  | nil => exact Except.ok.inj h ▸ hP
  | cons object objects ih =>
    unfold lookAll at h
    rw [outcome_bind] at h
    obtain ⟨found₁, hlook, h⟩ := bind_eq_ok_iff.mp h
    refine ih h ?_
    rcases outcome_look hlook with ⟨-, rfl⟩ | ⟨failures, key, -, -, -, rfl⟩
    · exact hP
    · exact Finding.exists_mem_put _ hP

/-- If no two objects have the same key and all keys found are texts, looking at one object after
the other adds the finding of each behind those before it. Each key on the way is a text, since it
is still there at the end. -/
theorem finds_of_lookAll {found found' : List Finding} {objects : List Value}
    (h : (c.lookAll found objects).outcome answers = .ok found')
    (htext : ∀ g ∈ found', ∃ s, g.key = .str s) (hdistinct : KeysDistinct objects)
    (hnew : ∀ g ∈ found, ∀ object ∈ objects, object.objectKey ≠ .ok g.key) :
    ∃ findings, Finds answers c objects findings ∧ found' = found ++ findings := by
  induction objects generalizing found with
  | nil => exact ⟨[], .nil, by rw [List.append_nil, Except.ok.inj h]⟩
  | cons object objects ih =>
    unfold lookAll at h
    rw [outcome_bind] at h
    obtain ⟨found₁, hlook, hrest⟩ := bind_eq_ok_iff.mp h
    have ⟨hobject, hobjects⟩ := List.pairwise_cons.mp hdistinct
    have hold : ∀ g ∈ found, ∀ o ∈ objects, o.objectKey ≠ .ok g.key := fun g hg o ho ↦
      hnew g hg o (List.mem_cons_of_mem _ ho)
    rcases outcome_look hlook with ⟨hdetect, rfl⟩ | ⟨failures, key, hdetect, hne, hkey, rfl⟩
    · obtain ⟨findings, hfinds, rfl⟩ := ih hrest hobjects hold
      exact ⟨findings, .healthy hdetect hfinds, rfl⟩
    · obtain ⟨s, rfl⟩ : ∃ s, key = .str s := by
        have hput : ∀ g ∈ Finding.put ⟨key, object, failures⟩ found, ∃ s, g.key = .str s := by
          intro g hg
          by_contra hg'
          obtain ⟨g', hmem, hg'⟩ := exists_mem_of_lookAll (P := fun k ↦ ¬ ∃ s, k = .str s) hrest
            ⟨g, hg, hg'⟩
          exact hg' (htext g' hmem)
        exact Finding.isText_of_put hput
      have hput : Finding.put ⟨.str s, object, failures⟩ found =
          found ++ [⟨.str s, object, failures⟩] :=
        Finding.put_eq_append_of_key hkey fun g hg ↦ hnew g hg object List.mem_cons_self
      rw [hput] at hrest
      obtain ⟨findings, hfinds, rfl⟩ := ih hrest hobjects fun g hg o ho ↦ by
        rcases List.mem_append.mp hg with hg | hg
        · exact hold g hg o ho
        · rw [List.mem_singleton.mp hg]
          exact hobject o ho _ hkey
      exact ⟨_ :: findings, .failing hdetect hne hkey hfinds,
        by rw [List.append_assoc, List.singleton_append]⟩

/-! ### What is made of the findings -/

/-- The diagnosis of a finding takes the finding's name and failures; only its owner is looked
up. -/
theorem outcome_diagnose {f : Finding} {d : Diagnosis}
    (h : (c.diagnose f).outcome answers = .ok d) :
    ∃ name owner, f.key = .str name ∧ (c.ownerOf f.object).outcome answers = .ok owner ∧
      d = { kind := c.kind, name, owner, failures := f.failures } := by
  rw [diagnose_eq, outcome_bind, outcome_liftM] at h
  obtain ⟨name, hname, h⟩ := bind_eq_ok_iff.mp h
  rw [outcome_bind] at h
  obtain ⟨owner, howner, h⟩ := bind_eq_ok_iff.mp h
  exact ⟨name, owner, Value.toText_eq_ok_iff.mp hname, howner, (Except.ok.inj h).symm⟩

/-- Findings are diagnosed one after the other, and the diagnoses stand in that order. -/
theorem outcome_diagnoseAll_cons {f : Finding} {fs : List Finding} {ds : List Diagnosis}
    (h : (c.diagnoseAll (f :: fs)).outcome answers = .ok ds) :
    ∃ d ds', (c.diagnose f).outcome answers = .ok d ∧
      (c.diagnoseAll fs).outcome answers = .ok ds' ∧ ds = d :: ds' := by
  unfold diagnoseAll at h
  rw [outcome_bind] at h
  obtain ⟨d, hd, h⟩ := bind_eq_ok_iff.mp h
  rw [outcome_bind] at h
  obtain ⟨ds', hds, h⟩ := bind_eq_ok_iff.mp h
  exact ⟨d, ds', hd, hds, (Except.ok.inj h).symm⟩

/-- Diagnoses can be made only of findings whose keys are texts. -/
theorem isText_of_diagnoseAll {fs : List Finding} {ds : List Diagnosis}
    (h : (c.diagnoseAll fs).outcome answers = .ok ds) : ∀ f ∈ fs, ∃ s, f.key = .str s := by
  induction fs generalizing ds with
  | nil => simp
  | cons f fs ih =>
    obtain ⟨d, ds', hd, hds, -⟩ := outcome_diagnoseAll_cons h
    obtain ⟨name, -, hname, -⟩ := outcome_diagnose hd
    intro g hg
    rcases List.mem_cons.mp hg with rfl | hg
    · exact ⟨name, hname⟩
    · exact ih hds g hg

/-- The diagnoses of the findings of some objects are the reports of these objects. -/
theorem Finds.diagnoses_eq {objects : List Value} {findings : List Finding}
    (hfinds : Finds answers c objects findings) {ds : List Diagnosis}
    (h : (c.diagnoseAll findings).outcome answers = .ok ds) :
    ds = objects.filterMap (report c answers) ∧
      ∀ object ∈ objects, Reports answers c object (report c answers object) := by
  induction hfinds generalizing ds with
  | nil => exact ⟨(Except.ok.inj h).symm, by simp⟩
  | @healthy object objects findings hdetect _ ih =>
    obtain ⟨hds, hreports⟩ := ih h
    have hnone : Reports answers c object none := .healthy hdetect
    refine ⟨by rw [List.filterMap_cons_none hnone.report_eq, hds], fun o ho ↦ ?_⟩
    rcases List.mem_cons.mp ho with rfl | ho
    · rw [hnone.report_eq]
      exact hnone
    · exact hreports o ho
  | @failing object key objects failures findings hdetect hfailures hkey _ ih =>
    obtain ⟨d, ds', hd, hds', rfl⟩ := outcome_diagnoseAll_cons h
    obtain ⟨hds, hreports⟩ := ih hds'
    obtain ⟨name, owner, rfl, howner, rfl⟩ := outcome_diagnose hd
    have hsome := Reports.failing hdetect hfailures hkey howner
    refine ⟨by rw [List.filterMap_cons_some hsome.report_eq, hds], fun o ho ↦ ?_⟩
    rcases List.mem_cons.mp ho with rfl | ho
    · rw [hsome.report_eq]
      exact hsome
    · exact hreports o ho

/-- A scan against fixed answers that list no key twice gives the block of its check. -/
theorem outcome_scan {selection : Selection} {ds : List Diagnosis}
    (hdistinct : ∀ objects, c.objects answers selection = .ok objects → KeysDistinct objects)
    (h : (c.scan selection).outcome answers = .ok ds) :
    ds = c.block answers selection ∧ ∃ objects, c.objects answers selection = .ok objects ∧
      ∀ object ∈ objects, Reports answers c object (report c answers object) := by
  unfold scan at h
  rw [outcome_bind, outcome_record] at h
  obtain ⟨-, -, h⟩ := bind_eq_ok_iff.mp h
  rw [outcome_bind] at h
  obtain ⟨objects, hlist, h⟩ := bind_eq_ok_iff.mp h
  rw [outcome_bind] at h
  obtain ⟨found, hlook, h⟩ := bind_eq_ok_iff.mp h
  obtain ⟨findings, hfinds, rfl⟩ := finds_of_lookAll hlook (isText_of_diagnoseAll h)
    (hdistinct objects hlist) (by simp)
  obtain ⟨hds, hreports⟩ := hfinds.diagnoses_eq h
  have hlisted : c.objects answers selection = .ok objects := hlist
  exact ⟨by simp only [block, hlisted, hds], objects, hlisted, hreports⟩

end Check

/-- Against fixed answers that list no key twice, a run of analyzers gives the blocks of its checks
in order. -/
theorem outcome_examineAll {checks : List Check} {selection : Selection}
    (hdistinct : ∀ c ∈ checks, ∀ objects,
      c.objects answers selection = .ok objects → KeysDistinct objects)
    {ds : List Diagnosis}
    (h : (examineAll selection (checks.map Check.analyzer)).outcome answers = .ok ds) :
    ds = checks.flatMap (·.block answers selection) ∧
      ∀ c ∈ checks, ∃ objects, c.objects answers selection = .ok objects ∧
        ∀ object ∈ objects, Check.Reports answers c object (c.report answers object) := by
  induction checks generalizing ds with
  | nil => exact ⟨(Except.ok.inj h).symm, by simp⟩
  | cons c checks ih =>
    rw [examineAll_cons, outcome_bind, outcome_check] at h
    obtain ⟨-, -, h⟩ := bind_eq_ok_iff.mp h
    rw [outcome_bind] at h
    obtain ⟨found, hscan, h⟩ := bind_eq_ok_iff.mp h
    rw [outcome_bind] at h
    obtain ⟨others, hothers, h⟩ := bind_eq_ok_iff.mp h
    obtain rfl := Except.ok.inj h
    obtain ⟨hfound, hreported⟩ :=
      Check.outcome_scan (hdistinct c List.mem_cons_self) hscan
    obtain ⟨hrest, hreports⟩ := ih (fun d hd ↦ hdistinct d (List.mem_cons_of_mem c hd)) hothers
    refine ⟨by rw [List.flatMap_cons, hfound, hrest], fun d hd ↦ ?_⟩
    rcases List.mem_cons.mp hd with rfl | hd
    · exact hreported
    · exact hreports d hd

/-- A run of built-in analyzers that succeeds against a cluster that does not change and lists no
key twice gives, in the order of its checks, the block of each. The block is a matter of the
answers, the selection and the check alone: it holds, in the order of the listing, the report of
each object that has one, and each object is reported on as its detected failures, its key and its
owner demand. -/
theorem examineAll_eq_blocks {checks : List Check} (hchecks : ∀ c ∈ checks, c ∈ Check.builtin)
    (hsteady : source.Steady answers) {selection : Selection}
    (hdistinct : ∀ c ∈ checks, ∀ objects,
      c.objects answers selection = .ok objects → KeysDistinct objects)
    {w w' : World σ} {ds : List Diagnosis}
    (hrun : (examineAll selection (checks.map Check.analyzer)).run source deadline w =
      (.ok ds, w')) :
    ds = checks.flatMap (·.block answers selection) ∧
      ∀ c ∈ checks, ∃ objects, c.objects answers selection = .ok objects ∧
        c.block answers selection = objects.filterMap (c.report answers) ∧
          ∀ object ∈ objects, Check.Reports answers c object (c.report answers object) := by
  have hfaithful :
      Faithful source deadline answers (examineAll selection (checks.map Check.analyzer)) :=
    (composed_examineAll hchecks selection).faithful hsteady
  obtain ⟨hds, hreports⟩ := outcome_examineAll hdistinct (hfaithful w w' ds hrun)
  refine ⟨hds, fun c hc ↦ ?_⟩
  obtain ⟨objects, hobjects, hreported⟩ := hreports c hc
  exact ⟨objects, hobjects, by simp only [Check.block, hobjects], hreported⟩

end Steady

/-! ### A cluster of two pods -/

namespace TwoPods

/-- A pod that cannot be scheduled. -/
def stuck : Value :=
  .map [
    ("metadata", .map [("name", .str "a"), ("namespace", .str "n")]),
    ("status", .map [("phase", .str "Pending"), ("conditions", .list [.map [
      ("type", .str "PodScheduled"), ("reason", .str "Unschedulable"),
      ("message", .str "no node")]])])]

/-- A pod that nothing is known to be wrong with. -/
def calm : Value :=
  .map [("metadata", .map [("name", .str "b"), ("namespace", .str "n")])]

/-- The answers of a cluster with these two pods. -/
def answers : Answers
  | .list kind _ _ => .ok (if kind = "Pod" then [calm, stuck] else [])
  | .get _ _ _ => .ok none
  | .events _ _ _ => .ok []
  | .log _ _ _ _ => .ok none

/-- The cluster, which takes a second for each answer. -/
def cluster : Source Unit where
  answer q _ m s := (answers q, { m with now := m.now.add (.ofNat 1) }, s)

def start : World Unit where
  moment := ⟨.zero, false⟩
  cluster := ()

def diagnosis : Diagnosis where
  kind := "Pod"
  name := "n/a"
  failures := [⟨"no node", []⟩]

theorem examineAll_eq_blocks_twoPods :
    (∀ c ∈ [Check.log, Check.pod], c ∈ Check.builtin) ∧ cluster.Steady answers ∧
      (∀ c ∈ [Check.log, Check.pod], ∀ objects,
        c.objects answers {} = .ok objects → KeysDistinct objects) ∧
      [diagnosis] = [Check.log, Check.pod].flatMap (·.block answers {}) ∧
      ∀ c ∈ [Check.log, Check.pod], ∃ objects, c.objects answers {} = .ok objects ∧
        c.block answers {} = objects.filterMap (c.report answers) ∧
          ∀ object ∈ objects, Check.Reports answers c object (c.report answers object) := by
  have hchecks : ∀ c ∈ [Check.log, Check.pod], c ∈ Check.builtin := by
    simp [Check.builtin, Check.core, Check.additional]
  have hsteady : cluster.Steady answers := fun _ _ _ _ ↦ rfl
  have hdistinct : ∀ c ∈ [Check.log, Check.pod], ∀ objects,
      c.objects answers {} = .ok objects → KeysDistinct objects := by
    intro c hc objects hobjects
    have hlisted : c.objects answers {} = .ok [calm, stuck] := by
      simp only [List.mem_cons, List.not_mem_nil, or_false] at hc
      rcases hc with rfl | rfl <;> rfl
    obtain rfl := Except.ok.inj (hlisted.symm.trans hobjects)
    refine List.pairwise_pair.mpr fun key hcalm hstuck ↦ ?_
    cases hcalm
    cases hstuck
  have hrun : (examineAll {} ([Check.log, Check.pod].map Check.analyzer)).run cluster
      none start = (.ok [diagnosis], _) := rfl
  exact ⟨hchecks, hsteady, hdistinct, examineAll_eq_blocks hchecks hsteady hdistinct hrun⟩

end TwoPods

end ClusterDiagnosis
