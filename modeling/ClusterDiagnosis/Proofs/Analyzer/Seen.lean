import ClusterDiagnosis.Proofs.Analyzer.Composition
import ClusterDiagnosis.Proofs.Analyzer.Findings
import ClusterDiagnosis.Proofs.Gauge
import ClusterDiagnosis.Proofs.Scan.Owner
import ClusterDiagnosis.Proofs.Value.Label

/-!
# What a scan sees and records

A check marks the series of each failing object as soon as its detection returns, and its scan can
end at any access after that. `Check.seen` is what a check has detected when its scan ends, in
whatever way it ends. The scan changes the gauge by a reset and the marks of these objects and
nothing else (`Check.gauge_scan`), and if it succeeds it gives one diagnosis for each of them
(`Check.forall₂_of_run_scan`).
-/

set_option autoImplicit false
set_option relaxedAutoImplicit false

namespace ClusterDiagnosis

open Scan

/-- An object together with the failures that were detected. -/
abbrev Failing := Value × List Failure

/-- Objects whose keys are texts, no two of them the same. -/
structure Keyed (objects : List Value) : Prop where
  isText : ∀ object ∈ objects, ∃ s, object.objectKey = .ok (.str s)
  distinct : KeysDistinct objects

theorem Keyed.tail {object : Value} {objects : List Value} (h : Keyed (object :: objects)) :
    Keyed objects :=
  ⟨fun o ho ↦ h.isText o (List.mem_cons_of_mem _ ho), (List.pairwise_cons.mp h.distinct).2⟩

section Run

variable {σ : Type} {source : Source σ} {deadline : Option Deadline}

namespace Check

variable {c : Check}

/-! ### One object -/

/-- The mark of a failing object. -/
def mark (e : Failing) : Gauge.Mark :=
  ⟨e.1.labelOf "name", e.1.labelOf "namespace", e.2.length⟩

/-- An object is inspected if the run is not over. -/
def inspect (c : Check) (object : Value) : Scan (List Failure) := do
  Scan.check
  c.detect object

/-- Looking at one object is plain, whichever built-in check does it. -/
theorem plain_inspect (hc : c ∈ builtin) (object : Value) : Plain (c.inspect object) :=
  .bind .check fun _ ↦ plain_detect hc object

/-- The failures of an object that has a key are recorded as its mark. -/
theorem recordFailures_eq {object key : Value} {failures : List Failure}
    (hkey : object.objectKey = .ok key) :
    c.recordFailures object failures.length =
      Scan.record ((mark (object, failures)).entry c.kind) := by
  obtain ⟨md, hmd, hname, hscope, -⟩ := Value.objectKey_eq_ok_iff.mp hkey
  unfold recordFailures
  rw [hmd]
  change (liftM (md.label "name") >>= fun name ↦ liftM (md.label "namespace") >>= fun scope ↦
    Scan.record (.set c.kind name scope (.int failures.length))) = _
  rw [hname, hscope]
  rfl

/-- Looking at an object whose key is a text: it is inspected, and if it fails, it is marked and put
to the findings. -/
theorem run_look {object : Value} {s : String} (hkey : object.objectKey = .ok (.str s))
    (found : List Finding) (w : World σ) :
    (c.look found object).run source deadline w =
      match (c.inspect object).run source deadline w with
      | (.error e, w₁) => (.error e, w₁)
      | (.ok [], w₁) => (.ok found, w₁)
      | (.ok (f :: fs), w₁) =>
        (.ok (Finding.put ⟨.str s, object, f :: fs⟩ found),
          { w₁ with gauge := w₁.gauge.map (·.apply ((mark (object, f :: fs)).entry c.kind)) }) := by
  have hkeyOf : keyOf object = .ok (.str s) := by
    rw [keyOf, hkey]
    rfl
  have hlook : c.look found object = c.inspect object >>= fun failures ↦
      if failures.isEmpty then pure found
      else liftM (keyOf object) >>= fun key ↦ c.recordFailures object failures.length >>= fun _ ↦
        pure (Finding.put ⟨key, object, failures⟩ found) := rfl
  rw [hlook, run_bind]
  rcases hrun : (c.inspect object).run source deadline w with ⟨e | _ | ⟨f, fs⟩, w₁⟩
  · rfl
  · rfl
  · simp only [List.isEmpty_cons, Bool.false_eq_true, ↓reduceIte]
    rw [hkeyOf, recordFailures_eq hkey]
    rfl

/-! ### One object after the other -/

/-- The failing objects among the given ones whose detection returns, if they are looked at in
order and nothing before fails. -/
def detected (source : Source σ) (deadline : Option Deadline) (c : Check) :
    World σ → List Value → List Failing
  | _, [] => []
  | w, object :: objects =>
    match (c.inspect object).run source deadline w with
    | (.error _, _) => []
    | (.ok [], w₁) => detected source deadline c w₁ objects
    | (.ok (f :: fs), w₁) => (object, f :: fs) :: detected source deadline c w₁ objects

/-- The accesses made so far and the gauge have no part in what is detected. -/
theorem detected_congr {v w : World σ} (h : SameState v w) (objects : List Value) :
    detected source deadline c v objects = detected source deadline c w objects := by
  induction objects generalizing v w with
  | nil => rfl
  | cons object objects ih =>
    have hcongr : ((c.inspect object).run source deadline v).1 =
          ((c.inspect object).run source deadline w).1 ∧
        SameState ((c.inspect object).run source deadline v).2
          ((c.inspect object).run source deadline w).2 := run_congr _ h
    obtain ⟨hresult, hstate⟩ := hcongr
    unfold detected
    rcases hv : (c.inspect object).run source deadline v with ⟨rv, v₁⟩
    rcases hw : (c.inspect object).run source deadline w with ⟨rw', w₁⟩
    rw [hv, hw] at hresult hstate
    obtain rfl : rv = rw' := hresult
    rcases rv with e | _ | ⟨f, fs⟩
    · rfl
    · exact ih hstate
    · exact congrArg _ (ih hstate)

/-- What is detected are objects among the given ones, in their order. -/
theorem sublist_detected (w : World σ) (objects : List Value) :
    ((detected source deadline c w objects).map Prod.fst).Sublist objects := by
  induction objects generalizing w with
  | nil => exact .slnil
  | cons object objects ih =>
    unfold detected
    split
    · exact List.nil_sublist _
    · exact (ih _).cons _
    · exact (ih _).cons_cons _

/-- Looking at objects marks those that are detected and changes nothing else about the gauge,
whether or not all of them can be looked at. -/
theorem gauge_lookAll (hc : c ∈ builtin) {objects : List Value} (hkeyed : Keyed objects)
    (found : List Finding) (w : World σ) :
    ((c.lookAll found objects).run source deadline w).2.gauge =
      w.gauge.map (·.applyAll
        (((detected source deadline c w objects).map mark).map (Gauge.Mark.entry c.kind))) := by
  induction objects generalizing found w with
  | nil => simp [lookAll, detected]
  | cons object objects ih =>
    obtain ⟨s, hkey⟩ := hkeyed.isText object List.mem_cons_self
    have hgauge : ((c.inspect object).run source deadline w).2.gauge = w.gauge :=
      (plain_inspect hc object).run_gauge w
    have hsame (v : World σ) (g : Option Gauge) :
        detected source deadline c { v with gauge := g } objects =
          detected source deadline c v objects :=
      detected_congr (.withGauge v g) objects
    unfold lookAll detected
    rw [run_bind, run_look hkey]
    rcases hrun : (c.inspect object).run source deadline w with ⟨e | _ | ⟨f, fs⟩, w₁⟩
    · rw [hrun] at hgauge
      simpa using hgauge
    · rw [hrun] at hgauge
      simp only
      rw [ih hkeyed.tail, hgauge]
    · rw [hrun] at hgauge
      simp only [List.map_cons, Gauge.applyAll_cons]
      rw [ih hkeyed.tail, hsame, hgauge, Option.map_map]
      rfl

/-- A finding that keeps a failing object under its key. -/
def Keeps (e : Failing) (f : Finding) : Prop :=
  e.1.objectKey = .ok f.key ∧ f.object = e.1 ∧ f.failures = e.2

/-- If all objects can be looked at, and no two have the same key, the findings are what is
detected. -/
theorem findings_of_run_lookAll {objects : List Value} (hkeyed : Keyed objects)
    {found found' : List Finding} {w w' : World σ}
    (hnew : ∀ g ∈ found, ∀ object ∈ objects, object.objectKey ≠ .ok g.key)
    (h : (c.lookAll found objects).run source deadline w = (.ok found', w')) :
    ∃ findings, found' = found ++ findings ∧
      List.Forall₂ Keeps (detected source deadline c w objects) findings := by
  induction objects generalizing found w with
  | nil =>
    obtain rfl := Except.ok.inj (congrArg Prod.fst h)
    exact ⟨[], (List.append_nil _).symm, .nil⟩
  | cons object objects ih =>
    obtain ⟨s, hkey⟩ := hkeyed.isText object List.mem_cons_self
    have hold : ∀ g ∈ found, ∀ o ∈ objects, o.objectKey ≠ .ok g.key := fun g hg o ho ↦
      hnew g hg o (List.mem_cons_of_mem _ ho)
    unfold lookAll at h
    obtain ⟨found₁, w₁, hlook, hrest⟩ := run_bind_eq_ok_iff.mp h
    rw [run_look hkey] at hlook
    unfold detected
    rcases hrun : (c.inspect object).run source deadline w with ⟨e | _ | ⟨f, fs⟩, w₂⟩
    · rw [hrun] at hlook
      cases hlook
    · rw [hrun] at hlook
      cases hlook
      exact ih hkeyed.tail hold hrest
    · rw [hrun] at hlook
      have hput : Finding.put ⟨.str s, object, f :: fs⟩ found =
          found ++ [⟨.str s, object, f :: fs⟩] :=
        Finding.put_eq_append_of_key hkey fun g hg ↦ hnew g hg object List.mem_cons_self
      simp only [hput] at hlook
      cases hlook
      obtain ⟨findings, rfl, hkeeps⟩ := ih hkeyed.tail (fun g hg o ho ↦ by
        rcases List.mem_append.mp hg with hg | hg
        · exact hold g hg o ho
        · rw [List.mem_singleton.mp hg]
          exact (List.pairwise_cons.mp hkeyed.distinct).1 o ho _ hkey) hrest
      rw [detected_congr (.withGauge w₂ _)] at hkeeps
      exact ⟨_ :: findings, by rw [List.append_assoc, List.singleton_append],
        .cons ⟨hkey, rfl, rfl⟩ hkeeps⟩

/-! ### Diagnoses -/

/-- A diagnosis of a failing object. -/
def Diagnoses (c : Check) (d : Diagnosis) (e : Failing) : Prop :=
  d.kind = c.kind ∧ e.1.objectKey = .ok (.str d.name) ∧ d.failures = e.2

/-- The diagnoses that can be made of findings are one for each, in order. -/
theorem forall₂_diagnoses {failing : List Failing} {findings : List Finding}
    (hkeeps : List.Forall₂ Keeps failing findings) {ds : List Diagnosis} {w w' : World σ}
    (h : (c.diagnoseAll findings).run source deadline w = (.ok ds, w')) :
    List.Forall₂ c.Diagnoses ds failing := by
  induction hkeeps generalizing ds w w' with
  | nil =>
    obtain rfl := Except.ok.inj (congrArg Prod.fst h)
    exact .nil
  | @cons e f failing findings he _ ih =>
    unfold diagnoseAll at h
    obtain ⟨d, w₁, hd, h⟩ := run_bind_eq_ok_iff.mp h
    obtain ⟨ds', w₂, hds, h⟩ := run_bind_eq_ok_iff.mp h
    obtain rfl := Except.ok.inj (congrArg Prod.fst h)
    refine .cons ?_ (ih hds)
    rw [diagnose_eq] at hd
    obtain ⟨name, w₃, hname, hd⟩ := run_bind_eq_ok_iff.mp hd
    obtain ⟨owner, w₄, -, hd⟩ := run_bind_eq_ok_iff.mp hd
    obtain rfl := Except.ok.inj (congrArg Prod.fst hd)
    have hkey := Value.toText_eq_ok_iff.mp (congrArg Prod.fst hname)
    exact ⟨rfl, hkey ▸ he.1, he.2.2⟩

/-- The walk to an owner leaves the gauge alone. -/
theorem gauge_ownerOf (object : Value) (w : World σ) :
    ((c.ownerOf object).run source deadline w).2.gauge = w.gauge := by
  unfold ownerOf
  split
  · rw [Owner.search, run_bind, run_time]
    cases runOver? deadline w.moment with
    | some f => rfl
    | none =>
      obtain ⟨scope, hhops⟩ := Owner.hops_find object (.seconds (timeLeft deadline w.moment))
        Owner.maxSteps
      exact hhops.run_gauge w
  · rfl

/-- Diagnosing leaves the gauge alone: the failures are counted before. -/
theorem gauge_diagnose (f : Finding) (w : World σ) :
    ((c.diagnose f).run source deadline w).2.gauge = w.gauge := by
  rw [diagnose_eq]
  exact gauge_run_bind (fun _ ↦ rfl) (fun name ↦
    gauge_run_bind (gauge_ownerOf f.object) fun owner _ ↦ rfl) w

/-- Making diagnoses leaves the gauge as it was. -/
theorem gauge_diagnoseAll (findings : List Finding) (w : World σ) :
    ((c.diagnoseAll findings).run source deadline w).2.gauge = w.gauge := by
  induction findings generalizing w with
  | nil => rfl
  | cons f findings ih =>
    refine gauge_run_bind (gauge_diagnose f) (fun d ↦ gauge_run_bind ih fun ds _ ↦ rfl) w

/-! ### A scan -/

/-- The failing objects whose detection returns in a scan. -/
def seen (source : Source σ) (deadline : Option Deadline) (c : Check) (selection : Selection)
    (w : World σ) : List Failing :=
  match (c.list selection).run source deadline w with
  | (.ok objects, w₁) => detected source deadline c w₁ objects
  | (.error _, _) => []

/-- Whatever a source lists for a check, its objects have keys that are different texts. -/
def ListsKeyed (source : Source σ) (c : Check) (selection : Selection) : Prop :=
  ∀ (limit : Value) (m : Moment) (s : σ) (objects : List Value),
    (source.answer (.list c.listed (.str (if c.everywhere then "" else selection.scope))
      (.str selection.selector)) limit m s).1 = .ok objects → Keyed objects

/-- A listing that the source keeps keyed gives objects with keys. -/
theorem keyed_of_run_list {selection : Selection} (hkeyed : ListsKeyed source c selection)
    {w w' : World σ} {objects : List Value}
    (h : (c.list selection).run source deadline w = (.ok objects, w')) : Keyed objects := by
  obtain ⟨limit, w₁, -, h⟩ := run_bind_eq_ok_iff.mp h
  exact hkeyed limit w₁.moment w₁.cluster objects (congrArg Prod.fst h)

/-- What a check sees depends on the cluster's state and the time alone. -/
theorem seen_congr {selection : Selection} {v w : World σ} (h : SameState v w) :
    c.seen source deadline selection v = c.seen source deadline selection w := by
  have hcongr : ((c.list selection).run source deadline v).1 =
        ((c.list selection).run source deadline w).1 ∧
      SameState ((c.list selection).run source deadline v).2
        ((c.list selection).run source deadline w).2 := run_congr _ h
  obtain ⟨hresult, hstate⟩ := hcongr
  unfold seen
  rcases hv : (c.list selection).run source deadline v with ⟨rv, v₁⟩
  rcases hw : (c.list selection).run source deadline w with ⟨rw', w₁⟩
  rw [hv, hw] at hresult hstate
  obtain rfl : rv = rw' := hresult
  rcases rv with e | objects
  · rfl
  · exact detected_congr hstate objects

/-- Objects with different keys are marked on different series. -/
theorem nodup_series {objects : List Value} (hkeyed : Keyed objects) {failing : List Failing}
    (hsub : (failing.map Prod.fst).Sublist objects) :
    ((failing.map mark).map (Gauge.Mark.series c.kind)).Nodup := by
  have hdistinct : (failing.map Prod.fst).Pairwise fun o p ↦
      ∀ key, o.objectKey = .ok key → p.objectKey ≠ .ok key := hkeyed.distinct.sublist hsub
  rw [List.map_map, List.Nodup, List.pairwise_map]
  refine List.Pairwise.imp_of_mem (fun {e e'} he he' hne hseries ↦ ?_)
    (List.pairwise_map.mp hdistinct)
  obtain ⟨s, hs⟩ := hkeyed.isText e.1 (hsub.subset (List.mem_map_of_mem he))
  obtain ⟨t, ht⟩ := hkeyed.isText e'.1 (hsub.subset (List.mem_map_of_mem he'))
  simp only [Function.comp_apply, Gauge.Mark.series, mark, Series.mk.injEq, true_and] at hseries
  obtain rfl := Value.objectKey_eq_of_labels hs ht hseries.1 hseries.2
  exact hne _ hs ht

/-- No two objects that a check sees are counted on the same series. -/
theorem nodup_series_seen {selection : Selection} (hkeyed : ListsKeyed source c selection)
    (w : World σ) : (((c.seen source deadline selection w).map mark).map
      (Gauge.Mark.series c.kind)).Nodup := by
  unfold seen
  rcases hlist : (c.list selection).run source deadline w with ⟨e | objects, w₁⟩
  · exact List.nodup_nil
  · exact nodup_series (keyed_of_run_list hkeyed hlist) (sublist_detected w₁ objects)

/-- After the reset a scan marks what it sees, however it ends. -/
theorem gauge_list_lookAll (hc : c ∈ builtin) {selection : Selection}
    (hkeyed : ListsKeyed source c selection) (w : World σ) :
    ((c.list selection >>= fun objects ↦ c.lookAll [] objects >>= fun found ↦
        c.diagnoseAll found).run source deadline w).2.gauge =
      w.gauge.map (·.applyAll (((c.seen source deadline selection w).map mark).map
        (Gauge.Mark.entry c.kind))) := by
  have hgauge : ((c.list selection).run source deadline w).2.gauge = w.gauge :=
    (Plain.asking (Query.firm_list _ _ _)).run_gauge w
  rw [run_bind, seen]
  rcases hlist : (c.list selection).run source deadline w with ⟨e | objects, w₁⟩
  · rw [hlist] at hgauge
    simpa using hgauge
  · rw [hlist] at hgauge
    have hlook : ((c.lookAll [] objects).run source deadline w₁).2.gauge = _ :=
      gauge_lookAll hc (keyed_of_run_list hkeyed hlist) [] w₁
    rw [hgauge] at hlook
    exact (gauge_run_bind_left (fun found ↦ gauge_diagnoseAll found) w₁).trans hlook

/-- The changes of the gauge that a scan makes: a reset, and the marks of failing objects. -/
def entries (c : Check) (failing : List Failing) : List GaugeEntry :=
  .reset c.kind :: (failing.map mark).map (Gauge.Mark.entry c.kind)

/-- A scan changes the gauge by a reset and the marks of what it has seen, however it ends. -/
theorem gauge_scan (hc : c ∈ builtin) {selection : Selection}
    (hkeyed : ListsKeyed source c selection) (w : World σ) :
    ((c.scan selection).run source deadline w).2.gauge =
      w.gauge.map (·.applyAll (c.entries (c.seen source deadline selection w))) := by
  unfold scan
  rw [run_bind, run_record]
  simp only
  rw [gauge_list_lookAll hc hkeyed, seen_congr (.withGauge w _), Option.map_map]
  rfl

/-- A scan that succeeds gives one diagnosis for each failing object that it has seen. -/
theorem forall₂_of_run_scan {selection : Selection} (hkeyed : ListsKeyed source c selection)
    {w w' : World σ} {ds : List Diagnosis}
    (h : (c.scan selection).run source deadline w = (.ok ds, w')) :
    List.Forall₂ c.Diagnoses ds (c.seen source deadline selection w) := by
  unfold scan at h
  obtain ⟨_, w₁, hrecord, h⟩ := run_bind_eq_ok_iff.mp h
  rw [run_record] at hrecord
  cases hrecord
  obtain ⟨objects, w₂, hlist, h⟩ := run_bind_eq_ok_iff.mp h
  obtain ⟨found, w₃, hlook, h⟩ := run_bind_eq_ok_iff.mp h
  obtain ⟨findings, rfl, hkeeps⟩ :=
    findings_of_run_lookAll (keyed_of_run_list hkeyed hlist) (by simp) hlook
  rw [← seen_congr (.withGauge w _), seen, hlist]
  exact forall₂_diagnoses hkeeps h

end Check

end Run

end ClusterDiagnosis
