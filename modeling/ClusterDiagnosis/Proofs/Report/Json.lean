import ClusterDiagnosis.Proofs.Json.RoundTrip
import ClusterDiagnosis.Proofs.Pipeline.Frame

/-!
# Reports for other programs lose nothing

A diagnosis is read back from its record as it was (`Diagnosis.ofRecord_toRecord`), part by part,
and the record of a report is kept by writing and reading it (`Report.kept_record`). Both need that
explanations are texts, as they are in a diagnosis that was read from a record: an explanation of
another kind is not taken back.

A run that reports in JSON prints the report before it writes any manifest, and nothing else
(`Output.lines_writeManifests`).
-/

set_option autoImplicit false
set_option relaxedAutoImplicit false

namespace ClusterDiagnosis

/-! ### Records -/

/-- Items that are read back each are read back from a list. -/
theorem mapM_map_eq_ok {α β : Type} {write : α → β} {read : β → Except Fault α} {items : List α}
    (h : ∀ a ∈ items, read (write a) = .ok a) : (items.map write).mapM read = .ok items := by
  have hread : items.mapM (read ∘ write) = .ok (items.map id) := mapM_eq_ok_map h
  rwa [List.map_id, ← List.mapM_map] at hread

theorem Secret.ofRecord_toRecord (s : Secret) : Secret.ofRecord s.toRecord = .ok s :=
  rfl

theorem Failure.ofRecord_toRecord (f : Failure) : Failure.ofRecord f.toRecord = .ok f := by
  have hsecrets : (f.secrets.map Secret.toRecord).mapM Secret.ofRecord = .ok f.secrets :=
    mapM_map_eq_ok fun s _ ↦ s.ofRecord_toRecord
  change ((f.secrets.map Secret.toRecord).mapM Secret.ofRecord >>= fun secrets ↦
    pure (⟨f.text, secrets⟩ : Failure)) = .ok f
  rw [hsecrets]
  rfl

theorem ObjectRef.ofRecord_toRecord (r : ObjectRef) : ObjectRef.ofRecord r.toRecord = .ok r := by
  obtain ⟨kind, name, scope⟩ := r
  cases scope <;> rfl

/-- A diagnosis whose explanation is a text is read back from its record. -/
theorem Diagnosis.ofRecord_toRecord {d : Diagnosis} (h : ∃ e, d.explanation = .str e) :
    Diagnosis.ofRecord d.toRecord = .ok d := by
  obtain ⟨kind, name, owner, failures, explanation, manifest⟩ := d
  obtain ⟨e, rfl⟩ := h
  have hfailures : (failures.map Failure.toRecord).mapM Failure.ofRecord = .ok failures :=
    mapM_map_eq_ok fun f _ ↦ f.ofRecord_toRecord
  cases owner with
  | none =>
    change ((failures.map Failure.toRecord).mapM Failure.ofRecord >>= fun fs ↦
      pure (⟨kind, name, none, fs, .str e, manifest⟩ : Diagnosis)) = _
    rw [hfailures]
    rfl
  | some r =>
    change ((ObjectRef.ofRecord r.toRecord).map some >>= fun owner ↦
      (failures.map Failure.toRecord).mapM Failure.ofRecord >>= fun fs ↦
        pure (⟨kind, name, owner, fs, .str e, manifest⟩ : Diagnosis)) = _
    rw [r.ofRecord_toRecord, hfailures]
    rfl

section Kept

open Json

/-- A list of records is kept if each record is. -/
theorem kept_list_map {α : Type} {write : α → Value} {items : List α}
    (h : ∀ a ∈ items, Kept (write a)) : Kept (.list (items.map write)) :=
  .list (List.forall_mem_map.mpr h)

theorem kept_ofText (s : Option String) : Kept (.ofText s) := by
  cases s with
  | none => exact .null
  | some s => exact .str s

theorem Secret.kept_toRecord (s : Secret) : Kept s.toRecord :=
  .map (by simp) (by simp [Kept.str])

theorem Failure.kept_toRecord (f : Failure) : Kept f.toRecord := by
  have hsecrets : Kept (.list (f.secrets.map Secret.toRecord)) :=
    kept_list_map fun s _ ↦ s.kept_toRecord
  exact .map (by simp) (by simp [Kept.str, hsecrets])

theorem ObjectRef.kept_toRecord (r : ObjectRef) : Kept r.toRecord :=
  .map (by simp) (by simp [Kept.str, kept_ofText])

theorem Diagnosis.kept_toRecord {d : Diagnosis} (h : ∃ e, d.explanation = .str e) :
    Kept d.toRecord := by
  obtain ⟨e, he⟩ := h
  have howner : Kept ((d.owner.map ObjectRef.toRecord).getD .null) := by
    cases d.owner with
    | none => exact .null
    | some r => exact r.kept_toRecord
  have hfailures : Kept (.list (d.failures.map Failure.toRecord)) :=
    kept_list_map fun f _ ↦ f.kept_toRecord
  exact .map (by simp) (by simp [Kept.str, howner, hfailures, he])

/-- The record of a report is kept by the format, so it can be read back. -/
theorem Report.kept_record {ds : List Diagnosis} (h : ∀ d ∈ ds, ∃ e, d.explanation = .str e) :
    Kept (Report.record ds) := by
  have hresults : Kept (.list (ds.map Diagnosis.toRecord)) :=
    kept_list_map fun d hd ↦ d.kept_toRecord (h d hd)
  exact .map (by simp) (by simp [Kept.str, Kept.int, hresults])

end Kept

/-! ### What a run prints -/

/-- Manifests are written without a word when the report is JSON. -/
theorem Output.lines_writeManifests {plan : Plan} (h : plan.asJson = true) (ds : List Diagnosis)
    (o : Output) : (Output.writeManifests plan ds o).2.lines = o.lines := by
  induction ds generalizing o with
  | nil => rfl
  | cons d ds ih =>
    rw [Output.writeManifests]
    rcases Report.writeManifest plan.outputDir d o.files with ⟨f | _ | p, files⟩
    · rfl
    · exact ih _
    · simp only [h, if_true]
      exact ih _

/-- As JSON the report is one printed text. -/
theorem Output.lines_give {plan : Plan} (h : plan.asJson = true) (ds : List Diagnosis)
    (o : Output) : (Output.give plan ds o).2.lines = o.lines ++ [Report.json ds] := by
  have hreport : Output.report plan ds o = (.ok (), o.print (Report.json ds)) := by
    rw [Output.report, if_pos h]
  rw [Output.give, hreport]
  exact Output.lines_writeManifests h ds _

/-! ### Reports -/

/-- A report in JSON is one ASCII document. Read back, it says whether there is anything to report
and how many failures there are, and holds exactly the diagnoses that it was written for. A run that
reports in JSON prints it once and prints nothing else, whatever manifests it writes, unless it ends
before there is anything to report; then it leaves the output as it was. -/
theorem json_report :
    (∀ ds : List Diagnosis, (∀ d ∈ ds, ∃ e, d.explanation = .str e) →
      Json.IsAscii (Report.json ds).toList ∧
      ∃ status results, Json.parse? (Report.json ds) = some (.map [("status", .str status),
          ("problems", .int (ds.flatMap Diagnosis.failures).length),
          ("results", .list results)]) ∧
        results.mapM Diagnosis.ofRecord = .ok ds ∧ (status = "OK" ↔ ds = [])) ∧
    (∀ (σ τ : Type) (plan : Plan) (source : Source σ) (service : Option (CompletionService τ))
      (deadline : Option Deadline) (analyzers : List Analyzer) (s : Session σ τ),
      plan.asJson = true →
      let result := analyze plan source service deadline analyzers s
      (∃ found w ds m t,
        (examineAll plan.selection analyzers).run source deadline s.world = (.ok found, w) ∧
        Enrichment.enrichAll plan service deadline found w.moment s.completion =
          (.ok (), ds, m, t) ∧
        result.2.output.lines = s.output.lines ++ [Report.json ds] ∧
        ∀ ds', result.1 = .ok ds' → ds' = ds) ∨
      ∃ f, result.1 = .error f ∧ result.2.output = s.output) := by
  constructor
  · intro ds hds
    have hkept := Report.kept_record hds
    have hread : Json.parse? (Report.json ds) = some (Report.record ds) :=
      hkept.parse?_chars Json.indented_blank
    have hascii : Json.IsAscii (Report.json ds).toList := by
      rw [Report.json, Json.page, String.toList_ofList]
      exact hkept.isAscii Json.indented_blank 0
    have hresults : (ds.map Diagnosis.toRecord).mapM Diagnosis.ofRecord = .ok ds :=
      mapM_map_eq_ok fun d hd ↦ Diagnosis.ofRecord_toRecord (hds d hd)
    refine ⟨hascii, _, _, hread, hresults, ?_⟩
    cases ds with
    | nil => exact ⟨fun _ ↦ rfl, fun _ ↦ rfl⟩
    | cons d ds => exact ⟨fun h ↦ absurd h (by simp), fun h ↦ by cases h⟩
  · intro σ τ plan source service deadline analyzers s hplan result
    have hcourse : Course plan source service deadline analyzers s _ result := course_analyze ..
    generalize callsMade plan source service deadline analyzers s = calls, result = result
      at hcourse ⊢
    cases hcourse with
    | unserved => exact .inr ⟨_, rfl, rfl⟩
    | unscanned => exact .inr ⟨_, rfl, rfl⟩
    | unenriched => exact .inr ⟨_, rfl, rfl⟩
    | @given found w calls ds m t hscan henrich =>
      refine .inl ⟨found, w, ds, m, t, hscan, henrich, Output.lines_give hplan ds s.output, ?_⟩
      intro ds' hds'
      rcases hgive : (Output.give plan ds s.output).1 with f | u
      · rw [hgive] at hds'
        cases hds'
      · rw [hgive] at hds'
        exact (Except.ok.inj hds').symm

namespace TwoPods

/-- A diagnosis with texts that have to be written with escapes. -/
def strange : Diagnosis where
  kind := "Pod"
  name := "n/\"a\"\\b"
  owner := some { kind := "ReplicaSet", name := "é\x7f" }
  failures := [⟨"one\ntwo\t\x00", [⟨"\u2028", "8d9f"⟩, ⟨"😀", "\\ud83d"⟩]⟩, ⟨"", []⟩]
  explanation := .str "null"

def reporting : Plan :=
  { thorough with asJson := true }

theorem analyze_reporting :
    (analyze reporting cluster (some advisor) none ([Check.pod].map Check.analyzer)
      session).1.toOption = some [enriched] := by
  decide +kernel

theorem json_report_twoPods :
    (∀ d ∈ [strange, enriched], ∃ e, d.explanation = .str e) ∧
    Json.IsAscii (Report.json [strange, enriched]).toList ∧
    (∃ status results, Json.parse? (Report.json [strange, enriched]) = some (.map [
        ("status", .str status), ("problems", .int 3), ("results", .list results)]) ∧
      results.mapM Diagnosis.ofRecord = .ok [strange, enriched] ∧ status ≠ "OK") ∧
    reporting.asJson = true ∧
    (analyze reporting cluster (some advisor) none ([Check.pod].map Check.analyzer)
      session).2.output.lines = [Report.json [enriched]] := by
  have htexts : ∀ d ∈ [strange, enriched], ∃ e, d.explanation = .str e := by
    simp [strange, enriched]
  obtain ⟨hascii, status, results, hread, hresults, hstatus⟩ :=
    json_report.1 [strange, enriched] htexts
  have hproblem : status ≠ "OK" := fun h ↦ List.cons_ne_nil _ _ (hstatus.mp h)
  refine ⟨htexts, hascii, ⟨status, results, hread, hresults, hproblem⟩, rfl, ?_⟩
  have hdone := analyze_reporting
  rcases json_report.2 Unit Unit reporting cluster (some advisor) none
    ([Check.pod].map Check.analyzer) session rfl with
    ⟨found, w, ds, m, t, -, -, hlines, hds⟩ | ⟨f, hfault, -⟩
  · rcases hresult : (analyze reporting cluster (some advisor) none
      ([Check.pod].map Check.analyzer) session).1 with f | ds'
    · rw [hresult] at hdone
      cases hdone
    · rw [hresult] at hdone
      obtain rfl := hds ds' hresult
      obtain rfl := Option.some.inj hdone
      exact hlines
  · rw [hfault] at hdone
    cases hdone

end TwoPods

end ClusterDiagnosis
