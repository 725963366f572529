import ClusterDiagnosis.Proofs.Analyzer.Blocks
import ClusterDiagnosis.Proofs.Analyzer.Seen

/-!
# The gauge after a run

A run makes the scans of its checks one after the other, and each changes the series of its own
kind only. `ComesTo` says how far a run comes, and what the scans that were finished or started
have seen. From it `examineAll_gauge` derives that each of these kinds shows what its scan has seen
and that all other kinds are as they were, whether the run succeeds or not. The series of a kind are
then exact unless a stale one was there before (`Check.Exports`).
-/

set_option autoImplicit false
set_option relaxedAutoImplicit false

namespace ClusterDiagnosis

open Scan

section Run

variable {σ : Type} {source : Source σ} {deadline : Option Deadline}

namespace Check

/-- What a scan leaves of the series of its kind, given what it has seen. The series are exactly
those of the failing objects, each with its number of failures, if and only if no other series of
the kind was stale before and all numbers are in range. -/
def Exports (c : Check) (before after : Gauge) (failing : List Failing) : Prop :=
  Gauge.Shows before after c.kind (failing.map mark) ∧
    (Gauge.Exact after c.kind (failing.map mark) ↔
      (∀ s, s.kind = c.kind → before.Stale s →
          s ∈ (failing.map mark).map (Gauge.Mark.series c.kind)) ∧
        ∀ m ∈ failing.map mark, ∃ d, (Value.int m.count).toDouble = .ok d)

end Check

/-! ### A run -/

/-- A check and what its scan has seen. -/
abbrev Scanned := Check × List Failing

/-- The changes of the gauge that scans make one after the other. -/
def Scanned.entries (parts : List Scanned) : List GaugeEntry :=
  parts.flatMap fun p ↦ p.1.entries p.2

/-- A check counts failures under its own kind. -/
theorem entryKind_of_mem_entries {c : Check} {failing : List Failing} {entry : GaugeEntry}
    (h : entry ∈ c.entries failing) : Gauge.entryKind entry = c.kind := by
  rcases List.mem_cons.mp h with rfl | h
  · rfl
  · obtain ⟨m, -, rfl⟩ := List.mem_map.mp h
    rfl

/-- Scans of other kinds leave the series of a kind as they were. -/
theorem agreeOn_parts {kind : String} {parts : List Scanned}
    (h : kind ∉ parts.map fun p ↦ p.1.kind) (g : Gauge) :
    Gauge.AgreeOn kind (g.applyAll (Scanned.entries parts)) g := by
  refine Gauge.agreeOn_applyAll (fun entry hentry hkind ↦ ?_) g
  obtain ⟨p, hp, hentry⟩ := List.mem_flatMap.mp hentry
  rw [entryKind_of_mem_entries hentry] at hkind
  exact h (hkind ▸ List.mem_map_of_mem hp)

/-- After scans of different kinds, each kind shows what its scan has seen. -/
theorem exports_parts {parts : List Scanned} (hkinds : (parts.map fun p ↦ p.1.kind).Nodup)
    (hnodup : ∀ p ∈ parts, ((p.2.map Check.mark).map (Gauge.Mark.series p.1.kind)).Nodup)
    (g : Gauge) {p : Scanned} (hp : p ∈ parts) :
    p.1.Exports g (g.applyAll (Scanned.entries parts)) p.2 := by
  suffices hshows : Gauge.Shows g (g.applyAll (Scanned.entries parts)) p.1.kind
      (p.2.map Check.mark) from ⟨hshows, hshows.exact_iff⟩
  have hown := hnodup p hp
  obtain ⟨former, later, rfl⟩ := List.append_of_mem hp
  rw [List.map_append, List.map_cons, List.nodup_append] at hkinds
  obtain ⟨-, hkinds, hdisjoint⟩ := hkinds
  have hformer : p.1.kind ∉ former.map fun p ↦ p.1.kind := fun h ↦
    hdisjoint _ h _ List.mem_cons_self rfl
  have hlater : p.1.kind ∉ later.map fun p ↦ p.1.kind := (List.nodup_cons.mp hkinds).1
  have hentries : g.applyAll (Scanned.entries (former ++ p :: later)) =
      ((g.applyAll (Scanned.entries former)).applyAll (p.1.entries p.2)).applyAll
        (Scanned.entries later) := by
    rw [← Gauge.applyAll_append, ← Gauge.applyAll_append, Scanned.entries, List.flatMap_append,
      List.flatMap_cons]
    rfl
  rw [hentries]
  have hlast := agreeOn_parts hlater ((g.applyAll (Scanned.entries former)).applyAll
    (p.1.entries p.2))
  exact (Gauge.shows_applyAll _ hown).congr (agreeOn_parts hformer g) hlast.symm

/-- Diagnoses that stand in blocks, one for each scan, with a diagnosis for each failing object. -/
inductive InBlocks : List Diagnosis → List Scanned → Prop where
  | nil : InBlocks [] []
  | cons {c : Check} {failing : List Failing} {block ds : List Diagnosis} {parts : List Scanned}
      (hblock : List.Forall₂ c.Diagnoses block failing) (rest : InBlocks ds parts) :
      InBlocks (block ++ ds) ((c, failing) :: parts)

/-- The diagnoses of a scan have the kind of its check. -/
theorem kind_eq_of_forall₂ {c : Check} {ds : List Diagnosis} {failing : List Failing}
    (h : List.Forall₂ c.Diagnoses ds failing) : ∀ d ∈ ds, d.kind = c.kind := by
  induction h with
  | nil => exact nofun
  | cons hd _ ih =>
    intro d hmem
    rcases List.mem_cons.mp hmem with rfl | hmem
    · exact hd.1
    · exact ih d hmem

/-- Every diagnosis of a run in blocks has the kind of one of the checks that ran. -/
theorem InBlocks.kind_mem {ds : List Diagnosis} {parts : List Scanned} (h : InBlocks ds parts) :
    ∀ d ∈ ds, d.kind ∈ parts.map fun p ↦ p.1.kind := by
  induction h with
  | nil => exact nofun
  | cons hblock _ ih =>
    intro d hmem
    rcases List.mem_append.mp hmem with hmem | hmem
    · rw [kind_eq_of_forall₂ hblock d hmem]
      exact List.mem_cons_self
    · exact List.mem_cons_of_mem _ (ih d hmem)

/-- The diagnoses of a kind are the block of its scan. -/
theorem InBlocks.forall₂_filter {ds : List Diagnosis} {parts : List Scanned}
    (h : InBlocks ds parts) (hkinds : (parts.map fun p ↦ p.1.kind).Nodup) {p : Scanned}
    (hp : p ∈ parts) :
    List.Forall₂ p.1.Diagnoses (ds.filter fun d ↦ d.kind = p.1.kind) p.2 := by
  induction h with
  | nil => cases hp
  | @cons c failing block ds parts hblock hrest ih =>
    have hnew : c.kind ∉ parts.map fun p ↦ p.1.kind := (List.nodup_cons.mp hkinds).1
    have hkinds := (List.nodup_cons.mp hkinds).2
    rw [List.filter_append]
    rcases List.mem_cons.mp hp with rfl | hp
    · have hall : block.filter (fun d ↦ d.kind = c.kind) = block :=
        List.filter_eq_self.mpr fun d hd ↦ by simpa using kind_eq_of_forall₂ hblock d hd
      have hnone : ds.filter (fun d ↦ d.kind = c.kind) = [] := by
        refine List.filter_eq_nil_iff.mpr fun d hd hkind ↦ hnew ?_
        rw [← show d.kind = c.kind by simpa using hkind]
        exact hrest.kind_mem d hd
      rw [hall, hnone, List.append_nil]
      exact hblock
    · have hnone : block.filter (fun d ↦ d.kind = p.1.kind) = [] := by
        refine List.filter_eq_nil_iff.mpr fun d hd hkind ↦ hnew ?_
        rw [← kind_eq_of_forall₂ hblock d hd, show d.kind = p.1.kind by simpa using hkind]
        exact List.mem_map_of_mem hp
      rw [hnone, List.nil_append]
      exact ih hkinds hp

/-- A run checks that it is not over, makes the first scan, and goes on with the rest. -/
theorem run_examineAll_cons (selection : Selection) (c : Check) (checks : List Check)
    (w : World σ) :
    (examineAll selection ((c :: checks).map Check.analyzer)).run source deadline w =
      match runOver? deadline w.moment with
      | some f => (.error f, w)
      | none =>
        match (c.scan selection).run source deadline w with
        | (.error e, w₁) => (.error e, w₁)
        | (.ok found, w₁) =>
          match (examineAll selection (checks.map Check.analyzer)).run source deadline w₁ with
          | (.error e, w₂) => (.error e, w₂)
          | (.ok others, w₂) => (.ok (found ++ others), w₂) := by
  rw [examineAll_cons, run_bind, run_check]
  cases runOver? deadline w.moment with
  | some f => rfl
  | none =>
    simp only
    rw [run_bind]
    rcases (c.scan selection).run source deadline w with ⟨e | found, w₁⟩
    · rfl
    · simp only
      rw [run_bind]
      rcases (examineAll selection (checks.map Check.analyzer)).run source deadline w₁ with
        ⟨e | others, w₂⟩ <;> rfl

/-- The failing objects that a check sees in a run: those of its scan in the world that the scans
before it leave. -/
def SeenIn (source : Source σ) (deadline : Option Deadline) (selection : Selection)
    (checks : List Check) (w : World σ) (c : Check) (failing : List Failing) : Prop :=
  ∃ former later ds v, checks = former ++ c :: later ∧
    (examineAll selection (former.map Check.analyzer)).run source deadline w = (.ok ds, v) ∧
      failing = c.seen source deadline selection v

/-- How far a run of checks comes: some scans are finished, at most one is started and fails, and
the others wait. The finished ones alone would succeed, with diagnoses `ds`, and leave the world
`w₁`. -/
structure ComesTo (source : Source σ) (deadline : Option Deadline) (selection : Selection)
    (checks : List Check) (w : World σ) (finished started : List Scanned) (waiting : List Check)
    (ds : List Diagnosis) (w₁ : World σ) : Prop where
  checks_eq : checks = finished.map Prod.fst ++ started.map Prod.fst ++ waiting
  started_le : started.length ≤ 1
  run_finished : (examineAll selection ((finished.map Prod.fst).map Check.analyzer)).run source
    deadline w = (.ok ds, w₁)
  inBlocks : InBlocks ds finished
  seenIn : ∀ p ∈ finished ++ started, SeenIn source deadline selection checks w p.1 p.2
  nodup : ∀ p ∈ finished ++ started,
    ((p.2.map Check.mark).map (Gauge.Mark.series p.1.kind)).Nodup
  gauge : ((examineAll selection (checks.map Check.analyzer)).run source deadline w).2.gauge =
    w.gauge.map (·.applyAll (Scanned.entries (finished ++ started)))
  ok : ∀ all : List Diagnosis,
    ((examineAll selection (checks.map Check.analyzer)).run source deadline w).1 = .ok all →
      started = [] ∧ waiting = [] ∧ all = ds

namespace ComesTo

variable {selection : Selection} {checks : List Check} {c : Check} {w w₁ : World σ}

/-- A run without checks comes to its end. -/
theorem finish (w : World σ) : ComesTo source deadline selection [] w [] [] [] [] w where
  checks_eq := rfl
  started_le := Nat.zero_le _
  run_finished := rfl
  inBlocks := .nil
  seenIn := nofun
  nodup := nofun
  gauge := by simp [examineAll, Scanned.entries]
  ok := fun _ h ↦ ⟨rfl, rfl, (Except.ok.inj h).symm⟩

/-- A run that is over before its first scan comes to nothing. -/
theorem stopped {f : Fault} (hover : runOver? deadline w.moment = some f) :
    ComesTo source deadline selection (c :: checks) w [] [] (c :: checks) [] w := by
  have hrun : (examineAll selection ((c :: checks).map Check.analyzer)).run source deadline w =
      (.error f, w) := by
    rw [run_examineAll_cons, hover]
  exact {
    checks_eq := rfl
    started_le := Nat.zero_le _
    run_finished := rfl
    inBlocks := .nil
    seenIn := nofun
    nodup := nofun
    gauge := by
      rw [hrun]
      simp [Scanned.entries]
    ok := fun _ h ↦ by
      rw [hrun] at h
      cases h }

/-- A run whose first scan fails has started it and comes no further. -/
theorem failed (hc : c ∈ Check.builtin) (hkeyed : c.ListsKeyed source selection)
    (hover : runOver? deadline w.moment = none) {e : Fault}
    (hscan : (c.scan selection).run source deadline w = (.error e, w₁)) :
    ComesTo source deadline selection (c :: checks) w [] [(c, c.seen source deadline selection w)]
      checks [] w := by
  have hrun : (examineAll selection ((c :: checks).map Check.analyzer)).run source deadline w =
      (.error e, w₁) := by
    rw [run_examineAll_cons, hover, hscan]
  have hgauge : ((c.scan selection).run source deadline w).2.gauge = _ :=
    Check.gauge_scan hc hkeyed w
  rw [hscan] at hgauge
  exact {
    checks_eq := rfl
    started_le := Nat.le_refl _
    run_finished := rfl
    inBlocks := .nil
    seenIn := fun p hp ↦ by
      rw [List.mem_singleton.mp hp]
      exact ⟨[], checks, [], w, rfl, rfl, rfl⟩
    nodup := fun p hp ↦ by
      rw [List.mem_singleton.mp hp]
      exact Check.nodup_series_seen hkeyed w
    gauge := by
      rw [hrun]
      simpa [Scanned.entries] using hgauge
    ok := fun _ h ↦ by
      rw [hrun] at h
      cases h }

/-- A run whose first scan succeeds comes as far as the rest of the run after it. -/
theorem next (hc : c ∈ Check.builtin) (hkeyed : c.ListsKeyed source selection)
    (hover : runOver? deadline w.moment = none) {found : List Diagnosis}
    (hscan : (c.scan selection).run source deadline w = (.ok found, w₁))
    {finished started : List Scanned} {waiting : List Check} {ds : List Diagnosis} {w₂ : World σ}
    (h : ComesTo source deadline selection checks w₁ finished started waiting ds w₂) :
    ComesTo source deadline selection (c :: checks) w
      ((c, c.seen source deadline selection w) :: finished) started waiting (found ++ ds) w₂ := by
  have hrun (checks : List Check) :
      (examineAll selection ((c :: checks).map Check.analyzer)).run source deadline w =
        match (examineAll selection (checks.map Check.analyzer)).run source deadline w₁ with
        | (.error e, w₂) => (.error e, w₂)
        | (.ok others, w₂) => (.ok (found ++ others), w₂) := by
    rw [run_examineAll_cons, hover]
    simp only [hscan]
  have hgauge : ((c.scan selection).run source deadline w).2.gauge = _ :=
    Check.gauge_scan hc hkeyed w
  rw [hscan] at hgauge
  have hrest := h.gauge
  rw [hgauge, Option.map_map] at hrest
  have hok := h.ok
  rcases hothers : (examineAll selection (checks.map Check.analyzer)).run source deadline w₁ with
    ⟨r, w'⟩
  rw [hothers] at hrest hok
  exact {
    checks_eq := by
      rw [h.checks_eq]
      rfl
    started_le := h.started_le
    run_finished := by
      rw [List.map_cons, hrun, h.run_finished]
    inBlocks := .cons (Check.forall₂_of_run_scan hkeyed hscan) h.inBlocks
    seenIn := fun p hp ↦ by
      rcases List.mem_cons.mp hp with rfl | hp
      · exact ⟨[], checks, [], w, rfl, rfl, rfl⟩
      · obtain ⟨former, later, ds, v, rfl, hformer, hseen⟩ := h.seenIn p hp
        exact ⟨c :: former, later, found ++ ds, v, rfl, by rw [hrun, hformer], hseen⟩
    nodup := fun p hp ↦ by
      rcases List.mem_cons.mp hp with rfl | hp
      · exact Check.nodup_series_seen hkeyed w
      · exact h.nodup p hp
    gauge := by
      rw [hrun, hothers]
      simp only [Scanned.entries, List.cons_append, List.flatMap_cons, Gauge.applyAll_append]
      cases r <;> exact hrest
    ok := fun all hall ↦ by
      rw [hrun, hothers] at hall
      cases r with
      | error e => cases hall
      | ok others =>
        obtain ⟨hstarted, hwaiting, rfl⟩ := hok others rfl
        exact ⟨hstarted, hwaiting, (Except.ok.inj hall).symm⟩ }

end ComesTo

/-- Every run comes to some point. -/
theorem exists_comesTo {checks : List Check} (hchecks : ∀ c ∈ checks, c ∈ Check.builtin)
    {selection : Selection} (hkeyed : ∀ c ∈ checks, c.ListsKeyed source selection)
    (deadline : Option Deadline) (w : World σ) :
    ∃ finished started waiting ds w₁,
      ComesTo source deadline selection checks w finished started waiting ds w₁ := by
  induction checks generalizing w with
  | nil => exact ⟨[], [], [], [], w, .finish w⟩
  | cons c checks ih =>
    have hc := hchecks c List.mem_cons_self
    have hck := hkeyed c List.mem_cons_self
    cases hover : runOver? deadline w.moment with
    | some f => exact ⟨_, _, _, _, _, .stopped hover⟩
    | none =>
      rcases hscan : (c.scan selection).run source deadline w with ⟨e | found, w₁⟩
      · exact ⟨_, _, _, _, _, .failed hc hck hover hscan⟩
      · obtain ⟨finished, started, waiting, ds, w₂, h⟩ := ih
          (fun d hd ↦ hchecks d (List.mem_cons_of_mem c hd))
          (fun d hd ↦ hkeyed d (List.mem_cons_of_mem c hd)) w₁
        exact ⟨_, _, _, _, _, .next hc hck hover hscan h⟩

/-- The kinds of finished scans export what their diagnoses say, and a started one what it has
seen. -/
theorem ComesTo.exports {selection : Selection} {checks : List Check} {w w₁ : World σ}
    {finished started : List Scanned} {waiting : List Check} {ds : List Diagnosis}
    (h : ComesTo source deadline selection checks w finished started waiting ds w₁)
    (hkinds : (checks.map Check.kind).Nodup) (g : Gauge) :
    (∀ c ∈ finished.map Prod.fst, ∃ failing, SeenIn source deadline selection checks w c failing ∧
        List.Forall₂ c.Diagnoses (ds.filter fun d ↦ d.kind = c.kind) failing ∧
          c.Exports g (g.applyAll (Scanned.entries (finished ++ started))) failing) ∧
      (∀ c ∈ started.map Prod.fst, ∃ failing,
        SeenIn source deadline selection checks w c failing ∧
          c.Exports g (g.applyAll (Scanned.entries (finished ++ started))) failing) ∧
      ∀ kind ∉ (finished.map Prod.fst ++ started.map Prod.fst).map Check.kind,
        Gauge.AgreeOn kind (g.applyAll (Scanned.entries (finished ++ started))) g := by
  rw [h.checks_eq, ← List.map_append, List.map_append, List.nodup_append, List.map_map] at hkinds
  have hparts : ((finished ++ started).map fun p ↦ p.1.kind).Nodup := hkinds.1
  have hfinished : (finished.map fun p ↦ p.1.kind).Nodup := by
    rw [List.map_append] at hparts
    exact (List.nodup_append.mp hparts).1
  refine ⟨fun c hc ↦ ?_, fun c hc ↦ ?_, fun kind hkind ↦ ?_⟩
  · obtain ⟨p, hp, rfl⟩ := List.mem_map.mp hc
    have hp' := List.mem_append_left started hp
    exact ⟨p.2, h.seenIn p hp', h.inBlocks.forall₂_filter hfinished hp,
      exports_parts hparts h.nodup g hp'⟩
  · obtain ⟨p, hp, rfl⟩ := List.mem_map.mp hc
    have hp' := List.mem_append_right finished hp
    exact ⟨p.2, h.seenIn p hp', exports_parts hparts h.nodup g hp'⟩
  · rw [← List.map_append, List.map_map] at hkind
    exact agreeOn_parts hkind g

/-- What a run of built-in analyzers of different kinds leaves of the gauge, if the objects of every
listing have different keys, all of them texts. A run that succeeds leaves each kind with the series
of its diagnoses, each with the number of failures, and all other kinds as they were. A run that
fails does so for the scans that are finished; the one that is started leaves the series of the
failing objects whose detection had returned; and all other kinds are as they were. In both cases
the series of a kind are exactly these if and only if no other series of the kind was stale before
the run, that is, exported without being tracked, and all numbers are in range (`Check.Exports`). -/
theorem examineAll_gauge {checks : List Check} (hchecks : ∀ c ∈ checks, c ∈ Check.builtin)
    (hkinds : (checks.map Check.kind).Nodup) {selection : Selection}
    (hkeyed : ∀ c ∈ checks, c.ListsKeyed source selection) {w : World σ} {g : Gauge}
    (hg : w.gauge = some g) :
    ∃ g', ((examineAll selection (checks.map Check.analyzer)).run source deadline w).2.gauge =
        some g' ∧
      match ((examineAll selection (checks.map Check.analyzer)).run source deadline w).1 with
      | .ok ds =>
        (∀ c ∈ checks, ∃ failing, SeenIn source deadline selection checks w c failing ∧
          List.Forall₂ c.Diagnoses (ds.filter fun d ↦ d.kind = c.kind) failing ∧
            c.Exports g g' failing) ∧
        ∀ kind ∉ checks.map Check.kind, Gauge.AgreeOn kind g' g
      | .error _ =>
        ∃ finished started waiting ds w₁, checks = finished ++ started ++ waiting ∧
          started.length ≤ 1 ∧
          (examineAll selection (finished.map Check.analyzer)).run source deadline w =
            (.ok ds, w₁) ∧
          (∀ c ∈ finished, ∃ failing, SeenIn source deadline selection checks w c failing ∧
            List.Forall₂ c.Diagnoses (ds.filter fun d ↦ d.kind = c.kind) failing ∧
              c.Exports g g' failing) ∧
          (∀ c ∈ started, ∃ failing, SeenIn source deadline selection checks w c failing ∧
            c.Exports g g' failing) ∧
          ∀ kind ∉ (finished ++ started).map Check.kind, Gauge.AgreeOn kind g' g := by
  obtain ⟨finished, started, waiting, ds, w₁, h⟩ := exists_comesTo hchecks hkeyed deadline w
  have hgauge := h.gauge
  rw [hg, Option.map_some] at hgauge
  refine ⟨_, hgauge, ?_⟩
  obtain ⟨hfinished, hstarted, hothers⟩ := h.exports hkinds g
  rcases hresult : ((examineAll selection (checks.map Check.analyzer)).run source deadline w).1
    with e | all
  · exact ⟨finished.map Prod.fst, started.map Prod.fst, waiting, ds, w₁, h.checks_eq,
      by rw [List.length_map]; exact h.started_le, h.run_finished, hfinished, hstarted, hothers⟩
  · obtain ⟨rfl, rfl, rfl⟩ := h.ok all hresult
    have hall : finished.map Prod.fst = checks := by
      simpa using h.checks_eq.symm
    rw [List.map_nil, List.append_nil] at hothers
    rw [hall] at hfinished hothers
    exact ⟨hfinished, hothers⟩

end Run

/-- After sets and resets that leave nothing stale, the series of a kind are exactly those of the
failing objects. -/
theorem Check.Exports.exact {c : Check} {before after : Gauge} {failing : List Failing}
    (h : c.Exports before after failing) (hcalls : before.Calls)
    (hcounts : ∀ e ∈ failing, e.2.length.log2 < 1023) :
    Gauge.Exact after c.kind (failing.map mark) := by
  refine h.2.mpr ⟨fun s _ hstale ↦ absurd hstale (hcalls.not_stale s), fun m hm ↦ ?_⟩
  obtain ⟨e, he, rfl⟩ := List.mem_map.mp hm
  exact ⟨_, Value.toDouble_natCast (hcounts e he)⟩

namespace TwoPods

/-- The world before a run, with a gauge that nothing was done with. -/
def measured : World Unit :=
  { start with gauge := some {} }

theorem examineAll_gauge_twoPods :
    (∀ c ∈ [Check.log, Check.pod], c ∈ Check.builtin) ∧
      ([Check.log, Check.pod].map Check.kind).Nodup ∧
      (∀ c ∈ [Check.log, Check.pod], c.ListsKeyed cluster {}) ∧ measured.gauge = some {} ∧
      ∃ g', ((examineAll {} ([Check.log, Check.pod].map Check.analyzer)).run cluster none
          measured).2.gauge = some g' ∧
        (∀ c ∈ [Check.log, Check.pod], ∃ failing,
          SeenIn cluster none {} [Check.log, Check.pod] measured c failing ∧
            List.Forall₂ c.Diagnoses ([diagnosis].filter fun d ↦ d.kind = c.kind) failing ∧
              c.Exports {} g' failing) ∧
        ∀ kind ∉ [Check.log, Check.pod].map Check.kind, Gauge.AgreeOn kind g' {} := by
  have hchecks : ∀ c ∈ [Check.log, Check.pod], c ∈ Check.builtin := by
    simp [Check.builtin, Check.core, Check.additional]
  have hkinds : ([Check.log, Check.pod].map Check.kind).Nodup := by decide
  have hpods : Keyed [calm, stuck] := by
    refine ⟨fun o ho ↦ ?_, List.pairwise_pair.mpr fun key hcalm hstuck ↦ ?_⟩
    · simp only [List.mem_cons, List.not_mem_nil, or_false] at ho
      rcases ho with rfl | rfl
      · exact ⟨_, rfl⟩
      · exact ⟨_, rfl⟩
    · cases hcalm
      cases hstuck
  have hkeyed : ∀ c ∈ [Check.log, Check.pod], c.ListsKeyed cluster {} := by
    intro c hc limit m s objects hobjects
    have hlisted : objects = [calm, stuck] := by
      simp only [List.mem_cons, List.not_mem_nil, or_false] at hc
      rcases hc with rfl | rfl
      · exact (Except.ok.inj hobjects).symm
      · exact (Except.ok.inj hobjects).symm
    exact hlisted ▸ hpods
  have hresult : ((examineAll {} ([Check.log, Check.pod].map Check.analyzer)).run cluster none
      measured).1 = .ok [diagnosis] := rfl
  obtain ⟨g', hg', hrun⟩ :=
    @examineAll_gauge _ cluster none _ hchecks hkinds _ hkeyed measured {} rfl
  rw [hresult] at hrun
  exact ⟨hchecks, hkinds, hkeyed, rfl, g', hg', hrun⟩

end TwoPods

/-! ### A series that stays -/

namespace StaleSeries

/-- A gauge after a set with a number that is out of range. -/
def gauge : Gauge :=
  ({} : Gauge).set "Pod" (.str "p") (.str "n") (.int (Nat.pow 10 400))

/-- A cluster without objects. -/
def cluster : Source Unit where
  answer
    | .list _ _ _, _, m, s => (.ok [], m, s)
    | .get _ _ _, _, m, s => (.ok none, m, s)
    | .events _ _ _, _, m, s => (.ok [], m, s)
    | .log _ _ _ _, _, m, s => (.ok none, m, s)

/-- A run over pods succeeds and finds nothing, and yet a series of a pod stays. -/
theorem examineAll_keeps_stale :
    let r := (examineAll {} [Check.pod.analyzer]).run cluster none
      { moment := ⟨.zero, false⟩, cluster := (), gauge := some gauge }
    r.1 = .ok [] ∧ (r.2.gauge.map fun g ↦ g.value? ⟨"Pod", "p", "n"⟩) = some (some .zero) := by
  exact ⟨rfl, by decide +kernel⟩

end StaleSeries

end ClusterDiagnosis
