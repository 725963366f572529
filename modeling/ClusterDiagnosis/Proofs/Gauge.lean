import ClusterDiagnosis.Gauge
import ClusterDiagnosis.Proofs.Number.Range
import Mathlib.Data.List.Nodup
import Mathlib.Tactic.Common

/-!
# Series of a gauge

A reset drops the tracked series of a kind and a set gives one series a value; both leave every
other series as it was. Setting some series of a kind after a reset thus leaves the kind with just
these series, if the reset dropped all others. It does not drop a stale series, one that is exported
and not tracked. Such a series comes into being where a set fails, or where its labels cannot stand
in a table; sets that neither fail nor have such labels make none (`Calls.not_stale`).
-/

set_option autoImplicit false
set_option relaxedAutoImplicit false

namespace ClusterDiagnosis

/-- A whole number that is not too large has a floating point number. -/
theorem Value.toDouble_natCast {n : Nat} (h : n.log2 < 1023) :
    (Value.int n).toDouble = .ok (.ofNat n) := by
  rw [Value.toDouble, Double.ofInt?_natCast h]

namespace Gauge

/-! ### The value of a series -/

/-- A sample is found under its series, and other series keep theirs. -/
theorem find?_put (s t : Series) (d : Double) (samples : List (Series × Double)) :
    ((put s d samples).find? fun e ↦ e.1 == t).map Prod.snd =
      if t = s then some d else (samples.find? fun e ↦ e.1 == t).map Prod.snd := by
  induction samples with
  | nil =>
    by_cases hts : t = s
    · simp [put, hts]
    · simp [put, hts, Ne.symm hts]
  | cons e samples ih =>
    obtain ⟨u, x⟩ := e
    by_cases hus : u = s
    · by_cases hts : t = s
      · simp [put, hus, hts]
      · simp [put, hus, hts, Ne.symm hts]
    · by_cases hut : u = t
      · simp [put, hut, show t ≠ s from hut ▸ hus]
      · simpa [put, hus, hut] using ih

/-- The value of a series that is set to a count: the count, if it is a number in range, and else
the value it had before, or zero. -/
def shown (before : Option Double) (count : Value) : Double :=
  match count.toDouble with
  | .ok d => d
  | .error _ => before.getD .zero

/-- Setting a series shows the count, or what was shown if it is no number, and zero at first. -/
theorem value?_set (g : Gauge) (kind : String) (object scope count : Value) (s : Series) :
    (g.set kind object scope count).value? s =
      if s = ⟨kind, object.text, scope.text⟩ then some (shown (g.value? s) count)
      else g.value? s := by
  unfold set shown
  cases count.toDouble with
  | error f =>
    by_cases hold : (g.value? ⟨kind, object.text, scope.text⟩).isSome
    · simp only [if_pos hold]
      split_ifs with hs
      · obtain ⟨d, hd⟩ := Option.isSome_iff_exists.mp hold
        rw [hs, hd, Option.getD_some]
      · rfl
    · simp only [if_neg hold]
      rw [value?, find?_put]
      split_ifs with hs
      · rw [hs, Option.not_isSome_iff_eq_none.mp hold, Option.getD_none]
      · rfl
  | ok d =>
    simp only
    split <;> exact find?_put _ _ _ _

/-- A reset drops the series of the kind that are tracked. -/
theorem value?_reset (g : Gauge) (kind : String) (s : Series) :
    (g.reset kind).value? s = if s.kind = kind ∧ s ∈ g.tracked then none else g.value? s := by
  have hdropped : (g.tracked.filter fun t ↦ t.kind == kind).contains s = true ↔
      s.kind = kind ∧ s ∈ g.tracked := by
    rw [List.contains_iff_mem, List.mem_filter, beq_iff_eq, and_comm]
  rw [value?, reset, List.find?_filter]
  split_ifs with hs
  · rw [List.find?_eq_none.mpr, Option.map_none]
    intro e _ he
    simp only [Bool.not_eq_true', beq_iff_eq, decide_eq_true_eq] at he
    rw [he.2, hdropped.mpr hs] at he
    exact absurd he.1 (by decide)
  · refine congrArg (Option.map Prod.snd) (congrArg (List.find? · g.samples) (funext fun e ↦ ?_))
    by_cases he : e.1 = s
    · simpa [he] using not_and_or.mp fun h ↦ hs h.symm
    · simp [he]

/-! ### What is tracked -/

/-- After a reset no series of the kind is tracked. -/
theorem mem_tracked_reset {g : Gauge} {kind : String} {s : Series} :
    s ∈ (g.reset kind).tracked ↔ s ∈ g.tracked ∧ s.kind ≠ kind := by
  simp [reset]

/-- Setting a series has no part in whether another one is tracked. -/
theorem mem_tracked_set {g : Gauge} {kind : String} {object scope count : Value} {s : Series}
    (hs : s ≠ ⟨kind, object.text, scope.text⟩) :
    s ∈ (g.set kind object scope count).tracked ↔ s ∈ g.tracked := by
  unfold set
  cases count.toDouble with
  | error f =>
    simp only
    split <;> rfl
  | ok d =>
    simp only
    split
    · simp [hs]
    · rfl

/-- A set that does not fail, and whose labels can stand in a table, tracks its series. -/
theorem mem_tracked_set_self {g : Gauge} {kind : String} {object scope count : Value} {d : Double}
    (hobject : object.isKey = true) (hscope : scope.isKey = true) (hcount : count.toDouble = .ok d)
    {s : Series} (hs : s ∈ g.tracked ∨ s = ⟨kind, object.text, scope.text⟩) :
    s ∈ (g.set kind object scope count).tracked := by
  unfold set
  rw [hcount, hobject, hscope]
  simp only [Bool.true_and]
  by_cases htracked : (⟨kind, object.text, scope.text⟩ : Series) ∈ g.tracked
  · rw [if_neg (by simpa using htracked)]
    exact hs.elim id fun h ↦ h ▸ htracked
  · rw [if_pos (by simpa using htracked)]
    simpa using hs

/-! ### Stale series -/

/-- The value of a series that a reset of its kind leaves. -/
def left? (g : Gauge) (s : Series) : Option Double :=
  (g.reset s.kind).value? s

/-- A series that a reset of its kind does not drop. -/
def Stale (g : Gauge) (s : Series) : Prop :=
  g.left? s ≠ none

/-- A stale series is one that is shown and not tracked. -/
theorem stale_iff {g : Gauge} {s : Series} : g.Stale s ↔ g.value? s ≠ none ∧ s ∉ g.tracked := by
  rw [Stale, left?, value?_reset]
  by_cases hs : s ∈ g.tracked <;> simp [hs]

/-- The gauges that sets and resets lead to, if no set fails and all labels can stand in a
table. -/
inductive Calls : Gauge → Prop where
  | fresh : Calls {}
  | reset {g : Gauge} (kind : String) (hg : Calls g) : Calls (g.reset kind)
  | set {g : Gauge} (kind : String) {object scope count : Value} {d : Double} (hg : Calls g)
      (hobject : object.isKey = true) (hscope : scope.isKey = true)
      (hcount : count.toDouble = .ok d) : Calls (g.set kind object scope count)

/-- Sets and resets that all succeed leave no stale series. -/
theorem Calls.not_stale {g : Gauge} (hg : Calls g) (s : Series) : ¬g.Stale s := by
  rw [stale_iff]
  rintro ⟨hvalue, hs⟩
  induction hg with
  | fresh => exact hvalue rfl
  | @reset g kind _ ih =>
    rw [value?_reset] at hvalue
    split_ifs at hvalue with hkind
    · exact hvalue rfl
    · refine ih hvalue fun htracked ↦ ?_
      exact hs (mem_tracked_reset.mpr ⟨htracked, fun h ↦ hkind ⟨h, htracked⟩⟩)
  | @set g kind object scope count d _ hobject hscope hcount ih =>
    rw [value?_set] at hvalue
    split_ifs at hvalue with hlabels
    · exact hs (mem_tracked_set_self hobject hscope hcount (Or.inr hlabels))
    · exact ih hvalue fun h ↦ hs (mem_tracked_set_self hobject hscope hcount (Or.inl h))

/-! ### The series of a kind -/

/-- Two gauges with the same series of a kind, tracked alike. -/
def AgreeOn (kind : String) (g g' : Gauge) : Prop :=
  ∀ s, s.kind = kind → g.value? s = g'.value? s ∧ (s ∈ g.tracked ↔ s ∈ g'.tracked)

theorem AgreeOn.refl (kind : String) (g : Gauge) : AgreeOn kind g g :=
  fun _ _ ↦ ⟨rfl, Iff.rfl⟩

theorem AgreeOn.symm {kind : String} {g g' : Gauge} (h : AgreeOn kind g g') : AgreeOn kind g' g :=
  fun s hs ↦ ⟨(h s hs).1.symm, (h s hs).2.symm⟩

/-- Agreement on a kind goes from one gauge to the next. -/
theorem AgreeOn.trans {kind : String} {g g' g'' : Gauge} (h : AgreeOn kind g g')
    (h' : AgreeOn kind g' g'') : AgreeOn kind g g'' :=
  fun s hs ↦ ⟨(h s hs).1.trans (h' s hs).1, (h s hs).2.trans (h' s hs).2⟩

/-- The kind that an entry is about. -/
def entryKind : GaugeEntry → String
  | .reset kind => kind
  | .set kind _ _ _ => kind

/-- An entry about another kind changes nothing. -/
theorem agreeOn_apply {kind : String} {entry : GaugeEntry} (h : entryKind entry ≠ kind)
    (g : Gauge) : AgreeOn kind (g.apply entry) g := by
  intro s hs
  cases entry with
  | reset kind' =>
    have hkind : s.kind ≠ kind' := fun heq ↦ h (heq.symm.trans hs)
    refine ⟨?_, ?_⟩
    · rw [apply, value?_reset, if_neg fun hs ↦ hkind hs.1]
    · rw [apply, mem_tracked_reset, and_iff_left hkind]
  | set kind' object scope count =>
    have hlabels : s ≠ ⟨kind', object.text, scope.text⟩ := by
      rintro rfl
      exact h hs
    exact ⟨by rw [apply, value?_set, if_neg hlabels], by rw [apply, mem_tracked_set hlabels]⟩

/-- The gauge after some changes. -/
def applyAll (g : Gauge) (entries : List GaugeEntry) : Gauge :=
  entries.foldl apply g

@[simp] theorem applyAll_nil (g : Gauge) : g.applyAll [] = g :=
  rfl

@[simp] theorem applyAll_cons (g : Gauge) (entry : GaugeEntry) (entries : List GaugeEntry) :
    g.applyAll (entry :: entries) = (g.apply entry).applyAll entries :=
  rfl

/-- Entries are applied one list after the other. -/
theorem applyAll_append (g : Gauge) (entries entries' : List GaugeEntry) :
    g.applyAll (entries ++ entries') = (g.applyAll entries).applyAll entries' :=
  List.foldl_append

/-- Entries of other kinds do not change what a gauge shows for a kind. -/
theorem agreeOn_applyAll {kind : String} {entries : List GaugeEntry}
    (h : ∀ entry ∈ entries, entryKind entry ≠ kind) (g : Gauge) :
    AgreeOn kind (g.applyAll entries) g := by
  induction entries generalizing g with
  | nil => exact .refl kind g
  | cons entry entries ih =>
    exact (ih (fun e he ↦ h e (List.mem_cons_of_mem _ he)) _).trans
      (agreeOn_apply (h entry List.mem_cons_self) g)

/-! ### A kind after a reset and some sets -/

/-- A count for a series: the labels of the object as they are, and how many failures it has. -/
structure Mark where
  object : Value
  scope : Value
  count : Nat

/-- The series of a kind that a mark is for. -/
def Mark.series (kind : String) (m : Mark) : Series :=
  ⟨kind, m.object.text, m.scope.text⟩

/-- The change that makes a mark. -/
def Mark.entry (kind : String) (m : Mark) : GaugeEntry :=
  .set kind m.object m.scope (.int m.count)

/-- What the series of a kind are after some marks: the series of each mark has its count, or, if
that is out of range, the value that a reset left or zero; every other series is as a reset left
it. -/
structure Shows (before after : Gauge) (kind : String) (marks : List Mark) : Prop where
  nodup : (marks.map (Mark.series kind)).Nodup
  marked : ∀ m ∈ marks, after.value? (m.series kind) =
    some (shown (before.left? (m.series kind)) (.int m.count))
  unmarked : ∀ s, s.kind = kind → s ∉ marks.map (Mark.series kind) →
    after.value? s = before.left? s

/-- The series of a kind are exactly those of the marks, and each has its count. -/
def Exact (g : Gauge) (kind : String) (marks : List Mark) : Prop :=
  ∀ s d, s.kind = kind → (g.value? s = some d ↔
    ∃ m ∈ marks, m.series kind = s ∧ (Value.int m.count).toDouble = .ok d)

/-- Marks on different series are all shown, and every other series is as it was. -/
theorem value?_applyAll_marks (g : Gauge) {kind : String} {marks : List Mark}
    (hnodup : (marks.map (Mark.series kind)).Nodup) :
    (∀ m ∈ marks, (g.applyAll (marks.map (Mark.entry kind))).value? (m.series kind) =
        some (shown (g.value? (m.series kind)) (.int m.count))) ∧
      ∀ s, s ∉ marks.map (Mark.series kind) →
        (g.applyAll (marks.map (Mark.entry kind))).value? s = g.value? s := by
  induction marks generalizing g with
  | nil => exact ⟨nofun, fun _ _ ↦ rfl⟩
  | cons m marks ih =>
    obtain ⟨hm, hnodup⟩ := List.nodup_cons.mp hnodup
    have hset (s : Series) : (g.apply (m.entry kind)).value? s =
        if s = m.series kind then some (shown (g.value? s) (.int m.count)) else g.value? s :=
      value?_set _ _ _ _ _ _
    obtain ⟨hmarked, hunmarked⟩ := ih (g.apply (m.entry kind)) hnodup
    rw [List.map_cons, applyAll_cons]
    constructor
    · intro n hn
      rcases List.mem_cons.mp hn with rfl | hn
      · rw [hunmarked _ hm, hset, if_pos rfl]
      · have hne : n.series kind ≠ m.series kind := fun h ↦
          hm (h ▸ List.mem_map_of_mem hn)
        rw [hmarked n hn, hset, if_neg hne]
    · intro s hs
      rw [List.map_cons, List.mem_cons, not_or] at hs
      rw [hunmarked s hs.2, hset, if_neg hs.1]

/-- A reset followed by marks for different series. -/
theorem shows_applyAll (g : Gauge) {kind : String} {marks : List Mark}
    (hnodup : (marks.map (Mark.series kind)).Nodup) :
    Shows g (g.applyAll (.reset kind :: marks.map (Mark.entry kind))) kind marks := by
  obtain ⟨hmarked, hunmarked⟩ := value?_applyAll_marks (g.reset kind) hnodup
  exact ⟨hnodup, hmarked, fun s hs hnot ↦ by rw [left?, hs]; exact hunmarked s hnot⟩

/-- What a reset leaves depends on the gauge's series of the kind alone. -/
theorem left?_congr {kind : String} {g g' : Gauge} (h : AgreeOn kind g g') {s : Series}
    (hs : s.kind = kind) : g.left? s = g'.left? s := by
  rw [left?, left?, value?_reset, value?_reset, (h s hs).1]
  simp only [(h s hs).2]

/-- What the series of a kind are depends on the series of this kind alone. -/
theorem Shows.congr {kind : String} {before before' after after' : Gauge} {marks : List Mark}
    (h : Shows before after kind marks) (hbefore : AgreeOn kind before before')
    (hafter : AgreeOn kind after after') : Shows before' after' kind marks := by
  refine ⟨h.nodup, fun m hm ↦ ?_, fun s hs hnot ↦ ?_⟩
  · rw [← (hafter (m.series kind) rfl).1, h.marked m hm, left?_congr hbefore rfl]
  · rw [← (hafter s hs).1, h.unmarked s hs hnot, left?_congr hbefore hs]

/-- The series of a kind are exactly those of the marks, with their counts, if and only if no other
series of the kind was stale and all counts are in range. -/
theorem Shows.exact_iff {kind : String} {before after : Gauge} {marks : List Mark}
    (h : Shows before after kind marks) :
    Exact after kind marks ↔
      (∀ s, s.kind = kind → before.Stale s → s ∈ marks.map (Mark.series kind)) ∧
        ∀ m ∈ marks, ∃ d, (Value.int m.count).toDouble = .ok d := by
  constructor
  · intro hexact
    constructor
    · intro s hs hstale
      by_contra hnot
      obtain ⟨d, hd⟩ := Option.ne_none_iff_exists'.mp hstale
      rw [← h.unmarked s hs hnot] at hd
      obtain ⟨m, hm, rfl, -⟩ := (hexact s d hs).mp hd
      exact hnot (List.mem_map_of_mem hm)
    · intro m hm
      obtain ⟨n, hn, hseries, hcount⟩ := (hexact _ _ rfl).mp (h.marked m hm)
      obtain rfl := List.inj_on_of_nodup_map h.nodup hn hm hseries
      exact ⟨_, hcount⟩
  · rintro ⟨hstale, hcounts⟩ s d hs
    have hshown (m : Mark) (hm : m ∈ marks) {e : Double}
        (he : (Value.int m.count).toDouble = .ok e) : after.value? (m.series kind) = some e := by
      rw [h.marked m hm, shown, he]
    constructor
    · intro hd
      have hmem : s ∈ marks.map (Mark.series kind) := by
        by_contra hnot
        rw [h.unmarked s hs hnot] at hd
        exact hnot (hstale s hs (Option.ne_none_iff_exists'.mpr ⟨d, hd⟩))
      obtain ⟨m, hm, rfl⟩ := List.mem_map.mp hmem
      obtain ⟨e, he⟩ := hcounts m hm
      rw [hshown m hm he] at hd
      exact ⟨m, hm, rfl, Option.some.inj hd ▸ he⟩
    · rintro ⟨m, hm, rfl, hcount⟩
      exact hshown m hm hcount

end Gauge

end ClusterDiagnosis
