import ClusterDiagnosis.Proofs.Gauge
import Mathlib.Data.List.Induction

/-!
# What a gauge shows after its changes

A series should show the count of the last set of it that did not fail, as long as no reset of its
kind came later (`LastSet`). It does, but for one case: a set that fails for a series that shows
nothing leaves the series behind with the value zero, where no reset finds it, until a set of it
does not fail (`Stray`). `value?_after` says for every sequence of resets and sets what every series
shows then, what a further reset drops, and what a further set that fails does.
-/

set_option autoImplicit false
set_option relaxedAutoImplicit false

namespace ClusterDiagnosis.Gauge

/-- A change of a gauge from outside: the labels are texts and the count is a whole number. -/
inductive Change where
  | reset (kind : String)
  | set (s : Series) (count : Int)
  deriving DecidableEq

namespace Change

def entry : Change → GaugeEntry
  | reset kind => .reset kind
  | set s count => .set s.kind (.str s.object) (.str s.scope) (.int count)

/-- A set of a series that does not fail. -/
def Succeeds (s : Series) (c : Change) : Prop :=
  ∃ n d, c = set s n ∧ Double.ofInt? n = some d

/-- A set of a series that fails, because the count is beyond the range of numbers. -/
def Fails (s : Series) (c : Change) : Prop :=
  ∃ n, c = set s n ∧ Double.ofInt? n = none

/-- A change after which earlier sets of a series have no say. -/
def Supersedes (s : Series) (c : Change) : Prop :=
  c = reset s.kind ∨ c.Succeeds s

end Change

/-- The gauge that was fresh before some changes. -/
def after (history : List Change) : Gauge :=
  applyAll {} (history.map Change.entry)

/-- The gauge after one more change is the change applied to the gauge before. -/
theorem after_concat (history : List Change) (c : Change) :
    after (history ++ [c]) = (after history).apply c.entry := by
  rw [after, List.map_append, applyAll_append]
  rfl

/-- The last set of a series that did not fail had this count, and no reset of the kind came
later. -/
def LastSet (s : Series) (d : Double) (history : List Change) : Prop :=
  ∃ before n later, history = before ++ .set s n :: later ∧ Double.ofInt? n = some d ∧
    ∀ c ∈ later, ¬c.Supersedes s

/-- A set of a series failed while no earlier set counted, and none succeeded later. -/
def Stray (s : Series) (history : List Change) : Prop :=
  ∃ before c later, history = before ++ c :: later ∧ c.Fails s ∧
    (∀ d, ¬LastSet s d before) ∧ ∀ c' ∈ later, ¬c'.Succeeds s

/-! ### One change after the other -/

/-- A list with a last item, cut at an item that is that one or an earlier one. -/
theorem concat_eq_append_cons_iff {α : Type} {xs before later : List α} {x y : α} :
    xs ++ [x] = before ++ y :: later ↔
      (before = xs ∧ y = x ∧ later = []) ∨
        ∃ rest, later = rest ++ [x] ∧ xs = before ++ y :: rest := by
  constructor
  · intro h
    rcases List.eq_nil_or_concat later with rfl | ⟨rest, z, rfl⟩
    · obtain ⟨rfl, hx⟩ := List.append_inj' h rfl
      exact .inl ⟨rfl, (List.cons.inj hx).1.symm, rfl⟩
    · rw [List.concat_eq_append, ← List.cons_append, ← List.append_assoc] at h
      obtain ⟨hxs, hx⟩ := List.append_inj' h rfl
      obtain rfl := (List.cons.inj hx).1
      exact .inr ⟨rest, List.concat_eq_append, hxs⟩
  · rintro (⟨rfl, rfl, rfl⟩ | ⟨rest, rfl, rfl⟩)
    · rfl
    · rw [List.append_assoc, List.cons_append]

variable {s : Series} {d : Double} {history : List Change} {c : Change}

theorem not_lastSet_nil : ¬LastSet s d [] := by
  rintro ⟨before, n, later, h, -⟩
  exact absurd h (by simp)

theorem not_stray_nil : ¬Stray s [] := by
  rintro ⟨before, c, later, h, -⟩
  exact absurd h (by simp)

/-- What a series was last set to is told by the last change, unless that does not supersede it. -/
theorem lastSet_concat_iff : LastSet s d (history ++ [c]) ↔
    (∃ n, c = .set s n ∧ Double.ofInt? n = some d) ∨
      ¬c.Supersedes s ∧ LastSet s d history := by
  constructor
  · rintro ⟨before, n, later, h, hn, hlater⟩
    rcases concat_eq_append_cons_iff.mp h with ⟨-, hc, -⟩ | ⟨rest, rfl, hhistory⟩
    · exact .inl ⟨n, hc.symm, hn⟩
    · rw [List.forall_mem_append, List.forall_mem_singleton] at hlater
      exact .inr ⟨hlater.2, before, n, rest, hhistory, hn, hlater.1⟩
  · rintro (⟨n, rfl, hn⟩ | ⟨hc, before, n, rest, rfl, hn, hrest⟩)
    · exact ⟨history, n, [], rfl, hn, List.forall_mem_nil _⟩
    · refine ⟨before, n, rest ++ [c], by rw [List.append_assoc, List.cons_append], hn, ?_⟩
      exact List.forall_mem_append.mpr ⟨hrest, List.forall_mem_singleton.mpr hc⟩

/-- Whether a series strays is told by the last change, unless that does not succeed at it. -/
theorem stray_concat_iff : Stray s (history ++ [c]) ↔
    (c.Fails s ∧ ∀ d, ¬LastSet s d history) ∨ ¬c.Succeeds s ∧ Stray s history := by
  constructor
  · rintro ⟨before, c', later, h, hfails, hnone, hlater⟩
    rcases concat_eq_append_cons_iff.mp h with ⟨rfl, rfl, -⟩ | ⟨rest, rfl, hhistory⟩
    · exact .inl ⟨hfails, hnone⟩
    · rw [List.forall_mem_append, List.forall_mem_singleton] at hlater
      exact .inr ⟨hlater.2, before, c', rest, hhistory, hfails, hnone, hlater.1⟩
  · rintro (⟨hfails, hnone⟩ | ⟨hc, before, c', rest, rfl, hfails, hnone, hrest⟩)
    · exact ⟨history, c, [], rfl, hfails, hnone, List.forall_mem_nil _⟩
    · refine ⟨before, c', rest ++ [c], ?_, hfails, hnone, ?_⟩
      · rw [List.append_assoc, List.cons_append]
      exact List.forall_mem_append.mpr ⟨hrest, List.forall_mem_singleton.mpr hc⟩

/-- A change that is neither a reset of the kind of a series nor a set of it. -/
def Change.Elsewhere (s : Series) (c : Change) : Prop :=
  c ≠ .reset s.kind ∧ ∀ n, c ≠ .set s n

/-- To a series a change is a reset of its kind, a count that is a number or none, or elsewhere. -/
theorem Change.cases_of_series (s : Series) (c : Change) :
    c = .reset s.kind ∨ (∃ n d, c = .set s n ∧ Double.ofInt? n = some d) ∨
      (∃ n, c = .set s n ∧ Double.ofInt? n = none) ∨ c.Elsewhere s := by
  by_cases hreset : c = .reset s.kind
  · exact .inl hreset
  by_cases hset : ∃ n, c = .set s n
  · obtain ⟨n, rfl⟩ := hset
    cases hn : Double.ofInt? n with
    | none => exact .inr (.inr (.inl ⟨n, rfl, hn⟩))
    | some d => exact .inr (.inl ⟨n, d, rfl, hn⟩)
  · exact .inr (.inr (.inr ⟨hreset, fun n hn ↦ hset ⟨n, hn⟩⟩))

/-- Setting a series succeeds if the count is a number. -/
theorem Change.succeeds_set_iff {n : Int} :
    (Change.set s n).Succeeds s ↔ ∃ d, Double.ofInt? n = some d := by
  constructor
  · rintro ⟨m, d, h, hd⟩
    obtain rfl := (Change.set.inj h).2
    exact ⟨d, hd⟩
  · rintro ⟨d, hd⟩
    exact ⟨n, d, rfl, hd⟩

/-- After a reset of its kind a series was set to nothing. -/
theorem lastSet_concat_reset : ¬LastSet s d (history ++ [.reset s.kind]) := by
  rw [lastSet_concat_iff]
  rintro (⟨n, h, -⟩ | ⟨h, -⟩)
  · cases h
  · exact h (.inl rfl)

/-- A reset does not reach a stray series. -/
theorem stray_concat_reset : Stray s (history ++ [.reset s.kind]) ↔ Stray s history := by
  rw [stray_concat_iff]
  constructor
  · rintro (⟨⟨n, h, -⟩, -⟩ | ⟨-, h⟩)
    · cases h
    · exact h
  · refine fun h ↦ .inr ⟨?_, h⟩
    rintro ⟨n, d, h, -⟩
    cases h

/-- After a count that is a number the series was last set to it. -/
theorem lastSet_concat_of_some {n : Int} {e : Double} (hn : Double.ofInt? n = some e) :
    LastSet s d (history ++ [.set s n]) ↔ d = e := by
  rw [lastSet_concat_iff]
  constructor
  · rintro (⟨m, h, hd⟩ | ⟨h, -⟩)
    · rw [← (Change.set.inj h).2, hn] at hd
      exact (Option.some.inj hd).symm
    · exact absurd (.inr (Change.succeeds_set_iff.mpr ⟨e, hn⟩)) h
  · rintro rfl
    exact .inl ⟨n, rfl, hn⟩

/-- A count that is a number ends straying. -/
theorem not_stray_concat_of_some {n : Int} {e : Double} (hn : Double.ofInt? n = some e) :
    ¬Stray s (history ++ [.set s n]) := by
  rw [stray_concat_iff]
  rintro (⟨⟨m, h, hm⟩, -⟩ | ⟨h, -⟩)
  · rw [← (Change.set.inj h).2, hn] at hm
    cases hm
  · exact h (Change.succeeds_set_iff.mpr ⟨e, hn⟩)

/-- A count that is no number does not set the series. -/
theorem lastSet_concat_of_none {n : Int} (hn : Double.ofInt? n = none) :
    LastSet s d (history ++ [.set s n]) ↔ LastSet s d history := by
  rw [lastSet_concat_iff]
  constructor
  · rintro (⟨m, h, hd⟩ | ⟨-, h⟩)
    · rw [← (Change.set.inj h).2, hn] at hd
      cases hd
    · exact h
  · refine fun h ↦ .inr ⟨?_, h⟩
    rintro (h | h)
    · cases h
    · obtain ⟨e, he⟩ := Change.succeeds_set_iff.mp h
      rw [hn] at he
      cases he

/-- A count that is no number makes a series stray that was not set. -/
theorem stray_concat_of_none {n : Int} (hn : Double.ofInt? n = none) :
    Stray s (history ++ [.set s n]) ↔ (∀ d, ¬LastSet s d history) ∨ Stray s history := by
  rw [stray_concat_iff, Change.succeeds_set_iff, hn]
  have hfails : (Change.set s n).Fails s := ⟨n, rfl, hn⟩
  simp [hfails]

/-- A change elsewhere does not set the series. -/
theorem lastSet_concat_elsewhere (h : c.Elsewhere s) :
    LastSet s d (history ++ [c]) ↔ LastSet s d history := by
  rw [lastSet_concat_iff]
  constructor
  · rintro (⟨n, rfl, -⟩ | ⟨-, hlast⟩)
    · exact absurd rfl (h.2 n)
    · exact hlast
  · refine fun hlast ↦ .inr ⟨?_, hlast⟩
    rintro (hreset | ⟨n, e, hset, -⟩)
    · exact h.1 hreset
    · exact h.2 n hset

/-- A change elsewhere does not make the series stray. -/
theorem stray_concat_elsewhere (h : c.Elsewhere s) :
    Stray s (history ++ [c]) ↔ Stray s history := by
  rw [stray_concat_iff]
  constructor
  · rintro (⟨⟨n, hset, -⟩, -⟩ | ⟨-, hstray⟩)
    · exact absurd hset (h.2 n)
    · exact hstray
  · refine fun hstray ↦ .inr ⟨?_, hstray⟩
    rintro ⟨n, e, hset, -⟩
    exact h.2 n hset

/-- Where a series is stray, no set of it counts. -/
theorem Stray.not_lastSet (h : Stray s history) : ¬LastSet s d history := by
  induction history using List.reverseRecOn generalizing d with
  | nil => exact not_lastSet_nil
  | append_singleton history c ih =>
    rcases c.cases_of_series s with rfl | ⟨n, e, rfl, hn⟩ | ⟨n, rfl, hn⟩ | hc
    · exact lastSet_concat_reset
    · exact absurd h (not_stray_concat_of_some hn)
    · rw [lastSet_concat_of_none hn]
      rcases (stray_concat_of_none hn).mp h with hnone | hstray
      · exact hnone d
      · exact ih hstray
    · rw [lastSet_concat_elsewhere hc]
      exact ih ((stray_concat_elsewhere hc).mp h)

/-! ### The gauge along its history -/

theorem toDouble_int_of_some {n : Int} (h : Double.ofInt? n = some d) :
    (Value.int n).toDouble = .ok d := by
  rw [Value.toDouble, h]

theorem toDouble_int_of_none {n : Int} (h : Double.ofInt? n = none) :
    (Value.int n).toDouble = .error (.mismatch .outOfRange) := by
  rw [Value.toDouble, h]

/-- What a series shows after it was set, whether that succeeds or not. -/
theorem value?_apply_set (g : Gauge) (n : Int) :
    (g.apply (Change.set s n).entry).value? s = some (shown (g.value? s) (.int n)) :=
  (value?_set _ _ _ _ _ _).trans (if_pos rfl)

/-- A count that is no number leaves the tracked series as they were. -/
theorem tracked_apply_of_none (g : Gauge) {n : Int} (hn : Double.ofInt? n = none) :
    (g.apply (Change.set s n).entry).tracked = g.tracked := by
  rw [Change.entry, apply, set, toDouble_int_of_none hn]
  dsimp only
  split <;> rfl

/-- A change elsewhere leaves a series as it was. -/
theorem apply_elsewhere (h : c.Elsewhere s) (g : Gauge) :
    (g.apply c.entry).value? s = g.value? s ∧
      (s ∈ (g.apply c.entry).tracked ↔ s ∈ g.tracked) := by
  cases c with
  | reset kind =>
    have hkind : entryKind (Change.reset kind).entry ≠ s.kind := fun heq ↦
      h.1 (congrArg Change.reset heq)
    exact agreeOn_apply hkind g s rfl
  | set t n =>
    have hts : s ≠ t := by
      rintro rfl
      exact h.2 n rfl
    exact ⟨(value?_set _ _ _ _ _ _).trans (if_neg hts), mem_tracked_set hts⟩

/-- The series that are tracked are those that a set counts for. -/
theorem mem_tracked_after_iff : s ∈ (after history).tracked ↔ ∃ d, LastSet s d history := by
  induction history using List.reverseRecOn with
  | nil => exact iff_of_false List.not_mem_nil fun ⟨d, h⟩ ↦ not_lastSet_nil h
  | append_singleton history c ih =>
    rw [after_concat]
    rcases c.cases_of_series s with rfl | ⟨n, d, rfl, hn⟩ | ⟨n, rfl, hn⟩ | hc
    · refine iff_of_false (fun h ↦ ?_) fun ⟨d, h⟩ ↦ lastSet_concat_reset h
      exact (mem_tracked_reset.mp h).2 rfl
    · refine iff_of_true ?_ ⟨d, (lastSet_concat_of_some hn).mpr rfl⟩
      exact mem_tracked_set_self rfl rfl (toDouble_int_of_some hn) (.inr rfl)
    · simp only [tracked_apply_of_none _ hn, lastSet_concat_of_none hn, ih]
    · simp only [(apply_elsewhere hc _).2, lastSet_concat_elsewhere hc, ih]

/-- What a series shows: the count of the last set of it that counts, or zero if it is stray. By
induction on the history; a reset finds the series if a set counts for it, and then it is not
stray. -/
theorem value?_after_iff : (after history).value? s = some d ↔
    LastSet s d history ∨ d = .zero ∧ Stray s history := by
  induction history using List.reverseRecOn generalizing d with
  | nil =>
    refine iff_of_false (Option.some_ne_none d).symm ?_
    rintro (h | ⟨-, h⟩)
    · exact not_lastSet_nil h
    · exact not_stray_nil h
  | append_singleton history c ih =>
    rw [after_concat]
    rcases c.cases_of_series s with rfl | ⟨n, e, rfl, hn⟩ | ⟨n, rfl, hn⟩ | hc
    · rw [stray_concat_reset, or_iff_right lastSet_concat_reset, Change.entry, apply, value?_reset]
      split_ifs with htracked
      · obtain ⟨e, he⟩ := mem_tracked_after_iff.mp htracked.2
        exact iff_of_false not_false fun h ↦ h.2.not_lastSet he
      · rw [ih, or_iff_right]
        exact fun h ↦ htracked ⟨rfl, mem_tracked_after_iff.mpr ⟨d, h⟩⟩
    · rw [lastSet_concat_of_some hn, value?_apply_set, shown, toDouble_int_of_some hn,
        Option.some.injEq, eq_comm, or_iff_left]
      exact fun h ↦ not_stray_concat_of_some hn h.2
    · rw [lastSet_concat_of_none hn, stray_concat_of_none hn, value?_apply_set, shown,
        toDouble_int_of_none hn]
      cases hvalue : (after history).value? s with
      | none =>
        have hnone (e : Double) : ¬LastSet s e history := fun h ↦
          absurd (ih.mpr (.inl h)) (by simp [hvalue])
        rw [or_iff_right (hnone d), and_iff_left (.inl hnone), Option.getD_none, Option.some.injEq,
          eq_comm]
      | some e =>
        have hstray : (∀ e, ¬LastSet s e history) → Stray s history := fun hnone ↦
          ((ih.mp hvalue).resolve_left (hnone e)).2
        rw [or_iff_right_of_imp hstray, ← ih, hvalue, Option.getD_some]
    · rw [(apply_elsewhere hc _).1, ih, lastSet_concat_elsewhere hc, stray_concat_elsewhere hc]

/-- After any sequence of resets and sets of a fresh gauge, each series shows the count of the last
set of it that did not fail and that no reset of its kind followed, or zero if it is stray, and else
nothing. So it shows what it should if and only if it is not stray. A further reset leaves all other
kinds alone, and leaves no series of its own kind but the stray ones. A further set that fails
leaves each series as it was, but that its own shows zero if it showed nothing. -/
theorem value?_after (history : List Change) (s : Series) :
    (∀ d, (after history).value? s = some d ↔
      LastSet s d history ∨ d = .zero ∧ Stray s history) ∧
    ((∀ d, (after history).value? s = some d ↔ LastSet s d history) ↔ ¬Stray s history) ∧
    (∀ kind, s.kind ≠ kind →
      (after (history ++ [.reset kind])).value? s = (after history).value? s) ∧
    ((after (history ++ [.reset s.kind])).value? s = none ↔ ¬Stray s history) ∧
    ∀ t n, Double.ofInt? n = none → (after (history ++ [.set t n])).value? s =
      if t = s then some (((after history).value? s).getD .zero) else (after history).value? s := by
  refine ⟨fun d ↦ value?_after_iff, ?_, fun kind hkind ↦ ?_, ?_, fun t n hn ↦ ?_⟩
  · constructor
    · intro h hstray
      exact hstray.not_lastSet ((h .zero).mp (value?_after_iff.mpr (.inr ⟨rfl, hstray⟩)))
    · intro hstray d
      rw [value?_after_iff, or_iff_left fun h ↦ hstray h.2]
  · have helsewhere : (Change.reset kind).Elsewhere s :=
      ⟨fun h ↦ hkind (Change.reset.inj h).symm, fun _ ↦ Change.noConfusion⟩
    rw [after_concat, (apply_elsewhere helsewhere _).1]
  · have hshown (d : Double) : (after (history ++ [.reset s.kind])).value? s = some d ↔
        d = .zero ∧ Stray s history := by
      rw [value?_after_iff, or_iff_right lastSet_concat_reset, stray_concat_reset]
    constructor
    · intro hnone hstray
      exact absurd ((hshown .zero).mpr ⟨rfl, hstray⟩) (by simp [hnone])
    · exact fun hstray ↦ Option.eq_none_iff_forall_ne_some.mpr fun d hd ↦
        hstray ((hshown d).mp hd).2
  · rw [after_concat]
    split_ifs with hts
    · subst hts
      rw [value?_apply_set, shown, toDouble_int_of_none hn]
    · have helsewhere : (Change.set t n).Elsewhere s :=
        ⟨Change.noConfusion, fun m h ↦ hts (Change.set.inj h).1⟩
      rw [(apply_elsewhere helsewhere _).1]

namespace StrayPod

def series : Series := ⟨"Pod", "p", "n"⟩

/-- A count beyond the range of numbers. -/
def huge : Int := Nat.pow 10 400

/-- The count of the example below is too large for a floating point number. -/
theorem ofInt?_huge : Double.ofInt? huge = none := by
  decide +kernel

/-- Three failures, a reset, and a set that fails. -/
def changes : List Change := [.set series 3, .reset "Pod", .set series huge]

theorem value?_after_changes :
    "Pod" ≠ "Service" ∧ Double.ofInt? huge = none ∧
      (after (changes ++ [.reset "Service"])).value? series = (after changes).value? series ∧
      (after (changes ++ [.set series huge])).value? series =
        some (((after changes).value? series).getD .zero) := by
  obtain ⟨-, -, hreset, -, hset⟩ := value?_after changes series
  have hkind : series.kind ≠ "Service" := by decide
  exact ⟨hkind, ofInt?_huge, hreset "Service" hkind, hset series huge ofInt?_huge⟩

/-- A set that fails changes a series that showed nothing: it shows zero then, although no set of it
succeeded, and also after a reset of its kind. -/
theorem set_leaves_stray :
    (after []).value? series = none ∧ (after [.set series huge]).value? series = some .zero ∧
      (∀ d, ¬LastSet series d [.set series huge]) ∧
      (after [.set series huge, .reset "Pod"]).value? series = some .zero := by
  have hstray : Stray series [.set series huge] :=
    ⟨[], .set series huge, [], rfl, ⟨huge, rfl, ofInt?_huge⟩, fun _ ↦ not_lastSet_nil,
      List.forall_mem_nil _⟩
  refine ⟨rfl, value?_after_iff.mpr (.inr ⟨rfl, hstray⟩), fun d ↦ hstray.not_lastSet, ?_⟩
  exact value?_after_iff.mpr (.inr ⟨rfl, (stray_concat_reset (s := series)).mpr hstray⟩)

end StrayPod

end ClusterDiagnosis.Gauge
