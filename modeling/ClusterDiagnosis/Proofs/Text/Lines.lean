import ClusterDiagnosis.Text.Lines
import ClusterDiagnosis.Proofs.Text.Blank
import Mathlib.Data.List.Pairwise
import Mathlib.Tactic.Common

/-!
# Lines at their places

Every text is one without boundaries, or a line, what ends it, and a rest (`lineInduction`). So the
lines of a text are told by places: a line stands between boundaries and has none in it
(`PlacedLine.StandsIn`). All lines that are not empty are found, in order and each at its place
(`exists_placed`), and a piece without boundaries lies in one line (`exists_covering`). A line feed
between two texts is a boundary whatever the first one ends with (`filter_lines_append`).
-/

set_option autoImplicit false
set_option relaxedAutoImplicit false

namespace ClusterDiagnosis.Text

variable {cs line ending rest : List Char} {c : Char}

/-- A text in which no line ends. -/
def Unbroken (cs : List Char) : Prop :=
  ∀ c ∈ cs, isLineBoundary c = false

instance : DecidablePred Unbroken := fun cs ↦
  decidable_of_iff (cs.all (!isLineBoundary ·) = true) (by simp [Unbroken])

/-- What ends a line in front of the rest of a text. A carriage return in front of a line feed ends
it only together with that. -/
inductive EndsLine : List Char → List Char → Prop where
  | pair (rest : List Char) : EndsLine ['\r', '\n'] rest
  | single {c : Char} {rest : List Char} (h : isLineBoundary c = true)
      (hpair : c = '\r' → rest.head? ≠ some '\n') : EndsLine [c] rest

namespace EndsLine

theorem ne_nil (h : EndsLine ending rest) : ending ≠ [] := by
  cases h <;> exact List.cons_ne_nil _ _

theorem isLineBoundary_of_mem (h : EndsLine ending rest) :
    ∀ c ∈ ending, isLineBoundary c = true := by
  cases h with
  | pair => exact List.forall_mem_cons.mpr ⟨rfl, List.forall_mem_singleton.mpr rfl⟩
  | single h => exact List.forall_mem_singleton.mpr h

/-- An ending stays one in front of more text, but for a carriage return at the end of all, which a
line feed may still complete. -/
theorem append (h : EndsLine ending rest) (hopen : ¬(ending = ['\r'] ∧ rest = []))
    (more : List Char) : EndsLine ending (rest ++ more) := by
  cases h with
  | pair => exact .pair _
  | single h hpair =>
    refine .single h fun hc ↦ ?_
    have hne : rest ≠ [] := by
      rintro rfl
      exact hopen ⟨by rw [hc], rfl⟩
    rw [List.head?_append_of_ne_nil _ hne]
    exact hpair hc

end EndsLine

/-- A text in which a line ends is that line, what ends it, and a rest. -/
theorem exists_line (h : ¬Unbroken cs) : ∃ line ending rest,
    cs = line ++ (ending ++ rest) ∧ Unbroken line ∧ EndsLine ending rest := by
  induction cs with
  | nil => exact absurd (List.forall_mem_nil _) h
  | cons c cs ih =>
    by_cases hc : isLineBoundary c = true
    · by_cases hpair : c = '\r' ∧ cs.head? = some '\n'
      · obtain ⟨rfl, hfeed⟩ := hpair
        obtain ⟨rest, rfl⟩ := List.head?_eq_some_iff.mp hfeed
        exact ⟨[], _, rest, rfl, List.forall_mem_nil _, .pair rest⟩
      · exact ⟨[], [c], cs, rfl, List.forall_mem_nil _, .single hc (not_and.mp hpair)⟩
    · rw [Bool.not_eq_true] at hc
      have hcs : ¬Unbroken cs := fun hcs ↦ h (List.forall_mem_cons.mpr ⟨hc, hcs⟩)
      obtain ⟨line, ending, rest, rfl, hline, hending⟩ := ih hcs
      exact ⟨c :: line, ending, rest, rfl, List.forall_mem_cons.mpr ⟨hc, hline⟩, hending⟩

/-- Induction line by line. -/
theorem lineInduction {motive : List Char → Prop} (last : ∀ cs, Unbroken cs → motive cs)
    (next : ∀ line ending rest, Unbroken line → EndsLine ending rest → motive rest →
      motive (line ++ (ending ++ rest))) (cs : List Char) : motive cs := by
  by_cases h : Unbroken cs
  · exact last cs h
  · obtain ⟨line, ending, rest, hcs, hline, hending⟩ := exists_line h
    have hshorter : rest.length < cs.length := by
      have hpos := List.length_pos_iff.mpr hending.ne_nil
      rw [hcs, List.length_append, List.length_append]
      omega
    rw [hcs]
    exact next line ending rest hline hending (lineInduction last next rest)
termination_by cs.length
decreasing_by exact hshorter

/-! ### The lines of a text -/

/-- A character that ends no line belongs to the first one. -/
theorem lines_cons (h : isLineBoundary c = false) (cs : List Char) :
    lines (c :: cs) = consFirst c (lines cs) := by
  rw [lines]
  · rw [if_neg (by simp [h])]
  · rintro rest rfl
    exact absurd h (by decide)

theorem lines_ending (h : EndsLine ending rest) : lines (ending ++ rest) = [] :: lines rest := by
  cases h with
  | pair => rfl
  | @single c rest h hpair =>
    rw [List.singleton_append, lines]
    · rw [if_pos h]
    · rintro rest rfl rfl
      exact hpair rfl rfl

/-- A line that is ended is the first of the lines. -/
theorem lines_append (hline : Unbroken line) (hending : EndsLine ending rest) :
    lines (line ++ (ending ++ rest)) = line :: lines rest := by
  induction line with
  | nil => exact lines_ending hending
  | cons c line ih =>
    obtain ⟨hc, hline⟩ := List.forall_mem_cons.mp hline
    rw [List.cons_append, lines_cons hc, ih hline, consFirst]

/-- The lines of a text in which no line ends: the text itself, unless it is empty. -/
theorem lines_unbroken (h : Unbroken cs) : lines cs = [cs].filter (· ≠ []) := by
  induction cs with
  | nil => rfl
  | cons c cs ih =>
    obtain ⟨hc, hcs⟩ := List.forall_mem_cons.mp h
    rw [lines_cons hc, ih hcs]
    cases cs with
    | nil => rfl
    | cons d cs => rfl

/-- A line feed between two texts ends the last line of the first one, if there is an open one. What
else it may do is end an empty line, or complete a carriage return. -/
theorem filter_lines_append {p : List Char → Bool} (hp : p [] = false) (cs ds : List Char) :
    (lines (cs ++ '\n' :: ds)).filter p = (lines cs).filter p ++ (lines ds).filter p := by
  induction cs using lineInduction with
  | last cs h =>
    have hfeed : EndsLine ['\n'] ds := .single (by decide) (fun h ↦ absurd h (by decide))
    rw [← List.singleton_append, lines_append h hfeed, lines_unbroken h]
    by_cases hcs : cs = []
    · simp [hcs, hp]
    · simp [hcs, List.filter_cons, apply_ite (· ++ (lines ds).filter p)]
  | next line ending rest hline hending ih =>
    rw [lines_append hline hending, List.append_assoc, List.append_assoc]
    by_cases hopen : ending = ['\r'] ∧ rest = []
    · obtain ⟨rfl, rfl⟩ := hopen
      have hpair := lines_append hline (.pair ds)
      rw [List.cons_append, List.cons_append, List.nil_append] at hpair
      rw [List.nil_append, List.singleton_append, hpair]
      exact List.filter_append (p := p) [line] (lines ds)
    · rw [lines_append hline (hending.append hopen _), List.filter_cons, List.filter_cons, ih]
      split <;> rfl

/-! ### Places -/

/-- A line at its place: with the number of characters of the text in front of it. -/
structure PlacedLine where
  start : Nat
  chars : List Char

namespace PlacedLine

variable {l : PlacedLine}

/-- The place at which a line ends. -/
def finish (l : PlacedLine) : Nat :=
  l.start + l.chars.length

/-- The same line behind more text. -/
def behind (front : List Char) (l : PlacedLine) : PlacedLine :=
  ⟨front.length + l.start, l.chars⟩

/-- One line ends in front of the other. -/
def Apart (l l' : PlacedLine) : Prop :=
  l.finish < l'.start ∨ l'.finish < l.start

instance : Std.Symm Apart :=
  ⟨fun _ _ ↦ Or.symm⟩

/-- A line stands in a text at its place: it has no boundary in it, and the text goes on with a
boundary, or not at all, on either side. -/
structure StandsIn (l : PlacedLine) (cs : List Char) : Prop where
  unbroken : Unbroken l.chars
  around : ∃ before after, cs = before ++ (l.chars ++ after) ∧ before.length = l.start ∧
    (∀ c ∈ before.getLast?, isLineBoundary c = true) ∧
    ∀ c ∈ after.head?, isLineBoundary c = true

end PlacedLine

open PlacedLine

/-- A text has one start without boundaries that a boundary, or nothing, follows. -/
theorem eq_of_unbroken {ds after tail : List Char} (hcs : Unbroken cs) (hds : Unbroken ds)
    (hafter : ∀ c ∈ after.head?, isLineBoundary c = true)
    (htail : ∀ c ∈ tail.head?, isLineBoundary c = true) (h : cs ++ after = ds ++ tail) :
    cs = ds := by
  have htake {es back : List Char} (hes : Unbroken es)
      (hback : ∀ c ∈ back.head?, isLineBoundary c = true) :
      (es ++ back).takeWhile (!isLineBoundary ·) = es := by
    rw [List.takeWhile_append_of_pos (by simpa [Unbroken] using hes)]
    cases back with
    | nil => simp
    | cons c back => simp [hback c rfl]
  rw [← htake hcs hafter, h, htake hds htail]

/-- In front of a line that stands at the start of a text, there is nothing. -/
theorem eq_nil_of_unbroken {before : List Char} (h : before <+: line) (hline : Unbroken line)
    (hbefore : ∀ c ∈ before.getLast?, isLineBoundary c = true) : before = [] := by
  by_contra hne
  have hlast := List.getLast?_eq_some_getLast hne
  have hmem := h.subset (List.getLast_mem hne)
  exact absurd (hbefore _ hlast) (by simp [hline _ hmem])

/-- A text without line ends has itself as its only line. -/
theorem standsIn_unbroken_iff {l : PlacedLine} (h : Unbroken cs) :
    l.StandsIn cs ↔ l = ⟨0, cs⟩ := by
  constructor
  · rintro ⟨hchars, before, after, hcs, hstart, hbefore, hafter⟩
    obtain rfl := eq_nil_of_unbroken ⟨_, hcs.symm⟩ h hbefore
    have heq : l.chars = cs := by
      have htail : ∀ c ∈ ([] : List Char).head?, isLineBoundary c = true := by simp
      refine eq_of_unbroken hchars h hafter htail ?_
      rw [List.append_nil, hcs, List.nil_append]
    rw [← heq, ← List.length_nil, hstart]
  · rintro rfl
    exact ⟨h, [], [], by simp, rfl, by simp, by simp⟩

/-- No line starts inside what ends one, unless it is empty. -/
theorem EndsLine.exists_of_append {front chars after : List Char} (h : EndsLine ending rest)
    (hchars : Unbroken chars) (hne : chars ≠ [])
    (hback : ending ++ rest = front ++ (chars ++ after)) :
    ∃ more, front = ending ++ more ∧ rest = more ++ (chars ++ after) := by
  rcases List.append_eq_append_iff.mp hback with hmore | ⟨more, rfl, hmore⟩
  · exact hmore
  · cases more with
    | nil => exact ⟨[], by simp, by simpa using hmore.symm⟩
    | cons c more =>
      obtain ⟨d, chars, rfl⟩ := List.exists_cons_of_ne_nil hne
      obtain rfl : d = c := (List.cons.inj hmore).1
      have hc := h.isLineBoundary_of_mem d (by simp)
      exact absurd hc (by simp [hchars d List.mem_cons_self])

/-- A line that is not empty is the first one of a text, or it stands in the rest. -/
theorem standsIn_append {l : PlacedLine} (hline : Unbroken line) (hending : EndsLine ending rest)
    (hne : l.chars ≠ []) (h : l.StandsIn (line ++ (ending ++ rest))) :
    l = ⟨0, line⟩ ∨ ∃ l' : PlacedLine, l'.StandsIn rest ∧ l = l'.behind (line ++ ending) := by
  obtain ⟨start, chars⟩ := l
  obtain ⟨hchars, before, after, hcs, rfl, hbefore, hafter⟩ := h
  rcases List.append_eq_append_iff.mp hcs with ⟨front, rfl, hrest⟩ | ⟨front, rfl, hback⟩
  · obtain ⟨more, rfl, rfl⟩ := hending.exists_of_append hchars hne hrest
    refine .inr ⟨⟨more.length, chars⟩, ⟨hchars, more, after, rfl, rfl, ?_, hafter⟩, ?_⟩
    · intro c hc
      refine hbefore c ?_
      rw [List.getLast?_append, List.getLast?_append, Option.mem_def.mp hc]
      rfl
    · simp [behind, Nat.add_assoc]
  · obtain rfl := eq_nil_of_unbroken (List.prefix_append before front) hline hbefore
    refine .inl ?_
    have heq : chars = front := by
      refine eq_of_unbroken hchars hline hafter ?_ hback
      rw [List.head?_append_of_ne_nil _ hending.ne_nil]
      exact fun c hc ↦ hending.isLineBoundary_of_mem c (List.mem_of_mem_head? hc)
    rw [heq]
    rfl

theorem standsIn_first (hline : Unbroken line) (hending : EndsLine ending rest) :
    (PlacedLine.mk 0 line).StandsIn (line ++ (ending ++ rest)) := by
  refine ⟨hline, [], ending ++ rest, rfl, rfl, by simp, ?_⟩
  rw [List.head?_append_of_ne_nil _ hending.ne_nil]
  exact fun c hc ↦ hending.isLineBoundary_of_mem c (List.mem_of_mem_head? hc)

theorem PlacedLine.StandsIn.behind {l : PlacedLine} (h : l.StandsIn rest)
    (hending : EndsLine ending rest) :
    (l.behind (line ++ ending)).StandsIn (line ++ (ending ++ rest)) := by
  obtain ⟨hchars, before, after, hcs, hstart, hbefore, hafter⟩ := h
  refine ⟨hchars, line ++ ending ++ before, after, ?_, ?_, ?_, hafter⟩
  · simp [hcs, PlacedLine.behind]
  · simp [hstart, PlacedLine.behind, Nat.add_assoc]
  · intro c hc
    by_cases hnil : before = []
    · rw [hnil, List.append_nil, List.getLast?_append_of_ne_nil _ hending.ne_nil] at hc
      exact hending.isLineBoundary_of_mem c (List.mem_of_mem_getLast? hc)
    · rw [List.getLast?_append_of_ne_nil _ hnil] at hc
      exact hbefore c hc

/-- The lines of a text at their places. -/
theorem exists_placed (cs : List Char) : ∃ placed : List PlacedLine,
    placed.map chars = lines cs ∧ placed.Pairwise (fun l l' ↦ l.finish < l'.start) ∧
      (∀ l ∈ placed, l.StandsIn cs) ∧
      ∀ l : PlacedLine, l.StandsIn cs → l.chars ≠ [] → l ∈ placed := by
  induction cs using lineInduction with
  | last cs h =>
    refine ⟨[⟨0, cs⟩].filter (·.chars ≠ []), ?_, ?_, ?_, ?_⟩
    · rw [lines_unbroken h]
      by_cases hcs : cs = [] <;> simp [hcs]
    · exact (List.pairwise_singleton _ _).filter _
    · intro l hl
      rw [List.mem_filter, List.mem_singleton] at hl
      exact (standsIn_unbroken_iff h).mpr hl.1
    · intro l hl hne
      rw [List.mem_filter, List.mem_singleton]
      exact ⟨(standsIn_unbroken_iff h).mp hl, by simpa using hne⟩
  | next line ending rest hline hending ih =>
    obtain ⟨placed, hlines, hordered, hstands, hall⟩ := ih
    refine ⟨⟨0, line⟩ :: placed.map (behind (line ++ ending)), ?_, ?_, ?_, ?_⟩
    · rw [lines_append hline hending, ← hlines, List.map_cons, List.map_map]
      rfl
    · have hpos := List.length_pos_iff.mpr hending.ne_nil
      rw [List.pairwise_cons, List.forall_mem_map, List.pairwise_map]
      refine ⟨fun l _ ↦ ?_, hordered.imp fun h ↦ ?_⟩
      · simp only [finish, PlacedLine.behind, List.length_append]
        omega
      · simp only [finish, PlacedLine.behind] at h ⊢
        omega
    · rw [List.forall_mem_cons, List.forall_mem_map]
      exact ⟨standsIn_first hline hending, fun l hl ↦ (hstands l hl).behind hending⟩
    · intro l hl hne
      rcases standsIn_append hline hending hne hl with rfl | ⟨l', hl', rfl⟩
      · exact List.mem_cons_self
      · exact List.mem_cons_of_mem _ (List.mem_map_of_mem (hall l' hl' hne))

/-- Lines in order that have a place in common are the same. -/
theorem eq_of_overlap {placed : List PlacedLine}
    (h : placed.Pairwise fun l l' ↦ l.finish < l'.start) {l l' : PlacedLine} (hl : l ∈ placed)
    (hl' : l' ∈ placed) {n : Nat} (hstart : l.start ≤ n) (hfinish : n ≤ l.finish)
    (hstart' : l'.start ≤ n) (hfinish' : n ≤ l'.finish) : l = l' := by
  have hapart : placed.Pairwise Apart := h.imp .inl
  by_contra hne
  have hdisjoint : l.finish < l'.start ∨ l'.finish < l.start := hapart.forall hl hl' hne
  omega

/-- A piece without boundaries lies in the line around it. -/
theorem exists_covering {before piece after : List Char} (h : cs = before ++ (piece ++ after))
    (hpiece : Unbroken piece) : ∃ l : PlacedLine, l.StandsIn cs ∧ l.start ≤ before.length ∧
      before.length + piece.length ≤ l.finish ∧ piece <:+: l.chars := by
  let inLine (c : Char) : Bool := !isLineBoundary c
  have hbefore : before.rdropWhile inLine ++ before.rtakeWhile inLine = before :=
    List.rdropWhile_append_rtakeWhile
  have hafter : after.takeWhile inLine ++ after.dropWhile inLine = after :=
    List.takeWhile_append_dropWhile
  refine ⟨⟨(before.rdropWhile inLine).length,
    before.rtakeWhile inLine ++ (piece ++ after.takeWhile inLine)⟩, ⟨?_, ?_⟩, ?_, ?_, ?_⟩
  · refine List.forall_mem_append.mpr ⟨fun c hc ↦ ?_,
      List.forall_mem_append.mpr ⟨hpiece, fun c hc ↦ ?_⟩⟩
    · simpa [inLine] using List.mem_rtakeWhile_imp hc
    · simpa [inLine] using List.mem_takeWhile_imp hc
  · refine ⟨before.rdropWhile inLine, after.dropWhile inLine, ?_, rfl, fun c hc ↦ ?_, fun c hc ↦ ?_⟩
    · calc cs = before.rdropWhile inLine ++ before.rtakeWhile inLine ++
            (piece ++ (after.takeWhile inLine ++ after.dropWhile inLine)) := by
            rw [hbefore, hafter, h]
        _ = _ := by simp only [List.append_assoc]
    · rw [List.rdropWhile, List.getLast?_reverse] at hc
      simpa [inLine] using head?_dropWhile inLine _ c hc
    · simpa [inLine] using head?_dropWhile inLine _ c hc
  · exact (List.rdropWhile_prefix inLine before).length_le
  · have hlength := congrArg List.length hbefore
    rw [List.length_append] at hlength
    simp only [finish, List.length_append]
    omega
  · exact ⟨_, _, List.append_assoc _ _ _⟩

end ClusterDiagnosis.Text
