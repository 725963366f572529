import ClusterDiagnosis.Proofs.Text.Cut

/-!
# Texts as gaps and keys

A text that is searched for keys consists of the keys that are found and the gaps around them
(`Division`). It is divided by keys if each key found is the longest one that starts at its place,
and no key starts at any place of a gap, not even one that reaches into what follows (`Divides`).
Read from the left, a division is a cut: the characters of its gaps one by one, and its keys
(`divides_iff_cut`). So every text is divided by any keys in exactly one way
(`existsUnique_divides`), and substitution fills the gaps of this division with the replacements of
its keys (`substitute_eq_filled`).
-/

set_option autoImplicit false
set_option relaxedAutoImplicit false

namespace ClusterDiagnosis.Text

/-- A text as keys, each with the gap in front of it, and the gap behind the last key. -/
structure Division where
  parts : List (List Char × List Char)
  last : List Char
  deriving DecidableEq, Repr

namespace Division

/-- The gaps as they are, and between them what stands for the keys. -/
def filled (value : List Char → List Char) (d : Division) : List Char :=
  d.parts.flatMap (fun p ↦ p.1 ++ value p.2) ++ d.last

/-- The text that is divided. -/
def source (d : Division) : List Char :=
  d.filled id

/-- The division of a text with one more key, and the gap in front of it, at its start. -/
def behind (gap k : List Char) (d : Division) : Division :=
  ⟨(gap, k) :: d.parts, d.last⟩

/-- The characters of the gaps and the keys, from the left. -/
def pieces (d : Division) : List Piece :=
  d.parts.flatMap (fun p ↦ p.1.map .kept ++ [.key p.2]) ++ d.last.map .kept

theorem pieces_behind (gap k : List Char) (d : Division) :
    (d.behind gap k).pieces = gap.map .kept ++ .key k :: d.pieces := by
  simp [behind, pieces]

theorem source_behind (gap k : List Char) (d : Division) :
    (d.behind gap k).source = gap ++ (k ++ d.source) := by
  simp [behind, source, filled]

/-- The division with one more character at its start. -/
def push (c : Char) : Division → Division
  | ⟨[], last⟩ => ⟨[], c :: last⟩
  | ⟨(gap, k) :: parts, last⟩ => ⟨(c :: gap, k) :: parts, last⟩

/-- Pieces put together again. -/
def ofPieces : List Piece → Division
  | [] => ⟨[], []⟩
  | .kept c :: ps => (ofPieces ps).push c
  | .key k :: ps => (ofPieces ps).behind [] k

theorem pieces_push (c : Char) (d : Division) : (d.push c).pieces = .kept c :: d.pieces := by
  obtain ⟨parts, last⟩ := d
  cases parts <;> rfl

theorem pieces_ofPieces (ps : List Piece) : (ofPieces ps).pieces = ps := by
  induction ps with
  | nil => rfl
  | cons p ps ih =>
    cases p with
    | kept c => rw [ofPieces, pieces_push, ih]
    | key k => rw [ofPieces, pieces_behind, ih, List.map_nil, List.nil_append]

theorem ofPieces_last (last : List Char) : ofPieces (last.map .kept) = ⟨[], last⟩ := by
  induction last with
  | nil => rfl
  | cons c last ih => rw [List.map_cons, ofPieces, ih, push]

theorem ofPieces_gap (gap k : List Char) (ps : List Piece) :
    ofPieces (gap.map .kept ++ .key k :: ps) = (ofPieces ps).behind gap k := by
  induction gap with
  | nil => rfl
  | cons c gap ih =>
    rw [List.map_cons, List.cons_append, ofPieces, ih]
    rfl

/-- A division is put together again from its pieces. -/
theorem ofPieces_pieces (d : Division) : ofPieces d.pieces = d := by
  obtain ⟨parts, last⟩ := d
  induction parts with
  | nil => exact ofPieces_last last
  | cons p parts ih =>
    change ofPieces (behind p.1 p.2 ⟨parts, last⟩).pieces = _
    rw [pieces_behind, ofPieces_gap, ih]
    rfl

/-- Writing the pieces fills the gaps with the replacements of the keys. -/
theorem flatMap_written_pieces (t : Table) (d : Division) :
    d.pieces.flatMap t.written = d.filled fun k ↦ (t.last? k).getD [] := by
  have hgap (gap : List Char) : (gap.map Piece.kept).flatMap t.written = gap := by
    induction gap with
    | nil => rfl
    | cons c gap ih =>
      rw [List.map_cons, List.flatMap_cons, ih]
      rfl
  rw [pieces, List.flatMap_append, List.flatMap_assoc, hgap]
  simp only [List.flatMap_append, hgap, List.flatMap_singleton]
  rfl

end Division

/-! ### Divided by keys -/

variable {keys others : List (List Char)} {cs gap behind k : List Char} {c : Char}
  {ps : List Piece} {d : Division}

/-- No key starts at a place of the gap, also none that reaches into what is behind it. -/
def Clear (keys : List (List Char)) (gap behind : List Char) : Prop :=
  ∀ front back, gap = front ++ back → back ≠ [] → NoKey keys (back ++ behind)

/-- A text is divided by keys: its parts are the gaps and keys of the division, each key is the
longest that starts the text from there on, and no key starts in a gap. -/
structure Divides (keys : List (List Char)) (cs : List Char) (d : Division) : Prop where
  source_eq : d.source = cs
  longest : ∀ before gap k after, d.parts = before ++ (gap, k) :: after →
    LongestKey keys (k ++ (Division.mk after d.last).source) k
  clear : ∀ before gap k after, d.parts = before ++ (gap, k) :: after →
    Clear keys gap (k ++ (Division.mk after d.last).source)
  clear_last : Clear keys d.last []

theorem clear_nil (keys : List (List Char)) (behind : List Char) : Clear keys [] behind := by
  intro front back h hback
  exact absurd (List.append_eq_nil_iff.mp h.symm).2 hback

/-- A gap is clear if no key starts in it. -/
theorem clear_cons_iff :
    Clear keys (c :: gap) behind ↔ NoKey keys (c :: (gap ++ behind)) ∧ Clear keys gap behind := by
  constructor
  · intro h
    refine ⟨h [] (c :: gap) rfl (List.cons_ne_nil _ _), fun front back hgap hback ↦ ?_⟩
    exact h (c :: front) back (by rw [hgap, List.cons_append]) hback
  · rintro ⟨hfirst, hrest⟩ front back hgap hback
    cases front with
    | nil =>
      rw [List.nil_append] at hgap
      rw [← hgap]
      exact hfirst
    | cons c' front => exact hrest front back (List.cons.inj hgap).2 hback

/-! ### Division and cut -/

theorem cut_nil_iff : Cut keys cs [] ↔ cs = [] := by
  constructor
  · rintro ⟨⟩
    rfl
  · rintro rfl
    exact .done

theorem cut_kept_iff : Cut keys cs (.kept c :: ps) ↔
    ∃ rest, cs = c :: rest ∧ NoKey keys (c :: rest) ∧ Cut keys rest ps := by
  constructor
  · rintro (_ | ⟨hno, hrest⟩ | _)
    exact ⟨_, rfl, hno, hrest⟩
  · rintro ⟨rest, rfl, hno, hrest⟩
    exact .kept hno hrest

theorem cut_key_iff : Cut keys cs (.key k :: ps) ↔
    ∃ rest, cs = k ++ rest ∧ LongestKey keys (k ++ rest) k ∧ Cut keys rest ps := by
  constructor
  · rintro (_ | _ | ⟨hk, hrest⟩)
    exact ⟨_, rfl, hk, hrest⟩
  · rintro ⟨rest, rfl, hk, hrest⟩
    exact .key hk hrest

theorem cut_gap_iff : Cut keys cs (gap.map .kept ++ ps) ↔
    ∃ behind, cs = gap ++ behind ∧ Clear keys gap behind ∧ Cut keys behind ps := by
  induction gap generalizing cs with
  | nil => simp [clear_nil]
  | cons c gap ih =>
    rw [List.map_cons, List.cons_append, cut_kept_iff]
    constructor
    · rintro ⟨rest, rfl, hno, hrest⟩
      obtain ⟨behind, rfl, hclear, hcut⟩ := ih.mp hrest
      exact ⟨behind, rfl, clear_cons_iff.mpr ⟨hno, hclear⟩, hcut⟩
    · rintro ⟨behind, rfl, hclear, hcut⟩
      obtain ⟨hno, hclear⟩ := clear_cons_iff.mp hclear
      exact ⟨gap ++ behind, rfl, hno, ih.mpr ⟨behind, rfl, hclear, hcut⟩⟩

theorem divides_last_iff {last : List Char} :
    Divides keys cs ⟨[], last⟩ ↔ cs = last ∧ Clear keys last [] := by
  have hsource : Division.source ⟨[], last⟩ = last := rfl
  constructor
  · intro h
    exact ⟨h.source_eq.symm.trans hsource, h.clear_last⟩
  · rintro ⟨rfl, hclear⟩
    exact ⟨hsource, fun _ _ _ _ h ↦ absurd h (by simp), fun _ _ _ _ h ↦ absurd h (by simp), hclear⟩

/-- A division starts with a clear gap and the longest key behind it. -/
theorem divides_behind_iff : Divides keys cs (d.behind gap k) ↔
    ∃ rest, cs = gap ++ (k ++ rest) ∧ Clear keys gap (k ++ rest) ∧
      LongestKey keys (k ++ rest) k ∧ Divides keys rest d := by
  constructor
  · intro h
    refine ⟨d.source, ?_, h.clear [] _ _ _ rfl, h.longest [] _ _ _ rfl, rfl, ?_, ?_, h.clear_last⟩
    · rw [← h.source_eq, Division.source_behind]
    · intro before gap' k' after hparts
      exact h.longest ((gap, k) :: before) _ _ _ (congrArg _ hparts)
    · intro before gap' k' after hparts
      exact h.clear ((gap, k) :: before) _ _ _ (congrArg _ hparts)
  · rintro ⟨rest, rfl, hclear, hlongest, h⟩
    obtain rfl := h.source_eq
    refine ⟨Division.source_behind gap k d, fun before gap' k' after hparts ↦ ?_,
      fun before gap' k' after hparts ↦ ?_, h.clear_last⟩
    · cases before with
      | nil =>
        cases hparts
        exact hlongest
      | cons p before => exact h.longest before _ _ _ (List.cons.inj hparts).2
    · cases before with
      | nil =>
        cases hparts
        exact hclear
      | cons p before => exact h.clear before _ _ _ (List.cons.inj hparts).2

/-- To divide a text by keys is to cut it. -/
theorem divides_iff_cut : Divides keys cs d ↔ Cut keys cs d.pieces := by
  obtain ⟨parts, last⟩ := d
  induction parts generalizing cs with
  | nil =>
    have hpieces : Division.pieces ⟨[], last⟩ = last.map .kept ++ [] := by simp [Division.pieces]
    rw [divides_last_iff, hpieces, cut_gap_iff]
    simp [cut_nil_iff]
  | cons p parts ih =>
    change Divides keys cs (Division.behind p.1 p.2 ⟨parts, last⟩) ↔
      Cut keys cs (Division.behind p.1 p.2 ⟨parts, last⟩).pieces
    rw [divides_behind_iff, Division.pieces_behind, cut_gap_iff]
    simp only [cut_key_iff, ih]
    constructor
    · rintro ⟨rest, rfl, hclear, hlongest, hcut⟩
      exact ⟨_, rfl, hclear, rest, rfl, hlongest, hcut⟩
    · rintro ⟨_, rfl, hclear, rest, rfl, hlongest, hcut⟩
      exact ⟨rest, rfl, hclear, hlongest, hcut⟩

/-- Every text is divided by any keys in exactly one way. -/
theorem existsUnique_divides (keys : List (List Char)) (cs : List Char) :
    ∃! d, Divides keys cs d := by
  obtain ⟨ps, hps⟩ := exists_cut keys cs
  refine ⟨.ofPieces ps, divides_iff_cut.mpr ?_, fun d hd ↦ ?_⟩
  · rw [Division.pieces_ofPieces]
    exact hps
  · rw [hps.unique (divides_iff_cut.mp hd)]
    exact (Division.ofPieces_pieces d).symm

/-- How a text is divided depends on which keys there are, not on their order. -/
theorem Divides.congr (h : Divides keys cs d) (hkeys : ∀ k, k ∈ keys ↔ k ∈ others) :
    Divides others cs d := by
  have hcut := divides_iff_cut.mp h
  exact divides_iff_cut.mpr
    (hcut.of_subset (fun k hk ↦ (hkeys k).mpr hk) fun k hk ↦ (hkeys k).mp (hcut.key_mem hk))

/-- Substitution keeps the gaps of the division by the keys of its table, and writes between them
what the table says for the keys. -/
theorem substitute_eq_filled {t : Table} (ht : [] ∉ t.keys) (h : Divides t.keys cs d) :
    substitute t cs = d.filled fun k ↦ (t.last? k).getD [] := by
  rw [substitute_eq_of_cut ht (divides_iff_cut.mp h), Division.flatMap_written_pieces]

end ClusterDiagnosis.Text
