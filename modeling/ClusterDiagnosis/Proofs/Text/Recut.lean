import ClusterDiagnosis.Proofs.Text.Cut

/-!
# Cutting what a substitution wrote

A substitution writes the pieces of a cut one behind the other. A second substitution cuts that text
anew, by keys of its own. If each of these keys occurs in the text only where the first substitution
wrote that very key for a piece (`OccursWritten`), the second cut has its boundaries exactly where
the first had them (`cut_rewritten`). Then the second substitution undoes the first, as soon as it
replaces what was written for a key by the key (`substitute_substitute`).
-/

set_option autoImplicit false
set_option relaxedAutoImplicit false

namespace ClusterDiagnosis.Text

/-- The text that a piece was cut from. -/
def Piece.source : Piece → List Char
  | .kept c => [c]
  | .key k => k

/-- A piece of the written text: what was written for a key stands there as a key. -/
def Table.rewritten (t : Table) : Piece → Piece
  | .kept c => .kept c
  | .key k => .key (t.written (.key k))

/-- Wherever the key `m` occurs in the text that is written for the pieces, it was written there for
a piece. -/
def OccursWritten (t : Table) (ps : List Piece) (m : List Char) : Prop :=
  ∀ front back, ps.flatMap t.written = front ++ m ++ back →
    ∃ qs k rs, ps = qs ++ .key k :: rs ∧ qs.flatMap t.written = front ∧ t.written (.key k) = m

variable {t u : Table} {keys : List (List Char)} {cs : List Char} {ps qs rs : List Piece}

theorem Cut.flatMap_source (h : Cut keys cs ps) : ps.flatMap Piece.source = cs := by
  induction h with
  | done => rfl
  | kept _ _ ih => rw [List.flatMap_cons, ih, Piece.source, List.singleton_append]
  | key _ _ ih => rw [List.flatMap_cons, ih, Piece.source]

/-! ### Boundaries -/

/-- Where something is written for every piece, nothing is written for no pieces only. -/
theorem flatMap_written_eq_nil_iff (h : ∀ p ∈ ps, t.written p ≠ []) :
    ps.flatMap t.written = [] ↔ ps = [] := by
  rw [List.flatMap_eq_nil_iff]
  constructor
  · intro hnil
    cases ps with
    | nil => rfl
    | cons p ps => exact absurd (hnil p List.mem_cons_self) (h p List.mem_cons_self)
  · rintro rfl
    exact nofun

/-- Two starts of the same pieces for which the same is written are the same. -/
theorem eq_of_flatMap_written_eq {qs' rs' : List Piece}
    (hps : ∀ p ∈ qs ++ rs, t.written p ≠ []) (hsame : qs ++ rs = qs' ++ rs')
    (h : qs.flatMap t.written = qs'.flatMap t.written) : qs = qs' := by
  rcases List.append_eq_append_iff.mp hsame with ⟨as, rfl, hrs⟩ | ⟨as, rfl, -⟩
  · have has : ∀ p ∈ as, t.written p ≠ [] := fun p hp ↦ hps p (by simp [hrs, hp])
    rw [List.flatMap_append, List.self_eq_append_right, flatMap_written_eq_nil_iff has] at h
    rw [h, List.append_nil]
  · have has : ∀ p ∈ as, t.written p ≠ [] := fun p hp ↦ hps p (by simp [hp])
    rw [List.flatMap_append, List.append_right_eq_self, flatMap_written_eq_nil_iff has] at h
    rw [h, List.append_nil]

/-- A key that starts the text written for the pieces from some piece on was written for that
piece. -/
theorem OccursWritten.exists_of_starts {m : List Char} (hm : OccursWritten t (qs ++ rs) m)
    (hps : ∀ p ∈ qs ++ rs, t.written p ≠ []) (hstarts : m <+: rs.flatMap t.written) :
    ∃ k rs', rs = .key k :: rs' ∧ t.written (.key k) = m := by
  obtain ⟨back, hback⟩ := hstarts
  have hwhole : (qs ++ rs).flatMap t.written = qs.flatMap t.written ++ m ++ back := by
    rw [List.flatMap_append, ← hback, List.append_assoc]
  obtain ⟨qs', k, rs', hsplit, hfront, hk⟩ := hm _ _ hwhole
  obtain rfl : qs = qs' := eq_of_flatMap_written_eq hps hsplit hfront.symm
  exact ⟨k, rs', List.append_cancel_left hsplit, hk⟩

/-! ### The second cut -/

/-- The text that is written for pieces is cut at their boundaries by keys that occur in it only
where they were written. By induction on the pieces that are still to come, behind those that were
dealt with. -/
theorem cut_rewritten (hps : ∀ p ∈ ps, t.written p ≠ [])
    (hkeys : ∀ k, .key k ∈ ps → t.written (.key k) ∈ keys)
    (hoccurs : ∀ m ∈ keys, m ≠ [] → OccursWritten t ps m) :
    Cut keys (ps.flatMap t.written) (ps.map t.rewritten) := by
  suffices hrest : ∀ rs qs, ps = qs ++ rs →
      Cut keys (rs.flatMap t.written) (rs.map t.rewritten) from hrest ps [] rfl
  intro rs
  induction rs with
  | nil => exact fun _ _ ↦ .done
  | cons p rs ih =>
    intro qs hqs
    have hrest := ih (qs ++ [p]) (by simp [hqs])
    have hstart (m : List Char) (hm : m ∈ keys) (hne : m ≠ [])
        (hstarts : m <+: (p :: rs).flatMap t.written) :
        ∃ k rs', p :: rs = .key k :: rs' ∧ t.written (.key k) = m := by
      subst hqs
      exact (hoccurs m hm hne).exists_of_starts hps hstarts
    cases p with
    | kept c =>
      refine .kept (fun m hm hne hstarts ↦ ?_) hrest
      obtain ⟨k, rs', hsplit, -⟩ := hstart m hm hne hstarts
      cases hsplit
    | key k =>
      have hmem : .key k ∈ ps := by simp [hqs]
      refine .key ⟨hkeys k hmem, hps _ hmem, List.prefix_append _ _, fun m hm hstarts ↦ ?_⟩ hrest
      by_cases hne : m = []
      · simp [hne]
      · obtain ⟨k', rs', hsplit, rfl⟩ := hstart m hm hne hstarts
        cases hsplit
        exact Nat.le_refl _

/-- A substitution by keys that occur in a written text only where they were written undoes the
substitution that wrote it, if it replaces what was written for a key by that key. -/
theorem substitute_substitute (ht : [] ∉ t.keys) (hu : [] ∉ u.keys) (h : Cut t.keys cs ps)
    (hback : ∀ k, .key k ∈ ps → u.last? (t.written (.key k)) = some k)
    (hoccurs : ∀ m ∈ u.keys, OccursWritten t ps m) :
    substitute u (substitute t cs) = cs := by
  have hkeys : ∀ k, .key k ∈ ps → t.written (.key k) ∈ u.keys := fun k hk ↦
    Table.mem_keys_of_last? (hback k hk)
  have hps : ∀ p ∈ ps, t.written p ≠ [] := by
    intro p hp
    cases p with
    | kept c => exact List.cons_ne_nil _ _
    | key k => exact fun hnil ↦ hu (hnil ▸ hkeys k hp)
  have hcut : Cut u.keys (ps.flatMap t.written) (ps.map t.rewritten) :=
    cut_rewritten hps hkeys fun m hm _ ↦ hoccurs m hm
  have hwritten : ∀ p ∈ ps, u.written (t.rewritten p) = p.source := by
    intro p hp
    cases p with
    | kept c => rfl
    | key k => rw [Table.rewritten, Table.written, hback k hp, Option.getD_some, Piece.source]
  calc substitute u (substitute t cs)
      = substitute u (ps.flatMap t.written) := by rw [substitute_eq_of_cut ht h]
    _ = (ps.map t.rewritten).flatMap u.written := substitute_eq_of_cut hu hcut
    _ = ps.flatMap Piece.source := by rw [List.flatMap_map, List.flatMap_congr hwritten]
    _ = cs := h.flatMap_source

end ClusterDiagnosis.Text
