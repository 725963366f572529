import ClusterDiagnosis.Proofs.Text.Search
import ClusterDiagnosis.Text.Substitution
import Mathlib.Data.List.Basic
import Mathlib.Data.List.Induction

/-!
# The cut of a text by keys

Substitution replaces, from the left, the longest key that starts the text. Which keys it meets
depends on the keys alone and not on what they are replaced by. The cut of a text records them: a
list of pieces, each a key or a single character at which no key starts. Every text has exactly one
cut, and substitution writes the pieces of the cut one behind the other.
-/

set_option autoImplicit false
set_option relaxedAutoImplicit false

namespace ClusterDiagnosis.Text

/-! ### The key at a place -/

section Keys

/-- No key starts the text. -/
def NoKey (keys : List (List Char)) (cs : List Char) : Prop :=
  ∀ k ∈ keys, k ≠ [] → ¬k <+: cs

instance (keys : List (List Char)) (cs : List Char) : Decidable (NoKey keys cs) :=
  inferInstanceAs (Decidable (∀ k ∈ keys, k ≠ [] → ¬k <+: cs))

/-- The longest of the keys that start the text. -/
structure LongestKey (keys : List (List Char)) (cs k : List Char) : Prop where
  mem : k ∈ keys
  ne_nil : k ≠ []
  starts : k <+: cs
  longest : ∀ k' ∈ keys, k' <+: cs → k'.length ≤ k.length

variable {keys others : List (List Char)} {cs k k' : List Char}

/-- There is one longest key at most. -/
theorem LongestKey.unique (h : LongestKey keys cs k) (h' : LongestKey keys cs k') : k = k' :=
  (List.prefix_of_prefix_length_le h.starts h'.starts
    (h'.longest k h.mem h.starts)).eq_of_length_le (h.longest k' h'.mem h'.starts)

theorem LongestKey.not_noKey (h : LongestKey keys cs k) : ¬NoKey keys cs :=
  fun hno ↦ hno k h.mem h.ne_nil h.starts

/-- With fewer keys the longest one stays the longest, if it is still there. -/
theorem LongestKey.of_subset (h : LongestKey keys cs k) (hsub : others ⊆ keys)
    (hk : k ∈ others) : LongestKey others cs k :=
  ⟨hk, h.ne_nil, h.starts, fun k' hk' ↦ h.longest k' (hsub hk')⟩

theorem NoKey.of_subset (h : NoKey keys cs) (hsub : others ⊆ keys) : NoKey others cs :=
  fun k hk ↦ h k (hsub hk)

/-- A further key that is empty, or does not start the text, is no key there. -/
theorem NoKey.concat (h : NoKey keys cs) (hk : k ≠ [] → ¬k <+: cs) : NoKey (keys ++ [k]) cs := by
  intro k' hk'
  rcases List.mem_append.mp hk' with hold | hnew
  · exact h k' hold
  · rw [List.mem_singleton.mp hnew]
    exact hk

/-- A further key that is no longer than the longest one changes nothing. -/
theorem LongestKey.concat_old (h : LongestKey keys cs k)
    (hk' : k' <+: cs → k'.length ≤ k.length) : LongestKey (keys ++ [k']) cs k := by
  refine ⟨List.mem_append_left _ h.mem, h.ne_nil, h.starts, fun k'' hk'' ↦ ?_⟩
  rcases List.mem_append.mp hk'' with hold | hnew
  · exact h.longest k'' hold
  · rw [List.mem_singleton.mp hnew]
    exact hk'

/-- A further key that starts the text and is as long as every other one is the longest. -/
theorem LongestKey.concat_new (hne : k ≠ []) (hk : k <+: cs)
    (hle : ∀ k' ∈ keys, k' <+: cs → k'.length ≤ k.length) : LongestKey (keys ++ [k]) cs k := by
  refine ⟨by simp, hne, hk, fun k' hk' hstarts ↦ ?_⟩
  rcases List.mem_append.mp hk' with hold | hnew
  · exact hle k' hold hstarts
  · exact (List.mem_singleton.mp hnew ▸ Nat.le_refl _)

end Keys

/-! ### Tables -/

namespace Table

/-- The keys of a table. -/
def keys (t : Table) : List (List Char) :=
  t.map Prod.fst

/-- The replacement of a key: of pairs with this key, that of the last. -/
def last? (t : Table) (k : List Char) : Option (List Char) :=
  t.foldl (fun found (key, value) ↦ if key = k then some value else found) none

theorem keys_concat (t : Table) (p : List Char × List Char) :
    keys (t ++ [p]) = keys t ++ [p.1] := by
  simp [keys]

theorem last?_concat (t : Table) (p : List Char × List Char) (k : List Char) :
    last? (t ++ [p]) k = if p.1 = k then some p.2 else last? t k := by
  simp [last?]

/-- Only keys of the table have a replacement. -/
theorem mem_keys_of_last? {t : Table} {k value : List Char} (h : t.last? k = some value) :
    k ∈ t.keys := by
  induction t using List.reverseRecOn with
  | nil => cases h
  | append_singleton t p ih =>
    rw [keys_concat, List.mem_append, List.mem_singleton]
    rw [last?_concat] at h
    by_cases hp : p.1 = k
    · exact .inr hp.symm
    · rw [if_neg hp] at h
      exact .inl (ih h)

/-- A key of the table has a replacement, which stands beside it. -/
theorem exists_last?_of_mem_keys {t : Table} {k : List Char} (hk : k ∈ t.keys) :
    ∃ value, t.last? k = some value ∧ (k, value) ∈ t := by
  induction t using List.reverseRecOn with
  | nil => cases hk
  | append_singleton t p ih =>
    rw [last?_concat]
    by_cases hp : p.1 = k
    · exact ⟨p.2, if_pos hp, by simp [← hp]⟩
    · rw [keys_concat, List.mem_append, List.mem_singleton] at hk
      obtain ⟨value, hvalue, hmem⟩ := ih (hk.resolve_right (Ne.symm hp))
      exact ⟨value, by rw [if_neg hp, hvalue], List.mem_append_left _ hmem⟩

/-- If one replacement only stands beside a key, it is the one that counts. -/
theorem last?_eq_some {t : Table} {k value : List Char} (hmem : (k, value) ∈ t)
    (hunique : ∀ v, (k, v) ∈ t → v = value) : t.last? k = some value := by
  obtain ⟨v, hv, hvmem⟩ := exists_last?_of_mem_keys (List.mem_map_of_mem hmem)
  rw [hv, hunique v hvmem]

/-- A further pair of the table wins if its key is longer, or as long as the one found before. -/
theorem longest?_concat (t : Table) (key value cs : List Char) :
    longest? (t ++ [(key, value)]) cs =
      if key.isEmpty then longest? t cs
      else match after? key cs with
        | none => longest? t cs
        | some rest =>
          match longest? t cs with
          | none => some (value, rest)
          | some (v, shortest) =>
            if rest.length ≤ shortest.length then some (value, rest) else some (v, shortest) := by
  rw [longest?, List.foldl_append]
  rfl

/-- What the substitution finds at a place: nothing where no key starts, and otherwise the longest
key there, its replacement and the text behind it. -/
def Found (t : Table) (cs : List Char) : Option (List Char × List Char) → Prop
  | none => NoKey t.keys cs
  | some (value, rest) => ∃ k, LongestKey t.keys cs k ∧ cs = k ++ rest ∧ t.last? k = some value

/-- A pair whose key is empty or does not start the text has no part in what is found. -/
theorem Found.concat_old {t : Table} {key value cs : List Char}
    {found : Option (List Char × List Char)} (h : t.Found cs found)
    (hkey : key ≠ [] → ¬key <+: cs) : Found (t ++ [(key, value)]) cs found := by
  cases found with
  | none => simpa [Found, keys_concat] using NoKey.concat h hkey
  | some p =>
    obtain ⟨v, rest⟩ := p
    obtain ⟨k, hk, hcs, hv⟩ := h
    have hne : key ≠ k := by
      rintro rfl
      exact hkey hk.ne_nil hk.starts
    refine ⟨k, ?_, hcs, by rw [last?_concat, if_neg hne, hv]⟩
    rw [keys_concat]
    refine hk.concat_old fun hstarts ↦ ?_
    have hnil : key = [] := by
      by_contra hne
      exact hkey hne hstarts
    simp [hnil]

/-- A pair whose key starts the text, and is as long as every other that does, is what is found. -/
theorem Found.concat_new {t : Table} {key value cs rest : List Char} (hne : key ≠ [])
    (hcs : cs = key ++ rest) (hle : ∀ k ∈ keys t, k <+: cs → k.length ≤ key.length) :
    Found (t ++ [(key, value)]) cs (some (value, rest)) := by
  refine ⟨key, ?_, hcs, by simp [last?_concat]⟩
  rw [keys_concat]
  exact LongestKey.concat_new hne ⟨rest, hcs.symm⟩ hle

/-- The search finds the longest key with its last value, by induction on the table from its end. Of
two keys the longer one leaves the shorter rest. -/
theorem found_longest? (t : Table) (cs : List Char) : t.Found cs (t.longest? cs) := by
  induction t using List.reverseRecOn with
  | nil => simp [longest?, Found, NoKey, keys]
  | append_singleton t p ih =>
    obtain ⟨key, value⟩ := p
    rw [longest?_concat]
    by_cases hempty : key = []
    · rw [if_pos (by simp [hempty])]
      exact ih.concat_old fun hne ↦ absurd hempty hne
    rw [if_neg (by simpa using hempty)]
    cases hafter : after? key cs with
    | none => exact ih.concat_old fun _ ↦ after?_eq_none_iff.mp hafter
    | some rest =>
      have hcs := after?_eq_some_iff.mp hafter
      cases hfound : longest? t cs with
      | none =>
        rw [hfound] at ih
        refine Found.concat_new hempty hcs fun k' hk' hstarts ↦ ?_
        have hnil : k' = [] := by
          by_contra hne
          exact ih k' hk' hne hstarts
        simp [hnil]
      | some p =>
        obtain ⟨v, shortest⟩ := p
        rw [hfound] at ih
        obtain ⟨k, hk, hk_cs, hv⟩ := ih
        have hlen : key.length + rest.length = k.length + shortest.length := by
          rw [← List.length_append, ← List.length_append, ← hcs, ← hk_cs]
        by_cases hle : rest.length ≤ shortest.length
        · simp only [if_pos hle]
          refine Found.concat_new hempty hcs fun k' hk' hstarts ↦ ?_
          have := hk.longest k' hk' hstarts
          omega
        · simp only [if_neg hle]
          have hshort : key.length ≤ k.length := by omega
          refine ⟨k, ?_, hk_cs, ?_⟩
          · rw [keys_concat]
            exact hk.concat_old fun _ ↦ hshort
          · rw [last?_concat, if_neg, hv]
            intro hsame
            have : key.length = k.length := congrArg List.length hsame
            omega

theorem longest?_eq_none {t : Table} {cs : List Char} (h : NoKey t.keys cs) :
    t.longest? cs = none := by
  have hfound := t.found_longest? cs
  cases hlongest : t.longest? cs with
  | none => rfl
  | some p =>
    rw [hlongest] at hfound
    obtain ⟨k, hk, -⟩ := hfound
    exact absurd h hk.not_noKey

theorem longest?_eq_some {t : Table} {k rest : List Char}
    (h : LongestKey t.keys (k ++ rest) k) :
    t.longest? (k ++ rest) = some ((t.last? k).getD [], rest) := by
  have hfound := t.found_longest? (k ++ rest)
  cases hlongest : t.longest? (k ++ rest) with
  | none =>
    rw [hlongest] at hfound
    exact absurd hfound h.not_noKey
  | some p =>
    obtain ⟨value, rest'⟩ := p
    rw [hlongest] at hfound
    obtain ⟨k', hk', hcs, hvalue⟩ := hfound
    obtain rfl := h.unique hk'
    rw [hvalue, List.append_cancel_left hcs]
    rfl

/-- Where no key is empty, the places between the characters are replaced by nothing. -/
theorem gap_eq_nil {t : Table} (ht : [] ∉ t.keys) : t.gap = [] := by
  induction t using List.reverseRecOn with
  | nil => rfl
  | append_singleton t p ih =>
    rw [keys_concat, List.mem_append, List.mem_singleton, not_or] at ht
    have hlast : gap (t ++ [p]) = if p.1.isEmpty then p.2 else gap t := by
      rw [gap, List.foldl_append]
      rfl
    rw [hlast, if_neg (by simpa using Ne.symm ht.2), ih ht.1]

end Table

/-! ### Pieces -/

/-- A piece of a text: a character that stays, or a key. -/
inductive Piece where
  | kept (c : Char)
  | key (k : List Char)
  deriving DecidableEq, Repr

/-- The text cut from the left into keys, always the longest, and characters where no key starts. -/
inductive Cut (keys : List (List Char)) : List Char → List Piece → Prop
  | done : Cut keys [] []
  | kept {c : Char} {cs : List Char} {ps : List Piece} :
      NoKey keys (c :: cs) → Cut keys cs ps → Cut keys (c :: cs) (.kept c :: ps)
  | key {k rest : List Char} {ps : List Piece} :
      LongestKey keys (k ++ rest) k → Cut keys rest ps → Cut keys (k ++ rest) (.key k :: ps)

variable {keys others : List (List Char)} {cs : List Char} {ps qs : List Piece}

theorem Cut.eq_nil (h : Cut keys [] ps) : ps = [] := by
  generalize hcs : ([] : List Char) = cs at h
  cases h with
  | done => rfl
  | kept => cases hcs
  | key hk => exact absurd (List.append_eq_nil_iff.mp hcs.symm).1 hk.ne_nil

theorem Cut.exists_of_noKey {c : Char} (h : Cut keys (c :: cs) ps) (hno : NoKey keys (c :: cs)) :
    ∃ qs, ps = .kept c :: qs ∧ Cut keys cs qs := by
  generalize hcs : c :: cs = whole at h
  cases h with
  | done => cases hcs
  | kept _ hrest =>
    cases hcs
    exact ⟨_, rfl, hrest⟩
  | key hk => exact absurd (hcs ▸ hno) hk.not_noKey

theorem Cut.exists_of_longestKey {k rest : List Char} (h : Cut keys (k ++ rest) ps)
    (hk : LongestKey keys (k ++ rest) k) : ∃ qs, ps = .key k :: qs ∧ Cut keys rest qs := by
  generalize hcs : k ++ rest = whole at h
  cases h with
  | done => exact absurd (List.append_eq_nil_iff.mp hcs).1 hk.ne_nil
  | kept hno => exact absurd (hcs ▸ hno) hk.not_noKey
  | key hk' hrest =>
    obtain rfl := hk.unique (hcs ▸ hk')
    obtain rfl := List.append_cancel_left hcs
    exact ⟨_, rfl, hrest⟩

/-- A text has one cut, by induction on it. -/
theorem Cut.unique (h : Cut keys cs ps) (h' : Cut keys cs qs) : ps = qs := by
  induction h generalizing qs with
  | done => exact h'.eq_nil.symm
  | kept hno _ ih =>
    obtain ⟨qs, rfl, hrest⟩ := h'.exists_of_noKey hno
    rw [ih hrest]
  | key hk _ ih =>
    obtain ⟨qs, rfl, hrest⟩ := h'.exists_of_longestKey hk
    rw [ih hrest]

/-- At the start of a text there is a longest key, or none: what a table with these keys finds
there. -/
theorem noKey_or_exists_longestKey (keys : List (List Char)) (cs : List Char) :
    NoKey keys cs ∨ ∃ k rest, cs = k ++ rest ∧ LongestKey keys cs k := by
  have hfound := Table.found_longest? (keys.map fun k ↦ (k, [])) cs
  have hkeys : Table.keys (keys.map fun k ↦ (k, [])) = keys := by
    simp [Table.keys, Function.comp_def]
  cases h : Table.longest? (keys.map fun k ↦ (k, [])) cs with
  | none =>
    rw [h, Table.Found, hkeys] at hfound
    exact .inl hfound
  | some p =>
    rw [h, Table.Found, hkeys] at hfound
    obtain ⟨k, hk, hcs, -⟩ := hfound
    exact .inr ⟨k, p.2, hcs, hk⟩

/-- Every text has a cut. -/
theorem exists_cut (keys : List (List Char)) (cs : List Char) : ∃ ps, Cut keys cs ps := by
  induction hn : cs.length using Nat.strongRecOn generalizing cs with
  | ind n ih =>
    subst hn
    rcases noKey_or_exists_longestKey keys cs with hno | ⟨k, rest, rfl, hk⟩
    · cases cs with
      | nil => exact ⟨[], .done⟩
      | cons c cs =>
        obtain ⟨ps, hps⟩ := ih cs.length (by simp) cs rfl
        exact ⟨_, .kept hno hps⟩
    · have hpos := List.length_pos_iff.mpr hk.ne_nil
      obtain ⟨ps, hps⟩ := ih rest.length (by rw [List.length_append]; omega) rest rfl
      exact ⟨_, .key hk hps⟩

/-- A cut without some of the keys is the same cut, if none of the keys it meets is among them. -/
theorem Cut.of_subset (h : Cut keys cs ps) (hsub : others ⊆ keys)
    (hps : ∀ k, .key k ∈ ps → k ∈ others) : Cut others cs ps := by
  induction h with
  | done => exact .done
  | kept hno _ ih =>
    exact .kept (hno.of_subset hsub) (ih fun k hk ↦ hps k (List.mem_cons_of_mem _ hk))
  | key hk _ ih =>
    exact .key (hk.of_subset hsub (hps _ List.mem_cons_self))
      (ih fun k hk ↦ hps k (List.mem_cons_of_mem _ hk))

theorem Cut.key_mem {k : List Char} (h : Cut keys cs ps) (hk : .key k ∈ ps) : k ∈ keys := by
  induction h with
  | done => cases hk
  | kept _ _ ih => exact ih ((List.mem_cons.mp hk).resolve_left nofun)
  | key hlongest _ ih =>
    rcases List.mem_cons.mp hk with hhead | htail
    · cases hhead
      exact hlongest.mem
    · exact ih htail

/-! ### Substitution along the cut -/

/-- A character where no key starts stays. -/
theorem substitute_kept {t : Table} {c : Char} (h : NoKey t.keys (c :: cs)) :
    substitute t (c :: cs) = t.gap ++ c :: substitute t cs := by
  rw [substitute, Table.longest?_eq_none h]

/-- The longest key is replaced by its last value. -/
theorem substitute_key {t : Table} {k rest : List Char} (h : LongestKey t.keys (k ++ rest) k) :
    substitute t (k ++ rest) = (t.last? k).getD [] ++ substitute t rest := by
  have hlongest := Table.longest?_eq_some h
  cases k with
  | nil => exact absurd rfl h.ne_nil
  | cons c r =>
    rw [List.cons_append] at hlongest ⊢
    rw [substitute, hlongest]
    exact if_pos (by rw [List.length_cons, List.length_append]; omega)

/-- What a piece becomes. -/
def Table.written (t : Table) : Piece → List Char
  | .kept c => [c]
  | .key k => (t.last? k).getD []

/-- Substitution writes the pieces of the cut. -/
theorem substitute_eq_of_cut {t : Table} (ht : [] ∉ t.keys) (h : Cut t.keys cs ps) :
    substitute t cs = ps.flatMap t.written := by
  have hgap := Table.gap_eq_nil ht
  induction h with
  | done => rw [substitute, hgap, List.flatMap_nil]
  | kept hno _ ih =>
    rw [substitute_kept hno, hgap, ih]
    rfl
  | key hk _ ih =>
    rw [substitute_key hk, ih]
    rfl

theorem substitute_nil (cs : List Char) : substitute [] cs = cs := by
  induction cs with
  | nil =>
    rw [substitute]
    rfl
  | cons c cs ih =>
    have hno : NoKey (Table.keys []) (c :: cs) := by simp [NoKey, Table.keys]
    rw [substitute_kept hno, ih]
    rfl

/-- If no key becomes longer than it is, no text does. -/
theorem length_flatMap_written_le {t : Table} (h : Cut keys cs ps)
    (ht : ∀ k, .key k ∈ ps → (t.written (.key k)).length ≤ k.length) :
    (ps.flatMap t.written).length ≤ cs.length := by
  induction h with
  | done => exact Nat.le_refl _
  | kept _ _ ih =>
    have hrest := ih fun k hk ↦ ht k (List.mem_cons_of_mem _ hk)
    simpa [Table.written, Nat.add_comm 1] using hrest
  | key _ _ ih =>
    have hrest := ih fun k hk ↦ ht k (List.mem_cons_of_mem _ hk)
    have hfirst := ht _ List.mem_cons_self
    rw [List.flatMap_cons, List.length_append, List.length_append]
    exact Nat.add_le_add hfirst hrest

end ClusterDiagnosis.Text
