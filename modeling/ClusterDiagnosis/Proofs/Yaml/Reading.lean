import ClusterDiagnosis.Proofs.Value.Entries
import ClusterDiagnosis.Proofs.Yaml.Node
import ClusterDiagnosis.Proofs.Yaml.Source
import ClusterDiagnosis.Proofs.Yaml.Stream
import ClusterDiagnosis.Yaml.Datum

/-!
# What has no reading in a file

A file that is UTF-8 has a value, or there is a flaw in its text, or some part of the text is not
what it is said to be: then the reading ends in one of a few mismatches (`readingMismatches`), none
of which is that of bytes without characters. The other way round, a file that ends in that one is
not UTF-8 (`ends_read`).
-/

set_option autoImplicit false
set_option relaxedAutoImplicit false

namespace ClusterDiagnosis.Yaml

/-- What the reading of a text may end in besides flaws: a scalar has no reading of the kind that
its tag asks for, or nodes are nested too deeply. -/
def readingMismatches : List Mismatch :=
  [.unreadable, .outOfRange, .missingKey, .noElement, .noField, .wrongType, .tooDeep]

/-- A reading ends in no other mismatches than those of texts. -/
abbrev Reads {α : Type} (x : Except Trouble α) : Prop :=
  EndsIn (· ∈ readingMismatches) x

/-! ### Scalars -/

namespace Scalar

theorem reads_readable {α : Type} (a? : Option α) : Reads (readable a?) := by
  unfold readable
  split
  · exact .ok trivial
  · exact .mismatch (by decide)

theorem reads_switch (s : String) : Reads (switch s) := by
  unfold switch
  exact .ite (.ok trivial) (.ite (.ok trivial) (.mismatch (by decide)))

theorem reads_signed (s : String) : Reads (signed s) := by
  unfold signed
  split
  · exact .mismatch (by decide)
  · exact .ok trivial
  · exact .ok trivial
  · exact .ok trivial

theorem reads_magnitude (cs : List Char) : Reads (magnitude cs) := by
  unfold magnitude
  split
  · exact .ok trivial
  · exact reads_readable _
  · exact reads_readable _
  · exact .mismatch (by decide)
  · exact reads_readable _
  · exact .ite ((reads_readable _).map fun _ _ ↦ trivial) (reads_readable _)

theorem reads_int (s : String) : Reads (int s) :=
  (reads_signed s).bind fun _ _ ↦ (reads_magnitude _).bind fun _ _ ↦ .ok trivial

theorem reads_weighted (weight : Nat) (ds : List Double) (sum : Double) :
    Reads (weighted weight ds sum) := by
  induction ds generalizing weight sum with
  | nil => exact .ok trivial
  | cons d ds ih =>
    rw [weighted]
    split
    · exact .mismatch (by decide)
    · exact ih _ _

theorem reads_unsigned (cs : List Char) : Reads (unsigned cs) := by
  unfold unsigned
  refine .ite (.ok trivial) (.ite (.ok trivial) (.ite ?_ (reads_readable _)))
  exact (reads_readable _).bind fun _ _ ↦ reads_weighted _ _ _

theorem reads_float (s : String) : Reads (float s) :=
  (reads_signed _).bind fun _ _ ↦ (reads_unsigned _).bind fun _ _ ↦ .ok trivial

theorem reads_timestamp (s : String) : Reads (timestamp s) := by
  unfold timestamp
  split
  · exact .mismatch (by decide)
  · exact (reads_readable _).map fun _ _ ↦ trivial

theorem reads_bytes (group : List Nat) (padding : Nat) (cs : List Char) :
    Reads (bytes group padding cs) := by
  fun_induction bytes group padding cs with
  | case2 => exact .flaw _
  | case6 _ _ _ _ ih => exact ih
  | case7 _ _ _ _ _ _ ih => exact ih
  | case8 _ _ _ _ _ _ _ _ _ ih => exact ih.map fun _ _ ↦ trivial
  | case9 _ _ _ _ _ _ _ _ ih => exact ih
  | _ => exact .ok trivial

theorem reads_binary (s : String) : Reads (binary s) := by
  unfold binary
  exact .ite (.flaw _) ((reads_bytes _ _ _).map fun _ _ ↦ trivial)

/-- Every kind of scalars. -/
theorem reads_of_mem_readers {e : String × (String → Except Trouble Value)} (h : e ∈ readers)
    (s : String) : Reads (e.2 s) := by
  simp only [readers, List.mem_cons, List.not_mem_nil, or_false] at h
  rcases h with rfl | rfl | rfl | rfl | rfl | rfl | rfl
  · exact .ok trivial
  · exact reads_switch s
  · exact reads_int s
  · exact reads_float s
  · exact reads_binary s
  · exact reads_timestamp s
  · exact .ok trivial

end Scalar

namespace Demand

/-- A demand whose reader ends in no other mismatches than those of texts. -/
def IsSound : Demand → Prop
  | .scalar reading => ∀ s, Reads (reading s)
  | .timestamp => True
  | .collection _ => True

/-- The demands that tags make are sound. -/
theorem isSound_of_ofTag? {tag : String} {d : Demand} (h : ofTag? tag = some d) : d.IsSound := by
  unfold ofTag? at h
  split at h
  · cases h
  split at h
  case h_7 =>
    obtain ⟨reading, hreading, rfl⟩ := Option.map_eq_some_iff.mp h
    exact Scalar.reads_of_mem_readers (mem_of_entryAt? hreading)
  all_goals
    cases h
    trivial

/-- A tag that cannot be read gives one of the mismatches of reading. -/
theorem ends_ofTag (tag : String) : Ends (· ∈ readingMismatches) IsSound (ofTag tag) := by
  unfold ofTag
  split
  · next h => exact .ok (isSound_of_ofTag? h)
  · exact .flaw _

end Demand

/-! ### Mappings that take in others -/

/-- Taking in the entries of other mappings ends in flaws only. -/
theorem Nodes.ends_fulfil {P : Mismatch → Prop} (requests i : Nat) (taken : List (Nat × Nat))
    (ns : Nodes) : EndsIn P (Nodes.fulfil requests i taken ns) := by
  induction requests generalizing i taken ns with
  | zero => exact .ok trivial
  | succ requests ih =>
    rw [fulfil]
    split
    · exact .ok trivial
    dsimp only
    split
    · exact .flaw _
    · exact (ih _ _ _).bind fun _ _ ↦ ih _ _ _
    · refine Ends.bind (Q := fun _ ↦ True) (.foldlM trivial fun r _ item _ ↦ ?_) fun _ _ ↦ ih _ _ _
      split
      · exact (ih _ _ _).map fun _ _ ↦ trivial
      · exact .flaw _

/-! ### Values -/

namespace Builder

/-- A step ends in no other mismatches than those of texts. -/
abbrev Builds {α : Type} (p : Builder α) : Prop :=
  Keeps (fun _ ↦ True) (· ∈ readingMismatches) p

theorem builds_note (i : Nat) (d : Datum) : Builds (note i d) :=
  .modify fun _ _ ↦ trivial

theorem reads_scalarText (ns : Nodes) (steps i : Nat) : Reads (scalarText ns steps i) := by
  induction steps generalizing i with
  | zero => exact .mismatch (by decide)
  | succ steps ih =>
    rw [scalarText]
    split
    · exact .ok trivial
    · exact .flaw _
    split
    · exact ih _
    · exact .flaw _

theorem reads_timestamp (n : Node) : Reads (timestamp n) := by
  unfold timestamp
  split
  · exact Scalar.reads_timestamp _
  · exact .mismatch (by decide)

theorem builds_read (i : Nat) : Builds (read i) := by
  refine .bind_get fun b _ ↦ .ite (.pure _) ?_
  refine .bind_lift (Demand.ends_ofTag _) fun d hd ↦ ?_
  cases d with
  | scalar reading =>
    exact .bind_lift (reads_scalarText _ _ _) fun s _ ↦ .bind_lift (hd s) fun _ _ ↦ builds_note _ _
  | timestamp =>
    exact .bind_lift (reads_scalarText _ _ _) fun _ _ ↦
      .bind_lift (reads_timestamp _) fun _ _ ↦ builds_note _ _
  | collection c => exact .bind (builds_note _ _) fun _ ↦ .modify fun _ _ ↦ trivial

theorem builds_keyOf (i : Nat) : Builds (keyOf i) := by
  refine .bind_get fun b _ ↦ ?_
  split
  · exact .pure _
  · exact .flaw _

theorem builds_entries (i : Nat) : Builds (entries i) := by
  refine .bind_get fun b _ ↦ ?_
  split
  · refine .bind_get fun b _ ↦ ?_
    refine .bind_lift (Nodes.ends_fulfil _ _ _ _) fun ns _ ↦ ?_
    refine .bind (.modify fun _ _ ↦ trivial) fun _ ↦ .mapM (fun e ↦ ?_) _
    exact .bind (builds_read _) fun _ ↦ .bind (builds_keyOf _) fun key ↦
      .bind (builds_read _) fun _ ↦ .pure _
  · exact .flaw _

theorem builds_pair (f : Flaw) (i : Nat) : Builds (pair f i) := by
  refine .bind_get fun b _ ↦ ?_
  split
  · exact .bind (builds_read _) fun _ ↦ .bind (builds_read _) fun _ ↦ .pure _
  · exact .flaw _

theorem builds_readParts (i : Nat) (c : Collection) : Builds (readParts i c) := by
  refine .bind_get fun b _ ↦ ?_
  dsimp only
  split
  · exact .bind (.forM builds_read _) fun _ ↦ builds_note _ _
  · exact .flaw _
  · exact .bind (builds_entries _) fun _ ↦ builds_note _ _
  · exact .bind (builds_entries _) fun _ ↦ builds_note _ _
  · exact .bind (.mapM (builds_pair _) _) fun _ ↦ builds_note _ _
  · exact .flaw _

theorem builds_readAll (steps done : Nat) : Builds (readAll steps done) := by
  induction steps generalizing done with
  | zero => exact .pure _
  | succ steps ih =>
    rw [readAll]
    refine .bind_get fun b _ ↦ ?_
    split
    · exact .pure _
    · exact .bind (builds_readParts _ _) fun _ ↦ ih _

theorem builds_document (d : Document) : Builds (document d) :=
  .bind (builds_read _) fun _ ↦ builds_readAll _ _

end Builder

/-- The value of a document is read with no mismatch but those of reading. -/
theorem Document.reads_value (d : Document) : Reads d.value :=
  (Builder.builds_document d _ trivial).bind fun _ _ ↦ .ok trivial

/-! ### Files -/

/-- What has no reading in the bytes of a file: they are not UTF-8, or their text has none. -/
inductive Unread (bytes : List UInt8) : Mismatch → Prop where
  | bytes (h : ¬IsUtf8 bytes) : Unread bytes .undecodable
  | text {m : Mismatch} (h : m ∈ readingMismatches) : Unread bytes m

/-- Reading bytes ends with a value, a flaw, or one of the mismatches described. -/
theorem ends_read (bytes : List UInt8) : EndsIn (Unread bytes) (read bytes) := by
  have hstream := Document.ends_ofStream
    (.ofText (Source.ofBytes bytes).chars (Source.ofBytes bytes).behind)
  refine (hstream.mono (fun m hm ↦ ?_) fun _ h ↦ h).bind fun d _ ↦ ?_
  · cases hm with
    | tooDeep => exact .text (by decide)
    | behind h =>
      cases Stream.scanned_ofText _ h with
      | outOfRange => exact .text (by decide)
      | unreadable => exact .text (by decide)
      | behind h =>
        obtain ⟨rfl, hnot⟩ := Source.behind_ofBytes h
        exact .bytes hnot
  · split
    · exact .ok trivial
    · exact (Document.reads_value _).mono (fun _ h ↦ .text h) fun _ h ↦ h

end ClusterDiagnosis.Yaml
