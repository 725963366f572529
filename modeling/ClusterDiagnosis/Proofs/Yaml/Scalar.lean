import ClusterDiagnosis.Proofs.Yaml.Ends
import ClusterDiagnosis.Yaml.Property
import ClusterDiagnosis.Yaml.Scalar

/-!
# What scanning a token may end in

Whatever the text is, a token is scanned or there is a flaw. Only the escapes of quoted scalars have
numbers that are too large to be read as such, or as those of characters (`Quoted.ends_scalar`).
-/

set_option autoImplicit false
set_option relaxedAutoImplicit false

namespace ClusterDiagnosis.Yaml

variable {P : Mismatch → Prop}

/-! ### Properties and directives -/

theorem Anchor.ends_read (flaw : Flaw) (token : String → Token) (c : Cursor) :
    EndsIn P (Anchor.read flaw token c) := by
  unfold Anchor.read
  dsimp only
  split
  · exact .atChar _ _
  · exact .ok trivial

namespace Address

theorem ends_decoded (flaw : Flaw) (next : Option Char) (bytes : List UInt8) :
    EndsIn P (decoded flaw next bytes) := by
  unfold decoded
  split
  · exact .ok trivial
  · exact .atChar _ _

theorem ends_read (flaw : Flaw) (pending : List UInt8) (cs : List Char) :
    EndsIn P (read flaw pending cs) := by
  fun_induction read flaw pending cs with
  | case1 _ _ _ _ _ _ _ _ ih => exact ih
  | case2 => exact .flaw _
  | case3 =>
    split
    · exact .ended _
    · exact .flaw _
  | case4 => exact .ended _
  | case5 pending c r _ ih =>
    refine (ends_decoded _ _ _).bind fun front _ ↦ ?_
    split
    · exact ih.bind fun r _ ↦ .ok trivial
    · exact .ok trivial
  | case6 => exact (ends_decoded _ _ _).map fun _ _ ↦ trivial

theorem ends_scalar (flaw empty : Flaw) (c : Cursor) : EndsIn P (scalar flaw empty c) := by
  unfold scalar
  refine (ends_read flaw [] c.rest).bind fun r _ ↦ ?_
  exact .guarded (.atChar _ _) (.ok trivial)

end Address

namespace Tag

theorem ends_handle (flaw : Flaw) (c : Cursor) : EndsIn P (handle flaw c) := by
  unfold handle
  dsimp only
  exact .ite (.atChar _ _) (.ite (.ok trivial) (.ite (.ok trivial) (.atChar _ _)))

theorem ends_finish (t : Token) (c : Cursor) : EndsIn P (finish t c) := by
  unfold finish
  split
  · exact .ok trivial
  · exact .atChar _ _

theorem ends_read (c : Cursor) : EndsIn P (read c) := by
  unfold read
  dsimp only
  split
  · refine (Address.ends_scalar _ _ _).bind fun r _ ↦ ?_
    exact .guarded (.atChar _ _) (ends_finish _ _)
  refine .ite (ends_finish _ _) (.ite ?_ ?_)
  · refine (ends_handle _ _).bind fun r _ ↦ ?_
    exact (Address.ends_scalar _ _ _).bind fun r _ ↦ ends_finish _ _
  · exact (Address.ends_scalar _ _ _).bind fun r _ ↦ ends_finish _ _

end Tag

namespace Directive

theorem ends_number (c : Cursor) : EndsIn P (number c) := by
  unfold number
  dsimp only
  split
  · exact .atChar _ _
  · exact .ok trivial

theorem ends_readVersion (c : Cursor) : EndsIn P (readVersion c) := by
  unfold readVersion
  refine (ends_number _).bind fun r _ ↦ ?_
  refine .guarded (.atChar _ _) ?_
  refine (ends_number _).bind fun r _ ↦ ?_
  dsimp only
  split
  · exact .ok trivial
  · exact .flaw _

theorem ends_readHandle (c : Cursor) : EndsIn P (readHandle c) := by
  unfold readHandle
  refine (Tag.ends_handle _ _).bind fun r _ ↦ ?_
  refine .guarded (.atChar _ _) ?_
  refine (Address.ends_scalar _ _ _).bind fun r _ ↦ ?_
  dsimp only
  split
  · exact .ok trivial
  · exact .flaw _

theorem ends_readFields (name : String) (c : Cursor) : EndsIn P (readFields name c) := by
  unfold readFields
  exact .ite (ends_readVersion c) (.ite (ends_readHandle c) (.ok trivial))

theorem ends_read (c : Cursor) : EndsIn P (read c) := by
  unfold read
  refine .guarded (.atChar _ _) ?_
  refine (ends_readFields _ _).bind fun r _ ↦ ?_
  dsimp -zeta only
  extract_lets _ behind
  split
  · exact .ok trivial
  · exact .flaw _

end Directive

/-! ### Scalars -/

namespace Quoted

variable {double : Bool}

/-- The number of an escape may be too large as a number, or as that of a character. -/
theorem ends_code (hrange : P .outOfRange) (hread : P .unreadable) (n : Nat) :
    EndsIn P (code n) := by
  unfold code
  exact .ite (.mismatch hrange) (.ite (.mismatch hread) (.ok trivial))

/-- From a character on a scalar is read as from the characters behind it. Inside of single quotes a
quote is written as two. -/
theorem ends_text (before : List Nat) (c : Char) (r : List Char)
    (h : ∀ p before r', r'.length ≤ r.length → EndsIn P (read double p before r')) :
    EndsIn P (read.text double before c r) := by
  have hr (p : Place) (before : List Nat) : EndsIn P (read double p before r) :=
    h p before r (Nat.le_refl _)
  unfold read.text
  refine .ite (.ite (.ok trivial) (.ite (hr _ _) (hr _ _))) (.ite ?_ (hr _ _))
  split
  · exact h _ _ _ (Nat.le_succ _)
  · exact .ok trivial

theorem ends_read (hrange : P .outOfRange) (hread : P .unreadable) (p : Place)
    (before : List Nat) (cs : List Char) : EndsIn P (read double p before cs) := by
  induction hlength : cs.length using Nat.strongRecOn generalizing p before cs with
  | _ n ih =>
  cases cs with
  | nil => cases p <;> (rw [read]; exact .ended _)
  | cons c r =>
    have hshorter : ∀ p before r', r'.length ≤ r.length →
        EndsIn P (read double p before r') := fun p before r' hr ↦
      ih _ (by rw [← hlength]; exact Nat.lt_succ_of_le hr) p before r' rfl
    have hr : ∀ p before, EndsIn P (read double p before r) := fun p before ↦
      hshorter p before r (Nat.le_refl _)
    cases p with
    | escape =>
      rw [read]
      refine .ite (.ite (.atChar _ _) (hr _ _)) ?_
      split
      · exact hr _ _
      · exact hr _ _
      · exact .flaw _
    | digits left value =>
      rw [read]
      split
      · exact .flaw _
      · exact .ite (hr _ _) ((ends_code hrange hread _).bind fun n _ ↦ hr _ _)
    | line blanks =>
      rw [read]
      refine .ite (.ite (.atChar _ _) (hr _ _)) ?_
      exact .ite (hr _ _) (ends_text _ _ _ hshorter)
    | start folded =>
      rw [read]
      refine .ite (.ite (.atChar _ _) (hr _ _)) ?_
      exact .ite (hr _ _) (ends_text _ _ _ hshorter)

theorem ends_scalar (hrange : P .outOfRange) (hread : P .unreadable) (double : Bool)
    (c : Cursor) : EndsIn P (scalar double c) :=
  (ends_read hrange hread _ _ _).bind fun _ _ ↦ .ok trivial

end Quoted

namespace Block

theorem ends_indentation? (cs : List Char) : EndsIn P (indentation? cs) := by
  unfold indentation?
  split
  · exact .ok trivial
  split
  · exact .ok trivial
  · exact .flaw _
  · exact .ok trivial

theorem ends_header (cs : List Char) : EndsIn P (header cs) := by
  unfold header
  split
  · exact (ends_indentation? _).bind fun r _ ↦ .ok trivial
  · refine (ends_indentation? _).bind fun r _ ↦ ?_
    dsimp only
    split
    · exact .ok trivial
    · exact .ok trivial

theorem ends_scalar (folding : Bool) (outer : Option Nat) (c : Cursor) :
    EndsIn P (scalar folding outer c) := by
  unfold scalar
  refine (ends_header _).bind fun r _ ↦ ?_
  refine .guarded (.flaw _) ?_
  exact .guarded (.flaw _) (.ok trivial)

end Block

end ClusterDiagnosis.Yaml
