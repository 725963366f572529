import ClusterDiagnosis.Proofs.Yaml.Scalar
import ClusterDiagnosis.Yaml.Stream

/-!
# The mismatch at the end of a stream

No step of the lexer changes what is behind the text (`Lexer.ends_step`). So a stream ends in a
mismatch only where an escape has a number that is too large, or where the text has one behind it
(`Stream.scanned_ofText`).
-/

set_option autoImplicit false
set_option relaxedAutoImplicit false

namespace ClusterDiagnosis.Yaml

/-- What scanning may end in: an escape with a number that is too large, or what is behind the
text. -/
inductive Scanned (behind : Option Trouble) : Mismatch → Prop where
  | outOfRange : Scanned behind .outOfRange
  | unreadable : Scanned behind .unreadable
  | behind {m : Mismatch} (h : behind = some (.mismatch m)) : Scanned behind m

theorem Scanned.ends {behind : Option Trouble} {α : Type} {Q : α → Prop} {t : Trouble}
    (h : behind = some t) : Ends (Scanned behind) Q (.error t) := by
  refine .error ?_
  rintro m rfl
  exact .behind h

/-- The text goes on to the given trouble behind it. -/
def LexerStep.GoesOn (behind : Option Trouble) : LexerStep → Prop
  | .more l => l.behind = behind
  | .last _ => True

namespace Lexer

variable {P : Mismatch → Prop}

theorem ends_dropStale (l : Lexer) : Ends P (fun l' ↦ l'.behind = l.behind) l.dropStale := by
  unfold dropStale
  split
  · exact .flaw _
  · exact .ok rfl

theorem ends_dropKey (l : Lexer) : Ends P (fun l' ↦ l'.behind = l.behind) l.dropKey := by
  unfold dropKey
  split
  · exact .flaw _
  · exact .ok rfl

theorem ends_noteKey (l : Lexer) : Ends P (fun l' ↦ l'.behind = l.behind) l.noteKey := by
  unfold noteKey
  split
  · exact l.ends_dropKey.map fun _ h ↦ h
  · exact .ok rfl

theorem behind_closeBlocks (l : Lexer) (column : Option Nat) :
    (l.closeBlocks column).behind = l.behind := by
  unfold closeBlocks
  split <;> rfl

theorem behind_openBlock (l : Lexer) (t : Token) : (l.openBlock t).behind = l.behind := by
  unfold openBlock
  split <;> rfl

variable (l : Lexer)

theorem ends_closing {read : TokenReader} (hread : ∀ c, EndsIn P (read c)) :
    Ends P (LexerStep.GoesOn l.behind) (l.closing read) := by
  refine (ends_dropKey _).bind fun k hk ↦ ?_
  rw [behind_closeBlocks] at hk
  exact (hread _).bind fun r _ ↦ .ok hk

theorem ends_marker (c : Cursor) : EndsIn P (marker c) :=
  .ok trivial

theorem ends_finish : Ends P (LexerStep.GoesOn l.behind) l.finish :=
  (ends_dropKey _).bind fun _ _ ↦ .ok trivial

theorem ends_openBracket (t : Token) : Ends P (LexerStep.GoesOn l.behind) (l.openBracket t) :=
  l.ends_noteKey.bind fun _ hk ↦ .ok hk

theorem ends_closeBracket (t : Token) : Ends P (LexerStep.GoesOn l.behind) (l.closeBracket t) := by
  refine l.ends_dropKey.bind fun k hk ↦ ?_
  split
  · exact .ok hk
  · exact .ok trivial

theorem ends_flowEntry : Ends P (LexerStep.GoesOn l.behind) l.flowEntry :=
  l.ends_dropKey.bind fun _ hk ↦ .ok hk

theorem ends_indicator (misplaced : Flaw) (opening t : Token) (mayBeKey : Bool) :
    Ends P (LexerStep.GoesOn l.behind) (l.indicator misplaced opening t mayBeKey) := by
  unfold indicator
  refine .guarded (.flaw _) ?_
  extract_lets opened
  have hopened : opened.behind = l.behind := by
    unfold opened
    split
    · rfl
    · exact l.behind_openBlock opening
  exact opened.ends_dropKey.bind fun k hk ↦ .ok (hk.trans hopened)

theorem ends_valueMark : Ends P (LexerStep.GoesOn l.behind) l.valueMark := by
  unfold valueMark
  split
  · exact l.ends_indicator _ _ _ _
  · refine .ok ?_
    unfold LexerStep.GoesOn
    dsimp only
    split <;> rfl

theorem ends_keyed {read : TokenReader} (hread : ∀ c, EndsIn P (read c)) :
    Ends P (LexerStep.GoesOn l.behind) (l.keyed read) :=
  l.ends_noteKey.bind fun _ hk ↦ (hread _).bind fun _ _ ↦ .ok hk

theorem ends_quoted (hrange : P .outOfRange) (hread : P .unreadable) (double : Bool)
    (c : Cursor) : EndsIn P (quoted double c) :=
  (Quoted.ends_scalar hrange hread double c).map fun _ _ ↦ trivial

theorem ends_block (folding : Bool) : Ends P (LexerStep.GoesOn l.behind) (l.block folding) :=
  l.ends_dropKey.bind fun _ hk ↦ (Block.ends_scalar _ _ _).bind fun _ _ ↦ .ok hk

theorem ends_plain : Ends P (LexerStep.GoesOn l.behind) l.plain :=
  l.ends_noteKey.bind fun _ hk ↦ .ok hk

/-- Of all tokens only the quoted scalars end in mismatches. -/
theorem ends_dispatch (hrange : P .outOfRange) (hread : P .unreadable) (c : Char)
    (next : Option Char) : Ends P (LexerStep.GoesOn l.behind) (l.dispatch c next) := by
  unfold dispatch
  dsimp only
  refine .ite (l.ends_closing Directive.ends_read) ?_
  refine .ite (l.ends_closing ends_marker) ?_
  refine .ite (l.ends_openBracket _) ?_
  refine .ite (l.ends_openBracket _) ?_
  refine .ite (l.ends_closeBracket _) ?_
  refine .ite (l.ends_closeBracket _) ?_
  refine .ite (l.ends_flowEntry) ?_
  refine .ite (l.ends_indicator _ _ _ _) ?_
  refine .ite (l.ends_indicator _ _ _ _) ?_
  refine .ite (l.ends_valueMark) ?_
  refine .ite (l.ends_keyed (Anchor.ends_read _ _)) ?_
  refine .ite (l.ends_keyed (Anchor.ends_read _ _)) ?_
  refine .ite (l.ends_keyed Tag.ends_read) ?_
  refine .ite (l.ends_block _) ?_
  refine .ite (l.ends_block _) ?_
  refine .ite (l.ends_keyed (ends_quoted hrange hread _)) ?_
  refine .ite (l.ends_keyed (ends_quoted hrange hread _)) ?_
  refine .ite (l.ends_plain) ?_
  exact .flaw _

theorem ends_meet {s : LexerStep} (hs : s.GoesOn l.behind) :
    Ends (Scanned l.behind) (LexerStep.GoesOn l.behind) (settle.meet l s) := by
  unfold settle.meet
  split
  · exact .ok hs
  · next h => exact Scanned.ends h

/-- Settling on a token ends with no mismatch but those of scanning and that of the bytes behind. -/
theorem ends_settle {s : LexerStep} (hs : s.GoesOn l.behind) :
    Ends (Scanned l.behind) (LexerStep.GoesOn l.behind) (l.settle s) := by
  unfold settle
  split
  · exact .ite (l.ends_meet hs) (.ok hs)
  · exact .ite (l.ends_meet hs) (.ok hs)

/-- What is behind the text stays there, and a step ends in nothing else than it and escapes with
numbers that are too large. -/
theorem ends_step : Ends (Scanned l.behind) (LexerStep.GoesOn l.behind) l.step := by
  unfold step
  refine (ends_dropStale _).bind fun k hk ↦ ?_
  extract_lets closed
  have hclosed : closed.behind = l.behind := (behind_closeBlocks _ _).trans hk
  rw [← hclosed]
  split
  · exact closed.ends_finish
  · next h => exact Scanned.ends h
  · next h => exact Scanned.ends h
  · exact (closed.ends_dispatch .outOfRange .unreadable _ _).bind fun s hs ↦ closed.ends_settle hs

/-- Trouble is a mismatch as it stands, or by what is behind the text. -/
theorem scanned_of_before {behind : Option Trouble} {t : Trouble} {m : Mismatch}
    (ht : ∀ m, t = .mismatch m → Scanned behind m) (h : t.before behind = .mismatch m) :
    Scanned behind m := by
  cases t with
  | flaw f => cases h
  | mismatch m' => exact ht m h
  | ended f =>
    cases behind with
    | none => cases h
    | some t => exact .behind (congrArg some h)

/-- A run of the lexer ends in what a step of it ends in. -/
theorem scanned_of_trouble_run {behind : Option Trouble} {m : Mismatch} (steps : Nat)
    (hl : l.behind = behind) (h : (l.run steps).trouble = some (.mismatch m)) :
    Scanned behind m := by
  induction steps generalizing l with
  | zero => cases h
  | succ steps ih =>
    unfold run at h
    have hstale := l.ends_dropStale (P := Scanned behind)
    split at h
    · next e he =>
      rw [hl] at h
      exact scanned_of_before (fun m hm ↦ hstale.of_mismatch m (by rw [he, hm])) (Option.some.inj h)
    · next k hk =>
      have hk : k.behind = behind := (hstale.of_result k hk).trans hl
      have hstep := k.ends_step
      rw [hk] at hstep
      split at h
      · next e he =>
        rw [hk] at h
        exact scanned_of_before (fun m hm ↦ hstep.of_mismatch m (by rw [he, hm]))
          (Option.some.inj h)
      · cases h
      · next k' hk' => exact ih k' (hstep.of_result _ hk') h

end Lexer

/-- The stream of a text ends in a mismatch only if an escape has a number that is too large, or
there is one behind the text. -/
theorem Stream.scanned_ofText {behind : Option Trouble} {m : Mismatch} (cs : List Char)
    (h : (Stream.ofText cs behind).trouble = some (.mismatch m)) : Scanned behind m :=
  Lexer.scanned_of_trouble_run _ _ rfl h

end ClusterDiagnosis.Yaml
