import ClusterDiagnosis.Proofs.Yaml.Utf8

/-!
# Reading the characters of a file

A file that is UTF-8 is read as characters, chunk by chunk (`Feed.IsText.takePiece`), up to its end
or to a character that may not be in a text. So the bytes are the only reason for which they have no
reading (`Source.behind_ofBytes`).
-/

set_option autoImplicit false
set_option relaxedAutoImplicit false

namespace ClusterDiagnosis.Yaml

variable {f g : Feed} {t : Trouble} {m : Mismatch} {more : Bool} {piece : List Char}

namespace Feed

/-- What is left of the file is UTF-8, together with the part of a character in front. -/
def IsText (f : Feed) : Prop :=
  IsUtf8 (f.part ++ f.bytes)

theorem bytes_eq_nil_of_take {wanted : Nat} (h : f.bytes.take (f.chunkLength wanted) = []) :
    f.bytes = [] := by
  refine (List.take_eq_nil_iff.mp h).resolve_left ?_
  have : minChunk ≤ f.chunkLength wanted := Nat.le_max_left _ _
  unfold minChunk at this
  omega

/-- What is left of the file in front of a chunk. -/
theorem part_append_bytes (f : Feed) (wanted : Nat) :
    f.part ++ f.bytes = f.part ++ f.bytes.take (f.chunkLength wanted) ++
      f.bytes.drop (f.bytes.take (f.chunkLength wanted)).length := by
  rw [List.append_assoc, List.prefix_iff_eq_append.mp (List.take_prefix _ _)]

/-- A chunk fails only if the file is not UTF-8. -/
theorem of_readChunk_eq_error {wanted : Nat} (h : f.readChunk wanted = .error t) :
    t = .mismatch .undecodable ∧ ¬f.IsText := by
  unfold readChunk at h
  dsimp only at h
  split at h
  · next hnone =>
    cases h
    refine ⟨rfl, fun htext ↦ ?_⟩
    rw [IsText, f.part_append_bytes wanted] at htext
    exact Utf8.decode?_ne_none htext hnone
  · next cs part hsome =>
    split at h
    · next hend =>
      cases h
      refine ⟨rfl, fun htext ↦ ?_⟩
      rw [Bool.and_eq_true, List.isEmpty_iff] at hend
      have hbytes : f.bytes = [] := bytes_eq_nil_of_take hend.1
      rw [IsText, hbytes] at htext
      rw [hend.1] at hsome
      obtain ⟨ds, hds⟩ := Utf8.decode?_of_isUtf8 htext
      rw [hds] at hsome
      cases hsome
      cases hend.2
    · cases h

/-- Behind a chunk the file is UTF-8 if it was in front of it. -/
theorem IsText.readChunk {wanted : Nat} (htext : f.IsText)
    (h : f.readChunk wanted = .ok (g, more)) : g.IsText := by
  unfold Feed.readChunk at h
  dsimp only at h
  split at h
  · cases h
  · next cs part hsome =>
    split at h
    · cases h
    · cases h
      obtain ⟨whole, hwhole, hutf8⟩ := Utf8.exists_of_decode? hsome
      rw [IsText, f.part_append_bytes wanted, hwhole, List.append_assoc] at htext
      exact htext.of_append hutf8

theorem takePiece_zero (f : Feed) : f.takePiece 0 =
    .ok (f.waiting.take pieceLength, { f with waiting := f.waiting.drop pieceLength }) := by
  rw [takePiece]

/-- A piece is taken from a file that is UTF-8, which it is behind the piece, too. -/
theorem takePiece_cases (f : Feed) (chunks : Nat) :
    (f.takePiece chunks = .error (.mismatch .undecodable) ∧ ¬f.IsText) ∨
      ∃ piece g, f.takePiece chunks = .ok (piece, g) ∧ (f.IsText → g.IsText) := by
  induction chunks generalizing f with
  | zero => exact .inr ⟨_, _, f.takePiece_zero, id⟩
  | succ chunks ih =>
    unfold takePiece
    split
    · exact .inr ⟨_, _, f.takePiece_zero, id⟩
    · cases hread : f.readChunk (pieceLength - f.waiting.length) with
      | error t =>
        obtain ⟨rfl, hnot⟩ := of_readChunk_eq_error hread
        exact .inl ⟨rfl, hnot⟩
      | ok r =>
        obtain ⟨g, more⟩ := r
        have htext : f.IsText → g.IsText := fun h ↦ h.readChunk hread
        cases more with
        | false => exact .inr ⟨_, _, g.takePiece_zero, htext⟩
        | true =>
          rcases ih g with ⟨herror, hnot⟩ | ⟨piece, k, hok, hkeeps⟩
          · exact .inl ⟨herror, mt htext hnot⟩
          · exact .inr ⟨piece, k, hok, hkeeps ∘ htext⟩

end Feed

namespace Source

variable {front : List Char} {s : Source}

theorem behind_of_append_eq_error (h : append front piece = .error s) :
    s.behind ≠ some (.mismatch m) := by
  unfold append at h
  split at h
  · cases h
    rintro ⟨⟩
  · cases h

/-- Reading on, what is met is a mismatch only if the file is not UTF-8. -/
theorem behind_readOn (chunks pieces : Nat) (front : List Char) (f : Feed)
    (h : (readOn chunks pieces front f).behind = some (.mismatch m)) :
    m = .undecodable ∧ ¬f.IsText := by
  induction pieces generalizing front f with
  | zero => cases h
  | succ pieces ih =>
    unfold readOn at h
    rcases f.takePiece_cases chunks with ⟨herror, hnot⟩ | ⟨piece, g, hok, hkeeps⟩
    · rw [herror] at h
      cases h
      exact ⟨rfl, hnot⟩
    · rw [hok] at h
      split at h
      · next hmatch => cases hmatch
      · cases h
      · next hmatch =>
        cases hmatch
        split at h
        · next happend => exact absurd h (behind_of_append_eq_error happend)
        · obtain ⟨hm, hnot⟩ := ih _ _ h
          exact ⟨hm, mt hkeeps hnot⟩

/-- Behind the characters of a file there is a mismatch only if the file is not UTF-8. -/
theorem behind_ofBytes {bytes : List UInt8} (h : (ofBytes bytes).behind = some (.mismatch m)) :
    m = .undecodable ∧ ¬IsUtf8 bytes := by
  unfold ofBytes at h
  dsimp only at h
  rcases Feed.takePiece_cases { bytes } (bytes.length + 2) with
    ⟨hfirst, hnot⟩ | ⟨first, f, hfirst, hf⟩
  · rw [hfirst] at h
    cases h
    exact ⟨rfl, hnot⟩
  rcases f.takePiece_cases (bytes.length + 2) with ⟨hsecond, hnot⟩ | ⟨second, g, hsecond, hg⟩
  · simp only [hfirst, bind, Except.bind, hsecond] at h
    cases h
    exact ⟨rfl, mt hf hnot⟩
  · simp only [hfirst, bind, Except.bind, hsecond, pure, Except.pure] at h
    split at h
    · next happend => exact absurd h (behind_of_append_eq_error happend)
    · obtain ⟨hm, hnot⟩ := behind_readOn _ _ _ _ h
      exact ⟨hm, mt hf (mt hg hnot)⟩

end Source

end ClusterDiagnosis.Yaml
