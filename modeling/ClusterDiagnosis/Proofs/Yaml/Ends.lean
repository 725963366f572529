import ClusterDiagnosis.Yaml.Flaw
import Mathlib.Tactic.Common

/-!
# What a reading may end in

A reading gives a result or stops in some trouble. Of the troubles only the mismatches count here: a
reading ends within `P` and `Q` if its mismatches are in `P` and its results are in `Q`, whatever
the flaws of the text are (`Ends`). A reading with a state does so within `P` and keeps `I` if from
every state in `I` it ends within `P`, in a state that is in `I` again (`Keeps`). The rules below
follow the way readings are put together.
-/

set_option autoImplicit false
set_option relaxedAutoImplicit false

namespace ClusterDiagnosis.Yaml

/-- The mismatches of a reading are among some, and its results have a property. -/
structure Ends {α : Type} (P : Mismatch → Prop) (Q : α → Prop) (x : Except Trouble α) : Prop where
  of_mismatch : ∀ m, x = .error (.mismatch m) → P m
  of_result : ∀ a, x = .ok a → Q a

/-- The mismatches of a reading are among some; the results may be any. -/
abbrev EndsIn {α : Type} (P : Mismatch → Prop) (x : Except Trouble α) : Prop :=
  Ends P (fun _ ↦ True) x

namespace Ends

variable {α β : Type} {P P' : Mismatch → Prop} {Q Q' : α → Prop} {R : β → Prop}
  {x : Except Trouble α} {f : α → Except Trouble β}

theorem ok {a : α} (h : Q a) : Ends P Q (.ok a) where
  of_mismatch := by rintro m ⟨⟩
  of_result := by
    rintro b ⟨⟩
    exact h

theorem error {t : Trouble} (h : ∀ m, t = .mismatch m → P m) : Ends P Q (.error t) where
  of_mismatch m hm := h m (Except.error.inj hm)
  of_result := by rintro a ⟨⟩

theorem flaw (f : Flaw) : Ends P Q (.error (.flaw f)) :=
  error (by rintro m ⟨⟩)

theorem ended (f : Flaw) : Ends P Q (.error (.ended f)) :=
  error (by rintro m ⟨⟩)

theorem atChar (c : Option Char) (f : Flaw) : Ends P Q (.error (.atChar c f)) := by
  unfold Trouble.atChar
  split
  · exact ended f
  · exact flaw f

theorem mismatch {m : Mismatch} (h : P m) : Ends P Q (.error (.mismatch m)) :=
  error (by
    rintro m' ⟨⟩
    exact h)

theorem mono (hx : Ends P Q x) (hP : ∀ m, P m → P' m) (hQ : ∀ a, Q a → Q' a) : Ends P' Q' x where
  of_mismatch m h := hP m (hx.of_mismatch m h)
  of_result a h := hQ a (hx.of_result a h)

theorem bind (hx : Ends P Q x) (hf : ∀ a, Q a → Ends P R (f a)) : Ends P R (x >>= f) := by
  cases x with
  | ok a => exact hf a (hx.of_result a rfl)
  | error t => exact error fun m hm ↦ hx.of_mismatch m (congrArg _ hm)

theorem map {g : α → β} (hx : Ends P Q x) (hg : ∀ a, Q a → R (g a)) : Ends P R (x.map g) := by
  cases x with
  | ok a => exact ok (hg a (hx.of_result a rfl))
  | error t => exact error fun m hm ↦ hx.of_mismatch m (congrArg _ hm)

theorem ite {c : Prop} [Decidable c] {y : Except Trouble α} (hx : Ends P Q x) (hy : Ends P Q y) :
    Ends P Q (if c then x else y) := by
  split
  · exact hx
  · exact hy

/-- A reading that goes on only if there is no reason to stop. -/
theorem guarded {c : Prop} [Decidable c] {t : Trouble} {rest : Unit → Except Trouble β}
    (ht : Ends P R (.error t)) (hrest : Ends P R (rest ())) :
    Ends P R (if c then (throw t : Except Trouble Unit) >>= rest else rest ()) := by
  split
  · exact ht
  · exact hrest

theorem foldlM {γ : Type} {g : α → γ → Except Trouble α} {ys : List γ} {a : α} (ha : Q a)
    (hg : ∀ a, Q a → ∀ y ∈ ys, Ends P Q (g a y)) : Ends P Q (ys.foldlM g a) := by
  induction ys generalizing a with
  | nil => exact ok ha
  | cons y ys ih =>
    rw [List.foldlM_cons]
    refine (hg a ha y List.mem_cons_self).bind fun b hb ↦ ?_
    exact ih hb fun a ha z hz ↦ hg a ha z (List.mem_cons_of_mem _ hz)

end Ends

/-- From every state in `I` a reading ends within `P`, and then in a state that is in `I`. -/
def Keeps {σ α : Type} (I : σ → Prop) (P : Mismatch → Prop) (p : StateT σ (Except Trouble) α) :
    Prop :=
  ∀ s, I s → Ends P (fun r ↦ I r.2) (p s)

namespace Keeps

variable {σ α β : Type} {I : σ → Prop} {P : Mismatch → Prop} {p : StateT σ (Except Trouble) α}
  {f : α → StateT σ (Except Trouble) β}

theorem pure (a : α) : Keeps I P (pure a) :=
  fun _ hs ↦ .ok hs

theorem throw {t : Trouble} (h : ∀ m, t = .mismatch m → P m) : Keeps I P (α := α) (throw t) :=
  fun _ _ ↦ .error h

theorem flaw (f : Flaw) : Keeps I P (α := α) (MonadExcept.throw (.flaw f)) :=
  throw (by rintro m ⟨⟩)

theorem bind (hp : Keeps I P p) (hf : ∀ a, Keeps I P (f a)) : Keeps I P (p >>= f) :=
  fun s hs ↦ (hp s hs).bind fun r hr ↦ hf r.1 r.2 hr

/-- What follows may count on the state that is looked at. -/
theorem bind_get {f : σ → StateT σ (Except Trouble) β} (hf : ∀ s, I s → Keeps I P (f s)) :
    Keeps I P (get >>= f) :=
  fun s hs ↦ hf s hs s hs

theorem ite {c : Prop} [Decidable c] {q : StateT σ (Except Trouble) α} (hp : Keeps I P p)
    (hq : Keeps I P q) : Keeps I P (if c then p else q) := by
  split
  · exact hp
  · exact hq

/-- A reading that goes on only if there is no reason to stop. -/
theorem guarded {c : Prop} [Decidable c] {stop : StateT σ (Except Trouble) Unit}
    {rest : Unit → StateT σ (Except Trouble) β} (hstop : Keeps I P stop)
    (hrest : Keeps I P (rest ())) : Keeps I P (if c then stop >>= rest else rest ()) :=
  ite (bind hstop fun _ ↦ hrest) hrest

theorem modify {g : σ → σ} (hg : ∀ s, I s → I (g s)) : Keeps I P (modify g) :=
  fun s hs ↦ .ok (hg s hs)

/-- What follows may count on the result of a reading that takes no part in the state. -/
theorem bind_lift {Q : α → Prop} {x : Except Trouble α} (hx : Ends P Q x)
    (hf : ∀ a, Q a → Keeps I P (f a)) : Keeps I P (liftM x >>= f) := by
  intro s hs
  have hlift : Ends P (fun r ↦ Q r.1 ∧ I r.2) ((liftM x : StateT σ (Except Trouble) α) s) :=
    hx.bind fun a ha ↦ .ok ⟨ha, hs⟩
  exact hlift.bind fun r hr ↦ hf r.1 hr.1 r.2 hr.2

theorem map {g : α → β} (hp : Keeps I P p) : Keeps I P (g <$> p) :=
  fun s hs ↦ (hp s hs).bind fun _ hr ↦ .ok hr

theorem mapM {γ : Type} {g : γ → StateT σ (Except Trouble) α} (hg : ∀ y, Keeps I P (g y))
    (ys : List γ) : Keeps I P (ys.mapM g) := by
  induction ys with
  | nil => exact pure []
  | cons y ys ih =>
    rw [List.mapM_cons]
    exact (hg y).bind fun _ ↦ ih.bind fun _ ↦ pure _

theorem forM {γ : Type} {g : γ → StateT σ (Except Trouble) PUnit} (hg : ∀ y, Keeps I P (g y))
    (ys : List γ) : Keeps I P (ys.forM g) := by
  induction ys with
  | nil => exact pure _
  | cons y ys ih => exact (hg y).bind fun _ ↦ ih

end Keeps

end ClusterDiagnosis.Yaml
