import ClusterDiagnosis.Completion.Chat
import Mathlib.Tactic.Common

/-!
# What a chat does

A step of a chat puts steps on record (`Chat.Adds`) and may end with a fault (`Chat.Ends`). The
rules below follow the way these steps are put together. Making a model puts at most its time limit
to the provider (`adds_ask`). It ends with a completion fault, or with a fault that is passed on as
it is (`PassesOn`): that of a model that cannot be made, or of a package that is there but cannot be
loaded. A call of the service comes to a text, to one of these faults, or, for a correction, to the
end of the run (`service_ends`).
-/

set_option autoImplicit false
set_option relaxedAutoImplicit false

namespace ClusterDiagnosis

/-- Chat models with which everything succeeds. The answers say nothing. -/
def ChatWorld.ready {τ : Type} : ChatWorld τ where
  loadCredentials m t := (.ok (), m, t)
  findCredentials _ m t := (.ok (), m, t)
  load _ m t := (.ok (), m, t)
  make _ _ m t := (.ok (), m, t)
  invoke _ m t := (.ok .null, m, t)

namespace Chat

variable {τ α β : Type}

/-! ### Steps that are put on record -/

/-- A step of a chat that puts only steps of the given kind on record, behind those before. -/
def Adds (P : ChatStep → Prop) (p : Chatting τ α) : Prop :=
  ∀ m c, ∃ new, (p m c).2.2.steps = c.steps ++ new ∧ ∀ step ∈ new, P step

namespace Adds

variable {P : ChatStep → Prop} {p : Chatting τ α}

theorem result (r : Except Fault α) : Adds P (fun m (c : ChatState τ) ↦ (r, m, c)) :=
  fun _ c ↦ ⟨[], (List.append_nil c.steps).symm, List.forall_mem_nil _⟩

theorem refuse (code message : String) : Adds P (refuse code message : Chatting τ α) :=
  result _

/-- What is not a step of the record adds nothing to it. -/
theorem quietly (p : Moment → τ → Except Fault α × Moment × τ) : Adds P (quietly p) :=
  fun _ c ↦ ⟨[], (List.append_nil c.steps).symm, List.forall_mem_nil _⟩

/-- A step adds itself to the record. -/
theorem perform {step : Moment → ChatStep} (h : ∀ m, P (step m))
    (p : Moment → τ → Except Fault α × Moment × τ) : Adds P (perform step p) :=
  fun m _ ↦ ⟨[step m], rfl, List.forall_mem_singleton.mpr (h m)⟩

theorem orFault (hp : Adds P p) (change : Fault → Fault) : Adds P (orFault p change) := by
  intro m c
  obtain ⟨new, hsteps, hnew⟩ := hp m c
  refine ⟨new, ?_, hnew⟩
  unfold Chat.orFault
  rcases hrun : p m c with ⟨f | a, m', c'⟩
  all_goals
    rw [hrun] at hsteps
    exact hsteps

/-- Two parts one after the other add what each of them adds. -/
theorem andThen {f : α → Chatting τ β} (hp : Adds P p) (hf : ∀ a, Adds P (f a)) :
    Adds P (andThen p f) := by
  intro m c
  obtain ⟨new, hsteps, hnew⟩ := hp m c
  unfold Chat.andThen
  rcases hrun : p m c with ⟨e | a, m', c'⟩
  · rw [hrun] at hsteps
    exact ⟨new, hsteps, hnew⟩
  · rw [hrun] at hsteps
    obtain ⟨new', hsteps', hnew'⟩ := hf a m' c'
    refine ⟨new ++ new', ?_, List.forall_mem_append.mpr ⟨hnew, hnew'⟩⟩
    rw [hsteps', hsteps, List.append_assoc]

end Adds

/-- A step in which no model is made, or one with the given time limit. -/
def Within (limit : Value) (step : ChatStep) : Prop :=
  ∀ package arguments start, step = .make package arguments start →
    entryAt? "timeout" arguments = some limit

section Making

variable (w : ChatWorld τ) (env : Environment)

/-- Making a model in the cloud puts only steps within the time limit on record. -/
theorem adds_makeVertex (s : ChatSettings) (limit : Value) :
    Adds (Within limit) (makeVertex w s env limit) := by
  unfold makeVertex
  dsimp only
  split
  · exact .refuse _ _
  · split
    · exact .refuse _ _
    · refine .andThen (.orFault (.quietly _) _) fun _ ↦ ?_
      refine .andThen (.orFault (.perform (fun _ _ _ _ h ↦ by cases h) _) _) fun _ ↦ ?_
      refine .andThen (.orFault (.quietly _) _) fun _ ↦ ?_
      exact .perform (fun _ _ _ _ h ↦ by cases h; rfl) _

/-- So does making a model that is reached with a key. -/
theorem adds_makeAnthropic (s : ChatSettings) (limit : Value) :
    Adds (Within limit) (makeAnthropic w s env limit) := by
  unfold makeAnthropic
  dsimp only
  split
  · exact .refuse _ _
  · refine .andThen (.orFault (.quietly _) _) fun _ ↦ ?_
    exact .perform (fun _ _ _ _ h ↦ by cases h; rfl) _

/-- A model that is made for a prompt has the limit that comes of the settings and the time left. -/
theorem adds_ask (c : Chat) (prompt : String) (left : Option Double) :
    Adds (Within (timeLimit c.settings left)) (c.ask w env prompt left) := by
  have hmake : Adds (Within (timeLimit c.settings left)) (c.make w env left) := by
    unfold make
    dsimp only
    split
    · exact adds_makeVertex w env _ _
    · split
      · exact adds_makeAnthropic w env _ _
      · exact .refuse _ _
  unfold ask
  split
  · exact .result _
  · refine .andThen hmake fun _ ↦ .andThen (.orFault (.perform ?_ _) _) fun _ ↦ .result _
    intro _ _ _ _ h
    cases h

/-- Asking for an explanation makes steps within the time limit of the settings. -/
theorem adds_explain (c : Chat) (prompt : String) :
    Adds (Within (timeLimit c.settings none)) ((c.service w env).explain prompt) := by
  have hask := adds_ask w env c prompt none
  unfold service
  dsimp only
  refine Adds.andThen hask fun reply ↦ ?_
  exact Adds.result _

end Making

/-! ### Faults -/

/-- A step of a chat that ends with no faults but those of the given kind. -/
def Ends (P : Fault → Prop) (p : Chatting τ α) : Prop :=
  ∀ m c f, (p m c).1 = .error f → P f

namespace Ends

variable {P : Fault → Prop} {p : Chatting τ α}

theorem ok (a : α) : Ends P (fun m (c : ChatState τ) ↦ (.ok a, m, c)) :=
  fun _ _ _ h ↦ by cases h

theorem refuse {code message : String} (h : P (.ofCode code message)) :
    Ends P (refuse code message : Chatting τ α) :=
  fun _ _ _ hf ↦ by cases hf; exact h

theorem perform {step : Moment → ChatStep} {p : Moment → τ → Except Fault α × Moment × τ}
    (h : ∀ m t f, (p m t).1 = .error f → P f) : Ends P (perform step p) :=
  fun m c f hf ↦ h m c.state f hf

theorem orFault {change : Fault → Fault} (h : ∀ m c f, (p m c).1 = .error f → P (change f)) :
    Ends P (orFault p change) := by
  intro m c f hf
  unfold Chat.orFault at hf
  rcases hrun : p m c with ⟨e | a, m', c'⟩
  · rw [hrun] at hf
    obtain rfl := Except.error.inj hf
    exact h m c e (by rw [hrun])
  · rw [hrun] at hf
    cases hf

theorem andThen {f : α → Chatting τ β} (hp : Ends P p) (hf : ∀ a, Ends P (f a)) :
    Ends P (andThen p f) := by
  intro m c e he
  unfold Chat.andThen at he
  rcases hrun : p m c with ⟨e' | a, m', c'⟩
  · rw [hrun] at he
    obtain rfl := Except.error.inj he
    exact hp m c e' (by rw [hrun])
  · rw [hrun] at he
    exact hf a m' c' e he

end Ends

/-- The faults of the world of chat models that the service passes on as they are. -/
inductive PassesOn (w : ChatWorld τ) : Fault → Prop where
  /-- A model cannot be made. -/
  | make {package : ChatPackage} {arguments : List (String × Value)} {m : Moment} {t : τ}
      {f : Fault} (h : (w.make package arguments m t).1 = .error f) : PassesOn w f
  /-- A package of chat models is there, and cannot be loaded. -/
  | load {package : ChatPackage} {m : Moment} {t : τ} {f : Fault}
      (h : (w.load package m t).1 = .error f) (hf : f.isNotInstalled = false) : PassesOn w f
  /-- The package for credentials is there, and cannot be loaded. -/
  | loadCredentials {m : Moment} {t : τ} {f : Fault}
      (h : (w.loadCredentials m t).1 = .error f) (hf : f.isNotInstalled = false) : PassesOn w f

/-- A completion fault with a code, or a fault that is passed on. -/
def Expected (w : ChatWorld τ) (f : Fault) : Prop :=
  (∃ code message, f = .completion code message ∧ code ≠ "") ∨ PassesOn w f

/-- A fault with a code of the program's own is an expected one. -/
theorem expected_ofCode (w : ChatWorld τ) {code : String} (h : code ≠ "") (message : String) :
    Expected w (.ofCode code message) :=
  .inl ⟨code, _, rfl, h⟩

/-- A package that is not installed is a completion fault; other faults of loading it are passed
on. -/
theorem expected_missingPackage {w : ChatWorld τ} {code : String} (h : code ≠ "") {f : Fault}
    (hf : f.isNotInstalled = false → PassesOn w f) : Expected w (missingPackage code f) := by
  unfold missingPackage
  cases hinstalled : f.isNotInstalled with
  | true => exact expected_ofCode w h _
  | false => exact .inr (hf hinstalled)

theorem append_ne_empty {s : String} (h : s.toList ≠ []) (t : String) : s ++ t ≠ "" := by
  intro heq
  have hlist : s.toList ++ t.toList = [] := by rw [← String.toList_append, heq]; rfl
  exact h (List.append_eq_nil_iff.mp hlist).1

/-- Every fault has an error code. -/
theorem code_ne_empty (model : String) (f : Fault) : ErrorCode.of model f ≠ "" := by
  have hrules : ∀ r ∈ ErrorCode.rules, r.code model ≠ "" := by
    have hnotFound : "model_not_found:" ++ model ≠ "" := append_ne_empty (by decide) model
    simp [ErrorCode.rules, ErrorCode.rule, hnotFound]
  unfold ErrorCode.of
  split
  · next r hfound => exact hrules r (List.mem_of_find?_eq_some hfound)
  · exact append_ne_empty (by decide) f.label

section Faults

variable (w : ChatWorld τ) (env : Environment)

/-- Making a model in the cloud fails in an expected way only. -/
theorem ends_makeVertex (s : ChatSettings) (limit : Value) :
    Ends (Expected w) (makeVertex w s env limit) := by
  unfold makeVertex
  dsimp only
  split
  · exact .refuse (expected_ofCode w (by decide) _)
  · split
    · exact .refuse (expected_ofCode w (by decide) _)
    · refine .andThen ?_ fun _ ↦ .andThen ?_ fun _ ↦ .andThen ?_ fun _ ↦ ?_
      · refine .orFault fun m c f hf ↦ expected_missingPackage (by decide) fun hinstalled ↦ ?_
        exact .loadCredentials hf hinstalled
      · exact .orFault fun m c f _ ↦ expected_ofCode w (by decide) f.text
      · refine .orFault fun m c f hf ↦ expected_missingPackage (by decide) fun hinstalled ↦ ?_
        exact .load hf hinstalled
      · exact .perform fun m t f hf ↦ .inr (.make hf)

/-- So does making a model that is reached with a key. -/
theorem ends_makeAnthropic (s : ChatSettings) (limit : Value) :
    Ends (Expected w) (makeAnthropic w s env limit) := by
  unfold makeAnthropic
  dsimp only
  split
  · exact .refuse (expected_ofCode w (by decide) _)
  · refine .andThen ?_ fun _ ↦ ?_
    · refine .orFault fun m c f hf ↦ expected_missingPackage (by decide) fun hinstalled ↦ ?_
      exact .load hf hinstalled
    · exact .perform fun m t f hf ↦ .inr (.make hf)

/-- A request to a model fails in an expected way only. -/
theorem ends_ask (c : Chat) (prompt : String) (left : Option Double) :
    Ends (Expected w) (c.ask w env prompt left) := by
  have hmake : Ends (Expected w) (c.make w env left) := by
    unfold make
    dsimp only
    split
    · exact ends_makeVertex w env _ _
    · split
      · exact ends_makeAnthropic w env _ _
      · exact .refuse (expected_ofCode w (by decide) _)
  unfold ask
  split
  · exact .ok mockText
  · refine .andThen hmake fun _ ↦ .andThen ?_ fun content ↦ .ok (Message.text content)
    exact .orFault fun m s f _ ↦ expected_ofCode w (code_ne_empty c.settings.model f) f.text

/-- A correction is not begun when the run is over. -/
theorem correct_of_over {deadline : Option Deadline} {m : Moment} {f : Fault}
    (h : runOver? deadline m = some f) (c : Chat) (prompt : String) (s : ChatState τ) :
    (c.service w env).correct deadline prompt m s = (.error f, m, s) := by
  simp only [service, allowance, h]

/-- While there is time left, a correction is a request with that time as its limit. -/
theorem correct_of_inTime {deadline : Option Deadline} {m : Moment}
    (h : runOver? deadline m = none) (c : Chat) (prompt : String) (s : ChatState τ) :
    (c.service w env).correct deadline prompt m s =
      c.ask w env prompt (timeLeft deadline m) m s := by
  simp only [service, allowance, h]

/-- What a call of the service comes to. An explanation is a text, or the call ends with a
completion fault that has a code, or with a fault that the world of chat models raised in making a
model or in loading a package that is there. So does a correction, unless the run is over when it is
asked for; then it ends for this reason, with nothing done. -/
theorem service_ends (c : Chat) (prompt : String) (deadline : Option Deadline) (m : Moment)
    (s : ChatState τ) :
    ((∃ text, ((c.service w env).explain prompt m s).1 = .ok (.str text)) ∨
      ∃ f, ((c.service w env).explain prompt m s).1 = .error f ∧ Expected w f) ∧
    ((∃ text, ((c.service w env).correct deadline prompt m s).1 = .ok text) ∨
      (∃ f, ((c.service w env).correct deadline prompt m s).1 = .error f ∧ Expected w f) ∨
      ∃ f, (c.service w env).correct deadline prompt m s = (.error f, m, s) ∧
        runOver? deadline m = some f) := by
  constructor
  · have hends := ends_ask w env c prompt none m s
    simp only [service, andThen]
    rcases hrun : c.ask w env prompt none m s with ⟨f | text, m', s'⟩
    · exact .inr ⟨f, rfl, hends f (by rw [hrun])⟩
    · exact .inl ⟨text, rfl⟩
  · cases hover : runOver? deadline m with
    | some f => exact .inr (.inr ⟨f, correct_of_over w env hover c prompt s, rfl⟩)
    | none =>
      have hends := ends_ask w env c prompt (timeLeft deadline m) m s
      rw [correct_of_inTime w env hover]
      rcases hrun : (c.ask w env prompt (timeLeft deadline m) m s).1 with f | text
      · exact .inr (.inl ⟨f, rfl, hends f hrun⟩)
      · exact .inl ⟨text, rfl⟩

end Faults

end Chat

end ClusterDiagnosis
