import ClusterDiagnosis.Proofs.Analyzer.Blocks
import ClusterDiagnosis.Proofs.Completion.Chat
import ClusterDiagnosis.Proofs.Number.Order
import ClusterDiagnosis.Proofs.Pipeline.Invariant
import Mathlib.Data.List.Forall2

/-!
# The time that chat models are given

The settings of a chat give a model a time limit, and the time left to a run shortens the limit of a
model that is made for a correction, down to a second at least (`atMost_timeLimit`). By an invariant
over the calls of a run this holds for every model of the run (`analyze_models`). An explanation is
asked for without the time left, so that its model may be given more than that; and what a call does
before it makes its model takes time, in which the run may end (`analyze_not_timely`).
-/

set_option autoImplicit false
set_option relaxedAutoImplicit false

namespace ClusterDiagnosis

/-- Whether a value is a number that is not above another one. -/
def Value.atMost (v u : Value) : Bool :=
  match v.magnitude?, u.magnitude? with
  | some x, some y => x.le y
  | _, _ => false

/-- When a call starts. -/
def CompletionCall.start : CompletionCall → Moment
  | explain _ start _ => start
  | correct _ start _ => start

/-! ### Limits -/

/-- The time limit of the settings is between 5 and 300 seconds, whatever the environment says. -/
theorem ChatSettings.timeout_bounds (env : Environment) :
    5 ≤ (ChatSettings.ofEnvironment env).timeout ∧
      (ChatSettings.ofEnvironment env).timeout ≤ 300 := by
  simp only [ofEnvironment, Environment.int]
  omega

/-- The time left until a deadline is a number. -/
theorem Deadline.left_ne_nan (d : Deadline) (now : Double) : d.left now ≠ .nan :=
  Double.maxOf_ne_nan (by decide)

namespace Chat

open Double

/-- Among the limits that settings may have, conversion is exact and none is below a second. -/
theorem seconds_bounds : ∀ n < 301, 5 ≤ n → ofNat n ≠ .nan ∧ le (.ofNat 1) (ofNat n) = true ∧
    le (ofNat n) (.finite false n 0) = true := by
  decide +kernel

/-- A limit that is shortened to the time left is neither above that of the settings, nor above the
time left unless this is less than a second. -/
theorem atMost_timeLimit {s : ChatSettings} (hleast : 5 ≤ s.timeout) (hmost : s.timeout ≤ 300)
    {left : Double} (hleft : left ≠ .nan) :
    (timeLimit s (some left)).atMost (.int s.timeout) = true ∧
      (timeLimit s (some left)).atMost (.float (maxOf (.ofNat 1) left)) = true := by
  obtain ⟨n, hn⟩ : ∃ n : Nat, s.timeout = n := ⟨s.timeout.toNat, by omega⟩
  obtain ⟨hnumber, hsecond, hexact⟩ := seconds_bounds n (by omega) (by omega)
  have hone : ofNat 1 ≠ .nan := by decide
  have hmin : minOf (ofNat n) left ≠ .nan := minOf_ne_nan hnumber
  have hlimit : maxOf (.ofNat 1) (minOf (ofNat n) left) ≠ .nan := maxOf_ne_nan hone
  have hsettings : le (maxOf (.ofNat 1) (minOf (ofNat n) left)) (ofNat n) = true :=
    maxOf_le hsecond (minOf_le_left hnumber)
  have htime : le (maxOf (.ofNat 1) (minOf (ofNat n) left)) (maxOf (.ofNat 1) left) = true :=
    maxOf_le (le_maxOf_left hone) (le_trans hmin hleft (maxOf_ne_nan hone)
      (minOf_le_right hnumber hleft) (le_maxOf_right hone hleft))
  constructor
  · simp only [timeLimit, Value.atMost, Value.magnitude?, Value.whole?, hn, Int.toNat_natCast]
    exact le_trans hlimit hnumber (by simp) hsettings hexact
  · simp only [timeLimit, Value.atMost, Value.magnitude?, hn, Int.toNat_natCast]
    exact htime

/-! ### Models of a run -/

/-- What holds of a model made in a call: the run was not over when the call started, the limit of
the model is not above that of the settings, and for a correction it is not above the time left when
the call started, unless that is less than a second. -/
structure Limited (s : ChatSettings) (d : Deadline) (call : CompletionCall)
    (arguments : List (String × Value)) : Prop where
  inTime : runOver? (some d) call.start = none
  limited : ∃ limit, entryAt? "timeout" arguments = some limit ∧
    limit.atMost (.int s.timeout) = true ∧
    ∀ prompt start reply, call = .correct prompt start reply →
      limit.atMost (.float (maxOf (.ofNat 1) (d.left start.now))) = true

/-- What holds of the steps that a call puts on record. -/
def AllLimited (s : ChatSettings) (d : Deadline) (call : CompletionCall)
    (steps : List ChatStep) : Prop :=
  ∀ package arguments start, ChatStep.make package arguments start ∈ steps →
    Limited s d call arguments

variable {τ : Type} (w : ChatWorld τ) (env : Environment) {c : Chat} {d : Deadline}

/-- An explanation within a deadline makes limited steps only. -/
theorem exists_steps_explain {m : Moment} (hover : runOver? (some d) m = none) (prompt : String)
    (s : ChatState τ) :
    ∃ new, ((c.service w env).explain prompt m s).2.2.steps = s.steps ++ new ∧
      ∀ reply, AllLimited c.settings d (.explain prompt m reply) new := by
  obtain ⟨new, hsteps, hnew⟩ := adds_explain w env c prompt m s
  have hsettings : (Value.int c.settings.timeout).atMost (.int c.settings.timeout) = true :=
    le_refl (by simp)
  refine ⟨new, hsteps, fun reply package arguments start hmem ↦ ⟨hover, _, ?_, hsettings, ?_⟩⟩
  · exact hnew _ hmem package arguments start rfl
  · intro _ _ _ h
    cases h

/-- A correction within a deadline makes limited steps only. -/
theorem exists_steps_correct (hleast : 5 ≤ c.settings.timeout) (hmost : c.settings.timeout ≤ 300)
    (prompt : String) (m : Moment) (s : ChatState τ) :
    ∃ new, ((c.service w env).correct (some d) prompt m s).2.2.steps = s.steps ++ new ∧
      ∀ reply, AllLimited c.settings d (.correct prompt m reply) new := by
  cases hover : runOver? (some d) m with
  | some f =>
    rw [correct_of_over w env hover]
    exact ⟨[], (List.append_nil s.steps).symm, fun _ _ _ _ h ↦ absurd h List.not_mem_nil⟩
  | none =>
    have hleft : timeLeft (some d) m = some (d.left m.now) := rfl
    rw [correct_of_inTime w env hover, hleft]
    obtain ⟨new, hsteps, hnew⟩ := adds_ask w env c prompt (some (d.left m.now)) m s
    obtain ⟨hsettings, htime⟩ := atMost_timeLimit hleast hmost (d.left_ne_nan m.now)
    refine ⟨new, hsteps, fun reply package arguments start hmem ↦ ⟨hover, _, ?_, hsettings, ?_⟩⟩
    · exact hnew _ hmem package arguments start rfl
    · intro _ _ _ h
      cases h
      exact htime

/-- Every call of the service puts steps on record in which every model is limited. -/
theorem keeps_limited (hleast : 5 ≤ c.settings.timeout) (hmost : c.settings.timeout ≤ 300)
    (before : List ChatStep) :
    (c.service w env).recorded.Keeps (some d) fun t ↦
      ∃ parts, t.1.steps = before ++ parts.flatten ∧
        List.Forall₂ (AllLimited c.settings d) t.2 parts := by
  have hnext {t t' : ChatState τ} {parts : List (List ChatStep)} {new : List ChatStep}
      {log : List CompletionCall} {call : CompletionCall}
      (hsteps : t.steps = before ++ parts.flatten)
      (hparts : List.Forall₂ (AllLimited c.settings d) log parts)
      (hnew : t'.steps = t.steps ++ new) (hlimited : AllLimited c.settings d call new) :
      ∃ parts, t'.steps = before ++ parts.flatten ∧
        List.Forall₂ (AllLimited c.settings d) (log ++ [call]) parts := by
    refine ⟨parts ++ [new], ?_, List.rel_append hparts (.cons hlimited .nil)⟩
    rw [hnew, hsteps, List.flatten_append, List.flatten_singleton, List.append_assoc]
  constructor
  · rintro prompt m ⟨t, log⟩ hover ⟨parts, hsteps, hparts⟩
    obtain ⟨new, hnew, hlimited⟩ := exists_steps_explain w env hover prompt t
    rcases hcall : (c.service w env).explain prompt m t with ⟨reply, m', t'⟩
    rw [hcall] at hnew
    rw [CompletionService.recorded_explain log hcall]
    exact hnext hsteps hparts hnew (hlimited reply)
  · rintro prompt m ⟨t, log⟩ ⟨parts, hsteps, hparts⟩
    obtain ⟨new, hnew, hlimited⟩ := exists_steps_correct w env hleast hmost prompt m t
    rcases hcall : (c.service w env).correct (some d) prompt m t with ⟨reply, m', t'⟩
    rw [hcall] at hnew
    rw [CompletionService.recorded_correct log hcall]
    exact hnext hsteps hparts hnew (hlimited reply)

end Chat

/-- The models of a run with a deadline, call by call. None is given more time than the settings
say. One for a correction is not given more than the time left when the call started either, except
that it is given a second at least. No call that makes a model starts when the run is over. -/
theorem analyze_models {σ τ : Type} (provider : String) (env₀ env : Environment) (w : ChatWorld τ)
    (plan : Plan) (source : Source σ) (d : Deadline) (analyzers : List Analyzer)
    (s : Session σ (ChatState τ)) :
    let chat : Chat := ⟨provider, .ofEnvironment env₀⟩
    let service := some (chat.service w env)
    ∃ parts : List (List ChatStep),
      (analyze plan source service (some d) analyzers s).2.completion.steps =
          s.completion.steps ++ parts.flatten ∧
        List.Forall₂ (Chat.AllLimited chat.settings d)
          (callsMade plan source service (some d) analyzers s) parts := by
  intro chat service
  obtain ⟨hleast, hmost⟩ := ChatSettings.timeout_bounds env₀
  have hkeeps := Chat.keeps_limited w env (c := chat) (d := d) hleast hmost s.completion.steps
  have hstart : s.completion.steps = s.completion.steps ++ ([] : List (List ChatStep)).flatten :=
    (List.append_nil _).symm
  exact callsMade_of_keeps hkeeps plan source analyzers s ⟨[], hstart, .nil⟩

/-! ### A model that is given too much time, too late -/

/-- The time limit of a model, and when it is made. -/
def ChatStep.model? : ChatStep → Option (Value × Moment)
  | .make _ arguments start => (entryAt? "timeout" arguments).map (·, start)
  | .findCredentials _ => none
  | .invoke _ => none

namespace SlowCredentials

/-- A world of chat models in which it takes forty seconds to find credentials. -/
def world : ChatWorld Unit :=
  { ChatWorld.ready with
    findCredentials := fun _ m t ↦ (.ok (), { m with now := m.now.add (.ofNat 40) }, t)
    invoke := fun _ m t ↦ (.ok (.str "Add a node."), m, t) }

def chat : Chat :=
  ⟨"vertexai", .ofEnvironment []⟩

def env : Environment :=
  [("GOOGLE_CLOUD_PROJECT", "p"), ("GOOGLE_CLOUD_LOCATION", "l")]

/-- A deadline thirty seconds after the start. -/
def deadline : Deadline :=
  ⟨.ofNat 30, "30"⟩

def session : Session Unit (ChatState Unit) where
  world := TwoPods.start
  completion := ⟨[], ()⟩

/-- The only call of the run starts in time, a second after the run; the model is given two minutes,
although twenty-nine seconds are left, and is made when the run is over. -/
theorem analyze_not_timely :
    let service := some (chat.service world env)
    let checks := [Check.pod].map Check.analyzer
    let result := analyze { explain := true } TwoPods.cluster service (some deadline) checks session
    let calls := callsMade { explain := true } TwoPods.cluster service (some deadline) checks
      session
    let models := result.2.completion.steps.filterMap ChatStep.model?
    calls.map CompletionCall.start = [⟨.ofNat 1, false⟩] ∧
    (¬ ∀ call ∈ calls, ∀ model ∈ models, model.1.atMost
      (.float (Double.maxOf (.ofNat 1) (deadline.left call.start.now))) = true) ∧
    ¬ ∀ model ∈ models, runOver? (some deadline) model.2 = none := by
  decide +kernel

end SlowCredentials

end ClusterDiagnosis
