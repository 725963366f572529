import ClusterDiagnosis.Completion.ErrorCode
import ClusterDiagnosis.Proofs.Text.Blank
import ClusterDiagnosis.Proofs.Text.Search
import Mathlib.Tactic.Common

/-!
# The code of an error in more context

A program that passes an error on may put text in front of its message and behind it. Every rule
asks for pieces that occur in the message, for more than one of them or for one of several, so that
no rule stops applying when the message grows (`persists_of_mem_rules`), and the first rule that
applies comes no later (`of_inContext`). What the trimming of the message takes away is no part of a
piece that was found, and capitals are taken character by character.
-/

set_option autoImplicit false
set_option relaxedAutoImplicit false

namespace ClusterDiagnosis.ErrorCode

/-! ### Rules and growing texts -/

/-- Clues that are all still there among others. -/
structure Clues.Within (c d : Clues) : Prop where
  isTimeout : c.isTimeout = true → d.isTimeout = true
  text : c.text <:+: d.text
  capitals : c.capitals <:+: d.capitals

/-- A message that stands within another one gives no clue that the longer one does not give. -/
theorem Clues.within_of {m w : List Char} (isTimeout : Bool) (h : m <:+: w) :
    (Clues.of isTimeout m).Within (Clues.of isTimeout w) := by
  have htext : (Clues.of isTimeout m).text <:+: (Clues.of isTimeout w).text :=
    Text.isInfix_trimWhere (h.map _)
  exact ⟨id, htext, htext.flatMap Text.latinCapitals⟩

/-- A condition that more clues do not lift. -/
def Persists (applies : Clues → Bool) : Prop :=
  ∀ ⦃c d : Clues⦄, c.Within d → applies c = true → applies d = true

namespace Persists

theorem isTimeout : Persists Clues.isTimeout :=
  fun _ _ h ↦ h.isTimeout

/-- A piece that a message has stays in it when the message is put into a context. -/
theorem has (piece : String) : Persists (·.has piece) :=
  fun _ _ h hpiece ↦ Text.contains_of_isInfix hpiece h.text

/-- So does a piece that is looked for without regard to case. -/
theorem mentions (piece : String) : Persists (·.mentions piece) :=
  fun _ _ h hpiece ↦ Text.contains_of_isInfix hpiece h.capitals

variable {p q : Clues → Bool}

theorem or (hp : Persists p) (hq : Persists q) : Persists fun c ↦ p c || q c := by
  intro c d h happlies
  rw [Bool.or_eq_true] at happlies ⊢
  exact happlies.imp (hp h) (hq h)

theorem and (hp : Persists p) (hq : Persists q) : Persists fun c ↦ p c && q c := by
  intro c d h happlies
  rw [Bool.and_eq_true] at happlies ⊢
  exact happlies.imp (hp h) (hq h)

end Persists

/-- Whatever makes a rule apply to a message makes it apply within every context. -/
theorem persists_of_mem_rules : ∀ r ∈ rules, Persists r.applies := by
  open Persists in
  simp only [rules, rule, List.forall_mem_cons, List.not_mem_nil, false_imp_iff, implies_true,
    and_true]
  exact ⟨isTimeout, has _, has _, (mentions _).or (mentions _), (mentions _).or (mentions _),
    (mentions _).or (has _), (mentions _).or (has _), (has _).or (mentions _),
    (mentions _).and (mentions _), ((mentions _).or (mentions _)).or (mentions _),
    (has _).or (mentions _), (mentions _).and ((mentions _).or (mentions _))⟩

/-! ### The rule that decides -/

/-- The number of the rule that decides. Where no rule applies, it is behind those of all rules. -/
def decider (f : Fault) : Nat :=
  rules.findIdx fun r ↦ r.applies (.of f.isTimeout f.text.toList)

/-- The code that every error which the rule of a number decides gets for a model; behind the rules
it names the kind of error. -/
def codeAt (model label : String) (number : Nat) : String :=
  (rules[number]?).elim ("llm_error:" ++ label) (·.code model)

/-- The error code is the one at the place of the first rule that applies. -/
theorem of_eq (model : String) (f : Fault) : of model f = codeAt model f.label (decider f) := by
  rw [of, List.find?_eq_getElem?_findIdx, codeAt, decider]
  generalize rules[List.findIdx _ rules]? = r
  cases r <;> rfl

/-- The codes for errors that say that waiting took too long. -/
def timeoutCodes : List String := ["timeout", "gateway_timeout", "deadline_exceeded"]

/-- The number of rules for such errors, which come first. -/
def timeoutRules : Nat := 5

/-- A code whose first letter is none of theirs is not one of the codes of time limits. -/
theorem append_notMem_timeoutCodes {s : String} (hne : s.toList ≠ [])
    (hs : ∀ c ∈ timeoutCodes, c.toList.head? ≠ s.toList.head?) (t : String) :
    s ++ t ∉ timeoutCodes := by
  intro hmem
  refine hs _ hmem ?_
  rw [String.toList_append, List.head?_append_of_ne_nil _ hne]

/-- The first rules, and no others, give the codes for timeouts. -/
theorem codeAt_mem_timeoutCodes_iff (model label : String) (number : Nat) :
    codeAt model label number ∈ timeoutCodes ↔ number < timeoutRules := by
  have hfirst : ∀ r ∈ rules.take timeoutRules, r.code model ∈ timeoutCodes := by
    simp [rules, rule, timeoutRules, timeoutCodes]
  have hothers : ∀ r ∈ rules.drop timeoutRules, r.code model ∉ timeoutCodes := by
    have hnotFound : "model_not_found:" ++ model ∉ timeoutCodes :=
      append_notMem_timeoutCodes (by decide) (by decide) model
    simp only [rules, rule, timeoutRules, List.drop_succ_cons, List.drop_zero,
      List.forall_mem_cons, List.not_mem_nil, false_imp_iff, implies_true, and_true]
    exact ⟨by decide, by decide, hnotFound, by decide⟩
  have hfallback : "llm_error:" ++ label ∉ timeoutCodes :=
    append_notMem_timeoutCodes (by decide) (by decide) label
  rw [codeAt]
  cases hrule : rules[number]? with
  | none =>
    have hlength : timeoutRules ≤ rules.length := by decide
    have hnumber := List.getElem?_eq_none_iff.mp hrule
    exact iff_of_false hfallback (by omega)
  | some r =>
    by_cases hnumber : number < timeoutRules
    · have htake : (rules.take timeoutRules)[number]? = some r := by
        rw [List.getElem?_take_of_lt hnumber, hrule]
      exact iff_of_true (hfirst r (List.mem_of_getElem? htake)) hnumber
    · have hdrop : (rules.drop timeoutRules)[number - timeoutRules]? = some r := by
        rw [List.getElem?_drop, Nat.add_sub_cancel' (by omega), hrule]
      exact iff_of_false (hothers r (List.mem_of_getElem? hdrop)) hnumber

/-! ### More context -/

/-- An error with more text around the one of another error of its kind. -/
structure InContext (f g : Fault) : Prop where
  label : g.label = f.label
  isTimeout : g.isTimeout = f.isTimeout
  text : ∃ front back, g.text = front ++ f.text ++ back

/-- In a context the first rule that applies does not come later. -/
theorem decider_le {f g : Fault} (h : InContext f g) : decider g ≤ decider f := by
  obtain ⟨front, back, htext⟩ := h.text
  have hin : f.text.toList <:+: g.text.toList :=
    ⟨front.toList, back.toList, by rw [htext, String.toList_append, String.toList_append]⟩
  have hclues := Clues.within_of f.isTimeout hin
  rw [← h.isTimeout] at hclues
  unfold decider
  rw [← h.isTimeout]
  exact List.findIdx_le_findIdx fun r hr ↦ persists_of_mem_rules r hr hclues

/-- The rule that decides gives the code. More context never makes a later rule decide, and where
the same rule decides the code is the same. An error with a code for timeouts keeps one of these,
whatever else the context mentions. -/
theorem of_inContext (model : String) {f g : Fault} (h : InContext f g) :
    of model f = codeAt model f.label (decider f) ∧ decider g ≤ decider f ∧
      (decider g = decider f → of model g = of model f) ∧
      (of model f ∈ timeoutCodes → of model g ∈ timeoutCodes) := by
  have hle := decider_le h
  rw [of_eq, of_eq, h.label]
  refine ⟨rfl, hle, fun heq ↦ by rw [heq], fun hmem ↦ ?_⟩
  rw [codeAt_mem_timeoutCodes_iff] at hmem ⊢
  exact hle.trans_lt hmem

/-! ### A timeout behind another code -/

namespace Proxied

def error (message : String) : Fault :=
  .external ⟨"RuntimeError", message, .plain⟩

theorem of_inContext_proxied :
    InContext (error "request timed out") (error "HTTP 403 from proxy: request timed out (429)") ∧
      of "m" (error "request timed out") = "timeout" ∧
      of "m" (error "HTTP 403 from proxy: request timed out (429)") ∈ timeoutCodes := by
  have hcontext : InContext (error "request timed out")
      (error "HTTP 403 from proxy: request timed out (429)") :=
    ⟨rfl, rfl, "HTTP 403 from proxy: ", " (429)", by decide⟩
  have hcode : of "m" (error "request timed out") = "timeout" := by decide +kernel
  exact ⟨hcontext, hcode, (of_inContext "m" hcontext).2.2.2 (by rw [hcode]; decide)⟩

end Proxied

end ClusterDiagnosis.ErrorCode
