import ClusterDiagnosis.Fault
import ClusterDiagnosis.Text.Blank
import ClusterDiagnosis.Text.Letters
import ClusterDiagnosis.Text.Search

/-!
Stable codes for the errors of completion services. Rules are tried in order, and the first that
applies gives the code; timeouts come first, so that codes of other errors in the same text do not
hide them.
-/

set_option autoImplicit false
set_option relaxedAutoImplicit false

namespace ClusterDiagnosis.ErrorCode

/-- What the rules look at: whether waiting took too long, and the text of the error, as it is and
in capitals. -/
structure Clues where
  isTimeout : Bool
  text : List Char
  capitals : List Char

/-- Whether a piece occurs in the text. -/
def Clues.has (c : Clues) (piece : String) : Bool :=
  Text.contains piece.toList c.text

/-- Whether a piece in capitals occurs in the text, however it is written. -/
def Clues.mentions (c : Clues) (piece : String) : Bool :=
  Text.contains piece.toList c.capitals

/-- The clues that a text gives; line feeds count as blanks, and blanks at its ends not at all. -/
def Clues.of (isTimeout : Bool) (text : List Char) : Clues :=
  let text := Text.trimChars (text.map fun c ↦ if c = '\n' then ' ' else c)
  ⟨isTimeout, text, Text.inCapitals text⟩

/-- A rule: when it applies, and the code it gives for a model. -/
structure Rule where
  applies : Clues → Bool
  code : (model : String) → String

/-- A rule with the same code for all models. -/
def rule (code : String) (applies : Clues → Bool) : Rule :=
  ⟨applies, fun _ ↦ code⟩

/-- The rules in order. -/
def rules : List Rule := [
  rule "timeout" Clues.isTimeout,
  rule "timeout" (·.has "408"),
  rule "gateway_timeout" (·.has "504"),
  rule "deadline_exceeded" fun c ↦
    c.mentions "DEADLINE_EXCEEDED" || c.mentions "DEADLINE EXCEEDED",
  rule "timeout" fun c ↦ c.mentions "TIMEOUT" || c.mentions "TIMED OUT",
  rule "permission_denied" fun c ↦ c.mentions "PERMISSION_DENIED" || c.has "403",
  rule "unauthenticated" fun c ↦ c.mentions "UNAUTHENTICATED" || c.has "401",
  ⟨fun c ↦ c.has "404" || c.mentions "NOT FOUND", fun model ↦ "model_not_found:" ++ model⟩,
  rule "rate_limited" fun c ↦ c.mentions "RATE" && c.mentions "LIMIT",
  rule "max_tokens_truncated" fun c ↦
    c.mentions "MAX_TOKENS" || c.mentions "MAX TOKENS" || c.mentions "CONTEXT LENGTH",
  rule "rate_limited" fun c ↦ c.has "429" || c.mentions "OVERLOADED",
  rule "unauthenticated" fun c ↦
    c.mentions "API_KEY" && (c.mentions "INVALID" || c.mentions "MISSING")]

/-- The code for an error: that of the first rule that applies, or else one that names the kind of
error. -/
def of (model : String) (f : Fault) : String :=
  match rules.find? fun r ↦ r.applies (.of f.isTimeout f.text.toList) with
  | some r => r.code model
  | none => "llm_error:" ++ f.label

end ClusterDiagnosis.ErrorCode
