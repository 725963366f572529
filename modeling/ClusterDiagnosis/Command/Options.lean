import ClusterDiagnosis.Number.Decimal

/-!
The options of the command line: their names, and what each of them sets.
-/

set_option autoImplicit false
set_option relaxedAutoImplicit false

namespace ClusterDiagnosis

/-- What the command line asks for. -/
structure Options where
  listFilters : Bool := false
  filters : List String := []
  withAdditional : Bool := false
  scope : Option String := none
  selector : Option String := none
  explain : Bool := false
  fix : Bool := false
  anonymize : Bool := false
  asJson : Bool := false
  timeout : Option Double := none
  settingsFile : Option String := none
  deriving Repr

/-- What an option does. -/
inductive OptionAction where
  /-- Shows a help text and nothing else. -/
  | help
  | switch (set : Options → Options)
  /-- Takes an argument, which may be refused. -/
  | argument (set : String → Options → Option Options)

/-- An option with its names. -/
structure OptionRule where
  names : List String
  action : OptionAction

namespace Options

/-- A form of the report by its name. -/
def isJsonForm? (s : String) : Option Bool :=
  if s = "text" then some false else if s = "json" then some true else none

/-- All options. -/
def rules : List OptionRule := [
  ⟨["-h", "--help"], .help⟩,
  ⟨["--list-filters"], .switch fun o ↦ { o with listFilters := true }⟩,
  ⟨["--filter", "-f"], .argument fun s o ↦ some { o with filters := o.filters ++ [s] }⟩,
  ⟨["--with-additional"], .switch fun o ↦ { o with withAdditional := true }⟩,
  ⟨["--namespace", "-n"], .argument fun s o ↦ some { o with scope := some s }⟩,
  ⟨["--selector", "-L"], .argument fun s o ↦ some { o with selector := some s }⟩,
  ⟨["--explain"], .switch fun o ↦ { o with explain := true }⟩,
  ⟨["--fix"], .switch fun o ↦ { o with fix := true }⟩,
  ⟨["--anonymize"], .switch fun o ↦ { o with anonymize := true }⟩,
  ⟨["--output", "-o"], .argument fun s o ↦ (isJsonForm? s).map fun b ↦ { o with asJson := b }⟩,
  ⟨["--timeout"], .argument fun s o ↦
    (Decimal.toDouble? s).map fun d ↦ { o with timeout := some d }⟩,
  ⟨["--config"], .argument fun s o ↦ some { o with settingsFile := some s }⟩]

/-- The option of a name. -/
def ruleOf? (name : String) : Option OptionRule :=
  rules.find? fun r ↦ r.names.contains name

/-- The options with a name that starts with the given text, once for each such name. -/
def rulesFrom (start : String) : List OptionRule :=
  rules.flatMap fun r ↦ (r.names.filter fun n ↦ n.startsWith start).map fun _ ↦ r

end Options

end ClusterDiagnosis
