import ClusterDiagnosis.Command.Options
import ClusterDiagnosis.Text.Lines
import ClusterDiagnosis.Text.Search

/-!
The arguments of the command line. A long option may be given by any start of its name that no other
option has, with its argument behind an equals sign or as the next one; a short option may have its
argument attached. A negative number and a text with a space are arguments in spite of their dash.
-/

set_option autoImplicit false
set_option relaxedAutoImplicit false

namespace ClusterDiagnosis

/-- How the reading of arguments ends if not with options. -/
inductive ArgumentEnd where
  | help
  | refused
  deriving DecidableEq, Repr

/-- What an argument is by its form. -/
inductive Argument where
  | operand
  /-- The mark behind which all arguments are operands. -/
  | mark
  /-- An option that does not exist. -/
  | unknown
  /-- An option, whether it is a short one, and the text attached to it. -/
  | option (rule : OptionRule) (short : Bool) (attached : Option String)

namespace Argument

/-- Whether a text is written like a negative number; a line feed at its end does no harm. -/
def isNegativeNumber (s : String) : Bool :=
  let isDigit (c : Char) : Bool := (Text.digit? c).isSome
  match Text.withoutFinalFeed s.toList with
  | '-' :: r =>
    match r.dropWhile isDigit with
    | [] => !r.isEmpty
    | '.' :: fraction => !fraction.isEmpty && fraction.all isDigit
    | _ => false
  | _ => false

/-- The texts before and behind the first equals sign. -/
def cut? (s : String) : Option (String × String) :=
  (Text.cutFirst? '=' s.toList).map fun (a, b) ↦ (String.ofList a, String.ofList b)

/-- The options that a text which is no name in full may mean. -/
def candidates (s : String) : List Argument :=
  match s.toList with
  | '-' :: '-' :: _ =>
    match cut? s with
    | some (start, attached) =>
      (Options.rulesFrom start).map fun r ↦ .option r false (some attached)
    | none => (Options.rulesFrom s).map fun r ↦ .option r false none
  | '-' :: c :: attached =>
    ((Options.ruleOf? (String.ofList ['-', c])).map fun r ↦
      Argument.option r true (some (String.ofList attached))).toList
  | _ => []

/-- Whether a name is that of a short option. -/
def isShort (name : String) : Bool :=
  !name.startsWith "--"

/-- An option by its name in full, alone or in front of an equals sign. -/
def byName? (s : String) : Option Argument :=
  match Options.ruleOf? s with
  | some r => some (.option r (isShort s) none)
  | none => (cut? s).bind fun (name, attached) ↦
      (Options.ruleOf? name).map fun r ↦ .option r (isShort name) (some attached)

/-- What an argument is. One that may mean several options is refused. -/
def ofText (s : String) : Except ArgumentEnd Argument :=
  if s = "--" then .ok .mark
  else if !s.startsWith "-" || s = "-" then .ok .operand
  else match byName? s with
    | some a => .ok a
    | none => match candidates s with
      | [a] => .ok a
      | _ :: _ :: _ => .error .refused
      | [] =>
        if isNegativeNumber s || s.toList.contains ' ' then .ok .operand else .ok .unknown

/-- What each of the arguments is; behind the mark all are operands. -/
def ofTexts : List String → Except ArgumentEnd (List (String × Argument))
  | [] => .ok []
  | s :: r => do
    match ← ofText s with
    | .mark => return (s, .mark) :: r.map fun t ↦ (t, .operand)
    | a => return (s, a) :: (← ofTexts r)

end Argument

namespace Options

/-- The argument of an option: the text attached to it, or else the operand that follows. -/
def valueOf (attached : Option String) (rest : List (String × Argument)) :
    Except ArgumentEnd (String × List (String × Argument)) :=
  match attached, rest with
  | some s, rest => .ok (s, rest)
  | none, (s, .operand) :: rest => .ok (s, rest)
  | none, _ => .error .refused

/-- Whether the letters behind the short option for help are short options as well, the last one
with its argument. -/
def isCluster (rest : List (String × Argument)) : List Char → Bool
  | [] => true
  | c :: letters =>
    match Options.ruleOf? (String.ofList ['-', c]) with
    | none => false
    | some r => match r.action with
      | .argument _ => !letters.isEmpty || (valueOf none rest).isOk
      | _ => isCluster rest letters

/-- The options that arguments set, one after the other. Operands have no place in the command, but
they are refused only in the end. -/
def read (o : Options) (surplus : Bool) :
    List (String × Argument) → Except ArgumentEnd Options
  | [] => if surplus then .error .refused else .ok o
  | (_, .option r short attached) :: rest =>
    match r.action, attached with
    | .help, none => .error .help
    | .help, some letters =>
      .error (if short && !letters.isEmpty && isCluster rest letters.toList then .help
        else .refused)
    | .switch set, none => read (set o) surplus rest
    | .switch _, some _ => .error .refused
    | .argument set, some s =>
      match set s o with
      | some o => read o surplus rest
      | none => .error .refused
    | .argument set, none =>
      match rest with
      | (s, .operand) :: rest =>
        match set s o with
        | some o => read o surplus rest
        | none => .error .refused
      | _ => .error .refused
  | _ :: rest => read o true rest

/-- The options of a command line. -/
def ofArguments (args : List String) : Except ArgumentEnd Options := do
  read {} false (← Argument.ofTexts args)

end Options

end ClusterDiagnosis
