import ClusterDiagnosis.Text.Lines
import ClusterDiagnosis.Text.Search
import ClusterDiagnosis.Yaml.Timestamp

/-!
Tags: what the node of a text is. A plain scalar without a tag is what it looks like.
-/

set_option autoImplicit false
set_option relaxedAutoImplicit false

namespace ClusterDiagnosis.Yaml

namespace Tag

/-- What the names of the standard tags start with. -/
def standard : String := "tag:yaml.org,2002:"

/-- The standard tag of a name. -/
def ofName (name : String) : String :=
  standard ++ name

/-- The tag that leaves it to the node what it is. -/
def unspecific : String := "!"

/-- A sign in front is passed over. -/
def unsigned (cs : List Char) : List Char :=
  match cs with
  | '-' :: r => r
  | '+' :: r => r
  | r => r

/-- The words for true and false. -/
def switchWords : List String := [
  "yes", "Yes", "YES", "no", "No", "NO", "true", "True", "TRUE", "false", "False", "FALSE",
  "on", "On", "ON", "off", "Off", "OFF"]

def isDigitOrGap (c : Char) : Bool :=
  c.isDigit || c == '_'

/-- A digit, and then digits with gaps. -/
def isRow : List Char → Bool
  | [] => false
  | c :: r => c.isDigit && r.all isDigitOrGap

/-- A digit of base sixty: one or two decimal ones. -/
def isSixtieth : List Char → Bool
  | [c] => c.isDigit
  | [c, d] => c.isDigit && c ≤ '5' && d.isDigit
  | _ => false

/-- A number in base sixty, of two digits at least, where the first may be any row. -/
def isSexagesimal (cs : List Char) : Bool :=
  match Text.splitAt ':' cs with
  | first :: second :: others => isRow first && (second :: others).all isSixtieth
  | _ => false

/-- Whether a text looks like a whole number: in base 2, 8, 10, 16 or 60. -/
def isInt (cs : List Char) : Bool :=
  match unsigned cs with
  | '0' :: 'b' :: r => !r.isEmpty && r.all fun c ↦ c == '0' || c == '1' || c == '_'
  | '0' :: 'x' :: r => !r.isEmpty && r.all fun c ↦ (Text.hexDigit? c).isSome || c == '_'
  | '0' :: r => r.all fun c ↦ ('0' ≤ c && c ≤ '7') || c == '_'
  | r => isRow r || isSexagesimal r

/-- Nothing, or an exponent, which has to have a sign. -/
def isExponent : List Char → Bool
  | [] => true
  | e :: s :: r => (e == 'e' || e == 'E') && (s == '+' || s == '-') && !r.isEmpty &&
      r.all Char.isDigit
  | _ => false

/-- Digits with gaps, and an exponent. -/
def isFraction (cs : List Char) : Bool :=
  isExponent (cs.dropWhile isDigitOrGap)

/-- Whether a text looks like a number with a point. -/
def isFloat (cs : List Char) : Bool :=
  [".inf", ".Inf", ".INF"].contains (String.ofList (unsigned cs)) ||
    [".nan", ".NaN", ".NAN"].contains (String.ofList cs) ||
    match cs, Text.cutFirst? '.' (unsigned cs) with
    | '.' :: c :: r, _ => c.isDigit && isFraction r
    | _, some (whole, r) =>
      (isRow whole && isFraction r) || (isSexagesimal whole && r.all isDigitOrGap)
    | _, none => false

/-- Whether a text stands for nothing. -/
def isNull (s : String) : Bool :=
  ["", "~", "null", "Null", "NULL"].contains s

/-- The tag of a plain scalar, by its looks. A line feed at the end makes no difference, unless
there is nothing else. -/
def ofPlain (text : String) : String :=
  let cs := if text = "\n" then ['\n'] else Text.withoutFinalFeed text.toList
  let s := String.ofList cs
  if switchWords.contains s then ofName "bool"
  else if isFloat cs then ofName "float"
  else if isInt cs then ofName "int"
  else if s = "<<" then ofName "merge"
  else if isNull s then ofName "null"
  else if Timestamp.isTimestamp cs then ofName "timestamp"
  else if s = "=" then ofName "value"
  else if ["!", "&", "*"].contains s then ofName "yaml"
  else ofName "str"

end Tag

end ClusterDiagnosis.Yaml
