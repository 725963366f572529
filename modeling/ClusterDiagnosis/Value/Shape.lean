import ClusterDiagnosis.Fault

/-!
Reading dynamic values. Each reader accepts the shapes it can use and fails on the others with the
mismatch that says why.
-/

set_option autoImplicit false
set_option relaxedAutoImplicit false

namespace ClusterDiagnosis.Value

/-- The entry of a map under a key, absent when there is none. -/
def field (v : Value) (key : String) : Except Fault Value :=
  match v with
  | map entries => .ok ((entryAt? key entries).getD null)
  | _ => .error (.mismatch .noField)

/-- The entry under a key if it counts, else `other`. -/
def fieldOr (v : Value) (key : String) (other : Value) : Except Fault Value :=
  (v.field key).map (·.orElse other)

/-- The nested map under a key; empty when nothing that counts is there. -/
def section? (v : Value) (key : String) : Except Fault Value :=
  v.fieldOr key (map [])

/-- The text under a key; empty when nothing that counts is there. -/
def label (v : Value) (key : String) : Except Fault Value :=
  v.fieldOr key (str "")

/-- What a loop over the value runs through: the items of a list, the keys of a map, the
characters of a text. -/
def elements : Value → Except Fault (List Value)
  | list items => .ok items
  | map entries => .ok (entries.map fun e ↦ str e.1)
  | str s => .ok (s.toList.map fun c ↦ str (String.singleton c))
  | _ => .error (.mismatch .wrongType)

/-- What a loop over the entry under a key runs through; nothing when no entry counts. -/
def each (v : Value) (key : String) : Except Fault (List Value) := do
  (← v.fieldOr key (list [])).elements

/-- A text, where a record admits nothing else. -/
def toText : Value → Except Fault String
  | str s => .ok s
  | _ => .error (.mismatch .refused)

/-- Whether the value has a length. -/
def hasLength : Value → Bool
  | str _ => true
  | list _ => true
  | map _ => true
  | _ => false

/-- Whether the value is exactly the given text. -/
def isText (v : Value) (s : String) : Bool :=
  match v with
  | str t => t == s
  | _ => false

/-- The whole number a value stands for; a fraction is cut off. -/
def toInt : Value → Except Fault Int
  | bool b => .ok (if b then 1 else 0)
  | int n => .ok n
  | float d => match d.truncated with
    | .ok n => .ok n
    | .error .notANumber => .error (.mismatch .unreadable)
    | .error .infinite => .error (.mismatch .outOfRange)
  | str s => match Decimal.toInt? s with
    | some n => .ok n
    | none => .error (.mismatch .unreadable)
  | _ => .error (.mismatch .wrongType)

/-- The floating point number a value stands for. -/
def toDouble : Value → Except Fault Double
  | bool b => .ok (Double.ofNat (if b then 1 else 0))
  | int n => match Double.ofInt? n with
    | some d => .ok d
    | none => .error (.mismatch .outOfRange)
  | float d => .ok d
  | str s => match Decimal.toDouble? s with
    | some d => .ok d
    | none => .error (.mismatch .unreadable)
  | _ => .error (.mismatch .wrongType)

/-- The whole number that a value is, where the switches are zero and one. -/
def whole? : Value → Option Int
  | bool b => some (if b then 1 else 0)
  | int n => some n
  | _ => none

/-- Whether two values are the same key of a table. Numbers of all types are compared by value. -/
def sameKey (v w : Value) : Bool :=
  match v, w with
  | null, null => true
  | str s, str t => s == t
  | float a, float b => Double.eqv a b
  | float a, w => w.whole?.any a.isInt
  | v, float b => v.whole?.any b.isInt
  | v, w => v.whole?.any fun n ↦ w.whole? == some n

/-- Whether a value can stand as a key in a table. -/
def isKey : Value → Bool
  | list _ => false
  | map _ => false
  | _ => true

/-- Whether a value is among the keys of a table; some values cannot be looked up. -/
def isAmong (v : Value) (keys : List Value) : Except Fault Bool :=
  if v.isKey then .ok (keys.any v.sameKey) else .error (.mismatch .wrongType)

/-- The number that a value is, for comparisons: a whole number is not rounded. -/
def magnitude? : Value → Option Double
  | float d => some d
  | v => v.whole?.map fun n ↦ .finite (n < 0) n.natAbs 0

/-- Numbers in ascending order; what is no number has no place among them. -/
def ascending (items : List Value) : Except Fault (List Value) := do
  let ranked ← items.mapM fun v ↦ match v.magnitude? with
    | some d => .ok (d, v)
    | none => .error (.mismatch .wrongType)
  return (ranked.mergeSort fun a b ↦ !Double.lt b.1 a.1).map Prod.snd

/-- The keys of labels in order. A list of labels is looked up by the numbers in it. What is empty
has no labels; anything else cannot be looked up by its own elements and is refused. -/
def sortedKeys : Value → Except Fault (List Value)
  | map entries => .ok ((entries.map Prod.fst).mergeSort.map str)
  | list items => ascending items
  | str "" => .ok []
  | _ => .error (.mismatch .wrongType)

/-- The item of a list at a position, where a position below zero counts from the end. -/
def itemAt (items : List Value) (position : Int) : Except Fault Value :=
  let i := if position < 0 then position + items.length else position
  match (if i < 0 then none else items[i.toNat]?) with
  | some v => .ok v
  | none => .error (.mismatch .noElement)

/-- The value that a map has under a key, or a list at a position. -/
def item : Value → Value → Except Fault Value
  | map entries, str key => match entryAt? key entries with
    | some v => .ok v
    | none => .error (.mismatch .missingKey)
  | list items, position => match position.whole? with
    | some i => itemAt items i
    | none => .error (.mismatch .wrongType)
  | _, _ => .error (.mismatch .wrongType)

end ClusterDiagnosis.Value
