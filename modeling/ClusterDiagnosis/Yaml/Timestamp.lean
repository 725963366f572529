import ClusterDiagnosis.Text.Lines
import ClusterDiagnosis.Time.Iso

/-!
Timestamps as YAML writes them: a date alone, or with a time of day and an offset.
-/

set_option autoImplicit false
set_option relaxedAutoImplicit false

namespace ClusterDiagnosis.Yaml

/-- The fields of a timestamp as they are written, whether there is such a time or not. -/
structure Timestamp where
  day : Day
  /-- Whether month and day have two digits each. -/
  full : Bool
  /-- Hour, minute, second and microsecond, with the offset in minutes if there is one. -/
  clock : Option (Nat × Nat × Nat × Nat × Option Int)
  deriving Repr

namespace Timestamp

/-- Digits in front, at most `most`, how many they are, and what follows. -/
def digits? (least most : Nat) (cs : List Char) : Option (Nat × Nat × List Char) :=
  let ds := (cs.take most).takeWhile Char.isDigit
  if ds.length < least then none
  else some (Decimal.valueOf (ds.map fun d ↦ d.toNat - '0'.toNat), ds.length, cs.drop ds.length)

/-- What follows a character. -/
def behind? (c : Char) : List Char → Option (List Char)
  | [] => none
  | d :: r => if c = d then some r else none

/-- The microseconds of a fraction, if there is one. -/
def fraction (cs : List Char) : Nat × List Char :=
  match cs with
  | '.' :: r =>
    let (ds, rest) := Decimal.leadingDigits r
    ((Iso.micros ds).toNat, rest)
  | r => (0, r)

/-- The offset at the end, if there is one. -/
def offset? (cs : List Char) : Option (Option Int) :=
  match cs with
  | [] => some none
  | cs =>
    match cs.dropWhile fun c ↦ c == ' ' || c == '\t' with
    | ['Z'] => some (some 0)
    | c :: r => do
      if c ≠ '+' ∧ c ≠ '-' then none
      let (hours, _, r) ← digits? 1 2 r
      let minutes ← match r with
        | [] => some 0
        | ':' :: r => match digits? 2 2 r with
          | some (m, _, []) => some m
          | _ => none
        | _ => none
      let total : Int := hours * 60 + minutes
      some (some (if c = '-' then -total else total))
    | [] => none

/-- What stands between date and time of day: a letter, or blanks. -/
def separated? (cs : List Char) : Option (List Char) :=
  match cs with
  | 'T' :: r => some r
  | 't' :: r => some r
  | c :: r => if c = ' ' ∨ c = '\t' then some (r.dropWhile fun c ↦ c == ' ' || c == '\t') else none
  | [] => none

/-- The fields of a written timestamp; a line feed at its end does no harm. -/
def parse? (cs : List Char) : Option Timestamp := do
  let (year, _, r) ← digits? 4 4 (Text.withoutFinalFeed cs)
  let (month, m, r) ← digits? 1 2 (← behind? '-' r)
  let (day, d, r) ← digits? 1 2 (← behind? '-' r)
  let date : Day := ⟨year, month, day⟩
  let full := m == 2 && d == 2
  if r.isEmpty then return ⟨date, full, none⟩
  let (hour, _, r) ← digits? 1 2 (← separated? r)
  let (minute, _, r) ← digits? 2 2 (← behind? ':' r)
  let (second, _, r) ← digits? 2 2 (← behind? ':' r)
  let (micro, r) := fraction r
  return ⟨date, full, some (hour, minute, second, micro, ← offset? r)⟩

/-- Whether the text is a timestamp where nothing else says so: a date alone has to be full. -/
def isTimestamp (cs : List Char) : Bool :=
  match parse? cs with
  | some t => t.full || t.clock.isSome
  | none => false

/-- The minutes of a day. -/
def dayMinutes : Nat := 1440

/-- The timestamp as a text, if there is such a time. -/
def text? (t : Timestamp) : Option String :=
  if t.day.isReal then
    match t.clock with
    | none => some (String.ofList (Iso.dayText t.day))
    | some (hour, minute, second, micro, offset) =>
      if hour < 24 ∧ minute < 60 ∧ second < 60 ∧ offset.all (fun o ↦ o.natAbs < dayMinutes) then
        some (Iso.text ⟨t.day, hour, minute, second, micro, offset.map (Iso.span 0 · 0)⟩)
      else none
  else none

end Timestamp

end ClusterDiagnosis.Yaml
