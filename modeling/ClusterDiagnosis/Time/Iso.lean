import ClusterDiagnosis.Number.Decimal
import ClusterDiagnosis.Time.DateTime

/-!
The written form of points in time: a date as year and month and day, as year and week and weekday,
or as year and day of the year; then, behind any one character, a time of day; then an offset. Each
field has its full width.
-/

set_option autoImplicit false
set_option relaxedAutoImplicit false

namespace ClusterDiagnosis.Iso

/-- The number in a field of the written form: exactly as many digits as the field is wide. -/
def field? (width : Nat) (cs : List Char) : Option Int :=
  match Decimal.leadingDigits cs with
  | (ds, []) => if ds.length = width then some (Decimal.valueOf ds) else none
  | _ => none

/-- Year, month and day, `YYYY`, `YYYY-MM`, `YYYY-MM-DD` or `YYYYMMDD`, and what follows. -/
def commonDate? (cs : List Char) : Option (Day × List Char) := do
  if cs.length < 4 then none
  let year ← field? 4 (cs.take 4)
  match cs.drop 4 with
  | [] => some (⟨year, 1, 1⟩, [])
  | '-' :: r =>
    if r.length < 2 then none
    let month ← field? 2 (r.take 2)
    match r.drop 2 with
    | [] => some (⟨year, month, 1⟩, [])
    | '-' :: r =>
      if r.length < 2 then none
      let day ← field? 2 (r.take 2)
      some (⟨year, month, day⟩, r.drop 2)
    | _ => none
  | r =>
    if r.length < 4 then none
    let month ← field? 2 (r.take 2)
    let day ← field? 2 ((r.drop 2).take 2)
    some (⟨year, month, day⟩, r.drop 4)

/-- The day of a week date, if it has a date. -/
def weekDay? (year week day : Int) : Option Day :=
  if Day.isYear year && 0 < week && week < 54 && 0 < day && day < 8 then
    let n := Day.firstMonday year + (week - 1) * 7 + (day - 1)
    if 0 ≤ Day.firstMonday year && n ≤ Day.lastNumber then some (Day.ofNumber n) else none
  else none

/-- A week date, `YYYY-Www`, `YYYY-Www-D` or the same without dashes, behind its `W`. -/
def weekDate? (year : Int) (dashed : Bool) (cs : List Char) : Option (Day × List Char) := do
  let week ← field? 2 (cs.take 2)
  match cs.drop 2 with
  | [] => (weekDay? year week 1).map (·, [])
  | c :: r =>
    if (c == '-') != dashed then none
    let r := if dashed then r else c :: r
    let day ← field? 1 (r.take 1)
    (weekDay? year week day).map (·, r.drop 1)

/-- A date by week or by day of the year, `YYYY-DDD` or `YYYYDDD`. -/
def uncommonDate? (cs : List Char) : Option (Day × List Char) := do
  if cs.length < 4 then none
  let year ← field? 4 (cs.take 4)
  let (dashed, r) := match cs.drop 4 with
    | '-' :: r => (true, r)
    | r => (false, r)
  match r with
  | 'W' :: r => weekDate? year dashed r
  | r =>
    if r.length < 3 then none
    let day ← field? 3 (r.take 3)
    if Day.isYear year && 1 ≤ day && day ≤ Day.yearLength year then
      some (Day.ofNumber (Day.number ⟨year, 1, 1⟩ + (day - 1)), r.drop 3)
    else none

/-- A date and what follows it. A date that reads as year, month and day is that date, even if
there is no such day. -/
def date? (cs : List Char) : Option (Day × List Char) :=
  match commonDate? cs with
  | some (d, rest) => if d.isReal then some (d, rest) else none
  | none => uncommonDate? cs

/-- The microseconds of so many hours, minutes and seconds. -/
def span (hours minutes seconds : Int) : Int :=
  ((hours * 60 + minutes) * 60 + seconds) * 1000000

/-- An offset from universal time in microseconds: `Z`, `±hh`, `±hhmm` or `±hh:mm`. -/
def offset? (cs : List Char) : Option Int := do
  if cs = ['Z'] ∨ cs = ['z'] then some 0
  else
    if ¬(cs.length = 3 ∨ cs.length = 5 ∨ cs.length = 6) then none
    let sign ← match cs with
      | '-' :: _ => some (-1)
      | '+' :: _ => some 1
      | _ => none
    let hours ← field? 2 ((cs.drop 1).take 2)
    let minutes ← match cs.drop 3 with
      | [] => some 0
      | ':' :: r => field? 2 r
      | r => field? 2 r
    if 59 < minutes ∨ 23 < hours then none
    else some (sign * span hours minutes 0)

/-- A time of day with the offset behind it. -/
structure Clock where
  hour : Int := 0
  minute : Int := 0
  second : Int := 0
  micro : Int := 0
  offset : Option Int := none

/-- Whether an offset starts here. -/
def startsOffset (c : Char) : Bool :=
  c == '-' || c == '+' || c == 'Z' || c == 'z'

/-- The microseconds of a fraction; digits beyond the sixth are dropped. -/
def micros (ds : List Nat) : Int :=
  let kept := ds.take 6
  Decimal.valueOf (kept ++ List.replicate (6 - kept.length) 0)

/-- The end of a time: nothing, or an offset. -/
def finish? (clock : Clock) : List Char → Option Clock
  | [] => some clock
  | c :: r =>
    if startsOffset c then (offset? (c :: r)).map fun o ↦ { clock with offset := some o } else none

/-- The fraction of a second, if there is one, and the end. -/
def fraction? (clock : Clock) (cs : List Char) : Option Clock :=
  match cs with
  | [] => some clock
  | c :: r =>
    if c = '.' ∨ c = ',' then
      match Decimal.leadingDigits r with
      | ([], _) => none
      | (ds, rest) => finish? { clock with micro := micros ds } rest
    else finish? clock (c :: r)

/-- The seconds, if there are any, and what follows; `spaced` says whether colons are used. -/
def second? (clock : Clock) (spaced : Bool) (cs : List Char) : Option Clock :=
  match cs with
  | [] => some clock
  | c :: r =>
    if startsOffset c then finish? clock (c :: r)
    else if spaced && c != ':' then none
    else
      let r := if spaced then r else c :: r
      (field? 2 (r.take 2)).bind fun s ↦ fraction? { clock with second := s } (r.drop 2)

/-- The minutes, if there are any, and what follows. -/
def minute? (clock : Clock) (cs : List Char) : Option Clock :=
  match cs with
  | [] => some clock
  | c :: r =>
    if startsOffset c then finish? clock (c :: r)
    else
      let spaced := c == ':'
      let r := if spaced then r else c :: r
      (field? 2 (r.take 2)).bind fun m ↦ second? { clock with minute := m } spaced (r.drop 2)

/-- A time of day of at least two characters. -/
def time? (cs : List Char) : Option Clock :=
  match cs with
  | c :: d :: r =>
    if startsOffset c then finish? {} (c :: d :: r)
    else (field? 2 [c, d]).bind fun h ↦ minute? { hour := h } r
  | _ => none

/-- A day and a time of day put together. Hour 24 is the next midnight, to the microsecond. -/
def assemble? (day : Day) (clock : Clock) : Option DateTime :=
  let midnight := clock.hour == 24
  if midnight && !(clock.minute == 0 && clock.second == 0 && clock.micro == 0) then none
  else
    let hour := if midnight then 0 else clock.hour
    let day := if midnight then day.next else day
    if 0 ≤ hour ∧ hour < 24 ∧ 0 ≤ clock.minute ∧ clock.minute < 60 ∧ 0 ≤ clock.second ∧
        clock.second < 60 ∧ day.year ≤ 9999 then
      some ⟨day, hour, clock.minute, clock.second, clock.micro, clock.offset⟩
    else none

/-- The point in time that a text of ASCII characters is the written form of. -/
def parse? (s : String) : Option DateTime :=
  let cs := s.toList
  if cs.all fun c ↦ c.toNat < 128 then
    match date? cs with
    | none => none
    | some (day, []) => assemble? day {}
    | some (day, _ :: r) => (time? r).bind (assemble? day)
  else none

/-- A number in decimal digits, with zeros in front up to the given width. -/
def padded (width : Nat) (n : Nat) : List Char :=
  let ds := Text.decimal n
  List.replicate (width - ds.length) '0' ++ ds

/-- The fraction of a second as it is written; nothing when there is none. -/
def fractionText (micro : Nat) : List Char :=
  if micro = 0 then [] else '.' :: padded 6 micro

/-- An offset as it is written: sign, hours, minutes, and the seconds when there are any. -/
def offsetText (micros : Int) : List Char :=
  let seconds := micros.natAbs / 1000000
  let micro := micros.natAbs % 1000000
  (if micros < 0 then '-' else '+') :: (padded 2 (seconds / 3600) ++
    ':' :: (padded 2 (seconds / 60 % 60) ++
      (if seconds % 60 = 0 ∧ micro = 0 then []
        else ':' :: (padded 2 (seconds % 60) ++ fractionText micro))))

/-- A time of day as it is written; a fraction only when there is one. -/
def clockText (t : DateTime) : List Char :=
  padded 2 t.hour.toNat ++ ':' :: (padded 2 t.minute.toNat ++ ':' :: (padded 2 t.second.toNat ++
    (fractionText t.micro.toNat ++ (t.offset.map offsetText).getD [])))

/-- A day as it is written. -/
def dayText (d : Day) : List Char :=
  padded 4 d.year.toNat ++ '-' :: (padded 2 d.month.toNat ++ '-' :: padded 2 d.day.toNat)

/-- The written form of a point in time. -/
def text (t : DateTime) : String :=
  String.ofList (dayText t.date ++ 'T' :: clockText t)

end ClusterDiagnosis.Iso
