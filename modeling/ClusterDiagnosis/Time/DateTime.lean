import ClusterDiagnosis.Number.Double
import ClusterDiagnosis.Text.Digits
import ClusterDiagnosis.Time.Calendar

/-!
Points in time as clocks show them, with or without an offset from universal time, the instant they
stand for, and their written form.
-/

set_option autoImplicit false
set_option relaxedAutoImplicit false

namespace ClusterDiagnosis

/-- A day, a time of day to the microsecond, and the offset of the clock in microseconds. -/
structure DateTime where
  date : Day
  hour : Int
  minute : Int
  second : Int
  micro : Int
  offset : Option Int
  deriving DecidableEq, Repr, Inhabited

namespace DateTime

/-- The seconds since the start of 1970 on the clock itself, without regard to its offset. -/
def clockSeconds (t : DateTime) : Int :=
  (t.date.number - Day.number Day.epoch) * 86400 + t.hour * 3600 + t.minute * 60 + t.second

/-- The instant, in microseconds since the start of 1970. A clock without offset shows universal
time. -/
def instant (t : DateTime) : Int :=
  t.clockSeconds * 1000000 + t.micro - t.offset.getD 0

/-- A whole number of millionths as a floating point number. -/
def ofMicros (n : Int) : Double :=
  Double.ofFraction (n < 0) n.natAbs 1000000

/-- The seconds since the start of 1970. For a clock with an offset this is the instant, rounded
once. A clock without one is read as local time: its seconds and the fraction are rounded each,
then added, and the first day of year 1 has no such reading. -/
def timestamp? (t : DateTime) : Option Double :=
  match t.offset with
  | some _ => some (ofMicros t.instant)
  | none =>
    if t.date.number = 0 then none
    else some (Double.add (Double.ofFraction (t.clockSeconds < 0) t.clockSeconds.natAbs 1)
      (ofMicros t.micro))

end DateTime

end ClusterDiagnosis
