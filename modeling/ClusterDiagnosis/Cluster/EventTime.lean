import ClusterDiagnosis.Time.Iso
import ClusterDiagnosis.Value.Shape

/-!
When an event happened, and events in the order of their time.
-/

set_option autoImplicit false
set_option relaxedAutoImplicit false

namespace ClusterDiagnosis

/-- A time field of an event: a raw value, or a point in time. -/
inductive EventStamp where
  | value (v : Value)
  | dateTime (t : DateTime)

namespace EventStamp

/-- Whether the field says anything. -/
def counts : EventStamp → Bool
  | value v => v.counts
  | dateTime _ => true

/-- The first of three fields that says something, else the last. -/
def firstOf (a b c : EventStamp) : EventStamp :=
  if a.counts then a else if b.counts then b else c

/-- The time of a field in seconds since the start of 1970. What is not the written form of a point
in time gives zero; a point in time without a reading is refused. -/
def seconds : EventStamp → Except Fault Double
  | value .null => .ok .zero
  | value v => .ok (((Iso.parse? v.text).bind DateTime.timestamp?).getD .zero)
  | dateTime t => match t.timestamp? with
    | some d => .ok d
    | none => .error (.mismatch .unreadable)

end EventStamp

namespace Event

/-- The time of an event: when it was last seen, else when it happened, else when it was first
seen. -/
def time (event : Value) : Except Fault Double := do
  let last ← event.field "last_timestamp"
  if last.counts then EventStamp.seconds (.value last)
  else
    let own ← event.field "event_time"
    if own.counts then EventStamp.seconds (.value own)
    else EventStamp.seconds (.value (← event.field "first_timestamp"))

/-- Sorts items by their times, the newest first; items of the same time stay in order. -/
def newestFirst {α : Type} (timed : List (Double × α)) : List α :=
  (timed.mergeSort fun a b ↦ !Double.lt a.1 b.1).map Prod.snd

/-- Events in the order of their times, the newest first. -/
def sorted (events : List Value) : Except Fault (List Value) := do
  return newestFirst (← events.mapM fun e ↦ (time e).map (·, e))

end Event

end ClusterDiagnosis
