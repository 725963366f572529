import ClusterDiagnosis.Proofs.Cluster.Events
import ClusterDiagnosis.Proofs.Number.Nearest
import ClusterDiagnosis.Proofs.Time.Written

/-!
# The times of events survive their written form

A record keeps a point in time in its written form (`Event.Keeps`), and its time is read off the
field that would have told it before (`Event.time_eq_of_keeps`). What is read there is the point in
time that was written, on a clock with any offset of whole minutes. So the time of the event is the
instant itself, for the record as for the points in time that went into it, and it is the same for
clocks that show the same instant (`Event.time_written`). As a number of seconds it is the floating
point number nearest to the instant (`DateTime.isNearest_ofMicros`).
-/

set_option autoImplicit false
set_option relaxedAutoImplicit false

namespace ClusterDiagnosis

/-- The seconds of an instant are rounded to the nearest number. -/
theorem DateTime.isNearest_ofMicros {n : Int} (h : n.natAbs.log2 < 1042) : ∃ s m e,
    ofMicros n = .finite s m e ∧ Double.IsNearest s m e ((n : ℚ) / 1000000) := by
  obtain ⟨m, e, hfinite⟩ := exists_ofMicros_eq_finite h
  refine ⟨_, m, e, hfinite, ?_⟩
  have hnearest := Double.isNearest_ofFraction (by decide) hfinite
  have habs : ((n.natAbs : Nat) : ℚ) = |(n : ℚ)| := by
    rw [← Int.cast_abs, Int.abs_eq_natAbs, Int.cast_natCast]
  have hvalue : (if decide (n < 0) = true then -((n.natAbs : ℚ) / (1000000 : Nat))
      else (n.natAbs : ℚ) / (1000000 : Nat)) = (n : ℚ) / 1000000 := by
    rw [habs, Nat.cast_ofNat]
    split
    · next hn =>
      rw [abs_of_neg (Int.cast_lt_zero.mpr (of_decide_eq_true hn)), neg_div, neg_neg]
    · next hn =>
      rw [abs_of_nonneg (Int.cast_nonneg (not_lt.mp (mt decide_eq_true hn)))]
  rwa [hvalue] at hnearest

namespace EventStamp

/-- A time field as a record keeps it: a point in time is written. -/
def kept : EventStamp → Value
  | value v => v
  | dateTime t => .str (Iso.text t)

/-- The time field that a point in time makes, if there is one. -/
def ofTime : Option DateTime → EventStamp
  | none => value .null
  | some t => dateTime t

/-- A time that the client keeps counts exactly if it was given. -/
theorem counts_kept (a : EventStamp) : a.kept.counts = a.counts := by
  cases a with
  | value v => rfl
  | dateTime t => simp [kept, counts, Value.counts, Iso.text]

/-- The first of three times that counts is the first of them that is there. -/
theorem firstOf_ofTime (a b c : Option DateTime) :
    firstOf (ofTime a) (ofTime b) (ofTime c) = ofTime (a.or (b.or c)) := by
  cases a with
  | some t => rfl
  | none =>
    cases b with
    | some t => rfl
    | none => rfl

end EventStamp

namespace Event

open EventStamp

/-- The time fields of a record are the given ones, as a record keeps them. -/
structure Keeps (event : Value) (last own first : EventStamp) : Prop where
  last : event.field "last_timestamp" = .ok last.kept
  own : event.field "event_time" = .ok own.kept
  first : event.field "first_timestamp" = .ok first.kept

variable {event : Value} {last own first : EventStamp}

/-- The record of an event keeps its three times, in the order in which they are consulted. -/
theorem keeps_eventRecord (e : ApiEvent) :
    Keeps (Api.eventRecord e) (ofTime e.last) (ofTime e.happened) (ofTime e.first) := by
  have hkept (t : Option DateTime) : (ofTime t).kept = .ofText (t.map Iso.text) := by
    cases t <;> rfl
  exact ⟨congrArg Except.ok (hkept e.last).symm, congrArg Except.ok (hkept e.happened).symm,
    congrArg Except.ok (hkept e.first).symm⟩

/-- The time of a record is read off what is kept of the field that tells the time. -/
theorem time_eq_of_keeps (h : Keeps event last own first) :
    time event = seconds (.value (firstOf last own first).kept) := by
  unfold time
  rw [h.last, ok_bind, counts_kept, firstOf]
  split_ifs with hlast hown
  · rfl
  · rw [h.own, ok_bind, counts_kept, if_pos hown]
  · rw [h.own, ok_bind, counts_kept, if_neg hown, h.first, ok_bind]

/-- On a clock with an offset of whole minutes, what is written for a point in time is read as its
instant. -/
theorem seconds_text {t : DateTime} (ht : t.IsReal) (hoffset : ∃ o ∈ t.offset, Iso.IsMinutes o) :
    seconds (.value (.str (Iso.text t))) = .ok (DateTime.ofMicros t.instant) := by
  obtain ⟨o, ho, hminutes⟩ := hoffset
  have hread : Iso.parse? (Iso.text t) = some t := by
    refine Iso.parse?_text ht fun o' ho' ↦ ?_
    rwa [Option.mem_unique ho' ho]
  have htimestamp : t.timestamp? = some (DateTime.ofMicros t.instant) := by
    rw [DateTime.timestamp?, Option.mem_def.mp ho]
  change Except.ok (((Iso.parse? (Iso.text t)).bind DateTime.timestamp?).getD .zero) = _
  rw [hread, Option.bind_some, htimestamp, Option.getD_some]

/-- Where a point in time on a clock with an offset of whole minutes tells when an event happened,
the time of the event is the instant, whether the event has the points in time themselves or is a
record that keeps them in their written form, such as the interface's events are turned into. What
is written for another clock that shows the same instant is read as the same time. -/
theorem time_written {t : DateTime} (ht : t.IsReal) (hoffset : ∃ o ∈ t.offset, Iso.IsMinutes o) :
    (∀ event last own first, Keeps event last own first → firstOf last own first = .dateTime t →
      time event = (firstOf last own first).seconds ∧
        time event = .ok (DateTime.ofMicros t.instant)) ∧
    (∀ e : ApiEvent, e.stamp? = some t →
      time (Api.eventRecord e) = .ok (DateTime.ofMicros t.instant)) ∧
    ∀ u : DateTime, u.IsReal → (∃ o ∈ u.offset, Iso.IsMinutes o) → u.instant = t.instant →
      seconds (.value (.str (Iso.text u))) = seconds (.value (.str (Iso.text t))) := by
  have hkept {event : Value} {last own first : EventStamp} (h : Keeps event last own first)
      (hstamp : firstOf last own first = .dateTime t) :
      time event = .ok (DateTime.ofMicros t.instant) := by
    rw [time_eq_of_keeps h, hstamp]
    exact seconds_text ht hoffset
  refine ⟨fun event last own first h hstamp ↦ ⟨?_, hkept h hstamp⟩, fun e he ↦ ?_,
    fun u hu huoffset hinstant ↦ ?_⟩
  · obtain ⟨o, ho, -⟩ := hoffset
    rw [hkept h hstamp, hstamp, seconds, DateTime.timestamp?, Option.mem_def.mp ho]
  · refine hkept (keeps_eventRecord e) ?_
    rw [firstOf_ofTime]
    exact congrArg ofTime he
  · rw [seconds_text hu huoffset, seconds_text ht hoffset, hinstant]

/-! ### The end of a leap day -/

/-- Just before midnight, behind universal time. -/
def leapDay : DateTime :=
  ⟨⟨1968, 2, 29⟩, 23, 59, 59, 1, some (-34200000000)⟩

/-- The same instant where clocks show universal time. -/
def marchDay : DateTime :=
  ⟨⟨1968, 3, 1⟩, 9, 29, 59, 1, some 0⟩

theorem time_written_leapDay :
    leapDay.IsReal ∧ marchDay.IsReal ∧ leapDay.instant = marchDay.instant ∧
      time (Api.eventRecord ⟨.null, .null, .null, .null, none, none, some leapDay, none⟩) =
        .ok (DateTime.ofMicros (-57940200999999)) ∧
      DateTime.ofMicros (-57940200999999) = .finite true 7776602138083194 (-27) ∧
      seconds (.value (.str "1968-02-29T23:59:59.000001-09:30")) =
        seconds (.value (.str "1968-03-01T09:29:59.000001+00:00")) := by
  have hleap : leapDay.IsReal :=
    ⟨by decide, by decide, by decide, by decide, by decide, by decide⟩
  have hmarch : marchDay.IsReal :=
    ⟨by decide, by decide, by decide, by decide, by decide, by decide⟩
  have hwritten := time_written hmarch ⟨0, rfl, by decide⟩
  exact ⟨hleap, hmarch, by decide, (time_written hleap ⟨_, rfl, by decide⟩).2.1 _ rfl,
    by decide +kernel,
    hwritten.2.2 leapDay hleap ⟨_, rfl, by decide⟩ (by decide)⟩

end Event

end ClusterDiagnosis
