import ClusterDiagnosis.Proofs.Cluster.Contract
import ClusterDiagnosis.Proofs.Number.Order
import ClusterDiagnosis.Proofs.Scan.Running
import ClusterDiagnosis.Proofs.Time.Timestamp
import ClusterDiagnosis.Scan.Event
import Mathlib.Data.List.Sort

/-!
# The newest events

Every event has a time (`ApiEvent.time_eventRecord`), which is a number, and so the events of an
answer have a stable order, the newest first (`NewestFirst`, and `newestFirst_newestFirst` for the
order that is made). Whatever events the interface gives and whatever the limit is, the newest
events are the first ones in that order, and the latest event is the first one given of those that
no other is newer than (`Api.newest_events`).
-/

set_option autoImplicit false
set_option relaxedAutoImplicit false

namespace ClusterDiagnosis

/-! ### The time of an event -/

namespace ApiEvent

/-- The field that tells the time of an event: when it was last seen, else when it happened, else
when it was first seen. -/
def stamp? (e : ApiEvent) : Option DateTime :=
  e.last.or (e.happened.or e.first)

/-- The time of an event in seconds; zero without a field that tells a usable one. -/
def seconds (e : ApiEvent) : Double :=
  ((e.stamp?.bind fun t ↦ Iso.parse? (Iso.text t)).bind DateTime.timestamp?).getD .zero

/-- The time of an event is a number. -/
theorem seconds_ne_nan (e : ApiEvent) : e.seconds ≠ .nan := by
  rw [seconds]
  cases hd : (e.stamp?.bind fun t ↦ Iso.parse? (Iso.text t)).bind DateTime.timestamp? with
  | none => exact Double.noConfusion
  | some d =>
    obtain ⟨t, ht, hd⟩ := Option.bind_eq_some_iff.mp hd
    obtain ⟨stamp, -, ht⟩ := Option.bind_eq_some_iff.mp ht
    exact Iso.timestamp_ne_nan ht hd

/-- The time that is read off the record of an event. -/
theorem time_eventRecord (e : ApiEvent) : Event.time (Api.eventRecord e) = .ok e.seconds := by
  have hcounts (t : DateTime) : (Value.str (Iso.text t)).counts = true := by
    simp [Value.counts, Iso.text]
  have hseconds (t : DateTime) : EventStamp.seconds (.value (.str (Iso.text t))) =
      .ok (((Iso.parse? (Iso.text t)).bind DateTime.timestamp?).getD .zero) := rfl
  have hfirst : (Api.eventRecord e).field "first_timestamp" =
      .ok (.ofText (e.first.map Iso.text)) := rfl
  have hlast : (Api.eventRecord e).field "last_timestamp" = .ok (.ofText (e.last.map Iso.text)) :=
    rfl
  have hhappened : (Api.eventRecord e).field "event_time" =
      .ok (.ofText (e.happened.map Iso.text)) := rfl
  have hnone : (Value.ofText (Option.map Iso.text none)).counts = false := rfl
  have hsome (t : DateTime) : Value.ofText (Option.map Iso.text (some t)) = .str (Iso.text t) := rfl
  simp only [Event.time, hfirst, hlast, hhappened, ok_bind, seconds, stamp?]
  rcases e.last with _ | t
  · rcases e.happened with _ | t
    · rcases e.first with _ | t
      · rfl
      · simp only [hnone, hsome, hseconds, Option.none_or, Option.bind_some]
        rfl
    · simp only [hnone, hsome, hcounts, hseconds, Option.none_or, Option.some_or, Option.bind_some]
      rfl
  · simp only [hsome, hcounts, hseconds, Option.some_or, Option.bind_some]
    rfl

/-- The event has a later time than another one. -/
def Newer (a b : ApiEvent) : Prop :=
  Double.lt b.seconds a.seconds = true

/-- The event is not older than another one. -/
def precedes (a b : ApiEvent) : Bool :=
  !Double.lt a.seconds b.seconds

variable {a b c : ApiEvent}

/-- An event precedes another one in the order unless that one is newer. -/
theorem precedes_iff : a.precedes b = true ↔ ¬b.Newer a := by
  rw [precedes, Newer, Bool.not_eq_true', Bool.not_eq_true]

theorem precedes_trans (a b c : ApiEvent) (hab : a.precedes b = true) (hbc : b.precedes c = true) :
    a.precedes c = true := by
  rw [precedes_iff] at hab hbc ⊢
  intro hac
  rcases Double.lt_or_lt_of_lt b.seconds_ne_nan hac with h | h
  · exact hab h
  · exact hbc h

/-- Of two events one precedes the other. -/
theorem precedes_total (a b : ApiEvent) : (a.precedes b || b.precedes a) = true := by
  cases hab : Double.lt a.seconds b.seconds with
  | true => simp [precedes, Double.lt_asymm hab]
  | false => simp [precedes, hab]

/-- Of two events that do not have the same time one is newer. -/
theorem newer_of_eqv_eq_false (h : ¬b.Newer a)
    (hne : Double.eqv b.seconds a.seconds = false) : a.Newer b := by
  rw [Double.eqv_eq b.seconds_ne_nan a.seconds_ne_nan] at hne
  rw [Newer, Bool.not_eq_true] at h
  rw [Newer]
  simpa [h] using hne

/-- Of two events of the same time neither is newer. -/
theorem not_newer_of_eqv {t : Double} (ha : Double.eqv a.seconds t = true)
    (hb : Double.eqv b.seconds t = true) : ¬b.Newer a := by
  have ht : t ≠ .nan := by
    rintro rfl
    revert ha
    cases a.seconds <;> exact Bool.noConfusion
  rw [Double.eqv_eq (seconds_ne_nan _) ht, Bool.and_eq_true, Bool.not_eq_true',
    Bool.not_eq_true'] at ha hb
  intro h
  rcases Double.lt_or_lt_of_lt ht h with h | h
  · rw [ha.1] at h
    cases h
  · rw [hb.2] at h
    cases h

end ApiEvent

/-! ### Events in order -/

/-- A list of the same events in which no event stands before a newer one, and in which events of
the same time are in the order in which they were given. -/
structure NewestFirst (events sorted : List ApiEvent) : Prop where
  perm : sorted.Perm events
  pairwise : sorted.Pairwise fun a b ↦ ¬b.Newer a
  stable : ∀ t, (sorted.filter fun e ↦ Double.eqv e.seconds t) =
    events.filter fun e ↦ Double.eqv e.seconds t

/-- The first of the events given that no other one is newer than. -/
def IsLatest (events : List ApiEvent) (e : ApiEvent) : Prop :=
  ∃ before after, events = before ++ e :: after ∧ (∀ b ∈ before, e.Newer b) ∧
    ∀ a ∈ after, ¬a.Newer e

/-- Events in the order of their times, the newest first. -/
def newestFirst (events : List ApiEvent) : List ApiEvent :=
  events.mergeSort ApiEvent.precedes

/-- Sorting puts the newest events first and keeps those of the same time in their order: they are
in order as they are, so the stable sort keeps them as a sublist. -/
theorem newestFirst_newestFirst (events : List ApiEvent) :
    NewestFirst events (newestFirst events) where
  perm := List.mergeSort_perm _ _
  pairwise := (List.pairwise_mergeSort ApiEvent.precedes_trans ApiEvent.precedes_total events).imp
    ApiEvent.precedes_iff.mp
  stable t := by
    have hordered : (events.filter fun e ↦ Double.eqv e.seconds t).Pairwise
        fun a b ↦ a.precedes b = true :=
      List.pairwise_of_forall_mem_list fun a ha b hb ↦ ApiEvent.precedes_iff.mpr
        (ApiEvent.not_newer_of_eqv (List.mem_filter.mp ha).2 (List.mem_filter.mp hb).2)
    have hsublist : (events.filter fun e ↦ Double.eqv e.seconds t).Sublist (newestFirst events) :=
      List.sublist_mergeSort ApiEvent.precedes_trans ApiEvent.precedes_total hordered
        List.filter_sublist
    have hfiltered := hsublist.filter fun e ↦ Double.eqv e.seconds t
    rw [List.filter_filter] at hfiltered
    simp only [Bool.and_self] at hfiltered
    refine (hfiltered.eq_of_length ?_).symm
    exact ((List.mergeSort_perm events ApiEvent.precedes).filter _).length_eq.symm

namespace NewestFirst

variable {events sorted : List ApiEvent}

/-- Nothing behind a point of the order is newer than anything in front of it. -/
theorem not_newer_of_take_of_drop (h : NewestFirst events sorted) (n : Nat) :
    ∀ a ∈ sorted.take n, ∀ b ∈ sorted.drop n, ¬b.Newer a := by
  have hpairwise := h.pairwise
  rw [← List.take_append_drop n sorted, List.pairwise_append] at hpairwise
  exact hpairwise.2.2

/-- The first event in order is the first one given of those that no other is newer than. -/
theorem isLatest {e : ApiEvent} {rest : List ApiEvent} (h : NewestFirst events (e :: rest)) :
    IsLatest events e := by
  have hself : Double.eqv e.seconds e.seconds = true := by
    rw [Double.eqv_eq e.seconds_ne_nan e.seconds_ne_nan, Double.lt_irrefl]
    rfl
  have hgreatest : ∀ a ∈ events, ¬a.Newer e := by
    intro a ha
    rcases List.mem_cons.mp (h.perm.mem_iff.mpr ha) with rfl | ha
    · exact ApiEvent.not_newer_of_eqv hself hself
    · exact List.rel_of_pairwise_cons h.pairwise ha
  have hcons : ((e :: rest).filter fun a ↦ Double.eqv a.seconds e.seconds) =
      e :: rest.filter fun a ↦ Double.eqv a.seconds e.seconds := List.filter_cons_of_pos hself
  obtain ⟨before, after, rfl, hbefore, -, -⟩ :=
    List.filter_eq_cons_iff.mp ((h.stable e.seconds).symm.trans hcons)
  refine ⟨before, after, rfl, fun b hb ↦ ?_, fun a ha ↦ ?_⟩
  · exact ApiEvent.newer_of_eqv_eq_false (hgreatest b (by simp [hb]))
      (Bool.eq_false_iff.mpr (hbefore b hb))
  · exact hgreatest a (by simp [ha])

end NewestFirst

/-! ### What an interface answers -/

/-- The events of records in order are the records of the events in order. -/
theorem sorted_eventRecords (events : List ApiEvent) :
    Event.sorted (events.map Api.eventRecord) = .ok ((newestFirst events).map Api.eventRecord) := by
  have htimed : (events.map Api.eventRecord).mapM (fun v ↦ (Event.time v).map (·, v)) =
      .ok (events.map fun e ↦ (e.seconds, Api.eventRecord e)) := by
    induction events with
    | nil => rfl
    | cons e events ih =>
      rw [List.map_cons, List.mapM_cons, ih, ApiEvent.time_eventRecord]
      rfl
  have hsort : (newestFirst events).map (fun e ↦ (e.seconds, Api.eventRecord e)) =
      (events.map fun e ↦ (e.seconds, Api.eventRecord e)).mergeSort
        fun a b ↦ !Double.lt a.1 b.1 :=
    List.map_mergeSort fun _ _ _ _ ↦ rfl
  rw [Event.sorted, htimed]
  refine congrArg Except.ok ?_
  rw [Event.newestFirst, ← hsort, List.map_map]
  rfl

/-- What is given of the events are the records of the first of them, none for a negative limit. -/
theorem newest_eq (events : List ApiEvent) (limit : Int) :
    Api.newest events (.int limit) =
      .ok (((newestFirst events).take (max 0 limit).toNat).map Api.eventRecord) := by
  have hcount : (max 0 limit).toNat = limit.toNat := by omega
  rw [Api.newest, sorted_eventRecords, hcount, List.map_take]
  rfl

namespace Api

variable {σ : Type}

/-- How the operation comes out that fetches the events about an object. -/
def fetched (api : Api σ) (scope name kind timeLimit : Value) (m : Moment) (c : Connection σ) :
    Except Fault (Option (List ApiEvent)) :=
  (Connection.call api (.events scope (eventFields name kind) timeLimit) m c).1

/-- The events found are the newest of those fetched, if fetching them did not fail. -/
theorem getEvents_eq (api : Api σ) (scope name kind timeLimit : Value) (limit : Int) (m : Moment)
    (c : Connection σ) :
    (api.getEvents scope name kind (.int limit) timeLimit m c).1 =
      match api.fetched scope name kind timeLimit m c with
      | .error f => .error (accessFault "fetch events" f)
      | .ok reply =>
        .ok (((newestFirst (reply.getD [])).take (max 0 limit).toNat).map eventRecord) := by
  rw [getEvents, fetched]
  rcases Connection.call api (.events scope (eventFields name kind) timeLimit) m c with
    ⟨f | reply, m', c'⟩
  · rfl
  · dsimp only
    rw [newest_eq]

/-- What the newest events are, as the operation that fetches events comes out: the fault of a
failed operation, and else as many of the events as the limit says, the newest first. -/
def AnswersNewest (limit : Int) (fetched : Except Fault (Option (List ApiEvent)))
    (found : Except Fault (List Value)) : Prop :=
  match fetched with
  | .error f => found = .error (accessFault "fetch events" f)
  | .ok reply => ∃ sorted, NewestFirst (reply.getD []) sorted ∧
      (∀ a ∈ sorted.take (max 0 limit).toNat, ∀ b ∈ sorted.drop (max 0 limit).toNat,
        ¬b.Newer a) ∧
      found = .ok ((sorted.take (max 0 limit).toNat).map eventRecord)

/-- What the latest event is, as the operation that fetches events comes out: none if it failed or
there are no events, and else the first of the newest ones. -/
def AnswersLatest (fetched : Except Fault (Option (List ApiEvent)))
    (found : Except Fault (Option Value)) : Prop :=
  match fetched with
  | .error _ => found = .ok none
  | .ok reply =>
      (reply.getD [] = [] ∧ found = .ok none) ∨
        ∃ e, IsLatest (reply.getD []) e ∧ found = .ok (some (eventRecord e))

/-- Reading events answers with the newest of those that the cluster has, or fails as that
reading. -/
theorem answersNewest_getEvents (api : Api σ) (scope name kind timeLimit : Value) (limit : Int)
    (m : Moment) (c : Connection σ) :
    AnswersNewest limit (api.fetched scope name kind timeLimit m c)
      (api.getEvents scope name kind (.int limit) timeLimit m c).1 := by
  rw [getEvents_eq]
  cases api.fetched scope name kind timeLimit m c with
  | error f => rfl
  | ok reply =>
    have hsorted := newestFirst_newestFirst (reply.getD [])
    exact ⟨_, hsorted, hsorted.not_newer_of_take_of_drop _, rfl⟩

/-- The lookup of the latest event asks for a single event, in the time that is left. -/
theorem run_latestEvent (api : Api σ) (scope name : Value) {deadline : Option Deadline}
    {w : World (Connection σ)} (hover : runOver? deadline w.moment = none) :
    ∃ w', (Scan.latestEvent scope name).run api.source deadline w =
      (Scan.firstOf (api.getEvents scope name .null (.int 1)
        (.seconds (timeLeft deadline w.moment)) w.moment w.cluster).1).run api.source
          deadline w' := by
  rw [Scan.latestEvent, Scan.run_bind, Scan.run_time, hover]
  exact ⟨_, rfl⟩

/-- The latest event of an object is the newest one, and none if the events cannot be read. -/
theorem answersLatest_latestEvent (api : Api σ) (scope name : Value) {deadline : Option Deadline}
    {w : World (Connection σ)} (hover : runOver? deadline w.moment = none) :
    AnswersLatest
      (api.fetched scope name .null (.seconds (timeLeft deadline w.moment)) w.moment w.cluster)
      ((Scan.latestEvent scope name).run api.source deadline w).1 := by
  obtain ⟨w', hrun⟩ := run_latestEvent api scope name hover
  rw [hrun, getEvents_eq]
  cases api.fetched scope name .null (.seconds (timeLeft deadline w.moment)) w.moment w.cluster with
  | error f =>
    obtain ⟨details, hfault⟩ := isAccess_accessFault "fetch events" f
    dsimp only
    rw [hfault]
    rfl
  | ok reply =>
    dsimp only
    have hsorted := newestFirst_newestFirst (reply.getD [])
    cases hfirst : newestFirst (reply.getD []) with
    | nil =>
      rw [hfirst] at hsorted
      exact .inl ⟨hsorted.perm.nil_eq.symm, rfl⟩
    | cons e rest =>
      rw [hfirst] at hsorted
      exact .inr ⟨e, hsorted.isLatest, rfl⟩

/-- Every event has a time. Of any events that the interface gives, as many as the limit says are
found, the newest first; and the latest event is the first one given of those that no other is newer
than. It is none exactly if there are no events or they cannot be fetched, unless the run is over.
-/
theorem newest_events (api : Api σ) (scope name : Value) :
    (∀ e : ApiEvent, Event.time (eventRecord e) = .ok e.seconds) ∧
    (∀ (kind timeLimit : Value) (limit : Int) (m : Moment) (c : Connection σ),
      AnswersNewest limit (api.fetched scope name kind timeLimit m c)
        (api.getEvents scope name kind (.int limit) timeLimit m c).1) ∧
    ∀ (deadline : Option Deadline) (w : World (Connection σ)),
      match runOver? deadline w.moment with
      | some f => (Scan.latestEvent scope name).run api.source deadline w = (.error f, w)
      | none => AnswersLatest
          (api.fetched scope name .null (.seconds (timeLeft deadline w.moment)) w.moment w.cluster)
          ((Scan.latestEvent scope name).run api.source deadline w).1 := by
  refine ⟨ApiEvent.time_eventRecord, answersNewest_getEvents api scope name, fun deadline w ↦ ?_⟩
  cases hover : runOver? deadline w.moment with
  | some f => rw [Scan.latestEvent, Scan.run_bind, Scan.run_time, hover]
  | none => exact answersLatest_latestEvent api scope name hover

/-! ### Events on different clocks -/

namespace MixedEvents

def event (reason : String) (last : Option DateTime) : ApiEvent :=
  ⟨.str "Warning", .str reason, .null, .null, none, last, none, none⟩

/-- A morning on a clock with an offset of so many hours. -/
def morning (hour offset : Int) : DateTime :=
  ⟨⟨2025, 1, 1⟩, hour, 30, 0, 0, some (offset * 3600000000)⟩

def undated : ApiEvent := event "Undated" none

def first : ApiEvent := event "First" (some (morning 5 0))

def second : ApiEvent := event "Second" (some (morning 5 0))

/-- Half past six, where clocks are two hours ahead, is before half past five. -/
def ahead : ApiEvent := event "Ahead" (some (morning 6 2))

def events : List ApiEvent := [undated, ahead, first, second]

def interface : Api Unit :=
  { vacant with
    call := fun c m s ↦
      match c with
      | .events _ _ _ => (.ok (some events), m, s)
      | c => vacant.call c m s }

def start : World (Connection Unit) where
  moment := ⟨.zero, false⟩
  cluster := { state := () }

theorem newestFirst_events : newestFirst events = [first, second, ahead, undated] := by
  have hundated : undated.precedes ahead = false := by decide +kernel
  have hsame : first.precedes second = true := by decide +kernel
  have hfirst : ahead.precedes first = false := by decide +kernel
  have hsecond : ahead.precedes second = false := by decide +kernel
  simp [newestFirst, events, List.mergeSort, List.MergeSort.Internal.splitInTwo,
    hundated, hsame, hfirst, hsecond]

/-- Of the two newest events, which are of the same time, the one given first is the latest. -/
theorem newest_events_mixed :
    let found := interface.getEvents (.str "n") (.str "p") .null (.int 3) .null start.moment
      start.cluster
    let latest := (Scan.latestEvent (.str "n") (.str "p")).run interface.source none start
    (AnswersNewest 3 (.ok (some events)) found.1 ∧
      found.1 = .ok ([first, second, ahead].map eventRecord)) ∧
    AnswersLatest (.ok (some events)) latest.1 ∧ latest.1 = .ok (some (eventRecord first)) := by
  obtain ⟨-, hnewest, hlatest⟩ := newest_events interface (.str "n") (.str "p")
  refine ⟨⟨hnewest .null .null 3 start.moment start.cluster, ?_⟩, hlatest none start, ?_⟩
  · have hfetched : interface.fetched (.str "n") (.str "p") .null .null start.moment
        start.cluster = .ok (some events) := rfl
    rw [getEvents_eq, hfetched]
    dsimp only [Option.getD_some]
    rw [newestFirst_events]
    rfl
  · have hfetched : interface.fetched (.str "n") (.str "p") .null (.seconds none) start.moment
        start.cluster = .ok (some events) := rfl
    obtain ⟨w, hrun⟩ := run_latestEvent interface (.str "n") (.str "p")
      (rfl : runOver? none start.moment = none)
    have hnone : timeLeft none start.moment = none := rfl
    rw [hrun, getEvents_eq, hnone, hfetched]
    dsimp only [Option.getD_some]
    rw [newestFirst_events]
    rfl

end MixedEvents

end Api

end ClusterDiagnosis
