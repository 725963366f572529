import ClusterDiagnosis.Proofs.Analyzer.Composition
import ClusterDiagnosis.Proofs.Cluster.Contract
import ClusterDiagnosis.Proofs.Scan.Owner

/-!
# A scan without evidence

Events that cannot be had and events that there are none of make no difference to a scan by
built-in analyzers: at alike sources it comes to the same, leaves the same, and makes the same
accesses (`Composed.run_alike`). Two interfaces of a cluster are alike (`Api.Alike`) if one of them
fails where the other has no events to give, or a log without text; then the sources that stand on
them are alike (`Api.Alike.source`), whatever the failures are, because each becomes a fault of
access or an answer before a scan hears of it.
-/

set_option autoImplicit false
set_option relaxedAutoImplicit false

namespace ClusterDiagnosis

/-! ### Scans at alike sources -/

section Scans

variable {σ α : Type} {source source' : Source σ} {deadline : Option Deadline}

/-- A walk up the owners never reads events or logs, so sources alike in all else agree on it. -/
theorem Owner.Hops.run_alike {scope limit : Value} {steps : Nat} {p : Scan α}
    (hp : Owner.Hops scope limit steps p) (h : source.Alike source') (w : World σ) :
    p.run source deadline w = p.run source' deadline w := by
  induction hp generalizing w with
  | done steps r => rfl
  | read kind name _ ih =>
    have hsame := Query.firm_get kind scope name
    exact h.run_consult limit (fun r r' hr ↦ by rw [hsame r r' hr]) ih w

/-- A search for an owner does not tell alike sources apart. -/
theorem Owner.run_search_alike (h : source.Alike source') (object : Value) (w : World σ) :
    (Owner.search object).run source deadline w = (Owner.search object).run source' deadline w := by
  rw [Owner.search, Scan.run_bind, Scan.run_bind, Scan.run_time, Scan.run_time]
  split
  · obtain ⟨scope, hhops⟩ := Owner.hops_find object _ Owner.maxSteps
    exact hhops.run_alike h _
  · rfl

/-- A run of parts of built-in analyzers does not tell alike sources apart. -/
theorem Composed.run_alike {p : Scan α} (hp : Composed p) (h : source.Alike source')
    (w : World σ) : p.run source deadline w = p.run source' deadline w := by
  induction hp generalizing w with
  | plain hplain => exact hplain.run_alike h w
  | record entry => rfl
  | search object => exact Owner.run_search_alike h object w
  | bind _ _ ihp ihf =>
    rw [Scan.run_bind, Scan.run_bind, ihp]
    split
    · exact ihf _ _
    · rfl

end Scans

/-! ### Sources on alike interfaces -/

/-- Replies to an operation that come to the same for a scan. -/
inductive ApiCall.Alike : (c : ApiCall) → Except Fault c.Reply → Except Fault c.Reply → Prop where
  | same (c : ApiCall) (r : Except Fault c.Reply) : Alike c r r
  /-- A failure of any kind, and no events. -/
  | noEvents (scope : Value) (fields : String) (limit : Value) (f : Fault)
      {events : Option (List ApiEvent)} (h : events.getD [] = []) :
      Alike (.events scope fields limit) (.error f) (.ok events)
  /-- A failure of any kind, and a log without text. -/
  | noLog (pod scope : Value) (container : Option Value) (lastLines limit : Value) (f : Fault)
      {text : Option String} (h : text.getD "" = "") :
      Alike (.log pod scope container lastLines limit) (.error f) (.ok text)

variable {σ : Type}

/-- Two interfaces whose operations give alike replies, and that are the same in all else. -/
structure Api.Alike (api api' : Api σ) : Prop where
  inCluster : api.inCluster = api'.inCluster
  ofUser : api.ofUser = api'.ofUser
  connect : api.connect = api'.connect
  call : ∀ c m s, c.Alike (api.call c m s).1 (api'.call c m s).1 ∧
    (api.call c m s).2 = (api'.call c m s).2

namespace Api.Alike

variable {api api' : Api σ} (h : api.Alike api')

include h

/-- Interfaces that differ only in events and logs build their clients in the same way. -/
theorem ensureClient_eq (g : Group) :
    Connection.ensureClient api g = Connection.ensureClient api' g := by
  unfold Connection.ensureClient Connection.ensureLoaded Connection.configure
  rw [h.inCluster, h.ofUser, h.connect]

/-- One call through two such interfaces leaves the connection in the same state. -/
theorem connection_call (c : ApiCall) (m : Moment) (s : Connection σ) :
    c.Alike (Connection.call api c m s).1 (Connection.call api' c m s).1 ∧
      (Connection.call api c m s).2 = (Connection.call api' c m s).2 := by
  unfold Connection.call Connection.andThen
  rw [h.ensureClient_eq]
  rcases Connection.ensureClient api' c.group m s with ⟨f | _, m', s'⟩
  · exact ⟨.same c _, rfl⟩
  · obtain ⟨halike, hleft⟩ := h.call c m' s'.state
    refine ⟨halike, ?_⟩
    simp only [Connection.perform, hleft]

/-- An operation whose replies are alike only if they are the same. -/
theorem connection_call_eq {c : ApiCall} (hc : ∀ r r', c.Alike r r' → r = r') (m : Moment)
    (s : Connection σ) : Connection.call api c m s = Connection.call api' c m s :=
  Prod.ext (hc _ _ (h.connection_call c m s).1) (h.connection_call c m s).2

/-- Listing objects does not read events or logs, so it is the same through both interfaces. -/
theorem listObjects_eq (kind scope selector limit : Value) (m : Moment) (s : Connection σ) :
    api.listObjects kind scope selector limit m s =
      api'.listObjects kind scope selector limit m s := by
  unfold Api.listObjects
  cases resource kind with
  | error f => rfl
  | ok r =>
    dsimp only
    rw [h.connection_call_eq]
    intro r r' hr
    cases hr
    rfl

/-- Reading one object is the same through both interfaces. -/
theorem getObject_eq (kind scope name limit : Value) (m : Moment) (s : Connection σ) :
    api.getObject kind scope name limit m s = api'.getObject kind scope name limit m s := by
  unfold Api.getObject
  cases resource kind with
  | error f => rfl
  | ok r =>
    dsimp only
    rw [h.connection_call_eq]
    intro r r' hr
    cases hr
    rfl

/-- Events that cannot be had are a fault of access, which is not the end of the run. -/
theorem getEvents_alike (scope name limit : Value) (most : Nat) (m : Moment) (s : Connection σ) :
    (Query.events scope name most).Alike
        (api.getEvents scope name .null (.int most) limit m s).1
        (api'.getEvents scope name .null (.int most) limit m s).1 ∧
      (api.getEvents scope name .null (.int most) limit m s).2 =
        (api'.getEvents scope name .null (.int most) limit m s).2 := by
  obtain ⟨halike, hleft⟩ :=
    h.connection_call (.events scope (Api.eventFields name .null) limit) m s
  unfold Api.getEvents
  rcases hcall : Connection.call api (.events scope (Api.eventFields name .null) limit) m s
    with ⟨r, rest⟩
  rcases hcall' : Connection.call api' (.events scope (Api.eventFields name .null) limit) m s
    with ⟨r', rest'⟩
  rw [hcall, hcall'] at halike hleft
  obtain rfl : rest = rest' := hleft
  cases halike with
  | same => exact ⟨.same _ _, rfl⟩
  | noEvents _ _ _ f hevents =>
    have hnewest : Api.newest [] (.int most) = .ok [] := by
      simp [Api.newest, Event.sorted, Event.newestFirst, Api.eventCount]
    have haccess : (Api.accessFault "fetch events" f).endsRun = false := by
      obtain ⟨detail, hdetail⟩ := Api.isAccess_accessFault "fetch events" f
      rw [hdetail]
      rfl
    simp only [hevents, hnewest]
    exact ⟨.noEvents _ _ _ haccess, trivial⟩

/-- A log that cannot be had is no log. -/
theorem readLog_alike (pod scope container limit : Value) (lastLines : Nat) (m : Moment)
    (s : Connection σ) :
    (Query.log pod scope container lastLines).Alike
        (api.readLog pod scope container (.int lastLines) limit m s).1
        (api'.readLog pod scope container (.int lastLines) limit m s).1 ∧
      (api.readLog pod scope container (.int lastLines) limit m s).2 =
        (api'.readLog pod scope container (.int lastLines) limit m s).2 := by
  unfold Api.readLog
  dsimp only
  generalize (if container.counts = true then some container else none) = chosen
  obtain ⟨halike, hleft⟩ := h.connection_call (.log pod scope chosen (.int lastLines) limit) m s
  rcases hcall : Connection.call api (.log pod scope chosen (.int lastLines) limit) m s
    with ⟨r, rest⟩
  rcases hcall' : Connection.call api' (.log pod scope chosen (.int lastLines) limit) m s
    with ⟨r', rest'⟩
  rw [hcall, hcall'] at halike hleft
  obtain rfl : rest = rest' := hleft
  cases halike with
  | same => exact ⟨.same _ _, rfl⟩
  | @noLog _ _ _ _ _ f text htext =>
    cases text with
    | none => exact ⟨.same _ _, rfl⟩
    | some text =>
      obtain rfl : text = "" := htext
      exact ⟨.noLog _ _ _ _, rfl⟩

/-- The sources made from interfaces that differ only in events and logs are alike. -/
theorem source : api.source.Alike api'.source := by
  intro q limit m s
  cases q with
  | list kind scope selector =>
    have hsame := h.listObjects_eq (.str kind) scope selector limit m s
    simp only [Api.source, hsame]
    exact ⟨.same _ _, trivial⟩
  | get kind scope name =>
    have hsame := h.getObject_eq (.str kind) scope name limit m s
    simp only [Api.source, hsame]
    exact ⟨.same _ _, trivial⟩
  | events scope name most => exact h.getEvents_alike scope name limit most m s
  | log pod scope container lastLines =>
    exact h.readLog_alike pod scope container limit lastLines m s

end Api.Alike

/-- A failing event store and an empty one are indistinguishable. Runs of built-in analyzers come to
the same result or fault, at the same moment, with the same gauge, after the same accesses, and
leave the cluster in the same state, at two sources that are the same but that some accesses to
events fail at one of them, for any reason but the end of the run, and give no events at the other.
At two interfaces that are the same but that some of their operations fail at one of them, for any
reason, and give no events, or a log without text, at the other, this holds as well, down to the
steps that are made there. -/
theorem examineAll_run_alike {checks : List Check} (hchecks : ∀ c ∈ checks, c ∈ Check.builtin)
    (selection : Selection) (deadline : Option Deadline) :
    (∀ (σ : Type) (source source' : Source σ), source.Alike source' → ∀ w : World σ,
      (examineAll selection (checks.map Check.analyzer)).run source deadline w =
        (examineAll selection (checks.map Check.analyzer)).run source' deadline w) ∧
    (∀ (σ : Type) (api api' : Api σ), api.Alike api' → ∀ w : World (Connection σ),
      (examineAll selection (checks.map Check.analyzer)).run api.source deadline w =
        (examineAll selection (checks.map Check.analyzer)).run api'.source deadline w) := by
  have hcomposed := composed_examineAll hchecks selection
  constructor
  · intro σ source source' h w
    exact hcomposed.run_alike h w
  · intro σ api api' h w
    exact hcomposed.run_alike h.source w

namespace UnreadyPod

/-- A running pod with a container that is not ready, which only an event can explain. -/
def pod : Value :=
  .map [
    ("metadata", .map [("name", .str "p"), ("namespace", .str "n")]),
    ("spec", .map [("containers", .list [.map [("name", .str "c")]])]),
    ("status", .map [("phase", .str "Running"),
      ("container_statuses", .list [.map [("name", .str "c"), ("ready", .bool false)]])])]

/-- A cluster with this pod, with the given answers about its events and its log. -/
def cluster (events : Except Fault (List Value)) (log : Option String) : Source Unit where
  answer
    | .list _ _ _, _, m, s => (.ok [pod], m, s)
    | .get _ _ _, _, m, s => (.ok none, m, s)
    | .events _ _ _, _, m, s => (events, { m with now := m.now.add (.ofNat 2) }, s)
    | .log _ _ _ _, _, m, s => (.ok log, m, s)

/-- An interface of such a cluster. -/
def interface (events : Except Fault (Option (List ApiEvent)))
    (log : Except Fault (Option String)) : Api Unit :=
  { Api.vacant with
    call := fun c m s ↦
      match c with
      | .list _ _ _ _ => (.ok (some [pod]), m, s)
      | .events _ _ _ => (events, { m with now := m.now.add (.ofNat 2) }, s)
      | .log _ _ _ _ _ => (log, m, s)
      | c => Api.vacant.call c m s }

/-- A failure of the network. -/
def unreachable : Fault :=
  .external ⟨"OSError", "connection refused", .plain⟩

def deadline : Option Deadline :=
  some ⟨.ofNat 5, "5"⟩

def start (σ : Type) (state : σ) : World σ where
  moment := ⟨.zero, false⟩
  cluster := state
  gauge := some {}

/-- Events that cannot be read against no events, and no log against an empty one. -/
theorem cluster_alike :
    (cluster (.error unreachable) none).Alike (cluster (.ok []) (some "")) := by
  intro q limit m s
  cases q with
  | list => exact ⟨.same _ _, rfl⟩
  | get => exact ⟨.same _ _, rfl⟩
  | events => exact ⟨.noEvents _ _ _ rfl, rfl⟩
  | log => exact ⟨.noLog _ _ _ _, rfl⟩

theorem interface_alike :
    (interface (.error (.cancelled "stop")) (.error unreachable)).Alike
      (interface (.ok none) (.ok (some ""))) where
  inCluster := rfl
  ofUser := rfl
  connect := rfl
  call c m s := by
    cases c with
    | list => exact ⟨.same _ _, rfl⟩
    | read => exact ⟨.same _ _, rfl⟩
    | events => exact ⟨.noEvents _ _ _ _ rfl, rfl⟩
    | log => exact ⟨.noLog _ _ _ _ _ _ rfl, rfl⟩

theorem examineAll_run_alike_unready :
    let scan := examineAll {} ([Check.pod, Check.log].map Check.analyzer)
    (∀ c ∈ [Check.pod, Check.log], c ∈ Check.builtin) ∧
    (cluster (.error unreachable) none).Alike (cluster (.ok []) (some "")) ∧
    scan.run (cluster (.error unreachable) none) deadline (start Unit ()) =
      scan.run (cluster (.ok []) (some "")) deadline (start Unit ()) ∧
    (interface (.error (.cancelled "stop")) (.error unreachable)).Alike
      (interface (.ok none) (.ok (some ""))) ∧
    scan.run (interface (.error (.cancelled "stop")) (.error unreachable)).source deadline
        (start _ ⟨false, [], [], ()⟩) =
      scan.run (interface (.ok none) (.ok (some ""))).source deadline
        (start _ ⟨false, [], [], ()⟩) ∧
    (scan.run (cluster (.error unreachable) none) deadline (start Unit ())).2.asked.length = 4 := by
  have hchecks : ∀ c ∈ [Check.pod, Check.log], c ∈ Check.builtin := by
    simp [Check.builtin, Check.core, Check.additional]
  obtain ⟨hsources, hinterfaces⟩ := examineAll_run_alike hchecks {} deadline
  exact ⟨hchecks, cluster_alike, hsources _ _ _ cluster_alike _, interface_alike,
    hinterfaces _ _ _ interface_alike _, by decide +kernel⟩

end UnreadyPod

end ClusterDiagnosis
