import ClusterDiagnosis.Proofs.Cluster.Contract

/-!
# Connections over time

A connection loads the configuration when the first operation needs it, and makes the client of a
group when the first operation needs that. Both may fail, any number of times. An interface can be
made to keep what is done at it (`Api.recorded`), and what a connection has can then be read off the
record (`Connection.Faithful`): this holds of a new connection, and every operation preserves it. So
whatever the operations before, and however the interface answered, the next one does what the
record calls for and nothing else (`Connection.run_after`).
-/

set_option autoImplicit false
set_option relaxedAutoImplicit false

namespace ClusterDiagnosis

/-! ### What is done at an interface -/

/-- Something done at an interface, with its outcome. -/
inductive Attempt where
  | inCluster (outcome : Except Fault Unit)
  | ofUser (outcome : Except Fault Unit)
  | connect (g : Group) (outcome : Except Fault Unit)
  | call (c : ApiCall) (outcome : Except Fault c.Reply)

namespace Attempt

/-- A configuration is looked for. -/
def IsLoading : Attempt → Prop
  | inCluster _ => True
  | ofUser _ => True
  | _ => False

/-- A configuration is looked for and found. -/
def Loads : Attempt → Prop
  | inCluster (.ok _) => True
  | ofUser (.ok _) => True
  | _ => False

/-- What may come after an attempt: no configuration is looked for once one is found, and no client
is made for a group that has one. -/
def Before (a b : Attempt) : Prop :=
  (a.Loads → ¬b.IsLoading) ∧ ∀ g r, a = .connect g (.ok ()) → b ≠ .connect g r

variable {a b : Attempt}

/-- A call may come after everything. -/
theorem before_call (a : Attempt) (c : ApiCall) (r : Except Fault c.Reply) :
    a.Before (.call c r) :=
  ⟨fun _ ↦ not_false, fun _ _ _ h ↦ nomatch h⟩

end Attempt

open Attempt

variable {σ α β : Type} {api : Api σ} {m : Moment}

/-- A part of an interface that keeps what is done at it, and otherwise does what the given one
does. -/
def Attempt.kept (attempt : Except Fault α → Attempt)
    (p : Moment → σ → Except Fault α × Moment × σ) :
    Moment → σ × List Attempt → Except Fault α × Moment × (σ × List Attempt) := fun m s ↦
  let (r, m', t) := p m s.1
  (r, m', t, s.2 ++ [attempt r])

/-- The interface that keeps what is done at it, and otherwise does what the given one does. -/
def Api.recorded (api : Api σ) : Api (σ × List Attempt) where
  inCluster := kept .inCluster api.inCluster
  ofUser := kept .ofUser api.ofUser
  connect g := kept (.connect g) (api.connect g)
  call c := kept (.call c) (api.call c)

/-! ### Operations -/

/-- An operation that a connection offers. -/
inductive Operation where
  | list (kind scope selector limit : Value)
  | get (kind scope name limit : Value)
  | events (scope name kind most limit : Value)
  | log (pod scope container lastLines limit : Value)

namespace Operation

def Result : Operation → Type
  | list _ _ _ _ => List Value
  | get _ _ _ _ => Option Value
  | events _ _ _ _ _ => List Value
  | log _ _ _ _ _ => Option String

def run (api : Api σ) : (o : Operation) → Connected σ o.Result
  | list kind scope selector limit => api.listObjects kind scope selector limit
  | get kind scope name limit => api.getObject kind scope name limit
  | events scope name kind most limit => api.getEvents scope name kind most limit
  | log pod scope container lastLines limit => api.readLog pod scope container lastLines limit

/-- The call that an operation makes at the client of a group. An operation on a kind that is not
supported needs no group. -/
def call : Operation → Except Fault ApiCall
  | list kind scope selector limit => do
    let r ← Api.resource kind
    return .list r (if scope.counts && r.namespaced then some scope else none) selector limit
  | get kind scope name limit => do
    let r ← Api.resource kind
    return .read r (if r.namespaced then some scope else none) name limit
  | events scope name kind _ limit => .ok (.events scope (Api.eventFields name kind) limit)
  | log pod scope container lastLines limit =>
    .ok (.log pod scope (if container.counts then some container else none) lastLines limit)

/-- How an operation ends if it cannot be carried out: there is no log, and anything else is an
access that failed. -/
def Fails : (o : Operation) → Except Fault o.Result → Prop
  | list _ _ _ _, r => ∃ f, r = .error f ∧ f.IsAccess
  | get _ _ _ _, r => ∃ f, r = .error f ∧ f.IsAccess
  | events _ _ _ _ _, r => ∃ f, r = .error f ∧ f.IsAccess
  | log _ _ _ _ _, r => r = .ok none

/-- Whether an operation looks up one object, which it may find not to exist. -/
def IsLookup : Operation → Prop
  | get _ _ _ _ => True
  | _ => False

/-- An operation that takes its object for one that does not exist. -/
def FindsNothing : (o : Operation) → Except Fault o.Result → Prop
  | get _ _ _ _, r => r = .ok none
  | _, _ => False

variable {o : Operation} {call : ApiCall} {f : Fault}

/-- A listing of a supported kind is the call for its resource, within a namespace if that
counts. -/
theorem call_list_of_resource {kind : Value} {r : Except Fault Resource}
    (h : Api.resource kind = r) (scope selector limit : Value) :
    (list kind scope selector limit).call = r.map fun r ↦
      .list r (if scope.counts && r.namespaced then some scope else none) selector limit := by
  rw [Operation.call, h]
  cases r <;> rfl

/-- A lookup of a supported kind is the call for its resource, which may have no namespace. -/
theorem call_get_of_resource {kind : Value} {r : Except Fault Resource}
    (h : Api.resource kind = r) (scope name limit : Value) :
    (get kind scope name limit).call = r.map fun r ↦
      .read r (if r.namespaced then some scope else none) name limit := by
  rw [Operation.call, h]
  cases r <;> rfl

/-- An operation that needs no group is refused, and nothing is done. -/
theorem run_of_call_error (h : o.call = .error f) (m : Moment) (c : Connection σ) :
    o.run api m c = (.error f, m, c) := by
  cases o with
  | list kind scope selector limit =>
    rcases hr : Api.resource kind with f' | r <;> rw [call_list_of_resource hr] at h <;> cases h
    simp only [run, Api.listObjects, hr]
    rfl
  | get kind scope name limit =>
    rcases hr : Api.resource kind with f' | r <;> rw [call_get_of_resource hr] at h <;> cases h
    simp only [run, Api.getObject, hr]
    rfl
  | events => cases h
  | log => cases h

/-- How an operation ends if its call fails with a fault. A lookup takes a fault that says so for
the absence of its object, wherever the fault comes from. -/
def EndsIn (o : Operation) (f : Fault) (r : Except Fault o.Result) : Prop :=
  ((o.IsLookup → Api.isNotFound f = false) → o.Fails r) ∧
    (o.IsLookup → Api.isNotFound f = true → o.FindsNothing r)

/-- An operation does what its call does, and only makes a result of its own of the reply. -/
theorem exists_run_eq (h : o.call = .ok call) :
    ∃ settle : Except Fault call.Reply → Except Fault o.Result,
      (∀ {τ : Type} (api : Api τ) m c, o.run api m c =
        (settle (Connection.call api call m c).1, (Connection.call api call m c).2)) ∧
      ∀ f, o.EndsIn f (settle (.error f)) := by
  cases o with
  | list kind scope selector limit =>
    rcases hr : Api.resource kind with f' | r <;> rw [call_list_of_resource hr] at h <;> cases h
    refine ⟨fun reply ↦
        (reply.map fun items ↦ items.getD []).mapError (Api.accessFault ("list " ++ r.kind)),
      fun api m c ↦ ?_, fun f ↦ ⟨fun _ ↦ ⟨_, rfl, Api.isAccess_accessFault _ f⟩, False.elim⟩⟩
    simp only [run, Api.listObjects, hr]
    rcases Connection.call api _ m c with ⟨f | items, m', c'⟩ <;> rfl
  | get kind scope name limit =>
    rcases hr : Api.resource kind with f' | r <;> rw [call_get_of_resource hr] at h <;> cases h
    refine ⟨fun reply ↦ (reply.map some).tryCatch fun f ↦
        if Api.isNotFound f then .ok none
        else .error (Api.accessFault
          ("read " ++ r.kind ++ " " ++ scope.text ++ "/" ++ name.text) f),
      fun api m c ↦ ?_, fun f ↦ ⟨fun hf ↦ ?_, fun _ hf ↦ if_pos hf⟩⟩
    · simp only [run, Api.getObject, hr]
      rcases Connection.call api _ m c with ⟨f | object, m', c'⟩
      · dsimp only [Except.map, Except.tryCatch]
        split <;> rfl
      · rfl
    · exact ⟨_, if_neg (by rw [hf trivial]; decide), Api.isAccess_accessFault _ f⟩
  | events scope name kind most limit =>
    cases h
    refine ⟨fun reply ↦ (reply.bind fun listed ↦ Api.newest (listed.getD []) most).mapError
        (Api.accessFault "fetch events"),
      fun api m c ↦ ?_, fun f ↦ ⟨fun _ ↦ ⟨_, rfl, Api.isAccess_accessFault _ f⟩, False.elim⟩⟩
    simp only [run, Api.getEvents]
    rcases Connection.call api _ m c with ⟨f | listed, m', c'⟩
    · rfl
    · dsimp only [Except.bind]
      cases Api.newest (listed.getD []) most <;> rfl
  | log pod scope container lastLines limit =>
    cases h
    refine ⟨fun reply ↦ reply.tryCatch fun _ ↦ .ok none, fun api m c ↦ ?_,
      fun _ ↦ ⟨fun _ ↦ rfl, False.elim⟩⟩
    simp only [run, Api.readLog]
    rcases Connection.call api _ m c with ⟨f | text, m', c'⟩ <;> rfl

end Operation

namespace Connection

/-! ### Keeping a record -/

/-- What was done at the interface so far. -/
def record (c : Connection (σ × List Attempt)) : List Attempt :=
  c.state.2

/-- The connection without the record. -/
def forget (c : Connection (σ × List Attempt)) : Connection σ :=
  ⟨c.loaded, c.clients, c.steps, c.state.1⟩

/-- Two steps that do the same, of which one keeps a record. -/
def Forgets (p : Connected (σ × List Attempt) α) (q : Connected σ α) : Prop :=
  ∀ m c, q m c.forget = ((p m c).1, (p m c).2.1, (p m c).2.2.forget)

/-- A step at the interface goes the same with and without a record. -/
theorem forgets_perform (step : ApiStep) (attempt : Except Fault α → Attempt)
    (p : Moment → σ → Except Fault α × Moment × σ) :
    Forgets (perform step (kept attempt p)) (perform step p) :=
  fun _ _ ↦ rfl

/-- Steps that go the same with and without a record go so one after the other. -/
theorem Forgets.andThen {p : Connected (σ × List Attempt) α} {q : Connected σ α}
    {p' : α → Connected (σ × List Attempt) β} {q' : α → Connected σ β} (h : Forgets p q)
    (h' : ∀ a, Forgets (p' a) (q' a)) : Forgets (andThen p p') (andThen q q') := by
  intro m c
  unfold Connection.andThen
  rw [h m c]
  rcases p m c with ⟨f | a, m', c'⟩
  · rfl
  · exact h' a m' c'

/-- Loading a configuration goes the same with and without a record. -/
theorem forgets_configure (api : Api σ) : Forgets (configure api.recorded) (configure api) := by
  have hfirst : Forgets (perform .inCluster api.recorded.inCluster)
    (perform .inCluster api.inCluster) := forgets_perform .inCluster .inCluster api.inCluster
  intro m c
  unfold configure
  rw [hfirst m c]
  rcases perform .inCluster api.recorded.inCluster m c with ⟨f | u, m', c'⟩
  · dsimp only
    split
    · exact forgets_perform .ofUser .ofUser api.ofUser m' c'
    · rfl
  · rfl

/-- So does making sure that a configuration is loaded. -/
theorem forgets_ensureLoaded (api : Api σ) :
    Forgets (ensureLoaded api.recorded) (ensureLoaded api) := by
  intro m c
  have hloaded : c.forget.loaded = c.loaded := rfl
  unfold ensureLoaded
  rw [hloaded]
  split
  · rfl
  · exact (forgets_configure api).andThen (fun _ _ _ ↦ rfl) m c

/-- So does making sure that a group has a client. -/
theorem forgets_ensureClient (api : Api σ) (g : Group) :
    Forgets (ensureClient api.recorded g) (ensureClient api g) := by
  intro m c
  have hclients : c.forget.clients = c.clients := rfl
  unfold ensureClient
  rw [hclients]
  split
  · rfl
  · exact (forgets_ensureLoaded api).andThen
      (fun _ ↦ (forgets_perform (.connect g) (.connect g) (api.connect g)).andThen
        fun _ _ _ ↦ rfl) m c

/-- So does a call at a group's client. -/
theorem forgets_call (api : Api σ) (call : ApiCall) :
    Forgets (Connection.call api.recorded call) (Connection.call api call) :=
  (forgets_ensureClient api call.group).andThen fun _ ↦
    forgets_perform (.call call) (.call call) (api.call call)

/-- Keeping a record changes nothing else. -/
theorem forgets_run (api : Api σ) (o : Operation) : Forgets (o.run api.recorded) (o.run api) := by
  intro m c
  rcases h : o.call with f | call
  · rw [Operation.run_of_call_error h, Operation.run_of_call_error h]
  · obtain ⟨settle, hrun, -⟩ := Operation.exists_run_eq h
    rw [hrun, hrun, forgets_call api call m c]

/-- The connection that is left of operations, each of them at a moment of its own. -/
def after (api : Api σ) (ops : List (Moment × Operation)) (c : Connection σ) : Connection σ :=
  ops.foldl (fun c o ↦ (o.2.run api o.1 c).2.2) c

/-- Operations leave the same connection with and without a record. -/
theorem after_forget (api : Api σ) (ops : List (Moment × Operation))
    (c : Connection (σ × List Attempt)) :
    after api ops c.forget = (after api.recorded ops c).forget := by
  induction ops generalizing c with
  | nil => rfl
  | cons o ops ih =>
    unfold after at ih ⊢
    rw [List.foldl_cons, List.foldl_cons, forgets_run api o.2 o.1 c]
    exact ih _

/-! ### What is done for a call -/

/-- What is done to load a configuration, and what comes of it: that of a pod is looked for, and
only where there is none, that of the user. -/
inductive Loading : List Attempt → Except Fault Unit → Prop where
  | inCluster : Loading [.inCluster (.ok ())] (.ok ())
  | broken {f : Fault} (h : isNoConfiguration f = false) :
    Loading [.inCluster (.error f)] (.error f)
  | ofUser {f : Fault} (h : isNoConfiguration f = true) (outcome : Except Fault Unit) :
    Loading [.inCluster (.error f), .ofUser outcome] outcome

/-- What is done for a call once a configuration is loaded: a client is made, and the call is made
at the client. -/
inductive Connecting (call : ApiCall) : List Attempt → Prop where
  | failed (f : Fault) : Connecting call [.connect call.group (.error f)]
  | made (r : Except Fault call.Reply) :
    Connecting call [.connect call.group (.ok ()), .call call r]

/-- A step that is put on record, and leaves alone what the connection has. -/
structure Noted (c c' : Connection (σ × List Attempt)) (added : List Attempt) : Prop where
  record : c'.record = c.record ++ added
  loaded : c'.loaded = c.loaded
  clients : c'.clients = c.clients

/-- A step that is put on record, and adds to what the connection has what succeeded. -/
structure Recorded (c c' : Connection (σ × List Attempt)) (added : List Attempt) : Prop where
  record : c'.record = c.record ++ added
  loaded : c'.loaded = true ↔ c.loaded = true ∨ ∃ a ∈ added, a.Loads
  clients : ∀ g, g ∈ c'.clients ↔ g ∈ c.clients ∨ .connect g (.ok ()) ∈ added

/-- What is done to have a configuration: nothing if there is one. -/
inductive Configuring (c : Connection (σ × List Attempt)) :
    List Attempt → Except Fault Unit → Prop where
  | loaded (h : c.loaded = true) : Configuring c [] (.ok ())
  | unloaded (h : c.loaded = false) {tried : List Attempt} {outcome : Except Fault Unit}
    (loading : Loading tried outcome) : Configuring c tried outcome

/-- How a call goes. -/
inductive Course (call : ApiCall) (c c' : Connection (σ × List Attempt))
    (result : Except Fault call.Reply) : Prop where
  /-- There is a client. -/
  | reused (client : call.group ∈ c.clients) (recorded : Recorded c c' [.call call result])
  /-- There is no configuration. -/
  | unconfigured (client : call.group ∉ c.clients) {tried : List Attempt} {f : Fault}
    (configuring : Configuring c tried (.error f)) (noted : Noted c c' tried)
    (failed : result = .error f)
  /-- There is no client yet. -/
  | connected (client : call.group ∉ c.clients) {tried rest : List Attempt}
    (configuring : Configuring c tried (.ok ())) (connecting : Connecting call rest)
    (recorded : Recorded c c' (tried ++ rest))

section Course

variable {c c' c'' : Connection (σ × List Attempt)} {added added' tried rest : List Attempt}
  {outcome : Except Fault Unit} {call : ApiCall} {g : Group} {a : Attempt}

/-- Two steps that are noted are noted as one, with what both add. -/
theorem Noted.trans (h : Noted c c' added) (h' : Noted c' c'' added') :
    Noted c c'' (added ++ added') where
  record := by rw [h'.record, h.record, List.append_assoc]
  loaded := h'.loaded.trans h.loaded
  clients := h'.clients.trans h.clients

/-- Two steps on record are on record as one, with what both add. -/
theorem Recorded.trans (h : Recorded c c' added) (h' : Recorded c' c'' added') :
    Recorded c c'' (added ++ added') where
  record := by rw [h'.record, h.record, List.append_assoc]
  loaded := by
    rw [h'.loaded, h.loaded, or_assoc]
    simp only [List.mem_append, or_and_right, exists_or]
  clients g := by rw [h'.clients, h.clients, List.mem_append, or_assoc]

/-- The configuration is looked for with success exactly if it is loaded in the end. -/
theorem Loading.exists_loads_iff (h : Loading tried outcome) :
    (∃ a ∈ tried, a.Loads) ↔ outcome = .ok () := by
  cases h with
  | inCluster => simp [Loads]
  | broken => simp [Loads]
  | ofUser _ outcome => rcases outcome with f | u <;> simp [Loads]

/-- Loading a configuration does nothing but look for one. -/
theorem Loading.isLoading (h : Loading tried outcome) : ∀ a ∈ tried, a.IsLoading := by
  cases h <;> simp [IsLoading]

/-- No place is looked at for a configuration after one is found. -/
theorem Loading.pairwise_before (h : Loading tried outcome) : tried.Pairwise Before := by
  cases h <;> simp [Before, Loads]

/-- The call comes after its client is made. -/
theorem Connecting.pairwise_before (h : Connecting call rest) : rest.Pairwise Before := by
  cases h <;> simp [before_call]

/-- Once there is a configuration none is looked for. -/
theorem Connecting.not_isLoading (h : Connecting call rest) : ∀ a ∈ rest, ¬a.IsLoading := by
  cases h <;> simp [IsLoading]

/-- The client that is made is that of the call's group. -/
theorem Connecting.group_eq (h : Connecting call rest) {r : Except Fault Unit}
    (hg : .connect g r ∈ rest) : g = call.group := by
  cases h <;> simp_all

/-- A step at the interface is put on record with its outcome. -/
theorem noted_perform (step : ApiStep) (attempt : Except Fault α → Attempt)
    (p : Moment → σ → Except Fault α × Moment × σ) (m : Moment)
    (c : Connection (σ × List Attempt)) :
    Noted c (perform step (kept attempt p) m c).2.2
      [attempt (perform step (kept attempt p) m c).1] :=
  ⟨rfl, rfl, rfl⟩

/-- A step that finds no configuration and makes no client adds nothing to what the connection
has. -/
theorem Noted.recorded (h : Noted c c' added) (hloads : ¬∃ a ∈ added, a.Loads)
    (hconnect : ∀ g, .connect g (.ok ()) ∉ added) : Recorded c c' added where
  record := h.record
  loaded := by rw [h.loaded, or_iff_left hloads]
  clients g := by rw [h.clients, or_iff_left (hconnect g)]

/-- No client is made before a configuration is loaded. -/
theorem Loading.connect_notMem (h : Loading tried outcome) (g : Group) (r : Except Fault Unit) :
    .connect g r ∉ tried :=
  fun hg ↦ h.isLoading _ hg

/-- Loading a configuration does one of the things described, with all it does put on record. -/
theorem exists_loading (api : Api σ) (m : Moment) (c : Connection (σ × List Attempt)) :
    let run := configure api.recorded m c
    ∃ tried, Loading tried run.1 ∧ Noted c run.2.2 tried := by
  have hnoted : Noted c (perform .inCluster api.recorded.inCluster m c).2.2
      [.inCluster (perform .inCluster api.recorded.inCluster m c).1] :=
    noted_perform .inCluster .inCluster api.inCluster m c
  unfold configure
  generalize perform .inCluster api.recorded.inCluster m c = first at hnoted ⊢
  obtain ⟨f | u, m', c'⟩ := first
  · dsimp only
    rcases hf : isNoConfiguration f with - | -
    · exact ⟨_, .broken hf, hnoted⟩
    · exact ⟨_, .ofUser hf _, hnoted.trans (noted_perform .ofUser .ofUser api.ofUser m' c')⟩
  · exact ⟨_, .inCluster, hnoted⟩

/-- A configuration is there in the end, or what the connection has is as before. -/
theorem exists_configuring (api : Api σ) (m : Moment) (c : Connection (σ × List Attempt)) :
    let run := ensureLoaded api.recorded m c
    ∃ tried, Configuring c tried run.1 ∧
      (run.1 = .ok () ∧ Recorded c run.2.2 tried ∨
        ∃ f, run.1 = .error f ∧ Noted c run.2.2 tried) := by
  unfold ensureLoaded
  split
  · next hloaded => exact ⟨[], .loaded hloaded, .inl ⟨rfl, by simp, by simp, by simp⟩⟩
  · next hloaded =>
    rw [Bool.not_eq_true] at hloaded
    obtain ⟨tried, hloading, hnoted⟩ := exists_loading api m c
    unfold andThen
    generalize configure api.recorded m c = configured at hloading hnoted ⊢
    obtain ⟨f | u, m', c'⟩ := configured
    · exact ⟨tried, .unloaded hloaded hloading, .inr ⟨f, rfl, hnoted⟩⟩
    · refine ⟨tried, .unloaded hloaded hloading, .inl ⟨rfl, hnoted.record, ?_, fun g ↦ ?_⟩⟩
      · simp [hloading.exists_loads_iff.mpr rfl]
      · rw [or_iff_left (hloading.connect_notMem g _)]
        exact hnoted.clients ▸ Iff.rfl

/-- What is done to have the client of a group that has none. -/
theorem exists_readying (api : Api σ) (m : Moment) (hclient : g ∉ c.clients) :
    let run := ensureClient api.recorded g m c
    ∃ tried, (∃ f, run.1 = .error f ∧ Configuring c tried (.error f) ∧ Noted c run.2.2 tried) ∨
      Configuring c tried (.ok ()) ∧ Recorded c run.2.2 (tried ++ [.connect g run.1]) := by
  obtain ⟨tried, hconfiguring, hended⟩ := exists_configuring api m c
  unfold ensureClient
  rw [if_neg (by simpa using hclient)]
  unfold andThen
  generalize ensureLoaded api.recorded m c = loaded at hconfiguring hended ⊢
  obtain ⟨f | u, m', c'⟩ := loaded
  · obtain ⟨h, -⟩ | ⟨f', h, hnoted⟩ := hended
    · cases h
    · cases h
      exact ⟨tried, .inl ⟨f, rfl, hconfiguring, hnoted⟩⟩
  · obtain ⟨-, hrecorded⟩ | ⟨f', h, -⟩ := hended
    · refine ⟨tried, .inr ⟨hconfiguring, hrecorded.trans ?_⟩⟩
      have hconnect : Noted c' (perform (.connect g) (api.recorded.connect g) m' c').2.2
          [.connect g (perform (.connect g) (api.recorded.connect g) m' c').1] :=
        noted_perform (.connect g) (.connect g) (api.connect g) m' c'
      dsimp only
      generalize perform (.connect g) (api.recorded.connect g) m' c' = connected at hconnect ⊢
      obtain ⟨f | u, m'', c''⟩ := connected
      · exact hconnect.recorded (by simp [Loads]) (by simp)
      · refine ⟨hconnect.record, ?_, fun g' ↦ ?_⟩
        · have hloaded : c''.loaded = c'.loaded := hconnect.loaded
          simp [hloaded, Loads]
        · have hclients : c''.clients = c'.clients := hconnect.clients
          simp [hclients]
    · cases h

/-- Every call goes one of the ways that are foreseen. -/
theorem course_call (api : Api σ) (call : ApiCall) (m : Moment)
    (c : Connection (σ × List Attempt)) :
    let run := Connection.call api.recorded call m c
    Course call c run.2.2 run.1 := by
  have hcall (m : Moment) (c : Connection (σ × List Attempt)) :=
    (noted_perform (.call call) (.call call) (api.call call) m c).recorded (by simp [Loads])
      (by simp)
  unfold Connection.call andThen
  by_cases hclient : call.group ∈ c.clients
  · have hthere : ensureClient api.recorded call.group m c = (.ok (), m, c) := by
      unfold ensureClient
      rw [if_pos (by simpa using hclient)]
    rw [hthere]
    exact .reused hclient (hcall m c)
  · obtain ⟨tried, h⟩ := exists_readying api m hclient
    generalize ensureClient api.recorded call.group m c = ready at h ⊢
    obtain ⟨f | u, m', c'⟩ := ready
    · obtain ⟨f', h, hconfiguring, hnoted⟩ | ⟨hconfiguring, hrecorded⟩ := h
      · cases h
        exact .unconfigured hclient hconfiguring hnoted rfl
      · exact .connected hclient hconfiguring (.failed f) hrecorded
    · obtain ⟨f', h, -⟩ | ⟨hconfiguring, hrecorded⟩ := h
      · cases h
      · have h := hrecorded.trans (hcall m' c')
        rw [List.append_assoc] at h
        exact .connected hclient hconfiguring (.made _) h

/-! ### What a connection has -/

/-- A connection has a configuration and clients as the record tells, and the record keeps to the
order of attempts. -/
structure Faithful (c : Connection (σ × List Attempt)) : Prop where
  loaded : c.loaded = true ↔ ∃ a ∈ c.record, a.Loads
  clients : ∀ g, g ∈ c.clients ↔ .connect g (.ok ()) ∈ c.record
  configured : ∀ g ∈ c.clients, c.loaded = true
  ordered : c.record.Pairwise Before

/-- A step whose attempts may come after those of a faithful connection. -/
structure Extends (c c' : Connection (σ × List Attempt)) (added : List Attempt) : Prop where
  recorded : Recorded c c' added
  unloaded : c.loaded = true → ∀ b ∈ added, ¬b.IsLoading
  unconnected : ∀ g r, .connect g r ∈ added → g ∉ c.clients
  configured : ∀ g, .connect g (.ok ()) ∈ added → c'.loaded = true
  ordered : added.Pairwise Before

/-- A step that extends what was done leaves the connection faithful to its record. -/
theorem Faithful.of_extends (h : Faithful c) (hstep : Extends c c' added) : Faithful c' where
  loaded := by
    rw [hstep.recorded.loaded, h.loaded, hstep.recorded.record]
    simp only [List.mem_append, or_and_right, exists_or]
  clients g := by
    rw [hstep.recorded.clients, h.clients, hstep.recorded.record, List.mem_append]
  configured g hg := by
    obtain hg | hg := (hstep.recorded.clients g).mp hg
    · exact hstep.recorded.loaded.mpr (.inl (h.configured g hg))
    · exact hstep.configured g hg
  ordered := by
    rw [hstep.recorded.record, List.pairwise_append]
    refine ⟨h.ordered, hstep.ordered, fun a ha b hb ↦ ⟨fun hloads ↦ ?_, fun g r hconnect ↦ ?_⟩⟩
    · exact hstep.unloaded (h.loaded.mpr ⟨a, ha, hloads⟩) b hb
    · rintro rfl
      exact hstep.unconnected g r hb ((h.clients g).mpr (hconnect ▸ ha))

/-- Nothing is looked for when a configuration is there. -/
theorem Configuring.eq_nil (h : Configuring c tried outcome) (hloaded : c.loaded = true) :
    tried = [] := by
  cases h with
  | loaded => rfl
  | unloaded h => exact absurd hloaded (by rw [h]; decide)

/-- Making sure of a configuration makes no client. -/
theorem Configuring.connect_notMem (h : Configuring c tried outcome) (g : Group)
    (r : Except Fault Unit) : .connect g r ∉ tried := by
  cases h with
  | loaded => exact List.not_mem_nil
  | unloaded _ loading => exact loading.connect_notMem g r

/-- What is done to have a configuration keeps to the order of attempts. -/
theorem Configuring.pairwise_before (h : Configuring c tried outcome) : tried.Pairwise Before := by
  cases h with
  | loaded => exact .nil
  | unloaded _ loading => exact loading.pairwise_before

/-- Whichever way a call goes, its attempts may come after those before. -/
theorem Course.exists_extends {result : Except Fault call.Reply}
    (h : Course call c c' result) : ∃ added, Extends c c' added := by
  cases h with
  | reused client recorded =>
    exact ⟨_, recorded, by simp [IsLoading], by simp, by simp, by simp⟩
  | @unconfigured client tried f configuring noted =>
    have hloads : ¬∃ a ∈ tried, a.Loads := by
      cases configuring with
      | unloaded _ loading =>
        rw [loading.exists_loads_iff]
        exact fun h ↦ nomatch h
    refine ⟨tried, noted.recorded hloads fun g ↦ configuring.connect_notMem g _, ?_,
      fun g r hg ↦ absurd hg (configuring.connect_notMem g r),
      fun g hg ↦ absurd hg (configuring.connect_notMem g _), configuring.pairwise_before⟩
    intro hloaded
    rw [configuring.eq_nil hloaded]
    exact List.forall_mem_nil _
  | @connected client tried rest configuring connecting recorded =>
    have hgroup {g : Group} {r : Except Fault Unit} (hg : .connect g r ∈ tried ++ rest) :
        g = call.group :=
      connecting.group_eq ((List.mem_append.mp hg).resolve_left (configuring.connect_notMem g r))
    refine ⟨tried ++ rest, recorded, ?_, fun g r hg ↦ hgroup hg ▸ client, fun g _ ↦ ?_, ?_⟩
    · intro hloaded
      rw [configuring.eq_nil hloaded]
      exact connecting.not_isLoading
    · rw [recorded.loaded]
      cases configuring with
      | loaded h => exact .inl h
      | unloaded _ loading =>
        obtain ⟨a, ha, hloads⟩ := loading.exists_loads_iff.mpr rfl
        exact .inr ⟨a, List.mem_append_left rest ha, hloads⟩
    · rw [List.pairwise_append]
      refine ⟨configuring.pairwise_before, connecting.pairwise_before, fun a ha b hb ↦ ?_⟩
      refine ⟨fun _ ↦ connecting.not_isLoading b hb, fun g r hg ↦ ?_⟩
      exact absurd (hg ▸ ha) (configuring.connect_notMem g _)

end Course

/-- A connection of which nothing was asked yet. -/
def fresh (state : σ) : Connection σ where
  state

/-- A connection of which nothing was asked is faithful: its record is empty. -/
theorem faithful_fresh (s : σ) : Faithful (fresh (s, [])) where
  loaded := by simp [fresh, record]
  clients := by simp [fresh, record]
  configured := by simp [fresh]
  ordered := .nil

/-- Every operation leaves a faithful connection. -/
theorem Faithful.run {c : Connection (σ × List Attempt)} (h : Faithful c) (api : Api σ) (m : Moment)
    (o : Operation) : Faithful (o.run api.recorded m c).2.2 := by
  rcases ho : o.call with f | call
  · rwa [Operation.run_of_call_error ho]
  · obtain ⟨settle, hrun, -⟩ := Operation.exists_run_eq ho
    obtain ⟨added, hextends⟩ := (course_call api call m c).exists_extends
    rw [hrun]
    exact h.of_extends hextends

/-- A connection stays faithful to its record whatever operations follow, by induction on them. -/
theorem Faithful.after {c : Connection (σ × List Attempt)} (h : Faithful c) (api : Api σ)
    (ops : List (Moment × Operation)) : Faithful (after api.recorded ops c) := by
  induction ops generalizing c with
  | nil => exact h
  | cons o ops ih => exact ih (h.run api o.1 o.2)

/-- Whatever was asked of a connection, and however the loaders and everything else at the interface
answered, no configuration was looked for once one was found, and no client was made for a group
that had one. The next operation that needs a group looks for a configuration as long as none was
found, and if there is none it fails and leaves what the connection has as it is. With a
configuration it makes the client of its group if there is none, and calls it. A lookup takes every
failure that says so for the absence of its object, even one of a loader: then it does not fail,
though there is no configuration, but finds nothing. -/
theorem run_after (api : Api σ) (s : σ) (ops : List (Moment × Operation)) :
    let c := after api.recorded ops (fresh (s, []))
    after api ops (fresh s) = c.forget ∧ c.record.Pairwise Before ∧
    ∀ m (o : Operation), let run := o.run api.recorded m c
      o.run api m c.forget = (run.1, run.2.1, run.2.2.forget) ∧
      (∀ f, o.call = .error f → run = (.error f, m, c)) ∧
      ∀ call, o.call = .ok call → ∃ added, run.2.2.record = c.record ++ added ∧
        ((¬∃ a ∈ c.record, a.Loads) → ∃ tried outcome rest, added = tried ++ rest ∧
          Loading tried outcome ∧ (outcome = .ok () → Connecting call rest) ∧
          ∀ f, outcome = .error f → rest = [] ∧ run.2.2.loaded = c.loaded ∧
            run.2.2.clients = c.clients ∧ o.EndsIn f run.1) ∧
        ((∃ a ∈ c.record, a.Loads) → .connect call.group (.ok ()) ∉ c.record →
          Connecting call added) ∧
        (.connect call.group (.ok ()) ∈ c.record → ∃ r, added = [.call call r]) := by
  intro c
  have hc : Faithful c := (faithful_fresh s).after api ops
  refine ⟨after_forget api ops (fresh (s, [])), hc.ordered, fun m o ↦ ?_⟩
  refine ⟨forgets_run api o m c, fun f h ↦ Operation.run_of_call_error h m c, fun call ho ↦ ?_⟩
  obtain ⟨settle, hrun, hends⟩ := Operation.exists_run_eq ho
  rw [hrun, ← hc.clients, ← hc.loaded]
  cases course_call api call m c with
  | reused client recorded =>
    have hloaded : c.loaded = true := hc.configured _ client
    exact ⟨_, recorded.record, fun h ↦ absurd hloaded h, fun _ h ↦ absurd client h,
      fun _ ↦ ⟨_, rfl⟩⟩
  | unconfigured client configuring noted failed =>
    cases configuring with
    | unloaded hloaded loading =>
      refine ⟨_, noted.record, fun _ ↦ ⟨_, _, [], (List.append_nil _).symm, loading,
        (nomatch ·), ?_⟩, fun h ↦ ?_, fun h ↦ absurd h client⟩
      · rintro f ⟨rfl⟩
        refine ⟨rfl, noted.loaded, noted.clients, ?_⟩
        dsimp only
        rw [failed]
        exact hends _
      · rw [hloaded] at h
        cases h
  | connected client configuring connecting recorded =>
    cases configuring with
    | loaded hloaded =>
      exact ⟨_, recorded.record, fun h ↦ absurd hloaded h, fun _ _ ↦ connecting,
        fun h ↦ absurd h client⟩
    | unloaded hloaded loading =>
      refine ⟨_, recorded.record, fun _ ↦ ⟨_, _, _, rfl, loading, fun _ ↦ connecting,
        fun _ ↦ (nomatch ·)⟩, fun h ↦ ?_, fun h ↦ absurd h client⟩
      rw [hloaded] at h
      cases h

namespace SecondTry

/-- There is no configuration at a place. -/
def missing : Fault :=
  .external ⟨"ConfigException", "no configuration", .noConfiguration⟩

/-- An interface outside of a cluster, of a user whose configuration is there when it is looked for
again. -/
def outside : Api Bool :=
  { Api.vacant with
    inCluster := fun m s ↦ (.error missing, m, s)
    ofUser := fun m s ↦ (if s then .ok () else .error missing, m, true) }

def start : Moment :=
  ⟨.zero, false⟩

def events : Operation :=
  .events (.str "n") (.str "p") .null (.int 5) .null

/-- The connection that is left of the first try. -/
def afterFirst : Connection (Bool × List Attempt) :=
  after outside.recorded [(start, events)] (fresh (false, []))

/-- The first try finds no configuration. -/
theorem not_loads_afterFirst : ¬∃ a ∈ afterFirst.record, a.Loads := by
  have hrecord : afterFirst.record = [.inCluster (.error missing), .ofUser (.error missing)] := rfl
  simp [hrecord, Loads]

/-- The first try fails and is forgotten, and at the second one everything is there. -/
theorem run_after_secondTry :
    (events.Fails (events.run outside.recorded start (fresh (false, []))).1 ∧
      afterFirst.loaded = false ∧ afterFirst.clients = []) ∧
    ∃ tried rest, (events.run outside.recorded start afterFirst).2.2.record =
        afterFirst.record ++ (tried ++ rest) ∧
      Loading tried (.ok ()) ∧ ∀ call, events.call = .ok call → Connecting call rest := by
  have hfirst := run_after outside false []
  have hsecond := run_after outside false [(start, events)]
  constructor
  · obtain ⟨added, hrecord, hnone, -⟩ := (hfirst.2.2 start events).2.2 _ rfl
    obtain ⟨tried, outcome, rest, rfl, hloading, -, hfailed⟩ :=
      hnone (by simp [after, fresh, record])
    rcases outcome with f | u
    · obtain ⟨-, hloaded, hclients, hfails, -⟩ := hfailed f rfl
      exact ⟨hfails fun h ↦ h.elim, hloaded, hclients⟩
    · obtain ⟨a, ha, hloads⟩ := hloading.exists_loads_iff.mpr rfl
      have hmem : a ∈ afterFirst.record := hrecord ▸ List.mem_append_left rest ha
      exact absurd ⟨a, hmem, hloads⟩ not_loads_afterFirst
  · obtain ⟨added, hrecord, hnone, -⟩ := (hsecond.2.2 start events).2.2 _ rfl
    obtain ⟨tried, outcome, rest, rfl, hloading, hconnecting, hfailed⟩ := hnone not_loads_afterFirst
    rcases outcome with f | u
    · obtain ⟨-, hloaded, -⟩ := hfailed f rfl
      cases hloaded
    · refine ⟨tried, rest, hrecord, hloading, ?_⟩
      rintro call ⟨rfl⟩
      exact hconnecting rfl

end SecondTry

namespace Unrefreshed

open SecondTry

/-- A service that refreshes credentials answers that there is none of this name. -/
def notFound : Fault :=
  .external
    ⟨"ApiException", "(404) Reason: Not Found", .cluster (.int 404) (.str "Not Found") .null⟩

/-- An interface of a user whose configuration cannot be loaded, for its credentials cannot be
refreshed. -/
def unrefreshed : Api Unit :=
  { Api.vacant with ofUser := fun m s ↦ (.error notFound, m, s) }

def pod : Operation :=
  .get (.str "Pod") (.str "n") (.str "p") .null

/-- The load fails, and every operation but the lookup tells so. -/
theorem findsNothing_unrefreshed :
    let run := pod.run unrefreshed.recorded start (fresh ((), []))
    (∃ f, run.2.2.record = [.inCluster (.error f), .ofUser (.error notFound)]) ∧
      run.2.2.loaded = false ∧ run.1 = .ok none ∧ ¬pod.Fails run.1 ∧
      events.Fails (events.run unrefreshed start (fresh ())).1 := by
  refine ⟨⟨_, rfl⟩, rfl, rfl, ?_, _, rfl, Api.isAccess_accessFault _ notFound⟩
  rintro ⟨f, hf, -⟩
  cases hf

end Unrefreshed

end Connection

end ClusterDiagnosis
