import ClusterDiagnosis.Detect.Snapshot
import ClusterDiagnosis.Proofs.Scan.Running

/-!
# Looking objects up

In a cluster in which every object that is looked up is there or not, once and for all
(`Source.Holds`), a scan that does nothing but look objects up comes down to which ones it looks up,
in which order, and to its result (`Scan.LooksUp`). A run of it that does not come to the end of the
scan is over: it has then looked up a first part of them. The rules follow the way scans are put
together.
-/

set_option autoImplicit false
set_option relaxedAutoImplicit false

namespace ClusterDiagnosis

/-- The objects of a cluster, by kind, namespace and name. -/
abbrev Holdings :=
  (kind scope name : String) → Option Value

/-- An object by which another one refers to it. -/
structure Reference where
  kind : String
  scope : String
  name : String
  deriving DecidableEq, Repr

namespace Reference

/-- The access that looks an object up. -/
def query (r : Reference) : Query :=
  .get r.kind (.str r.scope) (.str r.name)

/-- Whether the object is missing. -/
def dangles (holdings : Holdings) (r : Reference) : Bool :=
  (holdings r.kind r.scope r.name).isNone

end Reference

variable {σ α β : Type}

/-- A source in which looking an object up shows what is there, whenever that is. -/
def Source.Holds (source : Source σ) (holdings : Holdings) : Prop :=
  ∀ kind scope name limit m s,
    (source.answer (.get kind (.str scope) (.str name)) limit m s).1 =
      .ok (holdings kind scope name)

/-- The source that shows the objects of a cluster and tells of nothing else. -/
def Source.holding (holdings : Holdings) : Source Unit where
  answer
    | .get kind (.str scope) (.str name), _, m, s => (.ok (holdings kind scope name), m, s)
    | .get _ _ _, _, m, s => (.ok none, m, s)
    | .list _ _ _, _, m, s => (.ok [], m, s)
    | .events _ _ _, _, m, s => (.ok [], m, s)
    | .log _ _ _ _, _, m, s => (.ok none, m, s)

/-- The source made of some holdings answers by them. -/
theorem Source.holds_holding (holdings : Holdings) : (Source.holding holdings).Holds holdings :=
  fun _ _ _ _ _ _ ↦ rfl

namespace Scan

variable {source : Source σ} {deadline : Option Deadline} {holdings : Holdings}

/-- A scan that looks up the given objects, one after the other, and has the given result. Only if
the run is over it may stop before that. -/
def LooksUp (source : Source σ) (deadline : Option Deadline) (p : Scan α) (refs : List Reference)
    (a : α) : Prop :=
  ∀ w : World σ, ∃ asked, (p.run source deadline w).2.asked = w.asked ++ asked ∧
    ((p.run source deadline w).1 = .ok a ∧ asked.map Asked.query = refs.map Reference.query ∨
      ∃ f, runOver? deadline (p.run source deadline w).2.moment = some f ∧
        (p.run source deadline w).1 = .error f ∧
          asked.map Asked.query <+: refs.map Reference.query)

namespace LooksUp

variable {p : Scan α} {f : α → Scan β} {a : α} {b : β} {refs refs' : List Reference}

theorem pure (a : α) : LooksUp source deadline (Pure.pure a) [] a :=
  fun _ ↦ ⟨[], (List.append_nil _).symm, .inl ⟨rfl, rfl⟩⟩

/-- The lookups of two steps come one after the other: the second step goes on in the world that the
first one leaves. -/
theorem bind (hp : LooksUp source deadline p refs a) (hf : LooksUp source deadline (f a) refs' b) :
    LooksUp source deadline (p >>= f) (refs ++ refs') b := by
  intro w
  obtain ⟨asked, hasked, ⟨hresult, hrefs⟩ | ⟨fault, hover, hresult, hrefs⟩⟩ := hp w
  · have hrun : (p >>= f).run source deadline w =
        (f a).run source deadline (p.run source deadline w).2 := by
      rw [run_bind, ← Prod.eta (p.run source deadline w), hresult]
    obtain ⟨asked', hasked', hrest⟩ := hf (p.run source deadline w).2
    rw [hrun]
    refine ⟨asked ++ asked', by rw [hasked', hasked, List.append_assoc], ?_⟩
    rw [List.map_append, List.map_append, hrefs]
    refine hrest.imp (fun ⟨hresult', hrefs'⟩ ↦ ⟨hresult', by rw [hrefs']⟩) ?_
    rintro ⟨fault, hover, hresult', hrefs'⟩
    exact ⟨fault, hover, hresult', (List.prefix_append_right_inj _).mpr hrefs'⟩
  · have hrun : (p >>= f).run source deadline w = (.error fault, (p.run source deadline w).2) := by
      rw [run_bind, ← Prod.eta (p.run source deadline w), hresult]
    rw [hrun]
    refine ⟨asked, hasked, .inr ⟨fault, hover, rfl, ?_⟩⟩
    rw [List.map_append]
    exact hrefs.trans (List.prefix_append _ _)

/-- What follows a scan may look nothing up. -/
theorem bind_nil (hp : LooksUp source deadline p refs a) (hf : LooksUp source deadline (f a) [] b) :
    LooksUp source deadline (p >>= f) refs b := by
  have h := hp.bind hf
  rwa [List.append_nil] at h

theorem map (hp : LooksUp source deadline p refs a) (g : α → β) :
    LooksUp source deadline (p >>= fun x ↦ Pure.pure (g x)) refs (g a) :=
  hp.bind_nil (pure (g a))

/-- A lookup finds what the cluster holds under the reference. -/
theorem ask (hsource : source.Holds holdings) (r : Reference) :
    LooksUp source deadline (Scan.ask r.query) [r] (holdings r.kind r.scope r.name) := by
  intro w
  cases hover : runOver? deadline w.moment with
  | some f =>
    have hrun : (Scan.ask r.query).run source deadline w = (.error f, w) := by
      rw [run_ask, hover]
    rw [hrun]
    exact ⟨[], (List.append_nil _).symm, .inr ⟨f, hover, rfl, List.nil_prefix⟩⟩
  | none =>
    have hrun : (Scan.ask r.query).run source deadline w =
        (askWithin r.query (.seconds (timeLeft deadline w.moment))).run source deadline w := by
      rw [run_ask, hover]
    rw [hrun]
    exact ⟨[⟨r.query, .seconds (timeLeft deadline w.moment), w.moment⟩], rfl,
      .inl ⟨hsource _ _ _ _ _ _, rfl⟩⟩

/-- An object is missing exactly if its reference dangles. -/
theorem isMissing (hsource : source.Holds holdings) (r : Reference) :
    LooksUp source deadline (Detect.isMissing r.kind (.str r.scope) (.str r.name)) [r]
      (r.dangles holdings) :=
  (ask hsource r).map Option.isNone

/-- A step for each of several items looks up what it looks up for one of them, for all in turn. -/
theorem collect {ι : Type} {step : ι → Scan (Option Failure)} {items : List ι}
    {refsOf : ι → List Reference} {found : ι → List Failure}
    (h : ∀ i ∈ items, ∃ x, LooksUp source deadline (step i) (refsOf i) x ∧ x.toList = found i) :
    LooksUp source deadline (Detect.collect step items) (items.flatMap refsOf)
      (items.flatMap found) := by
  induction items with
  | nil => exact pure []
  | cons i items ih =>
    obtain ⟨⟨x, hstep, hx⟩, hrest⟩ := List.forall_mem_cons.mp h
    rw [List.flatMap_cons, List.flatMap_cons, ← hx]
    exact hstep.bind ((ih hrest).map _)

end LooksUp

end Scan

end ClusterDiagnosis
