import ClusterDiagnosis.Proofs.Analyzer.Blocks
import ClusterDiagnosis.Proofs.Detect.Shape

/-!
# How a scan can fail

On a cluster that gives objects and events of the declared shapes, a built-in analyzer keeps to the
contract of clusters (`Check.meets_scan`): it asks for supported kinds only, and comes to an end in
one of three ways, with its diagnoses, by an access that failed, or with the end of the run. Nothing
is assumed about how and when the interface of the cluster fails.
-/

set_option autoImplicit false
set_option relaxedAutoImplicit false

namespace ClusterDiagnosis

open Scan Shape

/-! ### Owners -/

namespace Owner

/-- Searching well-shaped owner references for a controller does not fail. -/
theorem yields_controlling {refs : List Value} (h : ∀ v ∈ refs, ownerReference.fits v = true) :
    Yields (fun r : Option Value ↦ ∀ v ∈ r, ownerReference.fits v = true) (controlling refs) := by
  induction refs with
  | nil => exact .ok (fun v hv ↦ by cases hv)
  | cons ref refs ih =>
    obtain ⟨href, hrefs⟩ := List.forall_mem_cons.mp h
    refine (yields_field href rfl).bind fun controller _ ↦ ?_
    split
    · refine .ok fun v hv ↦ ?_
      obtain rfl := Option.some.inj hv
      exact href
    · exact ih hrefs

/-- The metadata of a well-shaped object yields its controlling reference, if there is one. -/
theorem yields_reference {metadata : Value} (h : Shape.metadata.fits metadata = true) :
    Yields (fun r : Option Value ↦ ∀ v ∈ r, ownerReference.fits v = true)
      (reference metadata) := by
  refine (yields_each h rfl).bind fun refs hrefs ↦ ?_
  refine (yields_controlling hrefs).bind fun own hown ↦ .ok fun v hv ↦ ?_
  rcases Option.or_eq_some_iff.mp hv with hv | ⟨-, hv⟩
  · exact hown v hv
  · exact hrefs v (List.mem_of_mem_head? hv)

/-- A well-shaped reference within a namespace names an object to read. -/
theorem yields_ofReference {scope ref : Value} (hscope : text.fits scope = true)
    (h : ownerReference.fits ref = true) : Yields (fun _ ↦ True) (ofReference scope ref) := by
  refine (yields_label h rfl).bind fun kind hkind ↦ (yields_label h rfl).bind fun name hname ↦ ?_
  obtain ⟨k, rfl⟩ := fits_text_iff.mp hkind
  obtain ⟨n, rfl⟩ := fits_text_iff.mp hname
  obtain ⟨s, rfl⟩ := fits_text_iff.mp hscope
  refine .ok_bind ?_
  refine .ok_bind ?_
  split
  · exact .ok_bind (.ok trivial)
  · exact .ok trivial

/-- From an owner that was read, the walk finds the next reference without failing. -/
theorem yields_above {owner : Value} {kind : String} (h : (Shape.object kind).fits owner = true) :
    Yields (fun r : Option Value ↦ ∀ v ∈ r, ownerReference.fits v = true) (above owner) :=
  (yields_section h rfl).bind fun _ hmetadata ↦ yields_reference hmetadata

/-- The walk up the owners fails only as the cluster does, however many steps it is allowed. -/
theorem meets_walk {scope : Value} (hscope : text.fits scope = true) (limit : Value)
    (steps : Nat) (here : ObjectRef) :
    (walk scope limit steps here).Meets .cluster fun _ ↦ True := by
  induction steps generalizing here with
  | zero => exact .pure trivial
  | succ steps ih =>
    unfold walk
    split
    · next hkind =>
      refine ⟨hkind, fun r hr ↦ ?_⟩
      dsimp only
      split
      · exact .pure trivial
      · exact .inl hr
      · exact .pure trivial
      · next owner =>
        split
        · refine .lifting (yields_above (hr owner rfl)) fun ref href ↦ ?_
          split
          · exact .pure trivial
          · next ref =>
            exact .lifting (yields_ofReference hscope (href ref rfl)) fun next _ ↦ ih next
        · exact .pure trivial
    · exact .pure trivial

/-- The search for an object's outermost owner fails only as the cluster does. -/
theorem meets_search {object : Value} {kind : String}
    (h : (Shape.object kind).fits object = true) : (search object).Meets .cluster fun _ ↦ True := by
  refine .bind .time fun limit _ ↦ .lifting (yields_section h rfl) fun md hmd ↦ ?_
  refine .lifting (yields_label hmd rfl) fun scope hscope ↦ ?_
  refine .lifting (yields_reference hmd) fun ref href ↦ ?_
  split
  · exact .pure trivial
  · next ref =>
    refine .lifting (yields_ofReference hscope (href ref rfl)) fun first _ ↦ ?_
    exact .bind (meets_walk hscope limit _ first) fun _ _ ↦ .pure trivial

end Owner

namespace Check

variable {c : Check} {object : Value}

/-! ### Findings -/

/-- Every well-shaped object has a text as its key. -/
theorem yields_objectKey {kind : String} (h : (Shape.object kind).fits object = true) :
    Yields (fun key ↦ text.fits key = true) object.objectKey := by
  refine (yields_section h rfl).bind fun md hmd ↦ ?_
  refine (yields_label hmd rfl).bind fun name hname ↦ ?_
  refine (yields_label hmd rfl).bind fun scope _ ↦ ?_
  split
  · exact .ok rfl
  · exact .ok hname

theorem yields_keyOf {kind : String} (h : (Shape.object kind).fits object = true) :
    Yields (fun key ↦ text.fits key = true) (keyOf object) := by
  refine (yields_objectKey h).bind fun key hkey ↦ ?_
  obtain ⟨k, rfl⟩ := fits_text_iff.mp hkey
  exact .ok rfl

/-- Counting a well-shaped object's failures raises no fault of its own. -/
theorem meets_recordFailures (c : Check) {kind : String}
    (h : (Shape.object kind).fits object = true) (count : Nat) :
    (c.recordFailures object count).Meets .cluster fun _ ↦ True := by
  refine .lifting (yields_section h rfl) fun md hmd ↦ ?_
  refine .lifting (yields_label hmd rfl) fun name _ ↦ ?_
  exact .lifting (yields_label hmd rfl) fun scope _ ↦ .record _

/-- A finding under a text, about an object of the declared shape. -/
def Sound (c : Check) (f : Finding) : Prop :=
  text.fits f.key = true ∧ (Shape.object c.listed).fits f.object = true

/-- Entering a sound finding among sound findings leaves all of them sound. -/
theorem sound_put {f : Finding} {found : List Finding} (hf : c.Sound f)
    (hfound : ∀ g ∈ found, c.Sound g) : ∀ g ∈ f.put found, c.Sound g := by
  induction found with
  | nil => exact List.forall_mem_singleton.mpr hf
  | cons g found ih =>
    obtain ⟨hg, hrest⟩ := List.forall_mem_cons.mp hfound
    unfold Finding.put
    split
    · exact List.forall_mem_cons.mpr ⟨⟨hg.1, hf.2⟩, hrest⟩
    · exact List.forall_mem_cons.mpr ⟨hg, ih hrest⟩

/-- A check's look at a well-shaped object fails only as the cluster does and keeps the findings
sound. -/
theorem meets_look (hc : c ∈ builtin) {found : List Finding} (hfound : ∀ g ∈ found, c.Sound g)
    (h : (Shape.object c.listed).fits object = true) :
    (c.look found object).Meets .cluster fun found ↦ ∀ g ∈ found, c.Sound g := by
  refine .bind .check fun _ _ ↦ .bind (meets_detect hc h) fun failures _ ↦ ?_
  split
  · exact .pure hfound
  · refine .lifting (yields_keyOf h) fun key hkey ↦ ?_
    refine .bind (meets_recordFailures c h _) fun _ _ ↦ .pure ?_
    exact sound_put ⟨hkey, h⟩ hfound

/-- The same of all objects of a list, by induction on the list. -/
theorem meets_lookAll (hc : c ∈ builtin) {found : List Finding}
    (hfound : ∀ g ∈ found, c.Sound g) {objects : List Value}
    (h : ∀ v ∈ objects, (Shape.object c.listed).fits v = true) :
    (c.lookAll found objects).Meets .cluster fun found ↦ ∀ g ∈ found, c.Sound g := by
  induction objects generalizing found with
  | nil => exact .pure hfound
  | cons object objects ih =>
    obtain ⟨hobject, hobjects⟩ := List.forall_mem_cons.mp h
    exact .bind (meets_look hc hfound hobject) fun found hfound ↦ ih hfound hobjects

/-! ### Diagnoses -/

/-- Diagnosing a sound finding fails only as the cluster does. -/
theorem meets_diagnose {f : Finding} (hf : c.Sound f) :
    (c.diagnose f).Meets .cluster fun _ ↦ True := by
  rw [diagnose_eq]
  obtain ⟨k, hk⟩ := fits_text_iff.mp hf.1
  have hname : Yields (fun _ ↦ True) f.key.toText := ⟨k, by rw [hk]; rfl, trivial⟩
  have howner : (c.ownerOf f.object).Meets .cluster fun _ ↦ True := by
    unfold ownerOf
    split
    · exact Owner.meets_search hf.2
    · exact .pure trivial
  exact .lifting hname fun name _ ↦ .bind howner fun owner _ ↦ .pure trivial

theorem meets_diagnoseAll {fs : List Finding} (h : ∀ f ∈ fs, c.Sound f) :
    (c.diagnoseAll fs).Meets .cluster fun _ ↦ True := by
  induction fs with
  | nil => exact .pure trivial
  | cons f fs ih =>
    obtain ⟨hf, hfs⟩ := List.forall_mem_cons.mp h
    exact .bind (meets_diagnose hf) fun _ _ ↦ .bind (ih hfs) fun _ _ ↦ .pure trivial

/-- A scan of a well-shaped cluster fails only as the cluster does. -/
theorem meets_scan (hc : c ∈ builtin) (selection : Selection) :
    (c.scan selection).Meets .cluster fun _ ↦ True := by
  refine .bind (.record _) fun _ _ ↦ ?_
  have hlist : (c.list selection).Meets .cluster fun objects ↦
      ∀ v ∈ objects, (Shape.object c.listed).fits v = true :=
    .asking (isKind_listed hc) (fun _ h ↦ h) fun _ h ↦ .inl h
  refine .bind hlist fun objects hobjects ↦ ?_
  refine .bind (meets_lookAll hc (List.forall_mem_nil _) hobjects) fun found hfound ↦ ?_
  exact meets_diagnoseAll hfound

end Check

/-! ### Whole scans -/

/-- The faults that end a run are the cancellation and the passing of the deadline. -/
theorem endsRun_eq_true_iff {f : Fault} :
    f.endsRun = true ↔ (∃ message, f = .cancelled message) ∨ ∃ message, f = .timedOut message := by
  cases f <;> simp [Fault.endsRun]

/-- A built-in analyzer that scans a cluster of the declared shapes gives its diagnoses, or fails
because an access failed or because the run is over. It makes no access but of supported kinds, so
that no failed access is one for a kind that is not supported. -/
theorem examine_faults {σ : Type} {api : Api σ} (hapi : api.WellShaped) {c : Check}
    (hc : c ∈ Check.builtin) (selection : Selection) (deadline : Option Deadline)
    (w : World (Connection σ)) :
    let run := (c.analyzer.examine selection).run api.source deadline w
    ((∃ ds, run.1 = .ok ds) ∨
      (∃ details, run.1 = .error (.access ("Failed to " ++ details))) ∨
      (∃ message, run.1 = .error (.cancelled message)) ∨
      ∃ message, run.1 = .error (.timedOut message)) ∧
    ∃ new, run.2.asked = w.asked ++ new ∧ ∀ x ∈ new, x.query.IsSupported := by
  intro run
  obtain ⟨hresult, hasked⟩ := (Check.meets_scan hc selection).run
    (hapi.source_heldBy deadline) w
  refine ⟨?_, hasked⟩
  change Contract.cluster.Admits _ run.1 at hresult
  cases hrun : run.1 with
  | ok ds => exact .inl ⟨ds, rfl⟩
  | error f =>
    rw [hrun] at hresult
    rcases hresult with ⟨details, rfl⟩ | hends
    · exact .inr (.inl ⟨details, rfl⟩)
    · rcases endsRun_eq_true_iff.mp hends with ⟨message, rfl⟩ | ⟨message, rfl⟩
      · exact .inr (.inr (.inl ⟨message, rfl⟩))
      · exact .inr (.inr (.inr ⟨message, rfl⟩))

namespace TwoPods

/-- The interface of the cluster with the two pods. Nothing can be read but what is listed. -/
def interface : Api Unit :=
  { Api.vacant with
    call := fun c m s ↦
      match c with
      | .list r _ _ _ =>
        (.ok (if r.kind = "Pod" then some [calm, stuck] else none),
          { m with now := m.now.add (.ofNat 1) }, s)
      | c => Api.vacant.call c m s }

/-- The interface of the example below answers with well-shaped objects. -/
theorem wellShaped_interface : interface.WellShaped where
  list r scope selector limit m s items h := by
    have hitems : (if r.kind = "Pod" then some [calm, stuck] else none) = some items :=
      Except.ok.inj h
    split at hitems
    · next hkind =>
      obtain rfl := Option.some.inj hitems
      rw [hkind]
      decide
    · cases hitems
  read r scope name limit m s v h := by cases h
  events scope fields limit m s events h := by cases h

theorem examine_faults_twoPods :
    interface.WellShaped ∧ Check.pod ∈ Check.builtin ∧
      let run := (Check.pod.analyzer.examine {}).run interface.source none
        ⟨⟨.zero, false⟩, { state := () }, [], none⟩
      ((∃ ds, run.1 = .ok ds) ∨
        (∃ details, run.1 = .error (.access ("Failed to " ++ details))) ∨
        (∃ message, run.1 = .error (.cancelled message)) ∨
        ∃ message, run.1 = .error (.timedOut message)) ∧
      ∃ new, run.2.asked = [] ++ new ∧ ∀ x ∈ new, x.query.IsSupported := by
  have hpod : Check.pod ∈ Check.builtin := List.mem_cons_self
  exact ⟨wellShaped_interface, hpod, examine_faults wellShaped_interface hpod {} none _⟩

end TwoPods

end ClusterDiagnosis
