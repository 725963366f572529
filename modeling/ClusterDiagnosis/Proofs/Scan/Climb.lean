import ClusterDiagnosis.Proofs.Scan.Running
import ClusterDiagnosis.Proofs.Value.Declared
import ClusterDiagnosis.Scan.Owner

/-!
# Climbing to the topmost owner

The search for the topmost owner of an object starts at the owner that the object names and reads
one owner after the other, of whatever cluster, with cycles or without end: each one that is read
and names a further owner is a step upward (`Climbs`). With as many reads as allowed the climb is
over; otherwise it ends at an owner that cannot be read or names no further one (`Halts`), or with
the fault of a read that is no failed access (`Raises`). The search comes to the owner where it is
over then (`find_climbs`), and so to the topmost one if the allowed reads lead there.
-/

set_option autoImplicit false
set_option relaxedAutoImplicit false

namespace ClusterDiagnosis.Owner

open Scan Shape

/-! ### What objects say about their owners -/

def ownerEntry : Shape :=
  .record [("kind", text), ("name", text)]

def ownerMetadata : Shape :=
  .record [("namespace", text), ("owner_references", list ownerEntry)]

/-- An object that may name owners. -/
def owned : Shape :=
  .record [("metadata", ownerMetadata)]

/-- The owners that an object names. -/
def references (object : Value) : List Value :=
  (object.partAt "metadata").itemsAt "owner_references"

/-- The namespace of an object, empty if it has none. -/
def scopeOf (object : Value) : String :=
  (object.partAt "metadata").textAt "namespace"

/-- The reference to follow: the first whose controller flag counts, else the first of all. -/
def followed? (refs : List Value) : Option Value :=
  (refs.find? (·.countsAt "controller")).or refs.head?

/-- The owner that a reference names, in the namespace of the object. -/
def named (scope : String) (ref : Value) : ObjectRef where
  kind := ref.textAt "kind"
  name := ref.textAt "name"
  scope := if scope = "" then none else some scope

/-- There is an owner to follow unless there are no references. -/
theorem followed?_eq_none_iff {refs : List Value} : followed? refs = none ↔ refs = [] := by
  cases refs with
  | nil => simp [followed?]
  | cons ref refs => simp [followed?]

/-- The controlling reference is the first one marked so. -/
theorem controlling_eq {refs : List Value} (h : ∀ ref ∈ refs, ownerEntry.fits ref = true) :
    controlling refs = .ok (refs.find? (·.countsAt "controller")) := by
  induction refs with
  | nil => rfl
  | cons ref refs ih =>
    obtain ⟨href, hrest⟩ := List.forall_mem_cons.mp h
    rw [controlling, field_eq href, ok_bind, counts_at?, ih hrest]
    cases hcounts : ref.countsAt "controller" with
    | true =>
      rw [if_pos rfl, List.find?_cons, hcounts]
      rfl
    | false =>
      rw [if_neg (by decide), List.find?_cons, hcounts]

variable {object ref : Value} {scope : String}

theorem fits_references (h : owned.fits object = true) :
    ∀ ref ∈ references object, ownerEntry.fits ref = true :=
  fits_itemsAt (fits_partAt h rfl) rfl

/-- The walk follows the controlling reference, or else the first one. -/
theorem reference_eq (h : owned.fits object = true) :
    reference (object.partAt "metadata") = .ok (followed? (references object)) := by
  have hmetadata : ownerMetadata.fits (object.partAt "metadata") = true := fits_partAt h rfl
  have heach : (object.partAt "metadata").each "owner_references" = .ok (references object) :=
    each_eq hmetadata rfl
  rw [reference, heach, ok_bind, controlling_eq (fits_references h)]
  rfl

/-- What an owner says that it is owned by. -/
theorem above_eq (h : owned.fits object = true) :
    above object = .ok (followed? (references object)) := by
  have hsection : object.section? "metadata" = .ok (object.partAt "metadata") := section_eq h rfl
  rw [above, hsection, ok_bind, reference_eq h]

theorem fits_of_followed? {next : Value} (h : owned.fits object = true)
    (hnext : followed? (references object) = some next) :
    ownerEntry.fits next = true := by
  refine fits_references h next ?_
  rcases Option.or_eq_some_iff.mp hnext with hfound | ⟨-, hhead⟩
  · exact List.mem_of_find?_eq_some hfound
  · exact List.mem_of_head? hhead

/-- A reference names an object in the namespace of the walk. -/
theorem ofReference_eq (h : ownerEntry.fits ref = true) :
    ofReference (.str scope) ref = .ok (named scope ref) := by
  have hkind : ref.label "kind" = .ok (.str (ref.textAt "kind")) := label_eq h rfl
  have hname : ref.label "name" = .ok (.str (ref.textAt "name")) := label_eq h rfl
  have hcounts : (Value.str scope).counts = !scope.isEmpty := rfl
  rw [ofReference, hkind, hname, named]
  by_cases hscope : scope = ""
  · rw [if_pos hscope, hscope]
    rfl
  · have hpresent : (!scope.isEmpty) = true := by simpa using hscope
    simp only [ok_bind, hcounts, hpresent, if_neg hscope]
    rfl

/-- An object that names owners is not empty. -/
theorem counts_of_references (h : owned.fits object = true) (hrefs : references object ≠ []) :
    object.counts = true := by
  obtain ⟨entries, rfl, -⟩ := fits_record_iff.mp h
  cases entries with
  | nil => exact absurd rfl hrefs
  | cons entry entries => rfl

/-! ### The climb -/

variable {σ : Type}

/-- How owners are read, each in the world that the reads before it left. -/
abbrev Reader (σ : Type) := ObjectRef → World σ → Except Fault (Option Value) × World σ

/-- Reads owners of a namespace within a time limit. -/
def reading (source : Source σ) (deadline : Option Deadline) (scope : String) (limit : Value) :
    Reader σ := fun ref w ↦
  (askWithin (.get ref.kind (.str scope) (.str ref.name)) limit).run source deadline w

/-- From one owner to another one above it, where each owner on the path is read and names the
next. -/
inductive Climbs (read : Reader σ) (scope : String) :
    World σ → ObjectRef → List ObjectRef → ObjectRef → World σ → Prop where
  | here (w : World σ) (ref : ObjectRef) : Climbs read scope w ref [] ref w
  | up {w w₁ w₂ : World σ} {ref top : ObjectRef} {owner next : Value} {path : List ObjectRef}
      (hkind : Resource.isKind ref.kind = true) (hread : read ref w = (.ok (some owner), w₁))
      (hnext : followed? (references owner) = some next)
      (h : Climbs read scope w₁ (named scope next) path top w₂) :
      Climbs read scope w ref (ref :: path) top w₂

/-- At this owner there is no way up, as the reads show that are made here, one at most. -/
inductive Halts (read : Reader σ) : World σ → ObjectRef → List ObjectRef → World σ → Prop where
  | unsupported {w : World σ} {ref : ObjectRef} (hkind : Resource.isKind ref.kind = false) :
      Halts read w ref [] w
  | unreadable {w w₁ : World σ} {ref : ObjectRef} {message : String}
      (hkind : Resource.isKind ref.kind = true)
      (hread : read ref w = (.error (.access message), w₁)) : Halts read w ref [ref] w₁
  | missing {w w₁ : World σ} {ref : ObjectRef} (hkind : Resource.isKind ref.kind = true)
      (hread : read ref w = (.ok none, w₁)) : Halts read w ref [ref] w₁
  | topmost {w w₁ : World σ} {ref : ObjectRef} {owner : Value}
      (hkind : Resource.isKind ref.kind = true) (hread : read ref w = (.ok (some owner), w₁))
      (hnone : references owner = []) : Halts read w ref [ref] w₁

/-- At this owner the read ends in a fault that is no failed access. -/
structure Raises (read : Reader σ) (w : World σ) (ref : ObjectRef) (f : Fault) (w₁ : World σ) :
    Prop where
  isKind : Resource.isKind ref.kind = true
  read_eq : read ref w = (.error f, w₁)
  not_access : ∀ message, f ≠ .access message

/-- How a climb comes out that starts at an owner and has a number of reads to spend: the owners
that are read, where it is over, and the world it leaves. -/
inductive Ends (read : Reader σ) (scope : String) (steps : Nat) (w : World σ) (first : ObjectRef) :
    List ObjectRef → Except Fault ObjectRef × World σ → Prop where
  | spent {path : List ObjectRef} {top : ObjectRef} {w₁ : World σ}
      (h : Climbs read scope w first path top w₁) (hspent : path.length = steps) :
      Ends read scope steps w first path (.ok top, w₁)
  | halted {path reads : List ObjectRef} {top : ObjectRef} {w₁ w₂ : World σ}
      (h : Climbs read scope w first path top w₁) (hleft : path.length < steps)
      (hhalts : Halts read w₁ top reads w₂) :
      Ends read scope steps w first (path ++ reads) (.ok top, w₂)
  | raised {path : List ObjectRef} {top : ObjectRef} {f : Fault} {w₁ w₂ : World σ}
      (h : Climbs read scope w first path top w₁) (hleft : path.length < steps)
      (hraises : Raises read w₁ top f w₂) :
      Ends read scope steps w first (path ++ [top]) (.error f, w₂)

/-- A source whose objects are of the shape of objects that name owners. -/
def GivesOwned (source : Source σ) : Prop :=
  ∀ kind scope name limit m s v,
    (source.answer (.get kind scope name) limit m s).1 = .ok (some v) → owned.fits v = true

variable {source : Source σ} {deadline : Option Deadline} {limit : Value} {w w₁ : World σ}
  {here : ObjectRef}

theorem GivesOwned.fits (hsource : GivesOwned source) {owner : Value}
    (hread : reading source deadline scope limit here w = (.ok (some owner), w₁)) :
    owned.fits owner = true :=
  hsource _ _ _ _ _ _ _ (congrArg Prod.fst hread)

/-- One step of the walk, by what the read gives. -/
theorem run_walk_succ (hsource : GivesOwned source) (steps : Nat) (w : World σ)
    (hkind : Resource.isKind here.kind = true) :
    (walk (.str scope) limit (steps + 1) here).run source deadline w =
      match reading source deadline scope limit here w with
      | (.error (.access _), w₁) => (.ok here, w₁)
      | (.error f, w₁) => (.error f, w₁)
      | (.ok none, w₁) => (.ok here, w₁)
      | (.ok (some owner), w₁) =>
        match followed? (references owner) with
        | none => (.ok here, w₁)
        | some next =>
          (walk (.str scope) limit steps (named scope next)).run source deadline w₁ := by
  rcases hread : reading source deadline scope limit here w with ⟨r, w₁⟩
  have hanswer : (source.answer (.get here.kind (.str scope) (.str here.name)) limit w.moment
    w.cluster).1 = r := congrArg Prod.fst hread
  have hworld : { w with
      moment := (source.answer (.get here.kind (.str scope) (.str here.name)) limit w.moment
        w.cluster).2.1
      cluster := (source.answer (.get here.kind (.str scope) (.str here.name)) limit w.moment
        w.cluster).2.2
      asked := w.asked ++ [⟨.get here.kind (.str scope) (.str here.name), limit, w.moment⟩] } =
      w₁ := congrArg Prod.snd hread
  rw [walk, if_pos hkind, run_consult, hanswer, hworld]
  rcases r with f | _ | owner
  · cases f <;> rfl
  · rfl
  · have howner : owned.fits owner = true := hsource.fits hread
    dsimp only
    cases hnext : followed? (references owner) with
    | none =>
      rw [above_eq howner, hnext]
      split <;> rfl
    | some next =>
      have hrefs : references owner ≠ [] := by
        intro hnone
        rw [followed?_eq_none_iff.mpr hnone] at hnext
        cases hnext
      rw [if_pos (counts_of_references howner hrefs), above_eq howner, hnext, liftM_ok_bind]
      dsimp only
      rw [ofReference_eq (fits_of_followed? howner hnext), liftM_ok_bind]

/-- Where a climb halts, the walk is over, however many reads are left. -/
theorem run_walk_of_halts (hsource : GivesOwned source) {reads : List ObjectRef}
    (h : Halts (reading source deadline scope limit) w here reads w₁) (steps : Nat) :
    (walk (.str scope) limit (steps + 1) here).run source deadline w = (.ok here, w₁) := by
  cases h with
  | unsupported hkind =>
    rw [walk, if_neg (by simp [hkind])]
    rfl
  | unreadable hkind hread => rw [run_walk_succ hsource steps w hkind, hread]
  | missing hkind hread => rw [run_walk_succ hsource steps w hkind, hread]
  | topmost hkind hread hnone =>
    rw [run_walk_succ hsource steps w hkind, hread]
    dsimp only
    rw [followed?_eq_none_iff.mpr hnone]

/-- A read that raises a fault ends the walk with it. -/
theorem run_walk_of_raises (hsource : GivesOwned source) {f : Fault}
    (h : Raises (reading source deadline scope limit) w here f w₁) (steps : Nat) :
    (walk (.str scope) limit (steps + 1) here).run source deadline w = (.error f, w₁) := by
  obtain ⟨hkind, hread, hfault⟩ := h
  rw [run_walk_succ hsource steps w hkind, hread]
  cases f with
  | access message => exact absurd rfl (hfault message)
  | _ => rfl

/-- An owner that is read and names a further one is a step of the walk. -/
theorem run_walk_of_next (hsource : GivesOwned source) {owner next : Value}
    (hkind : Resource.isKind here.kind = true)
    (hread : reading source deadline scope limit here w = (.ok (some owner), w₁))
    (hnext : followed? (references owner) = some next) (steps : Nat) :
    (walk (.str scope) limit (steps + 1) here).run source deadline w =
      (walk (.str scope) limit steps (named scope next)).run source deadline w₁ := by
  rw [run_walk_succ hsource steps w hkind, hread]
  dsimp only
  rw [hnext]

/-- At every owner there is a way up, or the climb halts, or it raises a fault. -/
theorem climbs_or_halts_or_raises (read : Reader σ) (w : World σ) (ref : ObjectRef) :
    (Resource.isKind ref.kind = true ∧ ∃ owner next w₁, read ref w = (.ok (some owner), w₁) ∧
      followed? (references owner) = some next) ∨
    (∃ reads w₁, Halts read w ref reads w₁) ∨ ∃ f w₁, Raises read w ref f w₁ := by
  cases hkind : Resource.isKind ref.kind with
  | false => exact .inr (.inl ⟨_, _, .unsupported hkind⟩)
  | true =>
    rcases hread : read ref w with ⟨f | _ | owner, w₁⟩
    · cases f with
      | access message => exact .inr (.inl ⟨_, _, .unreadable hkind hread⟩)
      | _ => exact .inr (.inr ⟨_, _, hkind, hread, fun _ ↦ Fault.noConfusion⟩)
    · exact .inr (.inl ⟨_, _, .missing hkind hread⟩)
    · cases hnext : followed? (references owner) with
      | none => exact .inr (.inl ⟨_, _, .topmost hkind hread (followed?_eq_none_iff.mp hnext)⟩)
      | some next => exact .inl ⟨rfl, owner, next, w₁, rfl, hnext⟩

/-- A climb that starts above an owner starts at the owner, with one more read. -/
theorem Ends.up {read : Reader σ} {steps : Nat} {owner next : Value} {reads : List ObjectRef}
    {out : Except Fault ObjectRef × World σ} (hkind : Resource.isKind here.kind = true)
    (hread : read here w = (.ok (some owner), w₁))
    (hnext : followed? (references owner) = some next)
    (h : Ends read scope steps w₁ (named scope next) reads out) :
    Ends read scope (steps + 1) w here (here :: reads) out := by
  cases h with
  | spent h hspent => exact .spent (.up hkind hread hnext h) (congrArg (· + 1) hspent)
  | halted h hleft hhalts =>
    exact .halted (.up hkind hread hnext h) (Nat.succ_lt_succ hleft) hhalts
  | raised h hleft hraises =>
    exact .raised (.up hkind hread hnext h) (Nat.succ_lt_succ hleft) hraises

/-- The walk comes out as a climb does. -/
theorem exists_ends_walk (hsource : GivesOwned source) (steps : Nat) (w : World σ)
    (first : ObjectRef) :
    ∃ reads, Ends (reading source deadline scope limit) scope steps w first reads
      ((walk (.str scope) limit steps first).run source deadline w) := by
  induction steps generalizing w first with
  | zero => exact ⟨[], .spent (.here w first) rfl⟩
  | succ steps ih =>
    rcases climbs_or_halts_or_raises (reading source deadline scope limit) w first with
      ⟨hkind, owner, next, w₁, hread, hnext⟩ | ⟨reads, w₁, hhalts⟩ | ⟨f, w₁, hraises⟩
    · obtain ⟨reads, hends⟩ := ih w₁ (named scope next)
      rw [run_walk_of_next hsource hkind hread hnext]
      exact ⟨_, hends.up hkind hread hnext⟩
    · rw [run_walk_of_halts hsource hhalts]
      exact ⟨_, .halted (.here w first) (Nat.succ_pos steps) hhalts⟩
    · rw [run_walk_of_raises hsource hraises]
      exact ⟨_, .raised (.here w first) (Nat.succ_pos steps) hraises⟩

/-- A climb that halts within reach of the reads is walked to its end. -/
theorem run_walk_of_climbs (hsource : GivesOwned source) {first top : ObjectRef}
    {path reads : List ObjectRef} {w₂ : World σ}
    (h : Climbs (reading source deadline scope limit) scope w first path top w₁)
    (hhalts : Halts (reading source deadline scope limit) w₁ top reads w₂) {steps : Nat}
    (hlength : path.length ≤ steps) :
    ((walk (.str scope) limit steps first).run source deadline w).1 = .ok top := by
  induction h generalizing steps with
  | here w ref =>
    cases steps with
    | zero => rfl
    | succ steps => rw [run_walk_of_halts hsource hhalts]
  | up hkind hread hnext _ ih =>
    cases steps with
    | zero => exact absurd hlength (Nat.not_succ_le_zero _)
    | succ steps =>
      rw [run_walk_of_next hsource hkind hread hnext]
      exact ih hhalts (Nat.le_of_succ_le_succ hlength)

/-! ### The reads -/

/-- The access that reads an owner. -/
def access (scope : String) (ref : ObjectRef) : Query :=
  .get ref.kind (.str scope) (.str ref.name)

/-- The accesses made from one world to another one: the owners read, one after the other. -/
def Asks (scope : String) (w : World σ) (reads : List ObjectRef) (w₁ : World σ) : Prop :=
  w₁.asked.map Asked.query = w.asked.map Asked.query ++ reads.map (access scope)

/-- Nothing is asked where nothing is read. -/
theorem asks_nil (w : World σ) : Asks scope w [] w :=
  (List.append_nil _).symm

/-- One read is one question. -/
theorem asks_read {r : Except Fault (Option Value)}
    (hread : reading source deadline scope limit here w = (r, w₁)) : Asks scope w [here] w₁ := by
  cases hread
  exact List.map_append

/-- The questions of two parts of a walk are asked one after the other. -/
theorem Asks.append {reads reads' : List ObjectRef} {w₂ : World σ} (h : Asks scope w reads w₁)
    (h' : Asks scope w₁ reads' w₂) : Asks scope w (reads ++ reads') w₂ := by
  rw [Asks, h', h, List.append_assoc, List.map_append]

/-- The way up asks for one object after the other. -/
theorem Climbs.asks {first top : ObjectRef} {path : List ObjectRef}
    (h : Climbs (reading source deadline scope limit) scope w first path top w₁) :
    Asks scope w path w₁ := by
  induction h with
  | here w ref => exact asks_nil w
  | up hkind hread hnext _ ih => exact (asks_read hread).append ih

theorem Halts.asks {reads : List ObjectRef}
    (h : Halts (reading source deadline scope limit) w here reads w₁) : Asks scope w reads w₁ := by
  cases h with
  | unsupported hkind => exact asks_nil w
  | unreadable hkind hread => exact asks_read hread
  | missing hkind hread => exact asks_read hread
  | topmost hkind hread hnone => exact asks_read hread

/-- Where the walk halts it reads one object at most. -/
theorem Halts.length_le {read : Reader σ} {reads : List ObjectRef}
    (h : Halts read w here reads w₁) :
    reads.length ≤ 1 := by
  cases h with
  | unsupported hkind => exact Nat.zero_le 1
  | _ => exact Nat.le_refl 1

/-- A whole walk asks for the objects that it reads and for nothing else. -/
theorem Ends.asks {steps : Nat} {first : ObjectRef} {reads : List ObjectRef}
    {out : Except Fault ObjectRef × World σ}
    (h : Ends (reading source deadline scope limit) scope steps w first reads out) :
    Asks scope w reads out.2 := by
  cases h with
  | spent h hspent => exact h.asks
  | halted h hleft hhalts => exact h.asks.append hhalts.asks
  | raised h hleft hraises => exact h.asks.append (asks_read hraises.read_eq)

/-- A walk reads no more objects than it has steps. -/
theorem Ends.length_le {read : Reader σ} {steps : Nat} {first : ObjectRef} {reads : List ObjectRef}
    {out : Except Fault ObjectRef × World σ} (h : Ends read scope steps w first reads out) :
    reads.length ≤ steps := by
  cases h with
  | spent h hspent => exact Nat.le_of_eq hspent
  | halted h hleft hhalts =>
    have hreads := hhalts.length_le
    rw [List.length_append]
    omega
  | raised h hleft hraises =>
    rw [List.length_append]
    exact hleft

/-! ### The search -/

/-- The search walks from the owner that the object names, if it names one. -/
theorem run_find (hobject : owned.fits object = true) (limit : Value) (steps : Nat) (w : World σ) :
    (find object limit steps).run source deadline w =
      match followed? (references object) with
      | none => (.ok none, w)
      | some ref =>
        ((walk (.str (scopeOf object)) limit steps (named (scopeOf object) ref)).run source deadline
          w).map (·.map some) id := by
  have hsection : object.section? "metadata" = .ok (object.partAt "metadata") :=
    section_eq hobject rfl
  have hmetadata : ownerMetadata.fits (object.partAt "metadata") = true := fits_partAt hobject rfl
  have hscope : (object.partAt "metadata").label "namespace" = .ok (.str (scopeOf object)) :=
    label_eq hmetadata rfl
  rw [find, hsection, liftM_ok_bind, hscope, liftM_ok_bind, reference_eq hobject, liftM_ok_bind]
  cases href : followed? (references object) with
  | none => rfl
  | some ref =>
    dsimp only
    rw [ofReference_eq (fits_of_followed? hobject href), liftM_ok_bind, run_bind]
    rcases (walk (.str (scopeOf object)) limit steps (named (scopeOf object) ref)).run source
      deadline w with ⟨f | top, w₁⟩
    · rfl
    · rfl

/-- An object that names no owner has none. The owner of any other one is where the climb is over
that starts at the owner to follow, unless it ends in a fault: it reads as many owners as allowed at
most, in the namespace of the object, and it comes to the topmost one if that is within reach. -/
theorem find_climbs (hobject : owned.fits object = true) (hsource : GivesOwned source)
    (limit : Value) (steps : Nat) (deadline : Option Deadline) (w : World σ) :
    match followed? (references object) with
    | none => references object = [] ∧
        (find object limit steps).run source deadline w = (.ok none, w)
    | some ref =>
      (∃ reads out,
        Ends (reading source deadline (scopeOf object) limit) (scopeOf object) steps w
          (named (scopeOf object) ref) reads out ∧
        (find object limit steps).run source deadline w = (out.1.map some, out.2) ∧
        reads.length ≤ steps ∧ Asks (scopeOf object) w reads out.2) ∧
      ∀ path top w₁ reads w₂,
        Climbs (reading source deadline (scopeOf object) limit) (scopeOf object) w
          (named (scopeOf object) ref) path top w₁ →
        Halts (reading source deadline (scopeOf object) limit) w₁ top reads w₂ →
        path.length ≤ steps →
          ((find object limit steps).run source deadline w).1 = .ok (some top) := by
  have hrun : (find object limit steps).run source deadline w = _ := run_find hobject limit steps w
  cases href : followed? (references object) with
  | none =>
    rw [href] at hrun
    exact ⟨followed?_eq_none_iff.mp href, hrun⟩
  | some ref =>
    rw [href] at hrun
    refine ⟨?_, fun path top w₁ reads w₂ hclimbs hhalts hlength ↦ ?_⟩
    · obtain ⟨reads, hends⟩ := exists_ends_walk hsource steps w (named (scopeOf object) ref)
      exact ⟨reads, _, hends, hrun, hends.length_le, hends.asks⟩
    · rw [hrun, Prod.map_fst, run_walk_of_climbs hsource hclimbs hhalts hlength]
      rfl

/-! ### A chain of owners -/

namespace OwnerChain

/-- An object of a namespace with one owner. -/
def ownedBy (kind name : String) : Value :=
  .map [("metadata", .map [("namespace", .str "n"), ("owner_references", .list [
    .map [("kind", .str kind), ("name", .str name), ("controller", .bool true)]])])]

/-- A source with a replica set that a deployment owns, and a deployment without owners. -/
def workloads : Source Unit where
  answer
    | .get kind _ _, _, m, s =>
      (.ok (some (if kind = "ReplicaSet" then ownedBy "Deployment" "d" else .map [])), m, s)
    | .list _ _ _, _, m, s => (.ok [], m, s)
    | .events _ _ _, _, m, s => (.ok [], m, s)
    | .log _ _ _ _, _, m, s => (.ok none, m, s)

/-- A world without a gauge in which no access was made. -/
def start : World Unit where
  moment := ⟨.zero, false⟩
  cluster := ()

def replicaSet : ObjectRef :=
  ⟨"ReplicaSet", "r", some "n"⟩

def deployment : ObjectRef :=
  ⟨"Deployment", "d", some "n"⟩

/-- Reads the workloads of the namespace. -/
def read : Reader Unit :=
  reading workloads none "n" .null

theorem givesOwned_workloads : GivesOwned workloads := by
  intro kind scope name limit m s v h
  obtain rfl := Option.some.inj (Except.ok.inj h)
  split
  · rfl
  · rfl

/-- A single read leads from the replica set of a pod to the deployment, the topmost of its two
owners. -/
theorem find_climbs_workloads :
    owned.fits (ownedBy "ReplicaSet" "r") = true ∧ GivesOwned workloads ∧
      ((find (ownedBy "ReplicaSet" "r") .null 1).run workloads none start).1 =
        .ok (some deployment) := by
  have hfits : owned.fits (ownedBy "ReplicaSet" "r") = true := rfl
  have hset : followed? (references (ownedBy "ReplicaSet" "r")) = some (.map
    [("kind", .str "ReplicaSet"), ("name", .str "r"), ("controller", .bool true)]) := rfl
  have hdeployment : followed? (references (ownedBy "Deployment" "d")) = some (.map
    [("kind", .str "Deployment"), ("name", .str "d"), ("controller", .bool true)]) := rfl
  have hfind := find_climbs hfits givesOwned_workloads .null 1 none start
  rw [hset] at hfind
  have hclimbs :
      Climbs read "n" start replicaSet [replicaSet] deployment (read replicaSet start).2 :=
    .up rfl rfl hdeployment (.here _ _)
  have hhalts : Halts read (read replicaSet start).2 deployment [deployment]
      (read deployment (read replicaSet start).2).2 := .topmost rfl rfl rfl
  exact ⟨hfits, givesOwned_workloads, hfind.2 _ _ _ _ _ hclimbs hhalts (Nat.le_refl 1)⟩

end OwnerChain

end ClusterDiagnosis.Owner
