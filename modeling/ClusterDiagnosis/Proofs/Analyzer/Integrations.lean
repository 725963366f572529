import ClusterDiagnosis.Analyzer.Registry
import Mathlib.Data.List.Forall2
import Mathlib.Data.List.Induction

/-!
# What a loading of integrations leaves behind

An integration is taken in as a whole or not at all. It passes four steps: whether it is active, the
lookup, the filling of a table, and the listing of names. Either all integrations of a provider pass
them, or there is a first that does not (`exists_parts_or_first_failure`). `load_provider` says for
both cases what the registry holds afterwards and how the loading ends.
-/

set_option autoImplicit false
set_option relaxedAutoImplicit false

namespace ClusterDiagnosis

/-- What an integration brings: analyzers by name, and the names it lists. -/
abbrev IntegrationPart :=
  List (String × Analyzer) × List String

namespace IntegrationProvider

variable {p : IntegrationProvider} {name : String}

/-- An integration passes all steps and brings a part, which is empty if it is not active. -/
inductive Contributes (p : IntegrationProvider) (name : String) : IntegrationPart → Prop where
  | inactive (hactive : p.isActive name = .ok false) : Contributes p name ([], [])
  | active {i : Integration} {names : List String} (hactive : p.isActive name = .ok true)
      (hget : p.get name = .ok i) (hfilling : i.filling = .ok ()) (hnames : i.names = .ok names) :
      Contributes p name (i.additions, names)

/-- An integration fails in one of its steps. -/
inductive Fails (p : IntegrationProvider) (name : String) : Fault → Prop where
  | activation {f : Fault} (hactive : p.isActive name = .error f) : Fails p name f
  | lookup {f : Fault} (hactive : p.isActive name = .ok true) (hget : p.get name = .error f) :
      Fails p name f
  | filling {i : Integration} {f : Fault} (hactive : p.isActive name = .ok true)
      (hget : p.get name = .ok i) (hfilling : i.filling = .error f) : Fails p name f
  | listing {i : Integration} {f : Fault} (hactive : p.isActive name = .ok true)
      (hget : p.get name = .ok i) (hfilling : i.filling = .ok ()) (hnames : i.names = .error f) :
      Fails p name f

/-- Loading a provider that contributes gives its part. -/
theorem Contributes.contribution {part : IntegrationPart} (h : p.Contributes name part) :
    p.contribution name = .ok part := by
  cases h with
  | inactive hactive =>
    rw [IntegrationProvider.contribution, hactive]
    rfl
  | active hactive hget hfilling hnames =>
    rw [IntegrationProvider.contribution, hactive]
    simp only [hget, hfilling, hnames, bind, Except.bind, if_true]
    rfl

/-- Loading a provider that fails gives its fault. -/
theorem Fails.contribution {f : Fault} (h : p.Fails name f) : p.contribution name = .error f := by
  cases h with
  | activation hactive =>
    rw [IntegrationProvider.contribution, hactive]
    rfl
  | lookup hactive hget =>
    rw [IntegrationProvider.contribution, hactive]
    simp only [hget, bind, Except.bind, if_true]
  | filling hactive hget hfilling =>
    rw [IntegrationProvider.contribution, hactive]
    simp only [hget, hfilling, bind, Except.bind, if_true]
  | listing hactive hget hfilling hnames =>
    rw [IntegrationProvider.contribution, hactive]
    simp only [hget, hfilling, hnames, bind, Except.bind, if_true]

/-- Under any name, a provider contributes a part or fails. -/
theorem contributes_or_fails (p : IntegrationProvider) (name : String) :
    (∃ part, p.Contributes name part) ∨ ∃ f, p.Fails name f := by
  rcases hactive : p.isActive name with f | _ | _
  · exact .inr ⟨f, .activation hactive⟩
  · exact .inl ⟨_, .inactive hactive⟩
  rcases hget : p.get name with f | i
  · exact .inr ⟨f, .lookup hactive hget⟩
  rcases hfilling : i.filling with f | _
  · exact .inr ⟨f, .filling hactive hget hfilling⟩
  rcases hnames : i.names with f | names
  · exact .inr ⟨f, .listing hactive hget hfilling hnames⟩
  · exact .inl ⟨_, .active hactive hget hfilling hnames⟩

/-- Some integrations bring their parts, and they are all there are or a further one fails. -/
theorem exists_parts_or_first_failure (p : IntegrationProvider) (names : List String) :
    (∃ parts, List.Forall₂ p.Contributes names parts) ∨
      ∃ before failing later parts f, names = before ++ failing :: later ∧
        List.Forall₂ p.Contributes before parts ∧ p.Fails failing f := by
  induction names with
  | nil => exact .inl ⟨[], .nil⟩
  | cons name names ih =>
    rcases p.contributes_or_fails name with ⟨part, hpart⟩ | ⟨f, hf⟩
    · rcases ih with ⟨parts, hparts⟩ | ⟨before, failing, later, parts, f, rfl, hparts, hf⟩
      · exact .inl ⟨part :: parts, .cons hpart hparts⟩
      · exact .inr ⟨name :: before, failing, later, part :: parts, f, rfl, .cons hpart hparts, hf⟩
    · exact .inr ⟨[], name, names, [], f, rfl, .nil, hf⟩

/-- Two providers answer alike about an integration. -/
def AgreeOn (p q : IntegrationProvider) (name : String) : Prop :=
  q.isActive name = p.isActive name ∧ q.get name = p.get name

/-- A contribution under a name depends only on what the provider does under that name. -/
theorem Contributes.of_agreeOn {q : IntegrationProvider} {part : IntegrationPart}
    (h : p.Contributes name part) (hq : p.AgreeOn q name) : q.Contributes name part := by
  cases h with
  | inactive hactive => exact .inactive (hq.1.trans hactive)
  | active hactive hget hfilling hnames =>
    exact .active (hq.1.trans hactive) (hq.2.trans hget) hfilling hnames

/-- A failure under a name depends only on what the provider does under that name. -/
theorem Fails.of_agreeOn {q : IntegrationProvider} {f : Fault} (h : p.Fails name f)
    (hq : p.AgreeOn q name) : q.Fails name f := by
  cases h with
  | activation hactive => exact .activation (hq.1.trans hactive)
  | lookup hactive hget => exact .lookup (hq.1.trans hactive) (hq.2.trans hget)
  | filling hactive hget hfilling =>
    exact .filling (hq.1.trans hactive) (hq.2.trans hget) hfilling
  | listing hactive hget hfilling hnames =>
    exact .listing (hq.1.trans hactive) (hq.2.trans hget) hfilling hnames

/-- What some integrations bring is the same for a provider that answers alike about them. -/
theorem forall₂_contributes_of_agreeOn {q : IntegrationProvider} {names : List String}
    {parts : List IntegrationPart} (h : List.Forall₂ p.Contributes names parts)
    (hq : ∀ name ∈ names, p.AgreeOn q name) : List.Forall₂ q.Contributes names parts := by
  induction h with
  | nil => exact .nil
  | cons hpart _ ih =>
    rw [List.forall_mem_cons] at hq
    exact .cons (hpart.of_agreeOn hq.1) (ih hq.2)

end IntegrationProvider

namespace Registry

variable {p : IntegrationProvider}

/-- A registry with the parts of integrations, one over the other. -/
def extend (r : Registry) (parts : List IntegrationPart) : Registry where
  core := r.core
  additional := r.additional
  integration := parts.foldl (fun table part ↦ overlay table part.1) r.integration
  listed := r.listed ++ parts.flatMap Prod.snd

/-- Parts extend a registry one after the other. -/
theorem extend_cons (r : Registry) (part : IntegrationPart) (parts : List IntegrationPart) :
    r.extend (part :: parts) = extend
      { r with integration := overlay r.integration part.1, listed := r.listed ++ part.2 }
      parts := by
  simp only [extend, List.foldl_cons, List.flatMap_cons, List.append_assoc]

/-- In a table that is put over another one its last entry for a key counts. -/
theorem entryAt?_overlay {α : Type} (key : String) (table others : List (String × α)) :
    entryAt? key (overlay table others) =
      (entryAt? key others.reverse).or (entryAt? key table) := by
  induction others using List.reverseRecOn with
  | nil => rfl
  | append_singleton others e ih =>
    rw [overlay, List.foldl_append, List.foldl_cons, List.foldl_nil, entryAt?_putEntry, ← overlay,
      ih, List.reverse_append, List.reverse_singleton, List.singleton_append, entryAt?]
    by_cases h : e.1 = key
    · rw [if_pos h.symm, if_pos h, Option.some_or]
    · rw [if_neg (Ne.symm h), if_neg h]

/-- Laying parts over a table one by one is laying all their entries over it at once. -/
theorem foldl_overlay (table : List (String × Analyzer)) (parts : List IntegrationPart) :
    parts.foldl (fun table part ↦ overlay table part.1) table =
      overlay table (parts.flatMap Prod.fst) := by
  induction parts generalizing table with
  | nil => rfl
  | cons part parts ih =>
    rw [List.foldl_cons, ih, List.flatMap_cons, overlay, overlay, overlay, List.foldl_append]

/-- Later parts win over earlier ones, and all of them over what the layer held before. -/
theorem entryAt?_extend (r : Registry) (parts : List IntegrationPart) (key : String) :
    entryAt? key (r.extend parts).integration =
      (entryAt? key (parts.flatMap Prod.fst).reverse).or (entryAt? key r.integration) := by
  rw [extend, foldl_overlay, entryAt?_overlay]

/-- Names whose parts load leave the registry extended by these parts, and loading goes on. -/
theorem loadFrom_append {before : List String} {parts : List IntegrationPart}
    (h : List.Forall₂ p.Contributes before parts) (later : List String) (r : Registry) :
    loadFrom p (before ++ later) r = loadFrom p later (r.extend parts) := by
  induction h generalizing r with
  | nil => rw [List.nil_append, extend, List.flatMap_nil, List.append_nil, List.foldl_nil]
  | cons hpart _ ih =>
    rw [List.cons_append, loadFrom, hpart.contribution, extend_cons]
    exact ih _

/-- When every known name contributes, loading succeeds with all the parts. -/
theorem load_of_contributes {parts : List IntegrationPart}
    (h : List.Forall₂ p.Contributes p.known parts) (r : Registry) :
    r.load (some p) = (.ok (), r.extend parts) := by
  have hall := loadFrom_append h [] r
  rwa [List.append_nil, loadFrom] at hall

/-- The first failing name ends loading: its fault is raised, and the parts before it stay. -/
theorem load_of_fails {before later : List String} {failing : String} {f : Fault}
    {parts : List IntegrationPart} (hknown : p.known = before ++ failing :: later)
    (h : List.Forall₂ p.Contributes before parts) (hf : p.Fails failing f) (r : Registry) :
    r.load (some p) = (.error (integrationFault failing f), r.extend parts) := by
  rw [load, hknown, loadFrom_append h, loadFrom, hf.contribution]

/-- How a failing integration ends the loading: with its own fault if that is one of integrations,
else with one that tells the name and the text of the fault. -/
inductive Raises (name : String) : Fault → Fault → Prop where
  | own (message : String) : Raises name (.integration message) (.integration message)
  | named {f : Fault} (h : ∀ message, f ≠ .integration message) :
      Raises name f (.integration ("integration " ++ name ++ ": " ++ f.text))

/-- The fault that loading raises carries the name and the first fault's text. -/
theorem raises_integrationFault (name : String) (f : Fault) :
    Raises name f (integrationFault name f) := by
  cases f
  case integration message => exact .own message
  all_goals exact .named nofun

/-- A loading leaves the layers of the program itself alone. If all integrations bring their parts,
it succeeds, and the registry holds all parts. If one fails, the loading ends with its fault, and
the registry holds the parts of those before it, whatever there is behind it: a provider that
answers alike about the integrations so far leads to the same. One of the two is the case. Of
several entries for a name the last one counts, in the order of the integrations. -/
theorem load_provider (r : Registry) (p : IntegrationProvider) :
    ((r.load (some p)).2.core = r.core ∧ (r.load (some p)).2.additional = r.additional) ∧
    (∀ parts, List.Forall₂ p.Contributes p.known parts →
      r.load (some p) = (.ok (), r.extend parts)) ∧
    (∀ before failing later parts f, p.known = before ++ failing :: later →
      List.Forall₂ p.Contributes before parts → p.Fails failing f →
        (∃ e, Raises failing f e ∧ r.load (some p) = (.error e, r.extend parts)) ∧
        ∀ q later', q.known = before ++ failing :: later' →
          (∀ name ∈ before ++ [failing], p.AgreeOn q name) →
            r.load (some q) = r.load (some p)) ∧
    ((∃ parts, List.Forall₂ p.Contributes p.known parts) ∨
      ∃ before failing later parts f, p.known = before ++ failing :: later ∧
        List.Forall₂ p.Contributes before parts ∧ p.Fails failing f) ∧
    ∀ parts key, entryAt? key (r.extend parts).integration =
      (entryAt? key (parts.flatMap Prod.fst).reverse).or (entryAt? key r.integration) := by
  refine ⟨?_, fun parts h ↦ load_of_contributes h r, ?_, p.exists_parts_or_first_failure p.known,
    r.entryAt?_extend⟩
  · rcases p.exists_parts_or_first_failure p.known with
      ⟨parts, h⟩ | ⟨before, failing, later, parts, f, hknown, h, hf⟩
    · rw [load_of_contributes h]
      exact ⟨rfl, rfl⟩
    · rw [load_of_fails hknown h hf]
      exact ⟨rfl, rfl⟩
  · intro before failing later parts f hknown h hf
    refine ⟨⟨_, raises_integrationFault failing f, load_of_fails hknown h hf r⟩, ?_⟩
    intro q later' hq hagree
    rw [List.forall_mem_append, List.forall_mem_singleton] at hagree
    have hbefore : List.Forall₂ q.Contributes before parts :=
      IntegrationProvider.forall₂_contributes_of_agreeOn h hagree.1
    have hfailing : q.Fails failing f := hf.of_agreeOn hagree.2
    rw [load_of_fails hq hbefore hfailing, load_of_fails hknown h hf]

namespace FailingScanner

/-- The fault of a table that cannot be filled any further. -/
def full : Fault := .external ⟨"OSError", "disk full", .plain⟩

def linter : Integration where
  additions := [("Lint", Check.bare.analyzer), ("Pod", Check.bare.analyzer)]
  names := .ok ["Lint"]

/-- An integration that fails after it has put something into the table. -/
def scanner : Integration where
  additions := [("Scan", Check.bare.analyzer)]
  filling := .error full
  names := .ok ["Scan"]

/-- A provider of an integration that is not active, of one that works, and of others. -/
def provider (others : List String) : IntegrationProvider where
  known := ["Draft", "Linter"] ++ others
  isActive name := .ok (name != "Draft")
  get name := .ok (if name = "Linter" then linter else scanner)

/-- What is left: the part of the linter, and nothing of the scanner or of what is behind it. -/
theorem load_provider_failing :
    Registry.builtin.load (some (provider [])) =
        (.ok (), Registry.builtin.extend [([], []), (linter.additions, ["Lint"])]) ∧
      (∃ e, Raises "Scanner" full e ∧
        Registry.builtin.load (some (provider ["Scanner", "Auditor"])) =
          (.error e, Registry.builtin.extend [([], []), (linter.additions, ["Lint"])])) ∧
      Registry.builtin.load (some (provider ["Scanner"])) =
        Registry.builtin.load (some (provider ["Scanner", "Auditor"])) := by
  have hparts (others : List String) : List.Forall₂ (provider others).Contributes
      ["Draft", "Linter"] [([], []), (linter.additions, ["Lint"])] :=
    .cons (.inactive rfl) (.cons (.active rfl rfl rfl rfl) .nil)
  obtain ⟨-, hall, -⟩ := load_provider Registry.builtin (provider [])
  obtain ⟨-, -, hfirst, -⟩ := load_provider Registry.builtin (provider ["Scanner", "Auditor"])
  obtain ⟨hfailed, hsame⟩ := hfirst ["Draft", "Linter"] "Scanner" ["Auditor"] _ full rfl
    (hparts _) (.filling rfl rfl rfl)
  exact ⟨hall _ (hparts _), hfailed, hsame (provider ["Scanner"]) [] rfl fun _ _ ↦ ⟨rfl, rfl⟩⟩

end FailingScanner

end Registry

end ClusterDiagnosis
