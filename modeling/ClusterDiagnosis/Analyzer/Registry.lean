import ClusterDiagnosis.Analyzer.Builtin
import ClusterDiagnosis.Analyzer.Integration

/-!
The registry of analyzers, in three layers: those that are always run, those that are run on
request, and those of integrations. Where layers share a name the last one counts.
-/

set_option autoImplicit false
set_option relaxedAutoImplicit false

namespace ClusterDiagnosis

structure Registry where
  core : List (String × Analyzer) := []
  additional : List (String × Analyzer) := []
  integration : List (String × Analyzer) := []
  /-- The names that integrations list. -/
  listed : List String := []

/-- A table with the entries of another one put over it. -/
def overlay {α : Type} (table others : List (String × α)) : List (String × α) :=
  others.foldl (fun t e ↦ putEntry e.1 e.2 t) table

/-- What one integration contributes: nothing if it is not active. -/
def IntegrationProvider.contribution (p : IntegrationProvider) (name : String) :
    Except Fault (List (String × Analyzer) × List String) := do
  if ← p.isActive name then
    let i ← p.get name
    i.filling
    let names ← i.names
    return (i.additions, names)
  return ([], [])

namespace Registry

/-- The registry of the built-in analyzers. -/
def builtin : Registry where
  core := Check.core.map fun (name, c) ↦ (name, c.analyzer)
  additional := Check.additional.map fun (name, c) ↦ (name, c.analyzer)

/-- The fault that a failing integration ends in: its own if it is one of integrations, else one
that names it. -/
def integrationFault (name : String) : Fault → Fault
  | .integration m => .integration m
  | f => .integration ("integration " ++ name ++ ": " ++ f.text)

/-- Takes in the contributions of integrations in order, up to the first that fails. -/
def loadFrom (p : IntegrationProvider) : List String → Registry → Except Fault Unit × Registry
  | [], r => (.ok (), r)
  | name :: names, r =>
    match p.contribution name with
    | .error f => (.error (integrationFault name f), r)
    | .ok (additions, listed) =>
      loadFrom p names
        { r with integration := overlay r.integration additions, listed := r.listed ++ listed }

/-- Takes in the contributions of all active integrations of a provider, if there is one. -/
def load (r : Registry) (provider : Option IntegrationProvider) : Except Fault Unit × Registry :=
  match provider with
  | none => (.ok (), r)
  | some p => loadFrom p p.known r

/-- The registry of the built-in analyzers and of the integrations of a provider. -/
def withIntegrations (provider : Option IntegrationProvider) : Except Fault Registry :=
  match builtin.load provider with
  | (.ok (), r) => .ok r
  | (.error f, _) => .error f

/-- All layers as one table. -/
def merged (r : Registry) : List (String × Analyzer) :=
  overlay (overlay (overlay [] r.core) r.additional) r.integration

/-- The analyzers of the requested names, in order. -/
def lookUp (table : List (String × Analyzer)) : List String → Except Fault (List Analyzer)
  | [] => .ok []
  | name :: names =>
    match entryAt? name table with
    | none => .error (.unknownAnalyzer name)
    | some a => (lookUp table names).map (a :: ·)

/-- The analyzers to run: those requested, or without a request those that are always run, or all
of them. -/
def resolve (r : Registry) (request : List String) (withAdditional : Bool) :
    Except Fault (List Analyzer) :=
  if request.isEmpty then .ok ((if withAdditional then r.merged else r.core).map Prod.snd)
  else lookUp r.merged request

/-- Names in the order of their characters. -/
def alphabetical (names : List String) : List String :=
  names.mergeSort fun a b ↦ decide (a ≤ b)

/-- The listing of all names, layer by layer. -/
def listing (r : Registry) : List String :=
  let part (names : List String) := (alphabetical names).map ("> " ++ ·)
  "Active:" :: part (r.core.map Prod.fst) ++
    "Unused (use --filter or --with-additional):" :: part (r.additional.map Prod.fst) ++
    (if r.listed.isEmpty then [] else "Integrations:" :: part r.listed)

end Registry

end ClusterDiagnosis
