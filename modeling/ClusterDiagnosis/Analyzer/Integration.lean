import ClusterDiagnosis.Analyzer.Basic

/-!
Integrations: packages of further analyzers that a provider offers and that settings turn on.
-/

set_option autoImplicit false
set_option relaxedAutoImplicit false

namespace ClusterDiagnosis

/-- A package of analyzers. It is handed a table to fill, and asked for names. -/
structure Integration where
  /-- The analyzers that it puts into the table, by name. -/
  additions : List (String × Analyzer)
  /-- How the filling ends. If it fails, what was put in before is in the table nevertheless. -/
  filling : Except Fault Unit := .ok ()
  /-- The names it lists. -/
  names : Except Fault (List String)

/-- Something that knows integrations. -/
structure IntegrationProvider where
  known : List String
  isActive : String → Except Fault Bool
  get : String → Except Fault Integration

namespace IntegrationProvider

/-- An integration that is not known. -/
def notFound (name : String) : Fault :=
  .integration ("integration " ++ name ++ " not found")

/-- Whether the settings of an integration turn it on. Where there are none it is off. -/
def activation (settings : List (String × Value)) (name : String) : Except Fault Bool :=
  match entryAt? name settings with
  | none => .ok false
  | some .null => .ok false
  | some (.map entries) =>
    match (entryAt? "active" entries).getD (.bool false) with
    | .bool b => .ok b
    | _ => .error (.integration ("integration " ++ name ++ ": 'active' must be a boolean"))
  | some _ => .error (.integration ("integration " ++ name ++ ": settings must be a mapping"))

/-- A provider of fixed integrations, turned on by settings. -/
def ofSettings (integrations : List (String × Integration)) (settings : List (String × Value)) :
    IntegrationProvider where
  known := integrations.map Prod.fst
  isActive name :=
    if (entryAt? name integrations).isSome then activation settings name
    else .error (notFound name)
  get name :=
    match entryAt? name integrations with
    | some i => .ok i
    | none => .error (notFound name)

end IntegrationProvider

end ClusterDiagnosis
