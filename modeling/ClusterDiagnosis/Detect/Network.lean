import ClusterDiagnosis.Detect.Snapshot

/-!
Failures of the objects that connect others: services, ingresses and network policies.
-/

set_option autoImplicit false
set_option relaxedAutoImplicit false

namespace ClusterDiagnosis.Detect

/-- A failure for each label of a selector, ordered by key. -/
def labelFailures (intro : String) (labels : Value) : Except Fault (List Failure) := do
  (← labels.sortedKeys).mapM fun key ↦ do
    let value ← labels.item key
    failure (intro ++ key.text ++ "=" ++ value.text) [key, .str value.text]

/-- What is not ready at an address: the object behind it, or the bare address. -/
def notReady (address : Value) : Except Fault Value := do
  let target ← address.section? "target_ref"
  let name ← target.field "name"
  if name.counts then
    let kind ← target.fieldOr "kind" (.str "Pod")
    return .str (kind.text ++ "/" ++ name.text)
  address.label "ip"

/-- Everything at the endpoints of a service that is not ready. -/
def notReadyIn (subset : Value) : Except Fault (List Value) := do
  (← subset.each "not_ready_addresses").mapM notReady

/-- A text among texts that are put together. -/
def part : Value → Except Fault String
  | .str s => .ok s
  | _ => .error (.mismatch .wrongType)

/-- The failure of a service whose endpoints are not all ready. -/
def endpointFailures (subsets : List Value) : Except Fault (List Failure) := do
  let waiting := (← subsets.mapM notReadyIn).flatten
  if waiting.isEmpty then return []
  let names ← waiting.mapM part
  let text := "Service has not ready endpoints, pods: [" ++ ", ".intercalate names ++
    "], expected " ++ toString waiting.length
  return [⟨text, []⟩]

/-- A service that selects pods fails if it has no endpoints, or some that are not ready. -/
def service (object : Value) : Scan (List Failure) := do
  let md ← object.metadata
  let spec ← object.spec
  let scope ← md.label "namespace"
  let name ← md.label "name"
  let selector ← spec.section? "selector"
  if !selector.counts then return []
  let endpoints : Option Value ← Scan.ask (.get "Endpoints" scope name)
  let subsets ← ((endpoints.getD .null).orElse (.map [])).fieldOr "subsets" (.list [])
  if subsets.counts then
    Scan.lift (do endpointFailures (← subsets.elements))
  else
    Scan.lift (labelFailures "Service has no endpoints, expected label " selector)

/-- The annotation that names a class where the specification does not. -/
def classAnnotation : String := "kubernetes.io/ingress.class"

/-- The failure of an ingress that concerns its class. -/
def classFailures (md spec scope name : Value) : Scan (List Failure) := do
  let own ← spec.field "ingress_class_name"
  if own.counts then
    if ← isMissing "IngressClass" (.str "") own then
      return [⟨"Ingress uses the ingress class " ++ own.text ++ " which does not exist.", []⟩]
    return []
  let annotations ← md.section? "annotations"
  if (← annotations.field classAnnotation).counts then return []
  let text := "Ingress " ++ scope.text ++ "/" ++ name.text ++ " does not specify an Ingress class."
  return [← Scan.lift (failure text [scope, name])]

/-- The name of the service behind a path. -/
def backend (path : Value) : Except Fault Value := do
  (← (← path.section? "backend").section? "service").label "name"

/-- The services that paths lead to and that do not exist. Each is looked up once; `seen` holds
those that were, and is handed on. -/
def missingBackends (scope : Value) (seen : List Value) :
    List Value → Scan (List Failure × List Value)
  | [] => pure ([], seen)
  | path :: paths => do
    let name ← backend path
    if name.counts then
      if ← name.isAmong seen then missingBackends scope seen paths
      else
        let found ←
          if ← isMissing "Service" scope name then do
            let text := "Ingress uses the service " ++ scope.text ++ "/" ++ name.text ++
              " which does not exist."
            pure [← Scan.lift (failure text [scope, name])]
          else pure []
        let (others, seen) ← missingBackends scope (name :: seen) paths
        return (found ++ others, seen)
    else missingBackends scope seen paths

/-- The same over all rules. -/
def missingServices (scope : Value) (seen : List Value) : List Value → Scan (List Failure)
  | [] => pure []
  | rule :: rules => do
    let http ← rule.section? "http"
    let (found, seen) ← missingBackends scope seen (← http.each "paths")
    let others ← missingServices scope seen rules
    return found ++ others

/-- A certificate entry whose secret does not exist. -/
def missingCertificate (scope entry : Value) : Scan (Option Failure) := do
  let name ← entry.label "secret_name"
  if name.counts then
    if ← isMissing "Secret" scope name then
      let text := "Ingress uses the secret " ++ scope.text ++ "/" ++ name.text ++
        " as a TLS certificate which does not exist."
      return some (← Scan.lift (failure text [scope, name]))
  return none

/-- An ingress fails if it has no class, or if its class, a service behind it or a certificate does
not exist. -/
def ingress (object : Value) : Scan (List Failure) := do
  let md ← object.metadata
  let spec ← object.spec
  let scope ← md.label "namespace"
  let name ← md.label "name"
  let ofClass ← classFailures md spec scope name
  let ofServices ← missingServices scope [] (← spec.each "rules")
  let ofCertificates ← collect (missingCertificate scope) (← spec.each "tls")
  return ofClass ++ ofServices ++ ofCertificates

/-- A network policy fails if it selects every pod, and also if it selects pods by labels and there
is no such pod. Expressions that it selects pods by are not evaluated. -/
def networkPolicy (object : Value) : Scan (List Failure) := do
  let md ← object.metadata
  let spec ← object.spec
  let scope ← md.label "namespace"
  let name ← md.label "name"
  let selector ← spec.section? "pod_selector"
  let labels ← selector.section? "match_labels"
  if !labels.counts then
    if (← selector.field "match_expressions").counts then return []
    let text := "Network policy allows traffic to all pods: " ++ name.text
    return [← Scan.lift (failure text [name])]
  let chosen ← selectorText labels
  let pods : List Value ← Scan.ask (.list "Pod" scope (.str chosen))
  if pods.isEmpty then
    let text := "Network policy is not applied to any pods: " ++ name.text
    return [← Scan.lift (failure text [name])]
  return []

end ClusterDiagnosis.Detect
