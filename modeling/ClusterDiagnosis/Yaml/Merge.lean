import ClusterDiagnosis.Yaml.Node

/-!
Mappings that take in the entries of others. The entries taken in come before the own ones, which
therefore count. A mapping may take in itself, or one that takes it in: it then gives the entries
that it has at that time.
-/

set_option autoImplicit false
set_option relaxedAutoImplicit false

namespace ClusterDiagnosis.Yaml

namespace Nodes

/-- The entries of a mapping. -/
def entries (ns : Nodes) (i : Nat) : List (Nat × Nat) :=
  match ns.node i with
  | .mapping _ es => es
  | _ => []

/-- The nodes with other entries of a mapping. -/
def setEntries (ns : Nodes) (i : Nat) (es : List (Nat × Nat)) : Nodes :=
  ns.setIfInBounds i (.mapping (ns.node i).tag es)

/-- What the first request to take in asks for, and the entries without it. -/
def cutRequest? (ns : Nodes) : List (Nat × Nat) → Option (Nat × List (Nat × Nat))
  | [] => none
  | (k, v) :: es =>
    if ns.isTagged "merge" k then some (v, es)
    else (cutRequest? ns es).map fun (asked, others) ↦ (asked, (k, v) :: others)

/-- The number of requests to take in. -/
def requestCount (ns : Nodes) : Nat :=
  ns.foldl (fun n node ↦ match node with
    | .mapping _ es => n + (es.filter fun e ↦ ns.isTagged "merge" e.1).length
    | _ => n) 0

/-- A key that is tagged as the value of its mapping becomes a text like others. -/
def settleKey (ns : Nodes) (k : Nat) : Nodes :=
  if ns.isTagged "value" k then
    ns.setIfInBounds k ((ns.node k).withTag (Tag.ofName "str"))
  else ns

/-- The mapping of a number takes in what it asks for, where `taken` was taken in before. Each
request is taken out before it is fulfilled, so that there are fewer of them with each step. -/
def fulfil : Nat → Nat → List (Nat × Nat) → Nodes → Except Trouble Nodes
  | 0, _, _, ns => .ok ns
  | requests + 1, i, taken, ns =>
    match cutRequest? ns (ns.entries i) with
    | none =>
      let own := ns.entries i
      .ok ((own.foldl (fun ns e ↦ ns.settleKey e.1) ns).setEntries i (taken ++ own))
    | some (asked, others) =>
      let ns := ns.setEntries i others
      match ns.node asked with
      | .scalar _ _ => .error (.flaw .mapping)
      | .mapping _ _ => do
        let ns ← fulfil requests asked [] ns
        fulfil requests i (taken ++ ns.entries asked) ns
      | .sequence _ items => do
        let (ns, parts) ← items.foldlM (fun (ns, parts) item ↦
          match Nodes.node ns item with
          | .mapping _ _ =>
            (fulfil requests item [] ns).map fun ns ↦ (ns, Nodes.entries ns item :: parts)
          | _ => .error (.flaw .mapping)) (ns, ([] : List (List (Nat × Nat))))
        fulfil requests i (taken ++ parts.flatten) ns

/-- The nodes when the mapping of a number has taken in what it asks for. -/
def merged (ns : Nodes) (i : Nat) : Except Trouble Nodes :=
  fulfil (ns.requestCount + 1) i [] ns

end Nodes

end ClusterDiagnosis.Yaml
