import ClusterDiagnosis.Proofs.Yaml.Ends
import ClusterDiagnosis.Yaml.Node

/-!
# The mismatches of reading nodes

Reading nodes leaves alone what is behind the stream, and ends in no other mismatch than this one,
unless the nodes are nested too deeply (`Document.ends_ofStream`). Each reader of a part of a
document is put together from readers of that kind (`NodeReader.NodesKeep`).
-/

set_option autoImplicit false
set_option relaxedAutoImplicit false

namespace ClusterDiagnosis.Yaml

/-- What putting nodes together may end in: too deep a nesting, or what is behind the stream. -/
inductive Composed (behind : Option Trouble) : Mismatch → Prop where
  | tooDeep : Composed behind .tooDeep
  | behind {m : Mismatch} (h : behind = some (.mismatch m)) : Composed behind m

namespace NodeReader

variable {behind : Option Trouble} {α : Type}

/-- What is behind the stream stays there, and there is no further mismatch than too deep a
nesting. -/
def Reads (behind : Option Trouble) (p : NodeReader α) : Prop :=
  Keeps (fun s ↦ s.stream.trouble = behind) (Composed behind) p

/-! ### Single tokens and nodes -/

theorem reads_fail (f : Flaw) : Reads behind (fail f : NodeReader α) :=
  .flaw f

theorem reads_peek : Reads behind peek := by
  refine .bind_get fun s hs ↦ ?_
  split
  · exact .pure _
  · refine .throw fun m hm ↦ .behind ?_
    rw [hs] at hm
    cases behind with
    | none => cases hm
    | some t => exact congrArg some hm

theorem reads_skip : Reads behind skip :=
  .modify fun _ hs ↦ hs

theorem reads_aliased (name : String) : Reads behind (aliased name) := by
  refine .bind_get fun s hs ↦ ?_
  split
  · exact reads_fail _
  · exact .pure _

theorem reads_add (n : Node) : Reads behind (add n) :=
  .bind_get fun _ _ ↦ .bind (.modify fun _ hs ↦ hs) fun _ ↦ .pure _

theorem reads_openNode (anchor : Option String) : Reads behind (openNode anchor) := by
  unfold openNode
  split
  · exact reads_add _
  · refine .bind_get fun s hs ↦ .guarded (reads_fail _) ?_
    exact .bind (reads_add _) fun i ↦ .bind (.modify fun _ hs ↦ hs) fun _ ↦ .pure _

theorem reads_closeNode (i : Nat) (n : Node) : Reads behind (closeNode i n) :=
  .bind (.modify fun _ hs ↦ hs) fun _ ↦ .pure _

theorem reads_address (handle : Option String) (ending : String) :
    Reads behind (address handle ending) := by
  unfold address
  split
  · exact .pure _
  · refine .bind_get fun s hs ↦ ?_
    split
    · exact reads_fail _
    · exact .pure _

theorem reads_properties : Reads behind properties := by
  refine .bind reads_peek fun t ↦ ?_
  split
  · refine .bind reads_skip fun _ ↦ .bind reads_peek fun u ↦ ?_
    split
    · exact .bind reads_skip fun _ ↦ .bind (reads_address _ _) fun _ ↦ .pure _
    · exact .pure _
  · refine .bind reads_skip fun _ ↦ .bind reads_peek fun u ↦ ?_
    split
    · exact .bind reads_skip fun _ ↦ .bind (reads_address _ _) fun _ ↦ .pure _
    · exact .bind (reads_address _ _) fun _ ↦ .pure _
  · exact .pure _

/-- Reading a node, or an empty one where a token stops it. -/
theorem reads_orEmpty {stops : Token → Bool} {node : NodeReader Nat} (h : Reads behind node) :
    Reads behind (orEmpty stops node) := by
  refine .bind reads_peek fun t ↦ ?_
  split
  · exact reads_add _
  · exact h

theorem reads_valueOr {stops : Token → Bool} {node : NodeReader Nat} (h : Reads behind node) :
    Reads behind (valueOr stops node) := by
  refine .bind reads_peek fun t ↦ ?_
  split
  · exact .bind reads_skip fun _ ↦ reads_orEmpty h
  · exact reads_add _

theorem reads_comma (first : Bool) (f : Flaw) : Reads behind (comma first f) := by
  unfold comma
  split
  · exact .pure _
  · refine .bind reads_peek fun t ↦ ?_
    split
    · exact reads_skip
    · exact reads_fail _

theorem reads_bare (anchor tag : Option String) (f : Flaw) :
    Reads behind (bare anchor tag f) := by
  unfold bare
  refine .guarded (reads_fail _) ?_
  exact .bind (reads_openNode _) fun i ↦ reads_closeNode _ _

/-! ### Nodes and their parts -/

/-- With so many steps nodes and their parts are read as they should. -/
structure NodesKeep (behind : Option Trouble) (steps : Nat) : Prop where
  node : ∀ depth block indentless, Reads behind (node steps depth block indentless)
  blockItems : ∀ depth before, Reads behind (blockItems steps depth before)
  looseItems : ∀ depth before, Reads behind (looseItems steps depth before)
  blockEntries : ∀ depth before, Reads behind (blockEntries steps depth before)
  flowItems : ∀ depth first before, Reads behind (flowItems steps depth first before)
  flowEntries : ∀ depth first before, Reads behind (flowEntries steps depth first before)

namespace NodesKeep

variable {steps : Nat}

theorem zero : NodesKeep behind 0 where
  node _ _ _ := by
    rw [NodeReader.node]
    exact reads_fail _
  blockItems _ _ := by
    rw [NodeReader.blockItems]
    exact reads_fail _
  looseItems _ _ := by
    rw [NodeReader.looseItems]
    exact reads_fail _
  blockEntries _ _ := by
    rw [NodeReader.blockEntries]
    exact reads_fail _
  flowItems _ _ _ := by
    rw [NodeReader.flowItems]
    exact reads_fail _
  flowEntries _ _ _ := by
    rw [NodeReader.flowEntries]
    exact reads_fail _

/-- A collection is opened, its parts are read behind its first token, and it is closed. -/
theorem collection {β : Type} {parts : NodeReader β} (hparts : Reads behind parts)
    (anchor : Option String) (close : β → Node) :
    Reads behind (do
      let i ← openNode anchor
      skip
      closeNode i (close (← parts))) :=
  .bind (reads_openNode _) fun _ ↦ .bind reads_skip fun _ ↦
    .bind hparts fun _ ↦ reads_closeNode _ _

variable (h : NodesKeep behind steps)

include h

/-- One more step of depth reads a node, given that the parts are read with fewer steps. -/
theorem node_succ (depth : Nat) (block indentless : Bool) :
    Reads behind (NodeReader.node (steps + 1) depth block indentless) := by
  cases depth with
  | zero =>
    rw [NodeReader.node]
    · refine .throw ?_
      rintro m ⟨⟩
      exact .tooDeep
    · rintro ⟨⟩
  | succ depth =>
    rw [NodeReader.node]
    refine .bind reads_peek fun t ↦ ?_
    split
    · exact .bind reads_skip fun _ ↦ reads_aliased _
    refine .bind reads_properties fun r ↦ .bind reads_peek fun u ↦ ?_
    cases u with
    | blockEntry =>
      refine .ite (reads_bare _ _ _) (.bind (reads_openNode _) fun i ↦ ?_)
      exact .bind (h.looseItems _ _) fun _ ↦ reads_closeNode _ _
    | scalar plain text =>
      exact .bind reads_skip fun _ ↦ .bind (reads_openNode _) fun _ ↦ reads_closeNode _ _
    | flowSequenceStart => exact collection (h.flowItems _ _ _) _ _
    | flowMappingStart => exact collection (h.flowEntries _ _ _) _ _
    | blockSequenceStart => exact .ite (reads_bare _ _ _) (collection (h.blockItems _ _) _ _)
    | blockMappingStart => exact .ite (reads_bare _ _ _) (collection (h.blockEntries _ _) _ _)
    | _ => exact reads_bare _ _ _

theorem blockItems_succ (depth : Nat) (before : List Nat) :
    Reads behind (NodeReader.blockItems (steps + 1) depth before) := by
  rw [NodeReader.blockItems]
  refine .bind reads_peek fun t ↦ ?_
  split
  · refine .bind reads_skip fun _ ↦ .bind (reads_orEmpty (h.node _ _ _)) fun i ↦ ?_
    exact h.blockItems _ _
  · exact .bind reads_skip fun _ ↦ .pure _
  · exact reads_fail _

theorem looseItems_succ (depth : Nat) (before : List Nat) :
    Reads behind (NodeReader.looseItems (steps + 1) depth before) := by
  rw [NodeReader.looseItems]
  refine .bind reads_peek fun t ↦ ?_
  split
  · refine .bind reads_skip fun _ ↦ .bind (reads_orEmpty (h.node _ _ _)) fun i ↦ ?_
    exact h.looseItems _ _
  · exact .pure _

theorem blockEntries_succ (depth : Nat) (before : List (Nat × Nat)) :
    Reads behind (NodeReader.blockEntries (steps + 1) depth before) := by
  rw [NodeReader.blockEntries]
  refine .bind reads_peek fun t ↦ ?_
  split
  · refine .bind reads_skip fun _ ↦ .bind (reads_orEmpty (h.node _ _ _)) fun k ↦ ?_
    exact .bind (reads_valueOr (h.node _ _ _)) fun v ↦ h.blockEntries _ _
  · exact .bind reads_skip fun _ ↦ .pure _
  · exact reads_fail _

theorem flowItems_succ (depth : Nat) (first : Bool) (before : List Nat) :
    Reads behind (NodeReader.flowItems (steps + 1) depth first before) := by
  rw [NodeReader.flowItems]
  refine .bind reads_peek fun t ↦ .ite (.bind reads_skip fun _ ↦ .pure _) ?_
  refine .bind (reads_comma _ _) fun _ ↦ .bind reads_peek fun u ↦ ?_
  split
  · refine .bind (reads_openNode _) fun i ↦ .bind reads_skip fun _ ↦ ?_
    refine .bind (reads_orEmpty (h.node _ _ _)) fun k ↦ ?_
    refine .bind (reads_valueOr (h.node _ _ _)) fun v ↦ ?_
    exact .bind (reads_closeNode _ _) fun _ ↦ h.flowItems _ _ _
  · exact .bind reads_skip fun _ ↦ .pure _
  · exact .bind (h.node _ _ _) fun i ↦ h.flowItems _ _ _

theorem flowEntries_succ (depth : Nat) (first : Bool) (before : List (Nat × Nat)) :
    Reads behind (NodeReader.flowEntries (steps + 1) depth first before) := by
  rw [NodeReader.flowEntries]
  refine .bind reads_peek fun t ↦ .ite (.bind reads_skip fun _ ↦ .pure _) ?_
  refine .bind (reads_comma _ _) fun _ ↦ .bind reads_peek fun u ↦ ?_
  split
  · refine .bind reads_skip fun _ ↦ .bind (reads_orEmpty (h.node _ _ _)) fun k ↦ ?_
    exact .bind (reads_valueOr (h.node _ _ _)) fun v ↦ h.flowEntries _ _ _
  · exact .bind reads_skip fun _ ↦ .pure _
  · exact .bind (h.node _ _ _) fun k ↦ .bind (reads_add _) fun v ↦ h.flowEntries _ _ _

/-- With one more step all readers of nodes keep to the mismatches. -/
theorem succ : NodesKeep behind (steps + 1) where
  node := h.node_succ
  blockItems := h.blockItems_succ
  looseItems := h.looseItems_succ
  blockEntries := h.blockEntries_succ
  flowItems := h.flowItems_succ
  flowEntries := h.flowEntries_succ

end NodesKeep

/-- Nodes and their parts are read as they should, however many steps there are. -/
theorem nodesKeep (behind : Option Trouble) (steps : Nat) : NodesKeep behind steps := by
  induction steps with
  | zero => exact .zero
  | succ steps ih => exact ih.succ

/-! ### Documents -/

theorem reads_directives (steps : Nat) (versioned : Bool) (handles : List (String × String)) :
    Reads behind (directives steps versioned handles) := by
  induction steps generalizing versioned handles with
  | zero => exact .pure _
  | succ steps ih =>
    rw [directives]
    refine .bind reads_peek fun t ↦ ?_
    split
    · refine .bind reads_skip fun _ ↦ .guarded (reads_fail _) ?_
      exact .guarded (reads_fail _) (ih _ _)
    · exact .bind reads_skip fun _ ↦ .guarded (reads_fail _) (ih _ _)
    · exact .bind reads_skip fun _ ↦ ih _ _
    · exact .pure _

theorem reads_skipEnds (steps : Nat) : Reads behind (skipEnds steps) := by
  induction steps with
  | zero => exact .pure _
  | succ steps ih =>
    rw [skipEnds]
    exact .bind reads_peek fun t ↦ .ite (.bind reads_skip fun _ ↦ ih) (.pure _)

theorem reads_head (steps : Nat) : Reads behind (head steps) := by
  refine .bind (reads_skipEnds _) fun _ ↦ .bind reads_peek fun t ↦ .ite (.pure _) ?_
  refine .bind (reads_directives _ _ _) fun handles ↦ .bind reads_peek fun u ↦ ?_
  split
  · exact .bind reads_skip fun _ ↦ .bind (.modify fun _ hs ↦ hs) fun _ ↦ .pure _
  · exact reads_fail _

theorem reads_firstDocument (steps : Nat) : Reads behind (firstDocument steps) := by
  have hroot : Reads behind (node steps maxDepth true false) := (nodesKeep behind steps).node _ _ _
  have hhead : Reads behind (do
      if ← head steps then some <$> orEmpty stopsDocument (node steps maxDepth true false)
      else return none) :=
    .bind (reads_head _) fun _ ↦ .ite (.map (reads_orEmpty hroot)) (.pure _)
  refine .bind reads_peek fun t ↦ ?_
  cases t with
  | directive d => exact hhead
  | documentStart => exact hhead
  | streamEnd => exact hhead
  | _ => exact .bind (.modify fun _ hs ↦ hs) fun _ ↦ .map hroot

/-- Reading a document gives a mismatch only where the bytes behind do. -/
theorem reads_document (steps : Nat) : Reads behind (document steps) := by
  refine .bind (reads_firstDocument _) fun root ↦ ?_
  split
  · exact .pure _
  · refine .bind (reads_head _) fun more ↦ .ite (reads_fail _) ?_
    exact .bind_get fun _ _ ↦ .pure _

end NodeReader

/-- A stream has a document or none, or a flaw in its way, unless the nodes are nested too deeply or
there is a mismatch at its end. -/
theorem Document.ends_ofStream (s : Stream) : EndsIn (Composed s.trouble) (ofStream s) :=
  (NodeReader.reads_document _ { stream := s } rfl).bind fun _ _ ↦ .ok trivial

end ClusterDiagnosis.Yaml
