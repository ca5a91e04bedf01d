import TokenPattern.Marker

/-!
# Compiled patterns

A `Graph` is the flat form of a pattern: two sentinel nodes, `NodeId.initial` and
`NodeId.terminal`, and one node for every leaf.  Its edges carry the markers of the groups that
open and close on them.  A run starts on the initial node, reads one token on every step to a leaf,
and may stop wherever an edge leads to the terminal node.

Nodes are numbered from zero, the sentinels first.  The edges that leave a node are ordered; the
order of the results of a run depends on it.
-/

namespace TokenPattern

/-- The number of a node. -/
abbrev NodeId := Nat

namespace NodeId

/-- Where every run starts. -/
def initial : NodeId := 0

/-- Where an edge leads from every node on which a run may stop. -/
def terminal : NodeId := 1

/-- The name of a node. -/
def label (id : NodeId) : String :=
  if id = initial then "initial" else if id = terminal then "terminal" else "#" ++ diagnostic id

end NodeId

universe u v

/-- A node: a sentinel or a leaf of the pattern. -/
inductive Node (α : Type u) where
  | initial
  | terminal
  | leaf (matcher : α)

namespace Node

variable {α : Type u}

/-- What a leaf accepts. -/
def matcher? : Node α → Option α
  | leaf m => some m
  | _ => none

/-- The word for what a node is. -/
def kind : Node α → String
  | initial => "initial"
  | terminal => "terminal"
  | leaf _ => "leaf"

/-- The diagnostic text of a node, given the texts of the leaves. -/
def text (leafText : α → String) : Node α → String
  | initial => "Initial"
  | terminal => "Terminal"
  | leaf m => Diagnostic.applied "Leaf" [leafText m]

end Node

/-- An edge, as its source sees it. -/
structure Edge where
  target : NodeId
  markers : List Marker
deriving DecidableEq

/-- The diagnostic text of an edge. -/
def Edge.text (e : Edge) : String :=
  if e.markers.isEmpty then NodeId.label e.target
  else NodeId.label e.target ++ " " ++ diagnostic e.markers

/-- A compiled pattern over leaves of type `α`. -/
structure Graph (α : Type u) where
  nodes : Array (Node α)
  successors : Array (List Edge)

namespace Graph

variable {α : Type u}

/-! ## Looking at a graph -/

/-- The edges that leave a node, in order. -/
def edgesFrom (g : Graph α) (id : NodeId) : List Edge := (g.successors[id]?).getD []

/-- What the leaf at a node accepts. -/
def matcher? (g : Graph α) (id : NodeId) : Option α := (g.nodes[id]?).bind Node.matcher?

/-- Whether a run may stop on a node. -/
def accepts (g : Graph α) (id : NodeId) : Bool :=
  (g.edgesFrom id).any fun e => e.target == NodeId.terminal

/-- The number of nodes, sentinels included. -/
def nodeCount (g : Graph α) : Nat := g.nodes.size

/-- The number of edges. -/
def edgeCount (g : Graph α) : Nat := (g.successors.toList.map List.length).foldr (· + ·) 0

/-- All nodes in order. -/
def nodeIds (g : Graph α) : List NodeId := List.range g.nodeCount

/-- The nodes from which an edge leads to a node. -/
def predecessors (g : Graph α) (id : NodeId) : List NodeId :=
  g.nodeIds.filter fun source => (g.edgesFrom source).any fun e => e.target == id

/-- The steps that read a token: the edges from a node to leaves, with what the leaves accept. -/
def moves (g : Graph α) (id : NodeId) : List (Edge × α) :=
  (g.edgesFrom id).filterMap fun e => (g.matcher? e.target).map (e, ·)

/-! ## Diagnostic text -/

/-- The diagnostic text of a graph: for every node the texts of its edges. -/
def text (leafText : α → String) (g : Graph α) : String :=
  Diagnostic.braced <| g.nodes.toList.zipIdx.map fun (node, id) =>
    Diagnostic.entry (NodeId.label id ++ " " ++ node.text leafText)
      (diagnostic ((g.edgesFrom id).map Edge.text))

/-! ## Membership -/

/-- A step that reads a token follows an edge to a leaf. -/
theorem mem_moves {g : Graph α} {id : NodeId} {e : Edge} {m : α} :
    (e, m) ∈ g.moves id ↔ e ∈ g.edgesFrom id ∧ g.matcher? e.target = some m := by
  simp only [moves, List.mem_filterMap, Option.map_eq_some_iff, Prod.mk.injEq]
  constructor
  · rintro ⟨e', he', m', hm', rfl, rfl⟩
    exact ⟨he', hm'⟩
  · rintro ⟨he, hm⟩
    exact ⟨e, he, m, hm, rfl, rfl⟩

/-- A run may stop where some edge leads to the terminal node. -/
theorem accepts_iff {g : Graph α} {id : NodeId} :
    g.accepts id = true ↔ ∃ e ∈ g.edgesFrom id, e.target = NodeId.terminal := by
  simp [accepts]

end Graph

end TokenPattern
