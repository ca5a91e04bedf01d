import TokenPattern.Error
import TokenPattern.Graph
import TokenPattern.Matcher

/-!
# Running a compiled pattern

A run keeps a frontier of explorers, each a position in the graph with the trail of outputs it has
collected.  Every token advances all explorers: along every edge to a leaf, once for every output
that the leaf yields.  Nothing is merged; two explorers on one node are two interpretations of the
input.

* `advance` — one token;
* `run` — a whole input, ending in the explorers that are left;
* `paths` — those among them that may stop where they are.

**Order.**  The explorers of the next frontier are ordered by the explorer they come from, then by
the edge, then by the output.

**Limits.**  The number of explorers is checked whenever one is added, so that a run over an
ambiguous pattern is abandoned before its frontier grows beyond what `Limits` allow.
-/

namespace TokenPattern

/-! ## Explorers -/

/-- One accepted token: the leaf that accepted it, the markers of the edge to the leaf, and the
output. -/
structure TrailItem (ο : Type) where
  node : NodeId
  markers : List Marker
  output : ο

/-- A position in the graph and the trail that led there, newest item first. -/
structure Explorer (ο : Type) where
  node : NodeId
  trail : List (TrailItem ο)

/-- A trail through the whole input, oldest item first, and the node it ends on. -/
structure AcceptingPath (ο : Type) where
  node : NodeId
  trail : List (TrailItem ο)

namespace Explorer

variable {τ ο : Type}

/-- An explorer that has not moved yet. -/
def initial : Explorer ο := ⟨NodeId.initial, []⟩

/-- The explorer after a step along an edge with an output. -/
def follow (x : Explorer ο) (e : Edge) (output : ο) : Explorer ο :=
  ⟨e.target, ⟨e.target, e.markers, output⟩ :: x.trail⟩

/-- All explorers that one becomes by reading a token. -/
def successors (g : Graph (Matcher τ ο)) (t : τ) (x : Explorer ο) : List (Explorer ο) :=
  (g.moves x.node).flatMap fun (e, m) => (m.outputs t).map (x.follow e)

/-- The path of an explorer that stops. -/
def path (x : Explorer ο) : AcceptingPath ο := ⟨x.node, x.trail.reverse⟩

end Explorer

/-! ## Limits -/

/-- What a run may use. -/
structure Limits where
  /-- The largest number of explorers, if there is one. -/
  maxFrontier : Option Nat
deriving DecidableEq

namespace Limits

/-- The limits of a run unless others are given. -/
def default : Limits := ⟨some TokenPattern.maxFrontier⟩

/-- No limit. -/
def unbounded : Limits := ⟨none⟩

instance : Diagnostic Limits :=
  ⟨fun l => Diagnostic.record "Limits" [("max_frontier", diagnostic l.maxFrontier)]⟩

/-- Adds an explorer to the next frontier, if there is room for it. -/
def pushWithin {ο : Type} (limits : Limits) (position : Nat) (next : Array (Explorer ο))
    (x : Explorer ο) : Except MatchError (Array (Explorer ο)) :=
  let next := next.push x
  match limits.maxFrontier with
  | some max =>
    if max < next.size then .error (.frontierExceeded next.size max position) else .ok next
  | none => .ok next

end Limits

/-! ## Runs -/

section

variable {τ ο : Type}

/-- The frontier after one more token. -/
def advance (g : Graph (Matcher τ ο)) (limits : Limits) (position : Nat)
    (frontier : Array (Explorer ο)) (t : τ) : Except MatchError (Array (Explorer ο)) :=
  frontier.foldlM
    (fun next x => (x.successors g t).foldlM (limits.pushWithin position) next) #[]

/-- The frontier after the tokens that are left.  An empty frontier stays empty, whatever
follows. -/
def runFrom (g : Graph (Matcher τ ο)) (limits : Limits) :
    Nat → Array (Explorer ο) → List τ → Except MatchError (Array (Explorer ο))
  | _, frontier, [] => .ok frontier
  | position, frontier, t :: rest =>
    if frontier.isEmpty then .ok frontier
    else
      match advance g limits position frontier t with
      | .ok next => runFrom g limits (position + 1) next rest
      | .error e => .error e

/-- The frontier before the first token. -/
def initialFrontier : Array (Explorer ο) := #[Explorer.initial]

/-- The frontier after the whole input. -/
def run (g : Graph (Matcher τ ο)) (limits : Limits) (input : List τ) :
    Except MatchError (Array (Explorer ο)) :=
  runFrom g limits 0 initialFrontier input

/-- The explorers of a frontier that may stop, in order. -/
def accepting (g : Graph (Matcher τ ο)) (frontier : Array (Explorer ο)) : List (Explorer ο) :=
  frontier.toList.filter fun x => g.accepts x.node

/-- All paths through the whole input that may stop at its end. -/
def paths (g : Graph (Matcher τ ο)) (limits : Limits) (input : List τ) :
    Except MatchError (List (AcceptingPath ο)) :=
  (run g limits input).map fun frontier => (accepting g frontier).map Explorer.path

/-! ## Dead frontiers -/

/-- A dead run stays dead and never fails. -/
theorem runFrom_empty (g : Graph (Matcher τ ο)) (limits : Limits) (position : Nat)
    (input : List τ) : runFrom g limits position (#[] : Array (Explorer ο)) input = .ok #[] := by
  cases input <;> rfl

end

end TokenPattern
