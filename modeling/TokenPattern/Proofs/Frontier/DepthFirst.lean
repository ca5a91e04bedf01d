import TokenPattern.Proofs.Frontier.Runs

/-!
# A run enumerates paths depth first

A run goes through a graph breadth first, with all explorers side by side, trails that are kept in
reverse, and an early end when no explorer is left.  `depthFirst` is the plain enumeration: from a
node along every edge to a leaf, with every output of the leaf for the next token, and on from there.

The order of a frontier, by explorer, by edge and by output, adds up to the order of this enumeration
(`paths_eq_depthFirst`): explorers never overtake each other, so that the first difference between two
paths decides.
-/

namespace TokenPattern

variable {τ ο : Type}

/-- The accepting paths from a node through an input, depth first: the edges in order, for each of
them the outputs in order. -/
def depthFirst (g : Graph (Matcher τ ο)) : NodeId → List τ → List (AcceptingPath ο)
  | p, [] => if g.accepts p then [⟨p, []⟩] else []
  | p, t :: rest => (g.edgesFrom p).flatMap fun e =>
      match g.matcher? e.target with
      | none => []
      | some m => (m.outputs t).flatMap fun o =>
          (depthFirst g e.target rest).map fun path =>
            ⟨path.node, ⟨e.target, e.markers, o⟩ :: path.trail⟩

variable (g : Graph (Matcher τ ο))

/-- Edges that lead to no leaf contribute nothing. -/
lemma depthFirst_cons (p : NodeId) (t : τ) (rest : List τ) :
    depthFirst g p (t :: rest) = (g.moves p).flatMap fun m => (m.2.outputs t).flatMap fun o =>
      (depthFirst g m.1.target rest).map fun path =>
        ⟨path.node, ⟨m.1.target, m.1.markers, o⟩ :: path.trail⟩ := by
  rw [depthFirst, Graph.moves]
  induction g.edgesFrom p with
  | nil => rfl
  | cons e edges ih =>
      rw [List.flatMap_cons, ih, List.filterMap_cons]
      cases g.matcher? e.target with
      | none => rfl
      | some m => rfl

/-- What is enumerated are the trails at whose end a run may stop. -/
lemma depthFirst_eq (p : NodeId) (input : List τ) :
    depthFirst g p input =
      ((trailsFrom g p input).filter fun trail => g.accepts (trailEnd p trail)).map
        fun trail => ⟨trailEnd p trail, trail⟩ := by
  induction input generalizing p with
  | nil =>
      rw [depthFirst, trailsFrom, List.filter_singleton, trailEnd]
      cases g.accepts p with
      | true => rfl
      | false => rfl
  | cons t rest ih =>
      simp only [depthFirst_cons, trailsFrom, List.filter_flatMap, List.map_flatMap]
      refine List.flatMap_congr fun m _ => List.flatMap_congr fun o _ => ?_
      rw [ih, List.filter_map, List.map_map, List.map_map]
      rfl

/-- **A run without limits gives the paths of the depth-first enumeration, in its order.** -/
theorem paths_eq_depthFirst (input : List τ) :
    paths g Limits.unbounded input = .ok (depthFirst g NodeId.initial input) := by
  rw [paths_unbounded, depthFirst_eq, acceptingTrails]
  rfl

end TokenPattern
