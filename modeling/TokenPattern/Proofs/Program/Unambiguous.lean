import TokenPattern.Proofs.Frontier.Rivals
import TokenPattern.Proofs.Position.Automaton
import TokenPattern.Proofs.Program.Agreement

/-!
# Unambiguous patterns

A pattern is `Unambiguous` if every node of its graph has at most one explorer, whatever is read.  Its
runs then need no more room than the pattern has leaves, so they never trip the limit on explorers,
and an input matches in one way or not at all.

`Graph.Rivalry.unambiguous` finds this in a rivalry of the graph.  The bound is there since explorers
that have moved stand on leaves (`Graph.nodes_subset`).
-/

namespace TokenPattern

variable {τ ο : Type}

/-- Whether a pattern reads every input in at most one way.  After every prefix of an input no two
explorers stand on one node, and there are no more of them than the pattern has leaves; and the whole
input has at most one match.  All this is about runs under the default limits, which do not fail. -/
def Unambiguous (e : Expr (Matcher τ ο)) : Prop :=
  ∀ input : List τ,
    (∀ seen, seen <+: input → ∃ frontier,
      run (Graph.ofExpr e) Limits.default seen = .ok frontier ∧
        (frontier.toList.map Explorer.node).Nodup ∧ frontier.size ≤ e.leafCount) ∧
      ∃ ms, (Program.compile e).allMatches input = .ok ms ∧ ms.length ≤ 1

/-- The limit on explorers does nothing to an unambiguous pattern. -/
lemma Unambiguous.run_eq {e : Expr (Matcher τ ο)} (h : Unambiguous e) (input : List τ) :
    run (Graph.ofExpr e) Limits.default input = run (Graph.ofExpr e) Limits.unbounded input := by
  obtain ⟨frontier, hrun, _⟩ := (h input).1 input List.prefix_rfl
  obtain ⟨all, hall, hl⟩ := (allows_run (Graph.ofExpr e) Limits.unbounded input).exists_ok
  obtain ⟨limited, hlimited, hl'⟩ | ⟨_, _, _, _, herr⟩ :=
    (allows_run (Graph.ofExpr e) Limits.default input).eq_ok_or
  · rw [hlimited, hall, Array.toList_inj.1 (hl'.trans hl.symm)]
  · exact absurd (hrun.symm.trans herr) (by simp)

/-- So with the default limits, too, there is a verdict, and it tells whether the input is in the
language. -/
lemma Unambiguous.exists_isMatch {e : Expr (Matcher τ ο)} (h : Unambiguous e) (input : List τ) :
    ∃ verdict, (Program.compile e).isMatch input = .ok verdict ∧
      (verdict = true ↔ input ∈ e.language) := by
  obtain ⟨verdict, hmatch, hverdict⟩ := Program.exists_isMatch e input
  rw [Program.isMatch_eq] at hmatch ⊢
  refine ⟨verdict, Eq.trans ?_ hmatch, hverdict⟩
  exact congrArg (Except.map _) (h.run_eq input)

namespace Graph

variable {e : Expr (Matcher τ ο)}

/-- A node with a matcher is that of a leaf. -/
lemma exists_leaf_of_matcher? {n : NodeId} {m : Matcher τ ο}
    (h : (ofExpr e).matcher? n = some m) :
    ∃ k < e.leafCount, n = e.leafNode k ∧ e.leaves[k]? = some m := by
  have hfst : ofExpr e = (ofExpr e.indexed).map Prod.fst := by
    rw [← ofExpr_map, Expr.map_fst_indexed]
  rw [hfst, matcher?_map, Option.map_eq_some_iff] at h
  obtain ⟨⟨m, k⟩, hk, rfl⟩ := h
  obtain ⟨hk, hn⟩ := (matcher?_ofExpr_indexed e n m k).1 hk
  exact ⟨k, Expr.length_leaves e ▸ (List.getElem?_eq_some_iff.1 hk).1, hn, hk⟩

/-- Explorers that have moved stand on leaves. -/
lemma nodes_subset (xs : List (Explorer ο)) (t : τ) :
    (xs.flatMap fun x => x.successors (ofExpr e) t).map Explorer.node ⊆
      (List.range e.leafCount).map e.leafNode := by
  intro n hn
  obtain ⟨y, hy, rfl⟩ := List.mem_map.1 hn
  obtain ⟨x, _, hy⟩ := List.mem_flatMap.1 hy
  obtain ⟨m, hm, _, hnode⟩ := mem_successors hy
  obtain ⟨k, hk, hleaf, _⟩ := exists_leaf_of_matcher? (mem_moves.1 hm).2
  rw [hnode, hleaf]
  exact List.mem_map_of_mem (List.mem_range.2 hk)

namespace Rivalry

variable {R : NodeId → NodeId → Prop}

/-- There are no more explorers than leaves. -/
theorem length_exploreAll_le (h : (ofExpr e).Rivalry R) (input : List τ) :
    (exploreAll (ofExpr e) input [Explorer.initial]).length ≤ e.leafCount := by
  rcases List.eq_nil_or_concat' input with rfl | ⟨seen, t, rfl⟩
  · exact e.leafCount_pos
  · have hnodup := h.nodup_nodes (seen ++ [t])
    rw [exploreAll, List.foldl_append, List.foldl_cons, List.foldl_nil] at hnodup ⊢
    have hle := (hnodup.subperm (nodes_subset _ t)).length_le
    rwa [List.length_map, List.length_map, List.length_range] at hle

/-- **A pattern is unambiguous if its graph has a rivalry**, and no more leaves than there may be
explorers. -/
theorem unambiguous (h : (ofExpr e).Rivalry R) (hsize : e.leafCount ≤ maxFrontier) :
    Unambiguous e := by
  have hrun : ∀ seen : List τ, ∃ frontier, run (ofExpr e) Limits.default seen = .ok frontier ∧
      frontier.toList = exploreAll (ofExpr e) seen [Explorer.initial] := by
    intro seen
    obtain ⟨frontier, hfrontier, hl⟩ := exists_run_unbounded (ofExpr e) seen
    refine ⟨frontier, (run_eq_unbounded (ofExpr e) fun k _ _ => ?_).trans hfrontier, hl⟩
    rw [alive_eq]
    exact (h.length_exploreAll_le _).trans hsize
  refine fun input => ⟨fun seen _ => ?_, ?_⟩
  · obtain ⟨frontier, hfrontier, hl⟩ := hrun seen
    refine ⟨frontier, hfrontier, hl ▸ h.nodup_nodes seen, ?_⟩
    rw [← Array.length_toList, hl]
    exact h.length_exploreAll_le seen
  · obtain ⟨frontier, hfrontier, _⟩ := hrun input
    obtain ⟨ms, hms, hall⟩ := exists_allMatches_of_paths e (paths_of_run_eq_ok hfrontier).1
    exact ⟨ms, hms, hall.length_eq ▸ h.length_acceptingTrails_le input⟩

end Rivalry

end Graph

end TokenPattern
