import TokenPattern.Proofs.Position.Strict

/-!
# The size of a compiled pattern

How many edges the graph of a pattern has can be told from the pattern if no two of them lead from one
node to another, as in the graph of a strict pattern: one for every leaf that may be first, one for every
leaf that may be last, one for every pair of leaves of which the second may follow the first, and one if
the pattern is nullable (`Graph.edgeCount_ofExpr`).

For this the neighbours that are computed from the operators must be counted once each.  They are:
operands have no leaves in common, and what follows a leaf within the body of a repetition does not
follow it in the next round (`Expr.nodup_follows`).
-/

namespace TokenPattern

universe u v

/-! ## Neighbours, each once -/

namespace Expr

variable {α : Type u} {β : Type v} {e : Expr α}

lemma firsts_map (f : α → β) (e : Expr α) : (e.map f).firsts = e.firsts.map f := by
  induction e with
  | leaf m => rfl
  | concat l r ihl ihr =>
      rw [map, firsts, firsts, ihl, ihr, nullable_map, List.map_append]
      split_ifs <;> rfl
  | alt l r ihl ihr => rw [map, firsts, firsts, ihl, ihr, List.map_append]
  | maybe x ih => exact ih
  | star x ih => exact ih
  | capture n x ih => exact ih

lemma lasts_map (f : α → β) (e : Expr α) : (e.map f).lasts = e.lasts.map f := by
  induction e with
  | leaf m => rfl
  | concat l r ihl ihr =>
      rw [map, lasts, lasts, ihl, ihr, nullable_map, List.map_append]
      split_ifs <;> rfl
  | alt l r ihl ihr => rw [map, lasts, lasts, ihl, ihr, List.map_append]
  | maybe x ih => exact ih
  | star x ih => exact ih
  | capture n x ih => exact ih

lemma follows_map (f : α → β) (e : Expr α) :
    (e.map f).follows = e.follows.map (Prod.map f f) := by
  have hproduct : ∀ A B : List α, (A ×ˢ B).map (Prod.map f f) = A.map f ×ˢ B.map f := by
    intro A B
    induction A with
    | nil => rfl
    | cons a A ih =>
        rw [List.product_cons, List.map_append, ih, List.map_cons, List.product_cons,
          List.map_map, List.map_map]
        rfl
  induction e with
  | leaf m => rfl
  | concat l r ihl ihr =>
      rw [map, follows, follows, ihl, ihr, lasts_map, firsts_map, List.map_append,
        List.map_append, hproduct]
  | alt l r ihl ihr => rw [map, follows, follows, ihl, ihr, List.map_append]
  | maybe x ih => exact ih
  | star x ih => rw [map, follows, follows, ih, lasts_map, firsts_map, List.map_append, hproduct]
  | capture n x ih => exact ih

lemma nodup_firsts (h : e.leaves.Nodup) : e.firsts.Nodup := by
  induction e with
  | leaf m => exact List.nodup_singleton m
  | concat l r ihl ihr =>
      rw [leaves, List.nodup_append'] at h
      obtain ⟨hl, hr, hdisjoint⟩ := h
      rw [firsts]
      split_ifs with hnull
      · exact List.nodup_append'.2 ⟨ihl hl, ihr hr, fun a ha hb =>
          hdisjoint (mem_leaves_of_mem_firsts ha) (mem_leaves_of_mem_firsts hb)⟩
      · rw [List.append_nil]
        exact ihl hl
  | alt l r ihl ihr =>
      rw [leaves, List.nodup_append'] at h
      obtain ⟨hl, hr, hdisjoint⟩ := h
      exact List.nodup_append'.2 ⟨ihl hl, ihr hr, fun a ha hb =>
        hdisjoint (mem_leaves_of_mem_firsts ha) (mem_leaves_of_mem_firsts hb)⟩
  | maybe x ih => exact ih h
  | star x ih => exact ih h
  | capture n x ih => exact ih h

lemma nodup_lasts (h : e.leaves.Nodup) : e.lasts.Nodup := by
  induction e with
  | leaf m => exact List.nodup_singleton m
  | concat l r ihl ihr =>
      rw [leaves, List.nodup_append'] at h
      obtain ⟨hl, hr, hdisjoint⟩ := h
      rw [lasts]
      split_ifs with hnull
      · exact List.nodup_append'.2 ⟨ihr hr, ihl hl, fun a ha hb =>
          hdisjoint (mem_leaves_of_mem_lasts hb) (mem_leaves_of_mem_lasts ha)⟩
      · rw [List.append_nil]
        exact ihr hr
  | alt l r ihl ihr =>
      rw [leaves, List.nodup_append'] at h
      obtain ⟨hl, hr, hdisjoint⟩ := h
      exact List.nodup_append'.2 ⟨ihl hl, ihr hr, fun a ha hb =>
        hdisjoint (mem_leaves_of_mem_lasts ha) (mem_leaves_of_mem_lasts hb)⟩
  | maybe x ih => exact ih h
  | star x ih => exact ih h
  | capture n x ih => exact ih h

/-- **No pair of neighbours is counted twice.** -/
lemma nodup_follows (h : e.leaves.Nodup) (hstrict : e.strict = true) : e.follows.Nodup := by
  -- Pairs within an operand have both their leaves there.
  have hpairs : ∀ {l r : Expr α}, l.leaves.Disjoint r.leaves → l.follows.Disjoint r.follows :=
    fun hdisjoint _ hl hr =>
      hdisjoint (mem_leaves_of_mem_follows hl).1 (mem_leaves_of_mem_follows hr).1
  induction e with
  | leaf m => exact List.nodup_nil
  | concat l r ihl ihr =>
      rw [leaves, List.nodup_append'] at h
      obtain ⟨hl, hr, hdisjoint⟩ := h
      simp only [strict, Bool.and_eq_true] at hstrict
      refine List.nodup_append'.2 ⟨List.nodup_append'.2 ⟨ihl hl hstrict.1, ihr hr hstrict.2,
        hpairs hdisjoint⟩, (nodup_lasts hl).product (nodup_firsts hr), ?_⟩
      rintro ⟨a, b⟩ hab hseam
      obtain ⟨ha, hb⟩ := List.mem_product.1 hseam
      rcases List.mem_append.1 hab with hab | hab
      · exact hdisjoint (mem_leaves_of_mem_follows hab).2 (mem_leaves_of_mem_firsts hb)
      · exact hdisjoint (mem_leaves_of_mem_lasts ha) (mem_leaves_of_mem_follows hab).1
  | alt l r ihl ihr =>
      rw [leaves, List.nodup_append'] at h
      obtain ⟨hl, hr, hdisjoint⟩ := h
      simp only [strict, Bool.and_eq_true] at hstrict
      exact List.nodup_append'.2 ⟨ihl hl hstrict.1.1, ihr hr hstrict.1.2, hpairs hdisjoint⟩
  | maybe x ih =>
      simp only [strict, Bool.and_eq_true] at hstrict
      exact ih h hstrict.1
  | star x ih =>
      simp only [strict, Bool.and_eq_true, Bool.not_eq_true'] at hstrict
      refine List.nodup_append'.2 ⟨ih h hstrict.1, (nodup_lasts h).product (nodup_firsts h), ?_⟩
      rintro ⟨a, b⟩ hab hseam
      obtain ⟨ha, hb⟩ := List.mem_product.1 hseam
      have hnull := nullable_of_mem_follows (e := x) h hab ha hb
      rw [hnull] at hstrict
      exact Bool.noConfusion hstrict.2
  | capture n x ih => exact ih h hstrict

end Expr

/-! ## Edges by their ends -/

namespace Graph

variable {α : Type u} {g : Graph α} {e : Expr α} {p q : NodeId}

/-- The ends of all edges. -/
def arrows (g : Graph α) : List (NodeId × NodeId) :=
  g.successors.toList.zipIdx.flatMap fun (edges, p) => edges.map fun edge => (p, edge.target)

lemma length_arrows (g : Graph α) : g.arrows.length = g.edgeCount := by
  have hfst : (fun s : List Edge × NodeId => s.1.length) = List.length ∘ Prod.fst := rfl
  simp only [arrows, edgeCount, List.length_flatMap, List.length_map]
  rw [hfst, ← List.map_map, List.zipIdx_map_fst, List.sum]

lemma mem_arrows : (p, q) ∈ g.arrows ↔ g.Leads p q := by
  simp only [arrows, List.mem_flatMap, List.mem_map, Prod.exists, List.mk_mem_zipIdx_iff_getElem?,
    Array.getElem?_toList, Prod.mk.injEq, Leads, edgesFrom]
  constructor
  · rintro ⟨edges, _, hedges, ⟨_, a⟩, ha, rfl, rfl⟩
    rw [hedges]
    exact ⟨a, ha⟩
  · rintro ⟨a, ha⟩
    cases hedges : g.successors[p]? with
    | none =>
        rw [hedges] at ha
        exact absurd ha List.not_mem_nil
    | some edges =>
        rw [hedges] at ha
        exact ⟨edges, p, hedges, ⟨q, a⟩, ha, rfl, rfl⟩

/-- In the graph of a strict pattern, the ends of edges are different. -/
lemma nodup_arrows (h : e.strict = true) : (ofExpr e).arrows.Nodup := by
  refine List.nodup_flatMap.2 ⟨?_, ?_⟩
  · rintro ⟨edges, p⟩ hp
    have hedges : (ofExpr e).edgesFrom p = edges := by
      rw [edgesFrom, ← Array.getElem?_toList, List.mk_mem_zipIdx_iff_getElem?.1 hp]
      rfl
    rw [← hedges]
    refine (nodup_edgesFrom_ofExpr e p).map_on ?_
    rintro ⟨q, a⟩ ha ⟨_, b⟩ hb heq
    obtain ⟨_, rfl⟩ := Prod.mk.inj heq
    rw [eq_of_mem_edgesFrom h ha hb]
  · have hnumbers : ((ofExpr e).successors.toList.zipIdx.map Prod.snd).Nodup := by
      rw [List.zipIdx_map_snd]
      exact List.nodup_range'
    refine (List.pairwise_map.1 hnumbers).imp ?_
    rintro ⟨edges, p⟩ ⟨edges', p'⟩ hne ⟨i, j⟩ hij hij'
    obtain ⟨_, _, heq⟩ := List.mem_map.1 hij
    obtain ⟨_, _, heq'⟩ := List.mem_map.1 hij'
    exact hne ((Prod.mk.inj heq).1.trans (Prod.mk.inj heq').1.symm)

end Graph

/-! ## Edges by the operators -/

namespace Expr

variable {α : Type u}

/-- The ends of the edges that the operators call for. -/
def joints (e : Expr α) : List (NodeId × NodeId) :=
  (e.numbered.firsts.map fun k => (NodeId.initial, e.leafNode k)) ++
    (e.numbered.lasts.map fun k => (e.leafNode k, NodeId.terminal)) ++
    (e.numbered.follows.map fun p => (e.leafNode p.1, e.leafNode p.2)) ++
    if e.nullable then [(NodeId.initial, NodeId.terminal)] else []

variable {e : Expr α}

lemma length_joints (e : Expr α) : e.joints.length =
    e.firsts.length + e.lasts.length + e.follows.length + if e.nullable then 1 else 0 := by
  have hfst : e = e.indexed.map Prod.fst := e.map_fst_indexed.symm
  have hfirsts : e.numbered.firsts.length = e.firsts.length := by
    rw [numbered, firsts_map, List.length_map, ← List.length_map Prod.fst, ← firsts_map, ← hfst]
  have hlasts : e.numbered.lasts.length = e.lasts.length := by
    rw [numbered, lasts_map, List.length_map, ← List.length_map Prod.fst, ← lasts_map, ← hfst]
  have hfollows : e.numbered.follows.length = e.follows.length := by
    rw [numbered, follows_map, List.length_map, ← List.length_map (Prod.map Prod.fst Prod.fst),
      ← follows_map, ← hfst]
  rw [joints, List.length_append, List.length_append, List.length_append, List.length_map,
    List.length_map, List.length_map, hfirsts, hlasts, hfollows]
  split_ifs <;> rfl

lemma mem_joints {p q : NodeId} : (p, q) ∈ e.joints ↔ (Graph.ofExpr e).Leads p q := by
  have hfirst : ∀ {k}, k ∈ e.numbered.firsts → k < e.leafCount := fun h =>
    mem_leaves_numbered_iff.1 (mem_leaves_of_mem_firsts h)
  have hlast : ∀ {k}, k ∈ e.numbered.lasts → k < e.leafCount := fun h =>
    mem_leaves_numbered_iff.1 (mem_leaves_of_mem_lasts h)
  simp only [joints, List.mem_append, List.mem_map, List.mem_ite_nil_right, List.mem_singleton,
    Prod.mk.injEq, Prod.exists]
  constructor
  · rintro (((⟨k, hk, rfl, rfl⟩ | ⟨k, hk, rfl, rfl⟩) | ⟨j, k, hjk, rfl, rfl⟩) | ⟨hnull, rfl, rfl⟩)
    · exact (Graph.leads_initial_iff e (hfirst hk)).2 hk
    · exact (Graph.leads_terminal_iff e (hlast hk)).2 hk
    · obtain ⟨hj, hk⟩ := mem_leaves_of_mem_follows hjk
      exact (Graph.leads_leaf_iff e (mem_leaves_numbered_iff.1 hj)
        (mem_leaves_numbered_iff.1 hk)).2 hjk
    · exact (Graph.leads_initial_terminal_iff e).2 hnull
  · intro h
    rcases Graph.Leads.ends e h with ⟨rfl | ⟨j, hj, rfl⟩, rfl | ⟨k, hk, rfl⟩⟩
    · exact Or.inr ⟨(Graph.leads_initial_terminal_iff e).1 h, rfl, rfl⟩
    · exact Or.inl (Or.inl (Or.inl ⟨k, (Graph.leads_initial_iff e hk).1 h, rfl, rfl⟩))
    · exact Or.inl (Or.inl (Or.inr ⟨j, (Graph.leads_terminal_iff e hj).1 h, rfl, rfl⟩))
    · exact Or.inl (Or.inr ⟨j, k, (Graph.leads_leaf_iff e hj hk).1 h, rfl, rfl⟩)

/-- Each edge is called for once. -/
lemma nodup_joints (h : e.strict = true) : e.joints.Nodup := by
  have hnodup := nodup_leaves_numbered e
  have hinj : ∀ {j k}, j ∈ e.numbered.leaves → k ∈ e.numbered.leaves →
      e.leafNode j = e.leafNode k → j = k := fun hj hk heq =>
    Graph.injOn_leafNode e (mem_leaves_numbered_iff.1 hj) (mem_leaves_numbered_iff.1 hk) heq
  have hinitial : ∀ {k}, k ∈ e.numbered.leaves → e.leafNode k ≠ NodeId.initial := fun hk =>
    (Graph.mapsTo_leafNode e (mem_leaves_numbered_iff.1 hk)).2.1
  have hterminal : ∀ {k}, k ∈ e.numbered.leaves → e.leafNode k ≠ NodeId.terminal := fun hk =>
    (Graph.mapsTo_leafNode e (mem_leaves_numbered_iff.1 hk)).2.2
  have hfirsts : (e.numbered.firsts.map fun k => (NodeId.initial, e.leafNode k)).Nodup :=
    (nodup_firsts hnodup).map_on fun j hj k hk heq =>
      hinj (mem_leaves_of_mem_firsts hj) (mem_leaves_of_mem_firsts hk) (Prod.mk.inj heq).2
  have hlasts : (e.numbered.lasts.map fun k => (e.leafNode k, NodeId.terminal)).Nodup :=
    (nodup_lasts hnodup).map_on fun j hj k hk heq =>
      hinj (mem_leaves_of_mem_lasts hj) (mem_leaves_of_mem_lasts hk) (Prod.mk.inj heq).1
  have hfollows : (e.numbered.follows.map fun p => (e.leafNode p.1, e.leafNode p.2)).Nodup := by
    refine (nodup_follows hnodup (by rwa [strict_numbered])).map_on ?_
    rintro ⟨j, k⟩ hjk ⟨j', k'⟩ hjk' heq
    obtain ⟨hj, hk⟩ := mem_leaves_of_mem_follows hjk
    obtain ⟨hj', hk'⟩ := mem_leaves_of_mem_follows hjk'
    exact Prod.ext (hinj hj hj' (Prod.mk.inj heq).1) (hinj hk hk' (Prod.mk.inj heq).2)
  have hnull : (if e.nullable then [(NodeId.initial, NodeId.terminal)] else []).Nodup := by
    split_ifs
    · exact List.nodup_singleton _
    · exact List.nodup_nil
  -- An edge leaves the initial node, enters the terminal node, does both, or does neither.
  refine List.nodup_append'.2 ⟨List.nodup_append'.2 ⟨List.nodup_append'.2 ⟨hfirsts, hlasts, ?_⟩,
    hfollows, ?_⟩, hnull, ?_⟩
  · rintro ⟨p, q⟩ hfirst hlast
    simp only [List.mem_map, Prod.mk.injEq] at hfirst hlast
    obtain ⟨k, hk, _, rfl⟩ := hfirst
    obtain ⟨_, _, _, hq⟩ := hlast
    exact hterminal (mem_leaves_of_mem_firsts hk) hq.symm
  · rintro ⟨p, q⟩ hend hfollow
    simp only [List.mem_append, List.mem_map, Prod.mk.injEq, Prod.exists] at hend hfollow
    obtain ⟨j, k, hjk, rfl, rfl⟩ := hfollow
    obtain ⟨hj, hk⟩ := mem_leaves_of_mem_follows hjk
    rcases hend with ⟨_, _, hp, _⟩ | ⟨_, _, _, hq⟩
    · exact hinitial hj hp.symm
    · exact hterminal hk hq.symm
  · rintro ⟨p, q⟩ hend hboth
    simp only [List.mem_append, List.mem_map, List.mem_ite_nil_right, List.mem_singleton,
      Prod.mk.injEq, Prod.exists] at hend hboth
    obtain ⟨_, rfl, rfl⟩ := hboth
    rcases hend with (⟨k, hk, _, hq⟩ | ⟨k, hk, hp, _⟩) | ⟨j, k, hjk, hp, _⟩
    · exact hterminal (mem_leaves_of_mem_firsts hk) hq
    · exact hinitial (mem_leaves_of_mem_lasts hk) hp
    · exact hinitial (mem_leaves_of_mem_follows hjk).1 hp

end Expr

/-- **The size of a graph.**  The graph of a strict pattern has an edge for every first and last leaf,
for every pair of neighbours, and for the empty sequence. -/
theorem Graph.edgeCount_ofExpr {α : Type u} {e : Expr α} (h : e.strict = true) :
    (ofExpr e).edgeCount = e.firsts.length + e.lasts.length + e.follows.length +
      if e.nullable then 1 else 0 := by
  have hperm : (ofExpr e).arrows.Perm e.joints :=
    (List.perm_ext_iff_of_nodup (nodup_arrows h) (Expr.nodup_joints h)).2 fun ⟨p, q⟩ =>
      mem_arrows.trans Expr.mem_joints.symm
  rw [← length_arrows, hperm.length_eq, Expr.length_joints]

end TokenPattern
