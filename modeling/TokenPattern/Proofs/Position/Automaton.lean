import Mathlib.Data.Set.Function
import TokenPattern.Proofs.Derivations
import TokenPattern.Proofs.Position.Neighbours

/-!
# The graph of a pattern is its position automaton

Rewriting moves links about many times over.  What comes out in the end can be said without it: the
nodes are the leaves of the pattern between the two sentinels, and edges lead where the operators let
leaves follow each other (`ofExpr_positions`).

**Numbers.**  A leaf is told from others like it by its number, counted from left to right.
`Expr.numbered` has the numbers in place of the leaves, and `Expr.leafNode` gives the node of a number
(`bijOn_leafNode`).

**Every edge is of use.**  The proof does not follow the links through the rewrites.  It needs that
every leaf is on a route that is accepted (`exists_route_through`).  So every edge is on such a route,
and the words of these routes are those of the pattern.  Only the edges into the initial node and out
of the terminal one are on no route; that there are none is kept by every rewrite
(`Net.Rewrites.not_link_to`, `Net.Rewrites.not_link_from`).
-/

namespace TokenPattern

universe u v

/-! ## Numbers of leaves -/

namespace Expr

variable {α : Type u} {β : Type v}

/-- The pattern with the numbers of its leaves, from left to right, in their place. -/
def numbered (e : Expr α) : Expr Nat := e.indexed.map Prod.snd

lemma leaves_map (f : α → β) (e : Expr α) : (e.map f).leaves = e.leaves.map f := by
  induction e with
  | leaf m => rfl
  | concat l r ihl ihr => rw [map, leaves, leaves, ihl, ihr, List.map_append]
  | alt l r ihl ihr => rw [map, leaves, leaves, ihl, ihr, List.map_append]
  | maybe x ih => exact ih
  | star x ih => exact ih
  | capture n x ih => exact ih

lemma leaves_numbered (e : Expr α) : e.numbered.leaves = List.range e.leafCount := by
  rw [numbered, leaves_map, indexed, leaves_indexFrom, List.zipIdx_map_snd, length_leaves,
    List.range_eq_range']

lemma mem_leaves_numbered_iff {e : Expr α} {k : Nat} : k ∈ e.numbered.leaves ↔ k < e.leafCount := by
  rw [leaves_numbered, List.mem_range]

lemma nodup_leaves_numbered (e : Expr α) : e.numbered.leaves.Nodup := by
  rw [leaves_numbered]
  exact List.nodup_range

end Expr

namespace Graph

variable {α : Type u} (e : Expr α)

lemma ofExpr_numbered : ofExpr e.numbered = (ofExpr e.indexed).map Prod.snd := ofExpr_map _ _

/-- Numbering the leaves leaves the edges as they are. -/
lemma edgesFrom_numbered (n : NodeId) :
    (ofExpr e.numbered).edgesFrom n = (ofExpr e).edgesFrom n := by
  have hfst : ofExpr e = (ofExpr e.indexed).map Prod.fst := by
    rw [← ofExpr_map, Expr.map_fst_indexed]
  rw [ofExpr_numbered, hfst, edgesFrom_map, edgesFrom_map]

lemma matcher?_numbered_iff {n : NodeId} {k : Nat} :
    (ofExpr e.numbered).matcher? n = some k ↔ k < e.leafCount ∧ n = e.leafNode k := by
  rw [ofExpr_numbered, matcher?_map, Option.map_eq_some_iff, ← Expr.length_leaves]
  constructor
  · rintro ⟨⟨m, k⟩, h, rfl⟩
    obtain ⟨hk, hn⟩ := (matcher?_ofExpr_indexed e n m k).mp h
    exact ⟨(List.getElem?_eq_some_iff.mp hk).1, hn⟩
  · rintro ⟨hk, hn⟩
    exact ⟨(e.leaves[k], k),
      (matcher?_ofExpr_indexed e n _ k).mpr ⟨List.getElem?_eq_getElem hk, hn⟩, rfl⟩

/-- There are the two sentinels, and a node for every leaf. -/
lemma nodeCount_ofExpr : (ofExpr e).nodeCount = 2 + e.leafCount := by
  obtain ⟨hc, _, hleaves⟩ := Draft.drain_start e
  have hlen := (Expr.perm_nodeOrder e).length_eq
  rw [Expr.length_leaves] at hlen
  simp only [nodeCount, ofExpr, Draft.freeze, Draft.nodes_eq hc, hleaves, List.size_toArray,
    List.length_cons, List.length_map, hlen]
  omega

/-- Every leaf has the matcher that stands in the pattern. -/
lemma matcher?_leafNode {k : Nat} (hk : k < e.leafCount) :
    (ofExpr e).matcher? (e.leafNode k) = e.leaves[k]? := by
  have hk' : k < e.leaves.length := by rwa [Expr.length_leaves]
  have hfst : ofExpr e = (ofExpr e.indexed).map Prod.fst := by
    rw [← ofExpr_map, Expr.map_fst_indexed]
  have hget : e.leaves[k]? = some e.leaves[k] := List.getElem?_eq_getElem hk'
  rw [hfst, matcher?_map, (matcher?_ofExpr_indexed e _ _ k).mpr ⟨hget, rfl⟩, hget]
  rfl

lemma lt_nodeCount {g : Graph α} {n : NodeId} {m : α} (h : g.matcher? n = some m) :
    n < g.nodeCount := by
  obtain ⟨node, hnode, _⟩ := Option.bind_eq_some_iff.mp h
  exact (Array.getElem?_eq_some_iff.mp hnode).1

lemma nodeCount_numbered : (ofExpr e.numbered).nodeCount = (ofExpr e).nodeCount := by
  have hleaves := congrArg List.length (Expr.leaves_numbered e)
  rw [Expr.length_leaves, List.length_range] at hleaves
  rw [nodeCount_ofExpr, nodeCount_ofExpr, hleaves]

lemma mapsTo_leafNode : Set.MapsTo e.leafNode {k | k < e.leafCount}
    {n | n < (ofExpr e).nodeCount ∧ n ≠ NodeId.initial ∧ n ≠ NodeId.terminal} := by
  intro k hk
  have hlt := lt_nodeCount ((matcher?_numbered_iff e).mpr ⟨hk, rfl⟩)
  rw [nodeCount_numbered] at hlt
  exact ⟨hlt, Nat.ne_of_gt (Nat.succ_pos _), Nat.ne_of_gt (Nat.le_add_left 2 _)⟩

lemma injOn_leafNode : Set.InjOn e.leafNode {k | k < e.leafCount} := by
  intro j hj k hk heq
  have hj' := (matcher?_numbered_iff e).mpr ⟨hj, rfl⟩
  rw [heq, (matcher?_numbered_iff e).mpr ⟨hk, rfl⟩] at hj'
  exact (Option.some.inj hj').symm

lemma exists_eq_leafNode {n : Nat} (hn : n < (ofExpr e).nodeCount) (h0 : n ≠ NodeId.initial)
    (h1 : n ≠ NodeId.terminal) : ∃ k < e.leafCount, n = e.leafNode k := by
  have h2 : 2 ≤ n := (Nat.two_le_iff n).mpr ⟨h0, h1⟩
  obtain ⟨n, rfl⟩ := Nat.exists_eq_add_of_le' h2
  have hlen : n < e.numbered.nodeOrder.length := by
    rw [(Expr.perm_nodeOrder _).length_eq, Expr.leaves_numbered, List.length_range]
    rw [nodeCount_ofExpr] at hn
    omega
  have hnode : (ofExpr e.numbered).matcher? (n + 2) = some e.numbered.nodeOrder[n] := by
    rw [matcher?_ofExpr, List.getElem?_eq_getElem hlen]
  exact ⟨_, (matcher?_numbered_iff e).mp hnode⟩

/-- **Numbers and nodes.**  The leaves by their numbers are the nodes without the sentinels. -/
lemma bijOn_leafNode : Set.BijOn e.leafNode {k | k < e.leafCount}
    {n | n < (ofExpr e).nodeCount ∧ n ≠ NodeId.initial ∧ n ≠ NodeId.terminal} := by
  refine ⟨mapsTo_leafNode e, injOn_leafNode e, ?_⟩
  rintro n ⟨hn, h0, h1⟩
  obtain ⟨k, hk, rfl⟩ := exists_eq_leafNode e hn h0 h1
  exact ⟨k, hk, rfl⟩

end Graph

/-! ## Sentinels have edges on one side only -/

namespace Net

variable {α : Type u} {σ : Type v} {mark : Marker → List σ} {G G' : Net α σ} {x x' : Nat}

/-- Where no link leads, none ever will. -/
lemma Rewrites.not_link_to (h : Rewrites mark G x G' x') {s : Nat} (hs : s < x)
    (hno : ∀ p a, ¬ G.link p a s) (p : Nat) (a : List σ) : ¬ G'.link p a s := by
  induction h generalizing p a with
  | refl => exact hno p a
  | step hu _ _ ih =>
      have hsx := Nat.lt_of_lt_of_le hs hu.le
      intro hl
      generalize ht : s = t at hl
      cases hl with
      | kept hl _ _ => exact ih _ _ (ht ▸ hl)
      | enter _ _ _ => omega
      | leave hl _ _ => exact ih _ _ (ht ▸ hl)
      | again _ _ _ => omega
      | inner _ => omega
      | past _ _ _ hl _ => exact ih _ _ (ht ▸ hl)

/-- Where no link begins, none ever will. -/
lemma Rewrites.not_link_from (h : Rewrites mark G x G' x') {p : Nat} (hp : p < x)
    (hno : ∀ s a, ¬ G.link p a s) (s : Nat) (a : List σ) : ¬ G'.link p a s := by
  induction h generalizing s a with
  | refl => exact hno s a
  | step hu _ _ ih =>
      have hpx := Nat.lt_of_lt_of_le hp hu.le
      intro hl
      generalize hq : p = q at hl
      cases hl with
      | kept hl _ _ => exact ih _ _ (hq ▸ hl)
      | enter hl _ _ => exact ih _ _ (hq ▸ hl)
      | leave _ _ _ => omega
      | again _ _ _ => omega
      | inner _ => omega
      | past _ hl _ _ _ => exact ih _ _ (hq ▸ hl)

end Net

namespace Graph

variable {α : Type u} (e : Expr α)

/-- Whether an edge leads from a node to another. -/
def Leads (g : Graph α) (p q : NodeId) : Prop := ∃ a, (⟨q, a⟩ : Edge) ∈ g.edgesFrom p

lemma leads_numbered {p q : NodeId} :
    (ofExpr e.numbered).Leads p q ↔ (ofExpr e).Leads p q := by
  rw [Leads, edgesFrom_numbered, Leads]

/-- Edges begin at the initial node and at leaves, and end at leaves and at the terminal node. -/
lemma Leads.ends {p q : NodeId} (h : (ofExpr e).Leads p q) :
    (p = NodeId.initial ∨ ∃ k < e.leafCount, p = e.leafNode k) ∧
      (q = NodeId.terminal ∨ ∃ k < e.leafCount, q = e.leafNode k) := by
  obtain ⟨a, ha⟩ := h
  obtain ⟨hc, hp, _⟩ := Draft.drain_start e
  obtain ⟨i, j, hi, hj, hl⟩ := (Draft.renames_freeze hc hp).link.mp ha
  obtain ⟨x', hu, _⟩ := Draft.exists_unfolds (Draft.consistent_start e)
  rw [Draft.slots_start, show #[Slot.sentinel, .sentinel, .ofExpr e].size = 3 from rfl] at hu
  have hzero := Draft.number_of_lt_two hc (i := 0) (by decide)
  have hone := Draft.number_of_lt_two hc (i := 1) (by decide)
  have hnode : ∀ n, n < (ofExpr e).nodeCount → n = NodeId.initial ∨ n = NodeId.terminal ∨
      ∃ k < e.leafCount, n = e.leafNode k := by
    intro n hn
    by_cases h0 : n = NodeId.initial
    · exact Or.inl h0
    · by_cases h1 : n = NodeId.terminal
      · exact Or.inr (Or.inl h1)
      · exact Or.inr (Or.inr (exists_eq_leafNode e hn h0 h1))
  have hinitial : q ≠ NodeId.initial := by
    rintro rfl
    obtain rfl := Draft.number_inj hj hzero
    refine hu.rewrites.not_link_to (by decide) (fun p' a' hl' => ?_) _ _ hl
    rcases (Draft.link_start e p' 0 a').mp hl' with h | h <;> exact absurd h.2.1 (by decide)
  have hterminal : p ≠ NodeId.terminal := by
    rintro rfl
    obtain rfl := Draft.number_inj hi hone
    refine hu.rewrites.not_link_from (by decide) (fun s' a' hl' => ?_) _ _ hl
    rcases (Draft.link_start e 1 s' a').mp hl' with h | h <;> exact absurd h.1 (by decide)
  have hsize : ∀ {i n : Nat}, (Draft.start e).drain.number i = some n →
      n < (ofExpr e).nodeCount := fun h => by
    have hlt := Draft.number_lt h
    rwa [← List.size_toArray] at hlt
  exact ⟨(hnode p (hsize hi)).imp_right fun h => h.resolve_left hterminal,
    (hnode q (hsize hj)).resolve_left hinitial⟩

/-! ## Every edge is on an accepted route -/

/-- The words of a pattern are those of the accepted routes of its graph. -/
lemma mem_words_iff_exists_route {u : List α} : u ∈ e.words ↔ ∃ r,
    (ofExpr e).IsRoute NodeId.initial r ∧
      (ofExpr e).Leads (routeEnd NodeId.initial r) NodeId.terminal ∧ r.map Prod.snd = u := by
  have hforget : ∀ (r : List (Move α)) (a : List Marker),
      (spell (Move.items r) ++ a.map Sum.inl).flatMap Marker.forget = r.map Prod.snd := by
    intro r a
    rw [forget_spell, Move.items, List.map_map]
    rfl
  rw [mem_words_iff]
  constructor
  · rintro ⟨t, ht, rfl⟩
    obtain ⟨r, a, hr, ha, rfl⟩ := mem_markedWords_iff.mp ht
    exact ⟨r, hr, ⟨a, ha⟩, (hforget r a).symm⟩
  · rintro ⟨r, hr, ⟨a, ha⟩, rfl⟩
    exact ⟨_, mem_markedWords_iff.mpr ⟨r, a, hr, ha, rfl⟩, hforget r a⟩

/-- A step of the numbered graph to leaf `k` leads to its node. -/
lemma mem_moves_numbered_iff {p q : NodeId} {a : List Marker} {k : Nat} :
    ((⟨q, a⟩ : Edge), k) ∈ (ofExpr e.numbered).moves p ↔
      (⟨q, a⟩ : Edge) ∈ (ofExpr e).edgesFrom p ∧ k < e.leafCount ∧ q = e.leafNode k := by
  rw [mem_moves, edgesFrom_numbered, matcher?_numbered_iff]

/-- Some accepted route comes through a given leaf. -/
lemma exists_route_through {k : Nat} (hk : k < e.leafCount) : ∃ r a r',
    (ofExpr e.numbered).IsRoute NodeId.initial (r ++ [(⟨e.leafNode k, a⟩, k)]) ∧
      (ofExpr e.numbered).IsRoute (e.leafNode k) r' ∧
      (ofExpr e).Leads (routeEnd (e.leafNode k) r') NodeId.terminal := by
  have hmem : k ∈ e.numbered.leaves := Expr.mem_leaves_numbered_iff.mpr hk
  obtain ⟨w, hw, hkw⟩ := Expr.exists_word_of_mem_leaves hmem
  obtain ⟨route, hroute, hend, rfl⟩ := (mem_words_iff_exists_route _).mp hw
  obtain ⟨⟨⟨q, a⟩, k⟩, hm, rfl⟩ := List.mem_map.mp hkw
  obtain ⟨r, r', rfl⟩ := List.append_of_mem hm
  rw [← List.singleton_append, ← List.append_assoc] at hroute hend
  obtain ⟨hto, hfrom⟩ := isRoute_append.mp hroute
  rw [routeEnd_append_singleton] at hfrom
  rw [routeEnd_append, routeEnd_append_singleton, leads_numbered] at hend
  obtain ⟨_, _, rfl⟩ := (mem_moves_numbered_iff e).mp (isRoute_append_singleton.mp hto).2
  exact ⟨r, a, r', hto, hfrom, hend⟩

lemma exists_route_to {p : NodeId}
    (hp : p = NodeId.initial ∨ ∃ k < e.leafCount, p = e.leafNode k) :
    ∃ r, (ofExpr e.numbered).IsRoute NodeId.initial r ∧ routeEnd NodeId.initial r = p := by
  rcases hp with rfl | ⟨k, hk, rfl⟩
  · exact ⟨[], trivial, rfl⟩
  · obtain ⟨r, a, _, hr, _⟩ := exists_route_through e hk
    exact ⟨_, hr, routeEnd_append_singleton⟩

/-! ## Neighbours and edges -/

lemma leads_initial_iff {k : Nat} (hk : k < e.leafCount) :
    (ofExpr e).Leads NodeId.initial (e.leafNode k) ↔ k ∈ e.numbered.firsts := by
  rw [Expr.mem_firsts_iff]
  constructor
  · rintro ⟨a, ha⟩
    obtain ⟨_, _, r, _, hr, hend⟩ := exists_route_through e hk
    have hstep := (mem_moves_numbered_iff e).mpr ⟨ha, hk, rfl⟩
    refine ⟨k :: r.map Prod.snd, (mem_words_iff_exists_route _).mpr
      ⟨(⟨e.leafNode k, a⟩, k) :: r, ⟨hstep, hr⟩, (leads_numbered e).mpr hend, rfl⟩, ?_⟩
    exact List.prefix_append [k] _
  · rintro ⟨w, hw, v, rfl⟩
    obtain ⟨r, hr, _, heq⟩ := (mem_words_iff_exists_route _).mp hw
    obtain ⟨⟨⟨q, a⟩, _⟩, r, rfl, rfl, _⟩ := List.map_eq_cons_iff.mp heq
    obtain ⟨ha, _, rfl⟩ := (mem_moves_numbered_iff e).mp hr.1
    exact ⟨a, ha⟩

lemma leads_terminal_iff {k : Nat} (hk : k < e.leafCount) :
    (ofExpr e).Leads (e.leafNode k) NodeId.terminal ↔ k ∈ e.numbered.lasts := by
  rw [Expr.mem_lasts_iff]
  constructor
  · intro hend
    obtain ⟨r, a, _, hr, _⟩ := exists_route_through e hk
    refine ⟨r.map Prod.snd ++ [k], (mem_words_iff_exists_route _).mpr ⟨_, hr, ?_, by simp⟩,
      List.suffix_append _ _⟩
    rw [routeEnd_append_singleton]
    exact (leads_numbered e).mpr hend
  · rintro ⟨w, hw, v, rfl⟩
    obtain ⟨route, hr, hend, heq⟩ := (mem_words_iff_exists_route _).mp hw
    obtain ⟨r, r', rfl, rfl, hlast⟩ := List.map_eq_append_iff.mp heq
    obtain ⟨⟨⟨q, a⟩, _⟩, rfl, rfl⟩ := List.map_eq_singleton_iff.mp hlast
    obtain ⟨_, _, rfl⟩ := (mem_moves_numbered_iff e).mp (isRoute_append_singleton.mp hr).2
    rw [routeEnd_append_singleton] at hend
    exact (leads_numbered e).mp hend

lemma leads_leaf_iff {j k : Nat} (hj : j < e.leafCount) (hk : k < e.leafCount) :
    (ofExpr e).Leads (e.leafNode j) (e.leafNode k) ↔ (j, k) ∈ e.numbered.follows := by
  rw [Expr.mem_follows_iff]
  constructor
  · rintro ⟨b, hb⟩
    obtain ⟨r, a, _, hr, _⟩ := exists_route_through e hj
    obtain ⟨_, _, r', _, hr', hend⟩ := exists_route_through e hk
    have hstep := (mem_moves_numbered_iff e).mpr ⟨hb, hk, rfl⟩
    refine ⟨(r.map Prod.snd ++ [j]) ++ k :: r'.map Prod.snd, (mem_words_iff_exists_route _).mpr
      ⟨(r ++ [(⟨e.leafNode j, a⟩, j)]) ++ (⟨e.leafNode k, b⟩, k) :: r', ?_, ?_, by simp⟩, ?_⟩
    · refine isRoute_append.mpr ⟨hr, ?_⟩
      rw [routeEnd_append_singleton]
      exact ⟨hstep, hr'⟩
    · rw [routeEnd_append]
      exact (leads_numbered e).mpr hend
    · exact ⟨r.map Prod.snd, r'.map Prod.snd, by simp⟩
  · rintro ⟨w, hw, u, v, rfl⟩
    obtain ⟨route, hr, _, heq⟩ := (mem_words_iff_exists_route _).mp hw
    rw [List.append_assoc] at heq
    obtain ⟨r, rest, rfl, rfl, hpair⟩ := List.map_eq_append_iff.mp heq
    obtain ⟨⟨⟨p, a⟩, _⟩, rest, rfl, rfl, hsecond⟩ := List.map_eq_cons_iff.mp hpair
    obtain ⟨⟨⟨q, b⟩, _⟩, rest, rfl, rfl, _⟩ := List.map_eq_cons_iff.mp hsecond
    obtain ⟨hto, hon, _⟩ := (isRoute_append.mp hr).2
    obtain ⟨_, _, rfl⟩ := (mem_moves_numbered_iff e).mp hto
    obtain ⟨hb, _, rfl⟩ := (mem_moves_numbered_iff e).mp hon
    exact ⟨b, hb⟩

lemma leads_initial_terminal_iff :
    (ofExpr e).Leads NodeId.initial NodeId.terminal ↔ e.nullable = true := by
  rw [Expr.nullable_iff_nil_mem_words, mem_words_iff_exists_route]
  constructor
  · exact fun h => ⟨[], trivial, h, rfl⟩
  · rintro ⟨r, _, hend, heq⟩
    obtain rfl := List.map_eq_nil_iff.mp heq
    exact hend

end Graph

/-! ## Patterns without groups -/

namespace Expr

variable {α : Type u} {β : Type v}

/-- Whether there is no capture in a pattern. -/
def captureFree : Expr α → Bool
  | leaf _ => true
  | concat l r | alt l r => l.captureFree && r.captureFree
  | maybe x | star x => x.captureFree
  | capture _ _ => false

lemma captureFree_map (f : α → β) (e : Expr α) : (e.map f).captureFree = e.captureFree := by
  induction e with
  | leaf m => rfl
  | concat l r ihl ihr => rw [map, captureFree, captureFree, ihl, ihr]
  | alt l r ihl ihr => rw [map, captureFree, captureFree, ihl, ihr]
  | maybe x ih => exact ih
  | star x ih => exact ih
  | capture n x ih => rfl

lemma captureFree_numbered (e : Expr α) : e.numbered.captureFree = e.captureFree := by
  rw [numbered, captureFree_map, ← captureFree_map Prod.fst e.indexed, map_fst_indexed]

/-- The derivations of a pattern without captures cross no boundaries. -/
lemma letters_eq_nil {e : Expr α} (h : e.captureFree = true) {t : List (Marker ⊕ α)}
    (ht : t ∈ e.derivations) : letters t = [] := by
  induction e generalizing t with
  | leaf m =>
      obtain rfl := ht
      rfl
  | concat l r ihl ihr =>
      obtain ⟨hl, hr⟩ := Bool.and_eq_true_iff.mp h
      obtain ⟨a, ha, b, hb, rfl⟩ := ht
      show letters (a ++ b) = []
      rw [letters_append, ihl hl ha, ihr hr hb, List.append_nil]
  | alt l r ihl ihr =>
      obtain ⟨hl, hr⟩ := Bool.and_eq_true_iff.mp h
      rcases ht with ht | ht
      · exact ihl hl ht
      · exact ihr hr ht
  | maybe x ih =>
      rcases ht with rfl | ht
      · rfl
      · exact ih h ht
  | star x ih =>
      obtain ⟨L, rfl, hL⟩ := Language.mem_kstar.mp ht
      rw [letters, List.filterMap_flatten, List.flatten_eq_nil_iff]
      intro z hz
      obtain ⟨y, hy, rfl⟩ := List.mem_map.mp hz
      exact ih h (hL y hy)
  | capture n x ih => exact absurd h Bool.false_ne_true

end Expr

namespace Graph

variable {α : Type u} (e : Expr α)

/-- Edges are crossed by accepted routes, so without captures they have no markers. -/
lemma markers_eq_nil (h : e.captureFree = true) {p : NodeId} {edge : Edge}
    (hedge : edge ∈ (ofExpr e).edgesFrom p) : edge.markers = [] := by
  obtain ⟨q, a⟩ := edge
  have hends := Leads.ends e ⟨a, hedge⟩
  obtain ⟨r, hr, rfl⟩ := exists_route_to e hends.1
  -- The markers of an accepted route are the letters of a derivation.
  have hroute : ∀ {route : List (Move Nat)} {b : List Marker},
      (ofExpr e.numbered).IsRoute NodeId.initial route →
      (⟨NodeId.terminal, b⟩ : Edge) ∈ (ofExpr e).edgesFrom (routeEnd NodeId.initial route) →
      ((Move.items route).map Prod.fst).flatten ++ b = [] := by
    intro route b hroute hb
    rw [← edgesFrom_numbered] at hb
    have hletters := Expr.letters_eq_nil ((Expr.captureFree_numbered e).trans h)
      (markedWords_ofExpr_le _ (mem_markedWords_iff.mpr ⟨route, b, hroute, hb, rfl⟩))
    rwa [letters_append, letters_map_inl, letters_spell] at hletters
  rcases hends.2 with rfl | ⟨k, hk, rfl⟩
  · exact (List.append_eq_nil_iff.mp (hroute hr hedge)).2
  · obtain ⟨_, _, r', _, hr', b, hb⟩ := exists_route_through e hk
    have hstep := (mem_moves_numbered_iff e).mpr ⟨hedge, hk, rfl⟩
    have hthrough : (ofExpr e.numbered).IsRoute NodeId.initial
        (r ++ (⟨e.leafNode k, a⟩, k) :: r') := isRoute_append.mpr ⟨hr, hstep, hr'⟩
    have hend : (⟨NodeId.terminal, b⟩ : Edge) ∈ (ofExpr e).edgesFrom
        (routeEnd NodeId.initial (r ++ (⟨e.leafNode k, a⟩, k) :: r')) := by
      rw [routeEnd_append]
      exact hb
    have hflat := (List.append_eq_nil_iff.mp (hroute hthrough hend)).1
    refine List.flatten_eq_nil_iff.mp hflat a ?_
    simp [Move.items]

lemma eq_singleton_of_nodup {β : Type*} {l : List β} {b : β} (hnodup : l.Nodup) (hb : b ∈ l)
    (hall : ∀ x ∈ l, x = b) : l = [b] := by
  obtain ⟨c, l, rfl⟩ := List.exists_cons_of_ne_nil (List.ne_nil_of_mem hb)
  obtain rfl := hall c List.mem_cons_self
  obtain ⟨hc, _⟩ := List.nodup_cons.mp hnodup
  have hnil : l = [] := List.eq_nil_iff_forall_not_mem.mpr fun x hx =>
    hc (hall x (List.mem_cons_of_mem c hx) ▸ hx)
  rw [hnil]

/-- Without captures there is at most one edge from a node to another. -/
lemma filter_edgesFrom (h : e.captureFree = true) {p q : NodeId} (hlead : (ofExpr e).Leads p q) :
    ((ofExpr e).edgesFrom p).filter (fun edge => edge.target = q) = [⟨q, []⟩] := by
  obtain ⟨a, ha⟩ := hlead
  obtain rfl : a = [] := markers_eq_nil e h ha
  refine eq_singleton_of_nodup ((nodup_edgesFrom_ofExpr e p).filter _) ?_ ?_
  · exact List.mem_filter.mpr ⟨ha, by simp⟩
  · rintro ⟨q', b⟩ hb
    obtain ⟨hb, htarget⟩ := List.mem_filter.mp hb
    obtain rfl : b = [] := markers_eq_nil e h hb
    obtain rfl : q' = q := by simpa using htarget
    rfl

/-! ## The position automaton -/

/-- **The graph of a pattern is its position automaton.**  Its nodes are the sentinels and, one for
each, the leaves.  From the initial node edges lead to the leaves that may be first, from a leaf to
those that may follow it, from those that may be last to the terminal node, and from the initial to the
terminal node if the pattern is nullable.  No edge enters the initial node or leaves the terminal one,
and none is there twice.  Without captures, there is one edge where edges lead, and it has no
markers. -/
theorem ofExpr_positions :
    (ofExpr e).nodeCount = 2 + e.leafCount ∧
      Set.BijOn e.leafNode {k | k < e.leafCount}
        {n | n < (ofExpr e).nodeCount ∧ n ≠ NodeId.initial ∧ n ≠ NodeId.terminal} ∧
      (∀ k < e.leafCount, (ofExpr e).matcher? (e.leafNode k) = e.leaves[k]?) ∧
      (∀ k < e.leafCount,
        ((ofExpr e).Leads NodeId.initial (e.leafNode k) ↔ k ∈ e.numbered.firsts)) ∧
      (∀ j < e.leafCount, ∀ k < e.leafCount,
        ((ofExpr e).Leads (e.leafNode j) (e.leafNode k) ↔ (j, k) ∈ e.numbered.follows)) ∧
      (∀ k < e.leafCount,
        ((ofExpr e).Leads (e.leafNode k) NodeId.terminal ↔ k ∈ e.numbered.lasts)) ∧
      ((ofExpr e).Leads NodeId.initial NodeId.terminal ↔ e.nullable = true) ∧
      (∀ n, ¬ (ofExpr e).Leads n NodeId.initial ∧ ¬ (ofExpr e).Leads NodeId.terminal n) ∧
      (∀ n, ((ofExpr e).edgesFrom n).Nodup) ∧
      (e.captureFree = true → ∀ p q, (ofExpr e).Leads p q →
        ((ofExpr e).edgesFrom p).filter (fun edge => edge.target = q) = [⟨q, []⟩]) := by
  have hleaf : ∀ k < e.leafCount, e.leafNode k ≠ NodeId.initial ∧ e.leafNode k ≠ NodeId.terminal :=
    fun k hk => (mapsTo_leafNode e hk).2
  have hinitial : ∀ n, ¬ (ofExpr e).Leads n NodeId.initial := by
    intro n h
    rcases (h.ends e).2 with h | ⟨k, hk, h⟩
    · exact absurd h (by decide)
    · exact (hleaf k hk).1 h.symm
  have hterminal : ∀ n, ¬ (ofExpr e).Leads NodeId.terminal n := by
    intro n h
    rcases (h.ends e).1 with h | ⟨k, hk, h⟩
    · exact absurd h (by decide)
    · exact (hleaf k hk).2 h.symm
  exact ⟨nodeCount_ofExpr e, bijOn_leafNode e, fun _ => matcher?_leafNode e,
    fun _ => leads_initial_iff e, fun _ hj _ => leads_leaf_iff e hj, fun _ => leads_terminal_iff e,
    leads_initial_terminal_iff e, fun n => ⟨hinitial n, hterminal n⟩, nodup_edgesFrom_ofExpr e,
    fun h _ _ => filter_edgesFrom e h⟩

/-- Rounds of an optional `a` and a `b`: after the `b`, on node 2, may come the `a` of the next round, on
node 3, over one edge without markers; after the `a` comes no other `a`. -/
theorem ofExpr_positions_rounds :
    (Expr.star (.concat (.maybe (.leaf 'a')) (.leaf 'b'))).captureFree = true ∧
      (ofExpr (.star (.concat (.maybe (.leaf 'a')) (.leaf 'b')))).Leads 2 3 ∧
      ((ofExpr (.star (.concat (.maybe (.leaf 'a')) (.leaf 'b')))).edgesFrom 2).filter
        (fun edge => edge.target = 3) = [⟨3, []⟩] ∧
      ¬ (ofExpr (.star (.concat (.maybe (.leaf 'a')) (.leaf 'b')))).Leads 3 3 := by
  obtain ⟨_, _, _, _, hfollows, _, _, _, _, hfree⟩ :=
    ofExpr_positions (.star (.concat (.maybe (.leaf 'a')) (.leaf 'b')))
  have hlead : (ofExpr (.star (.concat (.maybe (.leaf 'a')) (.leaf 'b')))).Leads 2 3 :=
    (hfollows 1 (by decide) 0 (by decide)).mpr (by decide)
  refine ⟨rfl, hlead, hfree rfl 2 3 hlead, fun h => ?_⟩
  exact absurd ((hfollows 0 (by decide) 0 (by decide)).mp h) (by decide)

end Graph

end TokenPattern
