import TokenPattern.Proofs.Graph.Routes

/-!
# The arrows of a graph

An arrow is an edge with what stands at its ends in place of their numbers.  If no two nodes are the
same, the nodes can be told from what stands there, and the set of arrows is the graph up to the
numbers of its nodes.

**Arrows and words.**  The arrows on the way along a word can be read off the word
(`Node.arrowsAlong`).  All of them are arrows of the graph that has the word.  There are no others
if every edge is on the way along some word, as it is when every leaf is, and no edge leads to the
initial node or from the terminal one (`Graph.Trim`).  So a trim graph is determined by its words
(`Graph.Trim.arrowSet_eq`).
-/

namespace TokenPattern

universe u

variable {α : Type u}

/-- What stands at the source of an edge, the boundaries on it, and what stands at its target. -/
abbrev Arrow (α : Type u) := Node α × List Marker × Node α

/-- The arrows on the way from a node along a sequence of leaves, with boundaries in front of each and
at the end. -/
def Node.arrowsAlong : Node α → List (List Marker × α) → List Marker → List (Arrow α)
  | x, [], a => [(x, a, .terminal)]
  | x, (b, l) :: s, a => (x, b, leaf l) :: arrowsAlong (leaf l) s a

namespace Graph

/-- The edges of a graph with what stands at their ends. -/
def arrowSet (g : Graph α) : Set (Arrow α) :=
  {x | ∃ p q, g.nodes[p]? = some x.1 ∧ g.nodes[q]? = some x.2.2 ∧
    (⟨q, x.2.1⟩ : Edge) ∈ g.edgesFrom p}

/-- The arrows on the ways along the words of a language. -/
def arrowsOf (L : Language (Marker ⊕ α)) : Set (Arrow α) :=
  {x | ∃ s a, spell s ++ a.map .inl ∈ L ∧ x ∈ Node.initial.arrowsAlong s a}

/-- Whether the nodes are the sentinels and leaves, each of them once, every leaf is on the way along
a word, and edges lead neither to the initial node nor from the terminal one. -/
structure Trim (g : Graph α) : Prop where
  nodup : g.nodes.toList.Nodup
  initial : g.nodes[NodeId.initial]? = some .initial
  terminal : g.nodes[NodeId.terminal]? = some .terminal
  mem_word : ∀ {n : NodeId} {l : α}, g.nodes[n]? = some (.leaf l) →
    ∃ t ∈ g.markedWords, l ∈ t.flatMap Marker.forget
  source : ∀ {p : NodeId} {e : Edge}, e ∈ g.edgesFrom p → ∃ x, g.nodes[p]? = some x ∧ x ≠ .terminal
  target : ∀ {p : NodeId} {e : Edge}, e ∈ g.edgesFrom p → ∃ y, g.nodes[e.target]? = some y ∧ y ≠ .initial

variable {g : Graph α}

lemma matcher?_eq_some_iff {n : NodeId} {l : α} :
    g.matcher? n = some l ↔ g.nodes[n]? = some (.leaf l) := by
  rw [matcher?, Option.bind_eq_some_iff]
  constructor
  · rintro ⟨node, hnode, hl⟩
    cases node with
    | leaf m => rwa [Option.some.inj hl] at hnode
    | _ => cases hl
  · exact fun h => ⟨_, h, rfl⟩

/-- What is on the way along a route is in the graph. -/
lemma mem_arrowSet_of_mem_arrowsAlong (hterminal : g.nodes[NodeId.terminal]? = some .terminal)
    {p : NodeId} {x : Node α} (hx : g.nodes[p]? = some x) {r : List (Move α)} (hr : g.IsRoute p r)
    {a : List Marker} (ha : (⟨NodeId.terminal, a⟩ : Edge) ∈ g.edgesFrom (routeEnd p r)) :
    ∀ y ∈ x.arrowsAlong (Move.items r) a, y ∈ g.arrowSet := by
  induction r generalizing p x with
  | nil => exact List.forall_mem_singleton.2 ⟨p, NodeId.terminal, hx, hterminal, ha⟩
  | cons m r ih =>
      obtain ⟨e, l⟩ := m
      obtain ⟨hedge, hl⟩ := mem_moves.1 hr.1
      have hleaf := matcher?_eq_some_iff.1 hl
      exact List.forall_mem_cons.2 ⟨⟨p, e.target, hx, hleaf, hedge⟩, ih hleaf hr.2 ha⟩

/-- After a part of the way, the arrows are those of the rest of it. -/
lemma exists_arrowsAlong_append {p : NodeId} {x x' : Node α} (hx : g.nodes[p]? = some x)
    {r : List (Move α)} (hr : g.IsRoute p r) (hx' : g.nodes[routeEnd p r]? = some x')
    (r' : List (Move α)) (a : List Marker) : ∃ before,
      x.arrowsAlong (Move.items (r ++ r')) a = before ++ x'.arrowsAlong (Move.items r') a := by
  induction r generalizing p x with
  | nil =>
      obtain rfl := Option.some.inj (hx.symm.trans hx')
      exact ⟨[], rfl⟩
  | cons m r ih =>
      obtain ⟨e, l⟩ := m
      obtain ⟨before, h⟩ := ih (matcher?_eq_some_iff.1 (mem_moves.1 hr.1).2) hr.2 hx'
      exact ⟨(x, e.markers, .leaf l) :: before, congrArg (List.cons _) h⟩

namespace Trim

variable (h : g.Trim)
include h

lemma eq_of_nodes {p q : NodeId} {x : Node α} (hp : g.nodes[p]? = some x)
    (hq : g.nodes[q]? = some x) : p = q := by
  rw [← Array.getElem?_toList] at hp hq
  obtain ⟨hlt, -⟩ := List.getElem?_eq_some_iff.1 hp
  exact (List.getElem?_inj hlt h.nodup).1 (hp.trans hq.symm)

/-- Every leaf is on an accepted route. -/
lemma exists_route_through {n : NodeId} {l : α} (hn : g.nodes[n]? = some (.leaf l)) :
    ∃ r e r' a, g.IsRoute NodeId.initial (r ++ [(e, l)]) ∧ e.target = n ∧ g.IsRoute n r' ∧
      (⟨NodeId.terminal, a⟩ : Edge) ∈ g.edgesFrom (routeEnd n r') := by
  obtain ⟨t, ht, hl⟩ := h.mem_word hn
  obtain ⟨route, a, hroute, ha, rfl⟩ := mem_markedWords_iff.1 ht
  rw [forget_spell, Move.items, List.map_map] at hl
  obtain ⟨⟨e, l⟩, hm, rfl⟩ := List.mem_map.1 hl
  obtain ⟨r, r', rfl⟩ := List.append_of_mem hm
  rw [← List.singleton_append, ← List.append_assoc] at hroute ha
  obtain ⟨hto, hfrom⟩ := isRoute_append.1 hroute
  rw [routeEnd_append_singleton] at hfrom
  rw [routeEnd_append, routeEnd_append_singleton] at ha
  have htarget : e.target = n := h.eq_of_nodes
    (matcher?_eq_some_iff.1 (mem_moves.1 (isRoute_append_singleton.1 hto).2).2) hn
  subst htarget
  exact ⟨r, e, r', a, hto, rfl, hfrom, ha⟩

lemma exists_route_to {p : NodeId} {x : Node α} (hp : g.nodes[p]? = some x) (hx : x ≠ .terminal) :
    ∃ r, g.IsRoute NodeId.initial r ∧ routeEnd NodeId.initial r = p := by
  cases x with
  | initial => exact ⟨[], trivial, h.eq_of_nodes h.initial hp⟩
  | terminal => exact absurd rfl hx
  | leaf l =>
      obtain ⟨r, e, _, _, hr, rfl, _⟩ := h.exists_route_through hp
      exact ⟨_, hr, routeEnd_append_singleton⟩

/-- **A trim graph has the arrows of its words.** -/
theorem arrowSet_eq : g.arrowSet = arrowsOf g.markedWords := by
  ext ⟨x, b, y⟩
  constructor
  · rintro ⟨p, q, hp, hq, hedge⟩
    obtain ⟨x', hp', hx⟩ := h.source hedge
    obtain ⟨y', hq', hy⟩ := h.target hedge
    obtain rfl := Option.some.inj (hp.symm.trans hp')
    obtain rfl := Option.some.inj (hq.symm.trans hq')
    obtain ⟨r, hr, rfl⟩ := h.exists_route_to hp hx
    have hinitial := exists_arrowsAlong_append h.initial hr hp
    cases y with
    | initial => exact absurd rfl hy
    | terminal =>
        obtain rfl := h.eq_of_nodes hq h.terminal
        obtain ⟨before, harrows⟩ := hinitial [] b
        rw [List.append_nil] at harrows
        refine ⟨Move.items r, b, mem_markedWords_iff.2 ⟨r, b, hr, hedge, rfl⟩, ?_⟩
        rw [harrows]
        exact List.mem_append_right _ List.mem_cons_self
    | leaf l =>
        obtain ⟨_, _, r', a, _, _, hr', ha⟩ := h.exists_route_through hq
        obtain ⟨before, harrows⟩ := hinitial ((⟨q, b⟩, l) :: r') a
        refine ⟨Move.items (r ++ (⟨q, b⟩, l) :: r'), a, mem_markedWords_iff.2 ⟨_, a, ?_, ?_, rfl⟩, ?_⟩
        · exact isRoute_append.2 ⟨hr, mem_moves.2 ⟨hedge, matcher?_eq_some_iff.2 hq⟩, hr'⟩
        · rw [routeEnd_append]
          exact ha
        · rw [harrows]
          exact List.mem_append_right _ List.mem_cons_self
  · rintro ⟨s, a, hword, hmem⟩
    obtain ⟨r, a', hr, ha, heq⟩ := mem_markedWords_iff.1 hword
    obtain ⟨rfl, rfl⟩ := spell_append_inj heq
    exact mem_arrowSet_of_mem_arrowsAlong h.terminal h.initial hr ha _ hmem

end Trim

end Graph

end TokenPattern
