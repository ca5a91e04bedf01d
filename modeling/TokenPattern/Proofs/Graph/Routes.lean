import Mathlib.Data.List.Nodup
import TokenPattern.Proofs.Graph.Words

/-!
# Routes through a graph

A route is a list of steps along edges to leaves, first step first.  `Graph.routesFrom` lists the
routes of a given length; since no edge of a compiled pattern is there twice, none of them is listed
twice (`nodup_routesFrom`).

Routes are the walks of the graph: the words of the graph are those of the routes from which an edge
leads to the terminal node (`mem_markedWords_iff`).
-/

namespace TokenPattern

universe u v

/-- A step along an edge to a leaf. -/
abbrev Move (α : Type u) := Edge × α

namespace Graph

variable {α : Type u} {g : Graph α} {p : NodeId} {r : List (Move α)}

/-- The node on which a route from `p` ends. -/
def routeEnd : NodeId → List (Move α) → NodeId
  | p, [] => p
  | _, (e, _) :: r => routeEnd e.target r

/-- Whether steps follow each other, the first one from `p`. -/
def IsRoute (g : Graph α) : NodeId → List (Move α) → Prop
  | _, [] => True
  | p, (e, l) :: r => (e, l) ∈ g.moves p ∧ g.IsRoute e.target r

/-- The routes with `k` steps. -/
def routesFrom (g : Graph α) : NodeId → Nat → List (List (Move α))
  | _, 0 => [[]]
  | p, k + 1 => (g.moves p).flatMap fun m => (g.routesFrom m.1.target k).map (m :: ·)

lemma mem_routesFrom {k : Nat} : r ∈ g.routesFrom p k ↔ g.IsRoute p r ∧ r.length = k := by
  induction k generalizing p r with
  | zero =>
      rw [routesFrom, List.mem_singleton, List.length_eq_zero_iff]
      exact ⟨fun h => ⟨h ▸ trivial, h⟩, And.right⟩
  | succ k ih =>
      simp only [routesFrom, List.mem_flatMap, List.mem_map, ih]
      constructor
      · rintro ⟨m, hm, r, ⟨hr, rfl⟩, rfl⟩
        exact ⟨⟨hm, hr⟩, rfl⟩
      · rintro ⟨hr, hk⟩
        cases r with
        | nil => simp at hk
        | cons m r => exact ⟨m, hr.1, r, ⟨hr.2, by simpa using hk⟩, rfl⟩

lemma nodup_moves (h : (g.edgesFrom p).Nodup) : (g.moves p).Nodup := by
  refine h.filterMap fun e e' m hm hm' => ?_
  obtain ⟨_, _, rfl⟩ := Option.map_eq_some_iff.mp hm
  obtain ⟨_, _, heq⟩ := Option.map_eq_some_iff.mp hm'
  exact (congrArg Prod.fst heq).symm

/-- No route is listed twice. -/
lemma nodup_routesFrom (h : ∀ n, (g.edgesFrom n).Nodup) (p : NodeId) (k : Nat) :
    (g.routesFrom p k).Nodup := by
  induction k generalizing p with
  | zero => exact List.nodup_singleton _
  | succ k ih =>
      refine List.nodup_flatMap.mpr ⟨fun m _ => ?_, ?_⟩
      · exact (ih m.1.target).map fun r r' hr => (List.cons.inj hr).2
      · refine (nodup_moves (h p)).imp fun {m m'} hne r hr hr' => ?_
        obtain ⟨r₁, _, rfl⟩ := List.mem_map.mp hr
        obtain ⟨r₂, _, heq⟩ := List.mem_map.mp hr'
        exact hne (List.cons.inj heq).1.symm

/-- The routes with `k` steps on which a run may stop. -/
def acceptingRoutes (g : Graph α) (k : Nat) : List (List (Move α)) :=
  (g.routesFrom NodeId.initial k).filter fun r => g.accepts (routeEnd NodeId.initial r)

lemma mem_acceptingRoutes {k : Nat} : r ∈ g.acceptingRoutes k ↔
    (g.IsRoute NodeId.initial r ∧ r.length = k) ∧
      g.accepts (routeEnd NodeId.initial r) = true := by
  rw [acceptingRoutes, List.mem_filter, mem_routesFrom]

lemma isRoute_append {r' : List (Move α)} :
    g.IsRoute p (r ++ r') ↔ g.IsRoute p r ∧ g.IsRoute (routeEnd p r) r' := by
  induction r generalizing p with
  | nil => simp [IsRoute, routeEnd]
  | cons m r ih => simp only [List.cons_append, IsRoute, routeEnd, ih, and_assoc]

lemma routeEnd_append {r' : List (Move α)} :
    routeEnd p (r ++ r') = routeEnd (routeEnd p r) r' := by
  induction r generalizing p with
  | nil => rfl
  | cons m r ih => exact ih

lemma isRoute_append_singleton {m : Move α} :
    g.IsRoute p (r ++ [m]) ↔ g.IsRoute p r ∧ m ∈ g.moves (routeEnd p r) := by
  rw [isRoute_append, IsRoute, IsRoute, and_true]

lemma routeEnd_append_singleton {m : Move α} : routeEnd p (r ++ [m]) = m.1.target := routeEnd_append

end Graph

/-! ## Words of routes -/

section

variable {α : Type u}

/-- The boundaries and the leaf of every step. -/
def Move.items (r : List (Move α)) : List (List Marker × α) := r.map fun m => (m.1.markers, m.2)

lemma forget_spell (s : List (List Marker × α)) (a : List Marker) :
    (spell s ++ a.map Sum.inl).flatMap Marker.forget = s.map Prod.snd := by
  have hmarks : ∀ b : List Marker, (b.map Sum.inl : List (Marker ⊕ α)).flatMap Marker.forget = [] := by
    intro b
    simp [List.flatMap_map, Marker.forget]
  rw [List.flatMap_append, hmarks, List.append_nil]
  induction s with
  | nil => rfl
  | cons i s ih => simp [spell_cons, hmarks, ih, Marker.forget]

end

namespace Graph

variable {α : Type u} {g : Graph α}

lemma marked_link_iff {p s : NodeId} {c : List (Marker ⊕ α)} :
    (g.net.map (Reading.marked : Reading α _).mark).link p c s ↔
      ∃ a, (⟨s, a⟩ : Edge) ∈ g.edgesFrom p ∧ c = a.map .inl := by
  have hmark : ∀ b : List Marker, b.flatMap (Reading.marked : Reading α _).mark = b.map .inl :=
    fun b => List.map_eq_flatMap.symm
  constructor
  · rintro ⟨b, hl, rfl⟩
    exact ⟨b, hl, hmark b⟩
  · rintro ⟨b, hl, rfl⟩
    exact ⟨b, hl, (hmark b).symm⟩

/-- The walks of a graph are its routes. -/
lemma walk_marked_iff {p s : NodeId} {t : List (Marker ⊕ α)} :
    (g.net.map Reading.marked.mark).Walk Reading.marked p t s ↔
      ∃ r a, g.IsRoute p r ∧ (⟨s, a⟩ : Edge) ∈ g.edgesFrom (routeEnd p r) ∧
        t = spell (Move.items r) ++ a.map .inl := by
  constructor
  · intro hw
    induction hw with
    | link hl =>
        obtain ⟨a, ha, rfl⟩ := marked_link_iff.mp hl
        exact ⟨[], a, trivial, ha, rfl⟩
    | @step t z c q s f _ hq hz hl ih =>
        obtain ⟨r, a, hr, ha, rfl⟩ := ih
        obtain ⟨l, hql, rfl⟩ := net_node_eq_some_iff.mp hq
        obtain rfl : z = [.inr l] := hz
        obtain ⟨b, hb, rfl⟩ := marked_link_iff.mp hl
        refine ⟨r ++ [(⟨q, a⟩, l)], b, ?_, ?_, ?_⟩
        · exact isRoute_append_singleton.mpr ⟨hr, mem_moves.mpr ⟨ha, hql⟩⟩
        · rwa [routeEnd_append_singleton]
        · simp [Move.items, spell_append, spell_cons]
  · rintro ⟨r, a, hr, ha, rfl⟩
    induction r using List.reverseRecOn generalizing s a with
    | nil => exact .link (marked_link_iff.mpr ⟨a, ha, rfl⟩)
    | append_singleton r m ih =>
        obtain ⟨⟨q, b⟩, l⟩ := m
        obtain ⟨hr, hm⟩ := isRoute_append_singleton.mp hr
        obtain ⟨hb, hql⟩ := mem_moves.mp hm
        rw [routeEnd_append_singleton] at ha
        have hstep := Net.Walk.step (ih b hr hb) (net_node_eq_some_iff.mpr ⟨l, hql, rfl⟩)
          (show [Sum.inr l] ∈ (Expr.leaf l).denote Reading.marked from rfl)
          (marked_link_iff.mpr ⟨a, ha, rfl⟩)
        simpa [Move.items, spell_append, spell_cons] using hstep

/-- **The words of a graph are those of its routes**, each with the boundaries of an edge to the
terminal node at its end. -/
theorem mem_markedWords_iff {t : List (Marker ⊕ α)} : t ∈ g.markedWords ↔
    ∃ r a, g.IsRoute NodeId.initial r ∧
      (⟨NodeId.terminal, a⟩ : Edge) ∈ g.edgesFrom (routeEnd NodeId.initial r) ∧
      t = spell (Move.items r) ++ a.map .inl :=
  walk_marked_iff

end Graph

end TokenPattern
