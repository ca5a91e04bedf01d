import TokenPattern.Proofs.Language

/-!
# Accepting paths are derivations

A derivation of a pattern is a word of its leaves with the boundaries crossed in between, where
leaves at different places are different letters.  Without its last boundaries it is a sequence of
leaves, each with the boundaries in front of it (`Expr.Derives`), and from such a sequence one gets
trails by choosing an output of every leaf for its token (`fillings`).

`paths_ofExpr` compares these trails with what a run gives.

* Every accepting path is the trail of a derivation.
* If the bodies of all repetitions read, then conversely every derivation with every choice of
  outputs is one accepting path, and no accepting path is there for another reason or twice.

**Why the bodies must read.**  A repetition whose body may be empty has derivations with any number
of empty rounds, so there are infinitely many of them over the same input.
-/

namespace TokenPattern

universe u v

/-! ## Graphs with renamed leaves -/

namespace Graph

variable {α : Type u} {β : Type v} {g : Graph α}

/-- A step with its leaf renamed. -/
def moveMap (f : α → β) (m : Move α) : Move β := (m.1, f m.2)

lemma moves_map (f : α → β) (p : NodeId) : (g.map f).moves p = (g.moves p).map (moveMap f) := by
  rw [moves, moves, List.map_filterMap, edgesFrom_map]
  refine List.filterMap_congr fun e _ => ?_
  rw [matcher?_map, Option.map_map, Option.map_map]
  rfl

lemma routesFrom_map (f : α → β) (p : NodeId) (k : Nat) :
    (g.map f).routesFrom p k = (g.routesFrom p k).map (List.map (moveMap f)) := by
  induction k generalizing p with
  | zero => rfl
  | succ k ih =>
      simp only [routesFrom, moves_map, List.flatMap_map, List.map_flatMap, List.map_map]
      refine List.flatMap_congr fun m _ => ?_
      rw [show (moveMap f m).1.target = m.1.target from rfl, ih, List.map_map]
      rfl

lemma routeEnd_map (f : α → β) (p : NodeId) (r : List (Move α)) :
    routeEnd p (r.map (moveMap f)) = routeEnd p r := by
  induction r generalizing p with
  | nil => rfl
  | cons m r ih => exact ih m.1.target

lemma acceptingRoutes_map (f : α → β) (k : Nat) :
    (g.map f).acceptingRoutes k = (g.acceptingRoutes k).map (List.map (moveMap f)) := by
  have haccepts : ∀ p, (g.map f).accepts p = g.accepts p := by
    intro p
    rw [accepts, edgesFrom_map, accepts]
  rw [acceptingRoutes, routesFrom_map, List.filter_map, acceptingRoutes]
  refine congrArg _ (List.filter_congr fun r _ => ?_)
  rw [Function.comp_apply, haccepts, routeEnd_map]

lemma nodup_edgesFrom_ofExpr (e : Expr α) (n : NodeId) : ((ofExpr e).edgesFrom n).Nodup := by
  obtain ⟨hc, _, _⟩ := Draft.drain_start e
  exact Draft.nodup_edgesFrom_freeze hc n

end Graph

/-! ## Routes and derivations -/

namespace Expr

variable {α : Type u}

/-- Whether a sequence of leaves, each with its place and the boundaries in front of it, is a
derivation of the pattern without its last boundaries. -/
def Derives (e : Expr α) (s : List (List Marker × (α × Nat))) : Prop :=
  ∃ last : List Marker, spell s ++ last.map .inl ∈ e.indexed.derivations

/-- The steps to the nodes of leaves, over the boundaries in front of them. -/
def route (e : Expr α) (s : List (List Marker × (α × Nat))) : List (Move α) :=
  s.map fun i => (⟨e.leafNode i.2.2, i.1⟩, i.2.1)

variable {e : Expr α}

/-- The leaves of a route, each at its place, tell the nodes. -/
lemma route_items {p : NodeId} {r : List (Move (α × Nat))}
    (h : (Graph.ofExpr e.indexed).IsRoute p r) :
    e.route (Move.items r) = r.map (Graph.moveMap Prod.fst) := by
  induction r generalizing p with
  | nil => rfl
  | cons m r ih =>
      obtain ⟨⟨q, a⟩, l, k⟩ := m
      obtain ⟨hm, hr⟩ := h
      have hq : q = e.leafNode k :=
        ((Graph.matcher?_ofExpr_indexed e q l k).mp (Graph.mem_moves.mp hm).2).2
      have htail := ih hr
      simp only [route, Move.items, List.map_cons] at htail ⊢
      rw [htail, hq]
      rfl

lemma eq_of_items_eq {p : NodeId} {r r' : List (Move (α × Nat))}
    (hr : (Graph.ofExpr e.indexed).IsRoute p r) (hr' : (Graph.ofExpr e.indexed).IsRoute p r')
    (h : Move.items r = Move.items r') : r = r' := by
  induction r generalizing p r' with
  | nil => exact (List.map_eq_nil_iff.mp h.symm).symm
  | cons m r ih =>
      obtain ⟨⟨q, a⟩, l, k⟩ := m
      cases r' with
      | nil => exact absurd h (List.cons_ne_nil _ _)
      | cons m' r' =>
          obtain ⟨⟨q', a'⟩, l', k'⟩ := m'
          simp only [Move.items, List.map_cons, List.cons.injEq, Prod.mk.injEq] at h
          obtain ⟨⟨rfl, rfl, rfl⟩, htail⟩ := h
          obtain rfl : q = q' :=
            ((Graph.matcher?_ofExpr_indexed e q l k).mp (Graph.mem_moves.mp hr.1).2).2.trans
              ((Graph.matcher?_ofExpr_indexed e q' l k).mp (Graph.mem_moves.mp hr'.1).2).2.symm
          rw [ih hr.2 hr'.2 htail]

/-- On the end of a route a run may stop if the route has a word of the graph. -/
lemma accepts_routeEnd_iff {r : List (Move (α × Nat))}
    (hr : (Graph.ofExpr e.indexed).IsRoute NodeId.initial r) :
    (Graph.ofExpr e.indexed).accepts (Graph.routeEnd NodeId.initial r) = true ↔
      ∃ last : List Marker,
        spell (Move.items r) ++ last.map .inl ∈ (Graph.ofExpr e.indexed).markedWords := by
  rw [Graph.accepts_iff]
  constructor
  · rintro ⟨⟨_, a⟩, ha, rfl⟩
    exact ⟨a, Graph.mem_markedWords_iff.mpr ⟨r, a, hr, ha, rfl⟩⟩
  · rintro ⟨last, h⟩
    obtain ⟨r', a, hr', ha, heq⟩ := Graph.mem_markedWords_iff.mp h
    obtain ⟨hitems, _⟩ := spell_append_inj heq
    rw [eq_of_items_eq hr hr' hitems]
    exact ⟨_, ha, rfl⟩

end Expr

section

variable {τ ο : Type}

/-- No two routes have the same leaves and boundaries. -/
lemma nodup_map_items {e : Expr (Matcher τ ο)} {rs : List (List (Move (Matcher τ ο × Nat)))}
    (hroute : ∀ r ∈ rs, (Graph.ofExpr e.indexed).IsRoute NodeId.initial r) (hnodup : rs.Nodup) :
    (rs.map Move.items).Nodup :=
  hnodup.map_on fun r hr r' hr' h => Expr.eq_of_items_eq (hroute r hr) (hroute r' hr') h

/-- Routes with all choices of outputs, without the numbers of leaves. -/
lemma flatMap_fillings_moveMap {e : Expr (Matcher τ ο)}
    {rs : List (List (Move (Matcher τ ο × Nat)))}
    (hroute : ∀ r ∈ rs, (Graph.ofExpr e.indexed).IsRoute NodeId.initial r) (w : List τ) :
    ((rs.map (List.map (Graph.moveMap Prod.fst))).flatMap fun r => fillings r w) =
      (rs.map Move.items).flatMap fun s => fillings (e.route s) w := by
  rw [List.flatMap_map, List.flatMap_map]
  refine List.flatMap_congr fun r hr => ?_
  rw [Expr.route_items (hroute r hr)]

lemma ofExpr_eq_map_indexed (e : Expr (Matcher τ ο)) :
    Graph.ofExpr e = (Graph.ofExpr e.indexed).map Prod.fst := by
  rw [← Graph.ofExpr_map, Expr.map_fst_indexed]

/-- The accepting trails, listed by the words of the graph. -/
lemma exists_perm_acceptingTrails (e : Expr (Matcher τ ο)) (w : List τ) :
    ∃ seqs : List (List (List Marker × (Matcher τ ο × Nat))), seqs.Nodup ∧
      (∀ s, s ∈ seqs ↔ (∃ last : List Marker,
        spell s ++ last.map .inl ∈ (Graph.ofExpr e.indexed).markedWords) ∧
          s.length = w.length) ∧
      (acceptingTrails (Graph.ofExpr e) w).Perm
        (seqs.flatMap fun s => fillings (e.route s) w) := by
  have hroute : ∀ r ∈ (Graph.ofExpr e.indexed).acceptingRoutes w.length,
      (Graph.ofExpr e.indexed).IsRoute NodeId.initial r := fun r hr =>
    (Graph.mem_acceptingRoutes.mp hr).1.1
  refine ⟨((Graph.ofExpr e.indexed).acceptingRoutes w.length).map Move.items, ?_, ?_, ?_⟩
  · exact nodup_map_items hroute
      ((Graph.nodup_routesFrom (Graph.nodup_edgesFrom_ofExpr _) _ _).filter _)
  · intro s
    rw [List.mem_map]
    constructor
    · rintro ⟨r, hr, rfl⟩
      obtain ⟨⟨hr, hlen⟩, hacc⟩ := Graph.mem_acceptingRoutes.mp hr
      exact ⟨(Expr.accepts_routeEnd_iff hr).mp hacc, by rw [Move.items, List.length_map, hlen]⟩
    · rintro ⟨⟨last, h⟩, hlen⟩
      obtain ⟨r, a, hr, ha, heq⟩ := Graph.mem_markedWords_iff.mp h
      obtain ⟨rfl, _⟩ := spell_append_inj heq
      rw [Move.items, List.length_map] at hlen
      have hacc := (Expr.accepts_routeEnd_iff hr).mpr ⟨last, h⟩
      exact ⟨r, Graph.mem_acceptingRoutes.mpr ⟨⟨hr, hlen⟩, hacc⟩, rfl⟩
  · refine (perm_acceptingTrails (Graph.ofExpr e) w).trans (List.Perm.of_eq ?_)
    rw [ofExpr_eq_map_indexed, Graph.acceptingRoutes_map, flatMap_fillings_moveMap hroute]

/-- **Accepting paths are derivations.** -/
theorem paths_ofExpr (e : Expr (Matcher τ ο)) (w : List τ) :
    ∃ ps, paths (Graph.ofExpr e) Limits.unbounded w = .ok ps ∧
      (∀ path ∈ ps, ∃ s, e.Derives s ∧ s.length = w.length ∧
        ∃ trail ∈ fillings (e.route s) w, path = AcceptingPath.ofTrail trail) ∧
      (e.starsRead = true → ∃ seqs : List (List (List Marker × (Matcher τ ο × Nat))),
        seqs.Nodup ∧ (∀ s, s ∈ seqs ↔ e.Derives s ∧ s.length = w.length) ∧
          ps.Perm (seqs.flatMap fun s =>
            (fillings (e.route s) w).map AcceptingPath.ofTrail)) := by
  obtain ⟨seqs, hnodup, hmem, hperm⟩ := exists_perm_acceptingTrails e w
  refine ⟨_, paths_unbounded (Graph.ofExpr e) w, ?_, ?_⟩
  · intro path hpath
    obtain ⟨trail, htrail, rfl⟩ := List.mem_map.mp hpath
    obtain ⟨s, hs, hfill⟩ := List.mem_flatMap.mp (hperm.mem_iff.mp htrail)
    obtain ⟨⟨last, hlast⟩, hlen⟩ := (hmem s).mp hs
    exact ⟨s, ⟨last, Graph.markedWords_ofExpr_le _ hlast⟩, hlen, trail, hfill, rfl⟩
  · intro hstars
    have hread : e.indexed.starsRead = true := by
      rw [← Expr.starsRead_map Prod.fst, Expr.map_fst_indexed, hstars]
    refine ⟨seqs, hnodup, fun s => ?_, ?_⟩
    · rw [hmem, Graph.markedWords_ofExpr _ hread]
      rfl
    · rw [← List.map_flatMap]
      exact hperm.map _

end

end TokenPattern
