import TokenPattern.Proofs.Frontier.Limit
import TokenPattern.Proofs.Position.Automaton

/-!
# Runs without the numbers of nodes

Nothing that a program tells depends on the numbers of nodes.  This file forgets them: what is left of
an item of a trail is its `TrailItem.crossing`, the boundaries in front of it and the output.

Up to order, the trails of a run are then settled by the words of the graph, with leaves told apart by
their numbers (`perm_crossings`).  So is how many explorers there are at any time (`alive_congr`): on
every route a run can still be accepted (`exists_isRoute_append`), so the routes of a given length are
the beginnings of words.
-/

namespace TokenPattern

universe u v

/-! ## Words and their beginnings -/

namespace Graph

variable {α : Type u}

/-- Whether a sequence of leaves, each with the boundaries in front of it, is a word of a graph without
its last boundaries. -/
def Ends (g : Graph α) (s : List (List Marker × α)) : Prop :=
  ∃ last : List Marker, spell s ++ last.map .inl ∈ g.markedWords

/-- Whether it is the beginning of such a sequence. -/
def Begins (g : Graph α) (s : List (List Marker × α)) : Prop := ∃ s', g.Ends (s ++ s')

lemma ends_iff_exists_route {g : Graph α} {s : List (List Marker × α)} : g.Ends s ↔
    ∃ r, g.IsRoute NodeId.initial r ∧ g.accepts (routeEnd NodeId.initial r) = true ∧
      Move.items r = s := by
  constructor
  · rintro ⟨last, h⟩
    obtain ⟨r, a, hr, ha, heq⟩ := mem_markedWords_iff.mp h
    exact ⟨r, hr, accepts_iff.mpr ⟨_, ha, rfl⟩, (spell_append_inj heq).1.symm⟩
  · rintro ⟨r, hr, hacc, rfl⟩
    obtain ⟨⟨_, a⟩, ha, rfl⟩ := accepts_iff.mp hacc
    exact ⟨a, mem_markedWords_iff.mpr ⟨r, a, hr, ha, rfl⟩⟩

/-- The leaves of a word are leaves of the pattern. -/
lemma Ends.mem_leaves {e : Expr α} {s : List (List Marker × α)} (h : (ofExpr e).Ends s)
    {i : List Marker × α} (hi : i ∈ s) : i.2 ∈ e.leaves := by
  obtain ⟨last, h⟩ := h
  exact Expr.mem_leaves_of_mem_words ((mem_words_iff e _).mpr ⟨_, h, forget_spell s last⟩)
    (List.mem_map_of_mem hi)

lemma Leads.accepts {g : Graph α} {p : NodeId} (h : g.Leads p NodeId.terminal) :
    g.accepts p = true :=
  accepts_iff.mpr ⟨_, h.choose_spec, rfl⟩

/-- The words of a pattern with its leaves renamed. -/
lemma ends_map_iff {β : Type v} {e : Expr α} {f : α → β} {s : List (List Marker × β)} :
    (ofExpr (e.map f)).Ends s ↔
      ∃ s', (ofExpr e).Ends s' ∧ s'.map (fun i => (i.1, f i.2)) = s := by
  have hitems : ∀ r : List (Move α), Move.items (r.map (moveMap f)) =
      (Move.items r).map fun i => (i.1, f i.2) := by
    intro r
    rw [Move.items, Move.items, List.map_map, List.map_map]
    rfl
  have haccepts : ∀ p, ((ofExpr e).map f).accepts p = (ofExpr e).accepts p := fun _ => rfl
  simp only [ends_iff_exists_route, ofExpr_map]
  constructor
  · rintro ⟨r, hr, hacc, rfl⟩
    have hmem := mem_routesFrom.mpr ⟨hr, rfl⟩
    rw [routesFrom_map] at hmem
    obtain ⟨r, hr, rfl⟩ := List.mem_map.mp hmem
    rw [haccepts, routeEnd_map] at hacc
    exact ⟨_, ⟨r, (mem_routesFrom.mp hr).1, hacc, rfl⟩, (hitems r).symm⟩
  · rintro ⟨_, ⟨r, hr, hacc, rfl⟩, rfl⟩
    refine ⟨r.map (moveMap f), ?_, by rwa [haccepts, routeEnd_map], hitems r⟩
    have hmem := List.mem_map_of_mem (f := List.map (moveMap f))
      (mem_routesFrom.mpr ⟨hr, rfl⟩)
    rw [← routesFrom_map] at hmem
    exact (mem_routesFrom.mp hmem).1

variable {e : Expr α} {r : List (Move (α × Nat))} {s : List (List Marker × (α × Nat))}

/-- The node of a leaf leads on to an accepted end. -/
lemma exists_isRoute_from_leaf {n : NodeId} {l : α × Nat}
    (hn : (ofExpr e.indexed).matcher? n = some l) : ∃ r, (ofExpr e.indexed).IsRoute n r ∧
      (ofExpr e.indexed).accepts (routeEnd n r) = true := by
  obtain ⟨m, k⟩ := l
  obtain ⟨hget, rfl⟩ := (matcher?_ofExpr_indexed e n m k).mp hn
  have hleaf : (m, k) ∈ e.indexed.leaves := by
    rw [Expr.indexed, Expr.leaves_indexFrom]
    exact List.mk_mem_zipIdx_iff_getElem?.mpr hget
  obtain ⟨u, hu, hmem⟩ := Expr.exists_word_of_mem_leaves hleaf
  obtain ⟨route, hroute, hend, rfl⟩ := (mem_words_iff_exists_route _).mp hu
  obtain ⟨⟨⟨q, a⟩, l⟩, hm, rfl⟩ := List.mem_map.mp hmem
  obtain ⟨r, r', rfl⟩ := List.append_of_mem hm
  obtain ⟨_, hstep, hr'⟩ := isRoute_append.mp hroute
  obtain ⟨_, rfl⟩ := (matcher?_ofExpr_indexed e q m k).mp (mem_moves.mp hstep).2
  rw [routeEnd_append] at hend
  exact ⟨r', hr', hend.accepts⟩

/-- **Every route can be accepted in the end.** -/
lemma exists_isRoute_append (hr : (ofExpr e.indexed).IsRoute NodeId.initial r) : ∃ r',
    (ofExpr e.indexed).IsRoute NodeId.initial (r ++ r') ∧
      (ofExpr e.indexed).accepts (routeEnd NodeId.initial (r ++ r')) = true := by
  cases r using List.reverseRecOn with
  | nil =>
      obtain ⟨u, hu, _⟩ := e.indexed.exists_word
      obtain ⟨route, hroute, hend, _⟩ := (mem_words_iff_exists_route _).mp hu
      exact ⟨route, hroute, hend.accepts⟩
  | append_singleton r m =>
      obtain ⟨_, hm⟩ := isRoute_append_singleton.mp hr
      obtain ⟨r', hr', hacc⟩ := exists_isRoute_from_leaf (mem_moves.mp hm).2
      refine ⟨r', isRoute_append.mpr ⟨hr, ?_⟩, ?_⟩
      · rwa [routeEnd_append_singleton]
      · rwa [routeEnd_append, routeEnd_append_singleton]

/-- The beginnings of words are those of routes. -/
lemma begins_iff_exists_route : (ofExpr e.indexed).Begins s ↔
    ∃ r, (ofExpr e.indexed).IsRoute NodeId.initial r ∧ Move.items r = s := by
  constructor
  · rintro ⟨s', h⟩
    obtain ⟨r, hr, _, heq⟩ := ends_iff_exists_route.mp h
    obtain ⟨r₁, r₂, rfl, rfl, _⟩ := List.map_eq_append_iff.mp heq
    exact ⟨r₁, (isRoute_append.mp hr).1, rfl⟩
  · rintro ⟨r, hr, rfl⟩
    obtain ⟨r', hr', hacc⟩ := exists_isRoute_append hr
    refine ⟨Move.items r', ends_iff_exists_route.mpr ⟨r ++ r', hr', hacc, ?_⟩⟩
    exact List.map_append

end Graph

/-! ## Trails without nodes -/

section

variable {τ ο : Type}

/-- What is left of an item without its node. -/
def TrailItem.crossing (i : TrailItem ο) : List Marker × ο := (i.markers, i.output)

/-- The boundaries of a sequence with one output of every leaf for its token. -/
def choices : List (List Marker × Matcher τ ο) → List τ → List (List (List Marker × ο))
  | [], [] => [[]]
  | (a, m) :: s, t :: rest => (m.outputs t).flatMap fun o => (choices s rest).map ((a, o) :: ·)
  | _, _ => []

lemma map_crossing_fillings (r : List (Move (Matcher τ ο))) (w : List τ) :
    (fillings r w).map (List.map TrailItem.crossing) = choices (Move.items r) w := by
  induction r generalizing w with
  | nil => cases w <;> rfl
  | cons m r ih =>
      cases w with
      | nil => rfl
      | cons t rest =>
          simp only [fillings, Move.items, List.map_cons, choices, List.map_flatMap, List.map_map]
          refine List.flatMap_congr fun o _ => ?_
          rw [← Move.items, ← ih, List.map_map]
          rfl

/-- A sequence without the numbers of its leaves. -/
def unnumbered {α : Type u} (s : List (List Marker × (α × Nat))) : List (List Marker × α) :=
  s.map fun i => (i.1, i.2.1)

lemma map_crossing_route (e : Expr (Matcher τ ο)) (s : List (List Marker × (Matcher τ ο × Nat)))
    (w : List τ) :
    (fillings (e.route s) w).map (List.map TrailItem.crossing) = choices (unnumbered s) w := by
  rw [map_crossing_fillings, Expr.route, Move.items, List.map_map]
  rfl

/-- The trails of a run, listed by the beginnings of words. -/
lemma exists_perm_trailsFrom (e : Expr (Matcher τ ο)) (w : List τ) :
    ∃ seqs : List (List (List Marker × (Matcher τ ο × Nat))), seqs.Nodup ∧
      (∀ s, s ∈ seqs ↔ (Graph.ofExpr e.indexed).Begins s ∧ s.length = w.length) ∧
      (trailsFrom (Graph.ofExpr e) NodeId.initial w).Perm
        (seqs.flatMap fun s => fillings (e.route s) w) := by
  have hroute : ∀ r ∈ (Graph.ofExpr e.indexed).routesFrom NodeId.initial w.length,
      (Graph.ofExpr e.indexed).IsRoute NodeId.initial r := fun r hr => (Graph.mem_routesFrom.mp hr).1
  refine ⟨((Graph.ofExpr e.indexed).routesFrom NodeId.initial w.length).map Move.items, ?_, ?_, ?_⟩
  · exact nodup_map_items hroute (Graph.nodup_routesFrom (Graph.nodup_edgesFrom_ofExpr _) _ _)
  · intro s
    rw [List.mem_map, Graph.begins_iff_exists_route]
    constructor
    · rintro ⟨r, hr, rfl⟩
      obtain ⟨hr, hlen⟩ := Graph.mem_routesFrom.mp hr
      exact ⟨⟨r, hr, rfl⟩, by rw [Move.items, List.length_map, hlen]⟩
    · rintro ⟨⟨r, hr, rfl⟩, hlen⟩
      rw [Move.items, List.length_map] at hlen
      exact ⟨r, Graph.mem_routesFrom.mpr ⟨hr, hlen⟩, rfl⟩
  · refine (perm_trailsFrom (Graph.ofExpr e) NodeId.initial w).trans (List.Perm.of_eq ?_)
    rw [ofExpr_eq_map_indexed, Graph.routesFrom_map, flatMap_fillings_moveMap hroute]

/-- The accepting trails of a run without their nodes. -/
def crossings (g : Graph (Matcher τ ο)) (w : List τ) : List (List (List Marker × ο)) :=
  (acceptingTrails g w).map (List.map TrailItem.crossing)

/-- The accepting trails, listed by the words. -/
lemma exists_perm_crossings (e : Expr (Matcher τ ο)) (w : List τ) :
    ∃ seqs : List (List (List Marker × (Matcher τ ο × Nat))), seqs.Nodup ∧
      (∀ s, s ∈ seqs ↔ (Graph.ofExpr e.indexed).Ends s ∧ s.length = w.length) ∧
      (crossings (Graph.ofExpr e) w).Perm (seqs.flatMap fun s => choices (unnumbered s) w) := by
  obtain ⟨seqs, hnodup, hmem, hperm⟩ := exists_perm_acceptingTrails e w
  refine ⟨seqs, hnodup, hmem, (hperm.map _).trans (List.Perm.of_eq ?_)⟩
  rw [List.map_flatMap]
  exact List.flatMap_congr fun s _ => map_crossing_route e s w

variable {e e' : Expr (Matcher τ ο)}

/-- **The accepting trails are settled by the words of the graph**, up to order and but for the numbers
of nodes. -/
theorem perm_crossings {w : List τ} (h : ∀ s, s.length = w.length →
    ((Graph.ofExpr e.indexed).Ends s ↔ (Graph.ofExpr e'.indexed).Ends s)) :
    (crossings (Graph.ofExpr e) w).Perm (crossings (Graph.ofExpr e') w) := by
  obtain ⟨seqs, hnodup, hmem, hperm⟩ := exists_perm_crossings e w
  obtain ⟨seqs', hnodup', hmem', hperm'⟩ := exists_perm_crossings e' w
  have hseqs : seqs.Perm seqs' := (List.perm_ext_iff_of_nodup hnodup hnodup').mpr fun s => by
    rw [hmem, hmem']
    exact and_congr_left (h s)
  exact hperm.trans ((hseqs.flatMap_right _).trans hperm'.symm)

lemma alive_eq_length_trailsFrom (g : Graph (Matcher τ ο)) (w : List τ) (k : Nat) :
    alive g w k = (trailsFrom g NodeId.initial (w.take k)).length := by
  rw [alive_eq, exploreAll_eq, List.flatMap_singleton, List.length_map]
  rfl

/-- **So are the sizes of all frontiers.** -/
theorem alive_congr (h : (Graph.ofExpr e.indexed).markedWords =
    (Graph.ofExpr e'.indexed).markedWords) (w : List τ) (k : Nat) :
    alive (Graph.ofExpr e) w k = alive (Graph.ofExpr e') w k := by
  obtain ⟨seqs, hnodup, hmem, hperm⟩ := exists_perm_trailsFrom e (w.take k)
  obtain ⟨seqs', hnodup', hmem', hperm'⟩ := exists_perm_trailsFrom e' (w.take k)
  have hbegins : ∀ s, (Graph.ofExpr e.indexed).Begins s ↔ (Graph.ofExpr e'.indexed).Begins s := by
    intro s
    rw [Graph.Begins, Graph.Begins]
    simp only [Graph.Ends, h]
  have hseqs : seqs.Perm seqs' := (List.perm_ext_iff_of_nodup hnodup hnodup').mpr fun s => by
    rw [hmem, hmem', hbegins]
  have hlength : ∀ s : List (List Marker × (Matcher τ ο × Nat)),
      (fillings (e.route s) (w.take k)).length = (fillings (e'.route s) (w.take k)).length := by
    intro s
    have hcross := (map_crossing_route e s (w.take k)).trans (map_crossing_route e' s _).symm
    simpa using congrArg List.length hcross
  rw [alive_eq_length_trailsFrom, alive_eq_length_trailsFrom, hperm.length_eq, hperm'.length_eq,
    (hseqs.flatMap_right _).length_eq, List.length_flatMap, List.length_flatMap]
  exact congrArg List.sum (List.map_congr_left fun s _ => hlength s)

end

end TokenPattern
