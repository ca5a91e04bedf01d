import TokenPattern.Proofs.Groups
import TokenPattern.Proofs.Position.Automaton

/-!
# Groups never change what matches

Boundaries take part in the identity of edges, so a capture multiplies edges all over the graph of a
pattern.  What it does not change is which leaves a run visits, and with which outputs: these are
settled by the words of the pattern, and captures have no part in words (`Expr.words_ungrouped`).

**Visits.**  A path is told by its `visits`, for every token the number of the leaf that it visits and
the number of the output among those of the leaf.  A trail does not show the latter, as outputs may be
equal, so the runs of `Expr.tracked` are looked at, a pattern whose leaves tell both numbers with every
output.  Its paths are those of the pattern itself (`map_untracked_acceptingTrails`).

**Once.**  Without captures the boundaries of a route are empty, so that the leaves on it determine it
(`Graph.eq_of_map_number_eq`), and no sequence of visits comes twice.

`visits_ungrouped` draws the conclusions for compiled patterns.
-/

namespace TokenPattern

universe u

/-! ## Patterns without captures -/

namespace Expr

variable {α : Type u}

/-- The pattern with every capture replaced by its body. -/
def ungrouped : Expr α → Expr α
  | leaf m => leaf m
  | concat l r => concat l.ungrouped r.ungrouped
  | alt l r => alt l.ungrouped r.ungrouped
  | maybe x => maybe x.ungrouped
  | star x => star x.ungrouped
  | capture _ x => x.ungrouped

lemma captureFree_ungrouped (e : Expr α) : e.ungrouped.captureFree = true := by
  induction e with
  | leaf m => rfl
  | concat l r ihl ihr => rw [ungrouped, captureFree, ihl, ihr]; rfl
  | alt l r ihl ihr => rw [ungrouped, captureFree, ihl, ihr]; rfl
  | maybe x ih => exact ih
  | star x ih => exact ih
  | capture n x ih => exact ih

lemma leaves_ungrouped (e : Expr α) : e.ungrouped.leaves = e.leaves := by
  induction e with
  | leaf m => rfl
  | concat l r ihl ihr => rw [ungrouped, leaves, ihl, ihr, leaves]
  | alt l r ihl ihr => rw [ungrouped, leaves, ihl, ihr, leaves]
  | maybe x ih => exact ih
  | star x ih => exact ih
  | capture n x ih => exact ih

lemma leafCount_ungrouped (e : Expr α) : e.ungrouped.leafCount = e.leafCount := by
  rw [← length_leaves, leaves_ungrouped, length_leaves]

/-- The leaves keep their numbers. -/
lemma indexFrom_ungrouped (e : Expr α) (k : Nat) :
    e.ungrouped.indexFrom k = (e.indexFrom k).ungrouped := by
  induction e generalizing k with
  | leaf m => rfl
  | concat l r ihl ihr =>
      rw [ungrouped, indexFrom, ihl, ihr, leafCount_ungrouped, indexFrom, ungrouped]
  | alt l r ihl ihr =>
      rw [ungrouped, indexFrom, ihl, ihr, leafCount_ungrouped, indexFrom, ungrouped]
  | maybe x ih => rw [ungrouped, indexFrom, ih, indexFrom, ungrouped]
  | star x ih => rw [ungrouped, indexFrom, ih, indexFrom, ungrouped]
  | capture n x ih => exact ih k

/-- **Captures have no part in the words of a pattern.** -/
lemma words_ungrouped (e : Expr α) : e.ungrouped.words = e.words := by
  induction e with
  | leaf m => rfl
  | concat l r ihl ihr => rw [ungrouped, words_concat, ihl, ihr, words_concat]
  | alt l r ihl ihr => rw [ungrouped, words_alt, ihl, ihr, words_alt]
  | maybe x ih => rw [ungrouped, words_maybe, ih, words_maybe]
  | star x ih => rw [ungrouped, words_star, ih, words_star]
  | capture n x ih => rw [ungrouped, ih, words_capture]

lemma words_indexed_ungrouped (e : Expr α) : e.ungrouped.indexed.words = e.indexed.words := by
  rw [indexed, indexFrom_ungrouped, words_ungrouped, indexed]

end Expr

/-! ## Routes without captures -/

namespace Graph

variable {α : Type u} {e : Expr α} {p : NodeId} {r r' : List (Move (α × Nat))}

/-- The numbers of the leaves on a route determine it if there are no captures. -/
lemma eq_of_map_number_eq (h : e.captureFree = true) (hr : (ofExpr e.indexed).IsRoute p r)
    (hr' : (ofExpr e.indexed).IsRoute p r')
    (heq : r.map (fun m => m.2.2) = r'.map fun m => m.2.2) : r = r' := by
  have hfree : e.indexed.captureFree = true := by
    rw [← Expr.captureFree_map Prod.fst, Expr.map_fst_indexed, h]
  induction r generalizing p r' with
  | nil => exact (List.map_eq_nil_iff.mp heq.symm).symm
  | cons m r ih =>
      obtain ⟨m', r', rfl, hnumber, htail⟩ := List.map_eq_cons_iff.mp heq.symm
      obtain ⟨⟨q, a⟩, l, k⟩ := m
      obtain ⟨⟨q', a'⟩, l', k'⟩ := m'
      obtain rfl : k' = k := hnumber
      obtain ⟨hedge, hleaf⟩ := mem_moves.mp hr.1
      obtain ⟨hedge', hleaf'⟩ := mem_moves.mp hr'.1
      obtain rfl : a = [] := markers_eq_nil _ hfree hedge
      obtain rfl : a' = [] := markers_eq_nil _ hfree hedge'
      obtain ⟨hl, rfl⟩ := (matcher?_ofExpr_indexed e q l k').mp hleaf
      obtain ⟨hl', rfl⟩ := (matcher?_ofExpr_indexed e q' l' k').mp hleaf'
      obtain rfl : l = l' := Option.some.inj (hl.symm.trans hl')
      rw [ih hr.2 hr'.2 htail.symm]

end Graph

/-! ## Tracked patterns -/

section

variable {τ ο ο' : Type}

/-- A leaf that tells with every output its own number and the number of the output. -/
def Matcher.tracked (l : Matcher τ ο × Nat) : Matcher τ (ο × Nat × Nat) where
  outputs t := (l.1.outputs t).zipIdx.map fun o => (o.1, l.2, o.2)
  text := l.1.text

/-- The pattern whose leaves tell the numbers. -/
def Expr.tracked (e : Expr (Matcher τ ο)) : Expr (Matcher τ (ο × Nat × Nat)) :=
  e.indexed.map Matcher.tracked

/-- An item with its output replaced. -/
def TrailItem.mapOutput (f : ο → ο') (i : TrailItem ο) : TrailItem ο' :=
  ⟨i.node, i.markers, f i.output⟩

/-- A path without the numbers. -/
def AcceptingPath.untracked (path : AcceptingPath (ο × Nat × Nat)) : AcceptingPath ο :=
  ⟨path.node, path.trail.map (TrailItem.mapOutput Prod.fst)⟩

/-- The leaf and the output for every token, by their numbers. -/
def visitsOf (trail : List (TrailItem (ο × Nat × Nat))) : List (Nat × Nat) :=
  trail.map fun i => i.output.2

/-- What a path visits. -/
def AcceptingPath.visits (path : AcceptingPath (ο × Nat × Nat)) : List (Nat × Nat) :=
  visitsOf path.trail

/-! ## Trails of tracked patterns -/

lemma trailEnd_mapOutput (f : ο → ο') (p : NodeId) (trail : List (TrailItem ο)) :
    trailEnd p (trail.map (TrailItem.mapOutput f)) = trailEnd p trail := by
  induction trail generalizing p with
  | nil => rfl
  | cons i trail ih => exact ih i.node

/-- Leaves that differ in what their outputs show have trails that differ in nothing else. -/
lemma map_mapOutput_trailsFrom {α : Type} {g : Graph α} {f : α → Matcher τ ο}
    {f' : α → Matcher τ ο'} {h : ο → ο'} (hf : ∀ a t, ((f a).outputs t).map h = (f' a).outputs t)
    (p : NodeId) (w : List τ) :
    (trailsFrom (g.map f) p w).map (List.map (TrailItem.mapOutput h)) =
      trailsFrom (g.map f') p w := by
  induction w generalizing p with
  | nil => rfl
  | cons t rest ih =>
      simp only [trailsFrom, Graph.moves_map, List.flatMap_map, List.map_flatMap]
      refine List.flatMap_congr fun m _ => ?_
      simp only [Graph.moveMap, ← hf, List.flatMap_map]
      refine List.flatMap_congr fun o _ => ?_
      rw [← ih, List.map_map, List.map_map]
      rfl

variable (e : Expr (Matcher τ ο)) (w : List τ)

lemma ofExpr_tracked :
    Graph.ofExpr e.tracked = (Graph.ofExpr e.indexed).map Matcher.tracked :=
  Graph.ofExpr_map _ _

/-- **The paths of a tracked pattern are those of the pattern**, in the same order. -/
lemma map_untracked_acceptingTrails :
    (acceptingTrails (Graph.ofExpr e.tracked) w).map (List.map (TrailItem.mapOutput Prod.fst)) =
      acceptingTrails (Graph.ofExpr e) w := by
  have houtputs : ∀ (l : Matcher τ ο × Nat) t,
      ((Matcher.tracked l).outputs t).map Prod.fst = l.1.outputs t := by
    intro l t
    rw [Matcher.tracked, List.map_map]
    exact List.zipIdx_map_fst 0 (l.1.outputs t)
  have htrails := map_mapOutput_trailsFrom (g := Graph.ofExpr e.indexed) houtputs
    NodeId.initial w
  rw [ofExpr_tracked, ofExpr_eq_map_indexed, acceptingTrails, acceptingTrails, ← htrails,
    List.filter_map]
  refine congrArg _ (List.filter_congr fun trail _ => ?_)
  rw [Function.comp_apply, trailEnd_mapOutput]
  rfl

/-- Every item of a trail is at the node of the leaf that it tells, and has the output of this leaf for
its token that it tells. -/
lemma forall₂_of_mem_trailsFrom_tracked {p : NodeId} {trail : List (TrailItem (ο × Nat × Nat))}
    (h : trail ∈ trailsFrom (Graph.ofExpr e.tracked) p w) :
    List.Forall₂ (fun i t => i.node = e.leafNode i.output.2.1 ∧
      ∃ m, e.leaves[i.output.2.1]? = some m ∧
        (m.outputs t)[i.output.2.2]? = some i.output.1) trail w := by
  induction w generalizing p trail with
  | nil =>
      obtain rfl : trail = [] := List.mem_singleton.mp h
      exact .nil
  | cons t rest ih =>
      simp only [trailsFrom, ofExpr_tracked, Graph.moves_map, List.mem_flatMap, List.mem_map]
        at h
      obtain ⟨_, ⟨⟨edge, m, k⟩, hm, rfl⟩, o, ho, trail', htrail, rfl⟩ := h
      obtain ⟨hleaf, hnode⟩ :=
        (Graph.matcher?_ofExpr_indexed e edge.target m k).mp (Graph.mem_moves.mp hm).2
      rw [← ofExpr_tracked] at htrail
      obtain ⟨⟨o, j⟩, hoj, rfl⟩ := List.mem_map.mp ho
      exact .cons ⟨hnode, m, hleaf, List.mk_mem_zipIdx_iff_getElem?.mp hoj⟩ (ih htrail)

/-! ## Visits along words -/

/-- The visits along a sequence of numbered leaves: for every leaf one of its outputs. -/
def picks : List (Matcher τ ο × Nat) → List τ → List (List (Nat × Nat))
  | [], [] => [[]]
  | l :: u, t :: rest => (List.range (l.1.outputs t).length).flatMap fun j =>
      (picks u rest).map ((l.2, j) :: ·)
  | _, _ => []

lemma map_visitsOf_fillings (r : List (Move (Matcher τ ο × Nat))) :
    (fillings (r.map (Graph.moveMap Matcher.tracked)) w).map visitsOf =
      picks (r.map Prod.snd) w := by
  induction r generalizing w with
  | nil => cases w <;> rfl
  | cons m r ih =>
      cases w with
      | nil => rfl
      | cons t rest =>
          have hrange : List.range (m.2.1.outputs t).length =
              (m.2.1.outputs t).zipIdx.map Prod.snd := by
            rw [List.zipIdx_map_snd, List.range_eq_range']
          simp only [List.map_cons, Graph.moveMap, fillings, Matcher.tracked, picks, hrange, ← ih,
            List.flatMap_map, List.map_flatMap, List.map_map]
          rfl

lemma numbers_of_mem_picks {u : List (Matcher τ ο × Nat)} {w : List τ} {s : List (Nat × Nat)}
    (h : s ∈ picks u w) : s.map Prod.fst = u.map Prod.snd ∧ u.length = w.length := by
  induction u generalizing w s with
  | nil =>
      cases w with
      | nil => simp_all [picks]
      | cons t rest => simp [picks] at h
  | cons l u ih =>
      cases w with
      | nil => simp [picks] at h
      | cons t rest =>
          simp only [picks, List.mem_flatMap, List.mem_map] at h
          obtain ⟨j, _, s, hs, rfl⟩ := h
          obtain ⟨hnumbers, hlen⟩ := ih hs
          exact ⟨congrArg (l.2 :: ·) hnumbers, congrArg Nat.succ hlen⟩

lemma nodup_picks (u : List (Matcher τ ο × Nat)) : (picks u w).Nodup := by
  induction u generalizing w with
  | nil => cases w <;> simp [picks]
  | cons l u ih =>
      cases w with
      | nil => exact List.nodup_nil
      | cons t rest =>
          refine List.nodup_flatMap.mpr ⟨fun j _ => ?_, ?_⟩
          · exact (ih rest).map fun s s' hs => (List.cons.inj hs).2
          · refine List.nodup_range.imp fun {j j'} hne s hs hs' => ?_
            obtain ⟨_, _, rfl⟩ := List.mem_map.mp hs
            obtain ⟨_, _, heq⟩ := List.mem_map.mp hs'
            exact hne (Prod.mk.inj (List.cons.inj heq).1).2.symm

/-- The visits of accepting trails, route by route. -/
lemma perm_map_visitsOf :
    ((acceptingTrails (Graph.ofExpr e.tracked) w).map visitsOf).Perm
      (((Graph.ofExpr e.indexed).acceptingRoutes w.length).flatMap fun r =>
        picks (r.map Prod.snd) w) := by
  refine ((perm_acceptingTrails (Graph.ofExpr e.tracked) w).map visitsOf).trans (List.Perm.of_eq ?_)
  rw [ofExpr_tracked, Graph.acceptingRoutes_map, List.flatMap_map, List.map_flatMap]
  exact List.flatMap_congr fun r _ => map_visitsOf_fillings w r

/-- **The visits of a pattern are those along its words.** -/
theorem mem_map_visitsOf_iff {s : List (Nat × Nat)} :
    s ∈ (acceptingTrails (Graph.ofExpr e.tracked) w).map visitsOf ↔
      ∃ u ∈ e.indexed.words, s ∈ picks u w := by
  rw [(perm_map_visitsOf e w).mem_iff, List.mem_flatMap]
  constructor
  · rintro ⟨r, hr, hs⟩
    obtain ⟨⟨hr, _⟩, hacc⟩ := Graph.mem_acceptingRoutes.mp hr
    obtain ⟨⟨_, a⟩, ha, rfl⟩ := Graph.accepts_iff.mp hacc
    exact ⟨_, (Graph.mem_words_iff_exists_route _).mpr ⟨r, hr, ⟨a, ha⟩, rfl⟩, hs⟩
  · rintro ⟨u, hu, hs⟩
    obtain ⟨r, hr, ⟨a, ha⟩, rfl⟩ := (Graph.mem_words_iff_exists_route _).mp hu
    have hlen := (numbers_of_mem_picks hs).2
    rw [List.length_map] at hlen
    exact ⟨r, Graph.mem_acceptingRoutes.mpr ⟨⟨hr, hlen⟩, Graph.accepts_iff.mpr ⟨_, ha, rfl⟩⟩, hs⟩

/-- **Without captures no visits come twice.** -/
theorem nodup_map_visitsOf (h : e.captureFree = true) :
    ((acceptingTrails (Graph.ofExpr e.tracked) w).map visitsOf).Nodup := by
  rw [(perm_map_visitsOf e w).nodup_iff]
  have hroutes : ((Graph.ofExpr e.indexed).acceptingRoutes w.length).Nodup :=
    (Graph.nodup_routesFrom (Graph.nodup_edgesFrom_ofExpr _) _ _).filter _
  refine List.nodup_flatMap.mpr ⟨fun r _ => nodup_picks w _, ?_⟩
  refine hroutes.pairwise_of_forall_ne fun r hr r' hr' hne s hs hs' => hne ?_
  have hroute := (Graph.mem_acceptingRoutes.mp hr).1.1
  have hroute' := (Graph.mem_acceptingRoutes.mp hr').1.1
  have hnumbers := (numbers_of_mem_picks hs).1.symm.trans (numbers_of_mem_picks hs').1
  rw [List.map_map, List.map_map] at hnumbers
  exact Graph.eq_of_map_number_eq h hroute hroute' hnumbers

/-! ## Compiled patterns -/

/-- A list of tracked paths tells the visits of the paths of a pattern, path by path. -/
structure Expr.Tracks (e : Expr (Matcher τ ο)) (w : List τ)
    (ps : List (AcceptingPath (ο × Nat × Nat))) : Prop where
  tracked : paths (Graph.ofExpr e.tracked) Limits.unbounded w = .ok ps
  untracked : ((Program.compile e).withLimits Limits.unbounded).paths w =
    .ok (ps.map AcceptingPath.untracked)
  /-- Every item is at the leaf and has the output of which it tells the numbers. -/
  items : ∀ path ∈ ps, List.Forall₂ (fun i t => i.node = e.leafNode i.output.2.1 ∧
    ∃ m, e.leaves[i.output.2.1]? = some m ∧
      (m.outputs t)[i.output.2.2]? = some i.output.1) path.trail w

lemma Expr.tracks_acceptingTrails :
    e.Tracks w ((acceptingTrails (Graph.ofExpr e.tracked) w).map AcceptingPath.ofTrail) where
  tracked := paths_unbounded _ w
  untracked := by
    have hofTrail : ∀ trail : List (TrailItem (ο × Nat × Nat)),
        (AcceptingPath.ofTrail trail).untracked =
          AcceptingPath.ofTrail (trail.map (TrailItem.mapOutput Prod.fst)) := fun trail =>
      congrArg (AcceptingPath.mk · _) (trailEnd_mapOutput Prod.fst _ trail).symm
    refine (paths_unbounded (Graph.ofExpr e) w).trans (congrArg Except.ok ?_)
    rw [← map_untracked_acceptingTrails, List.map_map, List.map_map]
    exact List.map_congr_left fun trail _ => (hofTrail trail).symm
  items := by
    intro path hpath
    obtain ⟨trail, htrail, rfl⟩ := List.mem_map.mp hpath
    exact forall₂_of_mem_trailsFrom_tracked e w (List.mem_filter.mp htrail).1

lemma map_visits_ofTrail (trails : List (List (TrailItem (ο × Nat × Nat)))) :
    (trails.map AcceptingPath.ofTrail).map AcceptingPath.visits = trails.map visitsOf := by
  rw [List.map_map]
  rfl

/-- Captures have no part in the language of a pattern. -/
lemma Expr.language_ungrouped : e.ungrouped.language = e.language := by
  ext w
  rw [mem_language_iff, mem_language_iff, words_ungrouped]

lemma isMatch_ungrouped :
    ∃ verdict, ((Program.compile e).withLimits Limits.unbounded).isMatch w = .ok verdict ∧
      ((Program.compile e.ungrouped).withLimits Limits.unbounded).isMatch w = .ok verdict := by
  obtain ⟨verdict, hmatch, hverdict⟩ := Program.exists_isMatch e w
  obtain ⟨verdict', hmatch', hverdict'⟩ := Program.exists_isMatch e.ungrouped w
  rw [e.language_ungrouped, ← hverdict, ← Bool.eq_iff_iff] at hverdict'
  exact ⟨verdict, hmatch, hverdict' ▸ hmatch'⟩

lemma length_acceptingTrails_tracked : (acceptingTrails (Graph.ofExpr e.tracked) w).length =
    (acceptingTrails (Graph.ofExpr e) w).length := by
  rw [← map_untracked_acceptingTrails e w, List.length_map]

/-- **Captures never change what matches.**  A pattern and the same without its captures agree on which
sequences match and on the visits of their paths.  Without captures there is one path for each of these
visits, so that there are no more matches than with them. -/
theorem visits_ungrouped :
    let program (e : Expr (Matcher τ ο)) := (Program.compile e).withLimits Limits.unbounded
    e.ungrouped.leaves = e.leaves ∧
      (∃ verdict, (program e).isMatch w = .ok verdict ∧
        (program e.ungrouped).isMatch w = .ok verdict) ∧
      (∃ ps ps', e.Tracks w ps ∧ e.ungrouped.Tracks w ps' ∧
        (∀ s, s ∈ ps.map AcceptingPath.visits ↔ s ∈ ps'.map AcceptingPath.visits) ∧
        (ps'.map AcceptingPath.visits).Nodup) ∧
      ∃ ms ms', (program e).allMatches w = .ok ms ∧ (program e.ungrouped).allMatches w = .ok ms' ∧
        ms'.length ≤ ms.length := by
  intro program
  have hvisits : ∀ s, s ∈ (acceptingTrails (Graph.ofExpr e.tracked) w).map visitsOf ↔
      s ∈ (acceptingTrails (Graph.ofExpr e.ungrouped.tracked) w).map visitsOf := by
    intro s
    rw [mem_map_visitsOf_iff, mem_map_visitsOf_iff, Expr.words_indexed_ungrouped]
  have hnodup := nodup_map_visitsOf e.ungrouped w e.captureFree_ungrouped
  refine ⟨e.leaves_ungrouped, isMatch_ungrouped e w, ⟨_, _, e.tracks_acceptingTrails w,
    e.ungrouped.tracks_acceptingTrails w, ?_, ?_⟩, ?_⟩
  · simpa only [map_visits_ofTrail] using hvisits
  · simpa only [map_visits_ofTrail] using hnodup
  · obtain ⟨ms, hms, hall⟩ := exists_allMatches_of_paths e (paths_unbounded _ w)
    obtain ⟨ms', hms', hall'⟩ := exists_allMatches_of_paths e.ungrouped (paths_unbounded _ w)
    refine ⟨ms, ms', hms, hms', ?_⟩
    have hle := (List.subperm_of_subset hnodup fun s => (hvisits s).mpr).length_le
    rw [List.length_map, List.length_map, length_acceptingTrails_tracked,
      length_acceptingTrails_tracked] at hle
    exact hall'.length_eq.symm.trans_le (hle.trans_eq hall.length_eq)

end

end TokenPattern
