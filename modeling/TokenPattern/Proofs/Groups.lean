import TokenPattern.Proofs.Derivations
import TokenPattern.Proofs.Match.Arena
import TokenPattern.Proofs.Net.Framing

/-!
# Groups mirror the captures of a pattern

Replaying the boundaries of a trail could fail: a group could be closed that is not open, or not the
innermost.  On the graph of a pattern that never happens.  Every node has a list of captures that
enclose its leaf (`Expr.enclosing`), every edge leads from the list of its source to that of its
target (`exists_framed_ofExpr`), and replaying follows the edges (`exists_replay_of_follows`).

`groups_ofExpr` draws the conclusion: no run of a compiled pattern ends in a malformed graph, and
behind every item of a trail exactly the captures around its leaf are open.
-/

namespace TokenPattern

universe u v

/-! ## Boundaries and open groups -/

/-- What a boundary makes of the names of the open groups, innermost first. -/
def Marker.act : Marker → List String → Option (List String)
  | .start n, c => some (n :: c)
  | .stop n, n' :: c => if n' = n then some c else none
  | .stop _, [] => none

/-- The framing by the names of groups. -/
def Framing.groups : Framing Marker where
  act := Marker.act
  mark := pure
  Inside _ := True
  start _ := rfl
  stop {n c} _ := by
    show (Marker.stop n).act (n :: c) >>= pure = some c
    rw [Marker.act, if_pos rfl]
    rfl
  inside _ := trivial

namespace Replay

variable {ο : Type} (outputs : List ο) (position : Nat)

/-- The names of the open groups, innermost first. -/
def names (r : Replay ο) : List String := r.opened.map OpenGroup.name

lemma names_add (r : Replay ο) (name : String) (m : Match (List ο)) :
    (r.add name m).names = r.names := by
  rw [add]
  cases h : r.opened with
  | nil => simp [names, h]
  | cons g rest => simp [names, h]

/-- A boundary that fits the open groups can be replayed. -/
lemma exists_boundary {r : Replay ο} {m : Marker} {c : List String} (h : m.act r.names = some c) :
    ∃ r', boundary outputs position r m = .ok r' ∧ r'.names = c := by
  cases m with
  | start n =>
      obtain rfl : n :: r.names = c := Option.some.inj h
      exact ⟨_, rfl, rfl⟩
  | stop n =>
      cases hr : r.opened with
      | nil => simp [names, hr, Marker.act] at h
      | cons g rest =>
          simp only [names, hr, List.map_cons, Marker.act] at h
          split_ifs at h with hn
          obtain rfl := Option.some.inj h
          refine ⟨_, by rw [boundary, hr]; exact if_pos hn, ?_⟩
          rw [names_add]
          rfl

lemma exists_foldlM_boundary {markers : List Marker} {r : Replay ο} {c : List String}
    (h : Framing.groups.run markers r.names = some c) :
    ∃ r', markers.foldlM (boundary outputs position) r = .ok r' ∧ r'.names = c := by
  induction markers generalizing r with
  | nil => exact ⟨r, rfl, Option.some.inj h⟩
  | cons m rest ih =>
      rw [Framing.run, List.foldlM_cons] at h
      obtain ⟨d, hd, h⟩ := Option.bind_eq_some_iff.mp h
      obtain ⟨r', hr', rfl⟩ := exists_boundary outputs position hd
      obtain ⟨r'', hr'', hc⟩ := ih h
      refine ⟨r'', ?_, hc⟩
      rw [List.foldlM_cons, hr']
      exact hr''

end Replay

/-! ## Frames of graphs -/

namespace Net

variable {α : Type u} {σ : Type v} {F : Framing σ} {K : Set (List String × α)} {G G' : Net α σ}
  {ρ : Nat → Option Nat} {ctx : Nat → List String}

open Classical in
/-- A frame goes along when nodes are renamed. -/
lemma Renames.exists_framed (hρ : Renames ρ G G') (h : G.Framed F K ctx) :
    ∃ ctx', G'.Framed F K ctx' ∧ ∀ {i n : Nat}, ρ i = some n → ctx' n = ctx i := by
  let ctx' : Nat → List String := fun n => if hn : ∃ i, ρ i = some n then ctx hn.choose else []
  have hctx : ∀ {i n : Nat}, ρ i = some n → ctx' n = ctx i := by
    intro i n hi
    have hn : ∃ i, ρ i = some n := ⟨i, hi⟩
    show (if hn : ∃ i, ρ i = some n then ctx hn.choose else []) = ctx i
    rw [dif_pos hn, hρ.inj hn.choose_spec hi]
  refine ⟨ctx', ?_, hctx⟩
  constructor
  · intro p s a hl
    obtain ⟨i, j, hi, hj, hl⟩ := hρ.link.mp hl
    rw [hctx hi, hctx hj]
    exact h.link hl
  · intro n f hn
    obtain ⟨i, hi, hf⟩ := hρ.node.mp hn
    rw [hctx hi]
    exact h.inside hf
  · intro n f hn k hk
    obtain ⟨i, hi, hf⟩ := hρ.node.mp hn
    rw [hctx hi] at hk
    exact h.leaf hf k hk

end Net

namespace Graph

variable {α : Type u}

/-- **The graph of a pattern is framed by its captures.** -/
theorem exists_framed_ofExpr (e : Expr α) : ∃ ctx,
    (ofExpr e).net.Framed Framing.groups {k | k ∈ e.contexts []} ctx ∧
      ctx NodeId.initial = [] := by
  obtain ⟨hc, hp, _⟩ := Draft.drain_start e
  have hstart : (Draft.start e).net.Framed Framing.groups {k | k ∈ e.contexts []}
      fun _ => [] := by
    constructor
    · intro p s a hl
      have ha : a = [] := by
        rcases (Draft.link_start e p s a).mp hl with h | h <;> exact h.2.2
      rw [ha]
      rfl
    · exact fun _ => trivial
    · intro i f hi k hk
      have hnode := (Draft.node_start e i).symm.trans hi
      split_ifs at hnode
      obtain rfl : e = f := Option.some.inj hnode
      exact hk
  obtain ⟨x', hu, _⟩ := Draft.exists_unfolds (Draft.consistent_start e)
  obtain ⟨ctx, hframed, hold⟩ := Net.Unfolds.exists_framed (F := Framing.groups) hu
    (Draft.consistent_start e).below hstart
  obtain ⟨ctx', hframed', hctx'⟩ := (Draft.renames_freeze hc hp).exists_framed hframed
  have hzero : 0 < (Draft.start e).slots.size :=
    Nat.lt_of_lt_of_le Nat.two_pos (Draft.consistent_start e).two_le_size
  exact ⟨ctx', hframed', (hctx' (Draft.number_of_lt_two hc Nat.two_pos)).trans (hold 0 hzero)⟩

/-- Whether the items of a trail follow edges to leaves, the first one from a node. -/
def Follows {ο : Type} (g : Graph α) : NodeId → List (TrailItem ο) → Prop
  | _, [] => True
  | p, i :: trail => (⟨i.node, i.markers⟩ : Edge) ∈ g.edgesFrom p ∧
      (g.matcher? i.node).isSome = true ∧ g.Follows i.node trail

lemma follows_map {ο : Type} {β : Type v} {g : Graph α} {f : α → β} {p : NodeId}
    {trail : List (TrailItem ο)} : (g.map f).Follows p trail ↔ g.Follows p trail := by
  induction trail generalizing p with
  | nil => exact Iff.rfl
  | cons i trail ih => simp only [Follows, edgesFrom_map, matcher?_map, Option.isSome_map, ih]

lemma Follows.append {ο : Type} {g : Graph α} {p : NodeId} {trail after : List (TrailItem ο)}
    (h : g.Follows p (trail ++ after)) : g.Follows p trail := by
  induction trail generalizing p with
  | nil => trivial
  | cons i trail ih => exact ⟨h.1, h.2.1, ih h.2.2⟩

lemma Follows.exists_matcher {ο : Type} {g : Graph α} {p : NodeId} {trail : List (TrailItem ο)}
    {i : TrailItem ο} (h : g.Follows p (trail ++ [i])) :
    trailEnd p (trail ++ [i]) = i.node ∧ ∃ l, g.matcher? i.node = some l := by
  induction trail generalizing p with
  | nil => exact ⟨rfl, Option.isSome_iff_exists.mp h.2.1⟩
  | cons j trail ih => exact ih h.2.2

/-- Replaying the boundaries of a trail leaves open what is open at its end. -/
lemma exists_replay_of_follows {ο : Type} {g : Graph α} {K : Set (List String × α)}
    {ctx : Nat → List String} (h : g.net.Framed Framing.groups K ctx) (outputs : List ο)
    {p : NodeId} {trail : List (TrailItem ο)} (hf : g.Follows p trail) (position : Nat)
    {r : Replay ο} (hr : r.names = ctx p) :
    ∃ r', Replay.items outputs position r (trail.map TrailItem.markers) = .ok r' ∧
      r'.names = ctx (trailEnd p trail) := by
  induction trail generalizing p position r with
  | nil => exact ⟨r, rfl, hr⟩
  | cons i trail ih =>
      obtain ⟨he, _, hf⟩ := hf
      have hrun := h.link he
      rw [← hr] at hrun
      obtain ⟨r', hr', hnames⟩ := Replay.exists_foldlM_boundary outputs position hrun
      obtain ⟨r'', hr'', hnames'⟩ := ih hf (position + 1) hnames
      refine ⟨r'', ?_, hnames'⟩
      rw [List.map_cons, Replay.items, hr']
      exact hr''

end Graph

/-! ## Captures around leaves -/

namespace Expr

variable {α : Type u}

/-- The leaves from left to right, each with the captures around it, outermost first. -/
def enclosing : Expr α → List (List String × α)
  | leaf m => [([], m)]
  | concat l r | alt l r => l.enclosing ++ r.enclosing
  | maybe x | star x => x.enclosing
  | capture n x => x.enclosing.map fun p => (n :: p.1, p.2)

lemma length_enclosing (e : Expr α) : e.enclosing.length = e.leafCount := by
  induction e with
  | leaf m => rfl
  | concat l r ihl ihr => rw [enclosing, List.length_append, ihl, ihr, leafCount]
  | alt l r ihl ihr => rw [enclosing, List.length_append, ihl, ihr, leafCount]
  | maybe x ih => exact ih
  | star x ih => exact ih
  | capture n x ih => rw [enclosing, List.length_map, ih, leafCount]

lemma contexts_indexFrom (e : Expr α) (k : Nat) (c : List String) :
    (e.indexFrom k).contexts c =
      (e.enclosing.zipIdx k).map fun p => (p.1.1.reverse ++ c, (p.1.2, p.2)) := by
  induction e generalizing k c with
  | leaf m => rfl
  | concat l r ihl ihr =>
      rw [indexFrom, contexts, enclosing, List.zipIdx_append, List.map_append, ihl, ihr,
        length_enclosing]
  | alt l r ihl ihr =>
      rw [indexFrom, contexts, enclosing, List.zipIdx_append, List.map_append, ihl, ihr,
        length_enclosing]
  | maybe x ih => exact ih k c
  | star x ih => exact ih k c
  | capture n x ih =>
      rw [indexFrom, contexts, enclosing, ih, List.zipIdx_map, List.map_map]
      refine List.map_congr_left fun p _ => ?_
      simp

/-- The stack at a numbered leaf is the list of captures around it. -/
lemma mem_contexts_indexed_iff {e : Expr α} {c : List String} {m : α} {k : Nat} :
    (c, (m, k)) ∈ e.indexed.contexts [] ↔ e.enclosing[k]? = some (c.reverse, m) := by
  rw [indexed, contexts_indexFrom, List.mem_map]
  constructor
  · rintro ⟨⟨⟨ns, m'⟩, k'⟩, hp, heq⟩
    simp only [List.append_nil, Prod.mk.injEq] at heq
    obtain ⟨rfl, rfl, rfl⟩ := heq
    rw [List.reverse_reverse]
    exact List.mk_mem_zipIdx_iff_getElem?.mp hp
  · intro h
    exact ⟨((c.reverse, m), k), List.mk_mem_zipIdx_iff_getElem?.mpr h, by simp⟩

end Expr

section

variable {τ ο : Type}

lemma follows_of_mem_trailsFrom {g : Graph (Matcher τ ο)} {p : NodeId} {input : List τ}
    {trail : List (TrailItem ο)} (h : trail ∈ trailsFrom g p input) : g.Follows p trail := by
  induction input generalizing p trail with
  | nil =>
      obtain rfl : trail = [] := by simpa [trailsFrom] using h
      trivial
  | cons t rest ih =>
      simp only [trailsFrom, List.mem_flatMap, List.mem_map] at h
      obtain ⟨m, hm, o, _, trail', h, rfl⟩ := h
      obtain ⟨he, hq⟩ := Graph.mem_moves.mp hm
      exact ⟨he, by rw [hq]; rfl, ih h⟩

/-- Every trail of a run can be replayed. -/
lemma exists_reconstruct (e : Expr (Matcher τ ο)) {input : List τ} {trail : List (TrailItem ο)}
    (h : trail ∈ acceptingTrails (Graph.ofExpr e) input) :
    ∃ m, reconstruct trail = .ok m := by
  obtain ⟨ctx, hframed, hctx⟩ := Graph.exists_framed_ofExpr e
  have hf := follows_of_mem_trailsFrom (List.mem_of_mem_filter h)
  have hinitial : (Replay.initial : Replay ο).names = ctx NodeId.initial := hctx.symm
  obtain ⟨r, hr, _⟩ := Graph.exists_replay_of_follows hframed (trail.map TrailItem.output) hf 0
    hinitial
  exact ⟨_, by rw [reconstruct_eq_replay, replay, hr]; rfl⟩

lemma exists_mapM_ok {χ ψ ε : Type} {f : χ → Except ε ψ} {l : List χ}
    (h : ∀ x ∈ l, ∃ y, f x = .ok y) :
    ∃ ys, l.mapM f = .ok ys ∧ List.Forall₂ (fun x y => f x = .ok y) l ys := by
  induction l with
  | nil => exact ⟨[], rfl, .nil⟩
  | cons x l ih =>
      obtain ⟨y, hy⟩ := h x List.mem_cons_self
      obtain ⟨ys, hys, hall⟩ := ih fun z hz => h z (List.mem_cons_of_mem x hz)
      exact ⟨y :: ys, by rw [List.mapM_cons, hy, hys]; rfl, .cons hy hall⟩

/-- If a run has its paths, all of them have matches. -/
lemma exists_allMatches_of_paths (e : Expr (Matcher τ ο)) {limits : Limits} {input : List τ}
    (h : paths (Graph.ofExpr e) limits input =
      .ok ((acceptingTrails (Graph.ofExpr e) input).map AcceptingPath.ofTrail)) :
    ∃ ms, ((Program.compile e).withLimits limits).allMatches input = .ok ms ∧
      List.Forall₂ (fun trail m => reconstruct trail = .ok m)
        (acceptingTrails (Graph.ofExpr e) input) ms := by
  have hpaths : ((Program.compile e).withLimits limits).paths input =
      paths (Graph.ofExpr e) limits input := rfl
  obtain ⟨ms, hms, hall⟩ := exists_mapM_ok
    (f := fun path : AcceptingPath ο => reconstruct path.trail)
    (l := (acceptingTrails (Graph.ofExpr e) input).map AcceptingPath.ofTrail) (by
      intro path hpath
      obtain ⟨trail, htrail, rfl⟩ := List.mem_map.mp hpath
      exact exists_reconstruct e htrail)
  rw [List.forall₂_map_left_iff] at hall
  exact ⟨ms, by rw [Program.allMatches, hpaths, h]; exact hms, hall⟩

/-- The matches of a compiled pattern, unless a run exceeds its limits. -/
lemma allMatches_eq (e : Expr (Matcher τ ο)) (limits : Limits) (input : List τ) :
    (∃ ms, ((Program.compile e).withLimits limits).allMatches input = .ok ms ∧
      List.Forall₂ (fun trail m => reconstruct trail = .ok m)
        (acceptingTrails (Graph.ofExpr e) input) ms) ∨
    ∃ size max position, limits.maxFrontier = some max ∧
      ((Program.compile e).withLimits limits).allMatches input =
        .error (.frontierExceeded size max position) := by
  have hpaths : ((Program.compile e).withLimits limits).paths input =
      paths (Graph.ofExpr e) limits input := rfl
  rcases paths_eq (Graph.ofExpr e) limits input with h | ⟨size, max, position, hmax, h⟩
  · exact Or.inl (exists_allMatches_of_paths e h)
  · rw [Program.allMatches, hpaths, h]
    exact Or.inr ⟨size, max, position, hmax, rfl⟩

lemma mem_iff_of_forall₂ {χ ψ ε : Type} {f : χ → Except ε ψ} {l : List χ} {ys : List ψ}
    (h : List.Forall₂ (fun x y => f x = .ok y) l ys) (y : ψ) :
    y ∈ ys ↔ ∃ x ∈ l, f x = .ok y := by
  induction h with
  | nil => simp
  | @cons x y' l ys hx _ ih =>
      have hhere : y = y' ↔ f x = .ok y := by
        rw [hx, Except.ok.injEq]
        exact eq_comm
      rw [List.mem_cons, ih, List.exists_mem_cons_iff, hhere]

/-- The matches of a compiled pattern are what the trails of a run are replayed to. -/
lemma mem_allMatches_iff (e : Expr (Matcher τ ο)) {limits : Limits} {input : List τ}
    {ms : List (Match (List ο))}
    (h : ((Program.compile e).withLimits limits).allMatches input = .ok ms) (m : Match (List ο)) :
    m ∈ ms ↔ ∃ trail ∈ acceptingTrails (Graph.ofExpr e) input, reconstruct trail = .ok m := by
  rcases allMatches_eq e limits input with ⟨ms', hms', hall⟩ | ⟨_, _, _, _, herr⟩
  · obtain rfl := Except.ok.inj (hms'.symm.trans h)
    exact mem_iff_of_forall₂ hall m
  · exact absurd (herr.symm.trans h) (by simp)

/-- Without limits there is always a list of matches. -/
lemma exists_allMatches (e : Expr (Matcher τ ο)) (input : List τ) :
    ∃ ms, ((Program.compile e).withLimits Limits.unbounded).allMatches input = .ok ms := by
  obtain ⟨ms, hms, _⟩ := exists_allMatches_of_paths e (paths_unbounded (Graph.ofExpr e) input)
  exact ⟨ms, hms⟩

/-- **Groups mirror captures.**  No run of a compiled pattern ends in a malformed graph; and on every
way through its graph, behind every item exactly the captures around the leaf of this item are
open, in a replay as on the stack of the arena. -/
theorem groups_ofExpr (e : Expr (Matcher τ ο)) :
    (∀ limits input opened name position,
      ((Program.compile e).withLimits limits).allMatches input ≠
        .error (.malformedGraph opened name position)) ∧
    ∀ (before after : List (TrailItem ο)) (item : TrailItem ο),
      (Graph.ofExpr e).Follows NodeId.initial (before ++ item :: after) →
      ∃ k captures m r a, e.enclosing[k]? = some (captures, m) ∧ item.node = e.leafNode k ∧
        Replay.items ((before ++ item :: after).map TrailItem.output) 0 Replay.initial
          ((before ++ [item]).map TrailItem.markers) = .ok r ∧
        (r.opened.map OpenGroup.name).reverse = captures ∧
        Arena.items 0 Arena.initial (before ++ [item]) = .ok a ∧
        (a.stack.map Prod.fst).reverse = captures := by
  refine ⟨?_, ?_⟩
  · intro limits input opened name position heq
    rcases allMatches_eq e limits input with ⟨ms, h, _⟩ | ⟨_, _, _, _, h⟩
    · rw [h] at heq
      exact absurd heq (by simp)
    · rw [h] at heq
      exact absurd heq (by simp)
  · intro before after item hf
    have hmap : Graph.ofExpr e = (Graph.ofExpr e.indexed).map Prod.fst := by
      rw [← Graph.ofExpr_map, Expr.map_fst_indexed]
    rw [hmap, Graph.follows_map, ← List.singleton_append, ← List.append_assoc] at hf
    obtain ⟨hend, ⟨m, k⟩, hleaf⟩ := hf.append.exists_matcher
    obtain ⟨ctx, hframed, hctx⟩ := Graph.exists_framed_ofExpr e.indexed
    have hinitial : (Replay.initial : Replay ο).names = ctx NodeId.initial := hctx.symm
    obtain ⟨r, hr, hnames⟩ := Graph.exists_replay_of_follows hframed
      ((before ++ item :: after).map TrailItem.output) hf.append 0 hinitial
    rw [hend] at hnames
    have hmem : (ctx item.node, (m, k)) ∈ e.indexed.contexts [] :=
      hframed.leaf (Graph.net_node_eq_some_iff.mpr ⟨_, hleaf, rfl⟩) _ List.mem_cons_self
    have hsplit : Replay.items ((before ++ [item] ++ after).map TrailItem.output) 0 Replay.initial
        ((before ++ [item]).map TrailItem.markers) = .ok r := by
      rw [List.append_assoc]
      exact hr
    obtain ⟨a, ha, hstack⟩ := exists_items_of_replay hsplit
    have hcaptures : (r.opened.map OpenGroup.name).reverse = (ctx item.node).reverse := by
      rw [← hnames]
      rfl
    refine ⟨k, _, m, r, a, Expr.mem_contexts_indexed_iff.mp hmem,
      ((Graph.matcher?_ofExpr_indexed e item.node m k).mp hleaf).2, hr, hcaptures, ha, ?_⟩
    rw [hstack, hcaptures]

end

end TokenPattern
