import TokenPattern.Proofs.Draft.Leaves
import TokenPattern.Proofs.Net.Alone

/-!
# The words of a compiled pattern

A way through a graph from the initial to the terminal node has a word: the leaves that it comes
through with the boundaries crossed in between.  This file compares `Graph.markedWords`, the words of
the graph of a pattern, with `Expr.derivations`, the words that the operators of the pattern say it
has.

* `markedWords_ofExpr_le` — every word of the graph is a derivation.
* `markedWords_ofExpr` — the converse holds if the bodies of all repetitions read.  This does not
  depend on the order in which the pattern is taken apart (`markedWords_freeze`).
* `mem_words_iff` — without the boundaries it holds always.

**Nullable bodies.**  If a repetition has a body that may be empty, its derivations may run through
empty rounds, any number of them and each with boundaries of its own.  A graph has finitely many
edges, so it cannot have all of these words.
-/

namespace TokenPattern

open scoped Computability

universe u v w

variable {α : Type u}

/-- The reading that keeps leaves and boundaries as they are. -/
def Reading.marked : Reading α (Marker ⊕ α) := ⟨fun l => {[.inr l]}, fun m => [.inl m]⟩

/-- The reading that keeps the leaves. -/
def Reading.plain : Reading α α := ⟨fun l => {[l]}, Marker.silent⟩

/-- The derivations of a pattern: its leaves in the order in which they are read, and the boundaries
crossed in between. -/
def Expr.derivations (e : Expr α) : Language (Marker ⊕ α) := e.denote Reading.marked

/-- The leaves of a pattern in the orders in which they may be read. -/
def Expr.words (e : Expr α) : Language α := e.denote Reading.plain

/-- The words of a graph. -/
def Graph.markedWords (g : Graph α) : Language (Marker ⊕ α) :=
  {t | (g.net.map Reading.marked.mark).Walk Reading.marked NodeId.initial t NodeId.terminal}

/-- A letter without the boundaries. -/
def Marker.forget : Marker ⊕ α → List α
  | .inl _ => []
  | .inr l => [l]

/-! ## The first net -/

namespace Draft

variable {σ : Type v} {R : Reading α σ} (e : Expr α)

lemma below_start : (start e).net.Below 3 := by
  have h := (consistent_start e).below
  rwa [slots_start] at h

/-- Before anything is rewritten, the pattern stands alone. -/
lemma net_start : (start e).net = Net.alone 2 e 1 1 0 0 := by
  refine Net.ext (funext fun i => node_start e i) ?_
  funext p a s
  refine propext ((link_start e p s a).trans ?_)
  constructor
  · rintro (⟨rfl, rfl, rfl⟩ | ⟨rfl, rfl, rfl⟩)
    · exact Or.inl ⟨rfl, rfl, rfl⟩
    · exact Or.inr (Or.inl ⟨rfl, rfl, rfl⟩)
  · rintro (⟨rfl, rfl, ha⟩ | ⟨rfl, rfl, ha⟩ | ⟨_, _, ha⟩ | ⟨_, _, ha⟩)
    · exact Or.inl ⟨rfl, rfl, ha⟩
    · exact Or.inr ⟨rfl, rfl, ha⟩
    · exact absurd ha (Language.notMem_zero a)
    · exact absurd ha (Language.notMem_zero a)

lemma map_net_start (f : Marker → List σ) : (start e).net.map f = Net.alone 2 e 1 1 0 0 := by
  have hone : List.flatMap f '' (1 : Language Marker) = (1 : Language σ) :=
    Set.image_singleton (f := List.flatMap f) (a := [])
  have hzero : List.flatMap f '' (0 : Language Marker) = (0 : Language σ) :=
    Set.image_empty (List.flatMap f)
  rw [net_start, Net.map_alone, hone, hzero]

/-- Its words are those of the pattern. -/
lemma walk_start_iff (t : List σ) :
    ((start e).net.map R.mark).Walk R NodeId.initial t NodeId.terminal ↔ t ∈ e.denote R := by
  have hwords : (0 : Language σ) + 1 * (e.denote R * 0)∗ * e.denote R * 1 = e.denote R := by
    rw [zero_add, mul_zero, kstar_zero, one_mul, one_mul, mul_one]
  rw [map_net_start, ← hwords]
  exact Net.walk_alone_iff le_rfl

/-- The first net is quiet, since nothing leads back to the pattern. -/
lemma quiet_start (f : Marker → List σ) {C : Set (List σ)} (h : e.starsRead = true ∨ [] ∈ C) :
    ((start e).net.map f).Quiet C := by
  rw [map_net_start]
  exact Net.quiet_alone le_rfl (Or.inr rfl) h

end Draft

/-! ## The finished graph -/

namespace Graph

variable {σ : Type v} {σ' : Type w} {R : Reading α σ} (e : Expr α)

/-- The walks of a graph are those of the last draft, which comes from the first by rewriting. -/
lemma exists_unfolds_ofExpr (R : Reading α σ) : ∃ T' x',
    ((Draft.start e).net.map R.mark).Unfolds R.mark 3 T' x' ∧ T'.LeavesFrom 0 ∧
    ∀ t, ((ofExpr e).net.map R.mark).Walk R NodeId.initial t NodeId.terminal ↔
      T'.Walk R NodeId.initial t NodeId.terminal := by
  obtain ⟨hc, hp, _⟩ := Draft.drain_start e
  have hmark : Net.mapMark R.mark pure = R.mark := funext fun m => List.flatMap_singleton R.mark m
  obtain ⟨x', hu, hleaves⟩ := Draft.exists_unfolds (Draft.consistent_start e)
  have hu' := hu.map R.mark
  rw [hmark, Draft.slots_start] at hu'
  refine ⟨_, x', hu', hleaves.map R.mark, fun t => ?_⟩
  exact ((Draft.renames_freeze hc hp).map R.mark).walk_iff (Draft.number_of_lt_two hc (by decide))
    (Draft.number_of_lt_two hc (by decide))

lemma mem_denote_of_walk_ofExpr {t : List σ}
    (h : ((ofExpr e).net.map R.mark).Walk R NodeId.initial t NodeId.terminal) :
    t ∈ e.denote R := by
  obtain ⟨T', x', hu, _, hw⟩ := exists_unfolds_ofExpr e R
  have hbelow := (Draft.below_start e).map R.mark
  exact (Draft.walk_start_iff e t).mp
    (hu.rewrites.walk_of_walk hbelow (by decide) (by decide) ((hw t).mp h))

/-- **A finished draft is correct under a reading**, in whatever order it was made, if a change of
alphabet that forgets all boundaries forgets nothing that could be on a loop. -/
theorem walk_freeze_iff {d : Draft α} {x' : Nat} (hc : d.Consistent) (hp : d.pending = [])
    (hr : (Draft.start e).net.Rewrites pure 3 d.net x') {f : σ → List σ'}
    (hf : Net.mapMark f R.mark = Marker.silent) {C : Set (List σ')}
    (hC : ∀ a : List σ, a.flatMap f ∈ C → a = []) (hs : e.starsRead = true ∨ [] ∈ C) (t : List σ) :
    (d.freeze.net.map R.mark).Walk R NodeId.initial t NodeId.terminal ↔ t ∈ e.denote R := by
  have hmark : Net.mapMark R.mark pure = R.mark := funext fun m => List.flatMap_singleton R.mark m
  have hu := hr.map R.mark
  rw [hmark] at hu
  have hquiet : (((Draft.start e).net.map R.mark).map f).Quiet C := by
    rw [Net.map_map]
    exact Draft.quiet_start e _ hs
  rw [((Draft.renames_freeze hc hp).map R.mark).walk_iff (Draft.number_of_lt_two hc (by decide))
    (Draft.number_of_lt_two hc (by decide)), ← Draft.walk_start_iff]
  exact hu.walk_iff ((Draft.below_start e).map R.mark) hf hC hquiet (by decide) (by decide)
    (Draft.node_start e 0) (Draft.node_start e 1)

/-- **Every word of the graph is a derivation.** -/
theorem markedWords_ofExpr_le : (ofExpr e).markedWords ≤ e.derivations :=
  fun _ ht => mem_denote_of_walk_ofExpr e ht

/-- **The words of a finished draft are the derivations** if the bodies of all repetitions read. -/
theorem markedWords_freeze (h : e.starsRead = true) {d : Draft α} {x' : Nat} (hc : d.Consistent)
    (hp : d.pending = []) (hr : (Draft.start e).net.Rewrites pure 3 d.net x') :
    d.freeze.markedWords = e.derivations := by
  have hf : Net.mapMark (fun _ => []) (Reading.marked (α := α)).mark =
      (Marker.silent : Marker → List α) :=
    funext fun m => List.flatMap_eq_nil_iff.mpr fun _ _ => rfl
  exact Set.ext fun t =>
    walk_freeze_iff e hc hp hr hf (C := ∅) (fun a ha => ha.elim) (Or.inl h) t

/-- **The words of the graph are the derivations** on the same condition. -/
theorem markedWords_ofExpr (h : e.starsRead = true) : (ofExpr e).markedWords = e.derivations := by
  obtain ⟨hc, hp, _⟩ := Draft.drain_start e
  obtain ⟨x', hu, _⟩ := Draft.exists_unfolds (Draft.consistent_start e)
  rw [Draft.slots_start] at hu
  exact markedWords_freeze e h hc hp hu.rewrites

/-- Every walk read without boundaries comes from one read with them. -/
lemma walk_plain_iff (g : Graph α) (u : List α) :
    (g.net.map Reading.plain.mark).Walk Reading.plain NodeId.initial u NodeId.terminal ↔
      ∃ t ∈ g.markedWords, t.flatMap Marker.forget = u := by
  have hplain : (g.net.map (Reading.marked : Reading α _).mark).map Marker.forget =
      g.net.map (Reading.plain : Reading α α).mark := Net.map_map _ _ _
  rw [← hplain]
  constructor
  · intro hw
    refine Net.exists_walk_of_walk_map ?_ hw
    intro q f z' hq hz'
    obtain ⟨l, _, rfl⟩ := net_node_eq_some_iff.mp hq
    exact ⟨[.inr l], rfl, hz'.symm⟩
  · rintro ⟨t, ht, rfl⟩
    refine Net.Walk.map ?_ ht
    intro q f z hq hz
    obtain ⟨l, _, rfl⟩ := net_node_eq_some_iff.mp hq
    obtain rfl : z = [.inr l] := hz
    exact rfl

/-- **Without the boundaries, the words of the graph are those of the pattern.** -/
theorem mem_words_iff (u : List α) :
    u ∈ e.words ↔ ∃ t ∈ (ofExpr e).markedWords, t.flatMap Marker.forget = u := by
  obtain ⟨T', x', hu, _, hw⟩ := exists_unfolds_ofExpr e Reading.plain
  have hbelow := (Draft.below_start e).map (Reading.plain : Reading α α).mark
  have hquiet := Draft.quiet_start e (Reading.plain : Reading α α).mark (C := {[]}) (Or.inr rfl)
  have hwalk := hu.rewrites.walk_iff_of_quiet hbelow rfl hquiet (p := NodeId.initial)
    (s := NodeId.terminal) (by decide) (by decide) (Draft.node_start e 0) (Draft.node_start e 1)
    (t := u)
  rw [← walk_plain_iff, hw, hwalk, Draft.walk_start_iff]
  rfl

end Graph

end TokenPattern
