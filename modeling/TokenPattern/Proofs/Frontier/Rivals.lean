import TokenPattern.Proofs.Frontier.Limit

/-!
# Explorers that keep apart

A run merges nothing, so two explorers on one node stay together as long as they live, and their
number may double with every token.  This file is about graphs where that cannot happen.

Two nodes are *rivals* in a relation that holds wherever one input may lead to both.  A `Rivalry` is
such a relation in which no node is its own rival, and of two rivals only one may stop.

* `Graph.Rivalry.pairwise_flatMap_successors` — a token takes rivals to rivals, and splits an explorer
  into rivals.
* `Graph.Rivalry.pairwise_exploreAll` — so all explorers of a run are rivals of each other.
* `Graph.Rivalry.nodup_nodes`, `Graph.Rivalry.length_acceptingTrails_le` — no two of them stand on one
  node, and at most one may stop.
-/

namespace TokenPattern

namespace Graph

variable {τ ο : Type} {g : Graph (Matcher τ ο)} {R : NodeId → NodeId → Prop}

/-- A relation that holds between two nodes wherever one input leads to both, in different ways, and
never between a node and itself. -/
structure Rivalry (g : Graph (Matcher τ ο)) (R : NodeId → NodeId → Prop) : Prop where
  /-- No node is its own rival. -/
  irrefl : ∀ p, ¬ R p p
  /-- The steps from a node lead to different nodes. -/
  targets : ∀ p, ((g.moves p).map fun m => m.1.target).Nodup
  /-- No step forks by its outputs. -/
  outputs : ∀ p, ∀ m ∈ g.moves p, ∀ t, (m.2.outputs t).length ≤ 1
  /-- Steps from one node that accept the same token lead to rivals. -/
  fork : ∀ p, ∀ m ∈ g.moves p, ∀ m' ∈ g.moves p, ∀ t, m.1.target ≠ m'.1.target →
    m.2.accepts t = true → m'.2.accepts t = true → R m.1.target m'.1.target
  /-- So do steps from rivals. -/
  step : ∀ p q, R p q → ∀ m ∈ g.moves p, ∀ m' ∈ g.moves q, ∀ t,
    m.2.accepts t = true → m'.2.accepts t = true → R m.1.target m'.1.target
  /-- Of two rivals only one may stop. -/
  stop : ∀ p q, R p q → ¬ (g.accepts p = true ∧ g.accepts q = true)

/-- What a step yields is on its target, and its leaf accepts the token. -/
lemma mem_successors {x y : Explorer ο} {t : τ} (h : y ∈ x.successors g t) :
    ∃ m ∈ g.moves x.node, m.2.accepts t = true ∧ y.node = m.1.target := by
  rw [Explorer.successors, List.mem_flatMap] at h
  obtain ⟨m, hm, hy⟩ := h
  obtain ⟨o, ho, rfl⟩ := List.mem_map.1 hy
  exact ⟨m, hm, (m.2.accepts_iff t).2 (List.ne_nil_of_mem ho), rfl⟩

namespace Rivalry

/-- One explorer becomes rivals. -/
lemma pairwise_successors (h : g.Rivalry R) (x : Explorer ο) (t : τ) :
    (x.successors g t).Pairwise fun y z => R y.node z.node := by
  rw [Explorer.successors, List.pairwise_flatMap]
  refine ⟨fun m hm => ?_, ?_⟩
  · -- A step yields one explorer at most.
    rw [List.pairwise_map]
    have hone := h.outputs x.node m hm t
    cases hout : m.2.outputs t with
    | nil => exact List.Pairwise.nil
    | cons o others =>
        obtain rfl : others = [] := by simpa [hout] using hone
        exact List.pairwise_singleton _ o
  · have hapart := List.pairwise_map.1 (h.targets x.node)
    refine List.Pairwise.imp_of_mem ?_ hapart
    rintro m m' hm hm' hne y hy z hz
    obtain ⟨o, ho, rfl⟩ := List.mem_map.1 hy
    obtain ⟨o', ho', rfl⟩ := List.mem_map.1 hz
    exact h.fork x.node m hm m' hm' t hne ((m.2.accepts_iff t).2 (List.ne_nil_of_mem ho))
      ((m'.2.accepts_iff t).2 (List.ne_nil_of_mem ho'))

/-- **One token takes a frontier of rivals to a frontier of rivals.** -/
theorem pairwise_flatMap_successors (h : g.Rivalry R) {xs : List (Explorer ο)}
    (hxs : xs.Pairwise fun x y => R x.node y.node) (t : τ) :
    (xs.flatMap fun x => x.successors g t).Pairwise fun x y => R x.node y.node := by
  rw [List.pairwise_flatMap]
  refine ⟨fun x _ => h.pairwise_successors x t, hxs.imp fun {x x'} hr y hy z hz => ?_⟩
  obtain ⟨m, hm, ht, hy⟩ := mem_successors hy
  obtain ⟨m', hm', ht', hz⟩ := mem_successors hz
  rw [hy, hz]
  exact h.step _ _ hr m hm m' hm' t ht ht'

/-- **All explorers of a run are rivals of each other.** -/
theorem pairwise_exploreAll (h : g.Rivalry R) (input : List τ) {xs : List (Explorer ο)}
    (hxs : xs.Pairwise fun x y => R x.node y.node) :
    (exploreAll g input xs).Pairwise fun x y => R x.node y.node := by
  induction input generalizing xs with
  | nil => exact hxs
  | cons t rest ih => exact ih (h.pairwise_flatMap_successors hxs t)

lemma pairwise_run (h : g.Rivalry R) (input : List τ) :
    (exploreAll g input [Explorer.initial]).Pairwise
      fun x y : Explorer ο => R x.node y.node :=
  h.pairwise_exploreAll input (List.pairwise_singleton _ _)

/-- No two explorers of a run stand on one node. -/
theorem nodup_nodes (h : g.Rivalry R) (input : List τ) :
    ((exploreAll g input [Explorer.initial]).map Explorer.node).Nodup := by
  rw [List.Nodup, List.pairwise_map]
  refine (h.pairwise_run input).imp fun {x y} hr heq => ?_
  rw [heq] at hr
  exact h.irrefl _ hr

/-- At most one explorer may stop. -/
lemma length_filter_accepts_le (h : g.Rivalry R) (input : List τ) :
    ((exploreAll g input [Explorer.initial]).filter fun x => g.accepts x.node).length ≤ 1 := by
  have hpairs := (h.pairwise_run input).filter fun x => g.accepts x.node
  have hstop : ∀ x ∈ (exploreAll g input [Explorer.initial]).filter
      (fun x : Explorer ο => g.accepts x.node), g.accepts x.node = true :=
    fun x hx => (List.mem_filter.1 hx).2
  generalize (exploreAll g input [Explorer.initial]).filter (fun x : Explorer ο =>
    g.accepts x.node) = xs at hpairs hstop
  cases xs with
  | nil => exact Nat.zero_le 1
  | cons x others =>
      cases others with
      | nil => exact Nat.le_refl 1
      | cons y _ =>
          have hr := List.rel_of_pairwise_cons hpairs List.mem_cons_self
          exact absurd ⟨hstop x (by simp), hstop y (by simp)⟩ (h.stop _ _ hr)

/-- **A run with rivals has at most one trail on which it may stop.** -/
theorem length_acceptingTrails_le (h : g.Rivalry R) (input : List τ) :
    (acceptingTrails g input).length ≤ 1 := by
  have hle := h.length_filter_accepts_le input
  rw [exploreAll_eq, List.flatMap_singleton, List.filter_map, List.length_map] at hle
  exact hle

end Rivalry

end Graph

end TokenPattern
