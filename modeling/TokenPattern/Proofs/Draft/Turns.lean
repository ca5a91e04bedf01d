import Mathlib.Algebra.BigOperators.Group.Finset.Basic
import TokenPattern.Proofs.Draft.Schedules

/-!
# The turns of the compiler

The compiler starts from the draft with the pattern between the sentinels and takes turns
(`Draft.step`) until nothing is pending; the draft after `k` turns is `step^[k] (start e)`.

**Between two turns** the records of the draft agree (`Consistent.iterate_step`).  What a turn reads
and removes is therefore determined by the links that are there: `linksAt_eq`, `ofLinks_linksAt` and
`live_detach` say which links a slot gives up, in which order, and which ones stay.

**The number of turns.**  A turn finds an expression in the slot that it takes, and lowers the work by
one (`work_turn`).  So there are as many turns as operators, and a bound on them changes nothing once
it is as large (`drainFor_eq_iterate_step`).

**The end.**  When nothing is pending, every slot that is touched has become a node, and freezing
makes one edge of every link: `map_edgesFrom_freeze` node by node, `edgeCount_freeze` in total.

`consistent_turns` has all of it for the compilation of a pattern.
-/

namespace TokenPattern

universe u

/-- The edges of a graph, counted at the nodes they leave. -/
lemma Graph.edgeCount_eq_sum {α : Type u} (g : Graph α) :
    g.edgeCount = ∑ n ∈ Finset.range g.successors.size, (g.edgesFrom n).length := by
  have hlists : g.successors.toList.map List.length =
      (List.range g.successors.size).map fun n => (g.edgesFrom n).length := by
    refine List.ext_getElem? fun n => ?_
    rw [List.getElem?_map, List.getElem?_map, Array.getElem?_toList]
    by_cases hn : n < g.successors.size
    · simp [edgesFrom, hn]
    · simp [hn]
  rw [edgeCount, hlists, ← List.sum_eq_foldr]
  rfl

namespace Draft

variable {α : Type u} {d : Draft α}

/-! ## Taking out the links at a slot -/

/-- The links that `detach` keeps are those that do not touch the slot, in their order. -/
lemma live_detach (h : d.Consistent) (id : Nat) :
    (d.detach id).live = d.live.filter fun l => ¬ l.Touches id :=
  live_clear h id

/-- Whatever passes over the links elsewhere finds the same in all links as in those at the slot. -/
lemma filterMap_linksAt (h : d.Consistent) {β : Type} {id : Nat} {f : Link → Option β}
    (hf : ∀ l, ¬ l.Touches id → f l = none) :
    (d.linksAt id).filterMap f = d.live.filterMap f := by
  rw [linksAt_eq h, List.filterMap_filter]
  refine List.filterMap_congr fun l _ => ?_
  by_cases hl : l.Touches id
  · simp [hl]
  · simp [hl, hf l hl]

/-- A link elsewhere has no direction at a slot, so that the links at the slot are sorted as all
links would be. -/
lemma ofLinks_linksAt (h : d.Consistent) (id : Nat) :
    Detached.ofLinks id (d.linksAt id) = Detached.ofLinks id d.live := by
  rw [Detached.ofLinks, Detached.ofLinks, Detached.mk.injEq]
  refine ⟨filterMap_linksAt h fun l hl => ?_, filterMap_linksAt h fun l hl => ?_,
    filterMap_linksAt h fun l hl => ?_⟩
  · exact if_neg fun hin => hl (.inr hin.1)
  · exact if_neg fun hout => hl (.inl hout.1)
  · exact if_neg fun hloop => hl (.inl hloop.1)

/-! ## One turn and many -/

lemma step_of_pending_eq_nil (hp : d.pending = []) : d.step = d := by rw [step, hp]

/-- **One turn** keeps the records in agreement. -/
lemma Consistent.turn (h : d.Consistent) : d.step.Consistent := by
  cases hp : d.pending with
  | nil => rwa [step_of_pending_eq_nil hp]
  | cons id rest =>
      obtain ⟨e, he⟩ := h.exists_composite hp
      exact h.step hp he

/-- One turn takes one operator apart, if there is one. -/
lemma work_turn (h : d.Consistent) : d.step.work = d.work - 1 := by
  cases hp : d.pending with
  | nil => rw [step_of_pending_eq_nil hp, h.pending_eq_nil_iff.1 hp]
  | cons id rest =>
      obtain ⟨e, he⟩ := h.exists_composite hp
      rw [← work_step h hp he, Nat.add_sub_cancel]

/-- **Any number of turns** keeps the records in agreement. -/
lemma Consistent.iterate_step (h : d.Consistent) (k : Nat) : (Draft.step^[k] d).Consistent :=
  Function.Iterate.rec Draft.Consistent h (fun _ => Consistent.turn) k

lemma work_iterate_step (h : d.Consistent) (k : Nat) : (step^[k] d).work = d.work - k := by
  induction k with
  | zero => rfl
  | succ k ih => rw [Function.iterate_succ_apply', work_turn (h.iterate_step k), ih, Nat.sub_sub]

/-- Nothing is pending after as many turns as there are operators, and not before. -/
lemma pending_iterate_step_eq_nil_iff (h : d.Consistent) (k : Nat) :
    (step^[k] d).pending = [] ↔ d.work ≤ k := by
  rw [(h.iterate_step k).pending_eq_nil_iff, work_iterate_step h, Nat.sub_eq_zero_iff_le]

/-- A loop that may take `n` turns takes as many as there are operators, if there are no more. -/
lemma drainFor_eq_iterate_step (h : d.Consistent) (n : Nat) :
    drainFor n d = step^[min n d.work] d := by
  induction n generalizing d with
  | zero => rw [Nat.zero_min]; rfl
  | succ n ih =>
      cases hp : d.pending with
      | nil =>
          rw [h.pending_eq_nil_iff.1 hp, Nat.min_zero, drainFor, hp]
          rfl
      | cons id rest =>
          obtain ⟨e, he⟩ := h.exists_composite hp
          rw [← work_step h hp he, Nat.add_min_add_right, Function.iterate_succ_apply, ← ih h.turn,
            drainFor, hp]

/-! ## Freezing drops nothing -/

/-- When nothing is pending, a link has nodes at both ends. -/
lemma Consistent.exists_isNode (h : d.Consistent) (hp : d.pending = []) {l : Link}
    (hl : l ∈ d.live) {i : Nat} (hi : l.Touches i) :
    ∃ s n, d.slots[i]? = some s ∧ s.isNode = true ∧ d.number i = some n := by
  obtain ⟨n, hn⟩ := Stands.exists_number h hp (h.stands l hl i hi)
  obtain ⟨s, hs, hnode, _⟩ := number_eq_some_iff.1 hn
  exact ⟨s, n, hs, hnode, hn⟩

/-- **The edges of a node are the links out of its slot**, one for one and in their order. -/
lemma map_edgesFrom_freeze (h : d.Consistent) (hp : d.pending = []) {i : Nat} {n : NodeId}
    (hi : d.number i = some n) :
    ((d.freeze.edgesFrom n).map fun b => (some b.target, b.markers)) =
      (d.live.filter fun l => l.source = i).map fun l => (d.number l.target, l.markers) := by
  rw [edgesFrom_freeze, List.map_filterMap, ← List.filterMap_eq_map', List.filterMap_filter]
  refine List.filterMap_congr fun l hl => ?_
  obtain ⟨_, t, _, _, ht⟩ := h.exists_isNode hp hl (.inr rfl)
  have hsource : d.number l.source = some n ↔ l.source = i :=
    ⟨fun hs => number_inj hs hi, fun hs => hs ▸ hi⟩
  simp only [edgeAt, hsource, ht]
  split_ifs <;> simp_all

/-- The nodes at which links begin, once for every link. -/
def sources (d : Draft α) : List NodeId := d.live.filterMap fun l => d.number l.source

lemma lt_of_mem_sources {n : NodeId} (hn : n ∈ d.sources) : n < d.nodes.length := by
  obtain ⟨l, _, hl⟩ := List.mem_filterMap.1 hn
  exact number_lt hl

lemma length_sources (h : d.Consistent) (hp : d.pending = []) :
    d.sources.length = d.live.length := by
  rw [sources, List.length_filterMap_eq_countP, List.countP_eq_length]
  intro l hl
  obtain ⟨_, n, _, _, hn⟩ := h.exists_isNode hp hl (.inl rfl)
  rw [hn, Option.isSome_some]

lemma length_edgesFrom_freeze (h : d.Consistent) (hp : d.pending = []) (n : NodeId) :
    (d.freeze.edgesFrom n).length = d.sources.count n := by
  rw [edgesFrom_freeze, sources, List.length_filterMap_eq_countP, List.count_filterMap]
  refine List.countP_congr fun l hl => ?_
  obtain ⟨_, t, _, _, ht⟩ := h.exists_isNode hp hl (.inr rfl)
  simp only [edgeAt, ht]
  split_ifs with hs <;> simp [hs]

/-- **There are as many edges as links.** -/
lemma edgeCount_freeze (h : d.Consistent) (hp : d.pending = []) :
    d.freeze.edgeCount = d.live.length := by
  have hmem : ∀ n ∈ (d.sources : Multiset NodeId), n ∈ Finset.range d.nodes.length := fun n hn =>
    Finset.mem_range.2 (lt_of_mem_sources (Multiset.mem_coe.1 hn))
  calc d.freeze.edgeCount
      = ∑ n ∈ Finset.range d.nodes.length, (d.freeze.edgesFrom n).length := by
        rw [Graph.edgeCount_eq_sum, size_successors_freeze]
    _ = ∑ n ∈ Finset.range d.nodes.length, (d.sources : Multiset NodeId).count n := by
        refine Finset.sum_congr rfl fun n _ => ?_
        rw [length_edgesFrom_freeze h hp, Multiset.coe_count]
    _ = d.sources.length := Multiset.sum_count_eq_card hmem
    _ = d.live.length := length_sources h hp

/-! ## The whole compilation -/

/-- **The bookkeeping of the compiler.**  After any number of turns the records of the draft agree, a
slot gives up exactly the links that touch it, in the order of their insertion, and the next slot to
be taken holds an expression.  There are as many turns as operators, however many the loop may take.
In the end the links touch nothing but nodes, and every one of them becomes an edge. -/
theorem consistent_turns (e : Expr α) :
    (∀ k, let d := step^[k] (start e)
      d.Consistent ∧
        (∀ id, d.linksAt id = d.live.filter (fun l => l.Touches id) ∧
          Detached.ofLinks id (d.linksAt id) = Detached.ofLinks id d.live ∧
          (d.detach id).live = d.live.filter fun l => ¬ l.Touches id) ∧
        (∀ id rest, d.pending = id :: rest → ∃ f, d.slots[id]? = some (.composite f)) ∧
        (d.pending = [] ↔ e.compositeCount ≤ k)) ∧
      (∀ n, drainFor n (start e) = step^[min n e.compositeCount] (start e)) ∧
      let d := (start e).drain
      d = step^[e.compositeCount] (start e) ∧
        (∀ l ∈ d.live, ∀ i, l.Touches i →
          ∃ s n, d.slots[i]? = some s ∧ s.isNode = true ∧ d.number i = some n) ∧
        (∀ i n, d.number i = some n →
          (((Graph.ofExpr e).edgesFrom n).map fun b => (some b.target, b.markers)) =
            (d.live.filter fun l => l.source = i).map fun l => (d.number l.target, l.markers)) ∧
        (Graph.ofExpr e).edgeCount = d.live.length := by
  have hstart := consistent_start e
  obtain ⟨hc, hp, -⟩ := drain_start e
  refine ⟨fun k => ?_, fun n => ?_, ?_, fun l hl i hi => hc.exists_isNode hp hl hi,
    fun i n hi => map_edgesFrom_freeze hc hp hi, edgeCount_freeze hc hp⟩
  · have hk := hstart.iterate_step k
    refine ⟨hk, fun id => ⟨linksAt_eq hk id, ofLinks_linksAt hk id, live_detach hk id⟩,
      fun id rest hrest => hk.exists_composite hrest, ?_⟩
    rw [pending_iterate_step_eq_nil_iff hstart, work_start]
  · rw [drainFor_eq_iterate_step hstart, work_start]
  · rw [drain, drainFor_eq_iterate_step hstart, Nat.min_self, work_start]

end Draft

end TokenPattern
