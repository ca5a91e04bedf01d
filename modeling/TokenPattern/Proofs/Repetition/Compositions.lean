import Mathlib.Combinatorics.Enumerative.Composition
import TokenPattern.Proofs.Frontier.Crossings
import TokenPattern.Proofs.Language.Copies
import TokenPattern.Proofs.Net.Site
import TokenPattern.Proofs.Repetition

/-!
# A repeated group of repeats

A repeated group whose body repeats a leaf can be matched in as many ways as there are of writing the
length of the input as a sum: each match tells the lengths of the rounds, and from every token on one
may stay in the round or begin the next one.

* Two edges lead from the leaf to itself, one that stays in the group and one that closes it and opens
  it again, and nothing else is left of the two repetitions (`exists_net_groupedRuns`).
* So the number of explorers doubles with every token (`alive_groupedRuns`).
* The cuts of the input into rounds, all of which are reported and no others, are the ways of writing
  its length as a sum (`exists_isCut_iff`).  They are as many as the explorers, so that no two matches
  tell the same cut.

`compositions_groupedRuns` puts these together.
-/

namespace TokenPattern

open scoped Computability

universe u v

/-! ## The graph -/

namespace Net

variable {α : Type u} {σ : Type v} {e : Expr α} {I O A P : Language σ} {v q : Nat}

/-- A pattern that stands alone does so under another number. -/
lemma Renames.eq_alone {ρ : Nat → Option Nat} {G : Net α σ}
    (h : Renames ρ (alone v e I O A P) G) (h0 : ρ 0 = some 0) (h1 : ρ 1 = some 1)
    (hv : ρ v = some q) : G = alone q e I O A P := by
  refine Net.ext (funext fun n => Option.ext fun f => ?_) (funext fun p => funext fun a =>
    funext fun s => propext ?_)
  · rw [h.node]
    constructor
    · rintro ⟨i, hi, hnode⟩
      obtain ⟨rfl, rfl⟩ := node_alone_eq_some hnode
      obtain rfl := Option.some.inj (hv.symm.trans hi)
      exact node_alone_self
    · intro hnode
      obtain ⟨rfl, rfl⟩ := node_alone_eq_some hnode
      exact ⟨v, hv, node_alone_self⟩
  · rw [h.link]
    constructor
    · rintro ⟨i, j, hi, hj, ⟨rfl, rfl, ha⟩ | ⟨rfl, rfl, ha⟩ | ⟨rfl, rfl, ha⟩ | ⟨rfl, rfl, ha⟩⟩
      all_goals
        simp only [h0, h1, hv, Option.some.injEq] at hi hj
        subst hi hj
      · exact Or.inl ⟨rfl, rfl, ha⟩
      · exact Or.inr (Or.inl ⟨rfl, rfl, ha⟩)
      · exact Or.inr (Or.inr (Or.inl ⟨rfl, rfl, ha⟩))
      · exact Or.inr (Or.inr (Or.inr ⟨rfl, rfl, ha⟩))
    · rintro (⟨rfl, rfl, ha⟩ | ⟨rfl, rfl, ha⟩ | ⟨rfl, rfl, ha⟩ | ⟨rfl, rfl, ha⟩)
      · exact ⟨0, v, h0, hv, Or.inl ⟨rfl, rfl, ha⟩⟩
      · exact ⟨v, 1, hv, h1, Or.inr (Or.inl ⟨rfl, rfl, ha⟩)⟩
      · exact ⟨v, v, hv, hv, Or.inr (Or.inr (Or.inl ⟨rfl, rfl, ha⟩))⟩
      · exact ⟨0, 1, h0, h1, Or.inr (Or.inr (Or.inr ⟨rfl, rfl, ha⟩))⟩

end Net

/-- A repeated group of repeats. -/
def Expr.groupedRuns {α : Type u} (g : String) (m : α) : Expr α := star (capture g (star (leaf m)))

/-- **What is left of two repetitions**: the leaf, which one enters and leaves with the group, and from
which one comes back to it with or without a new group; and ways past it, with an empty group or
without any. -/
lemma exists_net_groupedRuns {α : Type u} (g : String) (m : α) : ∃ q, 2 ≤ q ∧
    (Graph.ofExpr (Expr.groupedRuns g m)).net = Net.alone q (.leaf m) {[.start g]} {[.stop g]}
      ({[.stop g, .start g]} + 1) (1 + {[.start g]} * {[.stop g]}) := by
  obtain ⟨hc, hp, _⟩ := Draft.drain_start (Expr.groupedRuns g m)
  obtain ⟨x', hu, hleaves⟩ := Draft.exists_unfolds (Draft.consistent_start (Expr.groupedRuns g m))
  rw [Draft.slots_start] at hu
  have hbody := (Net.unfolds_ring hu hleaves).of_alone_star (by decide) (Nat.lt_succ_self 4) hleaves
  have hnet := hbody.eq_of_leaves fun _ hi => by
    obtain ⟨_, rfl⟩ := Net.node_alone_eq_some hi
    rfl
  have hren := Draft.renames_freeze hc hp
  have hzero := Draft.number_of_lt_two hc (i := 0) (by decide)
  have hone := Draft.number_of_lt_two hc (i := 1) (by decide)
  rw [hnet] at hren
  obtain ⟨q, hq⟩ := hren.target (i := 0) (j := 5) (Or.inl ⟨rfl, rfl, rfl⟩)
  refine ⟨q, ?_, hren.eq_alone hzero hone hq⟩
  refine (Nat.two_le_iff q).2 ⟨?_, ?_⟩
  · rintro rfl
    exact absurd (hren.inj hq hzero) (by decide)
  · rintro rfl
    exact absurd (hren.inj hq hone) (by decide)

/-! ## Explorers -/

section

variable {τ ο : Type} {m : Matcher τ ο} {w : List τ}

/-- The steps of a graph with a single leaf. -/
lemma mem_moves_of_net_eq_alone {g : Graph (Matcher τ ο)} {q p : NodeId}
    {I O A P : Language Marker} (h : g.net = Net.alone q (.leaf m) I O A P)
    {x : Move (Matcher τ ο)} : x ∈ g.moves p ↔
      ∃ a, (Net.alone q (.leaf m) I O A P).link p a q ∧ x = (⟨q, a⟩, m) := by
  obtain ⟨⟨s, a⟩, l⟩ := x
  have hleaf : g.matcher? s = some l ↔ s = q ∧ l = m := by
    have hnode : g.net.node s = some (.leaf l) ↔ g.matcher? s = some l := by
      simp [Graph.net]
    rw [← hnode, h]
    constructor
    · intro hl
      obtain ⟨rfl, heq⟩ := Net.node_alone_eq_some hl
      exact ⟨rfl, Expr.leaf.inj heq⟩
    · rintro ⟨rfl, rfl⟩
      exact Net.node_alone_self
  rw [Graph.mem_moves, hleaf, ← h]
  constructor
  · rintro ⟨ha, rfl, rfl⟩
    exact ⟨a, ha, rfl⟩
  · rintro ⟨a, ha, heq⟩
    obtain ⟨⟨rfl, rfl⟩, rfl⟩ := heq
    exact ⟨ha, rfl, rfl⟩

/-- Steps that come back to where they begin multiply the trails with every token. -/
lemma length_trailsFrom_of_loop {g : Graph (Matcher τ ο)} {q : NodeId}
    (hloop : ∀ x ∈ g.moves q, x.1.target = q ∧ x.2 = m)
    (hm : ∀ t ∈ w, (m.outputs t).length = 1) :
    (trailsFrom g q w).length = (g.moves q).length ^ w.length := by
  induction w with
  | nil => rfl
  | cons t rest ih =>
      have hrest := ih fun t ht => hm t (List.mem_cons_of_mem _ ht)
      have hone : ∀ x ∈ g.moves q, ((x.2.outputs t).flatMap fun o =>
          (trailsFrom g x.1.target rest).map (⟨x.1.target, x.1.markers, o⟩ :: ·)).length =
            (g.moves q).length ^ rest.length := by
        intro x hx
        obtain ⟨htarget, rfl⟩ := hloop x hx
        simp [List.length_flatMap, htarget, hrest, hm t List.mem_cons_self]
      rw [trailsFrom, List.length_flatMap, List.map_congr_left hone]
      simp [pow_succ']

lemma perm_moves_of_net_eq_alone {g : Graph (Matcher τ ο)} {q p : NodeId}
    {I O A P : Language Marker} (h : g.net = Net.alone q (.leaf m) I O A P)
    (hnodup : (g.edgesFrom p).Nodup) {S : List (List Marker)} (hS : S.Nodup)
    (hmem : ∀ a, a ∈ S ↔ (Net.alone q (.leaf m) I O A P).link p a q) :
    (g.moves p).Perm (S.map fun a => (⟨q, a⟩, m)) := by
  have hinj : Function.Injective fun a : List Marker => ((⟨q, a⟩ : Edge), m) := by
    intro a b heq
    exact (Edge.mk.inj (Prod.mk.inj heq).1).2
  refine (List.perm_ext_iff_of_nodup (Graph.nodup_moves hnodup) (hS.map hinj)).2 fun x => ?_
  rw [mem_moves_of_net_eq_alone h, List.mem_map]
  simp only [hmem, eq_comm]

/-- **The number of trails doubles with every token** but the first. -/
lemma length_trailsFrom_groupedRuns (g : String) (hw : w ≠ [])
    (hm : ∀ t ∈ w, (m.outputs t).length = 1) :
    (trailsFrom (Graph.ofExpr (Expr.groupedRuns g m)) NodeId.initial w).length =
      2 ^ (w.length - 1) := by
  obtain ⟨q, hq, hnet⟩ := exists_net_groupedRuns g m
  have hne : NodeId.initial ≠ q := Nat.ne_of_lt (Nat.lt_of_lt_of_le Nat.two_pos hq)
  have henter : ((Graph.ofExpr (Expr.groupedRuns g m)).moves NodeId.initial).Perm
      [(⟨q, [.start g]⟩, m)] := by
    refine perm_moves_of_net_eq_alone hnet (Graph.nodup_edgesFrom_ofExpr _ _)
      (List.nodup_singleton [.start g]) fun a => ?_
    rw [Net.link_alone_enter hq hne, List.mem_singleton]
    exact (and_iff_right rfl).symm
  have hagain : ((Graph.ofExpr (Expr.groupedRuns g m)).moves q).Perm
      [(⟨q, [.stop g, .start g]⟩, m), (⟨q, []⟩, m)] := by
    refine perm_moves_of_net_eq_alone hnet (Graph.nodup_edgesFrom_ofExpr _ _)
      (S := [[.stop g, .start g], []]) (by simp) fun a => ?_
    rw [Net.link_alone_again hq, List.mem_pair]
    exact Iff.rfl
  have hloop : ∀ x ∈ (Graph.ofExpr (Expr.groupedRuns g m)).moves q,
      x.1.target = q ∧ x.2 = m := by
    intro x hx
    rcases List.mem_pair.1 (hagain.mem_iff.1 hx) with rfl | rfl <;> exact ⟨rfl, rfl⟩
  obtain ⟨t, rest, rfl⟩ := List.exists_cons_of_ne_nil hw
  have hrest : (trailsFrom (Graph.ofExpr (Expr.groupedRuns g m)) q rest).length =
      2 ^ rest.length := by
    rw [length_trailsFrom_of_loop hloop fun t ht => hm t (List.mem_cons_of_mem _ ht),
      hagain.length_eq]
    rfl
  rw [trailsFrom, (henter.flatMap_right _).length_eq]
  simp [List.length_flatMap, hm t List.mem_cons_self, hrest]

lemma alive_groupedRuns (g : String) (hm : ∀ t ∈ w, (m.outputs t).length = 1) {k : ℕ} (hk : 1 ≤ k)
    (hlen : k ≤ w.length) : alive (Graph.ofExpr (Expr.groupedRuns g m)) w k = 2 ^ (k - 1) := by
  have htake : (w.take k).length = k := List.length_take_of_le hlen
  have hne : w.take k ≠ [] := List.ne_nil_of_length_pos (htake.symm ▸ hk)
  rw [alive_eq_length_trailsFrom,
    length_trailsFrom_groupedRuns g hne fun t ht => hm t (List.mem_of_mem_take ht), htake]

/-- Under a limit a compiled pattern fails to match if the explorers are too many at some time. -/
lemma allMatches_eq_error_iff (e : Expr (Matcher τ ο)) (max : ℕ) (w : List τ) :
    (∃ x, ((Program.compile e).withLimits ⟨some max⟩).allMatches w = .error x) ↔
      ∃ k, 1 ≤ k ∧ k ≤ w.length ∧ max < alive (Graph.ofExpr e) w k := by
  constructor
  · rintro ⟨x, hx⟩
    by_contra hnone
    have hle : ∀ k, 1 ≤ k → k ≤ w.length → alive (Graph.ofExpr e) w k ≤ max := fun k hk hlen =>
      Nat.le_of_not_lt fun hlt => hnone ⟨k, hk, hlen, hlt⟩
    have hpaths : paths (Graph.ofExpr e) ⟨some max⟩ w = paths (Graph.ofExpr e) .unbounded w := by
      rw [paths, run_eq_unbounded _ hle, paths]
    obtain ⟨ms, hms, _⟩ := exists_allMatches_of_paths e (hpaths.trans (paths_unbounded _ w))
    exact absurd (hx.symm.trans hms) (by simp)
  · intro h
    obtain ⟨k, ⟨hk, hlen, hlt⟩, hfirst⟩ := exists_first_over h
    have hpaths : ((Program.compile e).withLimits ⟨some max⟩).paths w =
        .error (.frontierExceeded (max + 1) max (k - 1)) := by
      have hrun : run ((Program.compile e).withLimits ⟨some max⟩).graph ⟨some max⟩ w = _ :=
        run_eq_error _ hk hlen hlt hfirst
      rw [Program.paths, paths]
      exact congrArg (Except.map _) hrun
    refine ⟨.frontierExceeded (max + 1) max (k - 1), ?_⟩
    rw [Program.allMatches, hpaths]
    rfl

/-! ## Cuts and compositions -/

lemma map_snd_cuts (position : ℕ) (pieces : List (List τ)) :
    (cuts position pieces).map Prod.snd = pieces.map List.length := by
  induction pieces generalizing position with
  | nil => rfl
  | cons p ps ih => rw [cuts, List.map_cons, ih, List.map_cons]

lemma map_snd_occurrences (x : Match (List ο)) (g : String) :
    (x.occurrences g).map Prod.snd = (x.group g).map fun y => y.trail.length := List.map_map

/-- The lengths of the pieces of a cut are the positive numbers whose sum is the length of the input,
in any order. -/
lemma exists_isCut_iff (hm : ∀ t ∈ w, m.outputs t ≠ []) {c : List ℕ} :
    (∃ places, IsCut (.star (.leaf m)) w places ∧ places.map Prod.snd = c) ↔
      (∀ k ∈ c, 0 < k) ∧ c.sum = w.length := by
  constructor
  · rintro ⟨_, ⟨pieces, rfl, hpieces, rfl⟩, rfl⟩
    rw [map_snd_cuts, List.length_flatten]
    refine ⟨fun k hk => ?_, rfl⟩
    obtain ⟨p, hp, rfl⟩ := List.mem_map.1 hk
    exact List.length_pos_of_ne_nil (hpieces p hp).1
  · rintro ⟨hpos, hsum⟩
    let parts : Composition w.length := ⟨c, fun hk => hpos _ hk, hsum⟩
    have hflatten := w.flatten_splitWrtComposition parts
    refine ⟨_, ⟨w.splitWrtComposition parts, hflatten, fun p hp => ⟨?_, ?_⟩, rfl⟩, ?_⟩
    · exact List.ne_nil_of_length_pos (List.length_pos_of_mem_splitWrtComposition hp)
    · refine Expr.mem_language_star_leaf.2 fun t ht => hm t ?_
      rw [← hflatten]
      exact List.mem_flatten.2 ⟨p, hp, ht⟩
    · rw [map_snd_cuts, List.map_length_splitWrtComposition]

/-- A list that has all compositions of a number, and is no longer than it must be, has each of them
once. -/
lemma nodup_of_compositions {n : ℕ} {L : List (List ℕ)}
    (hmem : ∀ c, c ∈ L ↔ (∀ k ∈ c, 0 < k) ∧ c.sum = n) (hle : L.length ≤ 2 ^ (n - 1)) :
    L.length = 2 ^ (n - 1) ∧ L.Nodup := by
  let all := (Finset.univ : Finset (Composition n)).toList.map Composition.blocks
  have hnodup : all.Nodup :=
    (Finset.nodup_toList _).map fun _ _ heq => Composition.ext heq
  have hlength : all.length = 2 ^ (n - 1) := by
    rw [List.length_map, Finset.length_toList, Finset.card_univ, composition_card]
  have hsub : all ⊆ L := by
    intro c hc
    obtain ⟨parts, _, rfl⟩ := List.mem_map.1 hc
    exact (hmem _).2 ⟨fun k hk => parts.blocks_pos hk, parts.blocks_sum⟩
  have hperm : all.Perm L :=
    (List.subperm_of_subset hnodup hsub).perm_of_length_le (hle.trans hlength.ge)
  exact ⟨hperm.length_eq.symm.trans hlength, hperm.nodup_iff.1 hnodup⟩

/-- **Rounds of all lengths.**  Over an input on which the leaf has single outputs, the repeated group
of repeats matches once for each way of writing the length of the input as a sum of positive numbers,
which are the lengths of the groups.  A limit is too low if and only if it is below the number of
matches. -/
theorem compositions_groupedRuns (m : Matcher τ ο) (g : String) (hw : w ≠ [])
    (hm : ∀ t ∈ w, (m.outputs t).length = 1) :
    let program := Program.compile (.star (.capture g (.star (.leaf m))))
    (∃ ms, (program.withLimits Limits.unbounded).allMatches w = .ok ms ∧
      ms.length = 2 ^ (w.length - 1) ∧
      let lengths := ms.map fun x => (x.group g).map fun y => y.trail.length
      lengths.Nodup ∧ ∀ c, c ∈ lengths ↔ (∀ k ∈ c, 0 < k) ∧ c.sum = w.length) ∧
    ∀ max, (∃ x, (program.withLimits ⟨some max⟩).allMatches w = .error x) ↔
      max < 2 ^ (w.length - 1) := by
  intro program
  constructor
  · obtain ⟨ms, hms, hreports⟩ := reports_of_core (x := .star (.leaf m)) rfl g hw
    obtain ⟨ms', hms', hall⟩ := exists_allMatches_of_paths (Expr.groupedRuns g m)
      (paths_unbounded _ w)
    obtain rfl := Except.ok.inj (hms.symm.trans hms')
    have houtputs : ∀ t ∈ w, m.outputs t ≠ [] := fun t ht =>
      List.ne_nil_of_length_pos (hm t ht ▸ Nat.one_pos)
    have hlengths : ∀ c, (c ∈ ms.map fun x => (x.group g).map fun y => y.trail.length) ↔
        (∀ k ∈ c, 0 < k) ∧ c.sum = w.length := by
      intro c
      rw [← exists_isCut_iff houtputs, List.mem_map]
      simp only [← hreports]
      constructor
      · rintro ⟨x, hx, rfl⟩
        exact ⟨_, ⟨x, hx, rfl⟩, map_snd_occurrences x g⟩
      · rintro ⟨_, ⟨x, hx, rfl⟩, rfl⟩
        exact ⟨x, hx, (map_snd_occurrences x g).symm⟩
    have hle : ms.length ≤ 2 ^ (w.length - 1) := by
      rw [← length_trailsFrom_groupedRuns g hw hm, ← hall.length_eq]
      exact List.length_filter_le _ _
    obtain ⟨hlen, hnodup⟩ := nodup_of_compositions hlengths (by rwa [List.length_map])
    rw [List.length_map] at hlen
    exact ⟨ms, hms, hlen, hnodup, hlengths⟩
  · intro max
    have hpos := List.length_pos_of_ne_nil hw
    refine (allMatches_eq_error_iff (Expr.groupedRuns g m) max w).trans ⟨?_, fun hlt => ?_⟩
    · rintro ⟨k, hk, hlen, hlt⟩
      rw [alive_groupedRuns g hm hk hlen] at hlt
      exact hlt.trans_le (Nat.pow_le_pow_right Nat.two_pos (Nat.sub_le_sub_right hlen 1))
    · exact ⟨w.length, hpos, le_rfl, by rwa [alive_groupedRuns g hm hpos le_rfl]⟩

/-- Three letters are cut in four ways, and four explorers are more than three. -/
theorem compositions_groupedRuns_letters :
    let program := Program.compile (.star (.capture "g" (.star (.leaf (Matcher.exact 'a')))))
    ['a', 'a', 'a'] ≠ [] ∧ (∀ t ∈ ['a', 'a', 'a'], ((Matcher.exact 'a').outputs t).length = 1) ∧
      (∃ ms, (program.withLimits Limits.unbounded).allMatches ['a', 'a', 'a'] = .ok ms ∧
        ms.length = 4 ∧ [1, 2] ∈ ms.map fun x => (x.group "g").map fun y => y.trail.length) ∧
      ∃ x, (program.withLimits ⟨some 3⟩).allMatches ['a', 'a', 'a'] = .error x := by
  intro program
  have hne : ['a', 'a', 'a'] ≠ [] := List.cons_ne_nil _ _
  have hsingle : ∀ t ∈ ['a', 'a', 'a'], ((Matcher.exact 'a').outputs t).length = 1 := by
    simp [Matcher.exact]
  obtain ⟨⟨ms, hms, hlen, _, hmem⟩, hlimit⟩ :=
    compositions_groupedRuns (Matcher.exact 'a') "g" hne hsingle
  exact ⟨hne, hsingle, ⟨ms, hms, hlen, (hmem [1, 2]).2 (by decide)⟩, (hlimit 3).2 (by decide)⟩

end

end TokenPattern
