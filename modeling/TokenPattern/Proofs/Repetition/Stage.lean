import TokenPattern.Proofs.Net.Phases
import TokenPattern.Proofs.Repetition.Core

/-!
# The last pattern to be taken apart

Of two operands, the second is taken apart first.  So when the compiler works its way into the body of
a repeated group, there comes a net in which a single pattern is left, the leftmost one, and all other
nodes hold leaves (`Net.Stage`).

**The way in.**  An operator with one operand leaves such a net behind (`Stage.rewrite`).  So does a
concatenation whose second operand is nullable, once that operand has been taken apart to its leaves
(`Stage.concat`).  Links that open and close the group remain at the pattern that is left.  But the
links from it to the leaves behind it are those within a round, and they have no boundary on them.
-/

namespace TokenPattern

open scoped Computability

universe u

namespace Net

variable {α : Type u} {n : String} {B : α → Prop} {G G' : Net α Marker} {v x x' : Nat}
  {e y : Expr α}

/-! ## Rewriting without words for boundaries -/

section

variable {p s i j : Nat} {a : List Marker} {m k : List Marker}

lemma link_enter (hl : G.link p a v) (hp : p ≠ v) (hi : (i, m) ∈ e.entries) :
    (G.rewrite Marker.silent v x e).link p a (x + i) := by
  have h : Rewired Marker.silent G v x e p (a ++ Marker.spell Marker.silent m) (x + i) :=
    .enter hl hp hi
  rwa [Marker.spell_silent, List.append_nil] at h

lemma link_leave (hl : G.link v a s) (hs : s ≠ v) (hi : (i, m) ∈ e.exits) :
    (G.rewrite Marker.silent v x e).link (x + i) a s := by
  have h : Rewired Marker.silent G v x e (x + i) (Marker.spell Marker.silent m ++ a) s :=
    .leave hl hs hi
  rwa [Marker.spell_silent, List.nil_append] at h

lemma link_again (hl : G.link v a v) (hi : (i, m) ∈ e.exits) (hj : (j, k) ∈ e.entries) :
    (G.rewrite Marker.silent v x e).link (x + i) a (x + j) := by
  have h : Rewired Marker.silent G v x e (x + i)
      (Marker.spell Marker.silent m ++ a ++ Marker.spell Marker.silent k) (x + j) :=
    .again hl hi hj
  rwa [Marker.spell_silent, Marker.spell_silent, List.nil_append, List.append_nil] at h

end

/-! ## Stages -/

/-- One pattern is left, at node `v`, and the other nodes hold leaves with property `B`. -/
structure Stage (n : String) (B : α → Prop) (G : Net α Marker) (v x : Nat) (e : Expr α) :
    Prop where
  two_le : 2 ≤ v
  below : G.Below x
  bare : ∀ i < 2, G.node i = none
  node : G.node v = some e
  others : ∀ {i : Nat} {f : Expr α}, G.node i = some f → i ≠ v → ∃ l, B l ∧ f = .leaf l
  inward : G.link 0 [.start n] v
  outward : G.link v [.stop n] 1
  back : G.link v [.stop n, .start n] v
  across : ∀ {s : Nat} {a : List Marker}, G.link v a s → 2 ≤ s → s ≠ v → a = []

lemma stage_ring (n : String) (B : α → Prop) (x : Expr α) : Stage n B (ring n x) 4 5 x where
  two_le := by decide
  below := below_alone (by decide)
  bare i hi := if_neg (by omega)
  node := node_alone_self
  others hi hne := absurd (node_alone_eq_some hi).1 hne
  inward := Or.inl ⟨rfl, rfl, rfl⟩
  outward := Or.inr (Or.inl ⟨rfl, rfl, rfl⟩)
  back := Or.inr (Or.inr (Or.inl ⟨rfl, rfl, rfl⟩))
  across hl hs hne := by
    rcases hl with ⟨h, _⟩ | ⟨_, h, _⟩ | ⟨_, h, _⟩ | ⟨h, _⟩
    · exact absurd h (by decide)
    · omega
    · exact absurd h hne
    · exact absurd h (by decide)

namespace Stage

lemma lt (h : Stage n B G v x e) : v < x := h.below.lt h.node

lemma next (h : Stage n B G v x e) (he : e.children ≠ []) : G.Next v e where
  node := h.node
  children_ne := he
  le {i f} hi hf := by
    by_cases hiv : i = v
    · exact Nat.le_of_eq hiv
    · obtain ⟨l, _, rfl⟩ := h.others hi hiv
      exact absurd rfl hf

/-- The operand of an operator with one operand is left alone in its place. -/
lemma rewrite {m k : List Marker} (h : Stage n B G v x e) (hc : e.children = [y])
    (hin : e.entries = [(0, m)]) (hout : e.exits = [(0, k)]) :
    Stage n B (G.rewrite Marker.silent v x e) x (x + 1) y where
  two_le := by
    have := h.two_le
    have := h.lt
    omega
  below := by
    have hb : (G.rewrite Marker.silent v x e).Below (x + e.children.length) := h.below.rewrite h.node
    rwa [hc] at hb
  bare i hi := by
    have h2 := h.two_le
    have hlt := h.lt
    rw [node_rewrite_of_lt (by omega) (by omega)]
    exact h.bare i hi
  node := by
    have hnode : (G.rewrite Marker.silent v x e).node (x + 0) = e.children[0]? :=
      node_rewrite_operand h.lt 0
    rw [hc] at hnode
    exact hnode
  others {i f} hi hne := by
    by_cases hix : i < x
    · have hiv : i ≠ v := fun hiv => by simp [Net.rewrite, hiv] at hi
      rw [node_rewrite_of_lt hix hiv] at hi
      exact h.others hi hiv
    · obtain ⟨j, rfl⟩ := Nat.exists_eq_add_of_le (Nat.le_of_not_lt hix)
      rw [node_rewrite_operand h.lt, hc] at hi
      have hj : j < [y].length := (List.getElem?_eq_some_iff.mp hi).1
      rw [List.length_singleton] at hj
      omega
  inward := by
    have h2 := h.two_le
    have hentry : (0, m) ∈ e.entries := hin ▸ List.mem_singleton_self _
    exact link_enter h.inward (by omega) hentry
  outward := by
    have h2 := h.two_le
    have hexit : (0, k) ∈ e.exits := hout ▸ List.mem_singleton_self _
    exact link_leave h.outward (by omega) hexit
  back := by
    have hentry : (0, m) ∈ e.entries := hin ▸ List.mem_singleton_self _
    have hexit : (0, k) ∈ e.exits := hout ▸ List.mem_singleton_self _
    exact link_again h.back hexit hentry
  across {s a} := by
    have hlt := h.lt
    have hacross : ∀ {p : Nat}, (G.rewrite Marker.silent v x e).link p a s → p = x → 2 ≤ s →
        s ≠ x → a = [] := by
      intro p hl hp hs hne
      cases hl with
      | kept hl _ _ => exact absurd (h.below.source hl) (by omega)
      | enter hl _ _ => exact absurd (h.below.source hl) (by omega)
      | leave hl hsv _ =>
          rw [Marker.spell_silent, List.nil_append]
          exact h.across hl hs hsv
      | again _ _ hj =>
          rw [hin, List.mem_singleton, Prod.mk.injEq] at hj
          omega
      | inner _ => rfl
      | past _ hl _ _ _ => exact absurd (h.below.source hl) (by omega)
    exact fun hl hs hne => hacross hl rfl hs hne

end Stage

/-! ## The second operand of a concatenation -/

/-- All patterns from node `k + 1` on hold leaves with property `B`, and no link from `k` on to one
of them has a boundary on it. -/
structure Settled (B : α → Prop) (k : Nat) (G : Net α Marker) : Prop where
  leaf : ∀ {i : Nat} {f : Expr α}, G.node i = some f → k < i ∧ ∀ m ∈ f.leaves, B m
  link : ∀ {p s : Nat} {a : List Marker}, k ≤ p → G.link p a s → 2 ≤ s → s ≠ k → a = []

lemma leaves_subset_of_child {f : Expr α} {i : Nat} (h : e.children[i]? = some f) :
    f.leaves ⊆ e.leaves := by
  have hmem := List.mem_of_getElem? h
  intro m hm
  cases e with
  | leaf l => simp [Expr.children] at hmem
  | concat l r =>
      simp only [Expr.children, List.mem_cons, List.not_mem_nil, or_false] at hmem
      rcases hmem with rfl | rfl
      · exact List.mem_append_left _ hm
      · exact List.mem_append_right _ hm
  | alt l r =>
      simp only [Expr.children, List.mem_cons, List.not_mem_nil, or_false] at hmem
      rcases hmem with rfl | rfl
      · exact List.mem_append_left _ hm
      · exact List.mem_append_right _ hm
  | maybe z => rwa [List.mem_singleton.mp hmem] at hm
  | star z => rwa [List.mem_singleton.mp hmem] at hm
  | capture n z => rwa [List.mem_singleton.mp hmem] at hm

/-- Taking a node apart keeps a net settled. -/
lemma Settled.rewrite {k : Nat} (h : G.Settled B k) (hk : 2 ≤ k) (hG : G.Below x)
    (hv : G.node v = some e) : (G.rewrite Marker.silent v x e).Settled B k where
  leaf {i f} hi := by
    have hvx := hG.lt hv
    obtain ⟨hkv, hB⟩ := h.leaf hv
    by_cases hix : i < x
    · have hiv : i ≠ v := fun hiv => by simp [Net.rewrite, hiv] at hi
      rw [node_rewrite_of_lt hix hiv] at hi
      exact h.leaf hi
    · obtain ⟨j, rfl⟩ := Nat.exists_eq_add_of_le (Nat.le_of_not_lt hix)
      rw [node_rewrite_operand hvx] at hi
      exact ⟨by omega, fun m hm => hB m (leaves_subset_of_child hi hm)⟩
  link {p s a} hp hl hs hne := by
    obtain ⟨hkv, _⟩ := h.leaf hv
    have hv2 : 2 ≤ v := by omega
    have hvk : v ≠ k := Nat.ne_of_gt hkv
    cases hl with
    | kept hl _ _ => exact h.link hp hl hs hne
    | enter hl _ _ =>
        rw [Marker.spell_silent, List.append_nil]
        exact h.link hp hl hv2 hvk
    | leave hl _ _ =>
        rw [Marker.spell_silent, List.nil_append]
        exact h.link (Nat.le_of_lt hkv) hl hs hne
    | again hl _ _ =>
        rw [Marker.spell_silent, Marker.spell_silent, List.nil_append, List.append_nil]
        exact h.link (Nat.le_of_lt hkv) hl hv2 hvk
    | inner _ => rfl
    | past _ hl _ hl' _ =>
        rw [h.link hp hl hv2 hvk, h.link (Nat.le_of_lt hkv) hl' hs hne]
        rfl

lemma Unfolds.settled {k : Nat} (hu : Unfolds Marker.silent G x G' x') (hG : G.Below x)
    (h : G.Settled B k) (hk : 2 ≤ k) : G'.Settled B k := by
  induction hu with
  | refl => exact h
  | step hu hv ih => exact ih.rewrite hk (hu.rewrites.keeps_below hG) hv.node

/-- The links that lead round through two operands at `k` and `k + 1`. -/
def around (n : String) (k : Nat) (node : Nat → Option (Expr α)) : Net α Marker where
  node := node
  link p a s := (p = 0 ∧ a = [.start n] ∧ s = k) ∨ (p = k ∧ a = [] ∧ s = k + 1) ∨
    (p = k + 1 ∧ a = [.stop n] ∧ s = 1) ∨ (p = k + 1 ∧ a = [.stop n, .start n] ∧ s = k)

/-- They are quiet as long as the first operand is not looked at. -/
lemma quiet_around {k : Nat} (hk : 2 ≤ k) {node : Nat → Option (Expr α)}
    (hnode : ∀ i ≤ k, node i = none) : (around n k node).Quiet {[]} where
  cycle {i f t} hi _ hw := by
    have hki : k < i := by
      by_contra hle
      rw [show (around n k node).node i = node i from rfl, hnode i (by omega)] at hi
      exact absurd hi (by simp)
    -- From the second operand on, a walk comes to a bare node at once and ends there.
    have hend : ∀ {t s}, (around n k node).Silent i t s → s ≤ k := by
      intro t s hw
      induction hw with
      | link hl => rcases hl with h | h | h | h <;> omega
      | step _ hq _ _ ih =>
          rw [show (around n k node).node _ = node _ from rfl, hnode _ ih] at hq
          exact absurd hq (by simp)
    have := hend hw
    omega
  stars _ := Or.inr rfl

namespace Stage

variable {l r : Expr α}

/-- After the first rewrite, the second operand is settled. -/
lemma settled_concat (h : Stage n B G v x (.concat l r)) (hB : ∀ m ∈ r.leaves, B m) :
    ((G.rewrite Marker.silent v x (.concat l r)).cut (x + 1)).Settled B x where
  leaf {i f} hi := by
    obtain ⟨hxi, hi⟩ := node_cut_eq_some hi
    obtain ⟨j, rfl⟩ := Nat.exists_eq_add_of_le (Nat.le_of_succ_le hxi)
    rw [node_rewrite_operand h.lt] at hi
    have hj : j < 2 := (List.getElem?_eq_some_iff.mp hi).1
    obtain rfl : j = 1 := by omega
    obtain rfl : r = f := Option.some.inj hi
    exact ⟨hxi, hB⟩
  link {p s a} hp hl hs hne := by
    have hlt := h.lt
    cases hl with
    | kept hl _ _ => exact absurd (h.below.source hl) (by omega)
    | enter hl _ _ => exact absurd (h.below.source hl) (by omega)
    | leave hl hsv _ =>
        rw [Marker.spell_silent, List.nil_append]
        exact h.across hl hs hsv
    | again _ _ hj =>
        simp only [Expr.entries, List.mem_singleton, Prod.mk.injEq] at hj
        exact absurd (by rw [hj.1]; rfl) hne
    | inner _ => rfl
    | past _ hl _ _ _ => exact absurd (h.below.source hl) (by omega)

/-- It also is part of a way round. -/
lemma around_le (h : Stage n B G v x (.concat l r)) :
    (around n x ((G.rewrite Marker.silent v x (.concat l r)).cut (x + 1)).node).Le
      ((G.rewrite Marker.silent v x (.concat l r)).cut (x + 1)) where
  node := rfl
  link {p s a} hl := by
    have h2 := h.two_le
    have hentry : (0, []) ∈ (Expr.concat l r).entries := List.mem_singleton_self _
    have hexit : (1, []) ∈ (Expr.concat l r).exits := List.mem_singleton_self _
    rcases hl with ⟨rfl, rfl, rfl⟩ | ⟨rfl, rfl, rfl⟩ | ⟨rfl, rfl, rfl⟩ | ⟨rfl, rfl, rfl⟩
    · exact link_enter h.inward (by omega) hentry
    · exact Rewired.inner (i := 0) (List.mem_singleton_self _)
    · exact link_leave h.outward (by omega) hexit
    · exact link_again h.back hexit hentry

/-- **The first operand of a concatenation** is left when the second one is nullable and has been
taken apart. -/
theorem concat (h : Stage n B G v x (.concat l r)) (hr : r.nullable = true)
    (hB : ∀ m ∈ r.leaves, B m) (hu : G.Unfolds Marker.silent x G' x')
    (hleaves : G'.LeavesFrom 0) :
    ∃ G₁ x₁, Stage n B G₁ x x₁ l ∧ G₁.Unfolds Marker.silent x₁ G' x' := by
  have h2 := h.two_le
  have hlt := h.lt
  have hnext := h.next (List.cons_ne_nil l [r])
  have hu₂ : (G.rewrite Marker.silent v x (.concat l r)).Unfolds Marker.silent (x + 2) G' x' :=
    hu.of_next hnext hleaves
  have hb₂ : (G.rewrite Marker.silent v x (.concat l r)).Below (x + 2) := h.below.rewrite h.node
  obtain ⟨G₁, x₁, hu₁, ⟨hcut, hold⟩, hleaves₁, hrest⟩ := hu₂.exists_phase hb₂ hleaves (x + 1)
  have hset := hcut.settled (hb₂.cut (x + 1)) (h.settled_concat hB) (by omega)
  have hcutleaves : (G₁.cut (x + 1)).LeavesFrom 0 := by
    intro i f _ hi
    obtain ⟨hxi, hi⟩ := node_cut_eq_some hi
    exact hleaves₁ hxi hi
  -- Ways round from bare node to bare node have become links.
  have hkeep : ∀ {p s t}, p ≤ x → s ≤ x →
      (around n x ((G.rewrite Marker.silent v x (.concat l r)).cut (x + 1)).node).Silent p t s →
      G₁.link p t s := by
    intro p s t hp hs hw
    have hquiet : (around n x
        ((G.rewrite Marker.silent v x (.concat l r)).cut (x + 1)).node).Quiet {[]} :=
      quiet_around (by omega) fun i hi => node_cut_of_lt (by omega)
    exact link_of_silent hcutleaves (hcut.walk_of_le (R := Reading.silent) (hb₂.cut (x + 1))
      h.around_le rfl hquiet (by omega) (by omega) (node_cut_of_lt (by omega))
      (node_cut_of_lt (by omega)) hw)
  have hsecond : ((G.rewrite Marker.silent v x (.concat l r)).cut (x + 1)).node (x + 1) = some r := by
    rw [node_cut_of_le le_rfl, node_rewrite_operand hlt]
    rfl
  have hmid : (around n x ((G.rewrite Marker.silent v x (.concat l r)).cut (x + 1)).node).Silent
      x [] (x + 1) := .link (Or.inr (Or.inl ⟨rfl, rfl, rfl⟩))
  refine ⟨G₁, x₁, ?_, hrest⟩
  constructor
  · omega
  · exact hu₁.rewrites.keeps_below hb₂
  · intro i hi
    rw [hold i (by omega), node_rewrite_of_lt (by omega) (by omega)]
    exact h.bare i hi
  · rw [hold x (Nat.lt_succ_self x)]
    exact node_rewrite_operand hlt 0
  · intro i f hi hne
    by_cases hix : i < x + 1
    · rw [hold i hix] at hi
      have hiv : i ≠ v := fun hiv => by simp [Net.rewrite, hiv] at hi
      rw [node_rewrite_of_lt (by omega) hiv] at hi
      exact h.others hi hiv
    · have hxi := Nat.le_of_not_lt hix
      have hf := hleaves₁ hxi hi
      have hleaf := (hset.leaf (node_cut_of_le hxi ▸ hi)).2
      cases f with
      | leaf m => exact ⟨m, hleaf m (List.mem_singleton_self m), rfl⟩
      | _ => simp [Expr.children] at hf
  · exact hkeep (by omega) le_rfl (.link (Or.inl ⟨rfl, rfl, rfl⟩))
  · exact hkeep le_rfl (by omega)
      (hmid.step hsecond hr (Or.inr (Or.inr (Or.inl ⟨rfl, rfl, rfl⟩))))
  · exact hkeep le_rfl le_rfl
      (hmid.step hsecond hr (Or.inr (Or.inr (Or.inr ⟨rfl, rfl, rfl⟩))))
  · intro s a hl hs hne
    exact hset.link le_rfl hl hs hne

end Stage

end Net

end TokenPattern
