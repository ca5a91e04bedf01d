import TokenPattern.Proofs.Net.Spelling

/-!
# One part of a net after the other

The node with the highest number is always taken apart next.  So of two operands, the second is taken
apart to its last leaf before the first is looked at.

**Phases.**  `Unfolds.exists_phase` divides a run in two: in the first part, everything from a given
number on is taken apart, and the nodes below that number stand still, as if they were sentinels
(`Net.cut`).

**What is certain to be there.**  A part of a net that is quiet keeps its walks, and the whole keeps
what the part keeps.  When only leaves are left, a walk that reads nothing is a single link
(`Unfolds.link_of_silent`).
-/

namespace TokenPattern

universe u v

namespace Net

variable {α : Type u} {σ : Type v} {G G' H : Net α σ} {mark : Marker → List σ} {v x x' k : Nat}
  {e : Expr α}

/-! ## Phases -/

/-- The net in which the nodes below number `k` are bare. -/
def cut (k : Nat) (G : Net α σ) : Net α σ where
  node i := if i < k then none else G.node i
  link := G.link

lemma node_cut_of_lt {i : Nat} (hi : i < k) : (G.cut k).node i = none := if_pos hi

lemma node_cut_of_le {i : Nat} (hi : k ≤ i) : (G.cut k).node i = G.node i :=
  if_neg (Nat.not_lt.mpr hi)

lemma node_cut_eq_some {i : Nat} {f : Expr α} (h : (G.cut k).node i = some f) :
    k ≤ i ∧ G.node i = some f := by
  by_cases hi : i < k
  · rw [node_cut_of_lt hi] at h
    exact absurd h (by simp)
  · have hki := Nat.le_of_not_lt hi
    rw [node_cut_of_le hki] at h
    exact ⟨hki, h⟩

lemma Below.cut (h : G.Below x) (k : Nat) : (G.cut k).Below x where
  node {i} hi := by
    by_cases hik : i < k
    · exact node_cut_of_lt hik
    · rw [node_cut_of_le (Nat.le_of_not_lt hik), h.node hi]
  source hl := h.source hl
  target hl := h.target hl

lemma Next.cut (h : G.Next v e) (hk : k ≤ v) : (G.cut k).Next v e where
  node := by rw [node_cut_of_le hk, h.node]
  children_ne := h.children_ne
  le hi hf := h.le (node_cut_eq_some hi).2 hf

lemma cut_rewrite (hkv : k ≤ v) (hvx : v < x) :
    (G.rewrite mark v x e).cut k = (G.cut k).rewrite mark v x e := by
  refine Net.ext ?_ ?_
  · funext i
    show (if i < k then none else if i = v then none else if i < x then G.node i
      else e.children[i - x]?) = if i = v then none else if i < x then (G.cut k).node i
      else e.children[i - x]?
    by_cases hik : i < k
    · rw [if_pos hik, if_neg (by omega), if_pos (by omega), node_cut_of_lt hik]
    · rw [if_neg hik, node_cut_of_le (Nat.le_of_not_lt hik)]
  · funext p a s
    exact propext ⟨Rewired.mono (H := G) (G := G.cut k) id, Rewired.mono (H := G.cut k) (G := G) id⟩

/-- Everything that has happened so far has happened from number `k` on. -/
def Above (mark : Marker → List σ) (k : Nat) (G : Net α σ) (x : Nat) (G' : Net α σ) (x' : Nat) :
    Prop :=
  (G.cut k).Unfolds mark x (G'.cut k) x' ∧ ∀ i < k, G'.node i = G.node i

/-- A run stays above number `k` until only leaves are left there. -/
lemma Unfolds.above_or (h : Unfolds mark G x G' x') (hG : G.Below x) :
    Above mark k G x G' x' ∨ ∃ G₁ x₁, Unfolds mark G x G₁ x₁ ∧ Above mark k G x G₁ x₁ ∧
      G₁.LeavesFrom k ∧ Unfolds mark G₁ x₁ G' x' := by
  induction h with
  | refl => exact Or.inl ⟨.refl, fun _ _ => rfl⟩
  | @step G' x' v e hu hv ih =>
      have hvx := (hu.rewrites.keeps_below hG).lt hv.node
      rcases ih with habove | ⟨G₁, x₁, hu₁, habove, hleaves, hrest⟩
      · by_cases hkv : k ≤ v
        · refine Or.inl ⟨?_, fun i hi => ?_⟩
          · rw [cut_rewrite hkv hvx]
            exact habove.1.step (hv.cut hkv)
          · rw [node_rewrite_of_lt (by omega) (by omega)]
            exact habove.2 i hi
        · refine Or.inr ⟨G', x', hu, habove, ?_, Unfolds.refl.step hv⟩
          intro i f hki hi
          by_contra hf
          have := hv.le hi hf
          omega
      · exact Or.inr ⟨G₁, x₁, hu₁, habove, hleaves, hrest.step hv⟩

/-- **A run begins with a phase** in which everything from number `k` on is taken apart. -/
theorem Unfolds.exists_phase (h : Unfolds mark G x G' x') (hG : G.Below x)
    (hleaves : G'.LeavesFrom 0) (k : Nat) :
    ∃ G₁ x₁, Unfolds mark G x G₁ x₁ ∧ Above mark k G x G₁ x₁ ∧ G₁.LeavesFrom k ∧
      Unfolds mark G₁ x₁ G' x' := by
  rcases h.above_or (k := k) hG with habove | hphase
  · exact ⟨G', x', h, habove, fun _ hi => hleaves (Nat.zero_le _) hi, .refl⟩
  · exact hphase

/-! ## Walks that are certain -/

/-- A net is quiet if its links lead upwards in some numbering. -/
lemma quiet_of_rank {C : Set (List σ)} (rank : Nat → Nat)
    (h : ∀ {p a s}, G.link p a s → rank p < rank s) (hC : [] ∈ C) : G.Quiet C where
  cycle {i f t} _ _ hw := by
    have hup : ∀ {t s}, G.Silent i t s → rank i < rank s := by
      intro t s hw
      induction hw with
      | link hl => exact h hl
      | step _ _ _ hl ih => exact ih.trans (h hl)
    exact absurd (hup hw) (Nat.lt_irrefl _)
  stars _ := Or.inr hC

/-- When only leaves are left, nothing is read on a single link only. -/
lemma link_of_silent (hG : G.LeavesFrom 0) {p s : Nat} {t : List σ} (h : G.Silent p t s) :
    G.link p t s := by
  cases h with
  | link hl => exact hl
  | step _ hq hz _ =>
      obtain ⟨l, rfl⟩ := hG.eq_leaf hq
      exact absurd hz (Language.notMem_zero _)

/-- **What a quiet part of a net can do**, the whole can do when it has been taken apart. -/
lemma Unfolds.walk_of_le {R : Reading α σ} (h : Unfolds R.mark G x G' x') (hG : G.Below x)
    (hle : H.Le G) (hR : R.mark = Marker.silent) (hq : H.Quiet {[]}) {p s : Nat} (hp : p < x)
    (hs : s < x) (hpn : G.node p = none) (hsn : G.node s = none) {t : List σ}
    (hw : H.Walk R p t s) : G'.Walk R p t s := by
  obtain ⟨H', hu, hle'⟩ := h.exists_le hle
  rw [← hle.node] at hpn hsn
  exact hle'.walk ((hu.rewrites.walk_iff_of_quiet (hle.below hG) hR hq hp hs hpn hsn).mpr hw)

end Net

end TokenPattern
