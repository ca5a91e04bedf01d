import Mathlib.Data.List.Chain
import TokenPattern.Proofs.Repetition.Paint
import TokenPattern.Proofs.Repetition.Stage

/-!
# What a nullable core does to rounds

A concatenation of two nullable operands is entered on its left side again and again, until the
compiler comes to the tip of the body.

* If the tip is nullable, it is an alternative with a nullable side.  This side can be passed by, and
  the ring leads on to the other: the group is closed as soon as it has been opened, and opened again
  (`Stage.emptyRound`).
* If the tip is not nullable, no boundary is left between one of its leaves and one of those behind it,
  though a round may end there (`Stage.allJoined`).
-/

namespace TokenPattern

open scoped Computability

universe u v

namespace Net

variable {α : Type u} {n : String} {A B : α → Prop} {G G' : Net α Marker} {v x x' : Nat}
  {e : Expr α}

/-! ## Alternatives -/

/-- The links that lead into one operand, from there to another one, and out. -/
def through (n : String) (a b : Nat) (node : Nat → Option (Expr α)) : Net α Marker where
  node := node
  link p w s := (p = 0 ∧ w = [.start n] ∧ s = a) ∨ (p = a ∧ w = [.stop n, .start n] ∧ s = b) ∨
    (p = b ∧ w = [.stop n] ∧ s = 1)

/-- They lead upwards. -/
lemma quiet_through {a b : Nat} (ha : 2 ≤ a) (hb : 2 ≤ b) (hab : a ≠ b)
    (node : Nat → Option (Expr α)) : (through n a b node).lettered.Quiet {[]} := by
  refine quiet_of_rank
    (fun i => if i = 0 then 0 else if i = a then 1 else if i = b then 2 else 3) ?_ rfl
  intro p w s hl
  obtain ⟨_, hl, _⟩ := link_lettered_iff.mp hl
  rcases hl with ⟨rfl, _, rfl⟩ | ⟨rfl, _, rfl⟩ | ⟨rfl, _, rfl⟩
  · rw [if_pos rfl, if_neg (by omega), if_pos rfl]
    decide
  · rw [if_neg (by omega), if_pos rfl, if_neg (by omega), if_neg (by omega), if_pos rfl]
    decide
  · rw [if_neg (by omega), if_neg (by omega), if_pos rfl, if_neg (by omega), if_neg (by omega),
      if_neg (by omega)]
    decide

lemma walk_of_through {a b : Nat} {node : Nat → Option (Expr α)} {f g : Expr α}
    (ha : node a = some f) (hb : node b = some g) (hf : f.nullable = true) {z : List α}
    (hz : z ∈ g.words) :
    (through n a b node).lettered.Walk (Reading.kept Marker.silent) 0
      ([.inl (.start n), .inl (.stop n), .inl (.start n)] ++ z.map .inr ++ [.inl (.stop n)]) 1 := by
  have hnil : [] ∈ f.denote (Reading.kept Marker.silent : Reading α (Marker ⊕ α)) := by
    rw [Expr.denote_kept_silent]
    exact ⟨[], (f.nullable_iff_nil_mem_words).mp hf, rfl⟩
  have hword : z.map .inr ∈ g.denote (Reading.kept Marker.silent : Reading α (Marker ⊕ α)) := by
    rw [Expr.denote_kept_silent]
    exact ⟨z, hz, rfl⟩
  have hin : (through n a b node).lettered.Walk (Reading.kept Marker.silent) 0
      [.inl (.start n)] a := .link (link_lettered_iff.mpr ⟨_, Or.inl ⟨rfl, rfl, rfl⟩, rfl⟩)
  have hnext := hin.step ha hnil
    (link_lettered_iff.mpr ⟨_, Or.inr (Or.inl ⟨rfl, rfl, rfl⟩), rfl⟩)
  exact hnext.step hb hword (link_lettered_iff.mpr ⟨_, Or.inr (Or.inr ⟨rfl, rfl, rfl⟩), rfl⟩)

/-- An operand that is nullable lets the ring close and open the group at once, on the way to another
one. -/
lemma Stage.walk_through {l r f g : Expr α} {i j : Nat} (h : Stage n B G v x (.alt l r))
    (hi : (Expr.alt l r).children[i]? = some f) (hj : (Expr.alt l r).children[j]? = some g)
    (hij : i ≠ j) (hf : f.nullable = true) {z : List α} (hz : z ∈ g.words)
    (hu : (G.rewrite Marker.silent v x (.alt l r)).Unfolds Marker.silent (x + 2) G' x') :
    G'.lettered.Walk (Reading.kept Marker.silent) 0
      ([.inl (.start n), .inl (.stop n), .inl (.start n)] ++ z.map .inr ++ [.inl (.stop n)]) 1 := by
  have h2 := h.two_le
  have hlt := h.lt
  have hi2 : i < 2 := (List.getElem?_eq_some_iff.mp hi).1
  have hj2 : j < 2 := (List.getElem?_eq_some_iff.mp hj).1
  have hb : (G.rewrite Marker.silent v x (.alt l r)).Below (x + 2) := h.below.rewrite h.node
  have hentry : ∀ k < 2, (k, []) ∈ (Expr.alt l r).entries := by
    intro k hk
    rcases (by omega : k = 0 ∨ k = 1) with rfl | rfl
    · exact List.mem_cons_self
    · exact List.mem_cons_of_mem _ List.mem_cons_self
  have hexit : ∀ k < 2, (k, []) ∈ (Expr.alt l r).exits := hentry
  have hle : (through n (x + i) (x + j) (G.rewrite Marker.silent v x (.alt l r)).node).Le
      (G.rewrite Marker.silent v x (.alt l r)) := by
    refine ⟨rfl, ?_⟩
    intro p s w hl
    rcases hl with ⟨rfl, rfl, rfl⟩ | ⟨rfl, rfl, rfl⟩ | ⟨rfl, rfl, rfl⟩
    · exact link_enter h.inward (by omega) (hentry i hi2)
    · exact link_again h.back (hexit i hi2) (hentry j hj2)
    · exact link_leave h.outward (by omega) (hexit j hj2)
  have hfirst : (G.rewrite Marker.silent v x (.alt l r)).node (x + i) = some f :=
    (node_rewrite_operand hlt i).trans hi
  have hsecond : (G.rewrite Marker.silent v x (.alt l r)).node (x + j) = some g :=
    (node_rewrite_operand hlt j).trans hj
  have hwalk := walk_of_through (n := n) hfirst hsecond hf hz
  have hbare : ∀ i < 2, (G.rewrite Marker.silent v x (.alt l r)).node i = none := by
    intro i hi
    rw [node_rewrite_of_lt (by omega) (by omega)]
    exact h.bare i hi
  exact Unfolds.walk_of_le (R := Reading.kept Marker.silent) (hu.map fun k => [.inl k])
    (hb.map _) (hle.map _) rfl (quiet_through (by omega) (by omega) (by omega) _) (by omega)
    (by omega) (hbare 0 (by decide)) (hbare 1 (by decide)) hwalk

/-- **A nullable alternative** leaves an empty round in front of another one. -/
theorem Stage.alt {l r : Expr α} (h : Stage n B G v x (.alt l r))
    (hnull : (Expr.alt l r).nullable = true) (hu : G.Unfolds Marker.silent x G' x')
    (hleaves : G'.LeavesFrom 0) :
    ∃ z ∈ (Expr.alt l r).words, z ≠ [] ∧ G'.lettered.Walk (Reading.kept Marker.silent) 0
      ([.inl (.start n), .inl (.stop n), .inl (.start n)] ++ z.map .inr ++ [.inl (.stop n)]) 1 := by
  have hu₂ := hu.of_next (h.next (List.cons_ne_nil l [r])) hleaves
  rw [Expr.nullable, Bool.or_eq_true] at hnull
  rcases hnull with hl | hr
  · obtain ⟨z, hz, hne⟩ := r.exists_word
    exact ⟨z, Or.inr hz, hne, h.walk_through (i := 0) (j := 1) rfl rfl (by decide) hl hz hu₂⟩
  · obtain ⟨z, hz, hne⟩ := l.exists_word
    exact ⟨z, Or.inl hz, hne, h.walk_through (i := 1) (j := 0) rfl rfl (by decide) hr hz hu₂⟩

/-! ## Patterns that read -/

/-- Between a leaf that is not behind and one that is not in front, no boundary is crossed. -/
def Joined (A B : α → Prop) (p q : List Marker × α) : Prop := ¬ B p.2 → ¬ A q.2 → q.1 = []

/-- What a walk of the net with one pattern left has read when it comes to node `s`. -/
def Passed (A B : α → Prop) (v : Nat) (t : List (Marker ⊕ α)) (s : Nat) : Prop :=
  ∃ (items : List (List Marker × α)) (a : List Marker), t = spell items ++ a.map .inl ∧
    items.IsChain (Joined A B) ∧
      ∀ p ∈ items.getLast?, ¬ B p.2 → 2 ≤ s → s ≠ v → a = []

lemma Stage.passed (h : Stage n B G v x e) (he : e.nullable = false) (hA : ∀ m ∈ e.leaves, A m)
    {t : List (Marker ⊕ α)} {s : Nat}
    (hw : G.lettered.Walk (Reading.kept Marker.silent) 0 t s) : Passed A B v t s := by
  induction hw with
  | link hl =>
      obtain ⟨a, _, rfl⟩ := link_lettered_iff.mp hl
      exact ⟨[], a, rfl, List.IsChain.nil, by simp⟩
  | @step t z c q s f _ hq hz hl ih =>
      obtain ⟨items, a, rfl, hchain, hlast⟩ := ih
      obtain ⟨b, hlink, rfl⟩ := link_lettered_iff.mp hl
      by_cases hqv : q = v
      · -- The pattern reads at least one of its own leaves.
        subst hqv
        obtain rfl : e = f := Option.some.inj (h.node.symm.trans hq)
        rw [Expr.denote_kept_silent] at hz
        obtain ⟨u, hu, rfl⟩ := hz
        have hne : u ≠ [] := by
          rintro rfl
          rw [(e.nullable_iff_nil_mem_words).mpr hu] at he
          exact absurd he (by simp)
        have hown : ∀ p ∈ round a u, A p.2 := by
          intro p hp
          have hmem := List.mem_map_of_mem (f := Prod.snd) hp
          rw [map_snd_round] at hmem
          exact hA _ (Expr.mem_leaves_of_mem_words hu hmem)
        refine ⟨items ++ round a u, b, ?_, ?_, fun _ _ _ hs hsv => h.across hlink hs hsv⟩
        · rw [spell_append, spell_round hne]
          simp
        · refine List.isChain_append.mpr ⟨hchain, ?_, ?_⟩
          · have hpair : (round a u).Pairwise (Joined A B) :=
              List.pairwise_of_forall_mem_list fun _ _ q hq _ hAq => absurd (hown q hq) hAq
            exact hpair.isChain
          · intro p _ q hq _ hAq
            exact absurd (hown q (List.mem_of_mem_head? hq)) hAq
      · -- A leaf behind is reached without a boundary.
        obtain ⟨l, hl, rfl⟩ := h.others hq hqv
        obtain rfl : z = [.inr l] := hz
        have hq2 : 2 ≤ q := by
          by_contra hlt
          exact absurd ((h.bare q (by omega)).symm.trans hq) (by simp)
        refine ⟨items ++ [(a, l)], b, ?_, ?_, ?_⟩
        · rw [spell_append, spell_cons]
          simp
        · refine List.isChain_append.mpr ⟨hchain, List.isChain_singleton _, ?_⟩
          intro p hp q' hq' hBp _
          obtain rfl : (a, l) = q' := by simpa using hq'
          exact hlast p hp hBp hq2 hqv
        · intro p hp hBp
          obtain rfl : (a, l) = p := by simpa using hp
          exact absurd hl hBp

/-- **Behind a pattern that reads** the boundary is lost. -/
theorem Stage.isChain (h : Stage n B G v x e) (he : e.nullable = false)
    (hA : ∀ m ∈ e.leaves, A m) (hu : G.Unfolds Marker.silent x G' x')
    {s : List (List Marker × α)} {a : List Marker}
    (hw : G'.lettered.Walk (Reading.kept Marker.silent) 0 (spell s ++ a.map .inl) 1) :
    s.IsChain (Joined A B) := by
  have h2 := h.two_le
  have hlt := h.lt
  have hbefore := Rewrites.walk_of_walk (R := Reading.kept Marker.silent)
    (hu.rewrites.map fun k => [.inl k]) (h.below.map _) (by omega) (by omega) hw
  obtain ⟨items, b, heq, hchain, _⟩ := h.passed he hA hbefore
  rwa [(spell_append_inj heq).1]

/-! ## The way to the tip -/

/-- Some walk makes an empty round before it reads leaves with property `A`. -/
def EmptyRound (n : String) (A : α → Prop) (G : Net α Marker) : Prop :=
  ∃ z : List α, z ≠ [] ∧ (∀ m ∈ z, A m) ∧ G.lettered.Walk (Reading.kept Marker.silent) 0
    ([.inl (.start n), .inl (.stop n), .inl (.start n)] ++ z.map .inr ++ [.inl (.stop n)]) 1

/-- No walk crosses a boundary between a leaf with property `A` and a leaf with property `B` behind
it. -/
def AllJoined (A B : α → Prop) (G : Net α Marker) : Prop :=
  ∀ (s : List (List Marker × α)) (a : List Marker),
    G.lettered.Walk (Reading.kept Marker.silent) 0 (spell s ++ a.map .inl) 1 →
      s.IsChain (Joined A B)

/-- From a net with a painted pattern left, the compiler comes to one with the tip left. -/
lemma Stage.exists_tip (h : Stage n B G v x e) (hp : e.Painted A B)
    (hu : G.Unfolds Marker.silent x G' x') (hleaves : G'.LeavesFrom 0) :
    ∃ G₁ v₁ x₁, Stage n B G₁ v₁ x₁ e.tip ∧ (∀ m ∈ e.tip.leaves, A m) ∧
      G₁.Unfolds Marker.silent x₁ G' x' := by
  induction e generalizing G v x with
  | leaf m => exact ⟨G, v, x, h, fun l hl => List.mem_singleton.mp hl ▸ hp, hu⟩
  | concat l r ihl _ =>
      rw [Expr.Painted] at hp
      rw [Expr.tip]
      split_ifs at hp ⊢ with hnull
      · obtain ⟨G₁, x₁, h₁, hu₁⟩ := h.concat hnull.2 hp.2 hu hleaves
        exact ihl h₁ hp.1 hu₁
      · exact ⟨G, v, x, h, hp, hu⟩
  | alt l r _ _ => exact ⟨G, v, x, h, hp, hu⟩
  | maybe y ih =>
      have hu' := hu.of_next (h.next (List.cons_ne_nil y [])) hleaves
      exact ih (h.rewrite rfl rfl rfl) hp hu'
  | star y ih =>
      have hu' := hu.of_next (h.next (List.cons_ne_nil y [])) hleaves
      exact ih (h.rewrite rfl rfl rfl) hp hu'
  | capture c y ih =>
      have hu' := hu.of_next (h.next (List.cons_ne_nil y [])) hleaves
      exact ih (h.rewrite rfl rfl rfl) hp hu'

/-- **A nullable tip** makes empty rounds. -/
theorem Stage.emptyRound (h : Stage n B G v x e) (hp : e.Painted A B)
    (htip : e.tip.nullable = true) (hu : G.Unfolds Marker.silent x G' x')
    (hleaves : G'.LeavesFrom 0) : G'.EmptyRound n A := by
  obtain ⟨G₁, v₁, x₁, h₁, hA, hu₁⟩ := h.exists_tip hp hu hleaves
  obtain ⟨l, r, halt⟩ := Expr.exists_alt_of_nullable_tip htip
  rw [halt] at h₁ hA htip
  obtain ⟨z, hz, hne, hw⟩ := h₁.alt htip hu₁ hleaves
  exact ⟨z, hne, fun m hm => hA m (Expr.mem_leaves_of_mem_words hz hm), hw⟩

/-- **A tip that reads** loses the boundary behind it. -/
theorem Stage.allJoined (h : Stage n B G v x e) (hp : e.Painted A B)
    (htip : e.tip.nullable = false) (hu : G.Unfolds Marker.silent x G' x')
    (hleaves : G'.LeavesFrom 0) : G'.AllJoined A B := by
  obtain ⟨G₁, v₁, x₁, h₁, hA, hu₁⟩ := h.exists_tip hp hu hleaves
  exact fun s a hw => h₁.isChain htip hA hu₁ hw

end Net

end TokenPattern
