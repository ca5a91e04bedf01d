import TokenPattern.Proofs.Net.Basic

/-!
# Walks through a net, and what a rewrite does to them

A walk leaves a node, follows links, and reads a word of every pattern it comes through.  This file
compares the walks of a net with those of the net after one rewrite.

* `Net.walk_of_walk_rewrite` — a rewrite invents no walk, whatever the net looks like.
* `Net.walk_rewrite_of_walk` — a rewrite loses no walk, provided that the loops at a node that may be
  passed by carry the empty word (`Net.LoopsTrivial`).

**Why loops matter.**  A bypass is laid from every way in to every way out, and a loop is neither.
A walk that enters, passes the node by, takes the loop and then leaves is therefore lost, together
with the word of the loop.  If that word is empty the walk has the same word as one that passes by
once.
-/

namespace TokenPattern

universe u v w

/-- A graph with patterns at its nodes and words on its links. -/
@[ext] structure Net (α : Type u) (σ : Type v) where
  node : Nat → Option (Expr α)
  link : Nat → List σ → Nat → Prop

namespace Net

variable {α : Type u} {σ : Type v}

/-- `G.Walk R p t s`: one can go from `p` to `s`, reading `t` from the links and from the patterns
in between. -/
inductive Walk (R : Reading α σ) (G : Net α σ) (p : Nat) : List σ → Nat → Prop
  | link {a : List σ} {s : Nat} : G.link p a s → Walk R G p a s
  | step {t z a : List σ} {q s : Nat} {e : Expr α} : Walk R G p t q → G.node q = some e →
      z ∈ e.denote R → G.link q a s → Walk R G p (t ++ z ++ a) s

/-- All nodes and links lie below number `x`. -/
structure Below (G : Net α σ) (x : Nat) : Prop where
  node : ∀ {i : Nat}, x ≤ i → G.node i = none
  source : ∀ {p s : Nat} {a : List σ}, G.link p a s → p < x
  target : ∀ {p s : Nat} {a : List σ}, G.link p a s → s < x

/-! ## Rewriting -/

/-- The links after node `v` with pattern `e` has been taken apart, its operands standing at `x`
and behind. -/
inductive Rewired (mark : Marker → List σ) (G : Net α σ) (v x : Nat) (e : Expr α) :
    Nat → List σ → Nat → Prop
  | kept {p s : Nat} {a : List σ} : G.link p a s → p ≠ v → s ≠ v → Rewired mark G v x e p a s
  | enter {p i : Nat} {a : List σ} {m : List Marker} : G.link p a v → p ≠ v → (i, m) ∈ e.entries →
      Rewired mark G v x e p (a ++ Marker.spell mark m) (x + i)
  | leave {s i : Nat} {a : List σ} {m : List Marker} : G.link v a s → s ≠ v → (i, m) ∈ e.exits →
      Rewired mark G v x e (x + i) (Marker.spell mark m ++ a) s
  | again {i j : Nat} {a : List σ} {m k : List Marker} : G.link v a v → (i, m) ∈ e.exits →
      (j, k) ∈ e.entries →
      Rewired mark G v x e (x + i) (Marker.spell mark m ++ a ++ Marker.spell mark k) (x + j)
  | inner {i j : Nat} : (i, j) ∈ e.inner → Rewired mark G v x e (x + i) [] (x + j)
  | past {p s : Nat} {a b : List σ} : e.skips = true → G.link p a v → p ≠ v → G.link v b s → s ≠ v →
      Rewired mark G v x e p (a ++ b) s

/-- The net after node `v` with pattern `e` has been taken apart. -/
def rewrite (mark : Marker → List σ) (G : Net α σ) (v x : Nat) (e : Expr α) : Net α σ where
  node i := if i = v then none else if i < x then G.node i else e.children[i - x]?
  link := Rewired mark G v x e

/-- At a node that may be passed by, every loop carries the empty word. -/
def LoopsTrivial (G : Net α σ) (v : Nat) (e : Expr α) : Prop :=
  e.skips = true → ∀ a, G.link v a v → a = []

section

variable {mark : Marker → List σ} {G : Net α σ} {v x : Nat} {e : Expr α}

lemma node_rewrite_of_lt {i : Nat} (hi : i < x) (hv : i ≠ v) :
    (G.rewrite mark v x e).node i = G.node i := by
  simp only [rewrite, hv, if_false, hi, if_true]

lemma node_rewrite_operand (hv : v < x) (i : Nat) :
    (G.rewrite mark v x e).node (x + i) = e.children[i]? := by
  have h1 : x + i ≠ v := by omega
  have h2 : ¬ x + i < x := by omega
  simp only [rewrite, h1, if_false, h2, Nat.add_sub_cancel_left]

end

/-! ## Soundness -/

section

variable {R : Reading α σ} {G : Net α σ} {v x : Nat} {e : Expr α} {p : Nat}

/-- What a walk of the rewritten net has done when it comes to node `s`: it is a walk of the net
before, or, at an operand, such a walk to `v` and a word read within `e`. -/
def Traced (R : Reading α σ) (G : Net α σ) (v x : Nat) (e : Expr α) (p : Nat) (t : List σ)
    (s : Nat) : Prop :=
  (s < x → G.Walk R p t s) ∧
    ∀ i, s = x + i → ∃ t₁ t₂, t = t₁ ++ t₂ ∧ G.Walk R p t₁ v ∧ e.Within R i t₂

lemma traced_of_walk {t : List σ} {s : Nat} (hs : s < x) (h : G.Walk R p t s) :
    Traced R G v x e p t s :=
  ⟨fun _ => h, fun i hi => by omega⟩

lemma traced_of_within {t u : List σ} {i : Nat} (h : G.Walk R p t v) (hw : e.Within R i u) :
    Traced R G v x e p (t ++ u) (x + i) :=
  ⟨fun hi => by omega, fun j hj => by
    have hij : i = j := by omega
    exact ⟨t, u, rfl, h, hij ▸ hw⟩⟩

/-- Every walk of the rewritten net is traced by one of the net before. -/
lemma traced_of_walk_rewrite (hG : G.Below x) (hv : G.node v = some e) (hvx : v < x)
    (hp : p < x) {t : List σ} {s : Nat} (h : (G.rewrite R.mark v x e).Walk R p t s) :
    Traced R G v x e p t s := by
  induction h with
  | link h =>
      cases h with
      | kept h _ _ => exact traced_of_walk (hG.target h) (Walk.link h)
      | enter h _ hi => exact traced_of_within (Walk.link h) (Expr.Within.enter hi)
      | leave _ _ _ => omega
      | again _ _ _ => omega
      | inner _ => omega
      | past hk h _ h' _ =>
          refine traced_of_walk (hG.target h') ?_
          simpa using Walk.step (Walk.link h) hv (Expr.denote_of_skips hk) h'
  | @step t z a q s f _ hq hz h ih =>
      cases h with
      | kept h hqv _ =>
          have hqx := hG.source h
          rw [node_rewrite_of_lt hqx hqv] at hq
          exact traced_of_walk (hG.target h) (Walk.step (ih.1 hqx) hq hz h)
      | enter h hqv hi =>
          have hqx := hG.source h
          rw [node_rewrite_of_lt hqx hqv] at hq
          rw [← List.append_assoc]
          exact traced_of_within (Walk.step (ih.1 hqx) hq hz h) (Expr.Within.enter hi)
      | leave h _ hi =>
          rw [node_rewrite_operand hvx] at hq
          obtain ⟨t₁, t₂, rfl, ht, hw⟩ := ih.2 _ rfl
          refine traced_of_walk (hG.target h) ?_
          simpa using Walk.step ht hv (hw.exit_mem_denote hq hz hi) h
      | again h hi hj =>
          rw [node_rewrite_operand hvx] at hq
          obtain ⟨t₁, t₂, rfl, ht, hw⟩ := ih.2 _ rfl
          have hloop := Walk.step ht hv (hw.exit_mem_denote hq hz hi) h
          simpa using traced_of_within (x := x) hloop (Expr.Within.enter hj)
      | inner hij =>
          rw [node_rewrite_operand hvx] at hq
          obtain ⟨t₁, t₂, rfl, ht, hw⟩ := ih.2 _ rfl
          simpa using traced_of_within (x := x) ht (hw.pass hq hz hij)
      | past hk h hqv h' _ =>
          have hqx := hG.source h
          rw [node_rewrite_of_lt hqx hqv] at hq
          refine traced_of_walk (hG.target h') ?_
          simpa using
            Walk.step (Walk.step (ih.1 hqx) hq hz h) hv (Expr.denote_of_skips hk) h'

/-- **A rewrite invents no walk.** -/
theorem walk_of_walk_rewrite (hG : G.Below x) (hv : G.node v = some e) (hvx : v < x)
    (hp : p < x) {t : List σ} {s : Nat} (hs : s < x)
    (h : (G.rewrite R.mark v x e).Walk R p t s) : G.Walk R p t s :=
  (traced_of_walk_rewrite hG hv hvx hp h).1 hs

/-! ## Completeness -/

/-- The rewritten net is ready to go on where the net before stands at `v`: at every operand where
one may enter, and past the node where that is allowed. -/
structure Ready (R : Reading α σ) (G : Net α σ) (v x : Nat) (e : Expr α) (p : Nat)
    (t : List σ) : Prop where
  enter : ∀ {i m}, (i, m) ∈ e.entries →
    (G.rewrite R.mark v x e).Walk R p (t ++ Marker.spell R.mark m) (x + i)
  past : e.skips = true → ∀ {a s}, G.link v a s → s ≠ v →
    (G.rewrite R.mark v x e).Walk R p (t ++ a) s

/-- From there every operand can be reached. -/
lemma Ready.within {t : List σ} (h : Ready R G v x e p t) (hvx : v < x) {i : Nat} {u : List σ}
    (hw : e.Within R i u) : (G.rewrite R.mark v x e).Walk R p (t ++ u) (x + i) := by
  induction hw with
  | enter hi => exact h.enter hi
  | pass _ hx hz hij ih =>
      have hstep := Walk.step ih (by rw [node_rewrite_operand hvx]; exact hx) hz
        (Rewired.inner hij)
      simpa using hstep

/-- From there the net can be left with every word of the pattern. -/
lemma Ready.leave {t z a : List σ} {s : Nat} (h : Ready R G v x e p t) (hvx : v < x)
    (he : e.children ≠ []) (hz : z ∈ e.denote R) (hl : G.link v a s) (hs : s ≠ v) :
    (G.rewrite R.mark v x e).Walk R p (t ++ z ++ a) s := by
  rcases Expr.exists_exit he hz with ⟨hk, rfl⟩ | ⟨i, u, y, z, b, hw, hy, hy', hb, rfl⟩
  · simpa using h.past hk hl hs
  · have hstep := Walk.step (h.within hvx hw) (by rw [node_rewrite_operand hvx]; exact hy) hy'
      (Rewired.leave hl hs hb)
    simpa using hstep

/-- From there a loop leads back, also past the node, since its word is empty then. -/
lemma Ready.loop {t z a : List σ} (h : Ready R G v x e p t) (hvx : v < x)
    (he : e.children ≠ []) (hG : G.LoopsTrivial v e) (hz : z ∈ e.denote R) (hl : G.link v a v) :
    Ready R G v x e p (t ++ z ++ a) := by
  constructor
  · intro j k hj
    rcases Expr.exists_exit he hz with ⟨hk, rfl⟩ | ⟨i, u, y, z, b, hw, hy, hy', hb, rfl⟩
    · simpa [hG hk a hl] using h.enter hj
    · have hstep := Walk.step (h.within hvx hw) (by rw [node_rewrite_operand hvx]; exact hy) hy'
        (Rewired.again hl hb hj)
      simpa using hstep
  · intro hk b s hb hs
    have ha := hG hk a hl
    subst ha
    simpa using h.leave hvx he hz hb hs

/-- Arriving at `v` along a link from elsewhere. -/
lemma ready_of_link {t z : List σ} {q : Nat} {a : List σ}
    (hin : ∀ {b s}, (G.rewrite R.mark v x e).link q b s →
      (G.rewrite R.mark v x e).Walk R p (t ++ z ++ b) s) (hl : G.link q a v) (hq : q ≠ v) :
    Ready R G v x e p (t ++ z ++ a) := by
  constructor
  · intro i m hi
    simpa using hin (Rewired.enter hl hq hi)
  · intro hk b s hb hs
    simpa using hin (Rewired.past hk hl hq hb hs)

/-- **A rewrite loses no walk** if the loops at a node that may be passed by are trivial. -/
theorem walk_rewrite_of_walk (hG : G.Below x) (hv : G.node v = some e) (hvx : v < x)
    (he : e.children ≠ []) (hloops : G.LoopsTrivial v e) (hp : p ≠ v) {t : List σ} {s : Nat}
    (h : G.Walk R p t s) :
    (s ≠ v → (G.rewrite R.mark v x e).Walk R p t s) ∧ (s = v → Ready R G v x e p t) := by
  induction h with
  | @link a s hl =>
      refine ⟨fun hs => Walk.link (Rewired.kept hl hp hs), ?_⟩
      rintro rfl
      exact ready_of_link (t := []) (z := []) (fun h => Walk.link h) hl hp
  | @step t z a q s f _ hq hz hl ih =>
      by_cases hqv : q = v
      · subst hqv
        obtain rfl : e = f := Option.some.inj (hv.symm.trans hq)
        refine ⟨fun hs => (ih.2 rfl).leave hvx he hz hl hs, ?_⟩
        rintro rfl
        exact (ih.2 rfl).loop hvx he hloops hz hl
      · have hqx := hG.source hl
        have hnode : (G.rewrite R.mark v x e).node q = some f := by
          rw [node_rewrite_of_lt hqx hqv, hq]
        refine ⟨fun hs => Walk.step (ih.1 hqv) hnode hz (Rewired.kept hl hqv hs), ?_⟩
        rintro rfl
        exact ready_of_link (fun h => Walk.step (ih.1 hqv) hnode hz h) hl hqv

end

end Net

end TokenPattern
