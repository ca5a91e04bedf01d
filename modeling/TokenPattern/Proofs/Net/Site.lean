import TokenPattern.Proofs.Net.Alone

/-!
# A net inside a net

An operand is taken apart among the nodes around it.  What becomes of it there is what becomes of it
when it stands alone: rewriting looks at nothing but the node that is rewritten and its links.  This
file says so for a node without a loop.

**Sites.**  A `Site` is a net with a gap: the nodes around it, the links into it, out of it and past it,
and the numbers that the nodes inside get.  `Site.Hosts S T H` says that `H` is this net with `T` in the
gap, where a link of `T` from its initial sentinel begins wherever one may enter the gap, and a link to
its terminal sentinel ends wherever one may leave it.

* `Hosts.exists_unfolds` — while `T` is taken apart, so is `H`, and it goes on hosting `T`.
* `Hosts.walk_of_walk` — of a net in a gap, only the words from sentinel to sentinel matter.
* `hosts_ofNode` — every net hosts the pattern at one of its nodes, if the node has no loop.
-/

namespace TokenPattern

universe u v

/-- The net with another pattern at a node. -/
def Net.put {α : Type u} {σ : Type v} (G : Net α σ) (v : Nat) (f : Expr α) : Net α σ where
  node := Function.update G.node v (some f)
  link := G.link

namespace Net

variable {α : Type u} {σ : Type v} {G : Net α σ} {v : Nat} {f : Expr α}

@[simp] lemma node_put_self : (G.put v f).node v = some f := Function.update_self _ _ _

lemma node_put_of_ne {i : Nat} (h : i ≠ v) : (G.put v f).node i = G.node i :=
  Function.update_of_ne h _ _

/-- What stands at a node may be put there. -/
lemma put_eq_self (h : G.node v = some f) : G.put v f = G := by
  refine Net.ext ?_ rfl
  rw [put, ← h, Function.update_eq_self]

end Net

/-- When only leaves are left, nothing is rewritten. -/
lemma Net.Unfolds.eq_of_leaves {α : Type u} {σ : Type v} {mark : Marker → List σ} {G G' : Net α σ}
    {x x' : Nat} (h : G.Unfolds mark x G' x') (hG : G.LeavesFrom 0) : G' = G := by
  induction h with
  | refl => rfl
  | step _ hv ih =>
      subst ih
      exact absurd (hG (Nat.zero_le _) hv.node) hv.children_ne

/-- A net with a gap.  Node `j + 2` of a net in the gap stands at `place j`. -/
structure Site (α : Type u) (σ : Type v) where
  place : Nat → Nat
  node : Nat → Option (Expr α)
  enter : Nat → List σ → Prop
  leave : List σ → Nat → Prop
  past : Nat → List σ → Nat → Prop
  place_strictMono : StrictMono place
  enter_ne : ∀ {p : Nat} {a : List σ}, enter p a → ∀ j, p ≠ place j
  leave_ne : ∀ {b : List σ} {s : Nat}, leave b s → ∀ j, s ≠ place j
  past_ne : ∀ {p s : Nat} {a : List σ}, past p a s → (∀ j, p ≠ place j) ∧ ∀ j, s ≠ place j

namespace Site

variable {α : Type u} {σ : Type v} {S : Site α σ} {T T' T₁ H G' : Net α σ} {mark : Marker → List σ}
  {R : Reading α σ} {x' y y' z : Nat}

/-- Where the links from node `i` of a net in the gap begin, and the words in front of them. -/
def Source (S : Site α σ) : Nat → Nat → List σ → Prop
  | 0, p, a => S.enter p a
  | 1, _, _ => False
  | j + 2, p, a => p = S.place j ∧ a = []

/-- Where the links to node `i` of a net in the gap end, and the words behind them. -/
def Target (S : Site α σ) : Nat → List σ → Nat → Prop
  | 0, _, _ => False
  | 1, b, s => S.leave b s
  | j + 2, b, s => s = S.place j ∧ b = []

/-- A number around the gap. -/
def Around (S : Site α σ) (p : Nat) : Prop := ∀ j, p ≠ S.place j

lemma Source.ne_place {i p k : Nat} {a : List σ} (h : S.Source i p a) (hi : i ≠ k + 2) :
    p ≠ S.place k := by
  match i, h with
  | 0, h => exact S.enter_ne h k
  | j + 2, ⟨hp, _⟩ =>
      rw [hp, S.place_strictMono.injective.ne_iff]
      exact fun hjk => hi (congrArg (· + 2) hjk)

lemma Target.ne_place {j s k : Nat} {b : List σ} (h : S.Target j b s) (hj : j ≠ k + 2) :
    s ≠ S.place k := by
  match j, h with
  | 1, h => exact S.leave_ne h k
  | i + 2, ⟨hs, _⟩ =>
      rw [hs, S.place_strictMono.injective.ne_iff]
      exact fun hik => hj (congrArg (· + 2) hik)

lemma Source.of_place {i k : Nat} {a : List σ} (h : S.Source i (S.place k) a) :
    i = k + 2 ∧ a = [] := by
  obtain rfl : i = k + 2 := by
    by_contra hi
    exact h.ne_place hi rfl
  exact ⟨rfl, h.2⟩

lemma Target.of_place {j k : Nat} {b : List σ} (h : S.Target j b (S.place k)) :
    j = k + 2 ∧ b = [] := by
  obtain rfl : j = k + 2 := by
    by_contra hj
    exact h.ne_place hj rfl
  exact ⟨rfl, h.2⟩

/-- A new operand of a node in the gap stands among the new nodes of the whole net. -/
lemma source_operand (hz : ∀ i, S.place (z + i) = y + i) (i : Nat) :
    S.Source (z + 2 + i) (y + i) [] := by
  rw [Nat.add_right_comm]
  exact ⟨(hz i).symm, rfl⟩

lemma target_operand (hz : ∀ i, S.place (z + i) = y + i) (i : Nat) :
    S.Target (z + 2 + i) [] (y + i) := by
  rw [Nat.add_right_comm]
  exact ⟨(hz i).symm, rfl⟩

lemma Source.of_operand {i p : Nat} {a : List σ} (h : S.Source (z + 2 + i) p a)
    (hz : ∀ i, S.place (z + i) = y + i) : p = y + i ∧ a = [] := by
  rw [Nat.add_right_comm] at h
  exact ⟨h.1.trans (hz i), h.2⟩

lemma Target.of_operand {j s : Nat} {b : List σ} (h : S.Target (z + 2 + j) b s)
    (hz : ∀ i, S.place (z + i) = y + i) : s = y + j ∧ b = [] := by
  rw [Nat.add_right_comm] at h
  exact ⟨h.1.trans (hz j), h.2⟩

/-- Around the gap, links into it can only be entered. -/
lemma Source.enter {i p : Nat} {a : List σ} (h : S.Source i p a) (hp : S.Around p) :
    i = 0 ∧ S.enter p a := by
  match i, h with
  | 0, h => exact ⟨rfl, h⟩
  | j + 2, ⟨h, _⟩ => exact absurd h (hp j)

/-- `H` is the net `T` with the nodes and links around the gap. -/
structure Hosts (S : Site α σ) (T H : Net α σ) : Prop where
  bare : ∀ {i : Nat} {f : Expr α}, T.node i = some f → ∃ j, i = j + 2
  node_place : ∀ j, H.node (S.place j) = T.node (j + 2)
  node_around : ∀ {p : Nat}, S.Around p → H.node p = S.node p
  link : ∀ {p s : Nat} {c : List σ}, H.link p c s ↔ S.past p c s ∨
    ∃ i a m j b, S.Source i p a ∧ T.link i m j ∧ S.Target j b s ∧ c = a ++ m ++ b

/-- The site with another pattern at a node around the gap. -/
def put (S : Site α σ) (p : Nat) (f : Expr α) : Site α σ :=
  { S with node := Function.update S.node p (some f) }

lemma source_put {q i p : Nat} {f : Expr α} {a : List σ} :
    (S.put q f).Source i p a ↔ S.Source i p a := by
  match i with
  | 0 => exact Iff.rfl
  | 1 => exact Iff.rfl
  | j + 2 => exact Iff.rfl

lemma target_put {q j s : Nat} {f : Expr α} {b : List σ} :
    (S.put q f).Target j b s ↔ S.Target j b s := by
  match j with
  | 0 => exact Iff.rfl
  | 1 => exact Iff.rfl
  | i + 2 => exact Iff.rfl

namespace Hosts

/-- The links to a node in the gap. -/
lemma link_to (h : S.Hosts T H) {p k : Nat} {c : List σ} : H.link p c (S.place k) ↔
    ∃ i a m, S.Source i p a ∧ T.link i m (k + 2) ∧ c = a ++ m := by
  rw [h.link]
  constructor
  · rintro (hl | ⟨i, a, m, j, b, hi, hl, hj, rfl⟩)
    · exact absurd rfl ((S.past_ne hl).2 k)
    · obtain ⟨rfl, rfl⟩ := hj.of_place
      exact ⟨i, a, m, hi, hl, List.append_nil _⟩
  · rintro ⟨i, a, m, hi, hl, rfl⟩
    exact Or.inr ⟨i, a, m, k + 2, [], hi, hl, ⟨rfl, rfl⟩, (List.append_nil _).symm⟩

/-- The links from a node in the gap. -/
lemma link_from (h : S.Hosts T H) {k s : Nat} {c : List σ} : H.link (S.place k) c s ↔
    ∃ m j b, T.link (k + 2) m j ∧ S.Target j b s ∧ c = m ++ b := by
  rw [h.link]
  constructor
  · rintro (hl | ⟨i, a, m, j, b, hi, hl, hj, rfl⟩)
    · exact absurd rfl ((S.past_ne hl).1 k)
    · obtain ⟨rfl, rfl⟩ := hi.of_place
      exact ⟨m, j, b, hl, hj, rfl⟩
  · rintro ⟨m, j, b, hl, hj, rfl⟩
    exact Or.inr ⟨k + 2, [], m, j, b, ⟨rfl, rfl⟩, hl, hj, rfl⟩

/-! ## Rewriting in the gap -/

section

variable {k : Nat} {e : Expr α}

/-- Links after a rewrite of the whole net are links of the rewritten net in the gap. -/
lemma of_rewired (h : S.Hosts T H) (hz : ∀ i, S.place (z + i) = y + i) {p s : Nat} {c : List σ}
    (hr : Net.Rewired mark H (S.place k) y e p c s) : S.past p c s ∨
      ∃ i a m j b, S.Source i p a ∧ Net.Rewired mark T (k + 2) (z + 2) e i m j ∧
        S.Target j b s ∧ c = a ++ m ++ b := by
  cases hr with
  | kept hl hp hs =>
      refine (h.link.mp hl).imp_right ?_
      rintro ⟨i, a, m, j, b, hi, hT, hj, rfl⟩
      refine ⟨i, a, m, j, b, hi, .kept hT ?_ ?_, hj, rfl⟩
      · rintro rfl
        exact hp hi.1
      · rintro rfl
        exact hs hj.1
  | enter hl hp hin =>
      obtain ⟨i, a, m, hi, hT, rfl⟩ := h.link_to.mp hl
      refine Or.inr ⟨i, a, _, _, [], hi, .enter hT ?_ hin, target_operand hz _, by simp⟩
      rintro rfl
      exact hp hi.1
  | leave hl hs hout =>
      obtain ⟨m, j, b, hT, hj, rfl⟩ := h.link_from.mp hl
      refine Or.inr ⟨_, [], _, j, b, source_operand hz _, .leave hT ?_ hout, hj, by simp⟩
      rintro rfl
      exact hs hj.1
  | again hl hout hin =>
      obtain ⟨i, a, m, hi, hT, rfl⟩ := h.link_to.mp hl
      obtain ⟨rfl, rfl⟩ := hi.of_place
      exact Or.inr ⟨_, [], _, _, [], source_operand hz _, .again hT hout hin,
        target_operand hz _, by simp⟩
  | inner hij =>
      exact Or.inr ⟨_, [], [], _, [], source_operand hz _, .inner hij, target_operand hz _, rfl⟩
  | past hk hl hp hl' hs =>
      obtain ⟨i, a, m, hi, hT, rfl⟩ := h.link_to.mp hl
      obtain ⟨m', j, b, hT', hj, rfl⟩ := h.link_from.mp hl'
      refine Or.inr ⟨i, a, m ++ m', j, b, hi, .past hk hT ?_ hT' ?_, hj, by simp⟩
      · rintro rfl
        exact hp hi.1
      · rintro rfl
        exact hs hj.1

/-- Links of the rewritten net in the gap are links after a rewrite of the whole net. -/
lemma rewired (h : S.Hosts T H) (hz : ∀ i, S.place (z + i) = y + i) {i j p s : Nat}
    {a m b : List σ} (hi : S.Source i p a) (hr : Net.Rewired mark T (k + 2) (z + 2) e i m j)
    (hj : S.Target j b s) : Net.Rewired mark H (S.place k) y e p (a ++ m ++ b) s := by
  cases hr with
  | kept hl hi' hj' =>
      exact .kept (h.link.mpr (Or.inr ⟨i, a, m, j, b, hi, hl, hj, rfl⟩)) (hi.ne_place hi')
        (hj.ne_place hj')
  | enter hl hi' hin =>
      obtain ⟨rfl, rfl⟩ := hj.of_operand hz
      have hr : Net.Rewired mark H (S.place k) y e p _ _ :=
        .enter (h.link_to.mpr ⟨i, a, _, hi, hl, rfl⟩) (hi.ne_place hi') hin
      simpa using hr
  | leave hl hj' hout =>
      obtain ⟨rfl, rfl⟩ := hi.of_operand hz
      have hr : Net.Rewired mark H (S.place k) y e _ _ s :=
        .leave (h.link_from.mpr ⟨_, j, b, hl, hj, rfl⟩) (hj.ne_place hj') hout
      simpa using hr
  | again hl hout hin =>
      obtain ⟨rfl, rfl⟩ := hi.of_operand hz
      obtain ⟨rfl, rfl⟩ := hj.of_operand hz
      have hr : Net.Rewired mark H (S.place k) y e _ _ _ :=
        .again (h.link_to.mpr ⟨k + 2, [], _, ⟨rfl, rfl⟩, hl, rfl⟩) hout hin
      simpa using hr
  | inner hij =>
      obtain ⟨rfl, rfl⟩ := hi.of_operand hz
      obtain ⟨rfl, rfl⟩ := hj.of_operand hz
      exact .inner hij
  | past hk hl hi' hl' hj' =>
      have hr : Net.Rewired mark H (S.place k) y e p _ s :=
        .past hk (h.link_to.mpr ⟨i, a, _, hi, hl, rfl⟩) (hi.ne_place hi')
          (h.link_from.mpr ⟨_, j, b, hl', hj, rfl⟩) (hj.ne_place hj')
      simpa using hr

/-- The links of a rewritten net in the gap are those of the whole net after a rewrite. -/
lemma rewired_iff (h : S.Hosts T H) (hz : ∀ i, S.place (z + i) = y + i) {p s : Nat} {c : List σ} :
    Net.Rewired mark H (S.place k) y e p c s ↔ S.past p c s ∨
      ∃ i a m j b, S.Source i p a ∧ Net.Rewired mark T (k + 2) (z + 2) e i m j ∧
        S.Target j b s ∧ c = a ++ m ++ b := by
  refine ⟨h.of_rewired hz, ?_⟩
  rintro (hl | ⟨i, a, m, j, b, hi, hr, hj, rfl⟩)
  · exact .kept (h.link.mpr (Or.inl hl)) ((S.past_ne hl).1 k) ((S.past_ne hl).2 k)
  · exact h.rewired hz hi hr hj

/-- **A rewrite in the gap** is a rewrite of the whole net. -/
theorem rewrite (h : S.Hosts T H) (hz : ∀ i, S.place (z + i) = y + i) (hkz : k < z) :
    S.Hosts (T.rewrite mark (k + 2) (z + 2) e) (H.rewrite mark (S.place k) y e) := by
  have hky : S.place k < y := by
    have hlt := S.place_strictMono hkz
    rwa [← Nat.add_zero z, hz 0] at hlt
  refine ⟨?_, ?_, ?_, h.rewired_iff hz⟩
  · intro i f hi
    by_cases hix : i < z + 2
    · have hik : i ≠ k + 2 := fun hik => by simp [Net.rewrite, hik] at hi
      rw [Net.node_rewrite_of_lt hix hik] at hi
      exact h.bare hi
    · exact Nat.exists_eq_add_of_le' (by omega)
  · intro j
    rcases Nat.lt_or_ge j z with hj | hj
    · have hjy : S.place j < y := by
        have hlt := S.place_strictMono hj
        rwa [← Nat.add_zero z, hz 0] at hlt
      by_cases hjk : j = k
      · rw [hjk]
        simp [Net.rewrite]
      · rw [Net.node_rewrite_of_lt hjy (S.place_strictMono.injective.ne hjk),
          Net.node_rewrite_of_lt (by omega) (by omega), h.node_place]
    · obtain ⟨i, rfl⟩ := Nat.exists_eq_add_of_le hj
      rw [hz, Net.node_rewrite_operand hky, Nat.add_right_comm,
        Net.node_rewrite_operand (Nat.add_lt_add_right hkz 2)]
  · intro p hp
    have hpy : p < y := by
      by_contra hle
      obtain ⟨i, rfl⟩ := Nat.exists_eq_add_of_le (Nat.le_of_not_lt hle)
      exact hp (z + i) (hz i).symm
    rw [Net.node_rewrite_of_lt hpy (hp k), h.node_around hp]

end

/-- **While the net in the gap is taken apart**, so is the whole, provided that whatever else is to be
taken apart has a lower number. -/
theorem exists_unfolds (h : S.Hosts T H) (hT : T.Unfolds mark (z + 2) T' x')
    (hbelow : T.Below (z + 2)) (hH : H.Unfolds mark y G' y') (hleaves : G'.LeavesFrom 0)
    (hz : ∀ i, S.place (z + i) = y + i)
    (hlate : ∀ {p f}, S.Around p → S.node p = some f → f.children ≠ [] → p < S.place 0) :
    ∃ H' y₁, S.Hosts T' H' ∧ H.Unfolds mark y H' y₁ ∧ H'.Unfolds mark y₁ G' y' := by
  suffices hall : ∃ H' z₁, x' = z₁ + 2 ∧ S.Hosts T' H' ∧ H.Unfolds mark y H' (S.place z₁) ∧
      H'.Unfolds mark (S.place z₁) G' y' ∧ ∀ i, S.place (z₁ + i) = S.place z₁ + i by
    obtain ⟨H', z₁, _, hH', hto, hfrom, _⟩ := hall
    exact ⟨H', _, hH', hto, hfrom⟩
  have hyz : S.place z = y := hz 0
  induction hT with
  | refl => exact ⟨H, z, rfl, h, hyz ▸ .refl, hyz ▸ hH, hyz ▸ hz⟩
  | @step T₁ x₁ v e hu hv ih =>
      obtain ⟨H₁, z₁, rfl, hH₁, hto, hfrom, hz₁⟩ := ih
      obtain ⟨k, rfl⟩ := hH₁.bare hv.node
      have hkz : k + 2 < z₁ + 2 := (hu.rewrites.keeps_below hbelow).lt hv.node
      have hnext : H₁.Next (S.place k) e := by
        refine ⟨(hH₁.node_place k).trans hv.node, hv.children_ne, fun {p f} hp hf => ?_⟩
        by_cases haround : S.Around p
        · rw [hH₁.node_around haround] at hp
          exact (hlate haround hp hf).le.trans (S.place_strictMono.monotone (Nat.zero_le k))
        · obtain ⟨j, rfl⟩ := not_forall_not.mp haround
          rw [hH₁.node_place] at hp
          have hjk : j + 2 ≤ k + 2 := hv.le hp hf
          exact S.place_strictMono.monotone (by omega)
      refine ⟨_, z₁ + e.children.length, Nat.add_right_comm _ _ _,
        hH₁.rewrite hz₁ (by omega), ?_, ?_, fun i => ?_⟩
      · rw [hz₁]
        exact hto.step hnext
      · rw [hz₁]
        exact hfrom.of_next hnext hleaves
      · rw [Nat.add_assoc, hz₁, hz₁, Nat.add_assoc]

/-- When only leaves are left in the gap and around it, only leaves are left. -/
lemma leavesFrom (h : S.Hosts T H) (hT : T.LeavesFrom 0)
    (haround : ∀ {p f}, S.Around p → S.node p = some f → f.children = []) : H.LeavesFrom 0 := by
  intro p f _ hp
  by_cases hS : S.Around p
  · rw [h.node_around hS] at hp
    exact haround hS hp
  · obtain ⟨j, rfl⟩ := not_forall_not.mp hS
    rw [h.node_place] at hp
    exact hT (Nat.zero_le _) hp

/-! ## Walks through the gap -/

/-- Where one is ready to take any link, one may walk through the gap. -/
lemma walk_through (h : S.Hosts T H) {p q j s : Nat} {t a w b : List σ}
    (hready : ∀ {b s}, H.link q b s → H.Walk R p (t ++ b) s) (henter : S.enter q a)
    (hw : T.Walk R 0 w j) (htarget : S.Target j b s) : H.Walk R p (t ++ (a ++ w ++ b)) s := by
  induction hw generalizing b s with
  | link hl => exact hready (h.link.mpr (Or.inr ⟨0, a, _, _, b, henter, hl, htarget, rfl⟩))
  | step _ hq hz hl ih =>
      obtain ⟨k, rfl⟩ := h.bare hq
      have hto := ih (b := []) (s := S.place k) ⟨rfl, rfl⟩
      have hstep := hto.step ((h.node_place k).trans hq) hz
        (h.link_from.mpr ⟨_, _, b, hl, htarget, rfl⟩)
      simpa using hstep

/-- A walk of a host of `T` that another host `G'` follows: around the gap `G'` has the same walk, and
inside the gap the walk has come from a node on which `G'` is ready, too. -/
structure Followed (S : Site α σ) (T G' : Net α σ) (R : Reading α σ) (p : Nat) (t : List σ)
    (s : Nat) : Prop where
  around : S.Around s → G'.Walk R p t s
  inside : ∀ k, s = S.place k → ∃ q u a w,
    (∀ {b s}, G'.link q b s → G'.Walk R p (u ++ b) s) ∧ S.enter q a ∧ T.Walk R 0 w (k + 2) ∧
      t = u ++ (a ++ w)

/-- A walk that has entered the gap is followed to its next node. -/
lemma followed_of_target (h₁ : S.Hosts T₁ G') (hwords : ∀ t, T.Walk R 0 t 1 → T₁.Walk R 0 t 1)
    {p q j s : Nat} {u a w b : List σ} (hready : ∀ {b s}, G'.link q b s → G'.Walk R p (u ++ b) s)
    (henter : S.enter q a) (hw : T.Walk R 0 w j) (htarget : S.Target j b s) :
    Followed S T G' R p (u ++ (a ++ w ++ b)) s := by
  refine ⟨fun hs => ?_, fun k hk => ?_⟩
  · match j, htarget with
    | 1, htarget => exact h₁.walk_through hready henter (hwords w hw) htarget
    | j + 2, ⟨h, _⟩ => exact absurd h (hs j)
  · subst hk
    obtain ⟨rfl, rfl⟩ := htarget.of_place
    exact ⟨q, u, a, w, hready, henter, hw, by simp⟩

/-- **Only the words from sentinel to sentinel matter.**  If one net in the gap has all such words of
another, then it makes all walks around the gap possible that the other does. -/
theorem walk_of_walk (h : S.Hosts T H) (h₁ : S.Hosts T₁ G')
    (hwords : ∀ t, T.Walk R 0 t 1 → T₁.Walk R 0 t 1) {p s : Nat} {t : List σ} (hp : S.Around p)
    (hs : S.Around s) (hw : H.Walk R p t s) : G'.Walk R p t s := by
  suffices hall : Followed S T G' R p t s from hall.around hs
  clear hs
  induction hw with
  | link hl =>
      rcases h.link.mp hl with hpast | ⟨i, a, m, j, b, hi, hl, hj, rfl⟩
      · exact ⟨fun _ => .link (h₁.link.mpr (Or.inl hpast)), fun k hk =>
          absurd hk ((S.past_ne hpast).2 k)⟩
      · obtain ⟨rfl, henter⟩ := hi.enter hp
        exact followed_of_target h₁ hwords (u := []) (fun hl => .link hl) henter (.link hl) hj
  | @step t z c q s f _ hq hz hl ih =>
      have hready : S.Around q → ∀ {b s}, G'.link q b s → G'.Walk R p (t ++ z ++ b) s := by
        intro haround b s hl
        refine (ih.around haround).step ?_ hz hl
        rw [h₁.node_around haround, ← h.node_around haround, hq]
      rcases h.link.mp hl with hpast | ⟨i, a, m, j, b, hi, hlT, hj, rfl⟩
      · exact ⟨fun _ => hready (S.past_ne hpast).1 (h₁.link.mpr (Or.inl hpast)), fun k hk =>
          absurd hk ((S.past_ne hpast).2 k)⟩
      · by_cases haround : S.Around q
        · obtain ⟨rfl, henter⟩ := hi.enter haround
          exact followed_of_target h₁ hwords (hready haround) henter (.link hlT) hj
        · obtain ⟨k, rfl⟩ := not_forall_not.mp haround
          obtain ⟨rfl, rfl⟩ := hi.of_place
          obtain ⟨q, u, a, w, hready', henter, hw, rfl⟩ := ih.inside k rfl
          rw [h.node_place] at hq
          have hgo := followed_of_target h₁ hwords hready' henter (hw.step hq hz hlT) hj
          simpa using hgo

/-- So the walks around the gap are the same for nets with the same words. -/
theorem walk_iff (h : S.Hosts T H) (h₁ : S.Hosts T₁ G')
    (hwords : ∀ t, T.Walk R 0 t 1 ↔ T₁.Walk R 0 t 1) {p s : Nat} {t : List σ} (hp : S.Around p)
    (hs : S.Around s) : H.Walk R p t s ↔ G'.Walk R p t s :=
  ⟨h.walk_of_walk h₁ (fun t => (hwords t).mp) hp hs,
    h₁.walk_of_walk h (fun t => (hwords t).mpr) hp hs⟩

/-- A node around the gap may be given another pattern. -/
lemma put (h : S.Hosts T H) {p : Nat} (hp : S.Around p) (f : Expr α) :
    (S.put p f).Hosts T (H.put p f) where
  bare := h.bare
  node_place j := (Net.node_put_of_ne (hp j).symm).trans (h.node_place j)
  node_around {q} hq := by
    show Function.update H.node p (some f) q = Function.update S.node p (some f) q
    by_cases hqp : q = p
    · rw [hqp, Function.update_self, Function.update_self]
    · rw [Function.update_of_ne hqp, Function.update_of_ne hqp, h.node_around hq]
  link := h.link.trans (by simp only [source_put, target_put]; exact Iff.rfl)

end Hosts

/-! ## The site of a node -/

section

variable {G : Net α σ} {v : Nat}

/-- The site of a node without a loop; the operands found there get the numbers from `y` on. -/
def ofNode (G : Net α σ) (v y : Nat) (hG : G.Below y) (hv : v < y) (hloop : ∀ a, ¬ G.link v a v) :
    Site α σ where
  place j := if j = 0 then v else y + (j - 1)
  node := G.node
  enter p a := G.link p a v
  leave b s := G.link v b s
  past p c s := G.link p c s ∧ p ≠ v ∧ s ≠ v
  place_strictMono i j hij := by
    have hj : j ≠ 0 := Nat.ne_of_gt (Nat.zero_lt_of_lt hij)
    simp only [hj, if_false]
    split_ifs with hi <;> omega
  enter_ne {p a} hl j := by
    have hp := hG.source hl
    split_ifs with hj
    · rintro rfl
      exact hloop a hl
    · omega
  leave_ne {b s} hl j := by
    have hs := hG.target hl
    split_ifs with hj
    · rintro rfl
      exact hloop b hl
    · omega
  past_ne {p s a} hl := by
    have hp := hG.source hl.1
    have hs := hG.target hl.1
    refine ⟨fun j => ?_, fun j => ?_⟩
    · split_ifs with hj
      · exact hl.2.1
      · omega
    · split_ifs with hj
      · exact hl.2.2
      · omega

variable {hG : G.Below y} {hv : v < y} {hloop : ∀ a, ¬ G.link v a v}

lemma place_ofNode_succ (j : Nat) : (ofNode G v y hG hv hloop).place (1 + j) = y + j := by
  show (if 1 + j = 0 then v else y + (1 + j - 1)) = y + j
  rw [if_neg (by omega), Nat.add_sub_cancel_left]

lemma around_ofNode_iff {p : Nat} : (ofNode G v y hG hv hloop).Around p ↔ p ≠ v ∧ p < y := by
  constructor
  · intro h
    refine ⟨h 0, ?_⟩
    by_contra hp
    obtain ⟨j, rfl⟩ := Nat.exists_eq_add_of_le (Nat.le_of_not_lt hp)
    exact h (1 + j) (place_ofNode_succ j).symm
  · rintro ⟨hpv, hpy⟩ j
    show p ≠ if j = 0 then v else y + (j - 1)
    split_ifs with hj
    · exact hpv
    · omega

/-- **A net hosts the pattern at one of its nodes.** -/
theorem hosts_ofNode (f : Expr α) :
    (ofNode G v y hG hv hloop).Hosts (Net.alone 2 f 1 1 0 0) (G.put v f) where
  bare hi := ⟨0, (Net.node_alone_eq_some hi).1⟩
  node_place j := by
    cases j with
    | zero => exact Net.node_put_self.trans Net.node_alone_self.symm
    | succ j =>
        rw [Nat.add_comm j 1, place_ofNode_succ]
        refine (Net.node_put_of_ne (by omega)).trans ((hG.node (Nat.le_add_right y j)).trans ?_)
        exact (if_neg (by omega)).symm
  node_around hp := Net.node_put_of_ne (around_ofNode_iff.mp hp).1
  link {p s c} := by
    constructor
    · intro hl
      by_cases hp : p = v
      · subst hp
        refine Or.inr ⟨2, [], [], 1, c, ⟨rfl, rfl⟩, Or.inr (Or.inl ⟨rfl, rfl, rfl⟩), hl, rfl⟩
      · by_cases hs : s = v
        · subst hs
          exact Or.inr ⟨0, c, [], 2, [], hl, Or.inl ⟨rfl, rfl, rfl⟩, ⟨rfl, rfl⟩, by simp⟩
        · exact Or.inl ⟨hl, hp, hs⟩
    · rintro (hl | ⟨i, a, m, j, b, hi, hl, hj, rfl⟩)
      · exact hl.1
      · rcases hl with ⟨rfl, rfl, rfl⟩ | ⟨rfl, rfl, rfl⟩ | ⟨_, _, hm⟩ | ⟨_, _, hm⟩
        · obtain ⟨hs, rfl⟩ := hj
          have hl : (G.put v f).link p a s := hs ▸ hi
          simpa using hl
        · obtain ⟨rfl, rfl⟩ := hi
          exact hj
        · exact absurd hm (Language.notMem_zero m)
        · exact absurd hm (Language.notMem_zero m)

end

/-! ## Other numbers -/

/-- The site whose gap is all there is between the sentinels, with numbers one higher. -/
def shift : Site α σ where
  place j := j + 3
  node _ := none
  enter p a := p = 0 ∧ a = []
  leave b s := s = 1 ∧ b = []
  past _ _ _ := False
  place_strictMono _ _ h := Nat.add_lt_add_right h 3
  enter_ne h j := by omega
  leave_ne h j := by omega
  past_ne := False.elim

lemma hosts_shift (k : Nat) (e : Expr α) (I O A P : Language σ) :
    shift.Hosts (Net.alone (k + 2) e I O A P) (Net.alone (k + 3) e I O A P) where
  bare hi := ⟨k, (Net.node_alone_eq_some hi).1⟩
  node_place j := by
    show (if j + 3 = k + 3 then some e else none) = if j + 2 = k + 2 then some e else none
    simp only [Nat.add_right_cancel_iff]
  node_around {p} hp := if_neg (hp k)
  link {p s c} := by
    constructor
    · rintro (⟨rfl, rfl, hc⟩ | ⟨rfl, rfl, hc⟩ | ⟨rfl, rfl, hc⟩ | ⟨rfl, rfl, hc⟩)
      · exact Or.inr ⟨0, [], c, k + 2, [], ⟨rfl, rfl⟩, Or.inl ⟨rfl, rfl, hc⟩, ⟨rfl, rfl⟩, by simp⟩
      · exact Or.inr ⟨k + 2, [], c, 1, [], ⟨rfl, rfl⟩, Or.inr (Or.inl ⟨rfl, rfl, hc⟩), ⟨rfl, rfl⟩,
          by simp⟩
      · exact Or.inr ⟨k + 2, [], c, k + 2, [], ⟨rfl, rfl⟩, Or.inr (Or.inr (Or.inl ⟨rfl, rfl, hc⟩)),
          ⟨rfl, rfl⟩, by simp⟩
      · exact Or.inr ⟨0, [], c, 1, [], ⟨rfl, rfl⟩, Or.inr (Or.inr (Or.inr ⟨rfl, rfl, hc⟩)),
          ⟨rfl, rfl⟩, by simp⟩
    · rintro (h | ⟨i, a, m, j, b, hi, hl, hj, rfl⟩)
      · exact h.elim
      · rcases hl with ⟨rfl, rfl, hm⟩ | ⟨rfl, rfl, hm⟩ | ⟨rfl, rfl, hm⟩ | ⟨rfl, rfl, hm⟩ <;>
          obtain ⟨rfl, rfl⟩ := hi <;> obtain ⟨rfl, rfl⟩ := hj <;>
          simp only [List.nil_append, List.append_nil]
        · exact Or.inl ⟨rfl, rfl, hm⟩
        · exact Or.inr (Or.inl ⟨rfl, rfl, hm⟩)
        · exact Or.inr (Or.inr (Or.inl ⟨rfl, rfl, hm⟩))
        · exact Or.inr (Or.inr (Or.inr ⟨rfl, rfl, hm⟩))

end Site

end TokenPattern
