import TokenPattern.Proofs.Graph.Words
import TokenPattern.Proofs.Net.Site

/-!
# The words of a compiled pattern, operator by operator

The words of the graph of a pattern are not in general its derivations: with a nullable body, a
repetition has derivations that no graph can have.  But the graph of a concatenation, of an
alternative, of an option and of a capture has exactly the words that these operators make of the
words of the graphs of their operands, whatever the operands are (`markedWords_concat` and those
after it).

**Operands as boxes.**  The operands of these operators have no loop.  So what an operand becomes among
the others is what it becomes alone (`Hosts.exists_unfolds`), and instead of taking it apart one may put
a leaf in its place whose language is the words of its graph (`exists_box`).  For this, leaves are
languages here (`Reading.own`).

**Stacked operators.**  A repetition of a repetition or of an option comes, after two rewrites, to the
net to which the repetition comes after one, but for the numbers of nodes.
-/

namespace TokenPattern

open scoped Computability

universe u v

variable {α : Type u} {σ : Type v}

/-! ## Leaves that are languages -/

/-- The reading of patterns whose leaves are languages. -/
def Reading.own (mark : Marker → List σ) : Reading (Language σ) σ := ⟨id, mark⟩

/-- The words of the graph of a pattern whose leaves are languages. -/
def Expr.compiled (mark : Marker → List σ) (e : Expr (Language σ)) : Language σ :=
  {t | ((Graph.ofExpr e).net.map mark).Walk (Reading.own mark) NodeId.initial t NodeId.terminal}

namespace Net

variable {mark : Marker → List σ} {G G' T : Net (Language σ) σ} {v y y' x' : Nat}
  {e l r x : Expr (Language σ)} {I O A P : Language σ}

/-- A pattern that stands alone is taken apart into a net with the words of its graph. -/
lemma exists_unfolds_alone (mark : Marker → List σ) (e : Expr (Language σ)) : ∃ T x',
    (alone 2 e 1 1 0 0).Unfolds mark 3 T x' ∧ T.LeavesFrom 0 ∧
      ∀ t, T.Walk (Reading.own mark) 0 t 1 ↔ t ∈ e.compiled mark := by
  obtain ⟨T, x', hu, hleaves, hwords⟩ := Graph.exists_unfolds_ofExpr e (Reading.own mark)
  rw [Draft.map_net_start] at hu
  exact ⟨T, x', hu, hleaves, fun t => (hwords t).symm⟩

lemma walk_alone_leaf_iff (hv : 2 ≤ v) (K : Language σ) {t : List σ} :
    (alone v (.leaf K) I O 0 P).Walk (Reading.own mark) 0 t 1 ↔ t ∈ P + I * K * O := by
  have hwords : P + I * (K * 0)∗ * K * O = P + I * K * O := by
    rw [mul_zero, kstar_zero, mul_one]
  rw [← hwords]
  exact walk_alone_iff hv

/-- **An operand as a box.**  If a node without a loop is next to be taken apart, then it becomes a net
in the gap that it leaves; and of this net nothing matters around the gap but that it has the words of
the graph of the pattern. -/
lemma exists_box (hG : G.Below y) (hv : v < y) (hloop : ∀ a, ¬ G.link v a v)
    (hnode : G.node v = some e)
    (hlate : ∀ {p f}, p ≠ v → G.node p = some f → f.children ≠ [] → p < v)
    (hu : G.Unfolds mark y G' y') (hleaves : G'.LeavesFrom 0) :
    ∃ T H y₁, T.LeavesFrom 0 ∧ (Site.ofNode G v y hG hv hloop).Hosts T H ∧
      G.Unfolds mark y H y₁ ∧ H.Unfolds mark y₁ G' y' ∧
      ∀ t, T.Walk (Reading.own mark) 0 t 1 ↔
        (alone 2 (.leaf (e.compiled mark)) 1 1 0 0).Walk (Reading.own mark) 0 t 1 := by
  obtain ⟨T, x', hT, hleavesT, hwords⟩ := exists_unfolds_alone mark e
  have hhosts : (Site.ofNode G v y hG hv hloop).Hosts (alone 2 e 1 1 0 0) G := by
    have h : (Site.ofNode G v y hG hv hloop).Hosts (alone 2 e 1 1 0 0) (G.put v e) :=
      Site.hosts_ofNode e
    rwa [put_eq_self hnode] at h
  obtain ⟨H, y₁, hH, hto, hfrom⟩ := hhosts.exists_unfolds (z := 1) hT (below_alone le_rfl) hu hleaves
    Site.place_ofNode_succ fun hp => hlate (Site.around_ofNode_iff.mp hp).1
  refine ⟨T, H, y₁, hleavesT, hH, hto, hfrom, fun t => ?_⟩
  rw [hwords, walk_alone_leaf_iff le_rfl, zero_add, one_mul, mul_one]

/-! ## One operand -/

lemma put_alone (f : Expr (Language σ)) : (alone v e I O A P).put v f = alone v f I O A P := by
  refine Net.ext (funext fun i => ?_) rfl
  by_cases hi : i = v
  · rw [hi, node_put_self, node_alone_self]
  · exact (node_put_of_ne hi).trans ((if_neg hi).trans (if_neg hi).symm)

/-- The words of a net with one pattern that has no loop. -/
lemma walk_unfolds_alone_iff (hu : (alone 3 x I O 0 P).Unfolds mark 4 G' y')
    (hleaves : G'.LeavesFrom 0) (t : List σ) :
    G'.Walk (Reading.own mark) 0 t 1 ↔ t ∈ P + I * x.compiled mark * O := by
  have hloop : ∀ a, ¬ (alone 3 x I O 0 P).link 3 a 3 := fun a hl =>
    Language.notMem_zero a ((link_alone_again (by decide)).mp hl)
  have hbelow : (alone 3 x I O 0 P).Below 4 := below_alone (by decide)
  have honly : ∀ {p f}, p ≠ 3 → (alone 3 x I O 0 P).node p ≠ some f :=
    fun hp hf => hp (node_alone_eq_some hf).1
  obtain ⟨T, H, y₁, hT, hH, _, hfrom, hwords⟩ := exists_box hbelow (by decide) hloop node_alone_self
    (fun hp hf => absurd hf (honly hp)) hu hleaves
  have hleavesH : H.LeavesFrom 0 := hH.leavesFrom hT fun hp hf =>
    absurd hf (honly (Site.around_ofNode_iff.mp hp).1)
  have hbox := hH.walk_iff (Site.hosts_ofNode (.leaf (x.compiled mark))) hwords
    (Site.around_ofNode_iff.mpr ⟨by decide, by decide⟩)
    (Site.around_ofNode_iff.mpr ⟨by decide, by decide⟩) (p := 0) (s := 1) (t := t)
  rw [hfrom.eq_of_leaves hleavesH, hbox, put_alone, walk_alone_leaf_iff (by decide)]

/-! ## Two operands -/

/-- The nodes after an operator with two operands has been taken apart. -/
lemma node_operands (hc : e.children = [l, r]) (i : Nat) :
    ((alone 2 e I O A P).rewrite mark 2 3 e).node i =
      if i = 3 then some l else if i = 4 then some r else none := by
  rcases Nat.lt_or_ge i 3 with hi | hi
  · rw [if_neg (by omega), if_neg (by omega)]
    by_cases hi2 : i = 2
    · exact if_pos hi2
    · rw [node_rewrite_of_lt hi hi2]
      exact if_neg hi2
  · obtain ⟨j, rfl⟩ := Nat.exists_eq_add_of_le hi
    rw [node_rewrite_operand (by decide), hc]
    match j with
    | 0 => rfl
    | 1 => rfl
    | j + 2 =>
        rw [if_neg (by omega), if_neg (by omega)]
        rfl

/-- Between its operands there are only the steps of the operator. -/
lemma mem_inner_of_link {i j : Nat} {a : List σ}
    (hl : ((alone 2 e 1 1 0 0).rewrite mark 2 3 e).link (3 + i) a (3 + j)) : (i, j) ∈ e.inner := by
  generalize hp : 3 + i = p at hl
  generalize hs : 3 + j = s at hl
  cases hl with
  | kept hl hp2 hs2 =>
      have h := (link_alone_past hp2 hs2).mp hl
      omega
  | enter hl hp2 _ =>
      have h := (link_alone_enter le_rfl hp2).mp hl
      omega
  | leave hl hs2 _ =>
      have h := (link_alone_leave le_rfl hs2).mp hl
      omega
  | again hl _ _ => exact absurd ((link_alone_again le_rfl).mp hl) (Language.notMem_zero _)
  | inner hij =>
      obtain rfl := Nat.add_left_cancel hp
      obtain rfl := Nat.add_left_cancel hs
      exact hij
  | past _ hl hp2 _ _ =>
      have h := (link_alone_enter le_rfl hp2).mp hl
      omega

/-- Two patterns between the sentinels, with no way from the second one to the first. -/
structure Pair (G : Net α σ) (l r : Expr α) : Prop where
  below : G.Below 5
  node : ∀ i, G.node i = if i = 3 then some l else if i = 4 then some r else none
  forward : ∀ {i j : Nat} {a : List σ}, G.link (3 + i) a (3 + j) → i < j

lemma pair_rewrite (hc : e.children = [l, r]) (hforward : ∀ {i j}, (i, j) ∈ e.inner → i < j) :
    ((alone 2 e 1 1 0 0).rewrite mark 2 3 e).Pair l r where
  below := by
    have h : ((alone 2 e 1 1 0 0).rewrite mark 2 3 e).Below (3 + e.children.length) :=
      (below_alone le_rfl).rewrite node_alone_self
    rwa [hc] at h
  node := node_operands hc
  forward hl := hforward (mem_inner_of_link hl)

namespace Pair

variable (h : G.Pair l r)
include h

lemma node_eq_some {p : Nat} {f : Expr (Language σ)} (hp : G.node p = some f) :
    (p = 3 ∧ f = l) ∨ (p = 4 ∧ f = r) := by
  rw [h.node] at hp
  split_ifs at hp with h3 h4
  · exact Or.inl ⟨h3, (Option.some.inj hp).symm⟩
  · exact Or.inr ⟨h4, (Option.some.inj hp).symm⟩

/-- The site of the second pattern. -/
def second : Site (Language σ) σ :=
  Site.ofNode G 4 5 h.below (by decide) fun _ hl => Nat.lt_irrefl 1 (h.forward hl)

lemma around_second {p : Nat} (hp : p < 4) : h.second.Around p :=
  Site.around_ofNode_iff.mpr ⟨Nat.ne_of_lt hp, Nat.lt_succ_of_lt hp⟩

/-- When the second pattern has been taken apart, the first one is the only one left. -/
lemma children_eq_nil_of_hosts (hH : h.second.Hosts T G') (hT : T.LeavesFrom 0) {p : Nat}
    {f : Expr (Language σ)} (hp : p ≠ 3) (hf : G'.node p = some f) : f.children = [] := by
  by_cases hS : h.second.Around p
  · rcases h.node_eq_some ((hH.node_around hS).symm.trans hf) with h3 | h4
    · exact absurd h3.1 hp
    · exact absurd h4.1 (hS 0)
  · obtain ⟨j, rfl⟩ := not_forall_not.mp hS
    exact hT (Nat.zero_le _) ((hH.node_place j).symm.trans hf)

/-- Nothing leads from what the second pattern has become to the first one. -/
lemma not_link_first (hH : h.second.Hosts T G') (a : List σ) : ¬ G'.link 3 a 3 := by
  intro hl
  rcases hH.link.mp hl with hpast | ⟨i, _, m, j, b, _, _, hj, _⟩
  · exact Nat.lt_irrefl 0 (h.forward (i := 0) (j := 0) hpast.1)
  · match j, hj with
    | 1, hj => exact Nat.not_lt_zero 1 (h.forward (i := 1) (j := 0) hj)
    | j + 2, ⟨hj, _⟩ => exact h.around_second (by decide) j hj

/-- **The words of two patterns** are those of two boxes.  The second pattern becomes a box after the
first one, since it is taken apart before it. -/
theorem walk_unfolds_iff (hu : G.Unfolds mark 5 G' y') (hleaves : G'.LeavesFrom 0) (t : List σ) :
    G'.Walk (Reading.own mark) 0 t 1 ↔
      ((G.put 4 (.leaf (r.compiled mark))).put 3 (.leaf (l.compiled mark))).Walk
        (Reading.own mark) 0 t 1 := by
  obtain ⟨T₂, H₂, y₂, hT₂, hH₂, hto, hfrom, hwords₂⟩ := exists_box h.below (by decide)
    (fun _ hl => Nat.lt_irrefl 1 (h.forward hl)) (h.node 4) (fun hp hf _ => by
      rcases h.node_eq_some hf with hf | hf <;> omega) hu hleaves
  have hthree := h.around_second (p := 3) (by decide)
  have hy₂ : 5 ≤ y₂ := hto.rewrites.le
  obtain ⟨T₁, H₁, y₁, hT₁, hH₁, _, hfrom', hwords₁⟩ := exists_box (hto.rewrites.keeps_below h.below)
    (show 3 < y₂ by omega) (h.not_link_first hH₂) ((hH₂.node_around hthree).trans (h.node 3))
    (fun hp hf hne => absurd (h.children_eq_nil_of_hosts hH₂ hT₂ hp hf) hne) hfrom hleaves
  have hleaves₁ : H₁.LeavesFrom 0 := hH₁.leavesFrom hT₁ fun hp hf =>
    h.children_eq_nil_of_hosts hH₂ hT₂ (Site.around_ofNode_iff.mp hp).1 hf
  have hfirst := hH₁.walk_iff (Site.hosts_ofNode (.leaf (l.compiled mark))) hwords₁
    (Site.around_ofNode_iff.mpr ⟨by decide, by omega⟩)
    (Site.around_ofNode_iff.mpr ⟨by decide, by omega⟩) (p := 0) (s := 1) (t := t)
  have hsecond := (hH₂.put hthree (.leaf (l.compiled mark))).walk_iff
    ((Site.hosts_ofNode (.leaf (r.compiled mark))).put hthree (.leaf (l.compiled mark))) hwords₂
    (h.around_second (p := 0) (by decide)) (h.around_second (p := 1) (by decide)) (t := t)
  rw [hfrom'.eq_of_leaves hleaves₁, hfirst, hsecond]

end Pair

/-- Operators that do the same to the links around them. -/
structure SameWiring (e f : Expr α) : Prop where
  entries : e.entries = f.entries
  exits : e.exits = f.exits
  inner : e.inner = f.inner
  skips : e.skips = f.skips

lemma SameWiring.symm {e f : Expr α} (h : SameWiring e f) : SameWiring f e :=
  ⟨h.entries.symm, h.exits.symm, h.inner.symm, h.skips.symm⟩

/-- Rewriting looks at nothing of an operator but its wiring. -/
lemma SameWiring.rewired {e f : Expr α} (h : SameWiring e f) {G H : Net α σ}
    (hlink : G.link = H.link) {p s : Nat} {a : List σ} (hr : Rewired mark G v y e p a s) :
    Rewired mark H v y f p a s := by
  cases hr with
  | kept hl hp hs => exact .kept (hlink ▸ hl) hp hs
  | enter hl hp hi => exact .enter (hlink ▸ hl) hp (h.entries ▸ hi)
  | leave hl hs hi => exact .leave (hlink ▸ hl) hs (h.exits ▸ hi)
  | again hl hi hj => exact .again (hlink ▸ hl) (h.exits ▸ hi) (h.entries ▸ hj)
  | inner hij => exact .inner (h.inner ▸ hij)
  | past hk hl hp hl' hs => exact .past (h.skips ▸ hk) (hlink ▸ hl) hp (hlink ▸ hl') hs

lemma SameWiring.link_rewrite {e f : Expr α} (h : SameWiring e f) {G H : Net α σ}
    (hlink : G.link = H.link) : (G.rewrite mark v y e).link = (H.rewrite mark v y f).link := by
  funext p a s
  exact propext ⟨h.rewired hlink, h.symm.rewired hlink.symm⟩

/-- Putting other operands in the place of the operands is taking the other operator apart. -/
lemma put_operands {f l' r' : Expr (Language σ)} (h : SameWiring e f) (he : e.children = [l, r])
    (hf : f.children = [l', r']) :
    (((alone 2 e 1 1 0 0).rewrite mark 2 3 e).put 4 r').put 3 l' =
      (alone 2 f 1 1 0 0).rewrite mark 2 3 f := by
  refine Net.ext (funext fun i => ?_) ?_
  · rw [node_operands hf]
    by_cases h3 : i = 3
    · rw [h3, node_put_self, if_pos rfl]
    · rw [node_put_of_ne h3, if_neg h3]
      by_cases h4 : i = 4
      · rw [h4, node_put_self, if_pos rfl]
      · rw [node_put_of_ne h4, if_neg h4, node_operands he, if_neg h3, if_neg h4]
  · exact h.link_rewrite rfl

/-- Taking an operator apart that stands alone changes no words. -/
lemma walk_rewrite_alone_iff (he : e.children ≠ []) (t : List σ) :
    ((alone 2 e 1 1 0 0).rewrite mark 2 3 e).Walk (Reading.own mark) 0 t 1 ↔
      t ∈ e.denote (Reading.own mark) := by
  have hbelow : (alone 2 e (1 : Language σ) 1 0 0).Below 3 := below_alone le_rfl
  have hloops : (alone 2 e (1 : Language σ) 1 0 0).LoopsTrivial 2 e := fun _ a hl =>
    absurd ((link_alone_again le_rfl).mp hl) (Language.notMem_zero a)
  have hwords : (0 : Language σ) + 1 * (e.denote (Reading.own mark) * 0)∗ *
      e.denote (Reading.own mark) * 1 = e.denote (Reading.own mark) := by
    rw [mul_zero, kstar_zero, zero_add, one_mul, one_mul, mul_one]
  rw [← hwords, ← walk_alone_iff le_rfl]
  constructor
  · exact walk_of_walk_rewrite hbelow node_alone_self (by decide) (by decide) (by decide)
  · intro hw
    exact (walk_rewrite_of_walk hbelow node_alone_self (by decide) he hloops (by decide) hw).1
      (by decide)

/-- **An operator with two operands**, neither of which it repeats, has the words that it makes of
theirs. -/
theorem compiled_eq_denote {f : Expr (Language σ)} (h : SameWiring e f) (he : e.children = [l, r])
    (hf : f.children = [.leaf (l.compiled mark), .leaf (r.compiled mark)])
    (hforward : ∀ {i j}, (i, j) ∈ e.inner → i < j) :
    e.compiled mark = f.denote (Reading.own mark) := by
  obtain ⟨T, x', hu, hleaves, hwords⟩ := exists_unfolds_alone mark e
  have hne : e.children ≠ [] := he ▸ List.cons_ne_nil _ _
  have hu' := hu.of_next (next_alone hne) hleaves
  rw [he] at hu'
  refine Set.ext fun t => (hwords t).symm.trans ?_
  rw [(pair_rewrite he hforward).walk_unfolds_iff hu' hleaves, put_operands h he hf]
  exact walk_rewrite_alone_iff (hf ▸ List.cons_ne_nil _ _) t

/-! ## Stacked operators -/

/-- A link between bare nodes stays. -/
lemma Unfolds.link {α : Type u} {mark : Marker → List σ} {G G' : Net α σ} {y y' p q : Nat}
    {a : List σ} (h : G.Unfolds mark y G' y') (hl : G.link p a q) (hG : G.Below y)
    (hp : G.node p = none) (hq : G.node q = none) : G'.link p a q := by
  induction h with
  | refl => exact hl
  | @step _ _ v e hu hv ih =>
      have hne : ∀ {i}, i < y → G.node i = none → i ≠ v := by
        rintro i hi hbare rfl
        exact absurd ((hu.rewrites.node_eq_none hi hbare).symm.trans hv.node) (by simp)
      exact .kept ih (hne (hG.source hl) hp) (hne (hG.target hl) hq)

/-- The words from sentinel to sentinel. -/
def passages {α : Type u} (R : Reading α σ) (G : Net α σ) : Language σ := {t | G.Walk R 0 t 1}

/-- The number of the node does not matter for the words. -/
lemma walk_shift_iff {T' : Net (Language σ) σ} (hT : (alone 3 x I O A P).Unfolds mark 4 T x')
    (hleavesT : T.LeavesFrom 0) (hu : (alone 4 x I O A P).Unfolds mark 5 T' y')
    (hleaves : T'.LeavesFrom 0) (t : List σ) :
    T'.Walk (Reading.own mark) 0 t 1 ↔ T.Walk (Reading.own mark) 0 t 1 := by
  obtain ⟨H, y₁, hH, _, hfrom⟩ := (Site.hosts_shift 1 x I O A P).exists_unfolds (z := 2) hT
    (below_alone (by decide)) hu hleaves (fun i => Nat.add_right_comm 2 i 3)
    fun _ hp _ => absurd hp (by simp [Site.shift])
  have hleavesH : H.LeavesFrom 0 := hH.leavesFrom hleavesT fun _ hp =>
    absurd hp (by simp [Site.shift])
  have hwords : ∀ {v : Nat}, 2 ≤ v → ∀ t,
      (alone v (.leaf (T.passages (Reading.own mark))) 1 1 0 0).Walk (Reading.own mark) 0 t 1 ↔
        T.Walk (Reading.own mark) 0 t 1 := by
    intro v hv t
    rw [walk_alone_leaf_iff hv, zero_add, one_mul, mul_one]
    exact Iff.rfl
  have haround : ∀ {p : Nat}, p < 3 → Site.Around (Site.shift : Site (Language σ) σ) p := by
    intro p hp j hj
    have hj' : p = j + 3 := hj
    omega
  rw [hfrom.eq_of_leaves hleavesH, ← hwords (v := 3) (by decide)]
  exact hH.walk_iff (Site.hosts_shift 0 _ 1 1 0 0) (fun t => (hwords le_rfl t).symm)
    (haround (by decide)) (haround (by decide))

end Net

namespace Expr

variable {mark : Marker → List σ} (l r x : Expr (Language σ))

lemma compiled_concat : (concat l r).compiled mark = l.compiled mark * r.compiled mark :=
  Net.compiled_eq_denote (f := concat (leaf (l.compiled mark)) (leaf (r.compiled mark)))
    ⟨rfl, rfl, rfl, rfl⟩ rfl rfl (by simp [inner])

lemma compiled_alt : (alt l r).compiled mark = l.compiled mark + r.compiled mark :=
  Net.compiled_eq_denote (f := alt (leaf (l.compiled mark)) (leaf (r.compiled mark)))
    ⟨rfl, rfl, rfl, rfl⟩ rfl rfl (by simp [inner])

lemma compiled_maybe : (maybe x).compiled mark = 1 + x.compiled mark := by
  obtain ⟨T, _, hu, hleaves, hwords⟩ := Net.exists_unfolds_alone mark (maybe x)
  have hx := hu.of_alone_maybe le_rfl (by decide) hleaves
  refine Set.ext fun t => (hwords t).symm.trans ?_
  rw [Net.walk_unfolds_alone_iff hx hleaves, zero_add, one_mul, one_mul, mul_one]
  exact Iff.rfl

lemma compiled_capture (n : String) : (capture n x).compiled mark =
    {mark (.start n)} * x.compiled mark * {mark (.stop n)} := by
  obtain ⟨T, _, hu, hleaves, hwords⟩ := Net.exists_unfolds_alone mark (capture n x)
  have hx := hu.of_alone_capture le_rfl (by decide) hleaves
  rw [mul_zero, zero_mul] at hx
  refine Set.ext fun t => (hwords t).symm.trans ?_
  rw [Net.walk_unfolds_alone_iff hx hleaves, zero_add, one_mul, mul_one]
  exact Iff.rfl

/-- A repetition comes to a net with one link back to its body, and one past it. -/
lemma unfolds_star {T : Net (Language σ) σ} {x' : Nat}
    (hu : (Net.alone 2 (star x) 1 1 0 0).Unfolds mark 3 T x') (hleaves : T.LeavesFrom 0) :
    (Net.alone 3 x 1 1 1 1).Unfolds mark 4 T x' := by
  have hx := hu.of_alone_star le_rfl (by decide) hleaves
  rwa [zero_add, zero_add, one_mul] at hx

lemma compiled_star_star : (star (star x)).compiled mark = (star x).compiled mark := by
  obtain ⟨T, _, hu, hleaves, hwords⟩ := Net.exists_unfolds_alone mark (star x)
  obtain ⟨T', _, hu', hleaves', hwords'⟩ := Net.exists_unfolds_alone mark (star (star x))
  have hx' := (unfolds_star _ hu' hleaves').of_alone_star (by decide) (by decide) hleaves'
  rw [one_mul, add_idem] at hx'
  refine Set.ext fun t => (hwords' t).symm.trans (Iff.trans ?_ (hwords t))
  exact Net.walk_shift_iff (unfolds_star _ hu hleaves) hleaves hx' hleaves' t

lemma compiled_star_maybe : (star (maybe x)).compiled mark = (star x).compiled mark := by
  obtain ⟨T, _, hu, hleaves, hwords⟩ := Net.exists_unfolds_alone mark (star x)
  obtain ⟨T', _, hu', hleaves', hwords'⟩ := Net.exists_unfolds_alone mark (star (maybe x))
  have hx' := (unfolds_star _ hu' hleaves').of_alone_maybe (by decide) (by decide) hleaves'
  rw [one_mul, add_idem] at hx'
  refine Set.ext fun t => (hwords' t).symm.trans (Iff.trans ?_ (hwords t))
  exact Net.walk_shift_iff (unfolds_star _ hu hleaves) hleaves hx' hleaves' t

lemma nil_mem_compiled_star : [] ∈ (star x).compiled mark := by
  obtain ⟨T, _, hu, hleaves, hwords⟩ := Net.exists_unfolds_alone mark (star x)
  have hpast : (Net.alone 3 x (1 : Language σ) 1 1 1).link 0 [] 1 :=
    Or.inr (Or.inr (Or.inr ⟨rfl, rfl, rfl⟩))
  exact (hwords []).mp (.link ((unfolds_star _ hu hleaves).link hpast (Net.below_alone (by decide))
    rfl rfl))

lemma compiled_maybe_star : (maybe (star x)).compiled mark = (star x).compiled mark := by
  rw [compiled_maybe]
  refine Set.ext fun t => ⟨?_, Or.inr⟩
  rintro (rfl | ht)
  · exact nil_mem_compiled_star x
  · exact ht

lemma compiled_maybe_maybe : (maybe (maybe x)).compiled mark = (maybe x).compiled mark := by
  rw [compiled_maybe, compiled_maybe, ← add_assoc, add_idem]

end Expr

/-! ## The words of graphs -/

namespace Graph

variable (l r x : Expr α)

/-- Leaves may be replaced by their languages. -/
lemma walk_own_iff {R : Reading α σ} {g : Graph α} {p s : NodeId} {t : List σ} :
    ((g.map R.leaf).net.map R.mark).Walk (Reading.own R.mark) p t s ↔
      (g.net.map R.mark).Walk R p t s := by
  constructor
  · intro hw
    induction hw with
    | link hl => exact .link hl
    | step _ hq hz hl ih =>
        obtain ⟨_, hK, rfl⟩ := net_node_eq_some_iff.mp hq
        rw [matcher?_map, Option.map_eq_some_iff] at hK
        obtain ⟨m, hm, rfl⟩ := hK
        exact ih.step (net_node_eq_some_iff.mpr ⟨m, hm, rfl⟩) hz hl
  · intro hw
    induction hw with
    | link hl => exact .link hl
    | step _ hq hz hl ih =>
        obtain ⟨m, hm, rfl⟩ := net_node_eq_some_iff.mp hq
        refine ih.step (net_node_eq_some_iff.mpr ⟨R.leaf m, ?_, rfl⟩) hz hl
        rw [matcher?_map, hm]
        rfl

lemma markedWords_eq_compiled (e : Expr α) : (ofExpr e).markedWords =
    (e.map Reading.marked.leaf).compiled Reading.marked.mark := by
  refine Set.ext fun t => ?_
  show _ ↔ ((ofExpr (e.map _)).net.map _).Walk _ _ t _
  rw [ofExpr_map]
  exact walk_own_iff.symm

theorem markedWords_concat : (ofExpr (.concat l r)).markedWords =
    (ofExpr l).markedWords * (ofExpr r).markedWords := by
  simp only [markedWords_eq_compiled, Expr.map, Expr.compiled_concat]

theorem markedWords_alt : (ofExpr (.alt l r)).markedWords =
    (ofExpr l).markedWords + (ofExpr r).markedWords := by
  simp only [markedWords_eq_compiled, Expr.map, Expr.compiled_alt]

theorem markedWords_maybe : (ofExpr (.maybe x)).markedWords = 1 + (ofExpr x).markedWords := by
  simp only [markedWords_eq_compiled, Expr.map, Expr.compiled_maybe]

theorem markedWords_capture (n : String) : (ofExpr (.capture n x)).markedWords =
    {[.inl (.start n)]} * (ofExpr x).markedWords * {[.inl (.stop n)]} := by
  simp only [markedWords_eq_compiled, Expr.map, Expr.compiled_capture]
  rfl

theorem markedWords_star_star :
    (ofExpr (.star (.star x))).markedWords = (ofExpr (.star x)).markedWords := by
  simp only [markedWords_eq_compiled, Expr.map, Expr.compiled_star_star]

theorem markedWords_star_maybe :
    (ofExpr (.star (.maybe x))).markedWords = (ofExpr (.star x)).markedWords := by
  simp only [markedWords_eq_compiled, Expr.map, Expr.compiled_star_maybe]

theorem markedWords_maybe_star :
    (ofExpr (.maybe (.star x))).markedWords = (ofExpr (.star x)).markedWords := by
  simp only [markedWords_eq_compiled, Expr.map, Expr.compiled_maybe_star]

theorem markedWords_maybe_maybe :
    (ofExpr (.maybe (.maybe x))).markedWords = (ofExpr (.maybe x)).markedWords := by
  simp only [markedWords_eq_compiled, Expr.map, Expr.compiled_maybe_maybe]

end Graph

end TokenPattern
