import TokenPattern.Proofs.Net.Spelling

/-!
# One pattern between the sentinels

The simplest nets have one pattern.  Their links are described by four languages: the words on the
way in, on the way out, on the way back to the pattern, and on the way past it (`Net.alone`).

* `walk_alone_iff` — the words from one sentinel to the other are a regular expression in these four
  and the language of the pattern.
* `rewrite_alone` — a pattern with a single operand leaves a net of the same kind behind.
-/

namespace TokenPattern

open scoped Computability

universe u v w

namespace Net

variable {α : Type u} {σ : Type v}

/-- The net with pattern `e` at node `v`, links with words from `I` on the way in, from `O` on the
way out, from `A` on the way back, and from `P` on the way past. -/
def alone (v : Nat) (e : Expr α) (I O A P : Language σ) : Net α σ where
  node i := if i = v then some e else none
  link p a s := (p = 0 ∧ s = v ∧ a ∈ I) ∨ (p = v ∧ s = 1 ∧ a ∈ O) ∨ (p = v ∧ s = v ∧ a ∈ A) ∨
    (p = 0 ∧ s = 1 ∧ a ∈ P)

variable {v x : Nat} {e : Expr α} {I O A P : Language σ}

lemma node_alone_self : (alone v e I O A P).node v = some e := if_pos rfl

lemma node_alone_eq_some {i : Nat} {f : Expr α} (h : (alone v e I O A P).node i = some f) :
    i = v ∧ f = e := by
  simp only [alone] at h
  split_ifs at h with hi
  exact ⟨hi, (Option.some.inj h).symm⟩

lemma next_alone (he : e.children ≠ []) : (alone v e I O A P).Next v e where
  node := node_alone_self
  children_ne := he
  le hi _ := Nat.le_of_eq (node_alone_eq_some hi).1

lemma below_alone (hv : 2 ≤ v) : (alone v e I O A P).Below (v + 1) where
  node {i} hi := if_neg (by omega)
  source h := by rcases h with h | h | h | h <;> omega
  target h := by rcases h with h | h | h | h <;> omega

/-- Such a net is quiet if the pattern is not nullable or nothing leads back to it. -/
lemma quiet_alone {C : Set (List σ)} (hv : 2 ≤ v) (h : e.nullable = false ∨ A = 0)
    (hs : e.starsRead = true ∨ [] ∈ C) : (alone v e I O A P).Quiet C where
  cycle {i f t} hi hf hw := by
    obtain ⟨rfl, rfl⟩ := node_alone_eq_some hi
    rcases h with h | rfl
    · rw [h] at hf
      exact absurd hf (by simp)
    · -- Without links back, every walk from the pattern stops on the terminal node.
      have hend : ∀ {t s}, (alone i f I O 0 P).Silent i t s → s = 1 := by
        intro t s hw
        induction hw with
        | link hl =>
            rcases hl with ⟨h, _⟩ | ⟨_, h, _⟩ | ⟨_, _, h⟩ | ⟨h, _⟩
            · omega
            · exact h
            · exact absurd h (Language.notMem_zero _)
            · omega
        | step _ hq _ _ ih =>
            have := (node_alone_eq_some hq).1
            omega
      have := hend hw
      omega
  stars {i f} hi := by
    obtain ⟨_, rfl⟩ := node_alone_eq_some hi
    exact hs

/-! ## Walks -/

/-- **The words from one sentinel to the other.** -/
theorem walk_alone_iff {R : Reading α σ} (hv : 2 ≤ v) {t : List σ} :
    (alone v e I O A P).Walk R 0 t 1 ↔ t ∈ P + I * (e.denote R * A)∗ * e.denote R * O := by
  constructor
  · -- A walk comes to the pattern through rounds that end with a word from `A`.
    have hwalk : ∀ {t s}, (alone v e I O A P).Walk R 0 t s →
        (s = v → t ∈ I * (e.denote R * A)∗) ∧
          (s = 1 → t ∈ P + I * (e.denote R * A)∗ * e.denote R * O) := by
      intro t s hw
      induction hw with
      | @link a s hl =>
          rcases hl with ⟨_, rfl, ha⟩ | ⟨h, _⟩ | ⟨h, _⟩ | ⟨_, rfl, ha⟩
          · refine ⟨fun _ => ?_, fun h => by omega⟩
            rw [← List.append_nil a]
            exact Language.append_mem_mul ha (Language.nil_mem_kstar _)
          · omega
          · omega
          · exact ⟨fun h => by omega, fun _ => Or.inl ha⟩
      | @step t z a q s f _ hq hz hl ih =>
          obtain ⟨rfl, rfl⟩ := node_alone_eq_some hq
          have ht := ih.1 rfl
          rcases hl with ⟨h, _⟩ | ⟨_, rfl, ha⟩ | ⟨_, rfl, ha⟩ | ⟨h, _⟩
          · omega
          · refine ⟨fun h => by omega, fun _ => Or.inr ?_⟩
            exact Language.append_mem_mul (Language.append_mem_mul ht hz) ha
          · refine ⟨fun _ => ?_, fun h => by omega⟩
            have hround := Language.append_mem_mul ht (Language.append_mem_mul hz ha)
            rw [mul_assoc, ← List.append_assoc] at hround
            exact mul_le_mul_right (kstar_mul_le_kstar (a := f.denote R * A)) I hround
          · omega
    exact fun hw => (hwalk hw).2 rfl
  · rintro (ht | ht)
    · exact .link (Or.inr (Or.inr (Or.inr ⟨rfl, rfl, ht⟩)))
    · obtain ⟨u, ⟨u', ⟨a, ha, b, hb, rfl⟩, z, hz, rfl⟩, c, hc, rfl⟩ := ht
      -- The rounds are walked one after the other.
      have hrounds : (alone v e I O A P).Walk R 0 (a ++ b) v := by
        obtain ⟨L, rfl, hL⟩ := Language.mem_kstar.mp hb
        clear hb
        induction L using List.reverseRecOn with
        | nil =>
            rw [List.flatten_nil, List.append_nil]
            exact .link (Or.inl ⟨rfl, rfl, ha⟩)
        | append_singleton L r ih =>
            obtain ⟨y, hy, c, hc, rfl⟩ := hL r (by simp)
            have hstep := Walk.step (ih fun r hr => hL r (by simp [hr])) node_alone_self hy
              (show (alone v e I O A P).link v c v from Or.inr (Or.inr (Or.inl ⟨rfl, rfl, hc⟩)))
            simpa using hstep
      exact hrounds.step node_alone_self hz (Or.inr (Or.inl ⟨rfl, rfl, hc⟩))

/-! ## Rewriting -/

lemma link_alone_enter (hv : 2 ≤ v) {p : Nat} {a : List σ} (hp : p ≠ v) :
    (alone v e I O A P).link p a v ↔ p = 0 ∧ a ∈ I := by
  constructor
  · rintro (⟨rfl, _, ha⟩ | ⟨h, _⟩ | ⟨h, _⟩ | ⟨_, h, _⟩)
    · exact ⟨rfl, ha⟩
    · exact absurd h hp
    · exact absurd h hp
    · omega
  · rintro ⟨rfl, ha⟩
    exact Or.inl ⟨rfl, rfl, ha⟩

lemma link_alone_leave (hv : 2 ≤ v) {s : Nat} {a : List σ} (hs : s ≠ v) :
    (alone v e I O A P).link v a s ↔ s = 1 ∧ a ∈ O := by
  constructor
  · rintro (⟨h, _⟩ | ⟨_, rfl, ha⟩ | ⟨_, h, _⟩ | ⟨h, _⟩)
    · omega
    · exact ⟨rfl, ha⟩
    · exact absurd h hs
    · omega
  · rintro ⟨rfl, ha⟩
    exact Or.inr (Or.inl ⟨rfl, rfl, ha⟩)

lemma link_alone_again (hv : 2 ≤ v) {a : List σ} : (alone v e I O A P).link v a v ↔ a ∈ A := by
  constructor
  · rintro (⟨h, _⟩ | ⟨_, h, _⟩ | ⟨_, _, ha⟩ | ⟨h, _⟩)
    · omega
    · omega
    · exact ha
    · omega
  · exact fun ha => Or.inr (Or.inr (Or.inl ⟨rfl, rfl, ha⟩))

lemma link_alone_past {p s : Nat} {a : List σ} (hp : p ≠ v) (hs : s ≠ v) :
    (alone v e I O A P).link p a s ↔ p = 0 ∧ s = 1 ∧ a ∈ P := by
  constructor
  · rintro (⟨_, h, _⟩ | ⟨h, _⟩ | ⟨h, _⟩ | h)
    · exact absurd h hs
    · exact absurd h hp
    · exact absurd h hp
    · exact h
  · exact fun h => Or.inr (Or.inr (Or.inr h))

section

variable {mark : Marker → List σ} {y : Expr α} {m k : List Marker}

lemma node_rewrite_alone (hvx : v < x) (hc : e.children = [y]) (i : Nat) :
    ((alone v e I O A P).rewrite mark v x e).node i = if i = x then some y else none := by
  rcases Nat.lt_or_ge i x with h | h
  · rw [if_neg (Nat.ne_of_lt h)]
    by_cases hiv : i = v
    · exact if_pos hiv
    · rw [node_rewrite_of_lt h hiv]
      exact if_neg hiv
  · obtain ⟨j, rfl⟩ := Nat.exists_eq_add_of_le h
    rw [node_rewrite_operand hvx, hc]
    cases j with
    | zero => exact (if_pos rfl).symm
    | succ j => exact (if_neg (by omega)).symm

/-- **A pattern with one operand** leaves the operand alone. -/
theorem rewrite_alone (hv : 2 ≤ v) (hvx : v < x) (hc : e.children = [y])
    (hin : e.entries = [(0, m)]) (hout : e.exits = [(0, k)]) :
    (alone v e I O A P).rewrite mark v x e =
      alone x y (I * {Marker.spell mark m}) ({Marker.spell mark k} * O)
        ({Marker.spell mark k} * A * {Marker.spell mark m} + if e.inner = [] then 0 else 1)
        (P + if e.skips then I * O else 0) := by
  have hentry : ∀ {i a}, (i, a) ∈ e.entries ↔ i = 0 ∧ a = m := by simp [hin]
  have hexit : ∀ {i a}, (i, a) ∈ e.exits ↔ i = 0 ∧ a = k := by simp [hout]
  have hzero : ∀ {i j}, (i, j) ∈ e.inner → i = 0 ∧ j = 0 := by
    intro i j h
    have hlt := e.lt_length_of_mem_inner h
    rw [hc, List.length_singleton] at hlt
    omega
  refine Net.ext (funext (node_rewrite_alone hvx hc)) ?_
  funext p a s
  refine propext ⟨fun hl => ?_, fun hl => ?_⟩
  · cases hl with
    | kept hl hp hs =>
        obtain ⟨rfl, rfl, ha⟩ := (link_alone_past hp hs).mp hl
        exact Or.inr (Or.inr (Or.inr ⟨rfl, rfl, Or.inl ha⟩))
    | enter hl hp hi =>
        obtain ⟨rfl, rfl⟩ := hentry.mp hi
        obtain ⟨rfl, ha⟩ := (link_alone_enter hv hp).mp hl
        exact Or.inl ⟨rfl, rfl, Language.append_mem_mul ha rfl⟩
    | leave hl hs hi =>
        obtain ⟨rfl, rfl⟩ := hexit.mp hi
        obtain ⟨rfl, ha⟩ := (link_alone_leave hv hs).mp hl
        exact Or.inr (Or.inl ⟨rfl, rfl, Language.append_mem_mul rfl ha⟩)
    | again hl hi hj =>
        obtain ⟨rfl, rfl⟩ := hexit.mp hi
        obtain ⟨rfl, rfl⟩ := hentry.mp hj
        have ha := (link_alone_again hv).mp hl
        exact Or.inr (Or.inr (Or.inl ⟨rfl, rfl, Or.inl
          (Language.append_mem_mul (Language.append_mem_mul rfl ha) rfl)⟩))
    | inner hij =>
        obtain ⟨rfl, rfl⟩ := hzero hij
        refine Or.inr (Or.inr (Or.inl ⟨rfl, rfl, Or.inr ?_⟩))
        rw [if_neg (List.ne_nil_of_mem hij)]
        exact rfl
    | past hk hl hp hl' hs =>
        obtain ⟨rfl, ha⟩ := (link_alone_enter hv hp).mp hl
        obtain ⟨rfl, hb⟩ := (link_alone_leave hv hs).mp hl'
        refine Or.inr (Or.inr (Or.inr ⟨rfl, rfl, Or.inr ?_⟩))
        rw [if_pos hk]
        exact Language.append_mem_mul ha hb
  · have h0 : (0 : Nat) ≠ v := by omega
    have h1 : (1 : Nat) ≠ v := by omega
    rcases hl with ⟨rfl, rfl, a, ha, _, rfl, rfl⟩ | ⟨rfl, rfl, _, rfl, a, ha, rfl⟩ |
      ⟨rfl, rfl, hl⟩ | ⟨rfl, rfl, hl⟩
    · exact Rewired.enter (i := 0) ((link_alone_enter hv h0).mpr ⟨rfl, ha⟩) h0
        (hentry.mpr ⟨rfl, rfl⟩)
    · exact Rewired.leave (i := 0) ((link_alone_leave hv h1).mpr ⟨rfl, ha⟩) h1
        (hexit.mpr ⟨rfl, rfl⟩)
    · rcases hl with ⟨_, ⟨_, rfl, a, ha, rfl⟩, _, rfl, rfl⟩ | hl
      · exact Rewired.again (i := 0) (j := 0) ((link_alone_again hv).mpr ha)
          (hexit.mpr ⟨rfl, rfl⟩) (hentry.mpr ⟨rfl, rfl⟩)
      · split_ifs at hl with hinner
        · exact absurd hl (Language.notMem_zero _)
        · obtain rfl := (Language.mem_one a).mp hl
          obtain ⟨⟨i, j⟩, hij⟩ := List.exists_mem_of_ne_nil _ hinner
          obtain ⟨rfl, rfl⟩ := hzero hij
          exact Rewired.inner hij
    · rcases hl with ha | hl
      · exact Rewired.kept ((link_alone_past h0 h1).mpr ⟨rfl, rfl, ha⟩) h0 h1
      · split_ifs at hl with hk
        · obtain ⟨a, ha, b, hb, rfl⟩ := hl
          exact Rewired.past hk ((link_alone_enter hv h0).mpr ⟨rfl, ha⟩) h0
            ((link_alone_leave hv h1).mpr ⟨rfl, hb⟩) h1
        · exact absurd hl (Language.notMem_zero _)

end

section

variable {mark : Marker → List σ} {y : Expr α} {G' : Net α σ} {x' : Nat}

lemma Unfolds.of_alone_maybe (h : (alone v (.maybe y) I O A P).Unfolds mark x G' x')
    (hv : 2 ≤ v) (hvx : v < x) (hleaves : G'.LeavesFrom 0) :
    (alone x y I O A (P + I * O)).Unfolds mark (x + 1) G' x' := by
  have h' := h.of_next (next_alone (List.cons_ne_nil y [])) hleaves
  have hone : ({Marker.spell mark []} : Language σ) = 1 := rfl
  rw [rewrite_alone hv hvx rfl rfl rfl, hone, mul_one, one_mul, mul_one, one_mul] at h'
  simpa [Expr.inner, Expr.skips, Expr.children] using h'

lemma Unfolds.of_alone_star (h : (alone v (.star y) I O A P).Unfolds mark x G' x')
    (hv : 2 ≤ v) (hvx : v < x) (hleaves : G'.LeavesFrom 0) :
    (alone x y I O (A + 1) (P + I * O)).Unfolds mark (x + 1) G' x' := by
  have h' := h.of_next (next_alone (List.cons_ne_nil y [])) hleaves
  have hone : ({Marker.spell mark []} : Language σ) = 1 := rfl
  rw [rewrite_alone hv hvx rfl rfl rfl, hone, mul_one, one_mul, mul_one, one_mul] at h'
  simpa [Expr.inner, Expr.skips, Expr.children] using h'

lemma Unfolds.of_alone_capture {n : String}
    (h : (alone v (.capture n y) I O A P).Unfolds mark x G' x')
    (hv : 2 ≤ v) (hvx : v < x) (hleaves : G'.LeavesFrom 0) :
    (alone x y (I * {mark (.start n)}) ({mark (.stop n)} * O)
      ({mark (.stop n)} * A * {mark (.start n)}) P).Unfolds mark (x + 1) G' x' := by
  have h' := h.of_next (next_alone (List.cons_ne_nil y [])) hleaves
  rw [rewrite_alone hv hvx rfl rfl rfl, Marker.spell_singleton, Marker.spell_singleton] at h'
  simpa [Expr.inner, Expr.skips, Expr.children] using h'

end

/-! ## Changing the alphabet -/

lemma map_alone {σ' : Type w} (h : σ → List σ') :
    (alone v e I O A P).map h =
      alone v e (List.flatMap h '' I) (List.flatMap h '' O) (List.flatMap h '' A)
        (List.flatMap h '' P) := by
  refine Net.ext rfl ?_
  funext p c s
  refine propext ⟨?_, ?_⟩
  · rintro ⟨a, ⟨rfl, rfl, ha⟩ | ⟨rfl, rfl, ha⟩ | ⟨rfl, rfl, ha⟩ | ⟨rfl, rfl, ha⟩, rfl⟩
    · exact Or.inl ⟨rfl, rfl, a, ha, rfl⟩
    · exact Or.inr (Or.inl ⟨rfl, rfl, a, ha, rfl⟩)
    · exact Or.inr (Or.inr (Or.inl ⟨rfl, rfl, a, ha, rfl⟩))
    · exact Or.inr (Or.inr (Or.inr ⟨rfl, rfl, a, ha, rfl⟩))
  · rintro (⟨rfl, rfl, a, ha, rfl⟩ | ⟨rfl, rfl, a, ha, rfl⟩ | ⟨rfl, rfl, a, ha, rfl⟩ |
      ⟨rfl, rfl, a, ha, rfl⟩)
    · exact ⟨a, Or.inl ⟨rfl, rfl, ha⟩, rfl⟩
    · exact ⟨a, Or.inr (Or.inl ⟨rfl, rfl, ha⟩), rfl⟩
    · exact ⟨a, Or.inr (Or.inr (Or.inl ⟨rfl, rfl, ha⟩)), rfl⟩
    · exact ⟨a, Or.inr (Or.inr (Or.inr ⟨rfl, rfl, ha⟩)), rfl⟩

lemma lettered_alone {κ : Type w} {I O A P : Language κ} :
    (alone v e I O A P).lettered =
      alone v e (Language.map Sum.inl I) (Language.map Sum.inl O) (Language.map Sum.inl A)
        (Language.map Sum.inl P) := by
  have hmap : List.flatMap (fun k : κ => [(Sum.inl k : κ ⊕ α)]) = List.map Sum.inl :=
    funext fun a => List.map_eq_flatMap.symm
  rw [lettered, map_alone, hmap]
  rfl

end Net

end TokenPattern
