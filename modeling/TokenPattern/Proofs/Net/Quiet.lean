import TokenPattern.Proofs.Net.Walk

/-!
# Ways round through what may be empty

A rewrite loses walks only at a node that may be passed by and has a loop with a word on it
(`Net.LoopsTrivial`).  Such a loop need not be there from the beginning: it appears when the other
nodes of a cycle, all of which may be empty, are taken apart one after the other.  So the property
that a whole compilation keeps is about cycles.

**Silence.**  Under `Reading.silent` leaves have no word and boundaries the empty one.  A walk that is
read silently is a way through nodes that may be empty, with the word of its links
(`Expr.mem_denote_silent`).

**Quiet nets.**  `Net.Quiet C G` says that the words of silent walks from a nullable node back to
itself all lie in `C`.  A rewrite keeps it (`Net.Quiet.rewrite`), with one proviso: the body of a
repetition gets a loop without a word, so if some body is nullable, `C` must have the empty word.
-/

namespace TokenPattern

universe u v w

variable {α : Type u} {σ : Type v}

/-- The empty word for every boundary. -/
def Marker.silent (_ : Marker) : List σ := []

@[simp] lemma Marker.spell_silent (markers : List Marker) :
    Marker.spell (Marker.silent : Marker → List σ) markers = [] :=
  List.flatMap_eq_nil_iff.mpr fun _ _ => rfl

/-- The reading under which leaves have no word and boundaries the empty one. -/
def Reading.silent : Reading α σ := ⟨fun _ => 0, Marker.silent⟩

namespace Expr

/-- Read silently, a pattern has the empty word if it is nullable and no other. -/
lemma mem_denote_silent {e : Expr α} {z : List σ} :
    z ∈ e.denote Reading.silent ↔ e.nullable = true ∧ z = [] := by
  induction e generalizing z with
  | leaf m => simp [denote, nullable, Reading.silent]
  | concat l r ihl ihr =>
      simp only [denote, nullable, Language.mem_mul, ihl, ihr, Bool.and_eq_true]
      constructor
      · rintro ⟨a, ⟨hl, rfl⟩, b, ⟨hr, rfl⟩, rfl⟩
        exact ⟨⟨hl, hr⟩, rfl⟩
      · rintro ⟨⟨hl, hr⟩, rfl⟩
        exact ⟨[], ⟨hl, rfl⟩, [], ⟨hr, rfl⟩, rfl⟩
  | alt l r ihl ihr =>
      simp only [denote, nullable, Language.mem_add, ihl, ihr, Bool.or_eq_true, or_and_right]
  | maybe x ih =>
      simp only [denote, nullable, Language.mem_add, Language.mem_one, ih, true_and]
      exact ⟨fun h => h.elim id And.right, Or.inl⟩
  | star x ih =>
      simp only [denote, nullable, true_and]
      constructor
      · intro h
        obtain ⟨L, rfl, hL⟩ := Language.mem_kstar.mp h
        exact List.flatten_eq_nil_iff.mpr fun y hy => (ih.mp (hL y hy)).2
      · rintro rfl
        exact Language.nil_mem_kstar _
  | capture n x ih =>
      simp only [denote, nullable, Language.mem_mul, ih]
      constructor
      · rintro ⟨_, ⟨_, rfl, _, ⟨hx, rfl⟩, rfl⟩, _, rfl, rfl⟩
        exact ⟨hx, rfl⟩
      · rintro ⟨hx, rfl⟩
        exact ⟨[], ⟨[], rfl, [], ⟨hx, rfl⟩, rfl⟩, [], rfl, rfl⟩

/-- Whether the bodies of all repetitions read at least one token. -/
def starsRead : Expr α → Bool
  | leaf _ => true
  | concat l r | alt l r => l.starsRead && r.starsRead
  | maybe x | capture _ x => x.starsRead
  | star x => !x.nullable && x.starsRead

/-- What the leaves hold does not matter. -/
lemma nullable_map {β : Type w} (f : α → β) (e : Expr α) : (e.map f).nullable = e.nullable := by
  induction e with
  | leaf m => rfl
  | concat l r ihl ihr => rw [map, nullable, nullable, ihl, ihr]
  | alt l r ihl ihr => rw [map, nullable, nullable, ihl, ihr]
  | maybe x ih => rfl
  | star x ih => rfl
  | capture n x ih => rw [map, nullable, nullable, ih]

lemma starsRead_map {β : Type w} (f : α → β) (e : Expr α) :
    (e.map f).starsRead = e.starsRead := by
  induction e with
  | leaf m => rfl
  | concat l r ihl ihr => rw [map, starsRead, starsRead, ihl, ihr]
  | alt l r ihl ihr => rw [map, starsRead, starsRead, ihl, ihr]
  | maybe x ih => rw [map, starsRead, starsRead, ih]
  | star x ih => rw [map, starsRead, starsRead, ih, nullable_map]
  | capture n x ih => rw [map, starsRead, starsRead, ih]

lemma starsRead_of_mem_children {e x : Expr α} (h : e.starsRead = true) {i : Nat}
    (hx : e.children[i]? = some x) : x.starsRead = true := by
  have hmem := List.mem_of_getElem? hx
  cases e <;> simp only [children, List.mem_cons, List.not_mem_nil, or_false] at hmem <;>
    simp only [starsRead, Bool.and_eq_true] at h
  case concat => rcases hmem with rfl | rfl <;> simp only [h]
  case alt => rcases hmem with rfl | rfl <;> simp only [h]
  all_goals subst hmem; simp only [h]

lemma nullable_of_skips {e : Expr α} (h : e.skips = true) : e.nullable = true := by
  cases e with
  | maybe x => rfl
  | star x => rfl
  | _ => simp [skips] at h

/-- Steps from operand to operand can be joined. -/
lemma inner_trans {e : Expr α} {i j k : Nat} (hij : (i, j) ∈ e.inner) (hjk : (j, k) ∈ e.inner) :
    (i, k) ∈ e.inner := by
  cases e <;> simp only [inner, List.mem_singleton, List.not_mem_nil, Prod.mk.injEq] at *
  case concat => omega
  case star => omega

/-- Behind operand `i`, a pattern may end without reading another token. -/
def Outward (e : Expr α) (i : Nat) : Prop :=
  (∃ b, (i, b) ∈ e.exits) ∨
    ∃ j y b, (i, j) ∈ e.inner ∧ e.children[j]? = some y ∧ y.nullable = true ∧ (j, b) ∈ e.exits

/-- A pattern with a silent way to a nullable operand and out again is nullable. -/
lemma nullable_of_within {e y : Expr α} {i : Nat} {u : List σ}
    (h : e.Within Reading.silent i u) (hy : e.children[i]? = some y) (hn : y.nullable = true)
    (ho : e.Outward i) : e.nullable = true := by
  have hz : ([] : List σ) ∈ y.denote Reading.silent := mem_denote_silent.mpr ⟨hn, rfl⟩
  rcases ho with ⟨b, hb⟩ | ⟨j, y', b, hij, hy', hn', hb⟩
  · exact (mem_denote_silent.mp (h.exit_mem_denote hy hz hb)).1
  · have hz' : ([] : List σ) ∈ y'.denote Reading.silent := mem_denote_silent.mpr ⟨hn', rfl⟩
    exact (mem_denote_silent.mp ((h.pass hy hz hij).exit_mem_denote hy' hz' hb)).1

end Expr

namespace Net

variable {G : Net α σ} {v x : Nat} {e : Expr α} {C : Set (List σ)}

/-- Walks that read nothing on their way but the words of links. -/
abbrev Silent (G : Net α σ) (p : Nat) (t : List σ) (s : Nat) : Prop :=
  G.Walk Reading.silent p t s

lemma Silent.step {t a : List σ} {p q s : Nat} {f : Expr α} (h : G.Silent p t q)
    (hq : G.node q = some f) (hf : f.nullable = true) (hl : G.link q a s) :
    G.Silent p (t ++ a) s := by
  simpa using Walk.step h hq (Expr.mem_denote_silent.mpr ⟨hf, rfl⟩) hl

/-- The words of silent walks from a nullable node back to it lie in `C`, and so does the empty word
unless all repetitions read. -/
structure Quiet (C : Set (List σ)) (G : Net α σ) : Prop where
  cycle : ∀ {i : Nat} {f : Expr α} {t : List σ}, G.node i = some f → f.nullable = true →
    G.Silent i t i → t ∈ C
  stars : ∀ {i : Nat} {f : Expr α}, G.node i = some f → f.starsRead = true ∨ [] ∈ C

/-- What a silent walk from operand `i` has done when it comes to node `s`: either it has only gone
from operand to operand, or it has left `v` as a silent walk of the net before, and perhaps come
back. -/
def Departed (G : Net α σ) (v x : Nat) (e : Expr α) (i : Nat) (t : List σ) (s : Nat) : Prop :=
  (s < x → G.Silent v t s ∧ e.Outward i) ∧
    ∀ j, s = x + j → (t = [] ∧ (i, j) ∈ e.inner) ∨
      (G.Silent v t v ∧ e.Outward i ∧ ∃ u : List σ, e.Within Reading.silent j u)

lemma departed_of_silent {i : Nat} {t : List σ} {s : Nat} (hs : s < x) (h : G.Silent v t s)
    (ho : e.Outward i) : Departed G v x e i t s :=
  ⟨fun _ => ⟨h, ho⟩, fun j hj => by omega⟩

lemma departed_of_back {i j : Nat} {t u : List σ} (h : G.Silent v t v) (ho : e.Outward i)
    (hw : e.Within Reading.silent j u) : Departed G v x e i t (x + j) :=
  ⟨fun hs => by omega, fun k hk => by
    obtain rfl : j = k := by omega
    exact Or.inr ⟨h, ho, u, hw⟩⟩

/-- Every silent walk from an operand is accounted for. -/
lemma departed_of_walk_rewrite (hG : G.Below x) (hv : G.node v = some e) (hvx : v < x) {i : Nat}
    {t : List σ} {s : Nat}
    (h : (G.rewrite Marker.silent v x e).Walk Reading.silent (x + i) t s) :
    Departed G v x e i t s := by
  induction h with
  | link h =>
      generalize hp : x + i = p at h
      cases h with
      | kept h _ _ => exact absurd (hG.source h) (by omega)
      | enter h _ _ => exact absurd (hG.source h) (by omega)
      | leave h hs hx =>
          obtain rfl := Nat.add_left_cancel hp
          exact departed_of_silent (hG.target h) (by simpa using Walk.link h) (Or.inl ⟨_, hx⟩)
      | again h hx hj =>
          obtain rfl := Nat.add_left_cancel hp
          exact departed_of_back (by simpa using Walk.link h) (Or.inl ⟨_, hx⟩)
            (Expr.Within.enter hj)
      | inner hij =>
          obtain rfl := Nat.add_left_cancel hp
          refine ⟨fun hs => by omega, fun k hk => Or.inl ⟨rfl, ?_⟩⟩
          obtain rfl := Nat.add_left_cancel hk
          exact hij
      | past _ h _ _ _ => exact absurd (hG.source h) (by omega)
  | @step t z a q s f _ hq hz h ih =>
      obtain ⟨hf, rfl⟩ := Expr.mem_denote_silent.mp hz
      rw [List.append_nil]
      cases h with
      | kept h hqv _ =>
          have hqx := hG.source h
          rw [node_rewrite_of_lt hqx hqv] at hq
          obtain ⟨hw, ho⟩ := ih.1 hqx
          exact departed_of_silent (hG.target h) (Silent.step hw hq hf h) ho
      | enter h hqv hj =>
          have hqx := hG.source h
          rw [node_rewrite_of_lt hqx hqv] at hq
          obtain ⟨hw, ho⟩ := ih.1 hqx
          exact departed_of_back (by simpa using Silent.step hw hq hf h) ho (Expr.Within.enter hj)
      | leave h _ hx =>
          rw [node_rewrite_operand hvx] at hq
          refine departed_of_silent (hG.target h) ?_ ?_
          · rcases ih.2 _ rfl with ⟨rfl, _⟩ | ⟨hw, _, u, hu⟩
            · simpa using Walk.link h
            · simpa using
                Silent.step hw hv (Expr.nullable_of_within hu hq hf (Or.inl ⟨_, hx⟩)) h
          · rcases ih.2 _ rfl with ⟨_, hij⟩ | ⟨_, ho, _⟩
            · exact Or.inr ⟨_, _, _, hij, hq, hf, hx⟩
            · exact ho
      | again h hx hk =>
          rw [node_rewrite_operand hvx] at hq
          refine departed_of_back ?_ ?_ (Expr.Within.enter hk)
          · rcases ih.2 _ rfl with ⟨rfl, _⟩ | ⟨hw, _, u, hu⟩
            · simpa using Walk.link h
            · simpa using
                Silent.step hw hv (Expr.nullable_of_within hu hq hf (Or.inl ⟨_, hx⟩)) h
          · rcases ih.2 _ rfl with ⟨_, hij⟩ | ⟨_, ho, _⟩
            · exact Or.inr ⟨_, _, _, hij, hq, hf, hx⟩
            · exact ho
      | @inner j k hjk =>
          rw [node_rewrite_operand hvx] at hq
          rcases ih.2 _ rfl with ⟨rfl, hij⟩ | ⟨hw, ho, u, hu⟩
          · refine ⟨fun hs => by omega, fun k' hk => Or.inl ⟨rfl, ?_⟩⟩
            obtain rfl := Nat.add_left_cancel hk
            exact Expr.inner_trans hij hjk
          · simpa using departed_of_back (x := x) hw ho
              (hu.pass hq (Expr.mem_denote_silent.mpr ⟨hf, rfl⟩) hjk)
      | past hk h hqv h' _ =>
          have hqx := hG.source h
          rw [node_rewrite_of_lt hqx hqv] at hq
          obtain ⟨hw, ho⟩ := ih.1 hqx
          refine departed_of_silent (hG.target h') ?_ ho
          simpa using
            Silent.step (Silent.step hw hq hf h) hv (Expr.nullable_of_skips hk) h'

/-- **A rewrite keeps a net quiet.** -/
theorem Quiet.rewrite (hC : G.Quiet C) (hG : G.Below x) (hv : G.node v = some e) (hvx : v < x) :
    (G.rewrite Marker.silent v x e).Quiet C where
  cycle := by
    intro i f t hi hf h
    by_cases hix : i < x
    · have hiv : i ≠ v := fun hiv => by simp [Net.rewrite, hiv] at hi
      rw [node_rewrite_of_lt hix hiv] at hi
      exact hC.cycle hi hf (walk_of_walk_rewrite hG hv hvx hix hix h)
    · obtain ⟨j, rfl⟩ := Nat.exists_eq_add_of_le (Nat.le_of_not_lt hix)
      rw [node_rewrite_operand hvx] at hi
      rcases (departed_of_walk_rewrite hG hv hvx h).2 j rfl with ⟨rfl, hjj⟩ | ⟨hw, ho, u, hu⟩
      · -- Only the body of a repetition leads to itself.
        cases e with
        | star y =>
            simp only [Expr.inner, List.mem_singleton, Prod.mk.injEq] at hjj
            obtain ⟨rfl, _⟩ := hjj
            simp only [Expr.children, List.getElem?_cons_zero, Option.some.injEq] at hi
            subst hi
            refine (hC.stars hv).resolve_left fun hstar => ?_
            simp [Expr.starsRead, hf] at hstar
        | concat l r =>
            simp only [Expr.inner, List.mem_singleton, Prod.mk.injEq] at hjj
            omega
        | _ => simp [Expr.inner] at hjj
      · exact hC.cycle hv (Expr.nullable_of_within hu hi hf ho) hw
  stars := by
    intro i f hi
    by_cases hix : i < x
    · have hiv : i ≠ v := fun hiv => by simp [Net.rewrite, hiv] at hi
      rw [node_rewrite_of_lt hix hiv] at hi
      exact hC.stars hi
    · obtain ⟨j, rfl⟩ := Nat.exists_eq_add_of_le (Nat.le_of_not_lt hix)
      rw [node_rewrite_operand hvx] at hi
      exact (hC.stars hv).imp_left fun h => Expr.starsRead_of_mem_children h hi

end Net

end TokenPattern
