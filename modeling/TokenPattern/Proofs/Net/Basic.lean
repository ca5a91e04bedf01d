import Mathlib.Computability.Language
import Mathlib.Order.CompletePartialOrder
import TokenPattern.Graph.Draft

/-!
# Patterns as languages, and nets of patterns

Compilation takes a pattern apart one operator at a time.  In between there is a graph whose nodes
are still whole patterns, and every statement about the finished graph is an invariant of these
half-finished ones.  This file has the two things such an invariant compares.

**Reading.**  A `Reading` turns leaves and group boundaries into words over an alphabet; it makes
every pattern a language, `Expr.denote`.  One reading forgets the boundaries and keeps the tokens,
another keeps the boundaries and names the leaves.

**Nets.**  A `Net` has patterns at its nodes and words on its links.  A walk through it reads a word
of every pattern on its way (`Net.Walk`).

**Wiring.**  What an operator does to the links around it is data: the operands where one may enter,
the operands where one may leave, the steps from operand to operand, and whether the whole may be
passed by (`Expr.entries`, `Expr.exits`, `Expr.inner`, `Expr.skips`).  `Expr.denote` agrees with the
wiring (`Expr.denote_of_skips`, `Expr.Within.exit_mem_denote`, `Expr.exists_exit`), which is all that
the theory of nets uses of the operators.
-/

namespace TokenPattern

open scoped Computability

universe u v w

/-- Words for what a marked pattern is made of: a language for every leaf, a word for every group
boundary. -/
structure Reading (α : Type u) (σ : Type v) where
  leaf : α → Language σ
  mark : Marker → List σ

/-- The word of a list of boundaries. -/
def Marker.spell {σ : Type v} (mark : Marker → List σ) (markers : List Marker) : List σ :=
  markers.flatMap mark

@[simp] lemma Marker.spell_nil {σ : Type v} (mark : Marker → List σ) :
    Marker.spell mark [] = [] := rfl

@[simp] lemma Marker.spell_singleton {σ : Type v} (mark : Marker → List σ) (m : Marker) :
    Marker.spell mark [m] = mark m := List.flatMap_singleton mark m

namespace Expr

variable {α : Type u} {σ : Type v}

/-- The language of a pattern under a reading. -/
def denote (R : Reading α σ) : Expr α → Language σ
  | leaf m => R.leaf m
  | concat l r => l.denote R * r.denote R
  | alt l r => l.denote R + r.denote R
  | maybe x => 1 + x.denote R
  | star x => (x.denote R)∗
  | capture n x => {R.mark (.start n)} * x.denote R * {R.mark (.stop n)}

/-- Whether a pattern matches without reading a token. -/
def nullable : Expr α → Bool
  | leaf _ => false
  | concat l r => l.nullable && r.nullable
  | alt l r => l.nullable || r.nullable
  | maybe _ | star _ => true
  | capture _ x => x.nullable

/-! ## Wiring -/

/-- The operands where a pattern may begin, with the boundaries crossed on the way in. -/
def entries : Expr α → List (Nat × List Marker)
  | leaf _ => []
  | concat _ _ | maybe _ | star _ => [(0, [])]
  | alt _ _ => [(0, []), (1, [])]
  | capture n _ => [(0, [.start n])]

/-- The operands where a pattern may end, with the boundaries crossed on the way out. -/
def exits : Expr α → List (Nat × List Marker)
  | leaf _ => []
  | concat _ _ => [(1, [])]
  | maybe _ | star _ => [(0, [])]
  | alt _ _ => [(0, []), (1, [])]
  | capture n _ => [(0, [.stop n])]

/-- The steps from the end of one operand to the beginning of another. -/
def inner : Expr α → List (Nat × Nat)
  | concat _ _ => [(0, 1)]
  | star _ => [(0, 0)]
  | _ => []

/-- Whether a pattern may be passed by. -/
def skips : Expr α → Bool
  | maybe _ | star _ => true
  | _ => false

/-- The wiring only names operands that are there. -/
lemma lt_length_of_mem_entries (e : Expr α) {i : Nat} {m : List Marker} (h : (i, m) ∈ e.entries) :
    i < e.children.length := by
  have hall : ∀ entry ∈ e.entries, entry.1 < e.children.length := by
    cases e <;> simp [entries, children]
  exact hall _ h

lemma lt_length_of_mem_exits (e : Expr α) {i : Nat} {m : List Marker} (h : (i, m) ∈ e.exits) :
    i < e.children.length := by
  have hall : ∀ exit ∈ e.exits, exit.1 < e.children.length := by
    cases e <;> simp [exits, children]
  exact hall _ h

lemma lt_length_of_mem_inner (e : Expr α) {i j : Nat} (h : (i, j) ∈ e.inner) :
    i < e.children.length ∧ j < e.children.length := by
  have hall : ∀ step ∈ e.inner, step.1 < e.children.length ∧ step.2 < e.children.length := by
    cases e <;> simp [inner, children]
  exact hall _ h

/-- `Within R e i u`: on the way through `e`, the word `u` can have been read in front of operand
`i`. -/
inductive Within (R : Reading α σ) (e : Expr α) : Nat → List σ → Prop
  | enter {i : Nat} {a : List Marker} : (i, a) ∈ e.entries → Within R e i (Marker.spell R.mark a)
  | pass {i j : Nat} {u z : List σ} {x : Expr α} : Within R e i u → e.children[i]? = some x →
      z ∈ x.denote R → (i, j) ∈ e.inner → Within R e j (u ++ z)

variable {R : Reading α σ}

/-- A pattern that may be passed by matches the empty word. -/
lemma denote_of_skips {e : Expr α} (h : e.skips = true) : [] ∈ e.denote R := by
  cases e with
  | maybe x => exact Or.inl rfl
  | star x => exact Language.nil_mem_kstar _
  | _ => simp [skips] at h

/-- What can be read in front of the operands of a concatenation. -/
lemma within_concat {l r : Expr α} {i : Nat} {u : List σ} (h : Within R (concat l r) i u) :
    (i = 0 ∧ u = []) ∨ (i = 1 ∧ u ∈ l.denote R) := by
  induction h with
  | enter h =>
      simp only [entries, List.mem_singleton, Prod.mk.injEq] at h
      exact Or.inl ⟨h.1, by rw [h.2]; rfl⟩
  | pass _ hx hz hij ih =>
      simp only [inner, List.mem_singleton, Prod.mk.injEq] at hij
      obtain ⟨rfl, rfl⟩ := hij
      rcases ih with ⟨_, rfl⟩ | ⟨h, _⟩
      · simp only [children, List.getElem?_cons_zero, Option.some.injEq] at hx
        subst hx
        exact Or.inr ⟨rfl, by simpa using hz⟩
      · exact absurd h (by decide)

/-- What can be read in front of the body of a repetition. -/
lemma within_star {x : Expr α} {i : Nat} {u : List σ} (h : Within R (star x) i u) :
    i = 0 ∧ u ∈ (x.denote R)∗ := by
  induction h with
  | enter h =>
      simp only [entries, List.mem_singleton, Prod.mk.injEq] at h
      exact ⟨h.1, by rw [h.2]; exact Language.nil_mem_kstar _⟩
  | pass _ hx hz hij ih =>
      simp only [inner, List.mem_singleton, Prod.mk.injEq] at hij
      obtain ⟨rfl, rfl⟩ := hij
      simp only [children, List.getElem?_cons_zero, Option.some.injEq] at hx
      subst hx
      refine ⟨rfl, ?_⟩
      rw [← Language.one_add_kstar_mul_self_eq_kstar]
      exact Or.inr (Language.append_mem_mul ih.2 hz)

/-- Without inner steps nothing is read in front of an operand but the boundaries on the way in. -/
lemma within_of_inner_eq_nil {e : Expr α} (he : e.inner = []) {i : Nat} {u : List σ}
    (h : Within R e i u) : ∃ a, (i, a) ∈ e.entries ∧ u = Marker.spell R.mark a := by
  cases h with
  | enter h => exact ⟨_, h, rfl⟩
  | pass _ _ _ hij => simp [he] at hij

/-- **Every way through the wiring reads a word of the pattern.** -/
lemma Within.exit_mem_denote {e x : Expr α} {i : Nat} {u z : List σ} {b : List Marker}
    (h : Within R e i u) (hx : e.children[i]? = some x) (hz : z ∈ x.denote R)
    (hb : (i, b) ∈ e.exits) : u ++ z ++ Marker.spell R.mark b ∈ e.denote R := by
  cases e with
  | leaf m => simp [exits] at hb
  | concat l r =>
      simp only [exits, List.mem_singleton, Prod.mk.injEq] at hb
      obtain ⟨rfl, rfl⟩ := hb
      rcases within_concat h with ⟨h, _⟩ | ⟨_, hu⟩
      · exact absurd h (by decide)
      · simp only [children, List.getElem?_cons_succ, List.getElem?_cons_zero,
          Option.some.injEq] at hx
        subst hx
        simpa [denote] using Language.append_mem_mul hu hz
  | alt l r =>
      obtain ⟨a, ha, rfl⟩ := within_of_inner_eq_nil rfl h
      simp only [entries, exits, List.mem_cons, List.not_mem_nil, or_false,
        Prod.mk.injEq] at ha hb
      have ha' : a = [] := by rcases ha with h | h <;> exact h.2
      have hb' : b = [] := by rcases hb with h | h <;> exact h.2
      subst ha' hb'
      simp only [Marker.spell_nil, List.nil_append, List.append_nil]
      rcases ha with ⟨rfl, _⟩ | ⟨rfl, _⟩
      · simp only [children, List.getElem?_cons_zero, Option.some.injEq] at hx
        subst hx
        exact Or.inl hz
      · simp only [children, List.getElem?_cons_succ, List.getElem?_cons_zero,
          Option.some.injEq] at hx
        subst hx
        exact Or.inr hz
  | maybe y =>
      obtain ⟨a, ha, rfl⟩ := within_of_inner_eq_nil rfl h
      simp only [entries, exits, List.mem_singleton, Prod.mk.injEq] at ha hb
      obtain ⟨rfl, rfl⟩ := ha
      obtain ⟨_, rfl⟩ := hb
      simp only [children, List.getElem?_cons_zero, Option.some.injEq] at hx
      subst hx
      simp only [Marker.spell_nil, List.nil_append, List.append_nil]
      exact Or.inr hz
  | star y =>
      simp only [exits, List.mem_singleton, Prod.mk.injEq] at hb
      obtain ⟨rfl, rfl⟩ := hb
      simp only [children, List.getElem?_cons_zero, Option.some.injEq] at hx
      subst hx
      simp only [denote, Marker.spell_nil, List.append_nil]
      rw [← Language.one_add_kstar_mul_self_eq_kstar]
      exact Or.inr (Language.append_mem_mul (within_star h).2 hz)
  | capture n y =>
      obtain ⟨a, ha, rfl⟩ := within_of_inner_eq_nil rfl h
      simp only [entries, exits, List.mem_singleton, Prod.mk.injEq] at ha hb
      obtain ⟨rfl, rfl⟩ := ha
      obtain ⟨_, rfl⟩ := hb
      simp only [children, List.getElem?_cons_zero, Option.some.injEq] at hx
      subst hx
      simp only [Marker.spell_singleton]
      exact Language.append_mem_mul (Language.append_mem_mul rfl hz) rfl

/-- Words of a repetition are read in front of one more round. -/
lemma within_star_of_mem {x : Expr α} {u : List σ} (h : u ∈ (x.denote R)∗) :
    Within R (star x) 0 u := by
  obtain ⟨L, rfl, hL⟩ := Language.mem_kstar.mp h
  clear h
  induction L using List.reverseRecOn with
  | nil => exact Within.enter (a := []) (by simp [entries])
  | append_singleton L y ih =>
      rw [List.flatten_append, List.flatten_singleton]
      exact Within.pass (ih fun z hz => hL z (by simp [hz])) rfl (hL y (by simp))
        (by simp [inner])

/-- **Every word of an operator is read on a way through its wiring**, unless it is passed by. -/
lemma exists_exit {e : Expr α} (he : e.children ≠ []) {t : List σ} (h : t ∈ e.denote R) :
    (e.skips = true ∧ t = []) ∨ ∃ i u x z b, Within R e i u ∧ e.children[i]? = some x ∧
      z ∈ x.denote R ∧ (i, b) ∈ e.exits ∧ t = u ++ z ++ Marker.spell R.mark b := by
  cases e with
  | leaf m => exact absurd rfl he
  | concat l r =>
      obtain ⟨y, hy, z, hz, rfl⟩ := Language.mem_mul.mp h
      have h0 : Within R (concat l r) 0 [] := Within.enter (a := []) (by simp [entries])
      exact Or.inr ⟨1, _, r, z, [], h0.pass rfl hy (by simp [inner]), rfl, hz, by simp [exits],
        by simp⟩
  | alt l r =>
      rcases h with h | h
      · exact Or.inr ⟨0, _, l, t, [], Within.enter (a := []) (by simp [entries]), rfl, h,
          by simp [exits], by simp⟩
      · exact Or.inr ⟨1, _, r, t, [], Within.enter (a := []) (by simp [entries]), rfl, h,
          by simp [exits], by simp⟩
  | maybe y =>
      rcases h with h | h
      · exact Or.inl ⟨rfl, h⟩
      · exact Or.inr ⟨0, _, y, t, [], Within.enter (a := []) (by simp [entries]), rfl, h,
          by simp [exits], by simp⟩
  | star y =>
      simp only [denote] at h
      rw [← Language.one_add_kstar_mul_self_eq_kstar] at h
      rcases h with h | h
      · exact Or.inl ⟨rfl, h⟩
      · obtain ⟨u, hu, z, hz, rfl⟩ := Language.mem_mul.mp h
        exact Or.inr ⟨0, u, y, z, [], within_star_of_mem hu, rfl, hz, by simp [exits], by simp⟩
  | capture n y =>
      obtain ⟨_, ⟨_, rfl, z, hz, rfl⟩, _, rfl, rfl⟩ := h
      exact Or.inr ⟨0, _, y, z, [.stop n], Within.enter (a := [.start n]) (by simp [entries]), rfl,
        hz, by simp [exits], by simp⟩

end Expr

end TokenPattern
