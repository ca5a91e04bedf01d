import Mathlib.Data.List.ProdSigma
import TokenPattern.Proofs.Language

/-!
# First and last leaves, and leaves that follow each other

Which leaves can begin a word of a pattern, which can end one, and which two can stand next to each
other, is computed from the operators: `Expr.firsts`, `Expr.lasts` and `Expr.follows`.  Groups do not
matter.  Where no leaf occurs twice, as in a pattern whose leaves are numbered, these are the sets that
the position automaton of the pattern is made of.

The three are what they are called: they agree with the words of the pattern (`mem_firsts_iff`,
`mem_lasts_iff`, `mem_follows_iff`).  Every leaf is in some word (`exists_word_of_mem_leaves`).
-/

namespace TokenPattern

open scoped Computability

universe u

/-! ## Letters of concatenations -/

section

variable {α : Type u} {a b : α}

lemma singleton_prefix_append_iff {x y : List α} :
    [a] <+: x ++ y ↔ [a] <+: x ∨ (x = [] ∧ [a] <+: y) := by
  cases x with
  | nil => simp
  | cons c x => simp [List.cons_prefix_cons]

lemma singleton_suffix_append_iff {x y : List α} :
    [a] <:+ x ++ y ↔ [a] <:+ y ∨ (y = [] ∧ [a] <:+ x) := by
  have hreverse : ∀ z : List α, [a] <:+ z ↔ [a] <+: z.reverse := by
    intro z
    rw [← List.reverse_prefix, List.reverse_singleton]
  rw [hreverse, hreverse, hreverse, List.reverse_append, singleton_prefix_append_iff,
    List.reverse_eq_nil_iff]

/-- Two neighbours stand in one of the parts, or on both sides of the seam. -/
lemma pair_infix_append_iff {x y : List α} : [a, b] <:+: x ++ y ↔
    [a, b] <:+: x ∨ [a, b] <:+: y ∨ ([a] <:+ x ∧ [b] <+: y) := by
  rw [List.infix_append_iff_ne_nil]
  refine or_congr_right (or_congr_right ⟨?_, ?_⟩)
  · rintro ⟨l₁, l₂, hne₁, hne₂, heq, hx, hy⟩
    obtain ⟨c, l₁, rfl⟩ := List.exists_cons_of_ne_nil hne₁
    obtain ⟨d, l₂, rfl⟩ := List.exists_cons_of_ne_nil hne₂
    obtain ⟨rfl, rfl, rfl, rfl⟩ : a = c ∧ l₁ = [] ∧ b = d ∧ l₂ = [] := by
      cases l₁ with
      | nil => simpa [and_comm] using heq
      | cons _ _ => simp at heq
    exact ⟨hx, hy⟩
  · rintro ⟨hx, hy⟩
    exact ⟨[a], [b], List.cons_ne_nil a [], List.cons_ne_nil b [], rfl, hx, hy⟩

lemma exists_mem_of_prefix_flatten {L : List (List α)} (h : [a] <+: L.flatten) :
    ∃ w ∈ L, [a] <+: w := by
  induction L with
  | nil => simp at h
  | cons w L ih =>
      rw [List.flatten_cons, singleton_prefix_append_iff] at h
      rcases h with h | ⟨_, h⟩
      · exact ⟨w, List.mem_cons_self, h⟩
      · obtain ⟨w', hw', h⟩ := ih h
        exact ⟨w', List.mem_cons_of_mem w hw', h⟩

lemma exists_mem_of_suffix_flatten {L : List (List α)} (h : [a] <:+ L.flatten) :
    ∃ w ∈ L, [a] <:+ w := by
  induction L with
  | nil => simp at h
  | cons w L ih =>
      rw [List.flatten_cons, singleton_suffix_append_iff] at h
      rcases h with h | ⟨_, h⟩
      · obtain ⟨w', hw', h⟩ := ih h
        exact ⟨w', List.mem_cons_of_mem w hw', h⟩
      · exact ⟨w, List.mem_cons_self, h⟩

/-- Neighbours in a sequence of words stand in one of the words, or one at the end of a word and the
other at the beginning of another. -/
lemma exists_mem_of_infix_flatten {L : List (List α)} (h : [a, b] <:+: L.flatten) :
    (∃ w ∈ L, [a, b] <:+: w) ∨ ((∃ w ∈ L, [a] <:+ w) ∧ ∃ w ∈ L, [b] <+: w) := by
  induction L with
  | nil => simp at h
  | cons w L ih =>
      rw [List.flatten_cons, pair_infix_append_iff] at h
      rcases h with h | h | ⟨ha, hb⟩
      · exact Or.inl ⟨w, List.mem_cons_self, h⟩
      · rcases ih h with ⟨w', hw', h⟩ | ⟨⟨w₁, hw₁, ha⟩, w₂, hw₂, hb⟩
        · exact Or.inl ⟨w', List.mem_cons_of_mem w hw', h⟩
        · exact Or.inr ⟨⟨w₁, List.mem_cons_of_mem w hw₁, ha⟩, w₂, List.mem_cons_of_mem w hw₂, hb⟩
      · obtain ⟨w', hw', hb⟩ := exists_mem_of_prefix_flatten hb
        exact Or.inr ⟨⟨w, List.mem_cons_self, ha⟩, w', List.mem_cons_of_mem w hw', hb⟩

end

namespace Expr

variable {α : Type u}

/-! ## Neighbours, computed from the operators -/

/-- The leaves with which a pattern may begin. -/
def firsts : Expr α → List α
  | leaf m => [m]
  | concat l r => l.firsts ++ if l.nullable then r.firsts else []
  | alt l r => l.firsts ++ r.firsts
  | maybe x | star x | capture _ x => x.firsts

/-- The leaves with which a pattern may end. -/
def lasts : Expr α → List α
  | leaf m => [m]
  | concat l r => r.lasts ++ if r.nullable then l.lasts else []
  | alt l r => l.lasts ++ r.lasts
  | maybe x | star x | capture _ x => x.lasts

/-- The pairs of leaves of which the second may be read directly behind the first. -/
def follows : Expr α → List (α × α)
  | leaf _ => []
  | concat l r => l.follows ++ r.follows ++ l.lasts ×ˢ r.firsts
  | alt l r => l.follows ++ r.follows
  | maybe x | capture _ x => x.follows
  | star x => x.follows ++ x.lasts ×ˢ x.firsts

/-! ## Neighbours in words -/

variable {a b : α} {P : List α → Prop}

lemma exists_mem_words_alt_iff {l r : Expr α} :
    (∃ w ∈ (alt l r).words, P w) ↔ (∃ w ∈ l.words, P w) ∨ ∃ w ∈ r.words, P w := by
  simp only [words_alt, Language.mem_add, or_and_right, exists_or]

lemma exists_mem_words_maybe_iff {x : Expr α} (hP : ¬ P []) :
    (∃ w ∈ (maybe x).words, P w) ↔ ∃ w ∈ x.words, P w := by
  rw [words_maybe]
  constructor
  · rintro ⟨w, rfl | hw, h⟩
    · exact absurd h hP
    · exact ⟨w, hw, h⟩
  · rintro ⟨w, hw, h⟩
    exact ⟨w, Or.inr hw, h⟩

lemma exists_mem_words_star_iff {x : Expr α} (hP : ∀ L : List (List α), P L.flatten → ∃ w ∈ L, P w) :
    (∃ w ∈ (star x).words, P w) ↔ ∃ w ∈ x.words, P w := by
  rw [words_star]
  constructor
  · rintro ⟨_, hw, h⟩
    obtain ⟨L, rfl, hL⟩ := Language.mem_kstar.mp hw
    obtain ⟨w, hw, h⟩ := hP L h
    exact ⟨w, hL w hw, h⟩
  · rintro ⟨w, hw, h⟩
    exact ⟨w, le_kstar (a := x.words) hw, h⟩

lemma mem_firsts_iff (e : Expr α) : a ∈ e.firsts ↔ ∃ w ∈ e.words, [a] <+: w := by
  induction e with
  | leaf m =>
      rw [firsts, List.mem_singleton]
      constructor
      · rintro rfl
        exact ⟨[a], rfl, List.prefix_rfl⟩
      · rintro ⟨w, rfl, h⟩
        exact (List.cons_prefix_cons.mp h).1
  | concat l r ihl ihr =>
      obtain ⟨v, hv, _⟩ := r.exists_word
      rw [firsts, List.mem_append, ihl, words_concat]
      constructor
      · rintro (⟨w, hw, h⟩ | h)
        · exact ⟨w ++ v, Language.append_mem_mul hw hv, singleton_prefix_append_iff.mpr (Or.inl h)⟩
        · split_ifs at h with hnull
          · obtain ⟨w, hw, h⟩ := ihr.mp h
            exact ⟨[] ++ w, Language.append_mem_mul ((nullable_iff_nil_mem_words l).mp hnull) hw, h⟩
          · exact absurd h List.not_mem_nil
      · rintro ⟨_, ⟨x, hx, y, hy, rfl⟩, h⟩
        rcases singleton_prefix_append_iff.mp h with h | ⟨rfl, h⟩
        · exact Or.inl ⟨x, hx, h⟩
        · rw [if_pos ((nullable_iff_nil_mem_words l).mpr hx), ihr]
          exact Or.inr ⟨y, hy, h⟩
  | alt l r ihl ihr => rw [firsts, List.mem_append, ihl, ihr, exists_mem_words_alt_iff]
  | maybe x ih => rw [firsts, ih, exists_mem_words_maybe_iff (by simp)]
  | star x ih => rw [firsts, ih, exists_mem_words_star_iff fun _ => exists_mem_of_prefix_flatten]
  | capture n x ih => rw [firsts, ih, words_capture]

lemma mem_lasts_iff (e : Expr α) : a ∈ e.lasts ↔ ∃ w ∈ e.words, [a] <:+ w := by
  induction e with
  | leaf m =>
      rw [lasts, List.mem_singleton]
      constructor
      · rintro rfl
        exact ⟨[a], rfl, List.suffix_rfl⟩
      · rintro ⟨w, rfl, h⟩
        exact List.singleton_inj.mp (h.eq_of_length rfl)
  | concat l r ihl ihr =>
      obtain ⟨v, hv, _⟩ := l.exists_word
      rw [lasts, List.mem_append, ihr, words_concat]
      constructor
      · rintro (⟨w, hw, h⟩ | h)
        · exact ⟨v ++ w, Language.append_mem_mul hv hw, singleton_suffix_append_iff.mpr (Or.inl h)⟩
        · split_ifs at h with hnull
          · obtain ⟨w, hw, h⟩ := ihl.mp h
            refine ⟨w ++ [], Language.append_mem_mul hw ((nullable_iff_nil_mem_words r).mp hnull), ?_⟩
            rwa [List.append_nil]
          · exact absurd h List.not_mem_nil
      · rintro ⟨_, ⟨x, hx, y, hy, rfl⟩, h⟩
        rcases singleton_suffix_append_iff.mp h with h | ⟨rfl, h⟩
        · exact Or.inl ⟨y, hy, h⟩
        · rw [if_pos ((nullable_iff_nil_mem_words r).mpr hy), ihl]
          exact Or.inr ⟨x, hx, (List.append_nil x ▸ h : [a] <:+ x)⟩
  | alt l r ihl ihr => rw [lasts, List.mem_append, ihl, ihr, exists_mem_words_alt_iff]
  | maybe x ih => rw [lasts, ih, exists_mem_words_maybe_iff (by simp)]
  | star x ih => rw [lasts, ih, exists_mem_words_star_iff fun _ => exists_mem_of_suffix_flatten]
  | capture n x ih => rw [lasts, ih, words_capture]

lemma mem_follows_iff (e : Expr α) : (a, b) ∈ e.follows ↔ ∃ w ∈ e.words, [a, b] <:+: w := by
  induction e with
  | leaf m =>
      refine iff_of_false List.not_mem_nil ?_
      rintro ⟨w, rfl, h⟩
      exact absurd h.length_le (by simp)
  | concat l r ihl ihr =>
      obtain ⟨u, hu, _⟩ := l.exists_word
      obtain ⟨v, hv, _⟩ := r.exists_word
      rw [follows, List.mem_append, List.mem_append, List.mem_product, ihl, ihr, mem_lasts_iff,
        mem_firsts_iff, words_concat]
      constructor
      · rintro ((⟨w, hw, h⟩ | ⟨w, hw, h⟩) | ⟨⟨x, hx, ha⟩, y, hy, hb⟩)
        · exact ⟨w ++ v, Language.append_mem_mul hw hv, pair_infix_append_iff.mpr (Or.inl h)⟩
        · exact ⟨u ++ w, Language.append_mem_mul hu hw,
            pair_infix_append_iff.mpr (Or.inr (Or.inl h))⟩
        · exact ⟨x ++ y, Language.append_mem_mul hx hy,
            pair_infix_append_iff.mpr (Or.inr (Or.inr ⟨ha, hb⟩))⟩
      · rintro ⟨_, ⟨x, hx, y, hy, rfl⟩, h⟩
        rcases pair_infix_append_iff.mp h with h | h | ⟨ha, hb⟩
        · exact Or.inl (Or.inl ⟨x, hx, h⟩)
        · exact Or.inl (Or.inr ⟨y, hy, h⟩)
        · exact Or.inr ⟨⟨x, hx, ha⟩, y, hy, hb⟩
  | alt l r ihl ihr =>
      rw [follows, List.mem_append, ihl, ihr, exists_mem_words_alt_iff]
  | maybe x ih => rw [follows, ih, exists_mem_words_maybe_iff (by simp)]
  | star x ih =>
      rw [follows, List.mem_append, List.mem_product, ih, mem_lasts_iff, mem_firsts_iff, words_star]
      constructor
      · rintro (⟨w, hw, h⟩ | ⟨⟨v, hv, ha⟩, w, hw, hb⟩)
        · exact ⟨w, le_kstar (a := x.words) hw, h⟩
        · refine ⟨[v, w].flatten, Language.join_mem_kstar ?_, ?_⟩
          · simp [hv, hw]
          · simpa using pair_infix_append_iff.mpr (Or.inr (Or.inr ⟨ha, hb⟩))
      · rintro ⟨_, hw, h⟩
        obtain ⟨L, rfl, hL⟩ := Language.mem_kstar.mp hw
        rcases exists_mem_of_infix_flatten h with ⟨w, hw, h⟩ | ⟨⟨v, hv, ha⟩, w, hw, hb⟩
        · exact Or.inl ⟨w, hL w hw, h⟩
        · exact Or.inr ⟨⟨v, hL v hv, ha⟩, w, hL w hw, hb⟩
  | capture n x ih => rw [follows, ih, words_capture]

/-- Every leaf of a pattern is in one of its words. -/
lemma exists_word_of_mem_leaves {e : Expr α} (h : a ∈ e.leaves) : ∃ w ∈ e.words, a ∈ w := by
  induction e with
  | leaf m =>
      obtain rfl := List.mem_singleton.mp h
      exact ⟨[a], rfl, List.mem_singleton_self a⟩
  | concat l r ihl ihr =>
      rw [words_concat]
      rcases List.mem_append.mp h with h | h
      · obtain ⟨v, hv, _⟩ := r.exists_word
        obtain ⟨w, hw, h⟩ := ihl h
        exact ⟨w ++ v, Language.append_mem_mul hw hv, List.mem_append_left v h⟩
      · obtain ⟨v, hv, _⟩ := l.exists_word
        obtain ⟨w, hw, h⟩ := ihr h
        exact ⟨v ++ w, Language.append_mem_mul hv hw, List.mem_append_right v h⟩
  | alt l r ihl ihr =>
      rcases List.mem_append.mp h with h | h
      · obtain ⟨w, hw, h⟩ := ihl h
        exact ⟨w, Or.inl hw, h⟩
      · obtain ⟨w, hw, h⟩ := ihr h
        exact ⟨w, Or.inr hw, h⟩
  | maybe x ih =>
      obtain ⟨w, hw, h⟩ := ih h
      exact ⟨w, Or.inr hw, h⟩
  | star x ih =>
      obtain ⟨w, hw, h⟩ := ih h
      exact ⟨w, le_kstar (a := x.words) hw, h⟩
  | capture n x ih =>
      rw [words_capture]
      exact ih h

end Expr

end TokenPattern
