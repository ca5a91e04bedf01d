import TokenPattern.Proofs.Language

/-!
# Leaves in front and leaves behind

In a concatenation of two nullable operands a boundary between rounds is lost, the one between a word
of the first operand and a word of the second.  What stands in front of the boundary is the leftmost
pattern that is no such concatenation, the tip (`Expr.tip`).  `Expr.Painted` says which properties the
leaves of the tip and those behind it have, and `Expr.paint` puts two given leaves at these places and
keeps the shape of the pattern.
-/

namespace TokenPattern

open scoped Computability

universe u v

namespace Expr

variable {α : Type u}

/-- The leftmost pattern that is no concatenation of two nullable operands, without the options,
repetitions and captures around it. -/
def tip : Expr α → Expr α
  | maybe x | star x | capture _ x => x.tip
  | concat l r => if l.nullable ∧ r.nullable then l.tip else concat l r
  | leaf m => leaf m
  | alt l r => alt l r

/-- A tip that is nullable is an alternative. -/
lemma exists_alt_of_nullable_tip {e : Expr α} (h : e.tip.nullable = true) :
    ∃ l r, e.tip = alt l r := by
  induction e with
  | leaf m => exact absurd h Bool.false_ne_true
  | concat l r ihl _ =>
      rw [tip] at h ⊢
      split_ifs at h ⊢ with hnull
      · exact ihl h
      · exact absurd (Bool.and_eq_true_iff.mp h) hnull
  | alt l r _ _ => exact ⟨l, r, rfl⟩
  | maybe x ih => exact ih h
  | star x ih => exact ih h
  | capture n x ih => exact ih h

/-- The leaves of the tip have property `A`, and those that stand to the right on the way to it have
property `B`. -/
def Painted (A B : α → Prop) : Expr α → Prop
  | leaf m => A m
  | maybe x | star x | capture _ x => x.Painted A B
  | concat l r =>
    if l.nullable ∧ r.nullable then l.Painted A B ∧ ∀ m ∈ r.leaves, B m
    else ∀ m ∈ l.leaves ++ r.leaves, A m
  | alt l r => ∀ m ∈ l.leaves ++ r.leaves, A m

/-- The leaves of the tip make a word of the pattern. -/
lemma exists_word_of_painted {A B : α → Prop} {e : Expr α} (h : e.Painted A B) :
    ∃ u ∈ e.words, u ≠ [] ∧ ∀ m ∈ u, A m := by
  have hall : ∀ e : Expr α, (∀ m ∈ e.leaves, A m) → ∃ u ∈ e.words, u ≠ [] ∧ ∀ m ∈ u, A m := by
    intro e he
    obtain ⟨u, hu, hne⟩ := e.exists_word
    exact ⟨u, hu, hne, fun m hm => he m (mem_leaves_of_mem_words hu hm)⟩
  induction e with
  | leaf m => exact ⟨[m], rfl, List.cons_ne_nil m [], fun l hl => List.mem_singleton.mp hl ▸ h⟩
  | concat l r ihl _ =>
      rw [Painted] at h
      split_ifs at h with hnull
      · obtain ⟨u, hu, hne, hA⟩ := ihl h.1
        refine ⟨u, ?_, hne, hA⟩
        have hnil := (r.nullable_iff_nil_mem_words).mp hnull.2
        simpa [words_concat] using Language.append_mem_mul hu hnil
      · exact hall _ h
  | alt l r _ _ => exact hall _ h
  | maybe x ih =>
      obtain ⟨u, hu, hne, hA⟩ := ih h
      exact ⟨u, Or.inr hu, hne, hA⟩
  | star x ih =>
      obtain ⟨u, hu, hne, hA⟩ := ih h
      exact ⟨u, le_kstar (a := x.words) hu, hne, hA⟩
  | capture n x ih =>
      rw [words_capture]
      exact ih h

/-- The pattern without the options, repetitions and captures around it. -/
def core : Expr α → Expr α
  | maybe x | star x | capture _ x => x.core
  | leaf m => leaf m
  | concat l r => concat l r
  | alt l r => alt l r

/-- If the core is nullable and the tip is not, then the leaves behind make a word as well. -/
lemma exists_word_behind {A B : α → Prop} {e : Expr α} (h : e.Painted A B)
    (hcore : e.core.nullable = true) (htip : e.tip.nullable = false) :
    ∃ u ∈ e.words, u ≠ [] ∧ ∀ m ∈ u, B m := by
  induction e with
  | leaf m => exact absurd hcore Bool.false_ne_true
  | concat l r _ _ =>
      have hnull : l.nullable = true ∧ r.nullable = true := by
        rwa [core, nullable, Bool.and_eq_true] at hcore
      rw [Painted, if_pos hnull] at h
      obtain ⟨u, hu, hne⟩ := r.exists_word
      have hnil := (l.nullable_iff_nil_mem_words).mp hnull.1
      exact ⟨u, Language.append_mem_mul hnil hu, hne, fun m hm => h.2 m (mem_leaves_of_mem_words hu hm)⟩
  | alt l r _ _ => exact absurd (htip.symm.trans hcore) Bool.false_ne_true
  | maybe x ih =>
      obtain ⟨u, hu, hne, hB⟩ := ih h hcore htip
      exact ⟨u, Or.inr hu, hne, hB⟩
  | star x ih =>
      obtain ⟨u, hu, hne, hB⟩ := ih h hcore htip
      exact ⟨u, le_kstar (a := x.words) hu, hne, hB⟩
  | capture n x ih =>
      rw [words_capture]
      exact ih h hcore htip

/-! ## Shapes -/

/-- The operators of a pattern, without what its leaves hold. -/
def shape (e : Expr α) : Expr Unit := e.map fun _ => ()

lemma shape_map {β : Type v} (f : α → β) (e : Expr α) : (e.map f).shape = e.shape := by
  have hmap : ∀ e : Expr α, (e.map f).map (fun _ => ()) = e.map fun _ => () := by
    intro e
    induction e with
    | leaf m => rfl
    | concat l r ihl ihr => rw [map, map, map, ihl, ihr]
    | alt l r ihl ihr => rw [map, map, map, ihl, ihr]
    | maybe x ih => rw [map, map, map, ih]
    | star x ih => rw [map, map, map, ih]
    | capture n x ih => rw [map, map, map, ih]
  exact hmap e

lemma nullable_shape (e : Expr α) : e.shape.nullable = e.nullable := nullable_map _ e

lemma core_shape (e : Expr α) : e.shape.core = e.core.shape := by
  induction e with
  | leaf m => rfl
  | concat l r _ _ => rfl
  | alt l r _ _ => rfl
  | maybe x ih => exact ih
  | star x ih => exact ih
  | capture n x ih => exact ih

/-- Whether a core is nullable is a matter of shape. -/
lemma nullable_core_of_shape_eq {β : Type v} {e : Expr α} {f : Expr β} (h : e.shape = f.shape) :
    e.core.nullable = f.core.nullable := by
  rw [← nullable_shape, ← core_shape, h, core_shape, nullable_shape]

/-! ## Painting -/

/-- The pattern with one leaf in front of the boundary and another one behind it. -/
def paint {β : Type v} (front behind : β) : Expr α → Expr β
  | leaf _ => leaf front
  | concat l r =>
    if l.nullable ∧ r.nullable then concat (l.paint front behind) (r.map fun _ => behind)
    else concat (l.map fun _ => front) (r.map fun _ => front)
  | alt l r => alt (l.map fun _ => front) (r.map fun _ => front)
  | maybe x => maybe (x.paint front behind)
  | star x => star (x.paint front behind)
  | capture n x => capture n (x.paint front behind)

lemma eq_of_mem_leaves_map_const {β : Type v} {c m : β} {e : Expr α}
    (h : m ∈ (e.map fun _ => c).leaves) : m = c := by
  induction e with
  | leaf l => exact List.mem_singleton.mp h
  | concat l r ihl ihr => exact (List.mem_append.mp h).elim ihl ihr
  | alt l r ihl ihr => exact (List.mem_append.mp h).elim ihl ihr
  | maybe x ih => exact ih h
  | star x ih => exact ih h
  | capture n x ih => exact ih h

section

variable {β : Type v} {front behind : β}

lemma shape_paint (e : Expr α) : (e.paint front behind).shape = e.shape := by
  induction e with
  | leaf m => rfl
  | concat l r ihl _ =>
      rw [paint]
      split_ifs
      · show concat (l.paint front behind).shape (r.map _).shape = concat l.shape r.shape
        rw [ihl, shape_map]
      · show concat (l.map _).shape (r.map _).shape = concat l.shape r.shape
        rw [shape_map, shape_map]
  | alt l r _ _ =>
      show alt (l.map _).shape (r.map _).shape = alt l.shape r.shape
      rw [shape_map, shape_map]
  | maybe x ih => exact congrArg maybe ih
  | star x ih => exact congrArg star ih
  | capture n x ih => exact congrArg (capture n) ih

lemma nullable_paint (e : Expr α) : (e.paint front behind).nullable = e.nullable := by
  rw [← nullable_shape, shape_paint, nullable_shape]

lemma painted_paint {A B : β → Prop} (hA : A front) (hB : B behind) (e : Expr α) :
    (e.paint front behind).Painted A B := by
  induction e with
  | leaf m => exact hA
  | concat l r ihl _ =>
      rw [paint]
      split_ifs with hnull
      · rw [Painted, if_pos (by rwa [nullable_paint, nullable_map])]
        exact ⟨ihl, fun m hm => eq_of_mem_leaves_map_const hm ▸ hB⟩
      · rw [Painted, if_neg (by rwa [nullable_map, nullable_map])]
        intro m hm
        rcases List.mem_append.mp hm with hm | hm
        · exact eq_of_mem_leaves_map_const hm ▸ hA
        · exact eq_of_mem_leaves_map_const hm ▸ hA
  | alt l r _ _ =>
      intro m hm
      rcases List.mem_append.mp hm with hm | hm
      · exact eq_of_mem_leaves_map_const hm ▸ hA
      · exact eq_of_mem_leaves_map_const hm ▸ hA
  | maybe x ih => exact ih
  | star x ih => exact ih
  | capture n x ih => exact ih

end

end Expr

end TokenPattern
