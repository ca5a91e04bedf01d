import Mathlib.Data.List.Sublists
import Mathlib.Tactic.Ring
import TokenPattern.Proofs.Position.Size
import TokenPattern.Proofs.Program.Copies
import TokenPattern.Proofs.Program.Ungrouped

/-!
# How ambiguous a bounded repetition is

A bounded repetition of a leaf has optional copies, and an input that is shorter than it could be leaves
some of them out.  It matches once for every choice of the copies that read.

* The words of the numbered pattern are the mandatory copies, followed by any of the optional ones
  (`Expr.Copies.mem_words_numbered_iff`).
* A pattern without captures matches once for each of its numbered words of the right length, if every
  leaf has a single output (`length_acceptingTrails_of_words`).
* The graph links the copies with all later ones up to the next mandatory copy, and its edges are
  counted one copy after the other (`Expr.Copies.two_mul_length_joints`).

`choices_between` puts these together.
-/

namespace TokenPattern

universe u v

/-! ## The words of numbered copies -/

namespace Expr

variable {α : Type u} {β : Type v}

/-- A renaming of leaves renames the letters of words. -/
lemma words_map (f : α → β) (e : Expr α) : (e.map f).words = Language.map f e.words := by
  induction e with
  | leaf m => exact (Set.image_singleton : List.map f '' {[m]} = {[f m]}).symm
  | concat l r ihl ihr => rw [map, words_concat, ihl, ihr, words_concat, map_mul]
  | alt l r ihl ihr => rw [map, words_alt, ihl, ihr, words_alt, map_add]
  | maybe x ih => rw [map, words_maybe, ih, words_maybe, map_add, map_one]
  | star x ih => rw [map, words_star, ih, words_star, Language.map_kstar]
  | capture n x ih => rw [map, words_capture, ih, words_capture]

namespace Copies

variable {a : α} {e : Expr α} {lo hi : ℕ}

lemma leafCount_eq_of_leaf (h : Copies (leaf a) lo hi e) : e.leafCount = hi := by
  rw [h.leafCount_eq]
  exact Nat.mul_one hi

/-- All copies are of one leaf. -/
lemma eq_of_mem_leaves {b : α} (h : Copies (leaf a) lo hi e) (hb : b ∈ e.leaves) : b = a := by
  induction h with
  | one | option => exact List.mem_singleton.1 hb
  | mandatory _ ih | optional _ ih =>
      rcases List.mem_append.1 hb with hb | hb
      · exact ih hb
      · exact List.mem_singleton.1 hb

lemma captureFree (h : Copies (leaf a) lo hi e) : e.captureFree = true := by
  induction h with
  | one | option => rfl
  | mandatory _ ih | optional _ ih => exact (Bool.and_true _).trans ih

lemma strict (h : Copies (leaf a) lo hi e) : e.strict = true := by
  induction h with
  | one | option => rfl
  | mandatory _ ih | optional _ ih => exact (Bool.and_true _).trans ih

lemma nullable_eq (h : Copies (leaf a) lo hi e) : e.nullable = decide (lo = 0) := by
  induction h with
  | one | option => rfl
  | mandatory _ _ => exact Bool.and_false _
  | optional _ ih => exact (Bool.and_true _).trans ih

/-- **Mandatory copies, then some of the others.** -/
lemma mem_words_numbered_iff (h : Copies (leaf a) lo hi e) {v : List ℕ} :
    v ∈ e.numbered.words ↔ ∃ s, s.Sublist (List.range' lo (hi - lo)) ∧ v = List.range lo ++ s := by
  induction h generalizing v with
  | one =>
      have hword : v ∈ (leaf a).numbered.words ↔ v = [0] := Iff.rfl
      simp [hword]
  | option =>
      have hword : v ∈ (maybe (leaf a)).numbered.words ↔ v = [] ∨ v = [0] := Iff.rfl
      simp only [hword, List.range_zero, List.nil_append, exists_eq_right']
      exact List.sublist_singleton.symm
  | @mandatory n e h ih =>
      have hwords : (concat e (leaf a)).numbered.words = e.numbered.words * {[n]} := by
        rw [← h.leafCount_eq_of_leaf, ← Nat.zero_add e.leafCount]
        rfl
      rw [hwords, Language.mem_mul]
      simp only [ih, Nat.sub_self, List.range'_zero, List.sublist_nil, exists_eq_left,
        List.append_nil, List.range_succ]
      constructor
      · rintro ⟨_, rfl, rfl⟩
        rfl
      · rintro rfl
        exact ⟨_, rfl, rfl⟩
  | @optional lo hi e h ih =>
      have hwords : (concat e (maybe (leaf a))).numbered.words = e.numbered.words * (1 + {[hi]}) := by
        rw [← h.leafCount_eq_of_leaf, ← Nat.zero_add e.leafCount]
        rfl
      have hrange : List.range' lo (hi + 1 - lo) = List.range' lo (hi - lo) ++ [hi] := by
        rw [Nat.succ_sub h.le, List.range'_concat, Nat.one_mul, Nat.add_sub_cancel' h.le]
      rw [hwords, Language.mem_mul, hrange]
      simp only [ih, List.sublist_append_iff]
      constructor
      · rintro ⟨_, ⟨s, hs, rfl⟩, t, ht, rfl⟩
        refine ⟨s ++ t, ⟨s, t, rfl, hs, List.sublist_singleton.2 ht⟩, List.append_assoc ..⟩
      · rintro ⟨_, ⟨s, t, rfl, hs, ht⟩, rfl⟩
        exact ⟨_, ⟨s, hs, rfl⟩, t, List.sublist_singleton.1 ht, List.append_assoc ..⟩

/-! ## Edges of copies -/

lemma length_lasts (h : Copies (leaf a) lo hi e) : e.lasts.length = hi - (lo - 1) := by
  induction h with
  | one | option => rfl
  | @mandatory n e h ih =>
      rw [Nat.add_sub_cancel, Nat.add_sub_cancel_left]
      rfl
  | @optional lo hi e h ih =>
      have hlasts : (concat e (maybe (leaf a))).lasts.length = e.lasts.length + 1 := rfl
      have hle := h.le
      rw [hlasts, ih]
      omega

/-- **The size of a bounded repetition**, one copy after the other.  Twice the number keeps clear of
halves. -/
lemma two_mul_length_joints (h : Copies (leaf a) lo hi e) :
    2 * e.joints.length = 2 * lo + (hi - lo + 1) * (hi - lo + 2) := by
  induction h with
  | one | option => rfl
  | @mandatory n e h ih =>
      have hnull : e.nullable = false := by
        rw [h.nullable_eq, decide_eq_false h.pos.ne']
      have hlasts : e.lasts.length = 1 := by
        have hpos := h.pos
        rw [h.length_lasts]
        omega
      have hsize : (concat e (leaf a)).joints.length = e.joints.length + 1 := by
        rw [length_joints, length_joints]
        simp [firsts, lasts, follows, nullable, List.length_product, hnull, hlasts]
        omega
      rw [Nat.sub_self] at ih
      rw [hsize, Nat.sub_self]
      omega
  | @optional lo hi e h ih =>
      have hsize : (concat e (maybe (leaf a))).joints.length = e.joints.length + (hi - lo + 2) := by
        have hle := h.le
        rw [length_joints, length_joints]
        by_cases hlo : lo = 0 <;>
          simp [firsts, lasts, follows, nullable, List.length_product, h.nullable_eq,
            h.length_lasts, hlo] <;>
          omega
      rw [hsize, Nat.mul_add, ih, Nat.succ_sub h.le, Nat.succ_eq_add_one]
      ring

end Copies

end Expr

/-! ## A match for every word -/

section

variable {τ ο : Type}

/-- Along a word of leaves with single outputs there is nothing to pick. -/
lemma picks_of_single {w : List τ} {u : List (Matcher τ ο × ℕ)}
    (h : ∀ l ∈ u, ∀ t ∈ w, (l.1.outputs t).length = 1) :
    picks u w = if u.length = w.length then [u.map fun l => (l.2, 0)] else [] := by
  induction u generalizing w with
  | nil => cases w <;> rfl
  | cons l u ih =>
      cases w with
      | nil => rfl
      | cons t rest =>
          have hrest := ih (w := rest) fun l hl t ht =>
            h l (List.mem_cons_of_mem _ hl) t (List.mem_cons_of_mem _ ht)
          rw [picks, h l List.mem_cons_self t List.mem_cons_self, hrest, List.range_one,
            List.flatMap_singleton]
          simp only [List.length_cons, Nat.succ_inj]
          split_ifs <;> rfl

/-- **A match for every word.**  If there are no captures, and every leaf has a single output for every
token, there are as many accepting trails as numbered words of the length of the input. -/
theorem length_acceptingTrails_of_words {e : Expr (Matcher τ ο)} (h : e.captureFree = true)
    {w : List τ} (hw : ∀ m ∈ e.leaves, ∀ t ∈ w, (m.outputs t).length = 1) {L : List (List ℕ)}
    (hL : L.Nodup) (hmem : ∀ v, v ∈ L ↔ v ∈ e.numbered.words ∧ v.length = w.length) :
    (acceptingTrails (Graph.ofExpr e) w).length = L.length := by
  have hvisits : ∀ s, s ∈ (acceptingTrails (Graph.ofExpr e.tracked) w).map visitsOf ↔
      s ∈ L.map (List.map (·, 0)) := by
    intro s
    rw [mem_map_visitsOf_iff, List.mem_map]
    have hpicks : ∀ u ∈ e.indexed.words,
        picks u w = if u.length = w.length then [u.map fun l => (l.2, 0)] else [] := by
      refine fun u hu => picks_of_single fun l hl => hw l.1 ?_
      rw [← e.map_fst_indexed, Expr.leaves_map]
      exact List.mem_map_of_mem (Expr.mem_leaves_of_mem_words hu hl)
    simp only [hmem, Expr.numbered, Expr.words_map]
    constructor
    · rintro ⟨u, hu, hs⟩
      rw [hpicks u hu, List.mem_ite_nil_right, List.mem_singleton] at hs
      obtain ⟨hlen, rfl⟩ := hs
      exact ⟨u.map Prod.snd, ⟨⟨u, hu, rfl⟩, by rwa [List.length_map]⟩, List.map_map⟩
    · rintro ⟨_, ⟨⟨u, hu, rfl⟩, hlen⟩, rfl⟩
      rw [List.length_map] at hlen
      refine ⟨u, hu, ?_⟩
      rw [hpicks u hu, if_pos hlen, List.map_map]
      exact List.mem_singleton_self _
  have hinj : Function.Injective (List.map fun k : ℕ => (k, 0)) :=
    List.map_injective_iff.2 fun _ _ heq => (Prod.mk.inj heq).1
  have hperm := (List.perm_ext_iff_of_nodup (nodup_map_visitsOf e w h) (hL.map hinj)).2 hvisits
  rw [← length_acceptingTrails_tracked, ← List.length_map visitsOf, hperm.length_eq,
    List.length_map]

end

/-! ## Choices of copies -/

section

variable {τ ο : Type} {m : Matcher τ ο} {e : Expr (Matcher τ ο)} {lo hi : ℕ}

/-- The optional copies that read are chosen from all of them. -/
lemma Expr.Copies.length_acceptingTrails (h : Copies (leaf m) lo hi e) {w : List τ}
    (hw : ∀ t ∈ w, (m.outputs t).length = 1) :
    (acceptingTrails (Graph.ofExpr e) w).length =
      if lo ≤ w.length ∧ w.length ≤ hi then (hi - lo).choose (w.length - lo) else 0 := by
  have hsingle : ∀ l ∈ e.leaves, ∀ t ∈ w, (l.outputs t).length = 1 := by
    intro l hl
    rwa [h.eq_of_mem_leaves hl]
  split_ifs with hlen
  · let L := (List.sublistsLen (w.length - lo) (List.range' lo (hi - lo))).map (List.range lo ++ ·)
    have hL : L.Nodup :=
      (List.nodup_sublistsLen _ List.nodup_range').map (List.append_right_injective _)
    rw [length_acceptingTrails_of_words h.captureFree hsingle hL, List.length_map,
      List.length_sublistsLen, List.length_range']
    intro v
    rw [List.mem_map, h.mem_words_numbered_iff]
    constructor
    · rintro ⟨s, hs, rfl⟩
      obtain ⟨hsub, hcount⟩ := List.mem_sublistsLen.1 hs
      refine ⟨⟨s, hsub, rfl⟩, ?_⟩
      rw [List.length_append, List.length_range, hcount, Nat.add_sub_cancel' hlen.1]
    · rintro ⟨⟨s, hsub, rfl⟩, hcount⟩
      rw [List.length_append, List.length_range] at hcount
      exact ⟨s, List.mem_sublistsLen.2 ⟨hsub, Nat.eq_sub_of_add_eq' hcount⟩, rfl⟩
  · rw [length_acceptingTrails_of_words h.captureFree hsingle List.nodup_nil, List.length_nil]
    intro v
    refine iff_of_false List.not_mem_nil ?_
    rintro ⟨hv, hcount⟩
    obtain ⟨s, hsub, rfl⟩ := h.mem_words_numbered_iff.1 hv
    have hle := hsub.length_le
    have hcopies := h.le
    rw [List.length_range'] at hle
    rw [List.length_append, List.length_range] at hcount
    omega

/-- **Choices of copies.**  The graph of a bounded repetition of a leaf has a node for every copy besides
the sentinels, and an edge for every two places in order that have no mandatory copy between them.  Over
an input on which the leaf has single outputs it matches once for every choice of the optional copies
that read, which must be as many as the mandatory copies leave of the input. -/
theorem choices_between (m : Matcher τ ο) (h : lo ≤ hi) (hpos : 0 < hi) :
    ∃ e, (Expr.leaf m).between lo hi = .ok e ∧
      (Program.compile e).graph.nodeCount = hi + 2 ∧
      (Program.compile e).graph.edgeCount = lo + (hi - lo + 1) * (hi - lo + 2) / 2 ∧
      ∀ w, (∀ t ∈ w, (m.outputs t).length = 1) →
        ∃ ms, ((Program.compile e).withLimits Limits.unbounded).allMatches w = .ok ms ∧
          ms.length = if lo ≤ w.length ∧ w.length ≤ hi then (hi - lo).choose (w.length - lo)
            else 0 := by
  obtain ⟨e, he, hcopies⟩ := Expr.exists_between (.leaf m) h hpos
  refine ⟨e, he, ?_, ?_, fun w hw => ?_⟩
  · rw [Program.compile, Graph.nodeCount_ofExpr, hcopies.leafCount_eq_of_leaf, Nat.add_comm]
  · have hsize := hcopies.two_mul_length_joints
    rw [Program.compile, Graph.edgeCount_ofExpr hcopies.strict, ← Expr.length_joints]
    omega
  · obtain ⟨ms, hms, hall⟩ := exists_allMatches_of_paths e (paths_unbounded _ w)
    exact ⟨ms, hms, hall.length_eq.symm.trans (hcopies.length_acceptingTrails hw)⟩

/-- One to three letters: of two letters the second is read by either of the optional copies. -/
theorem choices_between_letters :
    1 ≤ 3 ∧ 0 < 3 ∧ ∃ e, (Expr.leaf (Matcher.exact 'a')).between 1 3 = .ok e ∧
      (Program.compile e).graph.nodeCount = 5 ∧ (Program.compile e).graph.edgeCount = 7 ∧
      ∃ ms, ((Program.compile e).withLimits Limits.unbounded).allMatches ['a', 'a'] = .ok ms ∧
        ms.length = 2 := by
  have hle : 1 ≤ 3 := by decide
  have hpos : 0 < 3 := by decide
  obtain ⟨e, he, hnodes, hedges, hmatches⟩ := choices_between (Matcher.exact 'a') hle hpos
  exact ⟨hle, hpos, e, he, hnodes, hedges, hmatches ['a', 'a'] (by simp [Matcher.exact])⟩

end

end TokenPattern
